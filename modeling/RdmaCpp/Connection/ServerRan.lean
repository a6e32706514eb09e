import RdmaCpp.Connection.ClientRan

/-!
# How the server accepts

`rdma_server_connect` in closed form, exit by exit (`Connection.ServerRan`). There is no loop
in it and it never stops: what it returns, the state it leaves and what it has done can be
written down for each of the calls that may fail.

What is written in the function once, after all of them, is the cleanup: so none of the other
exits has any of it (`Connection.ServerRan.failed`).
-/

namespace Connection

/-! ### From `ctx_init` on -/

/-- The receive that is posted before `rdma_accept`. -/
def receiveActs (o : ServerOutcomes) (user : PerftestParameters) : List Act :=
  if user.workRdmaCm = OFF then [.postOneRecvWqe o.postOneRecvWqe]
  else if user.connectionType = .ud ∧ user.Answers then [.postRecvToGetAh o.postRecvToGetAh]
  else []

/-- It is posted, if one is to be. -/
def ReceivesOk (o : ServerOutcomes) (user : PerftestParameters) : Prop :=
  (user.workRdmaCm = OFF → o.postOneRecvWqe = 0) ∧
    (user.workRdmaCm ≠ OFF → user.connectionType = .ud → user.Answers → o.postRecvToGetAh = 0)

/-- **The server takes the branch** in which it waits for the client's queue pair number. -/
def PerftestParameters.AwaitsAh (user : PerftestParameters) : Prop :=
  user.workRdmaCm ≠ 0 ∧ user.connectionType = .ud ∧ user.Answers

instance (user : PerftestParameters) : Decidable user.AwaitsAh :=
  inferInstanceAs (Decidable (_ ∧ _ ∧ _))

/-- The wait for the message of the client. -/
def awaitActs (o : ServerOutcomes) (user : PerftestParameters) : List Act :=
  if user.AwaitsAh then [.createAhFromWcRecv user o.createAhFromWcRecv] else []

/-- The state after it. -/
def Conn.awaited (o : ServerOutcomes) (s : Conn) : Conn :=
  if s.param.AwaitsAh then { s with ctx := { s.ctx with ah := o.ah } } else s

/-- The parameters of the connection that is accepted. -/
def acceptParam (o : ServerOutcomes) (user : PerftestParameters) : ConnParam :=
  { connParamOf user with qpNum := if user.connectionType = .ud then o.qpNum else 0 }

/-- The calls up to `rdma_accept`. -/
def acceptActs (o : ServerOutcomes) (s : Conn) : List Act :=
  .ctxInit s.param.on o.ctxInit :: (receiveActs o s.param ++
    [.rdmaAccept s.ctx.cmId (acceptParam o s.param) o.rdmaAccept])

variable {o : ServerOutcomes} {s s' : Conn} {res : AddrInfo} {event : CmEvent}

theorem run_postReceives (o : ServerOutcomes) (s : Conn) :
    (ReceivesOk o s.param ∧ postReceives o s = ⟨.ok none, s, receiveActs o s.param⟩) ∨
    (¬ReceivesOk o s.param ∧ postReceives o s = ⟨.ok (some 1), s, receiveActs o s.param⟩) := by
  have hrun : postReceives o s = ⟨.ok (if s.param.workRdmaCm = OFF then
      if o.postOneRecvWqe ≠ 0 then some 1 else none
      else if s.param.connectionType = .ud ∧ s.param.Answers then
        if o.postRecvToGetAh ≠ 0 then some 1 else none
      else none), s, receiveActs o s.param⟩ := by
    rw [postReceives, Traced.run_bind_ok (run_userParam (s := s)), receiveActs]
    by_cases hoff : s.param.workRdmaCm = OFF
    · simp only [if_pos hoff]
      split_ifs <;> rfl
    · simp only [if_neg hoff]
      by_cases hud : s.param.connectionType = .ud
      · by_cases hanswers : s.param.Answers
        · simp only [if_pos hud, if_pos hanswers, if_pos (And.intro hud hanswers)]
          split_ifs <;> rfl
        · simp only [if_pos hud, if_neg hanswers, if_neg fun hc : _ ∧ _ => hanswers hc.2]
          rfl
      · simp only [if_neg hud, if_neg fun hc : _ ∧ _ => hud hc.1]
        rfl
  rw [hrun, ReceivesOk]
  split_ifs with hoff hfail hud hfail
  · exact Or.inr ⟨fun hc => hfail (hc.1 hoff), rfl⟩
  · exact Or.inl ⟨⟨fun _ => not_not.mp hfail, fun hc => absurd hoff hc⟩, rfl⟩
  · exact Or.inr ⟨fun hc => hfail (hc.2 hoff hud.1 hud.2), rfl⟩
  · exact Or.inl ⟨⟨fun hc => absurd hc hoff, fun _ _ _ => not_not.mp hfail⟩, rfl⟩
  · exact Or.inl ⟨⟨fun hc => absurd hc hoff, fun _ h h' => absurd ⟨h, h'⟩ hud⟩, rfl⟩

theorem run_receiveAh (o : ServerOutcomes) (s : Conn) :
    ((s.param.AwaitsAh → o.createAhFromWcRecv = 0) ∧
      receiveAh o s = ⟨.ok none, s.awaited o, awaitActs o s.param⟩) ∨
    ((s.param.AwaitsAh ∧ o.createAhFromWcRecv ≠ 0) ∧
      receiveAh o s = ⟨.ok (some 1), s.awaited o, awaitActs o s.param⟩) := by
  have hrun : receiveAh o s = ⟨.ok (if s.param.AwaitsAh then
      if o.createAhFromWcRecv ≠ 0 then some 1 else none else none), s.awaited o,
        awaitActs o s.param⟩ := by
    rw [receiveAh, Traced.run_bind_ok (run_userParam (s := s)), awaitActs, Conn.awaited]
    by_cases hud : s.param.workRdmaCm ≠ 0 ∧ s.param.connectionType = .ud
    · by_cases hanswers : s.param.Answers
      · have hawaits : s.param.AwaitsAh := ⟨hud.1, hud.2, hanswers⟩
        simp only [if_pos hud, if_pos hanswers, if_pos hawaits]
        by_cases hfail : o.createAhFromWcRecv ≠ 0
        · simp only [if_pos hfail]
          rfl
        · simp only [if_neg hfail]
          rfl
      · have hno : ¬s.param.AwaitsAh := fun hc => hanswers hc.2.2
        simp only [if_pos hud, if_neg hanswers, if_neg hno]
        rfl
    · have hno : ¬s.param.AwaitsAh := fun hc => hud ⟨hc.1, hc.2.1⟩
      simp only [if_neg hud, if_neg hno]
      rfl
  rw [hrun]
  split_ifs with hawaits hfail
  · exact Or.inr ⟨⟨hawaits, hfail⟩, rfl⟩
  · exact Or.inl ⟨fun _ => not_not.mp hfail, rfl⟩
  · exact Or.inl ⟨fun hc => absurd hc hawaits, rfl⟩

/-- **How the server accepts**, from `ctx_init` on. -/
inductive AcceptRan (o : ServerOutcomes) (res : AddrInfo) (event : CmEvent) (s : Conn) :
    ℤ → Conn → List Act → Prop
  /-- The early return that leaves `work_rdma_cm` as it is for `ctx_init`. -/
  | noInit (hfail : o.ctxInit ≠ 0) :
      AcceptRan o res event s FAILURE ⟨s.param.on, s.ctx.initialised o.pd o.qpNum⟩
        [.ctxInit s.param.on o.ctxInit]
  | noReceive (hinit : o.ctxInit = 0) (hfail : ¬ReceivesOk o s.param) :
      AcceptRan o res event s 1 (s.resumed o.pd o.qpNum)
        (.ctxInit s.param.on o.ctxInit :: receiveActs o s.param)
  | noAccept (hinit : o.ctxInit = 0) (hrecv : ReceivesOk o s.param) (hfail : o.rdmaAccept ≠ 0) :
      AcceptRan o res event s 1 (s.resumed o.pd o.qpNum) (acceptActs o s)
  | noAh (hinit : o.ctxInit = 0) (hrecv : ReceivesOk o s.param) (hok : o.rdmaAccept = 0)
      (hawaits : s.param.AwaitsAh) (hfail : o.createAhFromWcRecv ≠ 0) :
      AcceptRan o res event s 1 ((s.resumed o.pd o.qpNum).awaited o)
        (acceptActs o s ++ awaitActs o s.param)
  | done (hinit : o.ctxInit = 0) (hrecv : ReceivesOk o s.param) (hok : o.rdmaAccept = 0)
      (hah : s.param.AwaitsAh → o.createAhFromWcRecv = 0) :
      AcceptRan o res event s 0 ((s.resumed o.pd o.qpNum).awaited o)
        (acceptActs o s ++ (awaitActs o s.param ++
          [.rdmaAckCmEvent event, .rdmaDestroyId s.ctx.cmIdControl, .freeaddrinfo res.ptr]))

theorem awaited_cmIdControl (o : ServerOutcomes) (s : Conn) :
    (s.awaited o).ctx.cmIdControl = s.ctx.cmIdControl := by
  rw [Conn.awaited]
  split_ifs <;> rfl

/-- **The server from `ctx_init` on.** -/
theorem post_accept (o : ServerOutcomes) (res : AddrInfo) (event : CmEvent) (s : Conn) :
    Traced.Post (accept o res event) s (AcceptRan o res event s) (fun _ _ _ => False) := by
  rw [accept]
  simp only [Traced.post_bind, post_userParam, Traced.post_of_run (run_initialise _ _ _ _),
    List.nil_append]
  by_cases hinit : o.ctxInit = 0
  swap
  · rw [if_pos hinit]
    exact AcceptRan.noInit hinit
  rw [if_neg fun hc => hc hinit]
  simp only [Traced.post_bind, post_userParam, post_context, post_setParam, List.nil_append]
  -- `work_rdma_cm` has its value back
  change Traced.Post (postReceives o) (s.resumed o.pd o.qpNum) _ _
  rcases run_postReceives o (s.resumed o.pd o.qpNum) with ⟨hrecv, hrun⟩ | ⟨hrecv, hrun⟩
  swap
  · rw [Traced.post_of_run hrun, Traced.post_pure, List.append_nil]
    exact AcceptRan.noReceive hinit hrecv
  rw [Traced.post_of_run hrun]
  simp only [Traced.post_bind, post_userParam, post_context, Traced.post_emit, List.nil_append]
  -- the calls so far, with whatever comes next
  have hacts : ∀ t, Act.ctxInit s.param.on o.ctxInit :: (receiveActs o s.param ++
      (Act.rdmaAccept s.ctx.cmId (acceptParam o s.param) o.rdmaAccept :: t)) =
        acceptActs o s ++ t := by
    intro t
    rw [acceptActs, List.cons_append, List.append_assoc]
    rfl
  by_cases hok : o.rdmaAccept = 0
  swap
  · rw [if_pos hok, Traced.post_pure]
    exact AcceptRan.noAccept hinit hrecv hok
  rw [if_neg fun hc => hc hok, Traced.post_bind]
  rcases run_receiveAh o (s.resumed o.pd o.qpNum) with ⟨hah, hrun⟩ | ⟨⟨hawaits, hah⟩, hrun⟩
  swap
  · rw [Traced.post_of_run hrun, Traced.post_pure, List.append_nil]
    have hran : AcceptRan o res event s 1 _ _ := AcceptRan.noAh hinit hrecv hok hawaits hah
    rw [← hacts] at hran
    exact hran
  rw [Traced.post_of_run hrun]
  simp only [Traced.post_bind, post_context, Traced.post_emit, Traced.post_pure, List.nil_append,
    awaited_cmIdControl]
  have hran : AcceptRan o res event s 0 _ _ := AcceptRan.done hinit hrecv hok hah
  rw [← hacts] at hran
  exact hran

/-! ### The whole function -/

/-- The address to listen on. -/
def listenAddr (res : AddrInfo) (user : PerftestParameters) : SockAddr :=
  ⟨res.aiAddr, toUInt16 user.port⟩

/-- The look-up of the server. -/
def lookUpActs (o : ServerOutcomes) (user : PerftestParameters) : List Act :=
  [.checkAddPort user.port user.servername true o.checkAddPort]

/-- The calls up to `rdma_bind_addr`. -/
def bindActs (o : ServerOutcomes) (res : AddrInfo) (s : Conn) : List Act :=
  lookUpActs o s.param ++ [.rdmaBindAddr s.ctx.cmIdControl (listenAddr res s.param) o.rdmaBindAddr]

/-- The calls up to `rdma_listen`. -/
def listenActs (o : ServerOutcomes) (res : AddrInfo) (s : Conn) : List Act :=
  bindActs o res s ++ [.rdmaListen s.ctx.cmIdControl 0 o.rdmaListen]

/-- The arrays of a context that belongs to a connection of its own. -/
def allocActs (user : PerftestParameters) : List Act :=
  if user.workRdmaCm = ON then [.allocCtx user] else []

/-- The state in which a request is accepted. -/
def Conn.requested (o : ServerOutcomes) (event : CmEvent) (s : Conn) : Conn :=
  { s with ctx := { s.ctx with
      cmId := event.id
      context := o.verbs
      ah := if s.param.workRdmaCm = ON then o.allocCtx else s.ctx.ah } }

/-- **How the server accepts.** -/
inductive ServerRan (o : ServerOutcomes) (s : Conn) : ℤ → Conn → List Act → Prop
  | noAddress (h : ¬Found o.checkAddPort) : ServerRan o s FAILURE s (lookUpActs o s.param)
  | noBind {res : AddrInfo} (hres : o.checkAddPort = some res) (hfamily : res.aiFamily = pfInet)
      (hfail : o.rdmaBindAddr ≠ 0) : ServerRan o s 1 s (bindActs o res s)
  | noListen {res : AddrInfo} (hres : o.checkAddPort = some res) (hfamily : res.aiFamily = pfInet)
      (hbind : o.rdmaBindAddr = 0) (hfail : o.rdmaListen ≠ 0) :
      ServerRan o s 1 s (listenActs o res s)
  | noEvent {res : AddrInfo} (hres : o.checkAddPort = some res) (hfamily : res.aiFamily = pfInet)
      (hbind : o.rdmaBindAddr = 0) (hlisten : o.rdmaListen = 0) (hgot : o.rdmaGetCmEvent = none) :
      ServerRan o s 1 s (listenActs o res s ++ [.rdmaGetCmEvent s.ctx.cmChannel none])
  | badEvent {res : AddrInfo} {event : CmEvent} (hres : o.checkAddPort = some res)
      (hfamily : res.aiFamily = pfInet) (hbind : o.rdmaBindAddr = 0) (hlisten : o.rdmaListen = 0)
      (hgot : o.rdmaGetCmEvent = some event) (hkind : event.event ≠ .connectRequest) :
      ServerRan o s 1 s (listenActs o res s ++ .rdmaGetCmEvent s.ctx.cmChannel (some event) ::
        [.readEvent event, .readEvent event])
  | ran {res : AddrInfo} {event : CmEvent} {ret : ℤ} {s' : Conn} {t : List Act}
      (hres : o.checkAddPort = some res) (hfamily : res.aiFamily = pfInet)
      (hbind : o.rdmaBindAddr = 0) (hlisten : o.rdmaListen = 0)
      (hgot : o.rdmaGetCmEvent = some event) (hkind : event.event = .connectRequest)
      (hran : AcceptRan o res event (s.requested o event) ret s' t) :
      ServerRan o s ret s' (listenActs o res s ++ .rdmaGetCmEvent s.ctx.cmChannel (some event) ::
        .readEvent event :: .readEvent event :: (allocActs s.param ++ t))

/-- **`rdma_server_connect`.** -/
theorem post_rdmaServerConnect (o : ServerOutcomes) (s : Conn) :
    Traced.Post (rdmaServerConnect o) s (ServerRan o s) (fun _ _ _ => False) := by
  rw [rdmaServerConnect, Traced.post_bind]
  rcases run_lookUp true o.checkAddPort s with ⟨hno, hrun⟩ | ⟨res, hres, hfamily, hrun⟩
  · rw [Traced.post_of_run hrun, Traced.post_pure]
    exact ServerRan.noAddress hno
  rw [Traced.post_of_run hrun]
  simp only [Traced.post_bind, post_context, Traced.post_emit, List.nil_append]
  by_cases hbind : o.rdmaBindAddr = 0
  swap
  · rw [if_pos hbind]
    exact ServerRan.noBind hres hfamily hbind
  rw [if_neg fun hc => hc hbind]
  simp only [Traced.post_bind, post_context, Traced.post_emit, List.nil_append]
  by_cases hlisten : o.rdmaListen = 0
  swap
  · rw [if_pos hlisten]
    exact ServerRan.noListen hres hfamily hbind hlisten
  rw [if_neg fun hc => hc hlisten]
  simp only [Traced.post_bind, rdmaGetCmEvent, post_context, Traced.post_emit, Traced.post_pure,
    List.nil_append, List.append_nil]
  rcases hgot : o.rdmaGetCmEvent with _ | event
  · exact ServerRan.noEvent hres hfamily hbind hlisten hgot
  simp only [Traced.post_bind, Traced.post_emit]
  by_cases hkind : event.event = .connectRequest
  swap
  · rw [if_pos hkind]
    exact ServerRan.badEvent hres hfamily hbind hlisten hgot hkind
  rw [if_neg fun hc => hc hkind]
  simp only [Traced.post_bind, Traced.post_emit, post_setCtx, post_userParam, List.nil_append]
  -- the two ways to the acceptance differ in the arrays only
  have hran : ∀ s₁ acts, s₁ = s.requested o event → acts = allocActs s.param →
      Traced.Post (accept o res event) s₁ (fun ret s' t => ServerRan o s ret s'
        (listenActs o res s ++ .rdmaGetCmEvent s.ctx.cmChannel (some event) ::
          .readEvent event :: .readEvent event :: (acts ++ t))) (fun _ _ _ => False) := by
    rintro s₁ acts rfl rfl
    exact (post_accept o res event _).mono
      (fun ret s' t hran => ServerRan.ran hres hfamily hbind hlisten hgot hkind hran)
      fun _ _ _ h => h
  by_cases hon : s.param.workRdmaCm = ON
  · rw [if_pos hon]
    simp only [Traced.post_bind, Traced.post_emit, post_setCtx, post_userParam, List.nil_append]
    refine hran _ [.allocCtx s.param] ?_ ?_
    · rw [Conn.requested, if_pos hon]
    · rw [allocActs, if_pos hon]
  · rw [if_neg hon]
    refine hran _ [] ?_ ?_
    · rw [Conn.requested, if_neg hon]
    · rw [allocActs, if_neg hon]

end Connection
