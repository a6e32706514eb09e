import RdmaCpp.Connection.Resolved

/-!
# How the client connects

`rdma_client_connect` in closed form: with what it returns, which state it leaves, and what
it has done, for each of its exits (`Connection.ClientRan`). The resolution is one of the
pieces; after it the function makes its calls once, so the exits can be written down.

The exits between the assignment `work_rdma_cm = ON` and the one that takes it back are the
ones to look at: there is just one, the failure of `ctx_init`.
-/

namespace Connection

/-- The parameters for the time of `ctx_init`. -/
def PerftestParameters.on (user : PerftestParameters) : PerftestParameters :=
  { user with workRdmaCm := ON }

/-- The context after `ctx_init`. -/
def PingpongContext.initialised (c : PingpongContext) (pd : Ptr) (qpNum : ℕ) : PingpongContext :=
  { c with pd := pd, qpNum := qpNum }

/-- For the time of `ctx_init` the parameters are not the caller's. -/
theorem run_initialise (ret : ℤ) (pd : Ptr) (qpNum : ℕ) (s : Conn) :
    initialise ret pd qpNum s =
      ⟨.ok ret, ⟨s.param.on, s.ctx.initialised pd qpNum⟩, [.ctxInit s.param.on ret]⟩ := rfl

/-- The receive posted before `rdma_connect`. -/
def recvActs (o : ClientOutcomes) (user : PerftestParameters) : List Act :=
  if user.workRdmaCm = OFF then [.postOneRecvWqe o.postOneRecvWqe] else []

/-- The calls up to `rdma_connect`. -/
def connectActs (o : ClientOutcomes) (s : Conn) : List Act :=
  recvActs o s.param ++ [.rdmaConnect s.ctx.cmId (connParamOf s.param) o.rdmaConnect]

/-- That receive is posted, if it is to be. -/
def RecvOk (o : ClientOutcomes) (user : PerftestParameters) : Prop :=
  user.workRdmaCm = OFF → o.postOneRecvWqe = 0

/-- The actions on the event of an established connection over datagrams, up to the creation
of the address handle. -/
def ahActs (o : ClientOutcomes) (event : CmEvent) (pd : Ptr) : List Act :=
  [.readEvent event, .readEvent event, .readEvent event, .readEvent event,
    .ibvCreateAh pd event.ud.ahAttr o.ibvCreateAh]

/-- The parameters with the number and the key of the peer. -/
def PerftestParameters.remembers (user : PerftestParameters) (ud : UdParam) :
    PerftestParameters :=
  { user with remUdQpn := ud.qpNum, remUdQkey := ud.qkey }

/-- The context with the address handle of the peer. -/
def PingpongContext.withAh (c : PingpongContext) (ah : Ptr) : PingpongContext :=
  { c with ah := c.ah.map fun a => a.store 0 ah }

/-- **How the client connects** after `ctx_init`, with `k` events obtained. -/
inductive ConnectRan (o : ClientOutcomes) (k : ℕ) (s : Conn) : ℤ → Conn → List Act → Prop
  | noRecv (hoff : s.param.workRdmaCm = OFF) (hfail : o.postOneRecvWqe ≠ 0) :
      ConnectRan o k s 1 s (recvActs o s.param)
  | noConnect (hrecv : RecvOk o s.param) (hfail : o.rdmaConnect ≠ 0) :
      ConnectRan o k s FAILURE s (connectActs o s)
  | noEvent (hrecv : RecvOk o s.param) (hok : o.rdmaConnect = 0)
      (hgot : o.rdmaGetCmEvent k = none) :
      ConnectRan o k s FAILURE s (connectActs o s ++ [.rdmaGetCmEvent s.ctx.cmChannel none])
  | unexpected {event : CmEvent} (hrecv : RecvOk o s.param) (hok : o.rdmaConnect = 0)
      (hgot : o.rdmaGetCmEvent k = some event) (hkind : event.event ≠ .established) :
      ConnectRan o k s FAILURE s (connectActs o s ++
        .rdmaGetCmEvent s.ctx.cmChannel (some event) ::
          [.readEvent event, .readEvent event, .rdmaAckCmEvent event])
  | done {event : CmEvent} (hrecv : RecvOk o s.param) (hok : o.rdmaConnect = 0)
      (hgot : o.rdmaGetCmEvent k = some event) (hkind : event.event = .established)
      (hud : s.param.connectionType ≠ .ud) :
      ConnectRan o k s SUCCESS s (connectActs o s ++
        .rdmaGetCmEvent s.ctx.cmChannel (some event) ::
          [.readEvent event, .rdmaAckCmEvent event])
  | doneUd {event : CmEvent} (hrecv : RecvOk o s.param) (hok : o.rdmaConnect = 0)
      (hgot : o.rdmaGetCmEvent k = some event) (hkind : event.event = .established)
      (hud : s.param.connectionType = .ud) (hroom : 0 < room s.ctx.ah) :
      ConnectRan o k s SUCCESS
        ⟨s.param.remembers event.ud, s.ctx.withAh o.ibvCreateAh⟩
        (connectActs o s ++ .rdmaGetCmEvent s.ctx.cmChannel (some event) ::
          (ahActs o event s.ctx.pd ++ [.rdmaAckCmEvent event]))

/-- **Where it stops**: there is no array to store the address handle in. -/
inductive ConnectStuck (o : ClientOutcomes) (k : ℕ) (s : Conn) : Stop → Conn → List Act → Prop
  | mk {event : CmEvent} {e : Stop} (hrecv : RecvOk o s.param) (hok : o.rdmaConnect = 0)
      (hgot : o.rdmaGetCmEvent k = some event) (hkind : event.event = .established)
      (hud : s.param.connectionType = .ud) (hroom : ¬0 < room s.ctx.ah) (he : e ≠ .outOfTurns) :
      ConnectStuck o k s e ⟨s.param.remembers event.ud, s.ctx⟩
        (connectActs o s ++ .rdmaGetCmEvent s.ctx.cmChannel (some event) ::
          ahActs o event s.ctx.pd)

variable {o : ClientOutcomes} {k numOfRetries turns : ℕ} {s : Conn}

/-- Storing the address handle. -/
theorem run_storeAh (ah : Ptr) (s : Conn) :
    (0 < room s.ctx.ah ∧ storeAh ah s = ⟨.ok (), { s with ctx := s.ctx.withAh ah }, []⟩) ∨
    (¬0 < room s.ctx.ah ∧ ∃ e, e ≠ .outOfTurns ∧ storeAh ah s = ⟨.error e, s, []⟩) := by
  rw [storeAh, Traced.run_bind_ok (run_context (s := s))]
  rcases hah : s.ctx.ah with _ | a
  · exact Or.inr ⟨Nat.lt_irrefl 0, .nullDeref, by decide, rfl⟩
  · dsimp only
    by_cases hroom : 0 < a.cells.length
    · rw [if_pos hroom, PingpongContext.withAh, hah]
      exact Or.inl ⟨hroom, rfl⟩
    · rw [if_neg hroom]
      exact Or.inr ⟨hroom, .wildDeref, by decide, rfl⟩

/-- The array stays where there is one. -/
theorem withAh_ah_isNone (ah : Ptr) (h : 0 < room s.ctx.ah) :
    (s.ctx.withAh ah).ah.isNone = false := by
  rcases hah : s.ctx.ah with _ | a
  · rw [hah] at h
    exact absurd h (Nat.lt_irrefl 0)
  · rw [PingpongContext.withAh, hah]
    rfl

theorem run_postReceive (o : ClientOutcomes) (s : Conn) :
    (RecvOk o s.param ∧ postReceive o s = ⟨.ok none, s, recvActs o s.param⟩) ∨
    (¬RecvOk o s.param ∧ postReceive o s = ⟨.ok (some 1), s, recvActs o s.param⟩) := by
  have hrun : postReceive o s = ⟨.ok (if s.param.workRdmaCm = OFF then
      if o.postOneRecvWqe ≠ 0 then some 1 else none else none), s, recvActs o s.param⟩ := by
    rw [postReceive, Traced.run_bind_ok (run_userParam (s := s)), recvActs]
    split_ifs <;> rfl
  rw [hrun, RecvOk]
  split_ifs with hoff hfail
  · exact Or.inr ⟨fun hc => hfail (hc hoff), rfl⟩
  · exact Or.inl ⟨fun _ => not_not.mp hfail, rfl⟩
  · exact Or.inl ⟨fun hc => absurd hc hoff, rfl⟩

/-- The looks at the event that ends the connecting. -/
theorem post_established (event : CmEvent) (s : Conn) :
    Traced.Post (established o event) s
      (fun ret s' t =>
        (event.event ≠ .established ∧ ret = FAILURE ∧ s' = s ∧
          t = [.readEvent event, .readEvent event, .rdmaAckCmEvent event]) ∨
        (event.event = .established ∧ s.param.connectionType ≠ .ud ∧ ret = SUCCESS ∧ s' = s ∧
          t = [.readEvent event, .rdmaAckCmEvent event]) ∨
        event.event = .established ∧ s.param.connectionType = .ud ∧ 0 < room s.ctx.ah ∧
          ret = SUCCESS ∧ s' = ⟨s.param.remembers event.ud, s.ctx.withAh o.ibvCreateAh⟩ ∧
          t = ahActs o event s.ctx.pd ++ [.rdmaAckCmEvent event])
      (fun e s' t => event.event = .established ∧ s.param.connectionType = .ud ∧
        ¬0 < room s.ctx.ah ∧ e ≠ .outOfTurns ∧ s' = ⟨s.param.remembers event.ud, s.ctx⟩ ∧
        t = ahActs o event s.ctx.pd) := by
  rw [established]
  by_cases hkind : event.event = .established
  swap
  · rw [Traced.post_bind, Traced.post_emit, if_pos hkind]
    exact Or.inl ⟨hkind, rfl, rfl, rfl⟩
  rw [Traced.post_bind, Traced.post_emit, if_neg fun hc => hc hkind, Traced.post_bind,
    post_userParam]
  by_cases hud : s.param.connectionType = .ud
  swap
  · rw [if_neg hud]
    exact Or.inr (Or.inl ⟨hkind, hud, rfl, rfl, rfl⟩)
  rw [if_pos hud]
  -- only the store can stop the run
  rcases run_storeAh o.ibvCreateAh ⟨s.param.remembers event.ud, s.ctx⟩ with
    ⟨hroom, hrun⟩ | ⟨hroom, e, he, hrun⟩
  · simp only [Traced.post_bind, Traced.post_emit, post_setParam, post_context]
    refine (Traced.post_of_run hrun).mpr ?_
    have hah : (s.ctx.withAh o.ibvCreateAh).ah.isNone = false := withAh_ah_isNone _ hroom
    rw [hah, if_neg Bool.false_ne_true]
    exact Or.inr (Or.inr ⟨hkind, hud, hroom, rfl, rfl, rfl⟩)
  · simp only [Traced.post_bind, Traced.post_emit, post_setParam, post_context]
    exact (Traced.post_of_stop hrun).mpr ⟨hkind, hud, hroom, he, rfl, rfl⟩

/-- **The client after `ctx_init`.** -/
theorem post_connect (o : ClientOutcomes) (k : ℕ) (s : Conn) :
    Traced.Post (connect o k) s (ConnectRan o k s) (ConnectStuck o k s) := by
  rw [connect, Traced.post_bind]
  rcases run_postReceive o s with ⟨hrecv, hrun⟩ | ⟨hrecv, hrun⟩
  swap
  · rw [Traced.post_of_run hrun, Traced.post_pure, List.append_nil]
    obtain ⟨hoff, hfail⟩ := Classical.not_imp.mp hrecv
    exact ConnectRan.noRecv hoff hfail
  rw [Traced.post_of_run hrun]
  simp only [Traced.post_bind, post_userParam, Traced.post_ite, Traced.post_emit, Traced.post_pure,
    post_context, rdmaGetCmEvent, List.nil_append, List.append_nil]
  refine ⟨fun hfail => ConnectRan.noConnect hrecv hfail, fun hok => ?_⟩
  have hzero : o.rdmaConnect = 0 := not_not.mp hok
  -- the calls so far, with whatever comes next
  have hacts : ∀ t, recvActs o s.param ++ ([Act.rdmaConnect s.ctx.cmId (connParamOf s.param)
      o.rdmaConnect] ++ t) = connectActs o s ++ t := fun t => (List.append_assoc _ _ t).symm
  rcases hgot : o.rdmaGetCmEvent k with _ | event
  · rw [Traced.post_pure, hacts]
    exact ConnectRan.noEvent hrecv hzero hgot
  refine (post_established event s).mono ?_ ?_
  · rintro ret s' t (⟨hkind, rfl, rfl, rfl⟩ | ⟨hkind, hud, rfl, rfl, rfl⟩ |
      ⟨hkind, hud, hroom, rfl, rfl, rfl⟩)
    · rw [hacts]
      exact ConnectRan.unexpected hrecv hzero hgot hkind
    · rw [hacts]
      exact ConnectRan.done hrecv hzero hgot hkind hud
    · rw [hacts]
      exact ConnectRan.doneUd hrecv hzero hgot hkind hud hroom
  · rintro e s' t ⟨hkind, hud, hroom, he, rfl, rfl⟩
    rw [hacts]
    exact ConnectStuck.mk hrecv hzero hgot hkind hud hroom he

/-- The context the client gives to `ctx_init`. -/
def Conn.resolved (o : ClientOutcomes) (s : Conn) : Conn :=
  { s with ctx := { s.ctx with context := o.verbs } }

/-- The state in which a party goes on after `ctx_init`: `work_rdma_cm` has its value back. -/
def Conn.resumed (s : Conn) (pd : Ptr) (qpNum : ℕ) : Conn :=
  { s with ctx := s.ctx.initialised pd qpNum }

/-- **How the client connects.** -/
inductive ClientRan (numOfRetries : ℕ) (o : ClientOutcomes) (s : Conn) :
    ℤ → Conn → List Act → Prop
  | unresolved {t : List Act} (h : Resolves (numOfRetries + 1) t)
      (hno : ∀ k, ¬ResolvedAt numOfRetries o k) (hdelivered : Delivered o t) :
      ClientRan numOfRetries o s FAILURE s t
  /-- The early return that leaves `work_rdma_cm` as it is for `ctx_init`. -/
  | noInit {t : List Act} {k : ℕ} (h : Resolves (numOfRetries + 1) t)
      (hat : ResolvedAt numOfRetries o k) (hfail : o.ctxInit ≠ 0) (hleads : LeadsOn t) :
      ClientRan numOfRetries o s FAILURE
        ⟨s.param.on, (s.resolved o).ctx.initialised o.pd o.qpNum⟩
        (t ++ [.ctxInit s.param.on o.ctxInit])
  | ran {t t' : List Act} {k : ℕ} {ret : ℤ} {s' : Conn} (h : Resolves (numOfRetries + 1) t)
      (hat : ResolvedAt numOfRetries o k) (hleads : LeadsOn t) (hok : o.ctxInit = 0)
      (hran : ConnectRan o k ((s.resolved o).resumed o.pd o.qpNum) ret s' t') :
      ClientRan numOfRetries o s ret s' (t ++ .ctxInit s.param.on o.ctxInit :: t')

/-- **Where the client stops.** -/
inductive ClientStuck (numOfRetries : ℕ) (o : ClientOutcomes) (s : Conn) :
    Stop → Conn → List Act → Prop
  | mk {t t' : List Act} {k : ℕ} {e : Stop} {s' : Conn} (h : Resolves (numOfRetries + 1) t)
      (hat : ResolvedAt numOfRetries o k) (hleads : LeadsOn t) (hok : o.ctxInit = 0)
      (hstuck : ConnectStuck o k ((s.resolved o).resumed o.pd o.qpNum) e s' t') :
      ClientStuck numOfRetries o s e s' (t ++ .ctxInit s.param.on o.ctxInit :: t')

/-- **`rdma_client_connect`**, when its loops may make one turn more than there are
retries. -/
theorem post_rdmaClientConnectIn (hturns : numOfRetries < turns) (o : ClientOutcomes) (s : Conn) :
    Traced.Post (rdmaClientConnectIn turns numOfRetries o) s (ClientRan numOfRetries o s)
      (ClientStuck numOfRetries o s) := by
  obtain ⟨r, t, hrun, hran⟩ := run_resolve (o := o) (s := s) hturns
  rw [rdmaClientConnectIn, Traced.post_bind, Traced.post_of_run hrun]
  cases hran with
  | failed h hno hdelivered =>
    rw [Traced.post_pure, List.append_nil]
    exact ClientRan.unresolved h hno hdelivered
  | done k h hat hleads =>
    simp only [Traced.post_bind, post_setCtx, post_userParam, Traced.post_of_run
      (run_initialise o.ctxInit o.pd o.qpNum _), List.nil_append]
    by_cases hok : o.ctxInit = 0
    swap
    · rw [if_pos hok]
      exact ClientRan.noInit h hat hok hleads
    rw [if_neg fun hc => hc hok, Traced.post_bind, post_setParam]
    refine (post_connect o k ((s.resolved o).resumed o.pd o.qpNum)).mono ?_ ?_
    · intro ret s' t' hran
      exact ClientRan.ran h hat hleads hok hran
    · intro e s' t' hstuck
      exact ClientStuck.mk h hat hleads hok hstuck

theorem post_rdmaClientConnect (numOfRetries : ℕ) (o : ClientOutcomes) (s : Conn) :
    Traced.Post (rdmaClientConnect numOfRetries o) s (ClientRan numOfRetries o s)
      (ClientStuck numOfRetries o s) :=
  post_rdmaClientConnectIn (Nat.lt_succ_self numOfRetries) o s

end Connection
