import RdmaCpp.Connection.Acknowledged
import RdmaCpp.Connection.ServerRan

/-!
# What the server cleans up

`rdma_server_connect` holds three things while it goes on: the list that `check_add_port` has
stored, the event it obtained, and the value of `work_rdma_cm` that it replaces for the time
of `ctx_init`. Each should be given back on every exit (`Connection.CleansUp`).

The cleanup is the last three calls of the function, so it is made by the exit that comes
after them, and by no other. None of the returns before it frees the list, and so the
function cleans up exactly when it succeeds, or has no list (`Connection.cleansUp_iff`).
-/

namespace Connection

/-! ### What an exit should leave -/

/-- **An exit has cleaned up** after the list `res`: these are the states before and after,
and the actions. -/
structure CleanedUp (res : AddrInfo) (s s' : Conn) (t : List Act) : Prop where
  /-- The event is neither acknowledged nor read after it has been acknowledged. -/
  owned : OwnsEvents t
  /-- It has been acknowledged, if one was obtained. -/
  settled : events.live [] t = []
  /-- The list has been freed, once. -/
  freed : t.count (.freeaddrinfo res.ptr) = 1
  restored : s'.param.workRdmaCm = s.param.workRdmaCm
  /-- A receive is posted in the branch that the value at the entry asks for. -/
  recv : ∀ ret, .postOneRecvWqe ret ∈ t → s.param.workRdmaCm = OFF
  recvAh : ∀ ret, .postRecvToGetAh ret ∈ t → s.param.workRdmaCm ≠ OFF
  /-- And where a branch is come to it is that one. -/
  branch : (∃ user, .ctxInit user 0 ∈ t) →
    (s.param.workRdmaCm = OFF → ∃ ret, .postOneRecvWqe ret ∈ t) ∧
      (s.param.workRdmaCm ≠ OFF → s.param.connectionType = .ud → s.param.Answers →
        ∃ ret, .postRecvToGetAh ret ∈ t)

/-- **The function cleans up** on the exit it takes, if `check_add_port` has succeeded. -/
def CleansUp (o : ServerOutcomes) (s : Conn) : Prop :=
  ∀ res ret, o.checkAddPort = some res → (rdmaServerConnect o s).out = .ok ret →
    CleanedUp res s (rdmaServerConnect o s).state (rdmaServerConnect o s).trace

/-- **Every call of the server succeeds**, of those that are made with these parameters. -/
structure ServerSucceeds (o : ServerOutcomes) (user : PerftestParameters) : Prop where
  found : Found o.checkAddPort
  bind : o.rdmaBindAddr = 0
  listen : o.rdmaListen = 0
  event : ∃ event, o.rdmaGetCmEvent = some event ∧ event.event = .connectRequest
  init : o.ctxInit = 0
  receives : ReceivesOk o user
  accept : o.rdmaAccept = 0
  ah : user.AwaitsAh → o.createAhFromWcRecv = 0

variable {o : ServerOutcomes} {s s' : Conn} {res : AddrInfo} {event : CmEvent} {ret : ℤ}
  {t t' : List Act}

/-! ### Actions that give nothing back -/

/-- The calls that neither obtain nor give anything back. -/
def Act.isNeutral : Act → Bool
  | .rdmaGetCmEvent .. | .readEvent _ | .rdmaAckCmEvent _ | .freeaddrinfo _ => false
  | _ => true

/-- They are all there is. -/
def Neutral (t : List Act) : Prop := ∀ a ∈ t, a.isNeutral = true

theorem Neutral.append (h : Neutral t) (h' : Neutral t') : Neutral (t ++ t') :=
  List.forall_mem_append.mpr ⟨h, h'⟩

theorem Neutral.cons {a : Act} (ha : a.isNeutral = true) (h : Neutral t) : Neutral (a :: t) :=
  List.forall_mem_cons.mpr ⟨ha, h⟩

theorem neutral_nil : Neutral [] := fun _ ha => absurd ha List.not_mem_nil

theorem Neutral.leads (h : Neutral t) (u : List CmEvent) : events.monitor.Leads u t u := by
  refine leads_of_isEvent fun a ha => ?_
  have hneutral := h a ha
  cases a <;> first | rfl | exact absurd hneutral Bool.false_ne_true

theorem Neutral.not_mem_freeaddrinfo (h : Neutral t) (p : ℕ) : .freeaddrinfo p ∉ t := by
  intro hmem
  cases h _ hmem

theorem neutral_bindActs : Neutral (bindActs o res s) :=
  Neutral.append (Neutral.cons rfl neutral_nil) (Neutral.cons rfl neutral_nil)

theorem neutral_listenActs : Neutral (listenActs o res s) :=
  Neutral.append neutral_bindActs (Neutral.cons rfl neutral_nil)

theorem neutral_allocActs (user : PerftestParameters) : Neutral (allocActs user) := by
  rw [allocActs]
  split_ifs
  · exact Neutral.cons rfl neutral_nil
  · exact neutral_nil

theorem neutral_receiveActs (user : PerftestParameters) : Neutral (receiveActs o user) := by
  rw [receiveActs]
  split_ifs
  · exact Neutral.cons rfl neutral_nil
  · exact Neutral.cons rfl neutral_nil
  · exact neutral_nil

theorem neutral_acceptActs : Neutral (acceptActs o s) :=
  Neutral.cons rfl ((neutral_receiveActs _).append (Neutral.cons rfl neutral_nil))

theorem neutral_awaitActs (user : PerftestParameters) : Neutral (awaitActs o user) := by
  rw [awaitActs]
  split_ifs
  · exact Neutral.cons rfl neutral_nil
  · exact neutral_nil

/-! ### The exits -/

/-- An exit from `ctx_init` on that is not the last frees nothing. -/
theorem AcceptRan.neutral (h : AcceptRan o res event s ret s' t) (hret : ret ≠ 0) : Neutral t := by
  cases h with
  | noInit => exact Neutral.cons rfl neutral_nil
  | noReceive => exact Neutral.cons rfl (neutral_receiveActs _)
  | noAccept => exact neutral_acceptActs
  | noAh => exact neutral_acceptActs.append (neutral_awaitActs _)
  | done => exact absurd rfl hret

/-- **Only a success frees the list.** -/
theorem ServerRan.succeeds_or (h : ServerRan o s ret s' t) :
    ret = 0 ∧ ServerSucceeds o s.param ∨ ∀ p, .freeaddrinfo p ∉ t := by
  cases h with
  | noAddress => exact Or.inr (Neutral.cons rfl neutral_nil).not_mem_freeaddrinfo
  | noBind => exact Or.inr neutral_bindActs.not_mem_freeaddrinfo
  | noListen => exact Or.inr neutral_listenActs.not_mem_freeaddrinfo
  | noEvent | badEvent =>
    refine Or.inr fun p hmem => ?_
    rcases List.mem_append.mp hmem with hmem | hmem
    · exact neutral_listenActs.not_mem_freeaddrinfo p hmem
    · simp at hmem
  | @ran _ _ _ _ t hres hfamily hbind hlisten hgot hkind hran =>
    by_cases hret : ret = 0
    · refine Or.inl ⟨hret, ?_⟩
      cases hran with
      | noInit | noReceive | noAccept | noAh => exact absurd hret (by decide)
      | done hinit hrecv hok hah =>
        exact ⟨⟨_, hres, hfamily⟩, hbind, hlisten, ⟨_, hgot, hkind⟩, hinit, hrecv, hok, hah⟩
    · refine Or.inr fun p hmem => ?_
      rcases List.mem_append.mp hmem with hmem | hmem
      · exact neutral_listenActs.not_mem_freeaddrinfo p hmem
      · have hrest : .freeaddrinfo p ∈ allocActs s.param ++ t := by
          simpa only [List.mem_cons, reduceCtorEq, false_or] using hmem
        exact ((neutral_allocActs _).append (hran.neutral hret)).not_mem_freeaddrinfo p hrest

/-- The actions of a success, with what it gives back at the end. -/
def servedActs (o : ServerOutcomes) (res : AddrInfo) (event : CmEvent) (s : Conn) : List Act :=
  listenActs o res s ++ .rdmaGetCmEvent s.ctx.cmChannel (some event) :: .readEvent event ::
    .readEvent event :: (allocActs s.param ++ (acceptActs o (s.requested o event) ++
      (awaitActs o s.param ++
        [.rdmaAckCmEvent event, .rdmaDestroyId s.ctx.cmIdControl, .freeaddrinfo res.ptr])))

/-- What happens between the look at the event and its acknowledgement. -/
theorem neutral_served : Neutral (allocActs s.param ++ (acceptActs o (s.requested o event) ++
    awaitActs o s.param)) :=
  (neutral_allocActs _).append (neutral_acceptActs.append (neutral_awaitActs _))

/-- The event is acknowledged at the end. -/
theorem leads_servedActs (o : ServerOutcomes) (res : AddrInfo) (event : CmEvent) (s : Conn) :
    events.monitor.Leads [] (servedActs o res event s) [] := by
  have hlive : event ∈ [event] := List.mem_cons_self
  have hlast : events.monitor.Leads [event]
      [.rdmaAckCmEvent event, .rdmaDestroyId s.ctx.cmIdControl, .freeaddrinfo res.ptr] [] :=
    leads_rdmaAckCmEvent (leads_cons rfl (leads_cons rfl (Monitor.leads_nil _ _)))
  refine (neutral_listenActs.leads []).append (leads_rdmaGetCmEvent (leads_readEvent hlive
    (leads_readEvent hlive ?_)))
  rw [← List.append_assoc, ← List.append_assoc, List.append_assoc (allocActs s.param)]
  exact (neutral_served.leads _).append hlast

/-- The list is freed at the end, and nowhere else. -/
theorem count_freeaddrinfo_servedActs (o : ServerOutcomes) (res : AddrInfo) (event : CmEvent)
    (s : Conn) : (servedActs o res event s).count (.freeaddrinfo res.ptr) = 1 := by
  have hzero : ∀ {t : List Act}, Neutral t → t.count (.freeaddrinfo res.ptr) = 0 := fun h =>
    List.count_eq_zero.mpr (h.not_mem_freeaddrinfo res.ptr)
  rw [servedActs, List.count_append, hzero neutral_listenActs]
  simp only [List.count_cons, List.count_append, hzero (neutral_allocActs _),
    hzero neutral_acceptActs, hzero (neutral_awaitActs _), List.count_nil, reduceCtorEq,
    beq_iff_eq, if_false, if_true]

/-- The two receives. -/
def Act.isReceive : Act → Bool
  | .postOneRecvWqe _ | .postRecvToGetAh _ => true
  | _ => false

/-- The receive that is posted is that of the branch. -/
theorem mem_servedActs {a : Act} (ha : a.isReceive = true) :
    a ∈ servedActs o res event s ↔ a ∈ receiveActs o s.param := by
  have hno : ∀ {t : List Act}, t.all (fun a => !a.isReceive) = true → a ∉ t := by
    intro t ht hmem
    have hfalse := List.all_eq_true.mp ht a hmem
    rw [ha] at hfalse
    cases hfalse
  have halloc : a ∉ allocActs s.param := hno (by rw [allocActs]; split_ifs <;> rfl)
  have hawait : a ∉ awaitActs o s.param := hno (by rw [awaitActs]; split_ifs <;> rfl)
  constructor
  · intro hmem
    simp only [servedActs, acceptActs, List.mem_append, List.mem_cons, List.not_mem_nil,
      or_false] at hmem
    -- no other action is a receive
    rcases hmem with h | rfl | rfl | rfl | h | (rfl | h | rfl) | h | rfl | rfl | rfl
    · exact absurd h (hno rfl)
    · cases ha
    · cases ha
    · cases ha
    · exact absurd h halloc
    · cases ha
    · exact h
    · cases ha
    · exact absurd h hawait
    · cases ha
    · cases ha
    · cases ha
  · intro hmem
    have haccept : a ∈ acceptActs o (s.requested o event) :=
      List.mem_cons_of_mem _ (List.mem_append_left _ hmem)
    exact List.mem_append_right _ (List.mem_cons_of_mem _ (List.mem_cons_of_mem _
      (List.mem_cons_of_mem _ (List.mem_append_right _ (List.mem_append_left _ haccept)))))

theorem awaited_param (o : ServerOutcomes) (s : Conn) : (s.awaited o).param = s.param := by
  rw [Conn.awaited]
  split_ifs <;> rfl

/-- The receives of the two branches, after a success. -/
theorem cleanedUp_served (hparam : s'.param = s.param) :
    CleanedUp res s s' (servedActs o res event s) := by
  have hleads := leads_servedActs o res event s
  refine ⟨ownsEvents_iff.mpr hleads.1, hleads.2, count_freeaddrinfo_servedActs _ _ _ _, ?_,
    fun ret hmem => ?_, fun ret hmem => ?_, fun _ => ⟨fun hoff => ?_, fun hon hud hanswers => ?_⟩⟩
  · rw [hparam]
  · rw [mem_servedActs rfl, receiveActs] at hmem
    split_ifs at hmem with hoff
    · exact hoff
    · simp at hmem
    · simp at hmem
  · rw [mem_servedActs rfl, receiveActs] at hmem
    intro hoff
    rw [if_pos hoff] at hmem
    simp at hmem
  · refine ⟨o.postOneRecvWqe, (mem_servedActs rfl).mpr ?_⟩
    rw [receiveActs, if_pos hoff]
    exact List.mem_cons_self
  · refine ⟨o.postRecvToGetAh, (mem_servedActs rfl).mpr ?_⟩
    rw [receiveActs, if_neg hon, if_pos ⟨hud, hanswers⟩]
    exact List.mem_cons_self

/-- **A success cleans up.** -/
theorem ServerRan.cleanedUp (h : ServerRan o s ret s' t) (hok : ServerSucceeds o s.param)
    (hres : o.checkAddPort = some res) : CleanedUp res s s' t := by
  cases h with
  | noAddress h => exact absurd hok.found h
  | noBind _ _ h => exact absurd hok.bind h
  | noListen _ _ _ h => exact absurd hok.listen h
  | noEvent _ _ _ _ hgot =>
    obtain ⟨event, hevent, -⟩ := hok.event
    rw [hgot] at hevent
    cases hevent
  | badEvent _ _ _ _ hgot hkind =>
    obtain ⟨event, hevent, hreq⟩ := hok.event
    rw [hgot] at hevent
    cases hevent
    exact absurd hreq hkind
  | ran hres' _ _ _ _ _ hran =>
    rw [hres] at hres'
    cases hres'
    -- the early exits are excluded by the calls that succeed
    cases hran with
    | noInit h => exact absurd hok.init h
    | noReceive _ h => exact absurd hok.receives h
    | noAccept _ _ h => exact absurd hok.accept h
    | noAh _ _ _ hawaits h => exact absurd (hok.ah hawaits) h
    | done => exact cleanedUp_served (awaited_param _ _)

/-! ### The function -/

/-- **The server cleans up** exactly when `check_add_port` fails, or everything succeeds. -/
theorem cleansUp_iff (o : ServerOutcomes) (s : Conn) :
    CleansUp o s ↔ o.checkAddPort = none ∨ ServerSucceeds o s.param := by
  have hpost := post_rdmaServerConnect o s
  rw [CleansUp]
  rcases hrun : rdmaServerConnect o s with ⟨e | ret, s', t⟩
  · exact (hpost.of_error hrun).elim
  have hran := hpost.of_ok hrun
  constructor
  · intro hcleans
    rcases hfound : o.checkAddPort with _ | res
    · exact Or.inl rfl
    · have hfreed := (hcleans res ret hfound rfl).freed
      rcases hran.succeeds_or with ⟨-, hok⟩ | hno
      · exact Or.inr hok
      · rw [List.count_eq_zero.mpr (hno res.ptr)] at hfreed
        cases hfreed
  · rintro (hnone | hok) res ret' hfound -
    · rw [hnone] at hfound
      cases hfound
    · exact hran.cleanedUp hok hfound

/-- **An event that is no request**: it is not acknowledged, and the list is not freed. -/
theorem not_cleansUp_of_rejected : ¬CleansUp
    { Sample.server with rdmaGetCmEvent := some (Sample.event .rejected) }
    ⟨Sample.user, Sample.ctx⟩ := by
  intro hcleans
  have hfreed := (hcleans Sample.found 1 rfl rfl).freed
  revert hfreed
  decide

end Connection
