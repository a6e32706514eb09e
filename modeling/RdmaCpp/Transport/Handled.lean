import RdmaCpp.Transport.Created
import RdmaCpp.Transport.Events
import RdmaCpp.Transport.Started

/-!
# What a step of a run does

Everything that is proved about whole runs of the transport is proved from two
inversion lemmas: what a start leaves (`Transport.post_start`) and what handling
one event leaves (`Transport.post_dispatch`). The second says in full what an event
can do to a context, one constructor of `Transport.Handled` per outcome: the
handler's kind, which of its calls failed, the context it leaves and its calls in
order.

`Transport.post_run` packages the induction over the event loop once: an invariant
of the state and of the history of the run, kept by every event that is handled,
holds however far the run gets.
-/

namespace Transport

variable {config : RdmaParam}

/-! ### The connection check -/

/-- The handler sets the flag: there was no connection, and the event is about the
current id. -/
def Initiates (event : CmEvent) (c : RdmaContext) : Prop :=
  c.connected ≠ 1 ∧ some event.id = c.cmId

instance (event : CmEvent) (c : RdmaContext) : Decidable (Initiates event c) :=
  inferInstanceAs (Decidable (_ ∧ _))

/-- The context `fs_rdma_cm_handle_connect_init` leaves. -/
def RdmaContext.initiated (event : CmEvent) (c : RdmaContext) : RdmaContext :=
  if Initiates event c then { c with connected := 1 } else c

/-- The actions of `fs_rdma_cm_handle_connect_init`. -/
def initActs (event : CmEvent) (c : RdmaContext) : List Act :=
  [.readEvent event, .readEvent event] ++
    if Initiates event c then [] else [.rdmaDisconnect c.cmId]

/-- **The connection check in closed form.** -/
theorem post_fsRdmaCmHandleConnectInit {event : CmEvent} {c : RdmaContext}
    {Q : ℤ → Option RdmaContext → List Act → Prop}
    {E : Fault → Option RdmaContext → List Act → Prop} :
    Traced.Post (fsRdmaCmHandleConnectInit event) (some c) Q E ↔
      Q (if Initiates event c then 0 else -1) (some (c.initiated event)) (initActs event c) := by
  rw [fsRdmaCmHandleConnectInit, Traced.post_bind, Traced.post_emit, Traced.post_bind,
    post_rdmaCtx, Traced.post_bind, Traced.post_emit]
  by_cases hinit : Initiates event c
  · have hret : (if some event.id ≠ c.cmId then (-1 : ℤ) else if c.connected = 1 then -1 else 0) =
        0 := by
      rw [if_neg (not_not.mpr hinit.2), if_neg hinit.1]
    simp only [hret, Int.lt_irrefl, if_false, if_pos hinit, Traced.post_bind, post_assign,
      Traced.post_pure, RdmaContext.initiated, initActs]
    exact Iff.rfl
  · have hret : (if some event.id ≠ c.cmId then (-1 : ℤ) else if c.connected = 1 then -1 else 0) =
        -1 := by
      by_cases hid : some event.id = c.cmId
      · have hconn : c.connected = 1 := by
          by_contra hc
          exact hinit ⟨hc, hid⟩
        rw [if_neg (not_not.mpr hid), if_pos hconn]
      · rw [if_pos hid]
    simp only [hret, Int.reduceNeg, Int.reduceLT, if_true, if_neg hinit, Traced.post_bind,
      Traced.post_emit, Traced.post_pure, RdmaContext.initiated, initActs]
    exact Iff.rfl

@[simp] theorem initiated_cmId (event : CmEvent) (c : RdmaContext) :
    (c.initiated event).cmId = c.cmId := by
  rw [RdmaContext.initiated, apply_ite RdmaContext.cmId]
  exact ite_self _

/-! ### Handling an event -/

/-- The first actions of handling `ADDR_RESOLVED`. -/
def resolveActs (o : HandlerOutcomes) (event : CmEvent) : List Act :=
  [.readEvent event, .readEvent event, .rdmaResolveRoute event.id timeoutInMs o.rdmaResolveRoute]

/-- **How an event is handled**: what is left of the pointer to it, the context,
the actions from the `switch` to the end of the turn. -/
inductive Handled (config : RdmaParam) (o : HandlerOutcomes) (event : CmEvent)
    (c : RdmaContext) : Option CmEvent → RdmaContext → List Act → Prop
  /-- An event of another kind. -/
  | other (h : event.event.isOther = true) :
      Handled config o event c (some event) c
        [.readEvent event, .readEvent event, .rdmaAckCmEvent event]
  /-- An address is resolved, and its route can be asked for. -/
  | resolved (h : event.event = .addrResolved) (hret : o.rdmaResolveRoute = 0) :
      Handled config o event c (some event) c (resolveActs o event ++ [.rdmaAckCmEvent event])
  /-- An address is resolved, and its route cannot be asked for. -/
  | unresolved (h : event.event = .addrResolved) (hret : o.rdmaResolveRoute ≠ 0) :
      Handled config o event c (some event) (c.tornDown config)
        (resolveActs o event ++ (teardownActs config c ++ [.rdmaAckCmEvent event]))
  /-- The resources of a connection cannot be created. -/
  | uncreated {c' : RdmaContext} {t : List Act} {ret : ℤ}
      (h : event.event = .routeResolved ∨ event.event = .connectRequest)
      (hran : CreateRan config o.create c ret c' t) (hret : ret ≠ 0) :
      Handled config o event c (some event) (c'.tornDown config)
        (.readEvent event :: (t ++ (teardownActs config c' ++ [.rdmaAckCmEvent event])))
  /-- A route is resolved, and connecting fails. -/
  | unconnected {c' : RdmaContext} {t : List Act} (h : event.event = .routeResolved)
      (hran : CreateRan config o.create c 0 c' t) (hret : o.rdmaConnect ≠ 0) :
      Handled config o event c (some event) (c'.tornDown config)
        (.readEvent event :: (t ++
          (.rdmaConnect c'.cmId (connParam config) o.rdmaConnect ::
            (teardownActs config c' ++ [.rdmaAckCmEvent event]))))
  /-- A route is resolved, and the client is connecting. -/
  | connecting {c' : RdmaContext} {t : List Act} (h : event.event = .routeResolved)
      (hran : CreateRan config o.create c 0 c' t) (hret : o.rdmaConnect = 0) :
      Handled config o event c (some event) c'
        (.readEvent event :: (t ++
          [.rdmaConnect c'.cmId (connParam config) o.rdmaConnect, .rdmaAckCmEvent event]))
  /-- A connection is requested, and accepting it fails. -/
  | unaccepted {c' : RdmaContext} {t : List Act} (h : event.event = .connectRequest)
      (hran : CreateRan config o.create c 0 c' t) (hret : o.rdmaAccept < 0) :
      Handled config o event c (some event) (c'.tornDown config)
        (.readEvent event :: (t ++
          (.rdmaAccept c'.cmId (connParam config) o.rdmaAccept ::
            (teardownActs config c' ++ [.rdmaAckCmEvent event]))))
  /-- A connection is requested and accepted. -/
  | accepted {c' : RdmaContext} {t : List Act} (h : event.event = .connectRequest)
      (hran : CreateRan config o.create c 0 c' t) (hret : ¬o.rdmaAccept < 0) :
      Handled config o event c (some event) (c'.initiated event)
        (.readEvent event :: (t ++
          (.rdmaAccept c'.cmId (connParam config) o.rdmaAccept ::
            (initActs event c' ++ [.rdmaAckCmEvent event]))))
  /-- A connection is established. -/
  | established (h : event.event = .established) :
      Handled config o event c (some event) (c.initiated event)
        (.readEvent event :: (initActs event c ++ [.rdmaAckCmEvent event]))
  /-- An error is reported. -/
  | error (h : event.event.isError = true) :
      Handled config o event c none (c.tornDown config)
        ([.readEvent event, .readEvent event, .rdmaAckCmEvent event] ++ teardownActs config c)
  /-- A connection is lost. -/
  | disconnected (h : event.event = .disconnected) :
      Handled config o event c none (c.tornDown config)
        ([.readEvent event, .rdmaAckCmEvent event] ++ teardownActs config c)

/-- **Where handling an event stops for good**: inside the creation of the
resources. -/
inductive HandledStuck (config : RdmaParam) (o : HandlerOutcomes) (event : CmEvent)
    (c : RdmaContext) : RdmaContext → List Act → Prop
  | mk {c' : RdmaContext} {t : List Act}
      (h : event.event = .routeResolved ∨ event.event = .connectRequest)
      (hstuck : BodyStuck config o.create c c' t) :
      HandledStuck config o event c c' (.readEvent event :: .enter .createResources :: t)

/-- A failing handler tears everything down. -/
theorem post_fsRdmaCmHandleDisconnect {c : RdmaContext}
    {Q : Unit → Option RdmaContext → List Act → Prop}
    {E : Fault → Option RdmaContext → List Act → Prop} :
    Traced.Post (fsRdmaCmHandleDisconnect config) (some c) Q E ↔
      Q () (some (c.tornDown config)) (teardownActs config c) := by
  rw [fsRdmaCmHandleDisconnect, Traced.post_bind,
    Traced.post_of_run (run_fsRdmaTeardown config c), Traced.post_pure, List.append_nil]

section Dispatch

variable {o : HandlerOutcomes} {event : CmEvent} {c : RdmaContext}

theorem post_dispatch_addrResolved (h : event.event = .addrResolved) :
    Traced.Post (dispatch config o event) (some c)
      (fun r s t => ∃ c', s = some c' ∧ Handled config o event c r c' t)
      (fun _ s t => ∃ c', s = some c' ∧ HandledStuck config o event c c' t) := by
  rw [dispatch, Traced.post_bind, Traced.post_emit, h]
  simp only [fsRdmaCmHandleAddrResolved, Traced.post_bind, Traced.post_emit]
  by_cases hret : o.rdmaResolveRoute = 0
  · simp only [hret, ne_eq, not_true_eq_false, if_false, Traced.post_pure]
    refine ⟨c, rfl, ?_⟩
    simpa only [resolveActs, hret, List.append_nil, List.cons_append, List.nil_append]
      using Handled.resolved h hret
  · simp only [hret, ne_eq, not_false_eq_true, if_true, Traced.post_bind,
      post_fsRdmaCmHandleDisconnect, Traced.post_pure]
    refine ⟨_, rfl, ?_⟩
    simpa only [resolveActs, List.append_nil, List.append_assoc, List.cons_append,
      List.nil_append] using Handled.unresolved h hret

theorem post_dispatch_routeResolved (h : event.event = .routeResolved) :
    Traced.Post (dispatch config o event) (some c)
      (fun r s t => ∃ c', s = some c' ∧ Handled config o event c r c' t)
      (fun _ s t => ∃ c', s = some c' ∧ HandledStuck config o event c c' t) := by
  rw [dispatch, Traced.post_bind, Traced.post_emit, h]
  simp only [fsRdmaCmHandleRouteResolved, Option.isNone_some, Bool.false_eq_true, if_false,
    Traced.post_bind]
  refine (post_fsRdmaCreateResources config o.create c).mono ?_ ?_
  swap
  · rintro e s t ⟨c', t', rfl, rfl, hstuck⟩
    exact ⟨c', rfl, HandledStuck.mk (Or.inl h) hstuck⟩
  rintro ret s t ⟨c', rfl, hran⟩
  by_cases hret : ret = 0
  swap
  · simp only [hret, ne_eq, not_false_eq_true, if_true, Traced.post_bind,
      post_fsRdmaCmHandleDisconnect, Traced.post_pure, Traced.post_emit]
    refine ⟨_, rfl, ?_⟩
    simpa only [List.append_nil, List.append_assoc, List.cons_append, List.nil_append]
      using Handled.uncreated (Or.inl h) hran hret
  subst hret
  simp only [ne_eq, not_true_eq_false, if_false, Traced.post_bind, post_rdmaCtx,
    Traced.post_emit]
  by_cases hconn : o.rdmaConnect = 0
  · simp only [hconn, not_true_eq_false, if_false, Traced.post_pure]
    refine ⟨c', rfl, ?_⟩
    simpa only [hconn, List.append_nil, List.append_assoc, List.cons_append, List.nil_append]
      using Handled.connecting h hran hconn
  · simp only [hconn, not_false_eq_true, if_true, Traced.post_bind,
      post_fsRdmaCmHandleDisconnect, Traced.post_pure]
    refine ⟨_, rfl, ?_⟩
    simpa only [List.append_nil, List.append_assoc, List.cons_append, List.nil_append]
      using Handled.unconnected h hran hconn

theorem post_dispatch_connectRequest (h : event.event = .connectRequest) :
    Traced.Post (dispatch config o event) (some c)
      (fun r s t => ∃ c', s = some c' ∧ Handled config o event c r c' t)
      (fun _ s t => ∃ c', s = some c' ∧ HandledStuck config o event c c' t) := by
  rw [dispatch, Traced.post_bind, Traced.post_emit, h]
  simp only [fsRdmaCmHandleConnectRequest, Traced.post_bind]
  refine (post_fsRdmaCreateResources config o.create c).mono ?_ ?_
  swap
  · rintro e s t ⟨c', t', rfl, rfl, hstuck⟩
    exact ⟨c', rfl, HandledStuck.mk (Or.inr h) hstuck⟩
  rintro ret s t ⟨c', rfl, hran⟩
  by_cases hret : ret = 0
  swap
  · simp only [hret, ne_eq, not_false_eq_true, if_true, Traced.post_bind,
      post_fsRdmaCmHandleDisconnect, Traced.post_pure, Traced.post_emit]
    refine ⟨_, rfl, ?_⟩
    simpa only [List.append_nil, List.append_assoc, List.cons_append, List.nil_append]
      using Handled.uncreated (Or.inr h) hran hret
  subst hret
  simp only [ne_eq, not_true_eq_false, if_false, Traced.post_bind, post_rdmaCtx,
    Traced.post_emit]
  by_cases hacc : o.rdmaAccept < 0
  · simp only [hacc, if_true, Traced.post_bind, post_fsRdmaCmHandleDisconnect, Traced.post_pure]
    refine ⟨_, rfl, ?_⟩
    simpa only [List.append_nil, List.append_assoc, List.cons_append, List.nil_append]
      using Handled.unaccepted h hran hacc
  · simp only [hacc, if_false, Traced.post_bind, post_fsRdmaCmHandleConnectInit, Traced.post_pure]
    refine ⟨_, rfl, ?_⟩
    simpa only [List.append_nil, List.append_assoc, List.cons_append, List.nil_append]
      using Handled.accepted h hran hacc

theorem post_dispatch_established (h : event.event = .established) :
    Traced.Post (dispatch config o event) (some c)
      (fun r s t => ∃ c', s = some c' ∧ Handled config o event c r c' t)
      (fun _ s t => ∃ c', s = some c' ∧ HandledStuck config o event c c' t) := by
  rw [dispatch, Traced.post_bind, Traced.post_emit, h]
  simp only [Traced.post_bind, post_fsRdmaCmHandleConnectInit, Traced.post_emit, Traced.post_pure]
  refine ⟨_, rfl, ?_⟩
  simpa only [List.append_nil, List.cons_append, List.nil_append] using Handled.established h

/-- **Handling an event**, from any context: every arm of the switch, with every
outcome of the calls in it. -/
theorem post_dispatch : Traced.Post (dispatch config o event) (some c)
    (fun r s t => ∃ c', s = some c' ∧ Handled config o event c r c' t)
    (fun _ s t => ∃ c', s = some c' ∧ HandledStuck config o event c c' t) := by
  rcases h : event.event
  case addrResolved => exact post_dispatch_addrResolved h
  case routeResolved => exact post_dispatch_routeResolved h
  case connectRequest => exact post_dispatch_connectRequest h
  case established => exact post_dispatch_established h
  case disconnected =>
    rw [dispatch, Traced.post_bind, Traced.post_emit, h]
    simp only [Traced.post_bind, Traced.post_emit, post_fsRdmaCmHandleDisconnect,
      Traced.post_pure, List.append_nil]
    exact ⟨_, rfl, Handled.disconnected h⟩
  case addrError | routeError | connectError | unreachable | rejected =>
    rw [dispatch, Traced.post_bind, Traced.post_emit, h]
    simp only [fsRdmaCmHandleEventError, Traced.post_bind, Traced.post_emit,
      post_fsRdmaCmHandleDisconnect, Traced.post_pure, List.append_nil]
    exact ⟨_, rfl, Handled.error (by rw [h]; rfl)⟩
  case connectResponse | deviceRemoval | multicastJoin | multicastError | addrChange |
      timewaitExit =>
    rw [dispatch, Traced.post_bind, Traced.post_emit, h]
    simp only [Traced.post_bind, Traced.post_emit, Traced.post_pure, List.append_nil]
    exact ⟨_, rfl, Handled.other (by rw [h]; rfl)⟩

end Dispatch

/-! ### Reaching the teardown -/

/-- **The handler reaches the teardown before the event is acknowledged**: the
handler runs before the acknowledgement, and one of its calls fails. -/
def TearsDownFirst (config : RdmaParam) (o : HandlerOutcomes) (event : CmEvent)
    (c : RdmaContext) : Prop :=
  match event.event with
  | .addrResolved => o.rdmaResolveRoute ≠ 0
  | .routeResolved =>
    CreateFails config o.create c ∨ CreateSucceeds config o.create c ∧ o.rdmaConnect ≠ 0
  | .connectRequest =>
    CreateFails config o.create c ∨ CreateSucceeds config o.create c ∧ o.rdmaAccept < 0
  | _ => False

section TearsDown

variable {o : HandlerOutcomes} {event : CmEvent} {c : RdmaContext}

theorem tearsDownFirst_addrResolved (h : event.event = .addrResolved) :
    TearsDownFirst config o event c ↔ o.rdmaResolveRoute ≠ 0 := by
  rw [TearsDownFirst, h]

theorem tearsDownFirst_routeResolved (h : event.event = .routeResolved) :
    TearsDownFirst config o event c ↔
      CreateFails config o.create c ∨ CreateSucceeds config o.create c ∧ o.rdmaConnect ≠ 0 := by
  rw [TearsDownFirst, h]

theorem tearsDownFirst_connectRequest (h : event.event = .connectRequest) :
    TearsDownFirst config o event c ↔
      CreateFails config o.create c ∨ CreateSucceeds config o.create c ∧ o.rdmaAccept < 0 := by
  rw [TearsDownFirst, h]

/-- The kinds whose handlers run before the acknowledgement and can fail. -/
theorem TearsDownFirst.kind (h : TearsDownFirst config o event c) :
    event.event = .addrResolved ∨ event.event = .routeResolved ∨
      event.event = .connectRequest := by
  rw [TearsDownFirst] at h
  split at h
  · exact Or.inl ‹_›
  · exact Or.inr (Or.inl ‹_›)
  · exact Or.inr (Or.inr ‹_›)
  · exact h.elim

/-- **The handler reaches the teardown**, before the acknowledgement or after it. -/
def TearsDown (config : RdmaParam) (o : HandlerOutcomes) (event : CmEvent)
    (c : RdmaContext) : Prop :=
  TearsDownFirst config o event c ∨ event.event.isError = true ∨ event.event = .disconnected

/-- The handler does not look at the context. -/
def Untouching (o : HandlerOutcomes) (event : CmEvent) : Prop :=
  event.event.isOther = true ∨ event.event = .addrResolved ∧ o.rdmaResolveRoute = 0

/-- **How an event is handled without a teardown.** -/
inductive Kept (config : RdmaParam) (o : HandlerOutcomes) (event : CmEvent) (c : RdmaContext) :
    RdmaContext → List Act → Prop
  /-- The context is not looked at. -/
  | untouched {t : List Act} (h : Untouching o event)
      (ht : t = [.readEvent event, .readEvent event] ∨ t = resolveActs o event) :
      Kept config o event c c (t ++ [.rdmaAckCmEvent event])
  /-- The client is connecting. -/
  | connecting {c' : RdmaContext} {t : List Act} (h : event.event = .routeResolved)
      (hran : CreateRan config o.create c 0 c' t) :
      Kept config o event c c'
        (.readEvent event :: (t ++
          [.rdmaConnect c'.cmId (connParam config) o.rdmaConnect, .rdmaAckCmEvent event]))
  /-- A connection is accepted. -/
  | accepted {c' : RdmaContext} {t : List Act} (h : event.event = .connectRequest)
      (hran : CreateRan config o.create c 0 c' t) :
      Kept config o event c (c'.initiated event)
        (.readEvent event :: (t ++
          (.rdmaAccept c'.cmId (connParam config) o.rdmaAccept ::
            (initActs event c' ++ [.rdmaAckCmEvent event]))))
  /-- A connection is established. -/
  | established (h : event.event = .established) :
      Kept config o event c (c.initiated event)
        (.readEvent event :: (initActs event c ++ [.rdmaAckCmEvent event]))

/-- Handling an event that does not reach the teardown. -/
theorem Handled.kept {c' : RdmaContext} {r : Option CmEvent} {t : List Act}
    (h : Handled config o event c r c' t) (hkeep : ¬TearsDown config o event c) :
    Kept config o event c c' t := by
  have hfirst : ¬TearsDownFirst config o event c := fun hc => hkeep (Or.inl hc)
  cases h with
  | other h => exact Kept.untouched (Or.inl h) (Or.inl rfl)
  | resolved h hret => exact Kept.untouched (Or.inr ⟨h, hret⟩) (Or.inr rfl)
  | unresolved h hret => exact absurd ((tearsDownFirst_addrResolved h).mpr hret) hfirst
  | uncreated h hran hret =>
    rcases h with h | h
    · exact absurd ((tearsDownFirst_routeResolved h).mpr (Or.inl (hran.fails hret))) hfirst
    · exact absurd ((tearsDownFirst_connectRequest h).mpr (Or.inl (hran.fails hret))) hfirst
  | unconnected h hran hret =>
    exact absurd ((tearsDownFirst_routeResolved h).mpr (Or.inr ⟨hran.succeeds, hret⟩)) hfirst
  | connecting h hran hret => exact Kept.connecting h hran
  | unaccepted h hran hret =>
    exact absurd ((tearsDownFirst_connectRequest h).mpr (Or.inr ⟨hran.succeeds, hret⟩)) hfirst
  | accepted h hran hret => exact Kept.accepted h hran
  | established h => exact Kept.established h
  | error h => exact absurd (Or.inr (Or.inl h)) hkeep
  | disconnected h => exact absurd (Or.inr (Or.inr h)) hkeep

theorem Untouching.not_tearsDown (h : Untouching o event) : ¬TearsDown config o event c := by
  rintro (hfirst | herror | hdisc)
  · rcases h with h | ⟨h, hret⟩
    · rcases hfirst.kind with hk | hk | hk <;> rw [hk] at h <;> exact Bool.false_ne_true h
    · exact (tearsDownFirst_addrResolved h).mp hfirst hret
  · rcases h with h | ⟨h, -⟩
    · rcases hk : event.event <;> rw [hk] at h herror <;>
        first | exact Bool.false_ne_true h | exact Bool.false_ne_true herror
    · rw [h] at herror
      exact Bool.false_ne_true herror
  · rcases h with h | ⟨h, -⟩
    · rw [hdisc] at h
      exact Bool.false_ne_true h
    · rw [hdisc] at h
      cases h

/-- A teardown leaves the flag as it was, and no connection id; it is made on the id
that the context had. -/
theorem Handled.tornDown {c' : RdmaContext} {r : Option CmEvent} {t : List Act}
    (h : Handled config o event c r c' t) (htear : TearsDown config o event c) :
    c'.cmId = none ∧ c'.connected = c.connected ∧
      ∃ c₁ : RdmaContext, c₁.cmId = c.cmId ∧ teardownActs config c₁ ⊆ t := by
  cases h with
  | unresolved | error | disconnected =>
    refine ⟨rfl, arraysReleased_connected config c, c, rfl, fun a ha => ?_⟩
    simp only [List.mem_append, ha, true_or, or_true]
  | uncreated h hran | unconnected h hran | unaccepted h hran =>
    refine ⟨rfl, (arraysReleased_connected config _).trans hran.frame.2.2.1, _, hran.frame.2.1,
      fun a ha => ?_⟩
    simp only [List.mem_cons, List.mem_append, ha, true_or, or_true]
  | other h => exact absurd htear (Untouching.not_tearsDown (Or.inl h))
  | resolved h hret => exact absurd htear (Untouching.not_tearsDown (Or.inr ⟨h, hret⟩))
  | connecting h hran hret =>
    rcases htear with hfirst | hkind | hkind
    · rcases (tearsDownFirst_routeResolved h).mp hfirst with hfails | ⟨-, hne⟩
      · exact absurd hfails (not_createFails_of_createSucceeds hran.succeeds)
      · exact absurd hret hne
    · rw [h] at hkind
      cases hkind
    · rw [h] at hkind
      cases hkind
  | accepted h hran hret =>
    rcases htear with hfirst | hkind | hkind
    · rcases (tearsDownFirst_connectRequest h).mp hfirst with hfails | ⟨-, hneg⟩
      · exact absurd hfails (not_createFails_of_createSucceeds hran.succeeds)
      · exact absurd hneg hret
    · rw [h] at hkind
      cases hkind
    · rw [h] at hkind
      cases hkind
  | established h =>
    rcases htear with hfirst | hkind | hkind
    · rcases hfirst.kind with hk | hk | hk <;> rw [hk] at h <;> cases h
    · rw [h] at hkind
      cases hkind
    · rw [h] at hkind
      cases hkind

/-- An event whose handler does not look at the context leaves it alone. -/
theorem Handled.untouched {c' : RdmaContext} {r : Option CmEvent} {t : List Act}
    (h : Handled config o event c r c' t) (hun : Untouching o event) :
    c' = c ∧ ∃ t', (t' = [.readEvent event, .readEvent event] ∨ t' = resolveActs o event) ∧
      t = t' ++ [.rdmaAckCmEvent event] := by
  have hkind : ∀ k, event.event = k → k = .addrResolved ∨ k.isOther = true := by
    rintro k rfl
    exact hun.elim Or.inr fun hc => Or.inl hc.1
  cases h.kept hun.not_tearsDown with
  | untouched _ ht => exact ⟨rfl, _, ht, rfl⟩
  | connecting hk => rcases hkind _ hk with hc | hc <;> cases hc
  | accepted hk => rcases hkind _ hk with hc | hc <;> cases hc
  | established hk => rcases hkind _ hk with hc | hc <;> cases hc

/-- Without a teardown the connection id stays the same. -/
theorem Kept.cmId_eq {c' : RdmaContext} {t : List Act} (h : Kept config o event c c' t) :
    c'.cmId = c.cmId := by
  cases h with
  | untouched => rfl
  | connecting h hran => exact hran.frame.2.1
  | accepted h hran => rw [initiated_cmId, hran.frame.2.1]
  | established => exact initiated_cmId event c

end TearsDown

/-! ### Without a context -/

/-- How an event is handled when there is no context: the kinds that need none get
through. -/
inductive HandledNull (o : HandlerOutcomes) (event : CmEvent) :
    Option CmEvent → List Act → Prop
  | other (h : event.event.isOther = true) :
      HandledNull o event (some event)
        [.readEvent event, .readEvent event, .rdmaAckCmEvent event]
  | resolved (h : event.event = .addrResolved) (hret : o.rdmaResolveRoute = 0) :
      HandledNull o event (some event) (resolveActs o event ++ [.rdmaAckCmEvent event])

/-- **Where a run without a context stops**: at the first field of the context a
handler follows `NULL` for. -/
inductive NullStuck (o : HandlerOutcomes) (event : CmEvent) : List Act → Prop
  | unresolved (h : event.event = .addrResolved) (hret : o.rdmaResolveRoute ≠ 0) :
      NullStuck o event (resolveActs o event ++ [.enter .teardown])
  | creating (h : event.event = .routeResolved ∨ event.event = .connectRequest) :
      NullStuck o event [.readEvent event, .enter .createResources,
        .ibvGetDeviceList o.create.ibvGetDeviceList.isSome,
        .ibvOpenDevice (firstDev o.create) o.create.ibvOpenDevice]
  | established (h : event.event = .established) :
      NullStuck o event [.readEvent event, .readEvent event]
  | error (h : event.event.isError = true) :
      NullStuck o event
        [.readEvent event, .readEvent event, .rdmaAckCmEvent event, .enter .teardown]
  | disconnected (h : event.event = .disconnected) :
      NullStuck o event [.readEvent event, .rdmaAckCmEvent event, .enter .teardown]

section Null

variable {o : HandlerOutcomes} {event : CmEvent}

theorem run_fsRdmaCmHandleDisconnect_null : fsRdmaCmHandleDisconnect config none =
    ⟨.error .nullDeref, none, [.enter .teardown]⟩ := by
  rw [fsRdmaCmHandleDisconnect, Traced.run_bind_error (run_fsRdmaTeardown_null config)]

theorem post_dispatch_null : Traced.Post (dispatch config o event) none
    (fun r s t => s = none ∧ HandledNull o event r t)
    (fun _ s t => s = none ∧ NullStuck o event t) := by
  rcases h : event.event
  case addrResolved =>
    rw [dispatch, Traced.post_bind, Traced.post_emit, h]
    simp only [fsRdmaCmHandleAddrResolved, Traced.post_bind, Traced.post_emit]
    by_cases hret : o.rdmaResolveRoute = 0
    · simp only [hret, ne_eq, not_true_eq_false, if_false, Traced.post_pure]
      refine ⟨trivial, ?_⟩
      simpa only [resolveActs, hret, List.append_nil, List.cons_append, List.nil_append]
        using HandledNull.resolved h hret
    · simp only [hret, ne_eq, not_false_eq_true, if_true, Traced.post_bind,
        Traced.post_of_stop run_fsRdmaCmHandleDisconnect_null]
      exact ⟨trivial, NullStuck.unresolved h hret⟩
  case routeResolved =>
    rw [dispatch, Traced.post_bind, Traced.post_emit, h]
    simp only [fsRdmaCmHandleRouteResolved, Option.isNone_some, Bool.false_eq_true, if_false,
      Traced.post_bind, Traced.post_of_stop (run_fsRdmaCreateResources_null config _)]
    exact ⟨trivial, NullStuck.creating (Or.inl h)⟩
  case connectRequest =>
    rw [dispatch, Traced.post_bind, Traced.post_emit, h]
    simp only [fsRdmaCmHandleConnectRequest, Traced.post_bind,
      Traced.post_of_stop (run_fsRdmaCreateResources_null config _)]
    exact ⟨trivial, NullStuck.creating (Or.inr h)⟩
  case established =>
    rw [dispatch, Traced.post_bind, Traced.post_emit, h]
    simp only [fsRdmaCmHandleConnectInit, Traced.post_bind, Traced.post_emit, post_rdmaCtx_null]
    exact ⟨trivial, NullStuck.established h⟩
  case disconnected =>
    rw [dispatch, Traced.post_bind, Traced.post_emit, h]
    simp only [Traced.post_bind, Traced.post_emit,
      Traced.post_of_stop run_fsRdmaCmHandleDisconnect_null]
    exact ⟨trivial, NullStuck.disconnected h⟩
  case addrError | routeError | connectError | unreachable | rejected =>
    rw [dispatch, Traced.post_bind, Traced.post_emit, h]
    simp only [fsRdmaCmHandleEventError, Traced.post_bind, Traced.post_emit,
      Traced.post_of_stop run_fsRdmaCmHandleDisconnect_null]
    exact ⟨trivial, NullStuck.error (by rw [h]; rfl)⟩
  case connectResponse | deviceRemoval | multicastJoin | multicastError | addrChange |
      timewaitExit =>
    rw [dispatch, Traced.post_bind, Traced.post_emit, h]
    simp only [Traced.post_bind, Traced.post_emit, Traced.post_pure, List.append_nil]
    exact ⟨trivial, HandledNull.other (by rw [h]; rfl)⟩

end Null

/-! ### Runs -/

/-- The actions before an event is handled: it is obtained and copied. -/
def obtainActs (channel : Ptr) (event : CmEvent) : List Act :=
  [.rdmaGetCmEvent channel (some event), .readEvent event]

/-- The actions of a turn that obtains no event: the copy is taken of what the
pointer still leads to. -/
def idleActs (channel : Ptr) (event : Option CmEvent) : List Act :=
  .rdmaGetCmEvent channel none :: event.toList.map .readEvent

/-- **A turn that obtains an event**, with a context. -/
theorem post_turn_obtained {channel : Ptr} {b : Option CmEvent} {event : CmEvent}
    {o : HandlerOutcomes} {c : RdmaContext} :
    Traced.Post (turn config channel b ⟨some event, o⟩) (some c)
      (fun r s t => ∃ r' c' t', r = some r' ∧ s = some c' ∧ t = obtainActs channel event ++ t' ∧
        Handled config o event c r' c' t')
      (fun _ s t => ∃ c' t', s = some c' ∧ t = obtainActs channel event ++ t' ∧
        HandledStuck config o event c c' t') := by
  rw [turn, Traced.post_bind, Traced.post_emit]
  change Traced.Post (Traced.emit _ >>= _) (some c) _ _
  rw [Traced.post_bind, Traced.post_emit, Traced.post_bind]
  refine post_dispatch.mono ?_ ?_
  · rintro r s t ⟨c', rfl, hran⟩
    rw [Traced.post_pure, List.append_nil]
    exact ⟨r, c', t, rfl, rfl, rfl, hran⟩
  · rintro e s t ⟨c', rfl, hran⟩
    exact ⟨c', t, rfl, rfl, hran⟩

/-- Without one. -/
theorem post_turn_obtained_null {channel : Ptr} {b : Option CmEvent} {event : CmEvent}
    {o : HandlerOutcomes} :
    Traced.Post (turn config channel b ⟨some event, o⟩) none
      (fun r s t => ∃ r' t', r = some r' ∧ s = none ∧ t = obtainActs channel event ++ t' ∧
        HandledNull o event r' t')
      (fun _ s t => ∃ t', s = none ∧ t = obtainActs channel event ++ t' ∧
        NullStuck o event t') := by
  rw [turn, Traced.post_bind, Traced.post_emit]
  change Traced.Post (Traced.emit _ >>= _) none _ _
  rw [Traced.post_bind, Traced.post_emit, Traced.post_bind]
  refine post_dispatch_null.mono ?_ ?_
  · rintro r s t ⟨rfl, hran⟩
    rw [Traced.post_pure, List.append_nil]
    exact ⟨r, t, rfl, rfl, rfl, hran⟩
  · rintro e s t ⟨rfl, hran⟩
    exact ⟨t, rfl, rfl, hran⟩

/-- A turn that obtains no event leaves the loop, or stops. -/
theorem post_turn_idle {channel : Ptr} {b : Option CmEvent} {o : HandlerOutcomes}
    {s : Option RdmaContext} :
    Traced.Post (turn config channel b ⟨none, o⟩) s
      (fun r s' t => r = none ∧ s' = s ∧ t = idleActs channel b)
      (fun _ s' t => s' = s ∧ t = idleActs channel b) := by
  rw [turn, Traced.post_bind, Traced.post_emit]
  -- the pointer of the turn before is followed
  rcases b with _ | b
  · exact ⟨rfl, rfl⟩
  · exact ⟨rfl, rfl, rfl⟩

/-- **A condition on every step of a run**: it is asked of the history, the state
and the tick with which every turn of the event loop begins. -/
def RunMeets (P : List Act → Option RdmaContext → Tick → Prop) (config : RdmaParam)
    (channel : Ptr) (start : Start) (ticks : List Tick) : Prop :=
  ∀ s t, start.code config none = ⟨.ok (), s, t⟩ →
    Traced.Meets P (turn config channel) none s t ticks

/-- **An invariant of runs** under a condition `P` on every step: `I` speaks of the
state and the history between two turns, `G` of how the run ends, its state and its
trace, wherever that is. -/
structure RunInvariant (config : RdmaParam) (channel : Ptr) (start : Start)
    (P : List Act → Option RdmaContext → Tick → Prop) (I : Option RdmaContext → List Act → Prop)
    (G : Except Fault Unit → Option RdmaContext → List Act → Prop) : Prop where
  /-- It holds after the start. -/
  started : ∀ s t, Started config start s t → I s t
  /-- The start that ends the process is fine. -/
  exits : ∀ e s t, StartExits config start t → G (.error e) s t
  /-- An event that is handled keeps it. -/
  handled : ∀ c h o event r c' t, P h (some c) ⟨some event, o⟩ → I (some c) h →
    Handled config o event c r c' t → I (some c') (h ++ (obtainActs channel event ++ t))
  /-- Handling an event may stop. -/
  stuck : ∀ c h o event c' t e, P h (some c) ⟨some event, o⟩ → I (some c) h →
    HandledStuck config o event c c' t →
    G (.error e) (some c') (h ++ (obtainActs channel event ++ t))
  /-- Without a context, an event that is handled keeps it. -/
  handledNull : ∀ h o event r t, P h none ⟨some event, o⟩ → I none h →
    HandledNull o event r t → I none (h ++ (obtainActs channel event ++ t))
  /-- Without a context, handling an event may stop. -/
  nullStuck : ∀ h o event t e, P h none ⟨some event, o⟩ → I none h → NullStuck o event t →
    G (.error e) none (h ++ (obtainActs channel event ++ t))
  /-- The run may end where no event is obtained. -/
  idle : ∀ s h event out, I s h → G out s (h ++ idleActs channel event)
  /-- The run may end, or wait, between two turns. -/
  ends : ∀ s h out, I s h → G out s h

variable {channel : Ptr} {start : Start} {P : List Act → Option RdmaContext → Tick → Prop}
  {I : Option RdmaContext → List Act → Prop}
  {G : Except Fault Unit → Option RdmaContext → List Act → Prop}

/-- One turn of the event loop keeps an invariant. -/
theorem RunInvariant.post_turn (hI : RunInvariant config channel start P I G)
    (b : Option CmEvent) (s : Option RdmaContext) (h : List Act) (tick : Tick) (hP : P h s tick)
    (hs : I s h) : Traced.Post (turn config channel b tick) s
      (fun r s' t => match r with
        | some _ => I s' (h ++ t)
        | none => G (.ok ()) s' (h ++ t))
      (fun e s' t => G (.error e) s' (h ++ t)) := by
  obtain ⟨got, o⟩ := tick
  rcases got with _ | event
  · refine post_turn_idle.mono ?_ ?_
    · rintro r s' t ⟨rfl, rfl, rfl⟩
      exact hI.idle s' h b _ hs
    · rintro e s' t ⟨rfl, rfl⟩
      exact hI.idle s' h b _ hs
  rcases s with _ | c
  · refine post_turn_obtained_null.mono ?_ ?_
    · rintro r s t ⟨r', t', rfl, rfl, rfl, hran⟩
      exact hI.handledNull h o event r' t' hP hs hran
    · rintro e s t ⟨t', rfl, rfl, hran⟩
      exact hI.nullStuck h o event t' e hP hs hran
  · refine post_turn_obtained.mono ?_ ?_
    · rintro r s t ⟨r', c', t', rfl, rfl, rfl, hran⟩
      exact hI.handled c h o event r' c' t' hP hs hran
    · rintro e s t ⟨c', t', rfl, rfl, hran⟩
      exact hI.stuck c h o event c' t' e hP hs hran

/-- **The induction over a run.** An invariant that holds after the start and is
kept by every event holds however far the run gets, and so does what follows from
it wherever the run ends. -/
theorem RunInvariant.post_run (hI : RunInvariant config channel start P I G) {ticks : List Tick}
    (hP : RunMeets P config channel start ticks) :
    Traced.Post (run config channel start ticks) none (fun _ s t => G (.ok ()) s t)
      (fun e s t => G (.error e) s t) := by
  have hstart := post_start config start
  rw [run, Traced.post_bind]
  rcases hrun : start.code config none with ⟨e | ⟨⟩, s, t⟩
  · have hend : StartExits config start t ∨ Started config start s t := hstart.of_error hrun
    simp only [Traced.Post, hrun]
    rcases hend with hexit | hstarted
    · exact hI.exits e s t hexit
    · exact hI.ends s t _ (hI.started s t hstarted)
  · have hstarted : Started config start s t := hstart.of_ok hrun
    rw [Traced.post_of_run hrun, fsRdmaCmEventHandler]
    refine Traced.post_loopOver (fun _ s h => I s h) (fun b s h tick htick hs => ?_)
      (fun _ s h hs => hI.ends s h _ hs) (hP s t hrun) (hI.started s t hstarted)
    refine (hI.post_turn b s h tick htick hs).mono ?_ fun _ _ _ hr => hr
    rintro (_ | b') s' t' hr
    · exact hr
    · exact hr

/-! ### The sample client -/

/-- Creating the resources of the sample client succeeds while its arrays are there. -/
theorem Sample.createSucceeds {c : RdmaContext} (hid : c.cmId ≠ none) (hqp : room c.qp = 2)
    (hmr : room c.mr = 2) (hbuf : room c.buf = 2) :
    CreateSucceeds Sample.config Sample.create c := by
  have hturns : Sample.config.turns = 2 := rfl
  refine ⟨by decide, Or.inr ⟨⟨fun _ => by decide, fun i hi => ?_⟩, fun i hi => ?_⟩⟩
  · exact ⟨Option.some_ne_none _, hid, by omega⟩
  · refine ⟨⟨by omega, Option.some_ne_none _, by omega⟩, Option.some_ne_none _⟩

/-- A resolved route does not make the sample client tear down. -/
theorem Sample.not_tearsDown_routeResolved {c : RdmaContext} {id : ℕ} (hid : c.cmId ≠ none)
    (hqp : room c.qp = 2) (hmr : room c.mr = 2) (hbuf : room c.buf = 2) :
    ¬TearsDown Sample.config Sample.handler (Sample.event .routeResolved id) c := by
  have hsucc := Sample.createSucceeds hid hqp hmr hbuf
  rintro (hfirst | hkind | hkind)
  · rcases (tearsDownFirst_routeResolved rfl).mp hfirst with hfails | ⟨-, hret⟩
    · exact not_createFails_of_createSucceeds hsucc hfails
    · exact hret rfl
  · cases hkind
  · cases hkind

end Transport
