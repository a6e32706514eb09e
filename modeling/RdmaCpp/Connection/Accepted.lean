import RdmaCpp.Connection.ClientRan

/-!
# Which events the client accepts

The resolution of `rdma_client_connect`, and what becomes of the events it obtains. Its loops
come to an end whatever is delivered, within one call more than there are retries; `ctx_init`
is reached by exactly the sequences of events that begin as they should; and every event is
acknowledged, once, on every way out (`Connection.resolution_of_lt`).
-/

namespace Connection

/-! ### What the resolution should do -/

/-- The kind of the `k`-th event delivered. -/
def kindAt (o : ClientOutcomes) (k : ℕ) : Option CmEventType :=
  (o.rdmaGetCmEvent k).map CmEvent.event

/-- **The events begin** with `a` address errors, the address, `r` route errors and the
route. -/
def EventsBegin (o : ClientOutcomes) (a r : ℕ) : Prop :=
  (∀ i < a, kindAt o i = some .addrError) ∧ kindAt o a = some .addrResolved ∧
    (∀ j < r, kindAt o (a + 1 + j) = some .routeError) ∧
    kindAt o (a + 1 + r) = some .routeResolved

/-- The calls of the resolution succeed: an address is found, and it is one of an internet
socket; and no resolution and no event fails. -/
structure CallsSucceed (o : ClientOutcomes) : Prop where
  found : Found o.checkAddPort
  addr : ∀ k, o.rdmaResolveAddr k = 0
  route : ∀ k, o.rdmaResolveRoute k = 0
  events : ∀ k, o.rdmaGetCmEvent k ≠ none

/-- Control reaches `ctx_init`. -/
def ReachesCtxInit (t : List Act) : Prop := ∃ user ret, .ctxInit user ret ∈ t

/-- **The client resolves as it should**, in a run that ends so. -/
structure Resolution (numOfRetries : ℕ) (o : ClientOutcomes) (r : Ran Conn Act Stop ℤ) : Prop where
  /-- The loops come to an end. -/
  ends : r.out ≠ .error .outOfTurns
  /-- They make their calls at most so often. -/
  bounded : r.trace.countP Act.isResolve ≤ numOfRetries + 1
  /-- What is delivered leads on exactly when it begins as it should. -/
  reaches : CallsSucceed o →
    (ReachesCtxInit r.trace ↔ ∃ a b, a + b < numOfRetries ∧ EventsBegin o a b)
  /-- Everything else is a failure. -/
  fails : ¬ReachesCtxInit r.trace → r.out = .ok FAILURE
  /-- No event is acknowledged, or read, that has been acknowledged before. -/
  owned : OwnsEvents r.trace
  /-- Where the function returns every event has been acknowledged. -/
  settled : ∀ ret, r.out = .ok ret → Connection.events.live [] r.trace = []

variable {o : ClientOutcomes} {numOfRetries turns k : ℕ} {s s' : Conn} {ret : ℤ} {t : List Act}

/-- Where the calls succeed it is the events that decide. -/
theorem exists_eventsBegin_iff (h : CallsSucceed o) :
    (∃ a b, a + b < numOfRetries ∧ EventsBegin o a b) ↔ ∃ k, ResolvedAt numOfRetries o k := by
  constructor
  · rintro ⟨a, b, hlt, haddrs, haddr, hroutes, hroute⟩
    refine ⟨a + b + 2, h.found, a, b, hlt, rfl, ⟨fun i hi => ⟨h.addr _, ?_⟩, h.addr _, ?_⟩,
      ⟨fun j hj => ⟨h.route _, hroutes j hj⟩, h.route _, hroute⟩⟩
    · rw [Nat.zero_add]
      exact haddrs i hi
    · rwa [Nat.zero_add]
  · rintro ⟨k, -, a, b, hlt, -, ⟨haddrs, -, haddr⟩, hroutes, -, hroute⟩
    refine ⟨a, b, hlt, fun i hi => ?_, ?_, fun j hj => (hroutes j hj).2, hroute⟩
    · have hkind := (haddrs i hi).2
      rwa [Nat.zero_add] at hkind
    · rwa [Nat.zero_add] at haddr

/-! ### After the resolution -/

theorem connectActs_isEvent : ∀ a ∈ connectActs o s, a.isEvent = false ∧ a.isResolve = false := by
  intro a ha
  rcases List.mem_append.mp ha with ha | ha
  · rw [recvActs] at ha
    split at ha
    · rw [List.mem_singleton.mp ha]
      exact ⟨rfl, rfl⟩
    · exact absurd ha List.not_mem_nil
  · rw [List.mem_singleton.mp ha]
    exact ⟨rfl, rfl⟩

theorem leads_connectActs : events.monitor.Leads [] (connectActs o s) [] :=
  leads_of_isEvent fun a ha => (connectActs_isEvent a ha).1

/-- The event is looked at, and an address handle is made. -/
theorem leads_ahActs (event : CmEvent) (pd : Ptr) :
    events.monitor.Leads [event] (ahActs o event pd) [event] := by
  have hlive : event ∈ [event] := List.mem_cons_self
  refine leads_readEvent hlive (leads_readEvent hlive (leads_readEvent hlive
    (leads_readEvent hlive (leads_cons rfl (Monitor.leads_nil _ _)))))

/-- **The last event is acknowledged** whatever comes of it. -/
theorem ConnectRan.leads (h : ConnectRan o k s ret s' t) : events.monitor.Leads [] t [] := by
  have hnil := Monitor.leads_nil events.monitor []
  cases h with
  | noRecv =>
    exact leads_of_isEvent fun a ha => (connectActs_isEvent a (List.mem_append_left _ ha)).1
  | noConnect => exact leads_connectActs
  | noEvent => exact leads_connectActs.append (leads_rdmaGetCmEvent_none hnil)
  | unexpected => exact leads_connectActs.append (leads_obtained 2 hnil)
  | done => exact leads_connectActs.append (leads_obtained 1 hnil)
  | doneUd =>
    exact leads_connectActs.append (leads_rdmaGetCmEvent
      ((leads_ahActs _ _).append (leads_rdmaAckCmEvent hnil)))

/-- A run that stops has not used an event that it does not own. -/
theorem ConnectStuck.accepts {e : Stop} (h : ConnectStuck o k s e s' t) :
    events.monitor.Accepts [] t := by
  cases h with
  | mk =>
    exact (leads_connectActs.append (leads_rdmaGetCmEvent (leads_ahActs _ _))).1

/-- There is nothing to resolve any more. -/
theorem countP_isResolve_connectActs : (connectActs o s).countP Act.isResolve = 0 := by
  refine List.countP_eq_zero.mpr fun a ha => ?_
  rw [(connectActs_isEvent a ha).2]
  exact Bool.false_ne_true

theorem ConnectRan.countP_isResolve (h : ConnectRan o k s ret s' t) :
    t.countP Act.isResolve = 0 := by
  cases h with
  | noRecv =>
    -- it is the first part of what the others do
    have hcalls := countP_isResolve_connectActs (o := o) (s := s)
    rw [connectActs, List.countP_append] at hcalls
    exact (Nat.add_eq_zero_iff.mp hcalls).1
  | noConnect => exact countP_isResolve_connectActs
  | noEvent | unexpected | done | doneUd =>
    rw [List.countP_append, countP_isResolve_connectActs]
    rfl

theorem ConnectStuck.countP_isResolve {e : Stop} (h : ConnectStuck o k s e s' t) :
    t.countP Act.isResolve = 0 := by
  cases h with
  | mk =>
    rw [List.countP_append, countP_isResolve_connectActs]
    rfl

/-! ### The whole function -/

/-- `ctx_init` is no part of the resolution. -/
theorem Resolves.not_reachesCtxInit {n : ℕ} (h : Resolves n t) : ¬ReachesCtxInit t := by
  rintro ⟨user, ret, hmem⟩
  cases h.resolution _ hmem

/-- **`rdma_client_connect` resolves as it should**, on every sequence of events. -/
theorem resolution_of_lt (numOfRetries turns : ℕ) (o : ClientOutcomes) (s : Conn)
    (hturns : numOfRetries < turns) :
    Resolution numOfRetries o (rdmaClientConnectIn turns numOfRetries o s) := by
  have hpost := post_rdmaClientConnectIn hturns o s
  have hreaches : ∀ t t' user ret, ReachesCtxInit (t ++ .ctxInit user ret :: t') :=
    fun _ _ user ret => ⟨user, ret, List.mem_append_right _ List.mem_cons_self⟩
  have hcount : ∀ {t t' : List Act} {user ret}, Resolves (numOfRetries + 1) t →
      t'.countP Act.isResolve = 0 →
      (t ++ .ctxInit user ret :: t').countP Act.isResolve ≤ numOfRetries + 1 := by
    intro t t' user ret h h'
    rw [List.countP_append, List.countP_cons, h']
    exact h.bounded
  -- the exits of the function, one after another
  rcases hrun : rdmaClientConnectIn turns numOfRetries o s with ⟨e | ret, s', t⟩
  · cases hpost.of_error hrun with
    | mk h hat hleads hok hstuck =>
      refine ⟨?_, hcount h hstuck.countP_isResolve, fun hcalls => ?_,
        fun hno => absurd (hreaches _ _ _ _) hno, ownsEvents_iff.mpr ?_, fun ret hout => ?_⟩
      · cases hstuck with
        | mk _ _ _ _ _ _ he =>
          intro hc
          cases hc
          exact he rfl
      · rw [exists_eventsBegin_iff hcalls]
        exact ⟨fun _ => ⟨_, hat⟩, fun _ => hreaches _ _ _ _⟩
      · exact (events.monitor.accepts_append _ _ _).mpr ⟨h.leads.1, by
          rw [h.leads.2]
          exact ⟨trivial, hstuck.accepts⟩⟩
      · cases hout
  · have hran := hpost.of_ok hrun
    have hleads : events.monitor.Leads [] t [] := by
      cases hran with
      | unresolved h => exact h.leads
      | noInit h => exact h.leads.append (leads_cons rfl (Monitor.leads_nil _ _))
      | ran h hat hleads hok hconn => exact h.leads.append (leads_cons rfl hconn.leads)
    refine ⟨?_, ?_, fun hcalls => ?_, fun hno => ?_, ownsEvents_iff.mpr hleads.1,
      fun _ _ => hleads.2⟩
    · intro hc
      cases hc
    · cases hran with
      | unresolved h => exact h.bounded
      | noInit h => exact hcount h rfl
      | ran h hat hleads hok hconn => exact hcount h hconn.countP_isResolve
    · rw [exists_eventsBegin_iff hcalls]
      cases hran with
      | unresolved h hno =>
        exact ⟨fun hc => absurd hc h.not_reachesCtxInit, fun ⟨k, hk⟩ => absurd hk (hno k)⟩
      | noInit h hat => exact ⟨fun _ => ⟨_, hat⟩, fun _ => hreaches _ _ _ _⟩
      | ran h hat => exact ⟨fun _ => ⟨_, hat⟩, fun _ => hreaches _ _ _ _⟩
    · cases hran with
      | unresolved => rfl
      | noInit => exact absurd (hreaches _ _ _ _) hno
      | ran => exact absurd (hreaches _ _ _ _) hno

/-- With two retries, and no error. -/
theorem resolution_of_lt_sample :
    Resolution 2 Sample.client (rdmaClientConnectIn 3 2 Sample.client ⟨Sample.user, Sample.ctx⟩) :=
  resolution_of_lt 2 3 _ _ (by decide)

end Connection
