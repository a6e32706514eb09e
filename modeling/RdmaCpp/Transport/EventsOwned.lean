import RdmaCpp.Lib.Monitor
import RdmaCpp.Transport.Handled

/-!
# Who owns an event

An event belongs to the code from the moment `rdma_get_cm_event` delivers it until
`rdma_ack_cm_event` takes it back; before and after that, its pointer must not be
followed. The event loop keeps the pointer in a variable over all its turns, and what
the variable holds at the beginning of a turn depends on the arm the turn before went
through: `NULL` after an arm that acknowledges on its own, the pointer to an event
that is gone after the others.

That is harmless as long as the next call delivers: it overwrites the variable. But
the copy `memcpy(&event_copy, event, …)` comes before the look at the result, so it
is the old pointer that is followed when the call fails. Every handler uses its event
correctly, and the loop does exactly until a call fails
(`Transport.allOwned_iff_noneFails`).
-/

namespace Transport

/-! ### The monitor -/

/-- **Watching who owns the event**: what is remembered is the event obtained and not
yet acknowledged. Another one may be asked for when there is none, and only that one
may be read and acknowledged. -/
def ownMonitor : Monitor (Option CmEvent) Act where
  step u a := match a with
    | .rdmaGetCmEvent _ (some e) => some e
    | .rdmaAckCmEvent _ => none
    | _ => u
  Ok u a := match a with
    | .rdmaGetCmEvent _ _ => u = none
    | .rdmaAckCmEvent e => u = some e
    | .readEvent e => u = some e
    | _ => True

/-- The event that the code owns after a history. -/
def owned (h : List Act) : Option CmEvent := ownMonitor.after none h

/-- **The events are owned when they are used**, in a run of the event loop with this
outcome and these actions. -/
structure EventsOwned (out : Except Fault Unit) (t : List Act) : Prop where
  /-- The event before has been acknowledged when another one is asked for. -/
  gets : ∀ h ch got r, t = h ++ .rdmaGetCmEvent ch got :: r → owned h = none
  /-- An event that is acknowledged has not been acknowledged before. -/
  acks : ∀ h e r, t = h ++ .rdmaAckCmEvent e :: r → owned h = some e
  /-- An event that is read has been obtained and not been acknowledged. -/
  reads : ∀ h e r, t = h ++ .readEvent e :: r → owned h = some e
  /-- A loop that is left, or waits, has acknowledged everything. -/
  settled : out = .ok () → owned t = none
  /-- Where no event is obtained no pointer is followed: the loop is left. -/
  unfollowed : ∀ ch, .rdmaGetCmEvent ch none ∈ t → out = .ok ()

/-- The same, by the monitor. -/
theorem eventsOwned_iff {out : Except Fault Unit} {t : List Act} :
    EventsOwned out t ↔ ownMonitor.Accepts none t ∧ (out = .ok () → owned t = none) ∧
      ∀ ch, .rdmaGetCmEvent ch none ∈ t → out = .ok () := by
  rw [ownMonitor.accepts_iff]
  constructor
  · intro h
    refine ⟨fun u a r hcut => ?_, h.settled, h.unfollowed⟩
    cases a with
    | rdmaGetCmEvent ch got => exact h.gets u ch got r hcut
    | rdmaAckCmEvent e => exact h.acks u e r hcut
    | readEvent e => exact h.reads u e r hcut
    | _ => exact trivial
  · rintro ⟨hok, hsettled, hun⟩
    exact ⟨fun h ch got r hcut => hok h _ r hcut, fun h e r hcut => hok h _ r hcut,
      fun h e r hcut => hok h _ r hcut, hsettled, hun⟩

/-! ### One event -/

/-- The actions that obtain, acknowledge or read an event. -/
def Act.isEvent : Act → Bool
  | .rdmaGetCmEvent .. | .rdmaAckCmEvent _ | .readEvent _ => true
  | _ => false

theorem Act.isEvent_of_isResource {a : Act} (h : a.isResource = true) : a.isEvent = false := by
  cases a <;> first | rfl | exact absurd h Bool.false_ne_true

/-- The action is none on an event other than a look at this one. -/
def Act.OnlyReads (event : CmEvent) (a : Act) : Prop := a.isEvent = false ∨ a = .readEvent event

/-- The actions are none on an event other than looks at this one. -/
def OnlyRead (event : CmEvent) (t : List Act) : Prop := ∀ a ∈ t, a.OnlyReads event

variable {config : RdmaParam} {event : CmEvent} {t t' : List Act}

theorem OnlyRead.append (h : OnlyRead event t) (h' : OnlyRead event t') :
    OnlyRead event (t ++ t') := List.forall_mem_append.mpr ⟨h, h'⟩

theorem OnlyRead.cons {a : Act} (ha : a.OnlyReads event) (h : OnlyRead event t) :
    OnlyRead event (a :: t) := List.forall_mem_cons.mpr ⟨ha, h⟩

theorem onlyRead_of_isEvent (h : ∀ a ∈ t, a.isEvent = false) : OnlyRead event t :=
  fun a ha => Or.inl (h a ha)

/-- The event stays owned. -/
theorem OnlyRead.leads (h : OnlyRead event t) : ownMonitor.Leads (some event) t (some event) := by
  refine Monitor.leads_of_neutral fun a ha => ?_
  rcases h a ha with hno | rfl
  · cases a with
    | rdmaGetCmEvent | rdmaAckCmEvent | readEvent => cases hno
    | _ => exact ⟨trivial, rfl⟩
  · exact ⟨rfl, rfl⟩

theorem OnlyRead.not_mem (h : OnlyRead event t) (ch : Ptr) (got : Option CmEvent) :
    .rdmaGetCmEvent ch got ∉ t := by
  intro hmem
  rcases h _ hmem with hc | hc
  · cases hc
  · cases hc

/-- Without an event nothing is owned. -/
theorem leads_of_isEvent {u : Option CmEvent} (h : ∀ a ∈ t, a.isEvent = false) :
    ownMonitor.Leads u t u := by
  refine Monitor.leads_of_neutral fun a ha => ?_
  have hno := h a ha
  cases a with
  | rdmaGetCmEvent | rdmaAckCmEvent | readEvent => cases hno
  | _ => exact ⟨trivial, rfl⟩

/-- **An event is used and acknowledged**, once and in this order. -/
inductive AckedOnce (event : CmEvent) : List Act → Prop
  | mk {t t' : List Act} (h : OnlyRead event t) (h' : ∀ a ∈ t', a.isEvent = false) :
      AckedOnce event (t ++ .rdmaAckCmEvent event :: t')

theorem AckedOnce.leads (h : AckedOnce event t) : ownMonitor.Leads (some event) t none := by
  obtain ⟨hread, hrest⟩ := h
  exact hread.leads.append (Monitor.Leads.cons rfl (leads_of_isEvent hrest))

theorem AckedOnce.not_mem (h : AckedOnce event t) (ch : Ptr) (got : Option CmEvent) :
    .rdmaGetCmEvent ch got ∉ t := by
  obtain ⟨hread, hrest⟩ := h
  intro hmem
  rcases List.mem_append.mp hmem with hmem | hmem
  · exact hread.not_mem ch got hmem
  · rcases List.mem_cons.mp hmem with hc | hmem
    · cases hc
    · cases hrest _ hmem

/-- The acknowledgement at the bottom of the turn. -/
theorem AckedOnce.bottom (h : OnlyRead event t) :
    AckedOnce event (t ++ [.rdmaAckCmEvent event]) :=
  AckedOnce.mk h fun _ ha => absurd ha List.not_mem_nil

/-! ### The handlers -/

/-- A teardown does not touch events. -/
theorem isEvent_teardownActs (c : RdmaContext) :
    ∀ a ∈ teardownActs config c, a.isEvent = false := by
  have hshared : ∀ a ∈ sharedReleaseActs config c, a.isEvent = false := fun a ha =>
    Act.isEvent_of_isResource
      (Act.isResource_of_isShared (List.all_eq_true.mp (all_sharedReleaseActs config c) a ha))
  have hid : ∀ a ∈ releaseAct c.cmId (.rdmaDestroyId c.cmId), a.isEvent = false := by
    intro a ha
    have hall : (releaseAct c.cmId (.rdmaDestroyId c.cmId)).all (fun a => !a.isEvent) = true :=
      all_releaseAct rfl
    simpa using List.all_eq_true.mp hall a ha
  refine List.forall_mem_cons.mpr ⟨rfl, List.forall_mem_append.mpr ⟨hshared, ?_⟩⟩
  exact List.forall_mem_append.mpr ⟨hid, List.forall_mem_singleton.mpr rfl⟩

/-- Neither does the creation of the resources. -/
theorem CreateRan.isEvent {o : CreateOutcomes} {c c' : RdmaContext} {ret : ℤ}
    (h : CreateRan config o c ret c' t) : ∀ a ∈ t, a.isEvent = false := by
  obtain ⟨⟨t', rfl, hall⟩, -⟩ := h.frame
  refine List.forall_mem_cons.mpr ⟨rfl, List.forall_mem_append.mpr ⟨fun a ha => ?_, ?_⟩⟩
  · exact Act.isEvent_of_isResource (List.all_eq_true.mp hall a ha)
  · exact List.forall_mem_singleton.mpr rfl

theorem BodyStuck.isEvent {o : CreateOutcomes} {c c' : RdmaContext}
    (h : BodyStuck config o c c' t) : ∀ a ∈ t, a.isEvent = false := fun a ha =>
  Act.isEvent_of_isResource
    (Act.isResource_of_isMaking (List.all_eq_true.mp h.frame.1 a ha))

/-- The connection check looks at the event twice. -/
theorem onlyRead_initActs (event : CmEvent) (c : RdmaContext) :
    OnlyRead event (initActs event c) := by
  refine OnlyRead.cons (Or.inr rfl) (OnlyRead.cons (Or.inr rfl) ?_)
  refine onlyRead_of_isEvent fun a ha => ?_
  split at ha
  · exact absurd ha List.not_mem_nil
  · rw [List.mem_singleton.mp ha]
    rfl

theorem onlyRead_resolveActs (o : HandlerOutcomes) (event : CmEvent) :
    OnlyRead event (resolveActs o event) :=
  OnlyRead.cons (Or.inr rfl) (OnlyRead.cons (Or.inr rfl)
    (onlyRead_of_isEvent (List.forall_mem_singleton.mpr rfl)))

/-- The looks of the arms that print the kind of the event. -/
theorem onlyRead_twice (event : CmEvent) :
    OnlyRead event [.readEvent event, .readEvent event] :=
  OnlyRead.cons (Or.inr rfl) (OnlyRead.cons (Or.inr rfl) fun _ ha => absurd ha List.not_mem_nil)

/-- **Every event that is handled is acknowledged once**, and used only before that. -/
theorem Handled.ackedOnce {o : HandlerOutcomes} {c c' : RdmaContext} {r : Option CmEvent}
    (h : Handled config o event c r c' t) : AckedOnce event t := by
  -- the handlers that acknowledge at the bottom, after a first look at the kind
  have hbottom : ∀ {t₁ : List Act}, OnlyRead event t₁ →
      AckedOnce event (.readEvent event :: (t₁ ++ [.rdmaAckCmEvent event])) := fun h₁ =>
    AckedOnce.bottom (OnlyRead.cons (Or.inr rfl) h₁)
  have htear : ∀ c₁ : RdmaContext, OnlyRead event (teardownActs config c₁) := fun c₁ =>
    onlyRead_of_isEvent (isEvent_teardownActs c₁)
  cases h with
  | other => exact AckedOnce.bottom (onlyRead_twice event)
  | resolved => exact AckedOnce.bottom (onlyRead_resolveActs o event)
  | unresolved =>
    rw [← List.append_assoc]
    exact AckedOnce.bottom ((onlyRead_resolveActs o event).append (htear c))
  | uncreated _ hran =>
    rw [← List.append_assoc]
    exact hbottom ((onlyRead_of_isEvent hran.isEvent).append (htear _))
  | @unconnected c₁ t₁ _ hran =>
    have h₁ : OnlyRead event (t₁ ++ (Act.rdmaConnect c₁.cmId (connParam config) o.rdmaConnect ::
        teardownActs config c₁)) :=
      (onlyRead_of_isEvent hran.isEvent).append (OnlyRead.cons (Or.inl rfl) (htear c₁))
    simpa only [List.append_assoc, List.cons_append] using hbottom h₁
  | connecting _ hran =>
    have h₁ : OnlyRead event (_ ++ [Act.rdmaConnect c'.cmId (connParam config) o.rdmaConnect]) :=
      (onlyRead_of_isEvent hran.isEvent).append
        (onlyRead_of_isEvent (List.forall_mem_singleton.mpr rfl))
    simpa only [List.append_assoc, List.cons_append, List.nil_append] using hbottom h₁
  | @unaccepted c₁ t₁ _ hran =>
    have h₁ : OnlyRead event (t₁ ++ (Act.rdmaAccept c₁.cmId (connParam config) o.rdmaAccept ::
        teardownActs config c₁)) :=
      (onlyRead_of_isEvent hran.isEvent).append (OnlyRead.cons (Or.inl rfl) (htear c₁))
    simpa only [List.append_assoc, List.cons_append] using hbottom h₁
  | @accepted c₁ t₁ _ hran =>
    have h₁ : OnlyRead event (t₁ ++ (Act.rdmaAccept c₁.cmId (connParam config) o.rdmaAccept ::
        initActs event c₁)) :=
      (onlyRead_of_isEvent hran.isEvent).append
        (OnlyRead.cons (Or.inl rfl) (onlyRead_initActs event c₁))
    simpa only [List.append_assoc, List.cons_append] using hbottom h₁
  | established => exact hbottom (onlyRead_initActs event c)
  | error => exact AckedOnce.mk (onlyRead_twice event) (isEvent_teardownActs c)
  | disconnected =>
    have h₁ : OnlyRead event [.readEvent event] := OnlyRead.cons (Or.inr rfl) nofun
    exact AckedOnce.mk h₁ (isEvent_teardownActs c)

/-- So it is without a context. -/
theorem HandledNull.ackedOnce {o : HandlerOutcomes} {r : Option CmEvent}
    (h : HandledNull o event r t) : AckedOnce event t := by
  cases h with
  | other => exact AckedOnce.bottom (onlyRead_twice event)
  | resolved => exact AckedOnce.bottom (onlyRead_resolveActs o event)

/-- **An event whose handling stops** is used before it is acknowledged only, as far as it
gets. -/
theorem HandledStuck.onlyRead {o : HandlerOutcomes} {c c' : RdmaContext}
    (h : HandledStuck config o event c c' t) : OnlyRead event t := by
  obtain ⟨-, hstuck⟩ := h
  exact OnlyRead.cons (Or.inr rfl) (OnlyRead.cons (Or.inl rfl) (onlyRead_of_isEvent hstuck.isEvent))

theorem NullStuck.onlyRead_or {o : HandlerOutcomes} (h : NullStuck o event t) :
    OnlyRead event t ∨ AckedOnce event t := by
  cases h with
  | unresolved =>
    exact Or.inl ((onlyRead_resolveActs o event).append
      (onlyRead_of_isEvent (List.forall_mem_singleton.mpr rfl)))
  | creating =>
    refine Or.inl (OnlyRead.cons (Or.inr rfl) (onlyRead_of_isEvent fun a ha => ?_))
    simp only [List.mem_cons, List.not_mem_nil, or_false] at ha
    rcases ha with rfl | rfl | rfl <;> rfl
  | established => exact Or.inl (onlyRead_twice event)
  | error => exact Or.inr (AckedOnce.mk (onlyRead_twice event) (List.forall_mem_singleton.mpr rfl))
  | disconnected =>
    have h₁ : OnlyRead event [.readEvent event] := OnlyRead.cons (Or.inr rfl) nofun
    exact Or.inr (AckedOnce.mk h₁ (List.forall_mem_singleton.mpr rfl))

/-! ### One turn of the loop -/

variable {channel : Ptr}

/-- Obtaining an event and copying it. -/
theorem leads_obtainActs (channel : Ptr) (event : CmEvent) :
    ownMonitor.Leads none (obtainActs channel event) (some event) :=
  Monitor.Leads.cons rfl (Monitor.Leads.cons rfl (Monitor.leads_nil _ _))

theorem not_mem_obtainActs (ch : Ptr) : .rdmaGetCmEvent ch none ∉ obtainActs channel event := by
  intro hmem
  rcases List.mem_cons.mp hmem with hc | hmem
  · cases hc
  · cases List.mem_singleton.mp hmem

/-- **A turn that obtains an event** goes round the loop, with the event acknowledged, or
stops in its handler. -/
theorem post_turn_owned {b : Option CmEvent} {o : HandlerOutcomes} {s : Option RdmaContext} :
    Traced.Post (turn config channel b ⟨some event, o⟩) s
      (fun r _ t => r ≠ none ∧ ownMonitor.Leads none t none ∧ ∀ ch, .rdmaGetCmEvent ch none ∉ t)
      (fun _ _ t => ownMonitor.Accepts none t ∧ ∀ ch, .rdmaGetCmEvent ch none ∉ t) := by
  have hobtain := leads_obtainActs channel event
  have hacked : ∀ t, AckedOnce event t →
      ownMonitor.Leads none (obtainActs channel event ++ t) none ∧
        ∀ ch, .rdmaGetCmEvent ch none ∉ obtainActs channel event ++ t := fun t ht =>
    ⟨hobtain.append ht.leads, fun ch hmem => (List.mem_append.mp hmem).elim
      (not_mem_obtainActs ch) (ht.not_mem ch none)⟩
  -- where the handler stops, the event has only been read
  have hread : ∀ t, OnlyRead event t →
      ownMonitor.Accepts none (obtainActs channel event ++ t) ∧
        ∀ ch, .rdmaGetCmEvent ch none ∉ obtainActs channel event ++ t := fun t ht =>
    ⟨(hobtain.append ht.leads).1, fun ch hmem => (List.mem_append.mp hmem).elim
      (not_mem_obtainActs ch) (ht.not_mem ch none)⟩
  rcases s with _ | c
  · refine post_turn_obtained_null.mono ?_ ?_
    · rintro r s t ⟨r', t', rfl, rfl, rfl, hran⟩
      exact ⟨Option.some_ne_none r', hacked t' hran.ackedOnce⟩
    · rintro e s t ⟨t', rfl, rfl, hran⟩
      rcases hran.onlyRead_or with ht | ht
      · exact hread t' ht
      · exact ⟨(hacked t' ht).1.1, (hacked t' ht).2⟩
  · refine post_turn_obtained.mono ?_ ?_
    · rintro r s t ⟨r', c', t', rfl, rfl, rfl, hran⟩
      exact ⟨Option.some_ne_none r', hacked t' hran.ackedOnce⟩
    · rintro e s t ⟨c', t', rfl, rfl, hran⟩
      exact hread t' hran.onlyRead

/-- A turn whose call fails is never right: it follows `NULL`, or an event that is gone. -/
theorem not_eventsOwned_idle {b : Option CmEvent} {o : HandlerOutcomes} {s : Option RdmaContext}
    (ticks : List Tick) :
    ¬EventsOwned (Traced.loopOver (turn config channel) b (⟨none, o⟩ :: ticks) s).out
      (Traced.loopOver (turn config channel) b (⟨none, o⟩ :: ticks) s).trace := by
  intro h
  rcases b with _ | e
  · have hstop : turn config channel none ⟨none, o⟩ s =
        ⟨.error .nullDeref, s, [.rdmaGetCmEvent channel none]⟩ := rfl
    rw [Traced.loopOver, Traced.run_bind_error hstop] at h
    cases h.unfollowed channel List.mem_cons_self
  · have hleft : turn config channel (some e) ⟨none, o⟩ s =
        ⟨.ok none, s, [.rdmaGetCmEvent channel none, .readEvent e]⟩ := rfl
    rw [Traced.loopOver, Traced.run_bind_ok hleft] at h
    cases h.reads [.rdmaGetCmEvent channel none] e [] rfl

/-- A turn before a run: the events of the run are what matters. -/
theorem eventsOwned_append {out : Except Fault Unit} (ht : ownMonitor.Leads none t none)
    (hget : ∀ ch, .rdmaGetCmEvent ch none ∉ t) :
    EventsOwned out (t ++ t') ↔ EventsOwned out t' := by
  obtain ⟨hacc, hafter⟩ := ht
  have howned : owned (t ++ t') = owned t' := by
    rw [owned, ownMonitor.after_append, hafter]
    rfl
  rw [eventsOwned_iff, eventsOwned_iff, ownMonitor.accepts_append, hafter, howned]
  refine and_congr ⟨And.right, fun h => ⟨hacc, h⟩⟩ (and_congr_right fun _ => ?_)
  refine forall_congr' fun ch => ?_
  rw [List.mem_append]
  exact ⟨fun h hmem => h (Or.inr hmem), fun h hmem => hmem.elim (fun hc => absurd hc (hget ch)) h⟩

/-! ### The event loop -/

/-- The condition on a step: an event is obtained. -/
def Obtains (_ : List Act) (_ : Option RdmaContext) (tick : Tick) : Prop := tick.got ≠ none

/-- **The event loop**, from any value of the pointer. The induction is on the turns; at each
one the events before have been acknowledged. -/
theorem eventsOwned_loop (b : Option CmEvent) (s : Option RdmaContext) (h : List Act)
    (ticks : List Tick) :
    EventsOwned (Traced.loopOver (turn config channel) b ticks s).out
        (Traced.loopOver (turn config channel) b ticks s).trace ↔
      Traced.Meets Obtains (turn config channel) b s h ticks := by
  induction ticks generalizing b s h with
  | nil =>
    refine ⟨fun _ => trivial, fun _ => eventsOwned_iff.mpr ⟨trivial, fun _ => rfl, ?_⟩⟩
    exact fun ch hmem => absurd hmem List.not_mem_nil
  | cons tick ticks ih =>
    obtain ⟨got, o⟩ := tick
    rcases got with _ | event
    · exact ⟨fun hc => absurd hc (not_eventsOwned_idle ticks), fun hc => absurd rfl hc.1⟩
    have hobtains : Obtains h s ⟨some event, o⟩ := Option.some_ne_none event
    rcases hrun : turn config channel b ⟨some event, o⟩ s with ⟨e | _ | b', s', t⟩
    · obtain ⟨hacc, hget⟩ := post_turn_owned.of_error hrun
      rw [Traced.loopOver, Traced.run_bind_error hrun, eventsOwned_iff]
      refine ⟨fun _ => ⟨hobtains, fun b' s₁ t₁ hc => ?_⟩, fun _ => ⟨hacc, ?_, ?_⟩⟩
      · rw [hrun] at hc
        cases hc
      · intro hc
        cases hc
      · exact fun ch hmem => absurd hmem (hget ch)
    · exact absurd rfl (post_turn_owned.of_ok hrun).1
    · obtain ⟨-, hleads, hget⟩ := post_turn_owned.of_ok hrun
      rw [Traced.loopOver, Traced.run_bind_ok hrun]
      change EventsOwned _ (t ++ (Traced.loopOver (turn config channel) b' ticks s').trace) ↔ _
      rw [eventsOwned_append hleads hget]
      refine (ih b' s' (h ++ t)).trans ⟨fun hrest => ⟨hobtains, fun b₁ s₁ t₁ hc => ?_⟩, fun hm =>
        hm.2 b' s' t hrun⟩
      rw [hrun] at hc
      cases hc
      exact hrest

/-- **What `rdma_get_cm_event` delivers**: as many results as there are, or one after another
without end. -/
inductive Deliveries
  | finite (ticks : List Tick)
  | unbounded (ticks : ℕ → Tick)

/-- What has been delivered at some moment. -/
def Deliveries.Segment (ticks : List Tick) : Deliveries → Prop
  | .finite all => ticks <+: all
  | .unbounded all => ∃ n, ticks = (List.range n).map all

/-- **The events are owned when they are used**, however far the event loop gets. -/
def AllOwned (config : RdmaParam) (channel : Ptr) (s : Option RdmaContext) (d : Deliveries) :
    Prop :=
  ∀ ticks, d.Segment ticks →
    EventsOwned (fsRdmaCmEventHandler config channel none ticks s).out
      (fsRdmaCmEventHandler config channel none ticks s).trace

/-- No call that the event loop comes to fails. -/
def NoneFails (config : RdmaParam) (channel : Ptr) (s : Option RdmaContext) (d : Deliveries) :
    Prop :=
  ∀ ticks, d.Segment ticks → Traced.Meets Obtains (turn config channel) none s [] ticks

/-- **The events are owned when they are used** exactly when no call of `rdma_get_cm_event`
fails. -/
theorem allOwned_iff_noneFails (config : RdmaParam) (channel : Ptr) (s : Option RdmaContext)
    (d : Deliveries) : AllOwned config channel s d ↔ NoneFails config channel s d :=
  forall_congr' fun ticks => imp_congr_right fun _ => eventsOwned_loop none s [] ticks

/-- **A first call that fails**: the copy is taken through `NULL`. -/
theorem not_allOwned_of_failing : ¬AllOwned Sample.config (some 10) (some Sample.block)
    (.finite [⟨none, Sample.handler⟩]) := fun h =>
  not_eventsOwned_idle [] (h [⟨none, Sample.handler⟩] (List.prefix_refl _))

end Transport
