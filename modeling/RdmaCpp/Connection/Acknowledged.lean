import RdmaCpp.Lib.Ledger
import RdmaCpp.Connection.Connect

/-!
# Obtained, read, acknowledged

What `rdma_get_cm_event` delivers has to be given back with `rdma_ack_cm_event`, once, and
is not to be looked at afterwards. That is book-keeping: an event is live from the one call
to the other (`Connection.events`), and a run keeps the rule when it reads and acknowledges
live events only (`Connection.OwnsEvents`) and has none left when it returns.

The pieces of code here are short, and nearly all of their actions have nothing to do with
events. One lemma takes a trace apart at those that do (`Connection.leads_cons`).
-/

namespace Connection

/-- The event an action obtains. -/
def obtains : Act → List CmEvent
  | .rdmaGetCmEvent _ res => res.toList
  | _ => []

/-- The event an action gives back. -/
def acknowledges : Act → List CmEvent
  | .rdmaAckCmEvent e => [e]
  | _ => []

/-- **When an event may be used**: it has been obtained, and not been acknowledged. -/
def EventLive (u : List CmEvent) : Act → Prop
  | .readEvent e | .rdmaAckCmEvent e => e ∈ u
  | _ => True

/-- **The books of the events.** -/
def events : Ledger Act CmEvent := ⟨obtains, fun _ => acknowledges, EventLive⟩

/-- **Events are used while they are owned only**: one that is acknowledged has been obtained
and not been acknowledged before, and so has one that is read. -/
structure OwnsEvents (t : List Act) : Prop where
  acks : ∀ h e r, t = h ++ .rdmaAckCmEvent e :: r → e ∈ events.live [] h
  reads : ∀ h e r, t = h ++ .readEvent e :: r → e ∈ events.live [] h

/-- The same, by the monitor. -/
theorem ownsEvents_iff {t : List Act} : OwnsEvents t ↔ events.monitor.Accepts [] t := by
  rw [events.monitor.accepts_iff]
  constructor
  · intro h u a r hcut
    cases a with
    | rdmaAckCmEvent e => exact h.acks u e r hcut
    | readEvent e => exact h.reads u e r hcut
    | _ => exact trivial
  · exact fun h => ⟨fun u e r hcut => h u _ r hcut, fun u e r hcut => h u _ r hcut⟩

/-- The actions on an event. -/
def Act.isEvent : Act → Bool
  | .rdmaGetCmEvent .. | .readEvent _ | .rdmaAckCmEvent _ => true
  | _ => false

variable {u v : List CmEvent} {t : List Act} {event : CmEvent}

/-- An action on no event. -/
theorem leads_cons {a : Act} (ha : a.isEvent = false) (h : events.monitor.Leads u t v) :
    events.monitor.Leads u (a :: t) v := by
  have hneutral : EventLive u a ∧ obtains a ++ u.diff (acknowledges a) = u := by
    cases a with
    | rdmaGetCmEvent | readEvent | rdmaAckCmEvent => cases ha
    | _ => exact ⟨trivial, List.diff_nil u⟩
  refine Monitor.Leads.cons hneutral.1 ?_
  change events.monitor.Leads (obtains a ++ u.diff (acknowledges a)) t v
  rw [hneutral.2]
  exact h

/-- A stretch of them. -/
theorem leads_of_isEvent (h : ∀ a ∈ t, a.isEvent = false) : events.monitor.Leads u t u := by
  induction t with
  | nil => exact Monitor.leads_nil _ u
  | cons a t ih =>
    exact leads_cons (h a List.mem_cons_self) (ih fun b hb => h b (List.mem_cons_of_mem a hb))

/-- A look at an event that is live. -/
theorem leads_readEvent (hlive : event ∈ u) (h : events.monitor.Leads u t v) :
    events.monitor.Leads u (.readEvent event :: t) v := by
  refine Monitor.Leads.cons hlive ?_
  change events.monitor.Leads (u.diff []) t v
  rwa [List.diff_nil]

/-- An event is obtained. -/
theorem leads_rdmaGetCmEvent {channel : Ptr} (h : events.monitor.Leads (event :: u) t v) :
    events.monitor.Leads u (.rdmaGetCmEvent channel (some event) :: t) v := by
  refine Monitor.Leads.cons trivial ?_
  change events.monitor.Leads ([event] ++ u.diff []) t v
  rwa [List.diff_nil]

/-- None is, when the call fails. -/
theorem leads_rdmaGetCmEvent_none {channel : Ptr} (h : events.monitor.Leads u t v) :
    events.monitor.Leads u (.rdmaGetCmEvent channel none :: t) v := by
  refine Monitor.Leads.cons trivial ?_
  change events.monitor.Leads ([] ++ u.diff []) t v
  rwa [List.diff_nil]

/-- The event obtained last is acknowledged. -/
theorem leads_rdmaAckCmEvent (h : events.monitor.Leads u t v) :
    events.monitor.Leads (event :: u) (.rdmaAckCmEvent event :: t) v := by
  refine Monitor.Leads.cons List.mem_cons_self ?_
  change events.monitor.Leads ((event :: u).diff [event]) t v
  rwa [List.diff_cons, List.erase_cons_head, List.diff_nil]

/-- The looks at the event obtained, and its acknowledgement. -/
theorem leads_obtained {channel : Ptr} (reads : ℕ) (h : events.monitor.Leads u t v) :
    events.monitor.Leads u (.rdmaGetCmEvent channel (some event) ::
      (List.replicate reads (.readEvent event) ++ .rdmaAckCmEvent event :: t)) v := by
  refine leads_rdmaGetCmEvent ?_
  induction reads with
  | zero => exact leads_rdmaAckCmEvent h
  | succ n ih => exact leads_readEvent List.mem_cons_self ih

end Connection
