import RdmaCpp.Lib.Monitor
import RdmaCpp.Lib.Traced
import RdmaCpp.Verbs

/-!
# The other event handler

`gf_rdma_cm_event_handler` of `Transport.cc` is a second event loop, of the shape of the one in
`c/transport.c`. It differs from that in one order: it looks at the result of
`rdma_get_cm_event` before it looks at the event. So it **never follows a pointer to an event
that is not its own**, on any stream of events and failures (`Gf.owning_run`): each event is
acknowledged once, before the next is asked for; the handlers that are given the event run
before that, and the two that are given the transport – those that take the connection down –
run behind it, when nothing keeps an id from being destroyed.

What it does follow without a look is the context of the id. A run ends in a fault exactly when
an error or a disconnection is reported on an id that has none.

The handlers are not part of the repository. They are given an event or a transport, and here
the call is all that is known of them; none of them is taken to acknowledge what it is given.
-/

namespace Gf

/-! ### The loop -/

/-- The handlers that are given the event. -/
inductive EventHandler
  | addrResolved
  | routeResolved
  | connectRequest
  | connectInit
  | deviceRemoval

/-- The handlers that are given the transport, `event->id->context`. -/
inductive TransportHandler
  | eventError
  | disconnect

/-- What the loop does. -/
inductive EventAct
  | rdmaGetCmEvent (channel : Ptr) (event : Option CmEvent)
  /-- A look at a field of the event. -/
  | readEvent (event : CmEvent)
  /-- `gf_rdma_cm_handle_… (event)`. -/
  | handleEvent (handler : EventHandler) (event : CmEvent)
  /-- `gf_rdma_cm_handle_… (this)`. -/
  | handleTransport (handler : TransportHandler) (this : ℕ)
  | rdmaAckCmEvent (event : CmEvent)

/-- What stops the loop for good: `this->name`, where `this` is `NULL`. -/
inductive EventFault
  | nullDeref
  deriving DecidableEq

/-- What one call of `rdma_get_cm_event` brings: an event, or a failure; and what the field
`context` of the id of that event is. -/
structure EventTick where
  got : Option CmEvent
  context : Ptr

/-- The event loop. It has no state but its variable `event`. -/
abbrev EventM : Type → Type := Traced Unit EventAct EventFault

/-- The handler of an event, and the acknowledgement at the bottom of the loop. -/
def handleThenAck (handler : EventHandler) (event : CmEvent) : EventM (Option CmEvent) := do
  Traced.emit (.handleEvent handler event)
  Traced.emit (.rdmaAckCmEvent event)
  return some event

/-- The arms that take the transport from the event, show a message about it, acknowledge the
event, and call the handler then. -/
def ackThenHandle (handler : TransportHandler) (message : EventM Unit) (context : Ptr)
    (event : CmEvent) : EventM (Option CmEvent) := do
  Traced.emit (.readEvent event)
  match context with
  | none => Traced.stop .nullDeref
  | some this => do
    message
    Traced.emit (.rdmaAckCmEvent event)
    Traced.emit (.handleTransport handler this)
    return none

/-- The `switch`; what it returns is the variable `event`. -/
def dispatch (context : Ptr) (event : CmEvent) : EventM (Option CmEvent) := do
  Traced.emit (.readEvent event)
  match event.event with
  | .addrResolved => handleThenAck .addrResolved event
  | .routeResolved => handleThenAck .routeResolved event
  | .connectRequest => handleThenAck .connectRequest event
  | .established => handleThenAck .connectInit event
  | .addrError | .routeError | .connectError | .unreachable | .rejected =>
    ackThenHandle .eventError (Traced.emit (.readEvent event)) context event
  | .disconnected => ackThenHandle .disconnect (pure ()) context event
  | .deviceRemoval => handleThenAck .deviceRemoval event
  | _ => do
    Traced.emit (.readEvent event)
    Traced.emit (.rdmaAckCmEvent event)
    return some event

/-- One turn: the loop is left when `rdma_get_cm_event` fails, and then `event` is not looked
at. -/
def turn (channel : Ptr) (_ : Option CmEvent) (tick : EventTick) :
    EventM (Option (Option CmEvent)) := do
  Traced.emit (.rdmaGetCmEvent channel tick.got)
  match tick.got with
  | none => return none
  | some event => do
    let event ← dispatch tick.context event
    return some event

/-- **`gf_rdma_cm_event_handler`**, from any value of the variable `event`. -/
def gfRdmaCmEventHandler (channel : Ptr) (event : Option CmEvent) (ticks : List EventTick) :
    EventM Unit :=
  Traced.loopOver (turn channel) event ticks

/-! ### Who owns the event -/

/-- **Watching who owns the event**: what is remembered is the event obtained and not yet
acknowledged. Only that one may be used; and a transport may be taken down when there is
none. -/
def ownMonitor : Monitor (Option CmEvent) EventAct where
  step u a := match a with
    | .rdmaGetCmEvent _ (some e) => some e
    | .rdmaAckCmEvent _ => none
    | _ => u
  Ok u a := match a with
    | .rdmaGetCmEvent _ _ => u = none
    | .readEvent e | .handleEvent _ e | .rdmaAckCmEvent e => u = some e
    | .handleTransport _ _ => u = none

/-- The event that the code owns after a history. -/
def owned (h : List EventAct) : Option CmEvent := ownMonitor.after none h

/-- **The event is owned when it is used**, in a run with this outcome and these actions. -/
structure Owning (out : Except EventFault Unit) (t : List EventAct) : Prop where
  gets : ∀ h ch got r, t = h ++ .rdmaGetCmEvent ch got :: r → owned h = none
  reads : ∀ h e r, t = h ++ .readEvent e :: r → owned h = some e
  handles : ∀ h handler e r, t = h ++ .handleEvent handler e :: r → owned h = some e
  acks : ∀ h e r, t = h ++ .rdmaAckCmEvent e :: r → owned h = some e
  /-- A transport is handed over when no event is outstanding. -/
  hands : ∀ h handler this r, t = h ++ .handleTransport handler this :: r → owned h = none
  /-- A loop that is left, or waits, has acknowledged everything. -/
  settled : out = .ok () → owned t = none

variable {out : Except EventFault Unit} {t : List EventAct} {channel : Ptr} {event : CmEvent}
  {tick : EventTick} {ticks : List EventTick}

/-- The same, by the monitor. -/
theorem owning_of_accepts (h : ownMonitor.Accepts none t)
    (hsettled : out = .ok () → owned t = none) : Owning out t := by
  have hcut := (ownMonitor.accepts_iff none t).mp h
  exact ⟨fun u ch got r hu => hcut u _ r hu, fun u e r hu => hcut u _ r hu,
    fun u handler e r hu => hcut u _ r hu, fun u e r hu => hcut u _ r hu,
    fun u handler this r hu => hcut u _ r hu, hsettled⟩

/-! ### One turn -/

/-- The arm of the event follows the context of its id. -/
def Follows (event : CmEvent) : Prop :=
  event.event.isError = true ∨ event.event = .disconnected

/-- The turn obtains an event whose arm follows a context that is not there. -/
def EventTick.Dangling (tick : EventTick) : Prop :=
  ∃ event, tick.got = some event ∧ Follows event ∧ tick.context = none

/-- The turns that obtain an event. -/
def delivered (ticks : List EventTick) : List EventTick := ticks.takeWhile (·.got.isSome)

/-- A look at the event that is owned. -/
theorem leads_readEvent (event : CmEvent) :
    ownMonitor.Leads (some event) [.readEvent event] (some event) :=
  Monitor.Leads.cons rfl (Monitor.leads_nil _ _)

/-- An event of which the handler does not follow the context. -/
theorem post_handleThenAck (handler : EventHandler) (event : CmEvent) :
    Traced.Post (handleThenAck handler event) ()
      (fun _ _ t => ownMonitor.Leads (some event) t none) (fun _ _ _ => False) :=
  Monitor.Leads.cons rfl (Monitor.Leads.cons rfl (Monitor.leads_nil _ none))

/-- One of which it does, with a message that only looks at the event. -/
theorem post_ackThenHandle (handler : TransportHandler) {message : EventM Unit} {m : List EventAct}
    (hmessage : message () = ⟨.ok (), (), m⟩)
    (hm : ownMonitor.Leads (some event) m (some event)) (context : Ptr) :
    Traced.Post (ackThenHandle handler message context event) ()
      (fun _ _ t => ownMonitor.Leads (some event) t none ∧ context ≠ none)
      (fun _ _ t => ownMonitor.Accepts (some event) t ∧ context = none) := by
  rcases context with _ | this
  · exact ⟨⟨rfl, trivial⟩, rfl⟩
  · rw [ackThenHandle, Traced.post_bind, Traced.post_emit]
    simp only [Traced.post_bind, Traced.post_of_run hmessage, Traced.post_emit, Traced.post_pure]
    refine ⟨?_, Option.some_ne_none this⟩
    have hrest : ownMonitor.Leads (some event)
        [.rdmaAckCmEvent event, .handleTransport handler this] none :=
      Monitor.Leads.cons rfl (Monitor.Leads.cons rfl (Monitor.leads_nil _ none))
    exact Monitor.Leads.cons rfl (hm.append hrest)

/-- **An event is used and acknowledged**, or its context is missed. -/
theorem post_dispatch (context : Ptr) (event : CmEvent) :
    Traced.Post (dispatch context event) ()
      (fun _ _ t => ownMonitor.Leads (some event) t none ∧ ¬(Follows event ∧ context = none))
      (fun _ _ t => ownMonitor.Accepts (some event) t ∧ Follows event ∧ context = none) := by
  rw [dispatch, Traced.post_bind, Traced.post_emit]
  rcases hkind : event.event
  case addrResolved | routeResolved | connectRequest | established | deviceRemoval =>
    refine (post_handleThenAck _ event).mono ?_ fun _ _ _ hc => hc.elim
    intro r s t ht
    refine ⟨Monitor.Leads.cons rfl ht, fun hc => ?_⟩
    rcases hc.1 with herr | hdisc
    · rw [hkind] at herr
      cases herr
    · rw [hkind] at hdisc
      cases hdisc
  case addrError | routeError | connectError | unreachable | rejected =>
    have hfollows : Follows event := Or.inl (by rw [hkind]; rfl)
    refine (post_ackThenHandle .eventError rfl (leads_readEvent event) context).mono ?_ ?_
    · exact fun r s t ht => ⟨Monitor.Leads.cons rfl ht.1, fun hc => ht.2 hc.2⟩
    · exact fun e s t ht => ⟨⟨rfl, ht.1⟩, hfollows, ht.2⟩
  case disconnected =>
    have hfollows : Follows event := Or.inr hkind
    refine (post_ackThenHandle .disconnect rfl (Monitor.leads_nil _ _) context).mono ?_ ?_
    · exact fun r s t ht => ⟨Monitor.Leads.cons rfl ht.1, fun hc => ht.2 hc.2⟩
    · exact fun e s t ht => ⟨⟨rfl, ht.1⟩, hfollows, ht.2⟩
  case connectResponse | multicastJoin | multicastError | addrChange | timewaitExit =>
    refine ⟨Monitor.Leads.cons rfl (Monitor.Leads.cons rfl (Monitor.Leads.cons rfl
      (Monitor.leads_nil _ none))), fun hc => ?_⟩
    rcases hc.1 with herr | hdisc
    · rw [hkind] at herr
      cases herr
    · rw [hkind] at hdisc
      cases hdisc

/-! ### Runs -/

/-- The event loop, with nothing owned at its start. The induction is on the turns. -/
theorem post_gfRdmaCmEventHandler (channel : Ptr) (b : Option CmEvent) (ticks : List EventTick) :
    Traced.Post (gfRdmaCmEventHandler channel b ticks) ()
      (fun _ _ t => ownMonitor.Leads none t none ∧ ∀ tick ∈ delivered ticks, ¬tick.Dangling)
      (fun _ _ t => ownMonitor.Accepts none t ∧ ∃ tick ∈ delivered ticks, tick.Dangling) := by
  induction ticks generalizing b with
  | nil => exact ⟨Monitor.leads_nil _ none, fun tick htick => absurd htick List.not_mem_nil⟩
  | cons tick ticks ih =>
    obtain ⟨_ | event, context⟩ := tick
    · exact ⟨Monitor.Leads.cons rfl (Monitor.leads_nil _ none),
        fun tick htick => absurd htick List.not_mem_nil⟩
    have hmore : delivered (⟨some event, context⟩ :: ticks) =
        ⟨some event, context⟩ :: delivered ticks := rfl
    rw [gfRdmaCmEventHandler, Traced.loopOver, Traced.post_bind, turn, Traced.post_bind,
      Traced.post_emit, Traced.post_bind, hmore]
    refine (post_dispatch context event).mono ?_ ?_
    · rintro r s t ⟨ht, hfine⟩
      have hturn : ownMonitor.Leads none (.rdmaGetCmEvent channel (some event) :: (t ++ [])) none :=
        Monitor.Leads.cons rfl (by rw [List.append_nil]; exact ht)
      refine (ih r).mono ?_ ?_
      · rintro _ s' t' ⟨ht', hrest⟩
        refine ⟨?_, List.forall_mem_cons.mpr ⟨?_, hrest⟩⟩
        · exact hturn.append ht'
        · rintro ⟨e, he, hfollows, hnone⟩
          cases he
          exact hfine ⟨hfollows, hnone⟩
      · rintro e s' t' ⟨ht', tick, htick, hdangling⟩
        refine ⟨?_, tick, List.mem_cons_of_mem _ htick, hdangling⟩
        exact (ownMonitor.accepts_append _ _ _).mpr ⟨hturn.1, hturn.2.symm ▸ ht'⟩
    · rintro e s t ⟨ht, hfollows, hnone⟩
      exact ⟨⟨rfl, ht⟩, _, List.mem_cons_self, event, rfl, hfollows, hnone⟩

/-- **The event is owned when it is used**, on every stream of events and failures; and the loop
stops for good exactly when an error or a disconnection is reported, before the first failure,
on an id without a context. -/
theorem owning_run (channel : Ptr) (b : Option CmEvent) (ticks : List EventTick) :
    Owning (gfRdmaCmEventHandler channel b ticks ()).out
        (gfRdmaCmEventHandler channel b ticks ()).trace ∧
      ((gfRdmaCmEventHandler channel b ticks ()).out = .ok () ↔
        ∀ tick ∈ delivered ticks, ¬tick.Dangling) := by
  have hpost := post_gfRdmaCmEventHandler channel b ticks
  rcases hrun : gfRdmaCmEventHandler channel b ticks () with ⟨e | ⟨⟩, s, t⟩
  · obtain ⟨haccepts, tick, htick, hdangling⟩ := hpost.of_error hrun
    exact ⟨owning_of_accepts haccepts fun hc => (by cases hc),
      fun hc => (by cases hc), fun hall => absurd hdangling (hall tick htick)⟩
  · obtain ⟨hleads, hall⟩ := hpost.of_ok hrun
    exact ⟨owning_of_accepts hleads.1 fun _ => hleads.2, fun _ => hall, fun _ => rfl⟩

end Gf
