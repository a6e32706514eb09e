import RdmaCpp.Transport.Connected
import RdmaCpp.Transport.Destroyed

/-!
# What the flag remembers

What becomes of a connection in a run needs neither queue pairs nor buffers to be told. There
is an id until an event ends the connection: it reports an error or the end, or a call made in
its handling fails. And there is a flag, which an event on the id sets: `ESTABLISHED`, or a
`CONNECT_REQUEST` that is accepted. That is an automaton with four states that reads events and
the outcomes of the calls (`Transport.Link`), and **the code is a refinement of it**: in every
run that does not stop for good the context agrees with what it has come to
(`Transport.post_fsRdmaCmEventHandler_link`).

The automaton says what the flag is worth (`Transport.connected_iff`): it is set exactly when
the block that `malloc` gave had it set, or *some* event before the end of the connection has
set it. It is never reset, neither by the start, nor by the event that ends the connection, nor
by anything behind it.
-/

namespace Transport

/-! ### The automaton -/

/-- All that `fs_rdma_create_resources` has to ask for is there. It asks for no queue pair and no
buffer where it does not know the connection type. -/
def Makes (config : RdmaParam) (o : CreateOutcomes) : Prop :=
  SharedOk config o ∧ (0 < config.turns ∧ qpTypeOf config.connectionType = none ∨
    ∀ i < config.turns, o.rdmaCreateQp i ≠ none ∧ o.memalign i ≠ none ∧ o.ibvRegMr i ≠ none)

instance (config : RdmaParam) (o : CreateOutcomes) : Decidable (Makes config o) :=
  inferInstanceAs (Decidable (_ ∧ _))

/-- **The event ends the connection.** -/
def endsLink (config : RdmaParam) (o : HandlerOutcomes) (event : CmEvent) : Bool :=
  match event.event with
  | .addrResolved => decide (o.rdmaResolveRoute ≠ 0)
  | .routeResolved => decide (¬Makes config o.create ∨ o.rdmaConnect ≠ 0)
  | .connectRequest => decide (¬Makes config o.create ∨ o.rdmaAccept < 0)
  | kind => kind.isError || decide (kind = .disconnected)

/-- **The event sets the flag** of the connection with this id, unless it ends it. -/
def setsFlag (id : ℕ) (event : CmEvent) : Bool :=
  decide (event.event = .established ∨ event.event = .connectRequest) && decide (event.id = id)

/-- **What there is to know of a connection.** -/
structure Link where
  /-- There is an id. -/
  alive : Bool
  flagged : Bool

/-- What an event does to it: nothing any more, once it has come to its end. -/
def Link.next (config : RdmaParam) (id : ℕ) (l : Link) (o : HandlerOutcomes) (event : CmEvent) :
    Link :=
  if l.alive then
    if endsLink config o event then { l with alive := false }
    else { l with flagged := l.flagged || setsFlag id event }
  else l

/-- What a run comes to: it is over where no event is obtained. -/
def Link.run (config : RdmaParam) (id : ℕ) : Link → List Tick → Link
  | l, [] => l
  | l, ⟨none, _⟩ :: _ => l
  | l, ⟨some event, o⟩ :: ticks => (l.next config id o event).run config id ticks

/-! ### The refinement -/

/-- **The context agrees** with the automaton. -/
structure Agrees (id : ℕ) (l : Link) (c : RdmaContext) : Prop where
  alive : l.alive = true → c.cmId = some id
  gone : l.alive = false → c.cmId = none
  flagged : c.connected = 1 ↔ l.flagged = true

variable {config : RdmaParam} {id : ℕ} {l : Link} {c c' : RdmaContext} {o : HandlerOutcomes}
  {event : CmEvent} {r : Option CmEvent} {t : List Act}

/-- A creation that returns `0` has found all that it has asked for. -/
theorem CreateRan.makes {o : CreateOutcomes} (h : CreateRan config o c 0 c' t) :
    Makes config o := by
  obtain ⟨hshared, hunknown | ⟨⟨-, hqps⟩, hbufs⟩⟩ := h.succeeds
  · exact ⟨hshared, Or.inl hunknown⟩
  · exact ⟨hshared, Or.inr fun i hi => ⟨(hqps i hi).1, (hbufs i hi).1.2.1, (hbufs i hi).2⟩⟩

/-- One that returns another value has not. -/
theorem CreateRan.not_makes {o : CreateOutcomes} {ret : ℤ} (h : CreateRan config o c ret c' t)
    (hret : ret ≠ 0) : ¬Makes config o := by
  rintro ⟨hshared, hrest⟩
  rcases h.fails hret with hno | ⟨hknown, i, hi, -, hqp⟩ | ⟨⟨hknown, -⟩, i, hi, -, -, hmr⟩
  · exact hno hshared
  · rcases hrest with ⟨-, hnone⟩ | hall
    · exact hknown hnone
    · exact (hall i hi).1 hqp
  · rcases hrest with ⟨hpos, hnone⟩ | hall
    · exact hknown hpos hnone
    · exact (hall i hi).2.2 hmr

/-- **Without an id** there is none afterwards, and the flag is not touched. -/
theorem Handled.gone (h : Handled config o event c r c' t) (hid : c.cmId = none) :
    c'.cmId = none ∧ c'.connected = c.connected := by
  have hsame : ∀ c₁ : RdmaContext, c₁.cmId = none → c₁.initiated event = c₁ := by
    intro c₁ hid₁
    refine if_neg ?_
    rintro ⟨-, hc⟩
    rw [hid₁] at hc
    cases hc
  cases h with
  | other => exact ⟨hid, rfl⟩
  | resolved => exact ⟨hid, rfl⟩
  | unresolved | error | disconnected => exact ⟨rfl, arraysReleased_connected config c⟩
  | uncreated _ hran | unconnected _ hran | unaccepted _ hran =>
    exact ⟨rfl, (arraysReleased_connected config _).trans hran.frame.2.2.1⟩
  | connecting _ hran => exact ⟨hran.frame.2.1.trans hid, hran.frame.2.2.1⟩
  | accepted _ hran =>
    rw [hsame _ (hran.frame.2.1.trans hid)]
    exact ⟨hran.frame.2.1.trans hid, hran.frame.2.2.1⟩
  | established =>
    rw [hsame c hid]
    exact ⟨hid, rfl⟩

/-- An event that ends the connection. -/
theorem Agrees.ended (h : Agrees id l c) (hlive : l.alive = true)
    (hends : endsLink config o event = true) (hgone : c'.cmId = none)
    (hconn : c'.connected = c.connected) :
    Agrees id (l.next config id o event) c' := by
  rw [Link.next, if_pos hlive, if_pos hends]
  exact ⟨fun hc => absurd hc Bool.false_ne_true, fun _ => hgone, by rw [hconn]; exact h.flagged⟩

/-- An event that leaves the connection, and does not set the flag. -/
theorem Agrees.kept (h : Agrees id l c) (hlive : l.alive = true)
    (hends : endsLink config o event = false) (hbrings : setsFlag id event = false)
    (hid : c'.cmId = c.cmId) (hconn : c'.connected = c.connected) :
    Agrees id (l.next config id o event) c' := by
  rw [Link.next, if_pos hlive, hends, hbrings, Bool.or_false]
  refine ⟨fun _ => hid.trans (h.alive hlive), fun hc => ?_, by rw [hconn]; exact h.flagged⟩
  exact absurd (hlive.symm.trans hc) (by decide)

/-- The connection check leaves the flag set when it was, or when the event is one on the
id. -/
theorem connected_initiated (event : CmEvent) (c : RdmaContext) :
    (c.initiated event).connected = 1 ↔ c.connected = 1 ∨ some event.id = c.cmId := by
  rw [RdmaContext.initiated]
  by_cases hinit : Initiates event c
  · rw [if_pos hinit]
    exact ⟨fun _ => Or.inr hinit.2, fun _ => rfl⟩
  · rw [if_neg hinit]
    exact ⟨Or.inl, fun h => h.elim id fun hid => not_not.mp fun hc => hinit ⟨hc, hid⟩⟩

/-- An event that sets the flag, if it is one on the id. -/
theorem Agrees.initiated (h : Agrees id l c) (hlive : l.alive = true)
    (hends : endsLink config o event = false)
    (hkind : event.event = .established ∨ event.event = .connectRequest)
    (hid : c'.cmId = c.cmId) (hconn : c'.connected = c.connected) :
    Agrees id (l.next config id o event) (c'.initiated event) := by
  have hbrings : setsFlag id event = decide (event.id = id) := by
    rw [setsFlag, decide_eq_true hkind, Bool.true_and]
  have hid' : c'.cmId = some id := hid.trans (h.alive hlive)
  rw [Link.next, if_pos hlive, hends, hbrings]
  refine ⟨fun _ => ?_, fun hc => absurd (hlive.symm.trans hc) (by decide), ?_⟩
  · rw [initiated_cmId, hid']
  · rw [connected_initiated, hconn, hid', Option.some.injEq, h.flagged]
    exact (Bool.or_eq_true _ _).symm ▸ or_congr_right decide_eq_true_iff.symm

/-! ### Each kind of event -/

theorem endsLink_addrResolved (h : event.event = .addrResolved) :
    endsLink config o event = decide (o.rdmaResolveRoute ≠ 0) := by
  rw [endsLink, h]

theorem endsLink_routeResolved (h : event.event = .routeResolved) :
    endsLink config o event = decide (¬Makes config o.create ∨ o.rdmaConnect ≠ 0) := by
  rw [endsLink, h]

theorem endsLink_connectRequest (h : event.event = .connectRequest) :
    endsLink config o event = decide (¬Makes config o.create ∨ o.rdmaAccept < 0) := by
  rw [endsLink, h]

/-- The other kinds end it when they say so. -/
theorem endsLink_of_ne (haddr : event.event ≠ .addrResolved) (hroute : event.event ≠ .routeResolved)
    (hrequest : event.event ≠ .connectRequest) :
    endsLink config o event = (event.event.isError || decide (event.event = .disconnected)) := by
  rw [endsLink]
  split
  · exact absurd ‹_› haddr
  · exact absurd ‹_› hroute
  · exact absurd ‹_› hrequest
  · rfl

theorem setsFlag_eq_false (hest : event.event ≠ .established)
    (hrequest : event.event ≠ .connectRequest) : setsFlag id event = false := by
  rw [setsFlag, decide_eq_false (not_or.mpr ⟨hest, hrequest⟩), Bool.false_and]

/-- **Every event keeps the agreement.** -/
theorem Handled.agrees (h : Handled config o event c r c' t) (hagree : Agrees id l c) :
    Agrees id (l.next config id o event) c' := by
  rcases hlive : l.alive
  · -- what has come to its end stays there
    obtain ⟨hgone, hconn⟩ := h.gone (hagree.gone hlive)
    rw [Link.next, hlive]
    refine ⟨fun hc => absurd (hlive.symm.trans hc) (by decide), fun _ => hgone, ?_⟩
    rw [hconn]
    exact hagree.flagged
  cases h with
  | other h =>
    have hne : ∀ k : CmEventType, k.isOther = false → event.event ≠ k := by
      rintro k hk rfl
      rw [h] at hk
      cases hk
    have herror : event.event.isError = false := by
      rcases hk : event.event <;> first | rfl | (rw [hk] at h; cases h)
    refine hagree.kept hlive ?_ (setsFlag_eq_false (hne _ rfl) (hne _ rfl)) rfl rfl
    rw [endsLink_of_ne (hne _ rfl) (hne _ rfl) (hne _ rfl), herror,
      decide_eq_false (hne .disconnected rfl), Bool.or_false]
  | resolved h hret =>
    refine hagree.kept hlive ?_ (setsFlag_eq_false ?_ ?_) rfl rfl
    · rw [endsLink_addrResolved h, decide_eq_false (not_not.mpr hret)]
    all_goals
      rw [h]
      decide
  | unresolved h hret =>
    refine hagree.ended hlive ?_ rfl (arraysReleased_connected config c)
    rw [endsLink_addrResolved h, decide_eq_true hret]
  | uncreated h hran hret =>
    refine hagree.ended hlive ?_ rfl
      ((arraysReleased_connected config _).trans hran.frame.2.2.1)
    rcases h with h | h
    · rw [endsLink_routeResolved h, decide_eq_true (Or.inl (hran.not_makes hret))]
    · rw [endsLink_connectRequest h, decide_eq_true (Or.inl (hran.not_makes hret))]
  | unconnected h hran hret =>
    refine hagree.ended hlive ?_ rfl
      ((arraysReleased_connected config _).trans hran.frame.2.2.1)
    rw [endsLink_routeResolved h, decide_eq_true (Or.inr hret)]
  | connecting h hran hret =>
    refine hagree.kept hlive ?_ (setsFlag_eq_false ?_ ?_) hran.frame.2.1 hran.frame.2.2.1
    · rw [endsLink_routeResolved h, decide_eq_false]
      exact not_or.mpr ⟨not_not.mpr (hran.makes), not_not.mpr hret⟩
    all_goals
      rw [h]
      decide
  | unaccepted h hran hret =>
    refine hagree.ended hlive ?_ rfl
      ((arraysReleased_connected config _).trans hran.frame.2.2.1)
    rw [endsLink_connectRequest h, decide_eq_true (Or.inr hret)]
  | accepted h hran hret =>
    refine hagree.initiated hlive ?_ (Or.inr h) hran.frame.2.1 hran.frame.2.2.1
    rw [endsLink_connectRequest h, decide_eq_false]
    exact not_or.mpr ⟨not_not.mpr (hran.makes), hret⟩
  | established h =>
    refine hagree.initiated hlive ?_ (Or.inl h) rfl rfl
    rw [endsLink_of_ne, h]
    · rfl
    all_goals
      rw [h]
      decide
  | error h =>
    refine hagree.ended hlive ?_ rfl (arraysReleased_connected config c)
    rw [endsLink_of_ne, h, Bool.true_or]
    all_goals
      intro hk
      rw [hk] at h
      cases h
  | disconnected h =>
    refine hagree.ended hlive ?_ rfl (arraysReleased_connected config c)
    rw [endsLink_of_ne, h]
    · rfl
    all_goals
      rw [h]
      decide

/-! ### Runs -/

/-- **The event loop comes to what the automaton comes to**, whenever it returns or waits. The
induction is on the events. -/
theorem post_fsRdmaCmEventHandler_link (config : RdmaParam) (channel : Ptr) (b : Option CmEvent)
    (ticks : List Tick) (hagree : Agrees id l c) :
    Traced.Post (fsRdmaCmEventHandler config channel b ticks) (some c)
      (fun _ s _ => ∃ c', s = some c' ∧ Agrees id (l.run config id ticks) c')
      (fun _ _ _ => True) := by
  induction ticks generalizing b l c with
  | nil => exact ⟨c, rfl, hagree⟩
  | cons tick ticks ih =>
    obtain ⟨got, o⟩ := tick
    rw [fsRdmaCmEventHandler, Traced.loopOver, Traced.post_bind]
    rcases got with _ | event
    · refine post_turn_idle.mono ?_ fun _ _ _ _ => trivial
      rintro r s t ⟨rfl, rfl, -⟩
      exact ⟨c, rfl, hagree⟩
    · refine post_turn_obtained.mono ?_ fun _ _ _ _ => trivial
      rintro r s t ⟨r', c', t', rfl, rfl, -, hran⟩
      exact (ih r' (hran.agrees hagree)).mono (fun _ _ _ h => h) fun _ _ _ h => h

/-! ### What the automaton comes to -/

/-- The turns of a run that obtain an event. -/
def handledTicks (ticks : List Tick) : List Tick := ticks.takeWhile fun tick => tick.got.isSome

/-- The event obtained does not end the connection. -/
def Tick.spares (config : RdmaParam) (tick : Tick) : Bool :=
  tick.got.all fun event => !endsLink config tick.outcomes event

/-- **The turns before the one that ends the connection.** -/
def lived (config : RdmaParam) (ticks : List Tick) : List Tick :=
  (handledTicks ticks).takeWhile (Tick.spares config)

/-- What has come to its end stays there. -/
theorem Link.run_of_not_alive (hl : l.alive = false) (ticks : List Tick) :
    l.run config id ticks = l := by
  induction ticks with
  | nil => rfl
  | cons tick ticks ih =>
    obtain ⟨_ | event, o⟩ := tick
    · rfl
    · have hsame : l.next config id o event = l := by
        rw [Link.next, hl]
        rfl
      rw [Link.run, hsame, ih]

/-- **The automaton in closed form**, from a connection that is alive. -/
theorem Link.run_eq (hl : l.alive = true) (ticks : List Tick) : l.run config id ticks =
    ⟨(handledTicks ticks).all (Tick.spares config),
      l.flagged || (lived config ticks).any fun tick => tick.got.any (setsFlag id)⟩ := by
  induction ticks generalizing l with
  | nil =>
    obtain ⟨alive, flagged⟩ := l
    obtain rfl : alive = true := hl
    exact congrArg (Link.mk true) (Bool.or_false flagged).symm
  | cons tick ticks ih =>
    obtain ⟨_ | event, o⟩ := tick
    · obtain ⟨alive, flagged⟩ := l
      obtain rfl : alive = true := hl
      exact congrArg (Link.mk true) (Bool.or_false flagged).symm
    have hmore : handledTicks (⟨some event, o⟩ :: ticks) =
        ⟨some event, o⟩ :: handledTicks ticks := rfl
    have hspares : Tick.spares config ⟨some event, o⟩ = !endsLink config o event := rfl
    rw [Link.run, lived, hmore, List.all_cons, List.takeWhile_cons, hspares]
    rcases hends : endsLink config o event
    · have hnext : l.next config id o event =
          { l with flagged := l.flagged || setsFlag id event } := by
        rw [Link.next, if_pos hl, hends]
        rfl
      rw [hnext, ih (l := { l with flagged := l.flagged || setsFlag id event }) hl]
      simp only [Bool.not_false, Bool.true_and, if_true, List.any_cons, Option.any_some,
        Bool.or_assoc]
      rfl
    · have hnext : l.next config id o event = { l with alive := false } := by
        rw [Link.next, if_pos hl, if_pos hends]
      rw [hnext, Link.run_of_not_alive rfl]
      simp only [Bool.not_true, Bool.false_and, Bool.false_eq_true, if_false, List.any_nil,
        Bool.or_false]

/-! ### What the flag is worth -/

variable {start : Start}

/-- A complete start leaves a connection that is alive, and the flag as `malloc` gave it. -/
theorem Started.agrees {s : Option RdmaContext} (h : Started config start s t)
    (hmalloc : start.ctx.malloc ≠ none) (hmade : CtxMade start.ctx)
    (hid : start.ctx.rdmaCreateId = some id) :
    ∃ c₀ c, start.ctx.malloc = some c₀ ∧ s = some c ∧
      Agrees id ⟨true, decide (c₀.connected = 1)⟩ c := by
  obtain ⟨c, rfl, -, ⟨hcm, -⟩ | ⟨-, hdest, -⟩⟩ := h.ownsId hmalloc hmade
  · obtain ⟨c₀, hblock, hconn⟩ := h.connected_eq
    refine ⟨c₀, c, hblock, rfl, fun _ => hcm.trans hid, fun hc => (by cases hc), ?_⟩
    rw [hconn]
    exact decide_eq_true_iff.symm
  · rw [(sparing_of_isStarting h.all_isStarting).1] at hdest
    cases hdest

/-- **The flag says that there has been a connection.** At the end of every run it is set
exactly when it was in the block that `malloc` gave, or an event on the id, which reports a
connection or requests one, has come before the event that has ended the connection, if any has;
and the id is there exactly when none has. -/
theorem connected_iff (channel : Ptr) (start : Start) (ticks : List Tick)
    (hmalloc : start.ctx.malloc ≠ none) (hmade : CtxMade start.ctx)
    (hid : start.ctx.rdmaCreateId = some id) (s : Option RdmaContext)
    (hrun : run config channel start ticks none = ⟨.ok (), s, t⟩) :
    ∃ c₀ c, start.ctx.malloc = some c₀ ∧ s = some c ∧
      (c.connected = 1 ↔ c₀.connected = 1 ∨
        ∃ tick ∈ lived config ticks, ∃ event, tick.got = some event ∧
          event.id = id ∧ (event.event = .established ∨ event.event = .connectRequest)) ∧
      (c.cmId ≠ none ↔ ∀ tick ∈ handledTicks ticks, Tick.spares config tick = true) := by
  have hstart := post_start config start
  rw [run] at hrun
  rcases hbegun : start.code config none with ⟨e | ⟨⟩, s₁, t₁⟩
  · rw [Traced.run_bind_error hbegun] at hrun
    cases hrun
  rw [Traced.run_bind_ok hbegun] at hrun
  have hstarted : Started config start s₁ t₁ := hstart.of_ok hbegun
  obtain ⟨c₀, c₁, hblock, rfl, hagree₁⟩ := hstarted.agrees hmalloc hmade hid
  have hpost := post_fsRdmaCmEventHandler_link config channel none ticks hagree₁
  rcases hloop : fsRdmaCmEventHandler config channel none ticks (some c₁) with ⟨out, s₂, t₂⟩
  rw [hloop] at hrun
  obtain ⟨rfl, rfl, -⟩ := Ran.mk.inj hrun
  obtain ⟨c, hc, hagree⟩ := hpost.of_ok hloop
  rw [Link.run_eq rfl] at hagree
  refine ⟨c₀, c, hblock, hc, ?_, ?_⟩
  · rw [hagree.flagged, Bool.or_eq_true, decide_eq_true_iff, List.any_eq_true]
    refine or_congr_right ?_
    refine exists_congr fun tick => and_congr_right fun _ => ?_
    rw [Option.any_eq_true]
    refine exists_congr fun event => and_congr_right fun _ => ?_
    rw [setsFlag, Bool.and_eq_true, decide_eq_true_iff, decide_eq_true_iff]
    exact and_comm
  · rw [← List.all_eq_true]
    constructor
    · intro hne
      by_contra hall
      exact hne (hagree.gone (Bool.not_eq_true _ ▸ hall))
    · intro hall
      rw [hagree.alive hall]
      exact Option.some_ne_none id

/-- The sample client, which is told twice that its connection is established, and loses it in
between. -/
theorem connected_iff_client :
    ∃ c₀ c, (Sample.connect Sample.block).ctx.malloc = some c₀ ∧
      (Sample.clientRun [.addrResolved, .routeResolved, .established, .disconnected,
        .established]).state = some c ∧
      (c.connected = 1 ↔ c₀.connected = 1 ∨
        ∃ tick ∈ lived Sample.config ([.addrResolved, .routeResolved,
          .established, .disconnected, .established].map (Sample.tick · 11)),
        ∃ event, tick.got = some event ∧ event.id = 11 ∧
          (event.event = .established ∨ event.event = .connectRequest)) ∧
      (c.cmId ≠ none ↔ ∀ tick ∈ handledTicks ([.addrResolved, .routeResolved, .established,
          .disconnected, .established].map (Sample.tick · 11)),
        Tick.spares Sample.config tick = true) :=
  connected_iff (some 10) (Sample.connect Sample.block) _ (Option.some_ne_none _) Sample.ctxMade
    rfl _ rfl

end Transport
