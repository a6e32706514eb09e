import RdmaCpp.Transport.Books

/-!
# Events about other connections

All handlers work on the one context, and only the connection check looks at the id
an event is about – to disconnect the *current* connection when the ids differ. So an
established connection is left alone by the events of other peers exactly when
their handlers do not look at the context at all
(`Transport.isolated_iff_looksAway`): an address resolved whose route can be asked
for, and the kinds that have no handler.

Every other event spoils the connection for good. It releases it or disconnects it,
which the trace records; or it creates the resources of a second connection in the
same context, and then the device context in it is another one. Neither is undone by
what follows (`Transport.Spoiled`).
-/

namespace Transport

/-- The actions that take something from the connection `id`: a release, or its
disconnection. -/
def Harms (id : ℕ) (a : Act) : Prop := a.isKeeping = false ∨ a = .rdmaDisconnect (some id)

/-- **The connection is untouched**: the context is as it was, nothing in it has been
released, and the connection has not been disconnected. -/
def Isolated (c : RdmaContext) (id : ℕ) (r : Ran (Option RdmaContext) Act Fault Unit) : Prop :=
  r.state = some c ∧ ∀ a ∈ r.trace, ¬Harms id a

/-- The condition on a step: an event is one whose handler does not look at the
context. -/
def LooksAway (_ : List Act) (_ : Option RdmaContext) (tick : Tick) : Prop :=
  ∀ event, tick.got = some event → Untouching tick.outcomes event

/-- **What is asked of the events of other peers**: they are about other ids, and no
call hands out the device context `ctx` that is in use. -/
def Foreign (ctx : Ptr) (id : ℕ) (tick : Tick) : Prop :=
  (∀ event, tick.got = some event → event.id ≠ id) ∧
    ∀ d, tick.outcomes.create.ibvOpenDevice = some d → ctx ≠ some d

/-- **The connection is spoiled**: something has been taken from it, or the context now
holds another device context. -/
def Spoiled (ctx : Ptr) (id : ℕ) (s : Option RdmaContext) (h : List Act) : Prop :=
  (∃ a ∈ h, Harms id a) ∨ ∃ c, s = some c ∧ c.cmId = some id ∧ c.context ≠ ctx

variable {config : RdmaParam} {channel : Ptr} {ctx : Ptr} {id : ℕ} {o : HandlerOutcomes}
  {event : CmEvent} {c c' : RdmaContext} {r : Option CmEvent} {t : List Act}

/-! ### What an event does to a connection -/

/-- A teardown destroys the current id. -/
theorem mem_teardownActs (hid : c.cmId = some id) :
    .rdmaDestroyId (some id) ∈ teardownActs config c := by
  rw [teardownActs, hid]
  exact List.mem_cons_of_mem _ (List.mem_append_right _ List.mem_cons_self)

theorem harms_destroyId : Harms id (.rdmaDestroyId (some id)) := Or.inl rfl

/-- Handling an event with a teardown destroys the current id. -/
theorem Handled.harms (h : Handled config o event c r c' t)
    (htear : TearsDown config o event c) (hid : c.cmId = some id) : ∃ a ∈ t, Harms id a := by
  obtain ⟨-, -, c₁, hid₁, hsub⟩ := h.tornDown htear
  exact ⟨_, hsub (mem_teardownActs (hid₁.trans hid)), harms_destroyId⟩

/-- The connection check disconnects the current id when the event is about another
one. -/
theorem initActs_harms (hid : c.cmId = some id) (hforeign : event.id ≠ id) :
    ∃ a ∈ initActs event c, Harms id a := by
  have hno : ¬Initiates event c := by
    rintro ⟨-, heq⟩
    rw [hid] at heq
    exact hforeign (Option.some.inj heq)
  refine ⟨.rdmaDisconnect (some id), ?_, Or.inr rfl⟩
  rw [initActs, if_neg hno, hid]
  exact List.mem_append_right _ List.mem_cons_self

/-- A creation that gets through its first piece puts another device context in
place. -/
theorem context_ne_of_fresh {o : CreateOutcomes} (hopen : o.ibvOpenDevice ≠ none)
    (hfresh : ∀ d, o.ibvOpenDevice = some d → ctx ≠ some d) : o.ibvOpenDevice ≠ ctx := by
  obtain ⟨d, hd⟩ := Option.ne_none_iff_exists'.mp hopen
  rw [hd]
  exact (hfresh d hd).symm

theorem CreateRan.spoils {o : CreateOutcomes} (h : CreateRan config o c 0 c' t)
    (hid : c.cmId = some id) (hfresh : ∀ d, o.ibvOpenDevice = some d → ctx ≠ some d) :
    c'.cmId = some id ∧ c'.context ≠ ctx := by
  refine ⟨h.frame.2.1.trans hid, ?_⟩
  cases h with
  | made h | unknown h =>
    rw [h.context_eq]
    exact context_ne_of_fresh (h.contextOk (by decide)).1 hfresh

/-- **Handling the event of another peer**, unless its handler looks away, **spoils the
connection.** -/
theorem Handled.spoils (h : Handled config o event c r c' t) (hid : c.cmId = some id)
    (hforeign : Foreign ctx id ⟨some event, o⟩) (hlooks : ¬Untouching o event) :
    Spoiled ctx id (some c') t := by
  by_cases htear : TearsDown config o event c
  · exact Or.inl (h.harms htear hid)
  cases h.kept htear with
  | untouched hun => exact absurd hun hlooks
  | connecting hk hran =>
    exact Or.inr ⟨c', rfl, hran.spoils hid hforeign.2⟩
  | @accepted c₁ t₁ hk hran =>
    obtain ⟨hid₁, -⟩ := hran.spoils hid hforeign.2
    obtain ⟨a, ha, hharm⟩ := initActs_harms hid₁ (hforeign.1 event rfl)
    refine Or.inl ⟨a, ?_, hharm⟩
    simp only [List.mem_cons, List.mem_append, ha, true_or, or_true]
  | established hk =>
    obtain ⟨a, ha, hharm⟩ := initActs_harms hid (hforeign.1 event rfl)
    refine Or.inl ⟨a, ?_, hharm⟩
    simp only [List.mem_cons, List.mem_append, ha, true_or, or_true]

/-- So does handling one that stops inside the creation of resources. -/
theorem HandledStuck.spoils (h : HandledStuck config o event c c' t) (hid : c.cmId = some id)
    (hforeign : Foreign ctx id ⟨some event, o⟩) : Spoiled ctx id (some c') t := by
  obtain ⟨-, hstuck⟩ := h
  refine Or.inr ⟨c', rfl, hstuck.frame.2.1.trans hid, ?_⟩
  have hcontext : c'.context = o.create.ibvOpenDevice ∧ ContextOk o.create := by
    cases hstuck with
    | qps hshared hqps =>
      obtain ⟨i, -, -, -, -, -⟩ := hqps
      exact ⟨rfl, hshared.1⟩
    | bufs hshared hqps hbufs =>
      cases hqps with
      | done =>
        obtain ⟨i, b, k, -, -, -, -⟩ := hbufs
        exact ⟨rfl, hshared.1⟩
  rw [hcontext.1]
  exact context_ne_of_fresh hcontext.2.1 hforeign.2

/-- **A spoiled connection stays spoiled**, whatever event is handled next. -/
theorem Spoiled.turn {h : List Act} {s : Option RdmaContext} {b : Option CmEvent} {tick : Tick}
    (hforeign : Foreign ctx id tick) (hs : Spoiled ctx id s h) :
    Traced.Post (turn config channel b tick) s
      (fun _ s' t => Spoiled ctx id s' (h ++ t)) (fun _ s' t => Spoiled ctx id s' (h ++ t)) := by
  rcases hs with ⟨a, ha, hharm⟩ | ⟨c, rfl, hid, hcontext⟩
  · exact Traced.post_iff.mpr (Or.inl ⟨a, List.mem_append_left _ ha, hharm⟩)
  have hlater : ∀ {c' t'}, Spoiled ctx id (some c') t' → Spoiled ctx id (some c') (h ++ t') := by
    rintro c' t' (⟨a, ha, hharm⟩ | hc)
    · exact Or.inl ⟨a, List.mem_append_right _ ha, hharm⟩
    · exact Or.inr hc
  obtain ⟨got, o⟩ := tick
  rcases got with _ | event
  · refine post_turn_idle.mono ?_ ?_
    · rintro r s' t ⟨-, rfl, rfl⟩
      exact Or.inr ⟨c, rfl, hid, hcontext⟩
    · rintro e s' t ⟨rfl, rfl⟩
      exact Or.inr ⟨c, rfl, hid, hcontext⟩
  have hturn : ∀ {c' t'}, Spoiled ctx id (some c') t' →
      Spoiled ctx id (some c') (h ++ (obtainActs channel event ++ t')) := by
    rintro c' t' (⟨a, ha, hharm⟩ | hc)
    · exact hlater (Or.inl ⟨a, List.mem_append_right _ ha, hharm⟩)
    · exact Or.inr hc
  refine post_turn_obtained.mono ?_ ?_
  · rintro r s t ⟨r', c', t', rfl, rfl, rfl, hran⟩
    by_cases hlooks : Untouching o event
    · obtain ⟨rfl, -⟩ := hran.untouched hlooks
      exact Or.inr ⟨c', rfl, hid, hcontext⟩
    · exact hturn (hran.spoils hid hforeign hlooks)
  · rintro e s t ⟨c', t', rfl, rfl, hran⟩
    exact hturn (hran.spoils hid hforeign)

/-! ### Sequences of events -/

/-- A spoiled connection stays spoiled over any sequence of events of other peers. -/
theorem Spoiled.loop {h : List Act} {s : Option RdmaContext} {b : Option CmEvent}
    {ticks : List Tick} (hforeign : ∀ tick ∈ ticks, Foreign ctx id tick)
    (hs : Spoiled ctx id s h) :
    Spoiled ctx id (fsRdmaCmEventHandler config channel b ticks s).state
      (h ++ (fsRdmaCmEventHandler config channel b ticks s).trace) := by
  have hpost : Traced.Post (fsRdmaCmEventHandler config channel b ticks) s
      (fun _ s' t => Spoiled ctx id s' (h ++ t)) (fun _ s' t => Spoiled ctx id s' (h ++ t)) := by
    refine Traced.post_loopOver (P := fun _ _ tick => Foreign ctx id tick)
      (fun _ s h => Spoiled ctx id s h) (fun b s h tick htick hs => ?_) (fun _ _ _ hs => hs)
      (Traced.meets_of_mem (fun tick htick _ _ => hforeign tick htick) b s h) hs
    refine (hs.turn htick).mono ?_ fun _ _ _ hr => hr
    rintro (_ | b') s' t' hr
    · exact hr
    · exact hr
  exact Traced.post_iff.mp hpost

/-- A spoiled connection is not the one that was there. -/
theorem Spoiled.not_isolated {r : Ran (Option RdmaContext) Act Fault Unit}
    (hs : Spoiled c.context id r.state r.trace) : ¬Isolated c id r := by
  rintro ⟨hstate, hclean⟩
  rcases hs with ⟨a, ha, hharm⟩ | ⟨c', hc', -, hcontext⟩
  · exact hclean a ha hharm
  · rw [hstate] at hc'
    exact hcontext (congrArg RdmaContext.context (Option.some.inj hc').symm)

/-- What is done for an event whose handler looks away harms nothing. -/
theorem clean_of_untouched {t' : List Act}
    (ht' : t' = [.readEvent event, .readEvent event] ∨ t' = resolveActs o event) :
    ∀ a ∈ obtainActs channel event ++ (t' ++ [.rdmaAckCmEvent event]), ¬Harms id a := by
  rcases ht' with rfl | rfl
  · intro a ha
    simp only [obtainActs, List.cons_append, List.nil_append, List.mem_cons, List.not_mem_nil,
      or_false] at ha
    rcases ha with rfl | rfl | rfl | rfl | rfl <;> rintro (hc | hc) <;> cases hc
  · intro a ha
    simp only [obtainActs, resolveActs, List.cons_append, List.nil_append, List.mem_cons,
      List.not_mem_nil, or_false] at ha
    rcases ha with rfl | rfl | rfl | rfl | rfl | rfl <;> rintro (hc | hc) <;> cases hc

/-- A turn whose handler looks away, followed by the rest of the loop. -/
theorem isolated_cons_of_untouching {b : Option CmEvent} {ticks : List Tick}
    (hlooks : Untouching o event)
    (ih : ∀ b h, Isolated c id (fsRdmaCmEventHandler config channel b ticks (some c)) ↔
      Traced.Meets LooksAway (turn config channel) b (some c) h ticks) (h : List Act) :
    Isolated c id (fsRdmaCmEventHandler config channel b (⟨some event, o⟩ :: ticks) (some c)) ↔
      Traced.Meets LooksAway (turn config channel) b (some c) h (⟨some event, o⟩ :: ticks) := by
  have hpost : Traced.Post (turn config channel b ⟨some event, o⟩) (some c) _ _ :=
    post_turn_obtained
  rcases hrun : turn config channel b ⟨some event, o⟩ (some c) with ⟨e | r, s, t⟩
  · -- the handler is not one of those that create resources, so the turn does not stop
    obtain ⟨c', t', rfl, rfl, hkind, -⟩ := hpost.of_error hrun
    rcases hlooks with hun | ⟨hun, -⟩ <;> rcases hkind with hk | hk <;> rw [hk] at hun <;> cases hun
  obtain ⟨r', c', t', rfl, rfl, rfl, hran⟩ := hpost.of_ok hrun
  obtain ⟨rfl, t'', ht'', rfl⟩ := hran.untouched hlooks
  have hclean : ∀ a ∈ obtainActs channel event ++ (t'' ++ [.rdmaAckCmEvent event]), ¬Harms id a :=
    clean_of_untouched ht''
  have hloop : fsRdmaCmEventHandler config channel b (⟨some event, o⟩ :: ticks) (some c') =
      ⟨(fsRdmaCmEventHandler config channel r' ticks (some c')).out,
        (fsRdmaCmEventHandler config channel r' ticks (some c')).state,
        obtainActs channel event ++ (t'' ++ [.rdmaAckCmEvent event]) ++
          (fsRdmaCmEventHandler config channel r' ticks (some c')).trace⟩ := by
    rw [fsRdmaCmEventHandler, Traced.loopOver, Traced.run_bind_ok hrun]
    rfl
  -- the actions of this turn do no harm
  have hleft : Isolated c' id
        (fsRdmaCmEventHandler config channel b (⟨some event, o⟩ :: ticks) (some c')) ↔
      Isolated c' id (fsRdmaCmEventHandler config channel r' ticks (some c')) := by
    rw [hloop]
    refine and_congr_right fun _ => ⟨fun hall a ha => ?_, fun hall a ha => ?_⟩
    · exact hall a (List.mem_append_right _ ha)
    · exact (List.mem_append.mp ha).elim (hclean a) (hall a)
  rw [hleft, ih r' (h ++ (obtainActs channel event ++ (t'' ++ [.rdmaAckCmEvent event])))]
  constructor
  · intro hmeets
    refine ⟨fun event' hevent => ?_, fun b' s' t' hturn => ?_⟩
    · obtain rfl : event = event' := Option.some.inj hevent
      exact hlooks
    · rw [hrun] at hturn
      cases hturn
      exact hmeets
  · rintro ⟨-, hrest⟩
    exact hrest _ _ _ hrun

/-- A turn that obtains no event touches nothing, and is the last. -/
theorem isolated_cons_of_idle {b : Option CmEvent} {ticks : List Tick} (h : List Act) :
    Isolated c id (fsRdmaCmEventHandler config channel b (⟨none, o⟩ :: ticks) (some c)) ↔
      Traced.Meets LooksAway (turn config channel) b (some c) h (⟨none, o⟩ :: ticks) := by
  have hpost : Traced.Post (turn config channel b ⟨none, o⟩) (some c) _ _ := post_turn_idle
  have hclean : ∀ a ∈ idleActs channel b, ¬Harms id a := by
    intro a ha
    rcases b with _ | b
    · simp only [idleActs, Option.toList_none, List.map_nil, List.mem_singleton] at ha
      rcases ha with rfl
      rintro (hc | hc) <;> cases hc
    · simp only [idleActs, Option.toList_some, List.map_cons, List.map_nil, List.mem_cons,
        List.not_mem_nil, or_false] at ha
      rcases ha with rfl | rfl <;> rintro (hc | hc) <;> cases hc
  rcases hrun : turn config channel b ⟨none, o⟩ (some c) with ⟨e | r, s, t⟩
  · obtain ⟨rfl, rfl⟩ := hpost.of_error hrun
    rw [fsRdmaCmEventHandler, Traced.loopOver, Traced.run_bind_error hrun]
    refine ⟨fun _ => ⟨fun event hevent => (Option.some_ne_none event hevent.symm).elim, ?_⟩,
      fun _ => ⟨rfl, hclean⟩⟩
    intro b' s' t' hturn
    rw [hrun] at hturn
    cases hturn
  · obtain ⟨rfl, rfl, rfl⟩ := hpost.of_ok hrun
    rw [fsRdmaCmEventHandler, Traced.loopOver, Traced.run_bind_ok hrun]
    refine ⟨fun _ => ⟨fun event hevent => (Option.some_ne_none event hevent.symm).elim, ?_⟩,
      fun _ => ⟨rfl, ?_⟩⟩
    · intro b' s' t' hturn
      rw [hrun] at hturn
      cases hturn
    · simpa only [Traced.run_pure, List.append_nil] using hclean

/-- **A turn whose handler does not look away spoils the connection**, and it stays
spoiled. -/
theorem spoiled_cons {b : Option CmEvent} {ticks : List Tick} (hid : c.cmId = some id)
    (hforeign : Foreign ctx id ⟨some event, o⟩) (hrest : ∀ tick ∈ ticks, Foreign ctx id tick)
    (hlooks : ¬Untouching o event) :
    Spoiled ctx id (fsRdmaCmEventHandler config channel b (⟨some event, o⟩ :: ticks) (some c)).state
      (fsRdmaCmEventHandler config channel b (⟨some event, o⟩ :: ticks) (some c)).trace := by
  have hpost : Traced.Post (turn config channel b ⟨some event, o⟩) (some c) _ _ :=
    post_turn_obtained
  have hturn : ∀ {c' t'}, Spoiled ctx id (some c') t' →
      Spoiled ctx id (some c') (obtainActs channel event ++ t') := by
    rintro c' t' (⟨a, ha, hharm⟩ | hc)
    · exact Or.inl ⟨a, List.mem_append_right _ ha, hharm⟩
    · exact Or.inr hc
  rcases hrun : turn config channel b ⟨some event, o⟩ (some c) with ⟨e | r, s, t⟩
  · obtain ⟨c', t', rfl, rfl, hran⟩ := hpost.of_error hrun
    rw [fsRdmaCmEventHandler, Traced.loopOver, Traced.run_bind_error hrun]
    exact hturn (hran.spoils hid hforeign)
  · obtain ⟨r', c', t', rfl, rfl, rfl, hran⟩ := hpost.of_ok hrun
    rw [fsRdmaCmEventHandler, Traced.loopOver, Traced.run_bind_ok hrun]
    exact (hturn (hran.spoils hid hforeign hlooks)).loop hrest

/-- **When an established connection is isolated**: over events of other peers it is
untouched exactly if the handler of every event that is handled looks away. -/
theorem isolated_iff_looksAway (config : RdmaParam) (channel : Ptr) (b : Option CmEvent)
    (c : RdmaContext) (id : ℕ) (hid : c.cmId = some id) (ticks : List Tick)
    (hforeign : ∀ tick ∈ ticks, Foreign c.context id tick) :
    Isolated c id (fsRdmaCmEventHandler config channel b ticks (some c)) ↔
      Traced.Meets LooksAway (turn config channel) b (some c) [] ticks := by
  suffices key : ∀ b h, Isolated c id (fsRdmaCmEventHandler config channel b ticks (some c)) ↔
      Traced.Meets LooksAway (turn config channel) b (some c) h ticks from key b []
  induction ticks with
  | nil =>
    intro b h
    refine ⟨fun _ => trivial, fun _ => ⟨rfl, fun a ha => absurd ha List.not_mem_nil⟩⟩
  | cons tick ticks ih =>
    intro b h
    have hrest : ∀ tick ∈ ticks, Foreign c.context id tick :=
      fun tick' ht => hforeign tick' (List.mem_cons_of_mem tick ht)
    obtain ⟨got, o⟩ := tick
    rcases got with _ | event
    · exact isolated_cons_of_idle h
    by_cases hlooks : Untouching o event
    · exact isolated_cons_of_untouching hlooks (ih hrest) h
    · refine ⟨fun hiso => ?_, fun hmeets => absurd (hmeets.1 event rfl) hlooks⟩
      refine absurd hiso (Spoiled.not_isolated ?_)
      exact spoiled_cons hid (hforeign _ List.mem_cons_self) hrest hlooks

/-- The context of the sample client that is connected, with its queue pairs, its buffers and
their regions. -/
def Sample.inUse : RdmaContext where
  cmEventChannel := some 10
  cmId := some 11
  context := some 21
  channel := none
  pd := some 22
  mr := some ⟨13, [some 50, some 51]⟩
  sendCq := some 24
  recvCq := some 25
  buf := some ⟨14, [some 40, some 41]⟩
  qp := some ⟨12, [some 30, some 31]⟩
  srq := none
  connected := 1

example : (Sample.clientRun [.addrResolved, .routeResolved, .established]).state =
    some Sample.inUse := by decide

/-- The address of another peer is resolved while the sample client is connected: the
connection is left alone. -/
theorem isolated_addrResolved :
    Isolated Sample.inUse 11 (fsRdmaCmEventHandler Sample.config (some 10) none
      [⟨some (Sample.event .addrResolved 99),
        { Sample.handler with create := { Sample.create with ibvOpenDevice := some 27 } }⟩]
      (some Sample.inUse)) := by
  refine (isolated_iff_looksAway _ _ _ _ 11 rfl _ ?_).mpr ?_
  · intro tick htick
    obtain rfl := List.mem_singleton.mp htick
    refine ⟨fun event hevent => ?_, fun d hd => ?_⟩
    · obtain rfl := Option.some.inj hevent
      decide
    · obtain rfl := Option.some.inj hd
      decide
  · refine ⟨fun event hevent => ?_, fun _ _ _ _ => trivial⟩
    obtain rfl := Option.some.inj hevent
    exact Or.inr ⟨rfl, rfl⟩

/-- **An established event of another peer disconnects the current connection**: the
sample client is connected on id 11, and then an event on id 99 is handled. -/
theorem not_isolated_of_foreign_established :
    ∃ c, (Sample.clientRun [.addrResolved, .routeResolved, .established]).state = some c ∧
      c.connected = 1 ∧ c.cmId = some 11 ∧
      ¬Isolated c 11 (fsRdmaCmEventHandler Sample.config (some 10) none
        [Sample.tick .established 99] (some c)) := by
  refine ⟨_, rfl, rfl, rfl, ?_⟩
  rintro ⟨-, hclean⟩
  refine hclean (.rdmaDisconnect (some 11)) ?_ (Or.inr rfl)
  decide

end Transport
