import RdmaCpp.Lib.Twice
import RdmaCpp.Transport.Handled

/-!
# What a step reads before it writes it

Two runs of the transport side by side, at contexts that may differ. A step goes the
same way in both when the fields agree that it reads before it writes them, and this
module says which fields these are (`Transport.SameRead`): all that a teardown tests
and releases; the connection id and the flag for the connection check; and for a
creation the id and the arrays, the completion channel and the shared receive queue
when none is asked for, and the protection domain and the completion queues when it
fails before it has made them, since then its cleanup looks at them.

The elements of the arrays are in none of these: they are written and never read.
-/

namespace Transport

/-! ### What is read -/

/-- Two array fields look the same: the same address, the same extent. -/
def SameArray (a b : Option PtrArray) : Prop := arrayPtr a = arrayPtr b ∧ room a = room b

/-- **What a teardown reads is the same** in the two contexts. -/
structure SameRelease (c c' : RdmaContext) : Prop where
  cmId : c.cmId = c'.cmId
  qp : SameArray c.qp c'.qp
  mr : SameArray c.mr c'.mr
  buf : SameArray c.buf c'.buf
  pd : c.pd = c'.pd
  sendCq : c.sendCq = c'.sendCq
  recvCq : c.recvCq = c'.recvCq

/-- Whether the send completion queue is asked for at all. -/
def AsksSendCq (config : RdmaParam) (o : CreateOutcomes) : Prop :=
  ContextOk o ∧ ChannelOk config o ∧ o.ibvQueryDevice = 0

instance (config : RdmaParam) (o : CreateOutcomes) : Decidable (AsksSendCq config o) :=
  inferInstanceAs (Decidable (_ ∧ _))

/-- Whether the receive completion queue is asked for at all. -/
def AsksRecvCq (config : RdmaParam) (o : CreateOutcomes) : Prop :=
  ContextOk o ∧ ChannelOk config o ∧ CqsOk o

instance (config : RdmaParam) (o : CreateOutcomes) : Decidable (AsksRecvCq config o) :=
  inferInstanceAs (Decidable (_ ∧ _))

/-- Whether a queue pair is asked for at all. -/
def AsksQp (config : RdmaParam) (o : CreateOutcomes) : Prop :=
  SharedOk config o ∧ 0 < config.turns ∧ qpTypeOf config.connectionType ≠ none

/-- **What a creation reads before it writes it is the same**: the id and the arrays; the
channel and the shared receive queue, which must be `NULL`, when none is used; and the
domain and the completion queues when it fails before it asks for them. -/
structure SameCreate (config : RdmaParam) (o : CreateOutcomes) (c c' : RdmaContext) : Prop where
  cmId : c.cmId = c'.cmId
  qp : SameArray c.qp c'.qp
  mr : SameArray c.mr c'.mr
  buf : SameArray c.buf c'.buf
  channel : AsksSendCq config o → config.useEvent = 0 → c.channel = none ∧ c'.channel = none
  srq : AsksQp config o → config.useSrq = 0 → c.srq = none ∧ c'.srq = none
  pd : ¬AsksPd o → c.pd = c'.pd
  sendCq : ¬AsksSendCq config o → c.sendCq = c'.sendCq
  recvCq : ¬AsksRecvCq config o → c.recvCq = c'.recvCq

/-- **What handling an event reads before it writes it is the same** in the two
contexts, the flag apart. -/
def SameRead (config : RdmaParam) (o : HandlerOutcomes) (event : CmEvent)
    (c c' : RdmaContext) : Prop :=
  match event.event with
  | .addrResolved => o.rdmaResolveRoute ≠ 0 → SameRelease c c'
  | .routeResolved | .connectRequest => SameCreate config o.create c c'
  | .established => c.cmId = c'.cmId
  | .addrError | .routeError | .connectError | .unreachable | .rejected | .disconnected =>
    SameRelease c c'
  | _ => True

/-- The condition on a pair of steps. -/
def ReadsAlike (config : RdmaParam) (s s' : Option RdmaContext) (tick : Tick) : Prop :=
  ∀ c c' event, s = some c → s' = some c' → tick.got = some event →
    SameRead config tick.outcomes event c c'

/-! ### Going alike -/

/-- What an action must not be given: a completion channel or a shared receive queue
when none is used. -/
def Act.nullArgs (config : RdmaParam) : Act → Prop
  | .ibvCreateCq _ _ channel _ => config.useEvent = 0 → channel = none
  | .rdmaCreateQp _ _ attr _ => config.useSrq = 0 → attr.srq = none
  | _ => True

/-- Both states have a context or none, and the flag is the same. -/
def SameFlags (s s' : Option RdmaContext) : Prop :=
  s.map RdmaContext.connected = s'.map RdmaContext.connected

/-- **Two pieces of code go alike**: the same calls, with `NULL` for what is not used, and
the same end; where they stop, the flags are the same. -/
abbrev GoAlike (config : RdmaParam) {α β : Type} (m : TransportM α) (m' : TransportM β)
    (s s' : Option RdmaContext) (Q : α → β → Option RdmaContext → Option RdmaContext → Prop) :
    Prop :=
  Traced.Alike (Act.nullArgs config) m m' s s' Q SameFlags

variable {config : RdmaParam} {c c' : RdmaContext}

theorem sameFlags_some (h : c.connected = c'.connected) : SameFlags (some c) (some c') :=
  congrArg some h

section Steps

variable {α β : Type} {f : RdmaContext → TransportM α} {g : RdmaContext → TransportM β}
  {Q : α → β → Option RdmaContext → Option RdmaContext → Prop}

/-- Two contexts are read, and then the rest. -/
theorem goAlike_rdmaCtx_bind (h : GoAlike config (f c) (g c') (some c) (some c') Q) :
    GoAlike config (rdmaCtx >>= f) (rdmaCtx >>= g) (some c) (some c') Q := by
  refine Traced.Alike.bind (Traced.alike_of_ok (run_rdmaCtx c) (run_rdmaCtx c') ?_ rfl h)
  exact fun _ hx => absurd hx List.not_mem_nil

/-- A field is assigned in two contexts, and then the rest. -/
theorem goAlike_assign_bind {h h' : RdmaContext → RdmaContext} {f : Unit → TransportM α}
    {g : Unit → TransportM β}
    (hrest : GoAlike config (f ()) (g ()) (some (h c)) (some (h' c')) Q) :
    GoAlike config (assign h >>= f) (assign h' >>= g) (some c) (some c') Q := by
  refine Traced.Alike.bind (Traced.alike_of_ok (run_assign h c) (run_assign h' c') ?_ rfl hrest)
  exact fun _ hx => absurd hx List.not_mem_nil

end Steps

/-- **An element is stored alike** in arrays that look the same. -/
theorem goAlike_storeCell {field : RdmaContext → Option PtrArray}
    {put : PtrArray → RdmaContext → RdmaContext} {i : ℕ} {p : Ptr}
    {Q : Unit → Unit → Option RdmaContext → Option RdmaContext → Prop}
    (harray : SameArray (field c) (field c')) (hflag : c.connected = c'.connected)
    (hQ : ∀ a a', field c = some a → field c' = some a' →
      Q () () (some (put (a.store i p) c)) (some (put (a'.store i p) c'))) :
    GoAlike config (storeCell field put i p) (storeCell field put i p) (some c) (some c') Q := by
  refine goAlike_rdmaCtx_bind ?_
  obtain ⟨hptr, hroom⟩ := harray
  rcases hf : field c with _ | a
  · rw [hf] at hptr
    rw [arrayPtr_eq_none.mp hptr.symm]
    exact Traced.Alike.stop (sameFlags_some hflag)
  rcases hf' : field c' with _ | a'
  · rw [hf, hf'] at hptr
    cases hptr
  · rw [hf, hf', room_some, room_some] at hroom
    refine Traced.Alike.ite (by rw [hroom]) (fun _ => ?_)
      fun _ => Traced.Alike.stop (sameFlags_some hflag)
    refine Traced.alike_of_ok (run_assign _ c) (run_assign _ c') ?_ rfl (hQ a a' hf hf')
    exact fun _ hx => absurd hx List.not_mem_nil

theorem sameArray_store {a a' : PtrArray} {i : ℕ} {p : Ptr} (h : SameArray (some a) (some a')) :
    SameArray (some (a.store i p)) (some (a'.store i p)) := by
  refine ⟨h.1, ?_⟩
  simpa only [room_some, PtrArray.store_cells, List.length_set] using h.2

/-! ### Actions without a channel and a shared receive queue -/

/-- The actions that are given neither a completion channel nor a shared receive
queue. -/
def Act.isBare : Act → Bool
  | .ibvCreateCq .. | .rdmaCreateQp .. => false
  | _ => true

theorem nullArgs_of_isBare {t : List Act} (h : t.all Act.isBare = true) :
    ∀ a ∈ t, a.nullArgs config := by
  intro a ha
  have hbare := List.all_eq_true.mp h a ha
  cases a <;> trivial

theorem all_isBare_sharedReleaseActs (c : RdmaContext) :
    (sharedReleaseActs config c).all Act.isBare = true := by
  refine all_mono (fun a ha => ?_) (all_sharedReleaseActs config c)
  cases a <;> first | rfl | exact absurd ha Bool.false_ne_true

theorem all_isBare_teardownActs (c : RdmaContext) :
    (teardownActs config c).all Act.isBare = true := by
  simp only [teardownActs, List.all_cons, List.all_append, all_isBare_sharedReleaseActs,
    List.all_nil, Bool.and_true, Bool.true_and, Bool.and_eq_true]
  exact ⟨rfl, all_releaseAct rfl, rfl⟩

theorem all_isBare_cleanupActs (c : RdmaContext) :
    (cleanupActs config c).all Act.isBare = true := by
  rw [cleanupActs, List.all_append, all_isBare_sharedReleaseActs, Bool.true_and]
  exact all_releaseAct rfl

/-! ### Releasing -/

theorem SameRelease.sharedReleaseActs_eq (h : SameRelease c c') :
    sharedReleaseActs config c = sharedReleaseActs config c' := by
  rw [sharedReleaseActs, sharedReleaseActs, arrayActs, arrayActs, turnActs, turnActs, h.cmId,
    h.qp.1, h.mr.1, h.buf.1, h.pd, h.sendCq, h.recvCq]

theorem SameRelease.teardownActs_eq (h : SameRelease c c') :
    teardownActs config c = teardownActs config c' := by
  rw [teardownActs, teardownActs, h.sharedReleaseActs_eq, h.cmId]

theorem SameRelease.cleanupActs_eq (h : SameRelease c c') (hcontext : c.context = c'.context) :
    cleanupActs config c = cleanupActs config c' := by
  rw [cleanupActs, cleanupActs, h.sharedReleaseActs_eq, hcontext]

/-- What is left of the arrays by a cleanup is the same. -/
theorem SameRelease.cleaned (h : SameRelease c c') :
    SameRelease (c.cleaned config) (c'.cleaned config) := by
  rcases Nat.eq_zero_or_pos config.turns with h0 | hpos
  · have hkeep : ∀ c : RdmaContext, c.arraysReleased config = c := fun c => by
      rw [RdmaContext.arraysReleased, if_neg (by omega)]
    constructor <;> simp only [RdmaContext.cleaned, hkeep]
    exacts [h.cmId, h.qp, h.mr, h.buf]
  · have hdrop : ∀ c : RdmaContext, c.arraysReleased config = c.withoutArrays := fun c => by
      rw [RdmaContext.arraysReleased, if_pos hpos]
    constructor <;> simp only [RdmaContext.cleaned, hdrop]
    exacts [h.cmId, ⟨rfl, rfl⟩, ⟨rfl, rfl⟩, ⟨rfl, rfl⟩]

theorem arraysReleased_flag (hflag : c.connected = c'.connected) :
    (c.arraysReleased config).connected = (c'.arraysReleased config).connected := by
  rw [arraysReleased_connected, arraysReleased_connected, hflag]

/-- **A teardown goes alike** where what it reads is the same. -/
theorem goAlike_fsRdmaCmHandleDisconnect (h : SameRelease c c')
    (hflag : c.connected = c'.connected) :
    GoAlike config (fsRdmaCmHandleDisconnect config) (fsRdmaCmHandleDisconnect config)
      (some c) (some c') (fun _ _ s s' => SameFlags s s') := by
  refine Traced.Alike.bind ?_
  refine Traced.alike_of_ok (run_fsRdmaTeardown config c) (run_fsRdmaTeardown config c')
    (nullArgs_of_isBare (all_isBare_teardownActs c)) h.teardownActs_eq ?_
  exact Traced.Alike.pure (sameFlags_some (arraysReleased_flag hflag))

/-! ### The loops of a creation -/

/-- **Two contexts that go on alike**: a cleanup and a teardown would read the same. -/
structure Matched (c c' : RdmaContext) : Prop where
  release : SameRelease c c'
  context : c.context = c'.context
  connected : c.connected = c'.connected

/-- The shared receive queue given to a queue pair is the same, and `NULL` when none is
used. -/
def SameSrq (config : RdmaParam) (c c' : RdmaContext) : Prop :=
  0 < config.turns → qpTypeOf config.connectionType ≠ none →
    c.srq = c'.srq ∧ (config.useSrq = 0 → c.srq = none)

/-- Two contexts in which queue pairs and buffers are made alike. -/
def MatchedStates (config : RdmaParam) (s s' : Option RdmaContext) : Prop :=
  ∃ c c', s = some c ∧ s' = some c' ∧ Matched c c' ∧ SameSrq config c c'

/-- A queue pair is created alike. -/
theorem goAlike_createQp {o : CreateOutcomes} {i : ℕ} (hi : i < config.turns) (h : Matched c c')
    (hsrq : SameSrq config c c') :
    GoAlike config (createQp config o i) (createQp config o i) (some c) (some c')
      (fun r r' s s' => r = r' ∧ MatchedStates config s s') := by
  have hhere : MatchedStates config (some c) (some c') := ⟨c, c', rfl, rfl, h, hsrq⟩
  refine goAlike_rdmaCtx_bind ?_
  rcases htype : qpTypeOf config.connectionType with _ | qpType
  · exact Traced.Alike.pure ⟨rfl, hhere⟩
  obtain ⟨hsame, hnull⟩ := hsrq (by omega) (by rw [htype]; exact Option.some_ne_none qpType)
  refine Traced.Alike.emit_bind hnull ?_ ?_
  · rw [h.release.cmId, h.release.pd, qpInitAttr, qpInitAttr, h.release.sendCq, h.release.recvCq,
      hsame]
  refine Traced.Alike.ite Iff.rfl (fun _ => Traced.Alike.pure ⟨rfl, hhere⟩) fun _ => ?_
  refine Traced.Alike.ite (by rw [h.release.cmId]) (fun _ => ?_) fun _ => ?_
  · exact Traced.Alike.bind (Traced.Alike.stop (sameFlags_some h.connected))
  refine Traced.Alike.bind (goAlike_storeCell h.release.qp h.connected fun a a' ha ha' => ?_)
  have harray : SameArray (some a) (some a') := by
    have hqp := h.release.qp
    rwa [ha, ha'] at hqp
  refine Traced.Alike.pure ⟨rfl, _, _, rfl, rfl, ⟨?_, h.context, h.connected⟩, hsrq⟩
  exact { h.release with qp := sameArray_store harray }

/-- A buffer is allocated and registered alike. -/
theorem goAlike_registerBuf {o : CreateOutcomes} (i : ℕ) (h : Matched c c')
    (hsrq : SameSrq config c c') :
    GoAlike config (registerBuf o i) (registerBuf o i) (some c) (some c')
      (fun r r' s s' => r = r' ∧ MatchedStates config s s') := by
  refine Traced.Alike.emit_bind trivial rfl ?_
  refine Traced.Alike.bind (goAlike_storeCell h.release.buf h.connected fun a a' ha ha' => ?_)
  have harray : SameArray (some a) (some a') := by
    have hbuf := h.release.buf
    rwa [ha, ha'] at hbuf
  have hstored : Matched (ArrayField.buf.put (a.store i (o.memalign i)) c)
      (ArrayField.buf.put (a'.store i (o.memalign i)) c') :=
    ⟨{ h.release with buf := sameArray_store harray }, h.context, h.connected⟩
  refine Traced.Alike.emit_bind trivial rfl ?_
  refine Traced.Alike.ite Iff.rfl (fun _ => ?_) fun _ => ?_
  · exact Traced.Alike.bind (Traced.Alike.stop (sameFlags_some h.connected))
  refine goAlike_rdmaCtx_bind
    (Traced.Alike.emit_bind trivial (by rw [hstored.release.pd]) ?_)
  refine Traced.Alike.bind
    (goAlike_storeCell hstored.release.mr hstored.connected fun b b' hb hb' => ?_)
  have harray' : SameArray (some b) (some b') := by
    have hmr := hstored.release.mr
    rwa [hb, hb'] at hmr
  have hdone : MatchedStates config
      (some (ArrayField.mr.put (b.store i (o.ibvRegMr i)) (ArrayField.buf.put _ c)))
      (some (ArrayField.mr.put (b'.store i (o.ibvRegMr i)) (ArrayField.buf.put _ c'))) :=
    ⟨_, _, rfl, rfl, ⟨{ hstored.release with mr := sameArray_store harray' }, h.context,
      h.connected⟩, hsrq⟩
  exact Traced.Alike.ite Iff.rfl (fun _ => Traced.Alike.pure ⟨rfl, hdone⟩)
    fun _ => Traced.Alike.pure ⟨rfl, hdone⟩

/-- **A loop whose turns go alike goes alike.** -/
theorem goAlike_loop {body : ℕ → TransportM (Option Exit)}
    (hbody : ∀ i c c', i < config.turns → Matched c c' → SameSrq config c c' →
      GoAlike config (body i) (body i) (some c) (some c')
        (fun r r' s s' => r = r' ∧ MatchedStates config s s'))
    (h : Matched c c') (hsrq : SameSrq config c c') :
    GoAlike config (Traced.forLoop body 0 config.turns) (Traced.forLoop body 0 config.turns)
      (some c) (some c') (fun r r' s s' => r = r' ∧ MatchedStates config s s') := by
  refine Traced.Alike.forLoop (fun _ s s' => MatchedStates config s s') ?_
    (fun s s' hs => ⟨rfl, hs⟩) ⟨c, c', rfl, rfl, h, hsrq⟩
  rintro j s s' - hj ⟨c₁, c₁', rfl, rfl, hmatched, hsrq₁⟩
  refine (hbody j c₁ c₁' (by omega) hmatched hsrq₁).mono ?_ fun _ _ hE => hE
  rintro (_ | a) (_ | b) s s' ⟨hr, hs⟩
  · exact hs
  · cases hr
  · cases hr
  · exact ⟨hr, hs⟩

/-! ### A creation -/

section Create

variable {o : CreateOutcomes}

theorem SameCreate.withContext_pd (h : SameCreate config o c c') :
    (c.withContext o).pd = (c'.withContext o).pd := by
  by_cases hasks : AsksPd o
  · simp only [RdmaContext.withContext, if_pos hasks]
  · simpa only [RdmaContext.withContext, if_neg hasks] using h.pd hasks

/-- The channel given to the completion queues is the same, and `NULL` when none is
used. -/
theorem SameCreate.withChannel_channel (h : SameCreate config o c c')
    (hasks : AsksSendCq config o) :
    ((c.withContext o).withChannel config o).channel =
        ((c'.withContext o).withChannel config o).channel ∧
      (config.useEvent = 0 → ((c.withContext o).withChannel config o).channel = none) := by
  by_cases huse : config.useEvent = 0
  · have hkeep : ∀ c : RdmaContext, (c.withChannel config o).channel = c.channel :=
      fun c => if_neg (not_not.mpr huse)
    obtain ⟨hnull, hnull'⟩ := h.channel hasks huse
    rw [hkeep, hkeep]
    exact ⟨hnull.trans hnull'.symm, fun _ => hnull⟩
  · have hset : ∀ c : RdmaContext, (c.withChannel config o).channel = o.ibvCreateCompChannel :=
      fun c => if_pos huse
    rw [hset, hset]
    exact ⟨rfl, fun h0 => absurd h0 huse⟩

theorem SameCreate.sameSrq (h : SameCreate config o c c') (hshared : SharedOk config o) :
    SameSrq config (c.withShared config o) (c'.withShared config o) := by
  intro hpos hknown
  by_cases huse : config.useSrq = 0
  · have hkeep : ∀ c : RdmaContext, (c.withSrq config o).srq = c.srq :=
      fun c => if_neg (not_not.mpr huse)
    obtain ⟨hnull, hnull'⟩ := h.srq ⟨hshared, hpos, hknown⟩ huse
    rw [RdmaContext.withShared, RdmaContext.withShared, hkeep, hkeep]
    exact ⟨hnull.trans hnull'.symm, fun _ => hnull⟩
  · have hset : ∀ c : RdmaContext, (c.withSrq config o).srq = o.ibvCreateSrq := fun c => if_pos huse
    rw [RdmaContext.withShared, RdmaContext.withShared, hset, hset]
    exact ⟨rfl, fun h0 => absurd h0 huse⟩

/-- After each of the first three pieces, a cleanup would read the same. -/
theorem SameCreate.matched (h : SameCreate config o c c') (hflag : c.connected = c'.connected) :
    (¬ContextOk o → Matched (c.withContext o) (c'.withContext o)) ∧
      (¬ChannelOk config o → Matched ((c.withContext o).withChannel config o)
        ((c'.withContext o).withChannel config o)) ∧
      (ContextOk o → ChannelOk config o →
        Matched (((c.withContext o).withChannel config o).withCqs o)
          (((c'.withContext o).withChannel config o).withCqs o)) := by
  have hpd := h.withContext_pd
  refine ⟨fun hno => ?_, fun hno => ?_, fun hctx hch => ?_⟩
  · refine ⟨⟨h.cmId, h.qp, h.mr, h.buf, hpd, ?_, ?_⟩, rfl, hflag⟩
    · exact h.sendCq fun hasks => hno hasks.1
    · exact h.recvCq fun hasks => hno hasks.1
  · refine ⟨⟨h.cmId, h.qp, h.mr, h.buf, hpd, ?_, ?_⟩, rfl, hflag⟩
    · exact h.sendCq fun hasks => hno hasks.2.1
    · exact h.recvCq fun hasks => hno hasks.2.1
  · refine ⟨⟨h.cmId, h.qp, h.mr, h.buf, hpd, ?_, ?_⟩, rfl, hflag⟩
    · by_cases hdev : o.ibvQueryDevice = 0
      · simp only [RdmaContext.withCqs, if_pos hdev]
      · simp only [RdmaContext.withCqs, if_neg hdev]
        exact h.sendCq fun hasks => hdev hasks.2.2
    · by_cases hcqs : CqsOk o
      · simp only [RdmaContext.withCqs, if_pos hcqs]
      · simp only [RdmaContext.withCqs, if_neg hcqs]
        exact h.recvCq fun hasks => hcqs hasks.2.2

/-- The calls for the completion queues are the same, with `NULL` for a channel that is not
used. -/
theorem SameCreate.cqsActs (h : SameCreate config o c c') (hctx : ContextOk o)
    (hch : ChannelOk config o) :
    (∀ a ∈ cqsActs config o ((c.withContext o).withChannel config o), a.nullArgs config) ∧
      cqsActs config o ((c.withContext o).withChannel config o) =
        cqsActs config o ((c'.withContext o).withChannel config o) := by
  by_cases hdev : o.ibvQueryDevice = 0
  swap
  · have hno : ¬CqsOk o := fun hcqs => hdev hcqs.1
    simp only [Transport.cqsActs, if_neg hdev, if_neg hno]
    exact ⟨nullArgs_of_isBare rfl, rfl⟩
  obtain ⟨hsame, hnull⟩ := h.withChannel_channel ⟨hctx, hch, hdev⟩
  refine ⟨fun a ha => ?_, ?_⟩
  · rw [Transport.cqsActs, if_pos hdev] at ha
    rcases List.mem_cons.mp ha with rfl | ha
    · trivial
    rcases List.mem_append.mp ha with ha | ha
    · rw [List.mem_singleton.mp ha]
      exact hnull
    · split at ha
      · rw [List.mem_singleton.mp ha]
        exact hnull
      · exact absurd ha List.not_mem_nil
  · rw [Transport.cqsActs, Transport.cqsActs, hsame]
    rfl

/-- The acquisitions leave two contexts that go on alike. -/
def LeavesMatched (s s' : Option RdmaContext) : Prop :=
  ∃ c c', s = some c ∧ s' = some c' ∧ Matched c c'

theorem MatchedStates.leaves {s s' : Option RdmaContext} (h : MatchedStates config s s') :
    LeavesMatched s s' := by
  obtain ⟨c, c', rfl, rfl, hmatched, -⟩ := h
  exact ⟨c, c', rfl, rfl, hmatched⟩

/-- **The acquisitions go alike** where what a creation reads is the same. -/
theorem goAlike_createResourcesBody (h : SameCreate config o c c')
    (hflag : c.connected = c'.connected) :
    GoAlike config (createResourcesBody config o) (createResourcesBody config o) (some c) (some c')
      (fun exit exit' s s' => exit = exit' ∧ LeavesMatched s s') := by
  obtain ⟨hcontext, hchannel, hcqsOk⟩ := h.matched hflag
  refine Traced.Alike.bind (Traced.Alike.firstExit_cons ?_)
  refine Traced.alike_of_ok run_createContext run_createContext (nullArgs_of_isBare ?_) rfl ?_
  · rw [contextActs]
    split_ifs <;> rfl
  by_cases hctx : ContextOk o
  swap
  · rw [if_neg hctx]
    exact Traced.Alike.pure ⟨rfl, _, _, rfl, rfl, hcontext hctx⟩
  rw [if_pos hctx]
  refine Traced.Alike.firstExit_cons ?_
  refine Traced.alike_of_ok run_createChannel run_createChannel (nullArgs_of_isBare ?_) rfl ?_
  · rw [channelActs]
    split_ifs <;> rfl
  by_cases hch : ChannelOk config o
  swap
  · rw [if_neg hch]
    exact Traced.Alike.pure ⟨rfl, _, _, rfl, rfl, hchannel hch⟩
  rw [if_pos hch]
  -- from here on the fields that the cleanup reads are alike
  have hmatched := hcqsOk hctx hch
  obtain ⟨hargs, hacts⟩ := h.cqsActs hctx hch
  refine Traced.Alike.firstExit_cons ?_
  refine Traced.alike_of_ok run_createCqs run_createCqs hargs hacts ?_
  by_cases hcqs : CqsOk o
  swap
  · rw [if_neg hcqs]
    exact Traced.Alike.pure ⟨rfl, _, _, rfl, rfl, hmatched⟩
  rw [if_pos hcqs]
  have hrelease := hmatched.release
  have hshared : Matched (c.withShared config o) (c'.withShared config o) :=
    ⟨⟨hrelease.cmId, hrelease.qp, hrelease.mr, hrelease.buf, hrelease.pd, hrelease.sendCq,
      hrelease.recvCq⟩, rfl, hflag⟩
  refine Traced.Alike.firstExit_cons ?_
  refine Traced.alike_of_ok run_createSrq run_createSrq (nullArgs_of_isBare ?_) ?_ ?_
  · rw [srqActs]
    split_ifs <;> rfl
  · rw [srqActs, srqActs, hrelease.pd]
  by_cases hsrq : SrqOk config o
  swap
  · rw [if_neg hsrq]
    exact Traced.Alike.pure ⟨rfl, _, _, rfl, rfl, hshared⟩
  rw [if_pos hsrq]
  refine Traced.Alike.firstExit_cons ?_
  -- the two loops start from contexts that match
  refine (goAlike_loop (fun i c c' hi => goAlike_createQp hi) hshared
    (h.sameSrq ⟨hctx, hch, hcqs, hsrq⟩)).mono ?_ fun _ _ hE => hE
  rintro r r' s s' ⟨rfl, hs⟩
  rcases r with _ | exit
  swap
  · exact Traced.Alike.pure ⟨rfl, hs.leaves⟩
  obtain ⟨d, d', rfl, rfl, hd, hdsrq⟩ := hs
  refine Traced.Alike.firstExit_cons ?_
  refine (goAlike_loop (fun i c c' _ => goAlike_registerBuf i) hd hdsrq).mono ?_ fun _ _ hE => hE
  rintro r r' s s' ⟨rfl, hs⟩
  rcases r with _ | exit
  · exact Traced.Alike.pure (Traced.Alike.pure ⟨rfl, hs.leaves⟩)
  · exact Traced.Alike.pure ⟨rfl, hs.leaves⟩

/-- **`fs_rdma_create_resources` goes alike** where what it reads is the same; then so is
what a teardown after it reads. -/
theorem goAlike_fsRdmaCreateResources (h : SameCreate config o c c')
    (hflag : c.connected = c'.connected) :
    GoAlike config (fsRdmaCreateResources config o) (fsRdmaCreateResources config o)
      (some c) (some c') (fun ret ret' s s' => ret = ret' ∧ ∃ d d', s = some d ∧ s' = some d' ∧
        SameRelease d d' ∧ d.connected = d'.connected) := by
  refine Traced.Alike.emit_bind trivial rfl ?_
  refine Traced.Alike.bind ((goAlike_createResourcesBody h hflag).mono ?_ fun _ _ hE => hE)
  rintro exit exit' s s' ⟨rfl, d, d', rfl, rfl, hd⟩
  rcases exit with ret | v
  swap
  · exact Traced.Alike.emit_bind trivial rfl
      (Traced.Alike.pure ⟨rfl, d, d', rfl, rfl, hd.release, hd.connected⟩)
  refine Traced.Alike.ite Iff.rfl (fun _ => ?_) fun _ => ?_
  · refine Traced.Alike.bind (Traced.alike_of_ok (run_createResourcesOut config d)
      (run_createResourcesOut config d') (nullArgs_of_isBare (all_isBare_cleanupActs d))
      (hd.release.cleanupActs_eq hd.context) ?_)
    exact Traced.Alike.emit_bind trivial rfl (Traced.Alike.pure
      ⟨rfl, _, _, rfl, rfl, hd.release.cleaned, arraysReleased_flag hd.connected⟩)
  · exact Traced.Alike.emit_bind trivial rfl
      (Traced.Alike.pure ⟨rfl, d, d', rfl, rfl, hd.release, hd.connected⟩)

end Create

/-! ### Handling events -/

variable {event : CmEvent} {o : HandlerOutcomes}

/-- **The connection check goes alike** for the same id and the same flag. -/
theorem goAlike_fsRdmaCmHandleConnectInit (hid : c.cmId = c'.cmId)
    (hflag : c.connected = c'.connected) :
    GoAlike config (fsRdmaCmHandleConnectInit event) (fsRdmaCmHandleConnectInit event)
      (some c) (some c') (fun _ _ s s' => SameFlags s s') := by
  refine Traced.Alike.emit_bind trivial rfl
    (goAlike_rdmaCtx_bind (Traced.Alike.emit_bind trivial rfl ?_))
  refine Traced.Alike.ite (by rw [hid, hflag]) (fun _ => ?_) fun _ => ?_
  · refine Traced.Alike.emit_bind trivial (by rw [hid]) ?_
    exact Traced.Alike.pure (sameFlags_some hflag)
  · refine goAlike_assign_bind ?_
    exact Traced.Alike.pure (sameFlags_some rfl)

/-- **A creation and the call after it go alike**: both handlers that create resources go
on with one call on the connection id, and tear everything down when either fails. -/
theorem goAlike_create_then (fails : Prop) [Decidable fails] {call : RdmaContext → Act} {v : ℤ}
    {rest : TransportM ℤ} (hcall : ∀ c c', c.cmId = c'.cmId →
      (call c).nullArgs config ∧ call c = call c')
    (hrest : ∀ c c', SameRelease c c' → c.connected = c'.connected →
      GoAlike config rest rest (some c) (some c') (fun _ _ s s' => SameFlags s s'))
    (h : SameCreate config o.create c c') (hflag : c.connected = c'.connected) :
    let code : TransportM ℤ := do
      let ret ← fsRdmaCreateResources config o.create
      if ret ≠ 0 then
        fsRdmaCmHandleDisconnect config
        return ret
      Traced.emit (call (← rdmaCtx))
      if fails then
        fsRdmaCmHandleDisconnect config
        return v
      rest
    GoAlike config code code (some c) (some c') (fun _ _ s s' => SameFlags s s') := by
  refine Traced.Alike.bind ((goAlike_fsRdmaCreateResources h hflag).mono ?_ fun _ _ hE => hE)
  rintro ret ret' s s' ⟨rfl, d, d', rfl, rfl, hrel, hflag'⟩
  have htear : ∀ v : ℤ, GoAlike config
      (do fsRdmaCmHandleDisconnect config; return v : TransportM ℤ)
      (do fsRdmaCmHandleDisconnect config; return v : TransportM ℤ) (some d) (some d')
      (fun _ _ s s' => SameFlags s s') := fun v =>
    Traced.Alike.bind ((goAlike_fsRdmaCmHandleDisconnect hrel hflag').mono
      (fun _ _ _ _ hs => Traced.Alike.pure hs) fun _ _ hE => hE)
  refine Traced.Alike.ite Iff.rfl (fun _ => htear ret) fun _ => ?_
  obtain ⟨hnull, hsame⟩ := hcall d d' hrel.cmId
  refine goAlike_rdmaCtx_bind (Traced.Alike.emit_bind hnull hsame ?_)
  exact Traced.Alike.ite Iff.rfl (fun _ => htear v) fun _ => hrest d d' hrel hflag'

/-- The acknowledgement at the bottom of the loop. -/
theorem goAlike_ack {s s' : Option RdmaContext} {r : Option CmEvent} (h : SameFlags s s') :
    GoAlike config
      (do Traced.emit (.rdmaAckCmEvent event); return r : TransportM (Option CmEvent))
      (do Traced.emit (.rdmaAckCmEvent event); return r : TransportM (Option CmEvent))
      s s' (fun r r' s s' => r = r' ∧ SameFlags s s') :=
  Traced.Alike.emit_bind trivial rfl (Traced.Alike.pure ⟨rfl, h⟩)

/-- **Handling an event goes alike** where what it reads is the same. -/
theorem goAlike_dispatch (h : SameRead config o event c c') (hflag : c.connected = c'.connected) :
    GoAlike config (dispatch config o event) (dispatch config o event) (some c) (some c')
      (fun r r' s s' => r = r' ∧ SameFlags s s') := by
  have hhere : SameFlags (some c) (some c') := sameFlags_some hflag
  refine Traced.Alike.emit_bind trivial rfl ?_
  rw [SameRead] at h
  rcases hkind : event.event <;> rw [hkind] at h
  case addrResolved =>
    refine Traced.Alike.bind
      (Traced.Alike.emit_bind trivial rfl (Traced.Alike.emit_bind trivial rfl ?_))
    refine Traced.Alike.ite Iff.rfl (fun hret => ?_) fun _ => ?_
    · refine Traced.Alike.bind ((goAlike_fsRdmaCmHandleDisconnect (h hret) hflag).mono ?_
        fun _ _ hE => hE)
      exact fun _ _ s s' hs => Traced.Alike.pure (goAlike_ack hs)
    · exact Traced.Alike.pure (goAlike_ack hhere)
  case routeResolved =>
    refine Traced.Alike.bind ((goAlike_create_then (o.rdmaConnect ≠ 0) (o := o) ?_ ?_ h
      hflag).mono (fun _ _ s s' hs => goAlike_ack hs) fun _ _ hE => hE)
    · intro c c' hid
      exact ⟨trivial, by rw [hid]⟩
    · exact fun c c' _ hflag' => Traced.Alike.pure (sameFlags_some hflag')
  case connectRequest =>
    refine Traced.Alike.bind ((goAlike_create_then (o.rdmaAccept < 0) (o := o) ?_ ?_ h
      hflag).mono (fun _ _ s s' hs => goAlike_ack hs) fun _ _ hE => hE)
    · intro c c' hid
      exact ⟨trivial, by rw [hid]⟩
    · intro c c' hrel hflag'
      exact Traced.Alike.bind ((goAlike_fsRdmaCmHandleConnectInit hrel.cmId hflag').mono
        (fun _ _ _ _ hs => Traced.Alike.pure hs) fun _ _ hE => hE)
  case established =>
    exact Traced.Alike.bind ((goAlike_fsRdmaCmHandleConnectInit h hflag).mono
      (fun _ _ s s' hs => goAlike_ack hs) fun _ _ hE => hE)
  case disconnected =>
    exact Traced.Alike.emit_bind trivial rfl (Traced.Alike.bind
      ((goAlike_fsRdmaCmHandleDisconnect h hflag).mono
        (fun _ _ _ _ hs => Traced.Alike.pure ⟨rfl, hs⟩) fun _ _ hE => hE))
  case addrError | routeError | connectError | unreachable | rejected =>
    refine Traced.Alike.emit_bind trivial rfl
      (Traced.Alike.emit_bind trivial rfl (Traced.Alike.bind ?_))
    exact Traced.Alike.bind ((goAlike_fsRdmaCmHandleDisconnect h hflag).mono
      (fun _ _ _ _ hs => Traced.Alike.pure (Traced.Alike.pure ⟨rfl, hs⟩)) fun _ _ hE => hE)
  case connectResponse | deviceRemoval | multicastJoin | multicastError | addrChange |
      timewaitExit =>
    exact Traced.Alike.emit_bind trivial rfl (goAlike_ack hhere)

end Transport
