import RdmaCpp.Transport.Created
import RdmaCpp.Transport.Events

/-!
# Success means that everything is there

The callers of `fs_rdma_create_resources` connect or accept on the strength of its
result alone. So a `0` should mean that every acquisition has succeeded, a failure
should be a `-1`, and on the way no call should be given what an earlier step failed to
obtain (`Transport.Answers`).

Each of the acquisitions has its own check, and four of them are wrong: the device that
`fs_rdma_find_dev` finds is not looked at, the check of the receive completion queue looks
at the send queue, an unknown connection type is a success, and a buffer that could not
be allocated is cleared and registered all the same. Where none of them matters, and the
arrays of the context are there to store into, the result is right; and only there
(`Transport.answers_iff_checked`).
-/

namespace Transport

/-! ### What the result should mean -/

/-- **Everything has been acquired**, by the calls of the trace, and the context leads to
it. -/
structure AllAcquired (config : RdmaParam) (c : RdmaContext) (t : List Act) : Prop where
  context : c.context ≠ none ∧ ∃ dev, .ibvOpenDevice dev c.context ∈ t
  pd : c.pd ≠ none ∧ .ibvAllocPd c.context c.pd ∈ t
  channel : config.useEvent ≠ 0 → c.channel ≠ none ∧ .ibvCreateCompChannel c.context c.channel ∈ t
  sendCq : c.sendCq ≠ none ∧ ∃ cqe, .ibvCreateCq c.context cqe c.channel c.sendCq ∈ t
  recvCq : c.recvCq ≠ none ∧ ∃ cqe, .ibvCreateCq c.context cqe c.channel c.recvCq ∈ t
  srq : config.useSrq ≠ 0 → c.srq ≠ none ∧ .ibvCreateSrq c.pd srqAttr c.srq ∈ t
  /-- A queue pair of the configured type for every index. -/
  qps : ∀ i < config.turns, elem c.qp i ≠ none ∧ ∃ attr,
    qpTypeOf config.connectionType = some attr.qpType ∧
      .rdmaCreateQp c.cmId c.pd attr (elem c.qp i) ∈ t
  /-- A buffer of `BUF_SIZE` bytes for every index. -/
  bufs : ∀ i < config.turns, elem c.buf i ≠ none ∧ .memalign bufSize (elem c.buf i) ∈ t
  /-- A region over the buffer for every index. -/
  mrs : ∀ i < config.turns, elem c.mr i ≠ none ∧
    .ibvRegMr c.pd (elem c.buf i) bufSize mrFlags (elem c.mr i) ∈ t
  distinct : ∀ i < config.turns, ∀ j < config.turns, i ≠ j → elem c.buf i ≠ elem c.buf j

/-- **The call is given a `NULL`** that an earlier step should have made something else. -/
def Act.usesNull (config : RdmaParam) : Act → Bool
  | .ibvOpenDevice dev _ => dev.isNone
  | .ibvQueryPort context .. | .ibvAllocPd context _ | .ibvCreateCompChannel context _
  | .ibvQueryDevice context _ => context.isNone
  | .ibvCreateCq context _ channel _ =>
    context.isNone || config.useEvent ≠ 0 && channel.isNone
  | .ibvCreateSrq pd .. => pd.isNone
  | .rdmaCreateQp _ pd attr _ =>
    pd.isNone || attr.sendCq.isNone || attr.recvCq.isNone || config.useSrq ≠ 0 && attr.srq.isNone
  | .memset p _ => p.isNone
  | .ibvRegMr pd buf .. => pd.isNone || buf.isNone
  | _ => false

/-- No acquisition, and no access to memory, is made with a `NULL` of an earlier step. -/
def NullFree (config : RdmaParam) (t : List Act) : Prop := ∀ a ∈ t, a.usesNull config = false

/-- **The call fails**: an acquisition that brings back nothing, or a query before one that
reports an error. -/
def Act.fails : Act → Bool
  | .ibvOpenDevice _ res | .ibvAllocPd _ res | .ibvCreateCompChannel _ res
  | .ibvCreateCq _ _ _ res | .ibvCreateSrq _ _ res | .rdmaCreateQp _ _ _ res | .memalign _ res
  | .ibvRegMr _ _ _ _ res => res.isNone
  | .ibvQueryPort _ _ ret | .ibvQueryDevice _ ret => ret ≠ 0
  | _ => false

/-- **The function answers right**: it returns, `0` when everything has been acquired and
`-1` otherwise, which it does only where one of its calls has failed; and it uses no `NULL` on
the way. -/
def Answers (config : RdmaParam) (r : Ran (Option RdmaContext) Act Fault ℤ) : Prop :=
  ∃ ret c, r.out = .ok ret ∧ r.state = some c ∧ (ret = 0 ↔ AllAcquired config c r.trace) ∧
    (ret = 0 ∨ ret = -1 ∧ ∃ a ∈ r.trace, a.fails = true) ∧ NullFree config r.trace

/-- **Nothing goes wrong behind a check**: there is a device; and where the steps before the
queue pairs pass their checks, the receive completion queue is there as well, the connection
type is known, every queue pair that is created can be stored, and, when all are, every
buffer that the loop comes to is allocated and can be stored with its region. -/
def Checked (config : RdmaParam) (o : CreateOutcomes) (c : RdmaContext) : Prop :=
  firstDev o ≠ none ∧ (SharedOk config o → o.createRecvCq ≠ none ∧
    qpTypeOf config.connectionType ≠ none ∧
    (∀ i < config.turns, QpsTo o c i → o.rdmaCreateQp i ≠ none → c.cmId ≠ none ∧ i < room c.qp) ∧
    (QpsTo o c config.turns → ∀ i < config.turns, BufsTo o c i → BufAt o c i))

variable {config : RdmaParam} {o : CreateOutcomes} {c : RdmaContext} {t t' : List Act}

/-! ### No `NULL` on the way -/

theorem NullFree.append (h : NullFree config t) (h' : NullFree config t') :
    NullFree config (t ++ t') := List.forall_mem_append.mpr ⟨h, h'⟩

theorem NullFree.cons {a : Act} (ha : a.usesNull config = false) (h : NullFree config t) :
    NullFree config (a :: t) := List.forall_mem_cons.mpr ⟨ha, h⟩

theorem nullFree_nil : NullFree config [] := fun _ ha => absurd ha List.not_mem_nil

theorem nullFree_single {a : Act} (ha : a.usesNull config = false) : NullFree config [a] :=
  NullFree.cons ha nullFree_nil

theorem isNone_of_ne {p : Ptr} (h : p ≠ none) : p.isNone = false :=
  Option.isNone_eq_false_iff.mpr (Option.isSome_iff_ne_none.mpr h)

theorem nullFree_contextActs (h : firstDev o ≠ none) : NullFree config (contextActs config o) := by
  refine NullFree.append (NullFree.cons rfl (nullFree_single (isNone_of_ne h))) ?_
  refine NullFree.append ?_ ?_
  · split_ifs with hopen
    · exact nullFree_single (isNone_of_ne hopen)
    · exact nullFree_nil
  · split_ifs with hasks
    · exact nullFree_single (isNone_of_ne hasks.1)
    · exact nullFree_nil

theorem nullFree_channelActs (h : ContextOk o) :
    NullFree config (channelActs config o (c.withContext o)) := by
  rw [channelActs]
  split_ifs
  · exact nullFree_single (isNone_of_ne h.1)
  · exact nullFree_nil

theorem nullFree_cqsActs (hctx : ContextOk o) (hch : ChannelOk config o) :
    NullFree config (cqsActs config o ((c.withContext o).withChannel config o)) := by
  have hcq : ∀ q, Act.usesNull config (.ibvCreateCq
      ((c.withContext o).withChannel config o).context (cqeCount config o.maxCqe)
      ((c.withContext o).withChannel config o).channel q) = false := by
    intro q
    have hopen : ((c.withContext o).withChannel config o).context.isNone = false :=
      isNone_of_ne hctx.1
    rw [Act.usesNull, hopen, Bool.false_or]
    by_cases huse : config.useEvent = 0
    · simp only [huse, ne_eq, not_true_eq_false, decide_false, Bool.false_and]
    · have hchannel : ((c.withContext o).withChannel config o).channel = o.ibvCreateCompChannel :=
        if_pos huse
      rw [hchannel, isNone_of_ne (hch huse), Bool.and_false]
  refine NullFree.cons (isNone_of_ne hctx.1) (NullFree.append ?_ ?_)
  · split_ifs
    · exact nullFree_single (hcq _)
    · exact nullFree_nil
  · split_ifs
    · exact nullFree_single (hcq _)
    · exact nullFree_nil

theorem nullFree_srqActs (h : ContextOk o) : NullFree config
    (srqActs config o (((c.withContext o).withChannel config o).withCqs o)) := by
  have hpd : (((c.withContext o).withChannel config o).withCqs o).pd = o.ibvAllocPd :=
    if_pos (show AsksPd o from ⟨h.1, h.2.1⟩)
  rw [srqActs, hpd]
  split_ifs
  · exact nullFree_single (isNone_of_ne h.2.2)
  · exact nullFree_nil

/-- The queue pairs are given both completion queues. -/
theorem nullFree_qpsActs (h : SharedOk config o) (hrecv : o.createRecvCq ≠ none) (n : ℕ) :
    NullFree config (qpsActs config o (c.withShared config o) n) := by
  obtain ⟨hpd, hsend, hrecvCq⟩ := withShared_fields (c := c) h
  intro a ha
  rw [qpsActs] at ha
  split at ha
  · exact absurd ha List.not_mem_nil
  · obtain ⟨i, -, rfl⟩ := List.mem_map.mp ha
    rw [Act.usesNull, qpInitAttr, hpd, hsend, hrecvCq, isNone_of_ne h.1.2.2,
      isNone_of_ne h.2.2.1.2, isNone_of_ne hrecv, Bool.or_self, Bool.or_self, Bool.false_or]
    by_cases huse : config.useSrq = 0
    · simp only [huse, ne_eq, not_true_eq_false, decide_false, Bool.false_and]
    · have hsrq : (c.withShared config o).srq = o.ibvCreateSrq := if_pos huse
      rw [hsrq, isNone_of_ne (h.2.2.2 huse), Bool.and_false]

theorem nullFree_bufsActs {n : ℕ} (hpd : c.pd ≠ none) (h : ∀ i < n, o.memalign i ≠ none) :
    NullFree config (bufsActs o c n) := by
  intro a ha
  obtain ⟨i, hi, ha⟩ := List.mem_flatMap.mp ha
  have halign := isNone_of_ne (h i (List.mem_range.mp hi))
  simp only [bufActs, List.mem_cons, List.not_mem_nil, or_false] at ha
  rcases ha with rfl | rfl | rfl
  · rfl
  · exact halign
  · rw [Act.usesNull, isNone_of_ne hpd, halign, Bool.or_self]

/-- The cleanup acquires nothing. -/
theorem nullFree_cleanupActs (c : RdmaContext) : NullFree config (cleanupActs config c) := by
  have hshared : NullFree config (sharedReleaseActs config c) := by
    intro a ha
    have hrelease := List.all_eq_true.mp (all_sharedReleaseActs config c) a ha
    cases a <;> first | rfl | exact absurd hrelease Bool.false_ne_true
  refine hshared.append ?_
  rcases c.context with _ | p
  · exact nullFree_nil
  · exact nullFree_single rfl

/-- **The acquisitions use no `NULL`** where nothing goes wrong behind a check. -/
theorem BodyRan.nullFree {exit : Exit} {c' : RdmaContext} (h : BodyRan config o c exit c' t)
    (hchecked : Checked config o c) : NullFree config t := by
  obtain ⟨hdev, hrest⟩ := hchecked
  have hcontext : NullFree config (contextActs config o) := nullFree_contextActs hdev
  have hdevice : ContextOk o → NullFree config (deviceActs config o c) := fun hctx =>
    hcontext.append (nullFree_channelActs hctx)
  have hqueue : ContextOk o → ChannelOk config o → NullFree config (queueActs config o c) :=
    fun hctx hch => (hdevice hctx).append (nullFree_cqsActs hctx hch)
  have hshared : ContextOk o → ChannelOk config o → NullFree config (sharedActs config o c) :=
    fun hctx hch => (hqueue hctx hch).append (nullFree_srqActs hctx)
  cases h with
  | noContext => exact hcontext
  | noChannel hctx => exact hdevice hctx
  | noCqs hctx hch => exact hqueue hctx hch
  | noSrq hctx hch => exact hshared hctx hch
  | qps hok hqps =>
    obtain ⟨n, -, rfl⟩ := hqps.acts_eq
    exact (hshared hok.1 hok.2.1).append (nullFree_qpsActs hok (hrest hok).1 n)
  | bufs hok hqps hbufs | done hok hqps hbufs =>
    obtain ⟨m, rfl, halign⟩ := hbufs.acts_eq
    cases hqps with
    | done =>
      have hpd : (c.withShared config o).pd ≠ none := by
        rw [(withShared_fields hok).1]
        exact hok.1.2.2
      exact (hshared hok.1 hok.2.1).append ((nullFree_qpsActs hok (hrest hok).1 _).append
        (nullFree_bufsActs hpd halign))

/-! ### Everything is there after a success -/

theorem contextActs_subset : contextActs config o ⊆ sharedActs config o c := fun _ ha =>
  List.mem_append_left _ (List.mem_append_left _ (List.mem_append_left _ ha))

theorem cqsActs_subset :
    cqsActs config o ((c.withContext o).withChannel config o) ⊆ sharedActs config o c :=
  fun _ ha => List.mem_append_left _ (List.mem_append_right _ ha)

theorem ibvOpenDevice_mem :
    .ibvOpenDevice (firstDev o) o.ibvOpenDevice ∈ sharedActs config o c :=
  contextActs_subset (List.mem_append_left _ (List.mem_cons_of_mem _ List.mem_cons_self))

theorem ibvAllocPd_mem (h : AsksPd o) :
    .ibvAllocPd o.ibvOpenDevice o.ibvAllocPd ∈ sharedActs config o c := by
  refine contextActs_subset (List.mem_append_right _ (List.mem_append_right _ ?_))
  rw [if_pos h]
  exact List.mem_cons_self

theorem ibvCreateCompChannel_mem (huse : config.useEvent ≠ 0) :
    .ibvCreateCompChannel o.ibvOpenDevice o.ibvCreateCompChannel ∈ sharedActs config o c := by
  refine List.mem_append_left _ (List.mem_append_left _ (List.mem_append_right _ ?_))
  rw [channelActs, if_pos huse]
  exact List.mem_cons_self

theorem createSendCq_mem (h : CqsOk o) :
    .ibvCreateCq o.ibvOpenDevice (cqeCount config o.maxCqe) (c.withShared config o).channel
      o.createSendCq ∈ sharedActs config o c := by
  refine cqsActs_subset (List.mem_cons_of_mem _ (List.mem_append_left _ ?_))
  rw [if_pos h.1]
  exact List.mem_cons_self

theorem createRecvCq_mem (h : CqsOk o) :
    .ibvCreateCq o.ibvOpenDevice (cqeCount config o.maxCqe) (c.withShared config o).channel
      o.createRecvCq ∈ sharedActs config o c := by
  refine cqsActs_subset (List.mem_cons_of_mem _ (List.mem_append_right _ ?_))
  rw [if_pos h]
  exact List.mem_cons_self

theorem ibvCreateSrq_mem (h : AsksPd o) (huse : config.useSrq ≠ 0) :
    .ibvCreateSrq o.ibvAllocPd srqAttr o.ibvCreateSrq ∈ sharedActs config o c := by
  have hpd : (((c.withContext o).withChannel config o).withCqs o).pd = o.ibvAllocPd := if_pos h
  refine List.mem_append_right _ ?_
  rw [srqActs, if_pos huse, hpd]
  exact List.mem_cons_self

/-- **A complete creation has acquired everything.** -/
theorem allAcquired_created (hshared : SharedOk config o) (hrecv : o.createRecvCq ≠ none)
    (hknown : qpTypeOf config.connectionType ≠ none) (hqps : QpsTo o c config.turns)
    (hbufs : BufsTo o c config.turns)
    (hdistinct : ∀ i j, i ≠ j → o.memalign i = o.memalign j → o.memalign i = none)
    (hsub : createdActs config o c ⊆ t) : AllAcquired config (c.created config o) t := by
  obtain ⟨hpd, hsend, hrecvCq⟩ := withShared_fields (c := c) hshared
  have hasks : AsksPd o := ⟨hshared.1.1, hshared.1.2.1⟩
  have hcqs : CqsOk o := hshared.2.2.1
  obtain ⟨qpType, htype⟩ := Option.ne_none_iff_exists'.mp hknown
  have hfirst : sharedActs config o c ⊆ t := fun a ha => hsub (List.mem_append_left _ ha)
  -- the elements the loops have stored
  have hqp : ∀ i < config.turns, elem (c.created config o).qp i = o.rdmaCreateQp i :=
    fun i hi => elem_map_fill o.rdmaCreateQp hi (hqps i hi).2.2
  have hbuf : ∀ i < config.turns, elem (c.created config o).buf i = o.memalign i :=
    fun i hi => elem_map_fill o.memalign hi (hbufs i hi).1.1
  have hmr : ∀ i < config.turns, elem (c.created config o).mr i = o.ibvRegMr i :=
    fun i hi => elem_map_fill o.ibvRegMr hi (hbufs i hi).1.2.2
  have hbufActs : ∀ i < config.turns, ∀ a ∈ bufActs o (c.withShared config o) i, a ∈ t :=
    fun i hi a ha => hsub (List.mem_append_right _ (List.mem_append_right _
      (List.mem_flatMap.mpr ⟨i, List.mem_range.mpr hi, ha⟩)))
  have hopenField : (c.created config o).context = o.ibvOpenDevice := rfl
  have hpdField : (c.created config o).pd = o.ibvAllocPd := hpd
  have hchannelField : (c.created config o).channel = (c.withShared config o).channel := rfl
  have hsendField : (c.created config o).sendCq = o.createSendCq := hsend
  have hrecvField : (c.created config o).recvCq = o.createRecvCq := hrecvCq
  refine ⟨?_, ?_, fun huse => ?_, ?_, ?_, fun huse => ?_, fun i hi => ?_, fun i hi => ?_,
    fun i hi => ?_, fun i hi j hj hij heq => ?_⟩
  · rw [hopenField]
    exact ⟨hshared.1.1, _, hfirst ibvOpenDevice_mem⟩
  · rw [hpdField, hopenField]
    exact ⟨hshared.1.2.2, hfirst (ibvAllocPd_mem hasks)⟩
  · have hchannel : (c.created config o).channel = o.ibvCreateCompChannel := if_pos huse
    rw [hopenField, hchannel]
    exact ⟨hshared.2.1 huse, hfirst (ibvCreateCompChannel_mem huse)⟩
  · rw [hsendField, hopenField, hchannelField]
    exact ⟨hcqs.2, _, hfirst (createSendCq_mem hcqs)⟩
  · rw [hrecvField, hopenField, hchannelField]
    exact ⟨hrecv, _, hfirst (createRecvCq_mem hcqs)⟩
  · have hsrq : (c.created config o).srq = o.ibvCreateSrq := if_pos huse
    rw [hpdField, hsrq]
    exact ⟨hshared.2.2.2 huse, hfirst (ibvCreateSrq_mem hasks huse)⟩
  · rw [hqp i hi]
    refine ⟨(hqps i hi).1, qpInitAttr (c.withShared config o) qpType, htype, ?_⟩
    refine hsub (List.mem_append_right _ (List.mem_append_left _ ?_))
    rw [qpsActs, htype]
    exact List.mem_map.mpr ⟨i, List.mem_range.mpr hi, rfl⟩
  · rw [hbuf i hi]
    exact ⟨(hbufs i hi).1.2.1, hbufActs i hi _ List.mem_cons_self⟩
  · rw [hbuf i hi, hmr i hi]
    refine ⟨(hbufs i hi).2, hbufActs i hi _ ?_⟩
    exact List.mem_cons_of_mem _ (List.mem_cons_of_mem _ List.mem_cons_self)
  · rw [hbuf i hi, hbuf j hj] at heq
    exact (hbufs i hi).1.2.1 (hdistinct i j hij heq)

/-! ### A failure has a failing call -/

theorem contextActs_fails (h : ¬ContextOk o) : ∃ a ∈ contextActs config o, a.fails = true := by
  by_cases hopen : o.ibvOpenDevice = none
  · refine ⟨.ibvOpenDevice (firstDev o) o.ibvOpenDevice, List.mem_append_left _
      (List.mem_cons_of_mem _ List.mem_cons_self), ?_⟩
    rw [Act.fails, hopen]
    rfl
  by_cases hport : o.ibvQueryPort = 0
  · -- the domain is asked for, so it is what fails
    have hpd : o.ibvAllocPd = none := by
      by_contra hpd
      exact h ⟨hopen, hport, hpd⟩
    refine ⟨.ibvAllocPd o.ibvOpenDevice o.ibvAllocPd, List.mem_append_right _
      (List.mem_append_right _ ?_), ?_⟩
    · rw [if_pos (show AsksPd o from ⟨hopen, hport⟩)]
      exact List.mem_cons_self
    · rw [Act.fails, hpd]
      rfl
  · refine ⟨.ibvQueryPort o.ibvOpenDevice config.ibPort o.ibvQueryPort, List.mem_append_right _
      (List.mem_append_left _ ?_), decide_eq_true hport⟩
    rw [if_pos hopen]
    exact List.mem_cons_self

theorem channelActs_fails (h : ¬ChannelOk config o) :
    ∃ a ∈ channelActs config o c, a.fails = true := by
  obtain ⟨huse, hnone⟩ := Classical.not_imp.mp h
  rw [channelActs, if_pos huse]
  exact ⟨_, List.mem_cons_self, Option.isNone_iff_eq_none.mpr (not_not.mp hnone)⟩

theorem cqsActs_fails (h : ¬CqsOk o) : ∃ a ∈ cqsActs config o c, a.fails = true := by
  by_cases hdev : o.ibvQueryDevice = 0
  · have hsend : o.createSendCq = none := by
      by_contra hsend
      exact h ⟨hdev, hsend⟩
    refine ⟨.ibvCreateCq c.context (cqeCount config o.maxCqe) c.channel o.createSendCq,
      List.mem_cons_of_mem _ (List.mem_append_left _ ?_), ?_⟩
    · rw [if_pos hdev]
      exact List.mem_cons_self
    · rw [Act.fails, hsend]
      rfl
  · exact ⟨_, List.mem_cons_self, decide_eq_true hdev⟩

theorem srqActs_fails (h : ¬SrqOk config o) : ∃ a ∈ srqActs config o c, a.fails = true := by
  obtain ⟨huse, hnone⟩ := Classical.not_imp.mp h
  rw [srqActs, if_pos huse]
  exact ⟨_, List.mem_cons_self, Option.isNone_iff_eq_none.mpr (not_not.mp hnone)⟩

/-- **Where the acquisitions fail, one of their calls does.** -/
theorem BodyRan.fails {c' : RdmaContext} (h : BodyRan config o c (.out (-1)) c' t) :
    ∃ a ∈ t, a.fails = true := by
  cases h with
  | noContext h => exact contextActs_fails h
  | noChannel _ h =>
    obtain ⟨a, ha, hfails⟩ := channelActs_fails h
    exact ⟨a, List.mem_append_right _ ha, hfails⟩
  | noCqs _ _ h =>
    obtain ⟨a, ha, hfails⟩ := cqsActs_fails h
    exact ⟨a, List.mem_append_right _ ha, hfails⟩
  | noSrq _ _ _ h =>
    obtain ⟨a, ha, hfails⟩ := srqActs_fails h
    exact ⟨a, List.mem_append_right _ ha, hfails⟩
  | qps _ hqps =>
    cases hqps with
    | failed i _ hknown _ hfail =>
      obtain ⟨qpType, htype⟩ := Option.ne_none_iff_exists'.mp hknown
      refine ⟨.rdmaCreateQp (c.withShared config o).cmId (c.withShared config o).pd
        (qpInitAttr (c.withShared config o) qpType) (o.rdmaCreateQp i),
        List.mem_append_right _ ?_, Option.isNone_iff_eq_none.mpr hfail⟩
      rw [qpsActs_succ htype]
      exact List.mem_append_right _ List.mem_cons_self
  | @bufs _ c₁ _ _ _ _ _ hbufs =>
    cases hbufs with
    | failed i _ _ _ hfail =>
      refine ⟨.ibvRegMr c₁.pd (o.memalign i) bufSize mrFlags (o.ibvRegMr i),
        List.mem_append_right _ (List.mem_append_right _ ?_),
        Option.isNone_iff_eq_none.mpr hfail⟩
      rw [bufsActs_succ]
      exact List.mem_append_right _
        (List.mem_cons_of_mem _ (List.mem_cons_of_mem _ List.mem_cons_self))

/-- So it returns another value than `0` only where a call has failed. -/
theorem CreateRan.fails_or {ret : ℤ} {c' : RdmaContext} (h : CreateRan config o c ret c' t) :
    ret = 0 ∨ ret = -1 ∧ ∃ a ∈ t, a.fails = true := by
  cases h with
  | failed h =>
    obtain ⟨a, ha, hfails⟩ := h.fails
    exact Or.inr ⟨rfl, a, List.mem_cons_of_mem _ (List.mem_append_left _ ha), hfails⟩
  | made | unknown => exact Or.inl rfl

/-! ### The result -/

/-- After a failure the device context is gone. -/
theorem not_allAcquired_cleaned : ¬AllAcquired config (c.cleaned config) t := fun h =>
  h.context.1 rfl

/-- Where the acquisitions stop for good, something has gone wrong behind a check. -/
theorem BodyStuck.not_checked {c' : RdmaContext} (h : BodyStuck config o c c' t) :
    ¬Checked config o c := by
  rintro ⟨-, hrest⟩
  cases h with
  | qps hshared hqps =>
    obtain ⟨i, hi, -, hto, hqp, hstuck⟩ := hqps
    exact hstuck ((hrest hshared).2.2.1 i hi hto hqp)
  | bufs hshared hqps hbufs =>
    cases hqps with
    | done _ hto =>
      obtain ⟨i, b, k, hi, hbufsTo, hstuck, -⟩ := hbufs
      exact hstuck ((hrest hshared).2.2.2 hto i hi hbufsTo)

/-- The device that was found is opened, however the acquisitions leave. -/
theorem BodyRan.contextActs_subset {exit : Exit} {c' : RdmaContext}
    (h : BodyRan config o c exit c' t) : contextActs config o ⊆ t := by
  intro a ha
  cases h with
  | noContext => exact ha
  | noChannel => exact List.mem_append_left _ ha
  | noCqs => exact List.mem_append_left _ (List.mem_append_left _ ha)
  | noSrq => exact Transport.contextActs_subset ha
  | qps | bufs | done => exact List.mem_append_left _ (Transport.contextActs_subset ha)

/-- Queue pairs that use no `NULL` have a receive completion queue. -/
theorem createRecvCq_ne_none {n : ℕ} (hshared : SharedOk config o)
    (hknown : qpTypeOf config.connectionType ≠ none) (hn : 0 < n)
    (h : NullFree config (qpsActs config o (c.withShared config o) n)) :
    o.createRecvCq ≠ none := by
  obtain ⟨qpType, htype⟩ := Option.ne_none_iff_exists'.mp hknown
  have hmem : .rdmaCreateQp c.cmId (c.withShared config o).pd
      (qpInitAttr (c.withShared config o) qpType) (o.rdmaCreateQp 0) ∈
        qpsActs config o (c.withShared config o) n := by
    rw [qpsActs, htype]
    exact List.mem_map.mpr ⟨0, List.mem_range.mpr hn, rfl⟩
  intro hnone
  have hno := h _ hmem
  rw [Act.usesNull, qpInitAttr, (withShared_fields hshared).2.2, hnone] at hno
  simp at hno

/-- The first index at which a call fails is the last that the turns reach. -/
theorem QpsTo.le {i j : ℕ} (h : QpsTo o c j) (hfail : o.rdmaCreateQp i = none) : j ≤ i := by
  by_contra hlt
  exact (h i (by omega)).1 hfail

theorem BufsTo.le {i j : ℕ} (h : BufsTo o c j) (hfail : o.ibvRegMr i = none) : j ≤ i := by
  by_contra hlt
  exact (h i (by omega)).2 hfail

/-- **What goes wrong behind a check shows.** The turns of the loops after the first that
fails need not be looked at: they are not reached. -/
theorem CreateRan.checked {ret : ℤ} {c' : RdmaContext} (h : CreateRan config o c ret c' t)
    (hpos : 0 < config.turns) (hiff : ret = 0 ↔ AllAcquired config c' t)
    (hnull : NullFree config t) : Checked config o c := by
  have hdev : contextActs config o ⊆ t → firstDev o ≠ none := by
    intro hsub hnone
    have hno := hnull (.ibvOpenDevice (firstDev o) o.ibvOpenDevice)
      (hsub (List.mem_append_left _ (List.mem_cons_of_mem _ List.mem_cons_self)))
    rw [Act.usesNull, hnone] at hno
    cases hno
  cases h with
  | failed h =>
    refine ⟨hdev fun a ha => List.mem_cons_of_mem _ (List.mem_append_left _
      (h.contextActs_subset ha)), fun hshared => ?_⟩
    have hbody : NullFree config _ := fun a ha =>
      hnull a (List.mem_cons_of_mem _ (List.mem_append_left _ ha))
    cases h with
    | noContext h => exact absurd hshared.1 h
    | noChannel _ h => exact absurd hshared.2.1 h
    | noCqs _ _ h => exact absurd hshared.2.2.1 h
    | noSrq _ _ _ h => exact absurd hshared.2.2.2 h
    | qps _ hqps =>
      cases hqps with
      | failed i hi hknown hto hfail =>
        refine ⟨createRecvCq_ne_none hshared hknown (Nat.succ_pos i) fun a ha =>
          hbody a (List.mem_append_right _ ha), hknown, fun j hj hjto hjqp => ?_,
          fun hall => absurd (QpsTo.le hall hfail) (by omega)⟩
        have hle := QpsTo.le hjto hfail
        -- the turns before the one that fails have got through
        have hne : j ≠ i := by
          rintro rfl
          exact hjqp hfail
        exact (hto j (by omega)).2
    | bufs _ hqps hbufs =>
      cases hqps with
      | done hknown hto =>
        cases hbufs with
        | failed i hi hbufsTo hat hfail =>
          refine ⟨createRecvCq_ne_none hshared (hknown hpos) hpos fun a ha =>
            hbody a (List.mem_append_right _ (List.mem_append_left _ ha)), hknown hpos,
            fun j hj _ _ => (hto j hj).2, fun _ j hj hjto => ?_⟩
          have hle := BufsTo.le hjto hfail
          rcases Nat.lt_or_eq_of_le hle with hlt | rfl
          · exact (hbufsTo j hlt).1
          · exact hat
  | made h =>
    refine ⟨hdev fun a ha => List.mem_cons_of_mem _ (List.mem_append_left _
      (h.contextActs_subset ha)), fun hshared => ?_⟩
    have hbody : NullFree config _ := fun a ha =>
      hnull a (List.mem_cons_of_mem _ (List.mem_append_left _ ha))
    cases h with
    | qps _ hqps => cases hqps
    | bufs _ _ hbufs => cases hbufs
    | done _ hqps hbufs =>
      cases hqps with
      | done hknown hto =>
        cases hbufs with
        | done hbufsTo =>
          exact ⟨createRecvCq_ne_none hshared (hknown hpos) hpos fun a ha =>
            hbody a (List.mem_append_right _ (List.mem_append_left _ ha)), hknown hpos,
            fun j hj _ _ => (hto j hj).2, fun _ j hj _ => (hbufsTo j hj).1⟩
  | unknown h =>
    cases h with
    | qps _ hqps =>
      cases hqps with
      | unknown hnone =>
        -- a success without queue pairs
        obtain ⟨-, attr, htype, -⟩ := (hiff.mp rfl).qps 0 hpos
        rw [hnone] at htype
        cases htype
    | bufs _ _ hbufs => cases hbufs

/-- **Where nothing goes wrong behind a check, the function answers right.** -/
theorem CreateRan.answers {ret : ℤ} {c' : RdmaContext} (h : CreateRan config o c ret c' t)
    (hchecked : Checked config o c)
    (hdistinct : ∀ i j, i ≠ j → o.memalign i = o.memalign j → o.memalign i = none) :
    (ret = 0 ↔ AllAcquired config c' t) ∧ NullFree config t := by
  have hleave : ∀ ret, NullFree config [.leave .createResources ret] := fun _ =>
    nullFree_single rfl
  cases h with
  | failed h =>
    refine ⟨⟨fun hc => absurd hc (by decide), fun hc => absurd hc not_allAcquired_cleaned⟩, ?_⟩
    exact NullFree.cons rfl ((h.nullFree hchecked).append
      ((nullFree_cleanupActs _).append (hleave _)))
  | made h =>
    refine ⟨⟨fun _ => ?_, fun _ => rfl⟩,
      NullFree.cons rfl ((h.nullFree hchecked).append (hleave 0))⟩
    have hran := CreateRan.made h
    have hshared : SharedOk config o := hran.succeeds.1
    obtain ⟨hrecv, hknown, -, -⟩ := hchecked.2 hshared
    obtain ⟨⟨-, hqps, hbufs⟩, rfl, ht⟩ := hran.complete fun _ => hknown
    refine allAcquired_created hshared hrecv hknown hqps hbufs hdistinct fun a ha => ?_
    rw [ht]
    exact List.mem_cons_of_mem _ (List.mem_append_left _ ha)
  | unknown h =>
    have hshared : SharedOk config o := (CreateRan.unknown h).succeeds.1
    cases h with
    | qps _ hqps =>
      cases hqps with
      | unknown hnone => exact absurd hnone (hchecked.2 hshared).2.1
    | bufs _ _ hbufs => cases hbufs

/-- **`fs_rdma_create_resources` answers right** exactly when nothing goes wrong behind a check.
What is asked of `memalign` is that the blocks it hands out are distinct. -/
theorem answers_iff_checked (config : RdmaParam) (o : CreateOutcomes) (c : RdmaContext)
    (hqp : 1 ≤ config.qpCount)
    (hdistinct : ∀ i j, i ≠ j → o.memalign i = o.memalign j → o.memalign i = none) :
    Answers config (fsRdmaCreateResources config o (some c)) ↔ Checked config o c := by
  have hpos : 0 < config.turns := by
    rw [RdmaParam.turns]
    omega
  have hpost := post_fsRdmaCreateResources config o c
  rcases hrun : fsRdmaCreateResources config o (some c) with ⟨e | ret, s, t⟩
  · obtain ⟨c', t', -, -, hstuck⟩ := hpost.of_error hrun
    refine ⟨?_, fun hc => absurd hc hstuck.not_checked⟩
    rintro ⟨ret, c', hout, -⟩
    cases hout
  · obtain ⟨c', rfl, hran⟩ := hpost.of_ok hrun
    constructor
    · rintro ⟨ret', c'', hout, hstate, hiff, -, hnull⟩
      cases hout
      cases hstate
      exact hran.checked hpos hiff hnull
    · intro hchecked
      obtain ⟨hiff, hnull⟩ := hran.answers hchecked hdistinct
      exact ⟨ret, c', rfl, rfl, hiff, hran.fails_or, hnull⟩

/-- A context whose id and arrays are there. -/
def Sample.fresh : RdmaContext :=
  { Sample.block with
    cmId := some 11
    qp := some ⟨12, [none, none]⟩
    mr := some ⟨13, [none, none]⟩
    buf := some ⟨14, [none, none]⟩ }

/-- At the sample creation. -/
theorem answers_iff_checked_sample :
    Answers Sample.config (fsRdmaCreateResources Sample.config Sample.create
      (some Sample.fresh)) ↔ Checked Sample.config Sample.create Sample.fresh := by
  refine answers_iff_checked Sample.config Sample.create Sample.fresh (by decide) ?_
  intro i j hij heq
  have hsame : 40 + i = 40 + j := Option.some.inj heq
  omega

/-- **A success without a receive completion queue.** -/
theorem not_answers_of_noRecvCq : ¬Answers Sample.config (fsRdmaCreateResources Sample.config
    { Sample.create with createRecvCq := none } (some Sample.fresh)) := by
  rintro ⟨ret, c', hout, hstate, hiff, -, -⟩
  have hzero : (fsRdmaCreateResources Sample.config { Sample.create with createRecvCq := none }
      (some Sample.fresh)).out = .ok 0 := rfl
  have hnone : (fsRdmaCreateResources Sample.config { Sample.create with createRecvCq := none }
      (some Sample.fresh)).state.map RdmaContext.recvCq = some none := rfl
  obtain rfl : 0 = ret := Except.ok.inj (hzero.symm.trans hout)
  rw [hstate] at hnone
  exact (hiff.mp rfl).recvCq.1 (Option.some.inj hnone)

end Transport
