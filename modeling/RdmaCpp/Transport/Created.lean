import RdmaCpp.Transport.Released

/-!
# What the acquisitions do

`fs_rdma_create_resources`, piece by piece. The four pieces that run once have
closed forms. The two loops are described by how they leave: they run to the end,
they leave at the first index whose call fails, or they stop where an element
would have to be stored through a pointer that does not lead to an array long
enough. Together that decides what the function returns
(`Transport.post_fsRdmaCreateResources`): `-1` exactly under
`Transport.CreateFails`, `0` exactly under `Transport.CreateSucceeds`, and it does
not return otherwise.

One thing to notice about `Transport.CreateSucceeds`: a connection type outside the
enumeration is a success, with no queue pair, region or buffer made.
-/

namespace Transport

variable {config : RdmaParam} {o : CreateOutcomes} {c : RdmaContext}

/-! ### The pieces that run once -/

/-- The device `fs_rdma_find_dev` finds when none is named. -/
def firstDev (o : CreateOutcomes) : Ptr :=
  match o.ibvGetDeviceList with
  | none => none
  | some devList => devList.head?.map IbvDevice.ptr

theorem run_fsRdmaFindDev (o : CreateOutcomes) (s : Option RdmaContext) :
    fsRdmaFindDev o none s =
      ⟨.ok (firstDev o), s, [.ibvGetDeviceList o.ibvGetDeviceList.isSome]⟩ := by
  rw [fsRdmaFindDev, Traced.run_bind_ok (Traced.run_emit _ _), firstDev]
  rcases o.ibvGetDeviceList with _ | _ | ⟨d, ds⟩ <;> rfl

/-- The device context, the port and the protection domain are there. -/
def ContextOk (o : CreateOutcomes) : Prop :=
  o.ibvOpenDevice ≠ none ∧ o.ibvQueryPort = 0 ∧ o.ibvAllocPd ≠ none

instance (o : CreateOutcomes) : Decidable (ContextOk o) := inferInstanceAs (Decidable (_ ∧ _))

/-- Whether the protection domain is asked for at all. -/
def AsksPd (o : CreateOutcomes) : Prop := o.ibvOpenDevice ≠ none ∧ o.ibvQueryPort = 0

instance (o : CreateOutcomes) : Decidable (AsksPd o) := inferInstanceAs (Decidable (_ ∧ _))

/-- The context after the first piece. -/
def RdmaContext.withContext (o : CreateOutcomes) (c : RdmaContext) : RdmaContext :=
  { c with context := o.ibvOpenDevice, pd := if AsksPd o then o.ibvAllocPd else c.pd }

/-- The calls of the first piece. -/
def contextActs (config : RdmaParam) (o : CreateOutcomes) : List Act :=
  [.ibvGetDeviceList o.ibvGetDeviceList.isSome, .ibvOpenDevice (firstDev o) o.ibvOpenDevice] ++
    ((if o.ibvOpenDevice ≠ none then
        [.ibvQueryPort o.ibvOpenDevice config.ibPort o.ibvQueryPort] else []) ++
      if AsksPd o then [.ibvAllocPd o.ibvOpenDevice o.ibvAllocPd] else [])

theorem run_createContext : createContext config o (some c) =
    ⟨.ok (if ContextOk o then none else some (.out (-1))), some (c.withContext o),
      contextActs config o⟩ := by
  rw [createContext, Traced.run_bind_ok (run_fsRdmaFindDev o _),
    Traced.run_bind_ok (Traced.run_emit _ _), Traced.run_bind_ok (run_assign _ _),
    Traced.run_bind_ok (run_rdmaCtx _)]
  rcases hopen : o.ibvOpenDevice with _ | d
  · simp [ContextOk, AsksPd, contextActs, RdmaContext.withContext, hopen]
  by_cases hport : o.ibvQueryPort = 0
  · simp only [Option.isNone_some, Bool.false_eq_true, if_false, hport, ne_eq, not_true_eq_false,
      Traced.run_bind_ok (run_rdmaCtx _), Traced.run_bind_ok (Traced.run_emit _ _),
      Traced.run_bind_ok (run_assign _ _)]
    rcases hpd : o.ibvAllocPd with _ | p
    · simp [ContextOk, AsksPd, contextActs, RdmaContext.withContext, hopen, hport, hpd]
    · simp [ContextOk, AsksPd, contextActs, RdmaContext.withContext, hopen, hport, hpd]
  · simp only [Option.isNone_some, Bool.false_eq_true, if_false, hport, ne_eq, not_false_eq_true,
      if_true, Traced.run_bind_ok (run_rdmaCtx _), Traced.run_bind_ok (Traced.run_emit _ _)]
    simp [ContextOk, AsksPd, contextActs, RdmaContext.withContext, hopen, hport]

/-- The completion channel is there, when one is asked for. -/
def ChannelOk (config : RdmaParam) (o : CreateOutcomes) : Prop :=
  config.useEvent ≠ 0 → o.ibvCreateCompChannel ≠ none

instance (config : RdmaParam) (o : CreateOutcomes) : Decidable (ChannelOk config o) :=
  inferInstanceAs (Decidable (_ → _))

/-- The context after the second piece. -/
def RdmaContext.withChannel (config : RdmaParam) (o : CreateOutcomes) (c : RdmaContext) :
    RdmaContext :=
  { c with channel := if config.useEvent ≠ 0 then o.ibvCreateCompChannel else c.channel }

/-- The calls of the second piece. -/
def channelActs (config : RdmaParam) (o : CreateOutcomes) (c : RdmaContext) : List Act :=
  if config.useEvent ≠ 0 then [.ibvCreateCompChannel c.context o.ibvCreateCompChannel] else []

theorem run_createChannel : createChannel config o (some c) =
    ⟨.ok (if ChannelOk config o then none else some (.out (-1))), some (c.withChannel config o),
      channelActs config o c⟩ := by
  rw [createChannel]
  by_cases huse : config.useEvent = 0
  · simp [huse, ChannelOk, channelActs, RdmaContext.withChannel]
  · simp only [ne_eq, huse, not_false_eq_true, if_true, Traced.run_bind_ok (run_rdmaCtx _),
      Traced.run_bind_ok (Traced.run_emit _ _), Traced.run_bind_ok (run_assign _ _)]
    rcases hch : o.ibvCreateCompChannel with _ | p
    · simp [huse, hch, ChannelOk, channelActs, RdmaContext.withChannel]
    · simp [huse, hch, ChannelOk, channelActs, RdmaContext.withChannel]

/-- The device answers and the send completion queue is there. Nothing is asked of
the receive completion queue: its check looks at the send queue. -/
def CqsOk (o : CreateOutcomes) : Prop := o.ibvQueryDevice = 0 ∧ o.createSendCq ≠ none

instance (o : CreateOutcomes) : Decidable (CqsOk o) := inferInstanceAs (Decidable (_ ∧ _))

/-- The context after the third piece. -/
def RdmaContext.withCqs (o : CreateOutcomes) (c : RdmaContext) : RdmaContext :=
  { c with
    sendCq := if o.ibvQueryDevice = 0 then o.createSendCq else c.sendCq
    recvCq := if CqsOk o then o.createRecvCq else c.recvCq }

/-- The calls of the third piece. -/
def cqsActs (config : RdmaParam) (o : CreateOutcomes) (c : RdmaContext) : List Act :=
  .ibvQueryDevice c.context o.ibvQueryDevice ::
    ((if o.ibvQueryDevice = 0 then
        [.ibvCreateCq c.context (cqeCount config o.maxCqe) c.channel o.createSendCq] else []) ++
      if CqsOk o then
        [.ibvCreateCq c.context (cqeCount config o.maxCqe) c.channel o.createRecvCq] else [])

theorem run_createCqs : createCqs config o (some c) =
    ⟨.ok (if CqsOk o then none else some (.out (-1))), some (c.withCqs o),
      cqsActs config o c⟩ := by
  rw [createCqs, Traced.run_bind_ok (run_rdmaCtx _), Traced.run_bind_ok (Traced.run_emit _ _)]
  by_cases hdev : o.ibvQueryDevice = 0
  · simp only [hdev, ne_eq, not_true_eq_false, if_false, Traced.run_bind_ok (run_rdmaCtx _),
      Traced.run_bind_ok (Traced.run_emit _ _), Traced.run_bind_ok (run_assign _ _)]
    rcases hcq : o.createSendCq with _ | q
    · simp [CqsOk, cqsActs, RdmaContext.withCqs, hdev, hcq]
    · simp [CqsOk, cqsActs, RdmaContext.withCqs, hdev, hcq,
        Traced.run_bind_ok (run_rdmaCtx _), Traced.run_bind_ok (Traced.run_emit _ _),
        Traced.run_bind_ok (run_assign _ _)]
  · simp [CqsOk, cqsActs, RdmaContext.withCqs, hdev]

/-- The shared receive queue is there, when one is asked for. -/
def SrqOk (config : RdmaParam) (o : CreateOutcomes) : Prop :=
  config.useSrq ≠ 0 → o.ibvCreateSrq ≠ none

instance (config : RdmaParam) (o : CreateOutcomes) : Decidable (SrqOk config o) :=
  inferInstanceAs (Decidable (_ → _))

/-- The context after the fourth piece. -/
def RdmaContext.withSrq (config : RdmaParam) (o : CreateOutcomes) (c : RdmaContext) :
    RdmaContext :=
  { c with srq := if config.useSrq ≠ 0 then o.ibvCreateSrq else c.srq }

/-- The calls of the fourth piece. -/
def srqActs (config : RdmaParam) (o : CreateOutcomes) (c : RdmaContext) : List Act :=
  if config.useSrq ≠ 0 then [.ibvCreateSrq c.pd srqAttr o.ibvCreateSrq] else []

theorem run_createSrq : createSrq config o (some c) =
    ⟨.ok (if SrqOk config o then none else some (.out (-1))), some (c.withSrq config o),
      srqActs config o c⟩ := by
  rw [createSrq]
  by_cases huse : config.useSrq = 0
  · simp [huse, SrqOk, srqActs, RdmaContext.withSrq]
  · simp only [ne_eq, huse, not_false_eq_true, if_true, Traced.run_bind_ok (run_rdmaCtx _),
      Traced.run_bind_ok (Traced.run_emit _ _), Traced.run_bind_ok (run_assign _ _)]
    rcases hsrq : o.ibvCreateSrq with _ | p
    · simp [huse, hsrq, SrqOk, srqActs, RdmaContext.withSrq]
    · simp [huse, hsrq, SrqOk, srqActs, RdmaContext.withSrq]

/-! ### The loop over the queue pairs -/

/-- The context with the first `n` queue pairs stored. -/
def RdmaContext.withQps (o : CreateOutcomes) (n : ℕ) (c : RdmaContext) : RdmaContext :=
  { c with qp := c.qp.map (PtrArray.fill o.rdmaCreateQp n) }

/-- The calls of the first `n` turns. -/
def qpsActs (config : RdmaParam) (o : CreateOutcomes) (c : RdmaContext) (n : ℕ) : List Act :=
  match qpTypeOf config.connectionType with
  | none => []
  | some qpType => (List.range n).map fun i =>
      .rdmaCreateQp c.cmId c.pd (qpInitAttr c qpType) (o.rdmaCreateQp i)

/-- The first `n` turns get through: the call succeeds, and the queue pair can be
read off the id and stored. -/
def QpsTo (o : CreateOutcomes) (c : RdmaContext) (n : ℕ) : Prop :=
  ∀ i < n, o.rdmaCreateQp i ≠ none ∧ c.cmId ≠ none ∧ i < room c.qp

/-- **How the loop over the queue pairs leaves**: with what, in which context,
after which calls. -/
inductive QpsRan (config : RdmaParam) (o : CreateOutcomes) (c : RdmaContext) :
    Option Exit → RdmaContext → List Act → Prop
  /-- The switch has no case for the connection type. -/
  | unknown (h : qpTypeOf config.connectionType = none) (h0 : 0 < config.turns) :
      QpsRan config o c (some (.ret 0)) c []
  /-- The call at index `i` fails. -/
  | failed (i : ℕ) (hi : i < config.turns) (hknown : qpTypeOf config.connectionType ≠ none)
      (hto : QpsTo o c i) (hfail : o.rdmaCreateQp i = none) :
      QpsRan config o c (some (.out (-1))) (c.withQps o i) (qpsActs config o c (i + 1))
  /-- All turns get through. -/
  | done (hknown : 0 < config.turns → qpTypeOf config.connectionType ≠ none)
      (hto : QpsTo o c config.turns) :
      QpsRan config o c none (c.withQps o config.turns) (qpsActs config o c config.turns)

/-- **Where the loop over the queue pairs stops for good**: a queue pair is there
and cannot be stored. -/
inductive QpsStuck (config : RdmaParam) (o : CreateOutcomes) (c : RdmaContext) :
    RdmaContext → List Act → Prop
  | mk (i : ℕ) (hi : i < config.turns) (hknown : qpTypeOf config.connectionType ≠ none)
      (hto : QpsTo o c i) (hqp : o.rdmaCreateQp i ≠ none)
      (hstuck : ¬(c.cmId ≠ none ∧ i < room c.qp)) :
      QpsStuck config o c (c.withQps o i) (qpsActs config o c (i + 1))

theorem qpsActs_zero : qpsActs config o c 0 = [] := by
  rw [qpsActs]
  cases qpTypeOf config.connectionType <;> rfl

theorem qpsActs_succ {qpType : QpType} (h : qpTypeOf config.connectionType = some qpType) (n : ℕ) :
    qpsActs config o c (n + 1) = qpsActs config o c n ++
      [.rdmaCreateQp c.cmId c.pd (qpInitAttr c qpType) (o.rdmaCreateQp n)] := by
  simp only [qpsActs, h, List.range_succ, List.map_append, List.map_cons, List.map_nil]

theorem withQps_zero : c.withQps o 0 = c := by
  rw [RdmaContext.withQps, map_fill_zero]

/-- One turn of the loop, from the context that the turns before it left. -/
theorem post_createQp {i : ℕ} (hi : i < config.turns) (hto : QpsTo o c i)
    (hknown : 0 < i → qpTypeOf config.connectionType ≠ none) :
    Traced.Post (createQp config o i) (some (c.withQps o i))
      (fun r s t => match r with
        | some exit => ∃ c', s = some c' ∧
            QpsRan config o c (some exit) c' (qpsActs config o c i ++ t)
        | none => s = some (c.withQps o (i + 1)) ∧
            qpsActs config o c i ++ t = qpsActs config o c (i + 1) ∧ QpsTo o c (i + 1) ∧
            qpTypeOf config.connectionType ≠ none)
      (fun _ s t => ∃ c', s = some c' ∧ QpsStuck config o c c' (qpsActs config o c i ++ t)) := by
  rw [createQp, Traced.post_bind, post_rdmaCtx]
  rcases htype : qpTypeOf config.connectionType with _ | qpType
  · have hi0 : i = 0 := by
      by_contra hc
      exact hknown (Nat.pos_of_ne_zero hc) htype
    subst hi0
    refine ⟨c, congrArg some withQps_zero, ?_⟩
    rw [qpsActs_zero]
    exact QpsRan.unknown htype hi
  have hne : qpTypeOf config.connectionType ≠ none := by
    rw [htype]
    exact Option.some_ne_none qpType
  simp only [Traced.post_bind, Traced.post_emit, Traced.post_ite, Traced.post_pure,
    Traced.post_stop, List.nil_append, List.append_nil]
  -- the call is the last of what has been done
  have hact : qpsActs config o c i ++ [Act.rdmaCreateQp (c.withQps o i).cmId (c.withQps o i).pd
      (qpInitAttr (c.withQps o i) qpType) (o.rdmaCreateQp i)] = qpsActs config o c (i + 1) :=
    (qpsActs_succ htype i).symm
  refine ⟨fun hnone => ?_, fun hsome => ?_⟩
  · refine ⟨_, rfl, ?_⟩
    rw [hact]
    exact QpsRan.failed i hi hne hto (Option.isNone_iff_eq_none.mp hnone)
  have hqp : o.rdmaCreateQp i ≠ none := fun hc => hsome (by rw [hc]; rfl)
  refine ⟨fun hid => ?_, fun hid => ?_⟩
  · refine ⟨_, rfl, ?_⟩
    rw [hact]
    exact QpsStuck.mk i hi hne hto hqp fun hc => hc.1 (Option.isNone_iff_eq_none.mp hid)
  -- only the store is left
  by_cases hroom : i < room c.qp
  · obtain ⟨b, hb, hlen, hstore⟩ := exists_of_lt_room o.rdmaCreateQp hroom
    have hfield : (c.withQps o i).qp = some b := hb
    rw [Traced.post_of_run (run_storeCell hfield hlen)]
    refine ⟨?_, ?_, ?_, Option.some_ne_none qpType⟩
    · change some { c.withQps o i with qp := some (b.store i (o.rdmaCreateQp i)) } = _
      rw [hstore]
      rfl
    · simpa only [List.append_nil] using hact
    · intro j hj
      rcases Nat.lt_or_ge j i with hlt | hge
      · exact hto j hlt
      · obtain rfl : j = i := by omega
        exact ⟨hqp, fun hc => hid (by rw [show (c.withQps o j).cmId = c.cmId from rfl, hc]; rfl),
          hroom⟩
  · have hfield : ¬i < room (c.withQps o i).qp := by
      rwa [show (c.withQps o i).qp = c.qp.map (PtrArray.fill o.rdmaCreateQp i) from rfl,
        room_map_fill]
    obtain ⟨e, he⟩ := run_storeCell_stuck ArrayField.qp.put (o.rdmaCreateQp i) hfield
    simp only [Traced.Post, he]
    refine ⟨_, rfl, ?_⟩
    rw [List.append_nil, hact]
    exact QpsStuck.mk i hi hne hto hqp fun hc => hroom hc.2

/-- **The loop over the queue pairs.** The invariant: the queue pairs so far have
been created and stored, by exactly these calls. -/
theorem post_createQps (config : RdmaParam) (o : CreateOutcomes) (c : RdmaContext) :
    Traced.Post (Traced.forLoop (createQp config o) 0 config.turns) (some c)
      (fun r s t => ∃ c', s = some c' ∧ QpsRan config o c r c' t)
      (fun _ s t => ∃ c', s = some c' ∧ QpsStuck config o c c' t) := by
  refine Traced.post_forLoop (fun i s t => s = some (c.withQps o i) ∧ t = qpsActs config o c i ∧
    QpsTo o c i ∧ (0 < i → qpTypeOf config.connectionType ≠ none)) ?_ ?_ ?_
  · exact ⟨congrArg some withQps_zero.symm, qpsActs_zero.symm, fun i hi => absurd hi (by omega),
      fun hc => absurd hc (by omega)⟩
  · rintro i s t - hi ⟨rfl, rfl, hto, hknown⟩
    refine (post_createQp (by omega) hto hknown).mono ?_ fun _ _ _ h => h
    rintro (_ | exit) s' t' h
    · obtain ⟨h1, h2, h3, h4⟩ := h
      exact ⟨h1, h2, h3, fun _ => h4⟩
    · exact h
  · rintro s t ⟨rfl, rfl, hto, hknown⟩
    rw [Nat.zero_add] at hto hknown ⊢
    exact ⟨_, rfl, QpsRan.done hknown hto⟩

/-! ### The loop over the buffers -/

/-- The context with the first `b` buffers and the first `m` regions stored. -/
def RdmaContext.withBufs (o : CreateOutcomes) (b m : ℕ) (c : RdmaContext) : RdmaContext :=
  { c with
    buf := c.buf.map (PtrArray.fill o.memalign b)
    mr := c.mr.map (PtrArray.fill o.ibvRegMr m) }

/-- The calls of the turn at `i`. -/
def bufActs (o : CreateOutcomes) (c : RdmaContext) (i : ℕ) : List Act :=
  [.memalign bufSize (o.memalign i), .memset (o.memalign i) bufSize,
    .ibvRegMr c.pd (o.memalign i) bufSize mrFlags (o.ibvRegMr i)]

/-- The calls of the first `n` turns. -/
def bufsActs (o : CreateOutcomes) (c : RdmaContext) (n : ℕ) : List Act :=
  (List.range n).flatMap (bufActs o c)

/-- What the turn at `i` needs to reach the end of its registration. -/
def BufAt (o : CreateOutcomes) (c : RdmaContext) (i : ℕ) : Prop :=
  i < room c.buf ∧ o.memalign i ≠ none ∧ i < room c.mr

/-- The first `n` turns get through. -/
def BufsTo (o : CreateOutcomes) (c : RdmaContext) (n : ℕ) : Prop :=
  ∀ i < n, BufAt o c i ∧ o.ibvRegMr i ≠ none

/-- **How the loop over the buffers leaves**: with what, in which context, after
which calls. -/
inductive BufsRan (config : RdmaParam) (o : CreateOutcomes) (c : RdmaContext) :
    Option Exit → RdmaContext → List Act → Prop
  /-- The registration at index `i` fails. -/
  | failed (i : ℕ) (hi : i < config.turns) (hto : BufsTo o c i) (hat : BufAt o c i)
      (hfail : o.ibvRegMr i = none) :
      BufsRan config o c (some (.out (-1))) (c.withBufs o (i + 1) (i + 1)) (bufsActs o c (i + 1))
  /-- All turns get through. -/
  | done (hto : BufsTo o c config.turns) :
      BufsRan config o c none (c.withBufs o config.turns config.turns)
        (bufsActs o c config.turns)

/-- **Where the loop over the buffers stops for good**: at a buffer that was not
allocated, or at an array with no room, after `k` calls of a turn. A buffer that was
not allocated is never registered. -/
inductive BufsStuck (config : RdmaParam) (o : CreateOutcomes) (c : RdmaContext) :
    RdmaContext → List Act → Prop
  | mk (i b k : ℕ) (hi : i < config.turns) (hto : BufsTo o c i) (hstuck : ¬BufAt o c i)
      (hk : o.memalign i = none → k ≤ 2) :
      BufsStuck config o c (c.withBufs o b i) (bufsActs o c i ++ (bufActs o c i).take k)

theorem bufsActs_succ (n : ℕ) : bufsActs o c (n + 1) = bufsActs o c n ++ bufActs o c n := by
  simp only [bufsActs, List.range_succ, List.flatMap_append, List.flatMap_cons, List.flatMap_nil,
    List.append_nil]

theorem withBufs_zero : c.withBufs o 0 0 = c := by
  rw [RdmaContext.withBufs, map_fill_zero, map_fill_zero]

/-- One turn of the loop, from the context that the turns before it left. -/
theorem post_registerBuf {i : ℕ} (hi : i < config.turns) (hto : BufsTo o c i) :
    Traced.Post (registerBuf o i) (some (c.withBufs o i i))
      (fun r s t => match r with
        | some exit => ∃ c', s = some c' ∧
            BufsRan config o c (some exit) c' (bufsActs o c i ++ t)
        | none => s = some (c.withBufs o (i + 1) (i + 1)) ∧
            bufsActs o c i ++ t = bufsActs o c (i + 1) ∧ BufsTo o c (i + 1))
      (fun _ s t => ∃ c', s = some c' ∧ BufsStuck config o c c' (bufsActs o c i ++ t)) := by
  rw [registerBuf, Traced.post_bind, Traced.post_emit, Traced.post_bind]
  by_cases hbuf : i < room c.buf
  swap
  · have hfield : ¬i < room (c.withBufs o i i).buf := by
      rwa [show (c.withBufs o i i).buf = c.buf.map (PtrArray.fill o.memalign i) from rfl,
        room_map_fill]
    obtain ⟨e, he⟩ := run_storeCell_stuck ArrayField.buf.put (o.memalign i) hfield
    simp only [Traced.Post, he]
    exact ⟨_, rfl, BufsStuck.mk i i 1 hi hto (fun hc => hbuf hc.1) fun _ => by decide⟩
  obtain ⟨b, hb, hlen, hstore⟩ := exists_of_lt_room o.memalign hbuf
  have hfield : (c.withBufs o i i).buf = some b := hb
  rw [Traced.post_of_run (run_storeCell hfield hlen)]
  -- the buffer is stored before it is looked at
  have hstored : ArrayField.buf.put (b.store i (o.memalign i)) (c.withBufs o i i) =
      c.withBufs o (i + 1) i := by
    change { c.withBufs o i i with buf := some (b.store i (o.memalign i)) } = _
    rw [hstore]
    rfl
  rw [hstored, Traced.post_bind, Traced.post_emit]
  by_cases halign : o.memalign i ≠ none
  swap
  · simp only [Option.isNone_iff_eq_none.mpr (not_not.mp halign), if_true, Traced.post_bind,
      Traced.post_stop]
    exact ⟨_, rfl, BufsStuck.mk i (i + 1) 2 hi hto (fun hc => halign hc.2.1) fun _ => by decide⟩
  simp only [Option.isNone_eq_false_iff.mpr (Option.isSome_iff_ne_none.mpr halign),
    Bool.false_eq_true, if_false]
  rw [Traced.post_bind, post_rdmaCtx, Traced.post_bind, Traced.post_emit, Traced.post_bind]
  by_cases hmr : i < room c.mr
  swap
  · have hfield' : ¬i < room (c.withBufs o (i + 1) i).mr := by
      rwa [show (c.withBufs o (i + 1) i).mr = c.mr.map (PtrArray.fill o.ibvRegMr i) from rfl,
        room_map_fill]
    obtain ⟨e, he⟩ := run_storeCell_stuck ArrayField.mr.put (o.ibvRegMr i) hfield'
    simp only [Traced.Post, he]
    exact ⟨_, rfl, BufsStuck.mk i (i + 1) 3 hi hto (fun hc => hmr hc.2.2)
      fun hc => absurd hc halign⟩
  obtain ⟨b', hb', hlen', hstore'⟩ := exists_of_lt_room o.ibvRegMr hmr
  have hfield' : (c.withBufs o (i + 1) i).mr = some b' := hb'
  rw [Traced.post_of_run (run_storeCell hfield' hlen')]
  have hstored' : ArrayField.mr.put (b'.store i (o.ibvRegMr i)) (c.withBufs o (i + 1) i) =
      c.withBufs o (i + 1) (i + 1) := by
    change { c.withBufs o (i + 1) i with mr := some (b'.store i (o.ibvRegMr i)) } = _
    rw [hstore']
    rfl
  -- the turn has got to the check of the region
  have hat : BufAt o c i := ⟨hbuf, halign, hmr⟩
  rw [hstored', Traced.post_ite]
  refine ⟨fun hnone => ?_, fun hsome' => ?_⟩
  · refine ⟨_, rfl, ?_⟩
    have := BufsRan.failed i hi hto hat (Option.isNone_iff_eq_none.mp hnone)
    rwa [bufsActs_succ] at this
  · refine ⟨rfl, (bufsActs_succ i).symm, fun j hj => ?_⟩
    rcases Nat.lt_or_ge j i with hlt | hge
    · exact hto j hlt
    · obtain rfl : j = i := by omega
      exact ⟨hat, fun hc => hsome' (by rw [hc]; rfl)⟩

/-- **The loop over the buffers.** The invariant: the buffers so far have been
allocated, registered and stored, by exactly these calls. -/
theorem post_registerBufs (config : RdmaParam) (o : CreateOutcomes) (c : RdmaContext) :
    Traced.Post (Traced.forLoop (registerBuf o) 0 config.turns) (some c)
      (fun r s t => ∃ c', s = some c' ∧ BufsRan config o c r c' t)
      (fun _ s t => ∃ c', s = some c' ∧ BufsStuck config o c c' t) := by
  refine Traced.post_forLoop (fun i s t => s = some (c.withBufs o i i) ∧ t = bufsActs o c i ∧
    BufsTo o c i) ?_ ?_ ?_
  · exact ⟨congrArg some withBufs_zero.symm, rfl, fun i hi => absurd hi (by omega)⟩
  · rintro i s t - hi ⟨rfl, rfl, hto⟩
    refine (post_registerBuf (by omega) hto).mono ?_ fun _ _ _ h => h
    rintro (_ | exit) s' t' h
    · exact h
    · exact h
  · rintro s t ⟨rfl, rfl, hto⟩
    rw [Nat.zero_add] at hto ⊢
    exact ⟨_, rfl, BufsRan.done hto⟩

/-- The calls of the loop over the queue pairs, however it leaves. -/
theorem QpsRan.acts_eq {r : Option Exit} {c' : RdmaContext} {t : List Act}
    (h : QpsRan config o c r c' t) : ∃ n ≤ config.turns, t = qpsActs config o c n := by
  cases h with
  | unknown h h0 => exact ⟨0, Nat.zero_le _, qpsActs_zero.symm⟩
  | failed i hi => exact ⟨i + 1, hi, rfl⟩
  | done => exact ⟨config.turns, Nat.le_refl _, rfl⟩

/-- The calls of the loop over the buffers, however it leaves. -/
theorem BufsRan.acts_eq {r : Option Exit} {c' : RdmaContext} {t : List Act}
    (h : BufsRan config o c r c' t) :
    ∃ n, t = bufsActs o c n ∧ ∀ i < n, o.memalign i ≠ none := by
  cases h with
  | failed i hi hto hat hfail =>
    refine ⟨i + 1, rfl, fun j hj => ?_⟩
    rcases Nat.lt_or_ge j i with hlt | hge
    · exact (hto j hlt).1.2.1
    · obtain rfl : j = i := by omega
      exact hat.2.1
  | done hto => exact ⟨config.turns, rfl, fun j hj => (hto j hj).1.2.1⟩

/-! ### The whole function -/

/-- The pieces that run once all succeed. -/
def SharedOk (config : RdmaParam) (o : CreateOutcomes) : Prop :=
  ContextOk o ∧ ChannelOk config o ∧ CqsOk o ∧ SrqOk config o

instance (config : RdmaParam) (o : CreateOutcomes) : Decidable (SharedOk config o) :=
  inferInstanceAs (Decidable (_ ∧ _))

/-- The context after the pieces that run once. -/
def RdmaContext.withShared (config : RdmaParam) (o : CreateOutcomes) (c : RdmaContext) :
    RdmaContext :=
  (((c.withContext o).withChannel config o).withCqs o).withSrq config o

/-- The fields of the context that the loops look at, after the pieces that run
once. -/
theorem withShared_fields (h : SharedOk config o) :
    (c.withShared config o).pd = o.ibvAllocPd ∧
      (c.withShared config o).sendCq = o.createSendCq ∧
      (c.withShared config o).recvCq = o.createRecvCq := by
  obtain ⟨hctx, -, hcqs, -⟩ := h
  exact ⟨if_pos (show AsksPd o from ⟨hctx.1, hctx.2.1⟩), if_pos hcqs.1, if_pos hcqs⟩

/-- The calls of the first two pieces. -/
def deviceActs (config : RdmaParam) (o : CreateOutcomes) (c : RdmaContext) : List Act :=
  contextActs config o ++ channelActs config o (c.withContext o)

/-- The calls of the first three pieces. -/
def queueActs (config : RdmaParam) (o : CreateOutcomes) (c : RdmaContext) : List Act :=
  deviceActs config o c ++ cqsActs config o ((c.withContext o).withChannel config o)

/-- The calls of the four pieces that run once. -/
def sharedActs (config : RdmaParam) (o : CreateOutcomes) (c : RdmaContext) : List Act :=
  queueActs config o c ++ srqActs config o (((c.withContext o).withChannel config o).withCqs o)

/-- **How the acquisitions leave**: with what, in which context, after which
calls. -/
inductive BodyRan (config : RdmaParam) (o : CreateOutcomes) (c : RdmaContext) :
    Exit → RdmaContext → List Act → Prop
  | noContext (h : ¬ContextOk o) :
      BodyRan config o c (.out (-1)) (c.withContext o) (contextActs config o)
  | noChannel (hctx : ContextOk o) (h : ¬ChannelOk config o) :
      BodyRan config o c (.out (-1)) ((c.withContext o).withChannel config o)
        (deviceActs config o c)
  | noCqs (hctx : ContextOk o) (hch : ChannelOk config o) (h : ¬CqsOk o) :
      BodyRan config o c (.out (-1)) (((c.withContext o).withChannel config o).withCqs o)
        (queueActs config o c)
  | noSrq (hctx : ContextOk o) (hch : ChannelOk config o) (hcqs : CqsOk o)
      (h : ¬SrqOk config o) :
      BodyRan config o c (.out (-1)) (c.withShared config o) (sharedActs config o c)
  | qps {exit : Exit} {c' : RdmaContext} {t : List Act} (hshared : SharedOk config o)
      (hqps : QpsRan config o (c.withShared config o) (some exit) c' t) :
      BodyRan config o c exit c' (sharedActs config o c ++ t)
  | bufs {exit : Exit} {c₁ c' : RdmaContext} {t₁ t : List Act} (hshared : SharedOk config o)
      (hqps : QpsRan config o (c.withShared config o) none c₁ t₁)
      (hbufs : BufsRan config o c₁ (some exit) c' t) :
      BodyRan config o c exit c' (sharedActs config o c ++ (t₁ ++ t))
  | done {c₁ c' : RdmaContext} {t₁ t : List Act} (hshared : SharedOk config o)
      (hqps : QpsRan config o (c.withShared config o) none c₁ t₁)
      (hbufs : BufsRan config o c₁ none c' t) :
      BodyRan config o c (.out 0) c' (sharedActs config o c ++ (t₁ ++ t))

/-- **Where the acquisitions stop for good.** -/
inductive BodyStuck (config : RdmaParam) (o : CreateOutcomes) (c : RdmaContext) :
    RdmaContext → List Act → Prop
  | qps {c' : RdmaContext} {t : List Act} (hshared : SharedOk config o)
      (hqps : QpsStuck config o (c.withShared config o) c' t) :
      BodyStuck config o c c' (sharedActs config o c ++ t)
  | bufs {c₁ c' : RdmaContext} {t₁ t : List Act} (hshared : SharedOk config o)
      (hqps : QpsRan config o (c.withShared config o) none c₁ t₁)
      (hbufs : BufsStuck config o c₁ c' t) :
      BodyStuck config o c c' (sharedActs config o c ++ (t₁ ++ t))

/-- **The acquisitions.** The pieces are run one after the other, and the first that
returns an exit ends it. -/
theorem post_createResourcesBody (config : RdmaParam) (o : CreateOutcomes) (c : RdmaContext) :
    Traced.Post (createResourcesBody config o) (some c)
      (fun exit s t => ∃ c', s = some c' ∧ BodyRan config o c exit c' t)
      (fun _ s t => ∃ c', s = some c' ∧ BodyStuck config o c c' t) := by
  rw [createResourcesBody, Traced.post_bind, Traced.post_firstExit_cons,
    Traced.post_of_run run_createContext]
  by_cases hctx : ContextOk o
  swap
  · rw [if_neg hctx]
    refine ⟨_, rfl, ?_⟩
    rw [List.append_nil]
    exact BodyRan.noContext hctx
  rw [if_pos hctx]
  simp only [Traced.post_firstExit_cons, Traced.post_of_run run_createChannel]
  by_cases hch : ChannelOk config o
  swap
  · rw [if_neg hch]
    refine ⟨_, rfl, ?_⟩
    rw [List.append_nil]
    exact BodyRan.noChannel hctx hch
  rw [if_pos hch]
  simp only [Traced.post_of_run run_createCqs]
  by_cases hcqs : CqsOk o
  swap
  · rw [if_neg hcqs]
    refine ⟨_, rfl, ?_⟩
    rw [List.append_nil, ← List.append_assoc]
    exact BodyRan.noCqs hctx hch hcqs
  rw [if_pos hcqs]
  simp only [Traced.post_of_run run_createSrq]
  by_cases hsrq : SrqOk config o
  swap
  · rw [if_neg hsrq]
    refine ⟨_, rfl, ?_⟩
    rw [List.append_nil, ← List.append_assoc, ← List.append_assoc]
    exact BodyRan.noSrq hctx hch hcqs hsrq
  rw [if_pos hsrq]
  have hshared : SharedOk config o := ⟨hctx, hch, hcqs, hsrq⟩
  -- the steps that run once, with whatever comes next
  have hacts : ∀ t, contextActs config o ++ (channelActs config o (c.withContext o) ++
      (cqsActs config o ((c.withContext o).withChannel config o) ++
        (srqActs config o (((c.withContext o).withChannel config o).withCqs o) ++ t))) =
      sharedActs config o c ++ t := by
    intro t
    simp only [sharedActs, queueActs, deviceActs, List.append_assoc]
  refine (post_createQps config o (c.withShared config o)).mono ?_ ?_
  · rintro (_ | exit) s t ⟨c₁, rfl, hqps⟩
    swap
    · refine ⟨c₁, rfl, ?_⟩
      rw [List.append_nil, hacts]
      exact BodyRan.qps hshared hqps
    refine (post_registerBufs config o c₁).mono ?_ ?_
    · rintro (_ | exit) s' t' ⟨c', rfl, hbufs⟩
      · refine ⟨c', rfl, ?_⟩
        rw [List.append_nil, List.append_nil, hacts]
        exact BodyRan.done hshared hqps hbufs
      · refine ⟨c', rfl, ?_⟩
        rw [List.append_nil, hacts]
        exact BodyRan.bufs hshared hqps hbufs
    · rintro e s' t' ⟨c', rfl, hbufs⟩
      refine ⟨c', rfl, ?_⟩
      rw [hacts]
      exact BodyStuck.bufs hshared hqps hbufs
  · rintro e s t ⟨c', rfl, hqps⟩
    refine ⟨c', rfl, ?_⟩
    rw [hacts]
    exact BodyStuck.qps hshared hqps

/-- **How `fs_rdma_create_resources` returns**: with what, leaving which context,
after which calls. -/
inductive CreateRan (config : RdmaParam) (o : CreateOutcomes) (c : RdmaContext) :
    ℤ → RdmaContext → List Act → Prop
  /-- It fails and cleans up. -/
  | failed {c' : RdmaContext} {t : List Act} (h : BodyRan config o c (.out (-1)) c' t) :
      CreateRan config o c (-1) (c'.cleaned config)
        (.enter .createResources :: (t ++ (cleanupActs config c' ++
          [.leave .createResources (-1)])))
  /-- It succeeds. -/
  | made {c' : RdmaContext} {t : List Act} (h : BodyRan config o c (.out 0) c' t) :
      CreateRan config o c 0 c'
        (.enter .createResources :: (t ++ [.leave .createResources 0]))
  /-- It returns `NULL` for a connection type it does not know. -/
  | unknown {c' : RdmaContext} {t : List Act} (h : BodyRan config o c (.ret 0) c' t) :
      CreateRan config o c 0 c'
        (.enter .createResources :: (t ++ [.leave .createResources 0]))

/-- The context field holds what was opened. -/
theorem BodyRan.context_eq {exit : Exit} {c' : RdmaContext} {t : List Act}
    (h : BodyRan config o c exit c' t) : c'.context = o.ibvOpenDevice := by
  cases h with
  | noContext | noChannel | noCqs | noSrq => rfl
  | qps hshared hqps =>
    cases hqps with
    | unknown | failed => rfl
  | bufs hshared hqps hbufs | done hshared hqps hbufs =>
    cases hqps with
    | done =>
      cases hbufs with
      | _ => rfl

/-- A creation whose first piece fails leaves after it. -/
theorem BodyRan.contextOk {exit : Exit} {c' : RdmaContext} {t : List Act}
    (h : BodyRan config o c exit c' t) (hexit : exit ≠ .out (-1)) : ContextOk o := by
  cases h with
  | noContext | noChannel | noCqs | noSrq => exact absurd rfl hexit
  | qps hshared | bufs hshared | done hshared => exact hshared.1

/-- The exits there are. -/
theorem BodyRan.exit_eq {exit : Exit} {c' : RdmaContext} {t : List Act}
    (h : BodyRan config o c exit c' t) : exit = .out (-1) ∨ exit = .out 0 ∨ exit = .ret 0 := by
  cases h with
  | noContext | noChannel | noCqs | noSrq => exact Or.inl rfl
  | qps hshared hqps =>
    cases hqps with
    | unknown => exact Or.inr (Or.inr rfl)
    | failed => exact Or.inl rfl
  | bufs hshared hqps hbufs =>
    cases hbufs with
    | failed => exact Or.inl rfl
  | done => exact Or.inr (Or.inl rfl)

/-- **`fs_rdma_create_resources`.** -/
theorem post_fsRdmaCreateResources (config : RdmaParam) (o : CreateOutcomes) (c : RdmaContext) :
    Traced.Post (fsRdmaCreateResources config o) (some c)
      (fun ret s t => ∃ c', s = some c' ∧ CreateRan config o c ret c' t)
      (fun _ s t => ∃ c' t', s = some c' ∧ t = .enter .createResources :: t' ∧
        BodyStuck config o c c' t') := by
  rw [fsRdmaCreateResources, Traced.post_bind, Traced.post_emit, Traced.post_bind]
  refine (post_createResourcesBody config o c).mono ?_ ?_
  · rintro exit s t ⟨c', rfl, hbody⟩
    rcases hbody.exit_eq with rfl | rfl | rfl
    · simp only [if_true, Traced.post_bind, Traced.post_of_run (run_createResourcesOut config c'),
        Traced.post_emit, Traced.post_pure]
      refine ⟨_, rfl, ?_⟩
      simpa only [List.append_nil, List.cons_append, List.nil_append, List.append_assoc]
        using CreateRan.failed hbody
    · simp only [show ¬(0 : ℤ) = -1 by decide, if_false, Traced.post_bind, Traced.post_emit,
        Traced.post_pure]
      refine ⟨_, rfl, ?_⟩
      simpa only [List.append_nil, List.cons_append, List.nil_append] using CreateRan.made hbody
    · simp only [Traced.post_bind, Traced.post_emit, Traced.post_pure]
      refine ⟨_, rfl, ?_⟩
      simpa only [List.append_nil, List.cons_append, List.nil_append] using CreateRan.unknown hbody
  · rintro e s t ⟨c', rfl, hstuck⟩
    exact ⟨c', t, rfl, rfl, hstuck⟩

/-- Without a context the function stops when it stores the device context. -/
theorem run_fsRdmaCreateResources_null (config : RdmaParam) (o : CreateOutcomes) :
    fsRdmaCreateResources config o none =
      ⟨.error .nullDeref, none, [.enter .createResources,
        .ibvGetDeviceList o.ibvGetDeviceList.isSome,
        .ibvOpenDevice (firstDev o) o.ibvOpenDevice]⟩ := by
  have hctx : createContext config o none = ⟨.error .nullDeref, none,
      [.ibvGetDeviceList o.ibvGetDeviceList.isSome,
        .ibvOpenDevice (firstDev o) o.ibvOpenDevice]⟩ := by
    rw [createContext, Traced.run_bind_ok (run_fsRdmaFindDev o none),
      Traced.run_bind_ok (Traced.run_emit _ _)]
    rfl
  have hbody : createResourcesBody config o none = ⟨.error .nullDeref, none,
      [.ibvGetDeviceList o.ibvGetDeviceList.isSome,
        .ibvOpenDevice (firstDev o) o.ibvOpenDevice]⟩ := by
    rw [createResourcesBody, Traced.firstExit]
    exact Traced.run_bind_error (Traced.run_bind_error hctx)
  rw [fsRdmaCreateResources, Traced.run_bind_ok (Traced.run_emit _ _), Traced.run_bind_error hbody]
  rfl

/-! ### What it returns, read off its inputs -/

/-- The creation of a queue pair fails. -/
def QpFails (config : RdmaParam) (o : CreateOutcomes) (c : RdmaContext) : Prop :=
  qpTypeOf config.connectionType ≠ none ∧
    ∃ i < config.turns, QpsTo o c i ∧ o.rdmaCreateQp i = none

/-- All queue pairs are created and stored. -/
def QpsPass (config : RdmaParam) (o : CreateOutcomes) (c : RdmaContext) : Prop :=
  (0 < config.turns → qpTypeOf config.connectionType ≠ none) ∧ QpsTo o c config.turns

/-- The registration of a buffer fails. -/
def BufFails (config : RdmaParam) (o : CreateOutcomes) (c : RdmaContext) : Prop :=
  ∃ i < config.turns, BufsTo o c i ∧ BufAt o c i ∧ o.ibvRegMr i = none

/-- **When `fs_rdma_create_resources` returns `-1`.** -/
def CreateFails (config : RdmaParam) (o : CreateOutcomes) (c : RdmaContext) : Prop :=
  ¬SharedOk config o ∨ QpFails config o c ∨ QpsPass config o c ∧ BufFails config o c

/-- **When `fs_rdma_create_resources` returns `0`.** -/
def CreateSucceeds (config : RdmaParam) (o : CreateOutcomes) (c : RdmaContext) : Prop :=
  SharedOk config o ∧ (0 < config.turns ∧ qpTypeOf config.connectionType = none ∨
    QpsPass config o c ∧ BufsTo o c config.turns)

/-- **The value returned says how it went.** The conditions are about the context
before the call: the loops look only at fields that the pieces before them leave
alone. -/
theorem CreateRan.ret_eq {ret : ℤ} {c' : RdmaContext} {t : List Act}
    (h : CreateRan config o c ret c' t) :
    ret = 0 ∧ CreateSucceeds config o c ∨ ret = -1 ∧ CreateFails config o c := by
  cases h with
  | failed h =>
    refine Or.inr ⟨rfl, ?_⟩
    cases h with
    | noContext h => exact Or.inl fun hc => h hc.1
    | noChannel _ h => exact Or.inl fun hc => h hc.2.1
    | noCqs _ _ h => exact Or.inl fun hc => h hc.2.2.1
    | noSrq _ _ _ h => exact Or.inl fun hc => h hc.2.2.2
    | qps hshared hqps =>
      cases hqps with
      | failed i hi hknown hto hfail => exact Or.inr (Or.inl ⟨hknown, i, hi, hto, hfail⟩)
    | bufs hshared hqps hbufs =>
      cases hqps with
      | done hknown hto =>
        cases hbufs with
        | failed i hi hbufsTo hat hfail =>
          exact Or.inr (Or.inr ⟨⟨hknown, hto⟩, i, hi, hbufsTo, hat, hfail⟩)
  | made h =>
    refine Or.inl ⟨rfl, ?_⟩
    cases h with
    | qps hshared hqps => cases hqps
    | bufs hshared hqps hbufs => cases hbufs
    | done hshared hqps hbufs =>
      cases hqps with
      | done hknown hto =>
        cases hbufs with
        | done hbufsTo => exact ⟨hshared, Or.inr ⟨⟨hknown, hto⟩, hbufsTo⟩⟩
  | unknown h =>
    refine Or.inl ⟨rfl, ?_⟩
    cases h with
    | qps hshared hqps =>
      cases hqps with
      | unknown hnone hpos => exact ⟨hshared, Or.inl ⟨hpos, hnone⟩⟩
    | bufs hshared hqps hbufs => cases hbufs

/-- A creation that returns `0` releases nothing: it consists of its acquisitions. -/
theorem CreateRan.body {c' : RdmaContext} {t : List Act} (h : CreateRan config o c 0 c' t) :
    ∃ exit t', BodyRan config o c exit c' t' ∧
      t = .enter .createResources :: (t' ++ [.leave .createResources 0]) := by
  cases h with
  | made h => exact ⟨_, _, h, rfl⟩
  | unknown h => exact ⟨_, _, h, rfl⟩

/-- It returns `0` only where it succeeds. -/
theorem CreateRan.succeeds {c' : RdmaContext} {t : List Act} (h : CreateRan config o c 0 c' t) :
    CreateSucceeds config o c := by
  rcases h.ret_eq with ⟨-, hok⟩ | ⟨hret, -⟩
  · exact hok
  · exact absurd hret (by decide)

/-- It returns another value only where it fails. -/
theorem CreateRan.fails {ret : ℤ} {c' : RdmaContext} {t : List Act}
    (h : CreateRan config o c ret c' t) (hret : ret ≠ 0) : CreateFails config o c := by
  rcases h.ret_eq with ⟨h0, -⟩ | ⟨-, hfails⟩
  · exact absurd h0 hret
  · exact hfails

/-- It does not both fail and succeed. -/
theorem not_createFails_of_createSucceeds (h : CreateSucceeds config o c) :
    ¬CreateFails config o c := by
  obtain ⟨hshared, hrest⟩ := h
  rintro (hc | ⟨hknown, i, hi, hto, hfail⟩ | ⟨⟨hknown, hto⟩, i, hi, hbufs, hat, hfail⟩)
  · exact hc hshared
  · rcases hrest with ⟨hpos, hnone⟩ | ⟨⟨-, hall⟩, -⟩
    · exact hknown hnone
    · exact (hall i hi).1 hfail
  · rcases hrest with ⟨hpos, hnone⟩ | ⟨-, hall⟩
    · exact hknown hpos hnone
    · exact (hall i hi).2 hfail

/-- The context a complete creation leaves. -/
def RdmaContext.created (config : RdmaParam) (o : CreateOutcomes) (c : RdmaContext) :
    RdmaContext :=
  ((c.withShared config o).withQps o config.turns).withBufs o config.turns config.turns

/-- The calls of a complete creation. -/
def createdActs (config : RdmaParam) (o : CreateOutcomes) (c : RdmaContext) : List Act :=
  sharedActs config o c ++ (qpsActs config o (c.withShared config o) config.turns ++
    bufsActs o ((c.withShared config o).withQps o config.turns) config.turns)

/-- **A creation that returns `0` is complete**, unless it does not know the connection
type. -/
theorem CreateRan.complete {c' : RdmaContext} {t : List Act} (h : CreateRan config o c 0 c' t)
    (hknown : 0 < config.turns → qpTypeOf config.connectionType ≠ none) :
    (SharedOk config o ∧ QpsTo o c config.turns ∧ BufsTo o c config.turns) ∧
      c' = c.created config o ∧
      t = .enter .createResources :: (createdActs config o c ++ [.leave .createResources 0]) := by
  cases h with
  | made h =>
    cases h with
    | qps hshared hqps => cases hqps
    | bufs hshared hqps hbufs => cases hbufs
    | done hshared hqps hbufs =>
      cases hqps with
      | done _ hto =>
        cases hbufs with
        | done hbufsTo => exact ⟨⟨hshared, hto, hbufsTo⟩, rfl, rfl⟩
  | unknown h =>
    cases h with
    | qps hshared hqps =>
      cases hqps with
      | unknown hnone hpos => exact absurd hnone (hknown hpos)
    | bufs hshared hqps hbufs => cases hbufs

/-- A run that stops inside neither fails nor succeeds. -/
theorem BodyStuck.undecided {c' : RdmaContext} {t : List Act} (h : BodyStuck config o c c' t) :
    ¬CreateFails config o c ∧ ¬CreateSucceeds config o c := by
  cases h with
  | qps hshared hqps =>
    obtain ⟨i, hi, hknown, hto, hqp, hstuck⟩ := hqps
    have hno : ∀ n, i < n → ¬QpsTo o c n := fun n hn hc => hstuck (hc i hn).2
    refine ⟨?_, ?_⟩
    · rintro (hc | ⟨-, j, hj, hjto, hjfail⟩ | ⟨⟨-, hall⟩, -⟩)
      · exact hc hshared
      · rcases Nat.lt_trichotomy i j with hlt | rfl | hgt
        · exact hno j hlt hjto
        · exact hqp hjfail
        · exact (hto j hgt).1 hjfail
      · exact hno _ hi hall
    · rintro ⟨-, ⟨-, hnone⟩ | ⟨⟨-, hall⟩, -⟩⟩
      · exact hknown hnone
      · exact hno _ hi hall
  | bufs hshared hqps hbufs =>
    cases hqps with
    | done hknown hqpsTo =>
      obtain ⟨i, b, k, hi, hto, hstuck, -⟩ := hbufs
      have hno : ∀ n, i < n → ¬BufsTo o c n := fun n hn hc => hstuck (hc i hn).1
      refine ⟨?_, ?_⟩
      · rintro (hc | ⟨-, j, hj, hjto, hjfail⟩ | ⟨-, j, hj, hjto, hjat, hjfail⟩)
        · exact hc hshared
        · exact (hqpsTo j hj).1 hjfail
        · rcases Nat.lt_trichotomy i j with hlt | rfl | hgt
          · exact hno j hlt hjto
          · exact hstuck hjat
          · exact (hto j hgt).2 hjfail
      · rintro ⟨-, ⟨hpos, hnone⟩ | ⟨-, hall⟩⟩
        · exact hknown hpos hnone
        · exact hno _ hi hall

/-! ### What is left alone -/

theorem all_contextActs : (contextActs config o).all Act.isMaking = true := by
  rw [contextActs]
  split_ifs <;> rfl

theorem all_channelActs : (channelActs config o c).all Act.isMaking = true := by
  rw [channelActs]
  split_ifs <;> rfl

theorem all_cqsActs : (cqsActs config o c).all Act.isMaking = true := by
  rw [cqsActs]
  split_ifs <;> rfl

theorem all_srqActs : (srqActs config o c).all Act.isMaking = true := by
  rw [srqActs]
  split_ifs <;> rfl

theorem all_deviceActs : (deviceActs config o c).all Act.isMaking = true := by
  rw [deviceActs, List.all_append, all_contextActs, all_channelActs, Bool.and_self]

theorem all_queueActs : (queueActs config o c).all Act.isMaking = true := by
  rw [queueActs, List.all_append, all_deviceActs, all_cqsActs, Bool.and_self]

theorem all_sharedActs : (sharedActs config o c).all Act.isMaking = true := by
  rw [sharedActs, List.all_append, all_queueActs, all_srqActs, Bool.and_self]

theorem all_qpsActs (n : ℕ) : (qpsActs config o c n).all Act.isMaking = true := by
  rw [qpsActs]
  split
  · rfl
  · rw [List.all_map]
    exact List.all_eq_true.mpr fun _ _ => rfl

theorem all_bufsActs (n : ℕ) : (bufsActs o c n).all Act.isMaking = true := by
  rw [bufsActs, List.all_flatMap]
  exact List.all_eq_true.mpr fun _ _ => rfl

theorem all_take_bufActs (i k : ℕ) : ((bufActs o c i).take k).all Act.isMaking = true := by
  refine List.all_eq_true.mpr fun a ha => ?_
  have hmem := List.mem_of_mem_take ha
  simp only [bufActs, List.mem_cons, List.not_mem_nil, or_false] at hmem
  rcases hmem with rfl | rfl | rfl <;> rfl

/-- The fields of the context that the creation of resources leaves alone. -/
def RdmaContext.SameId (c c' : RdmaContext) : Prop :=
  c'.cmId = c.cmId ∧ c'.connected = c.connected ∧ c'.cmEventChannel = c.cmEventChannel

/-- **The acquisitions release nothing**, and they leave the connection id
and the flag alone. -/
theorem BodyRan.frame {exit : Exit} {c' : RdmaContext} {t : List Act}
    (h : BodyRan config o c exit c' t) : t.all Act.isMaking = true ∧ c.SameId c' := by
  cases h with
  | noContext => exact ⟨all_contextActs, rfl, rfl, rfl⟩
  | noChannel => exact ⟨all_deviceActs, rfl, rfl, rfl⟩
  | noCqs => exact ⟨all_queueActs, rfl, rfl, rfl⟩
  | noSrq => exact ⟨all_sharedActs, rfl, rfl, rfl⟩
  | qps hshared hqps =>
    rw [List.all_append, all_sharedActs, Bool.true_and]
    cases hqps with
    | unknown => exact ⟨rfl, rfl, rfl, rfl⟩
    | failed => exact ⟨all_qpsActs _, rfl, rfl, rfl⟩
  | bufs hshared hqps hbufs =>
    rw [List.all_append, List.all_append, all_sharedActs, Bool.true_and]
    cases hqps with
    | done =>
      cases hbufs with
      | failed => exact ⟨by rw [all_qpsActs, all_bufsActs, Bool.and_self], rfl, rfl, rfl⟩
  | done hshared hqps hbufs =>
    rw [List.all_append, List.all_append, all_sharedActs, Bool.true_and]
    cases hqps with
    | done =>
      cases hbufs with
      | done => exact ⟨by rw [all_qpsActs, all_bufsActs, Bool.and_self], rfl, rfl, rfl⟩

/-- So do acquisitions that stop. -/
theorem BodyStuck.frame {c' : RdmaContext} {t : List Act} (h : BodyStuck config o c c' t) :
    t.all Act.isMaking = true ∧ c.SameId c' := by
  cases h with
  | qps hshared hqps =>
    obtain ⟨i, -, -, -, -, -⟩ := hqps
    rw [List.all_append, all_sharedActs, all_qpsActs, Bool.and_self]
    exact ⟨rfl, rfl, rfl, rfl⟩
  | bufs hshared hqps hbufs =>
    cases hqps with
    | done =>
      obtain ⟨i, b, k, -, -, -, -⟩ := hbufs
      simp only [List.all_append, all_sharedActs, all_qpsActs, all_bufsActs, all_take_bufActs,
        Bool.and_self]
      exact ⟨trivial, rfl, rfl, rfl⟩

/-- **`fs_rdma_create_resources` leaves the connection id and the flag alone**,
whether it succeeds or cleans up, and its calls are resource calls. -/
theorem CreateRan.frame {ret : ℤ} {c' : RdmaContext} {t : List Act}
    (h : CreateRan config o c ret c' t) :
    (∃ t', t = .enter .createResources :: (t' ++ [.leave .createResources ret]) ∧
      t'.all Act.isResource = true) ∧ c.SameId c' := by
  cases h with
  | failed h =>
    obtain ⟨hall, hid, hconn, hch⟩ := h.frame
    refine ⟨⟨_, by rw [List.append_assoc], ?_⟩, ?_, ?_, ?_⟩
    · rw [List.all_append, all_isResource_of_isMaking hall, all_cleanupActs, Bool.and_self]
    · simpa only [RdmaContext.cleaned, arraysReleased_cmId] using hid
    · simpa only [RdmaContext.cleaned, arraysReleased_connected] using hconn
    · rw [← hch, RdmaContext.cleaned, RdmaContext.arraysReleased]
      split <;> rfl
  | made h | unknown h => exact ⟨⟨_, rfl, all_isResource_of_isMaking h.frame.1⟩, h.frame.2⟩

end Transport
