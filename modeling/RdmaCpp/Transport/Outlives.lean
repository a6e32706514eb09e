import RdmaCpp.Transport.References

/-!
# The buffer outlives the reads

The device writes into the buffer of `fs_rdma_do_reads` after the function has returned, so
the buffer has to be kept by a reference that outlives the call. That is the one of the
`iobref` of the post: `iobref_add` takes it, and the function gives its own back at once and
only then asks for the address.

It does not look at what `iobref_add` returns. If that fails, the reference that the function
gives back is the last one, and the address is that of a buffer that is no longer there.
That is the only way, and it always is one (`Transport.outlives_iff_added`).
-/

namespace Transport

/-! ### References on the buffer -/

/-- A reference on the buffer is taken. -/
def ReadsAct.takesBuf (b : ℕ) : ReadsAct → Bool
  | .iobufGet2 _ _ res => res == some b
  | .iobrefAdd _ b' ok => b' == b && ok
  | _ => false

/-- A reference on the buffer is given back. -/
def ReadsAct.dropsBuf (b : ℕ) : ReadsAct → Bool
  | .iobufUnref b' => b' == b
  | _ => false

/-- The references on a buffer after a history. -/
def bufRefs (b : ℕ) (h : List ReadsAct) : ℕ :=
  h.countP (ReadsAct.takesBuf b) - h.countP (ReadsAct.dropsBuf b)

/-- **The buffer is there when it is needed**: at every moment from the one at which its
address is asked for until the requests have been posted, there is a reference on it. -/
def LiveUntilPosted (b : ℕ) (t : List ReadsAct) : Prop :=
  ∀ h r, t = h ++ r →
    (∃ addr, .iobufPtr b addr ∈ h ∨ .iobufPtr b addr ∈ r.head?) →
    h.filter ReadsAct.isPosting = [] → 1 ≤ bufRefs b h

/-- **The buffer outlives its use**, in a call with this outcome. -/
structure Outlives (out : Except ReadsFault ℤ) (ctx' : PostContext) (t : List ReadsAct) :
    Prop where
  live : ∀ pool size b, .iobufGet2 pool size (some b) ∈ t → LiveUntilPosted b t
  /-- No reference is given back that has not been taken. -/
  covered : ∀ b t', t' <+: t →
    t'.countP (ReadsAct.dropsBuf b) ≤ t'.countP (ReadsAct.takesBuf b)
  /-- At the return the one of the `iobref` is left, if the buffer was added there. -/
  settled : ∀ ret, out = .ok ret → ∀ pool size b, .iobufGet2 pool size (some b) ∈ t →
    t.countP (ReadsAct.takesBuf b) = t.countP (ReadsAct.dropsBuf b) +
      if .iobrefAdd ctx'.iobref b true ∈ t then 1 else 0

/-- The call comes to `iobref_add`: there are chunks, not too many for an `int`, a buffer and
an `iobref`. -/
def ReachesAdd (o : ReadsOutcomes) (readch : ReadChunkArray) (ctx : PostContext) : Prop :=
  readch.chunks ≠ [] ∧ readch.count ≤ intMax ∧ o.iobufGet2 ≠ none ∧ heldIobref o ctx ≠ none

variable {peer : FsRdmaPeer} {post : ℕ} {o : ReadsOutcomes} {readch : ReadChunkArray}
  {ctx : PostContext}

/-! ### The shape of a call -/

/-- The calls that obtain the buffer and hand it over, before its address is asked for. -/
def handedActs (peer : FsRdmaPeer) (o : ReadsOutcomes) (readch : ReadChunkArray)
    (ctx : PostContext) (b : ℕ) : List ReadsAct :=
  .iobufGet2 peer.iobufPool (totalSize readch) (some b) :: (iobrefActs o ctx ++
    [.iobrefAdd (heldIobref o ctx) b o.iobrefAdd, .iobufUnref b])

theorem bufferActs_eq (b : ℕ) : bufferActs peer o readch ctx b =
    handedActs peer o readch ctx b ++ [.iobufPtr b o.iobufPtr] := by
  rw [bufferActs, handedActs, List.cons_append, List.append_assoc]
  rfl

/-- **What a call does to the buffer**: it does not come to `iobref_add`, and is over soon; or
it hands the buffer over, asks for its address and leaves it alone from then on. -/
inductive BufferRan (peer : FsRdmaPeer) (o : ReadsOutcomes) (readch : ReadChunkArray)
    (ctx : PostContext) : List ReadsAct → Prop
  | none (h : ¬ReachesAdd o readch ctx) : BufferRan peer o readch ctx []
  | noBuffer (h : ¬ReachesAdd o readch ctx) : BufferRan peer o readch ctx
      [.iobufGet2 peer.iobufPool (totalSize readch) .none]
  | noIobref {b : ℕ} (h : ¬ReachesAdd o readch ctx) : BufferRan peer o readch ctx
      [.iobufGet2 peer.iobufPool (totalSize readch) (some b), .iobrefNew .none, .iobufUnref b]
  | handed {b : ℕ} {t : List ReadsAct} (h : ReachesAdd o readch ctx)
      (ht : ∀ a ∈ t, a.isIobuf = false) : BufferRan peer o readch ctx
        (handedActs peer o readch ctx b ++ .iobufPtr b o.iobufPtr :: t)

theorem isIobuf_preparedActs (k : ℕ) :
    ∀ a ∈ preparedActs post o readch ctx k, a.isIobuf = false := by
  intro a ha
  rcases eq_of_mem_preparedActs ha with ⟨v, ret, rfl⟩ | rfl <;> rfl

theorem isIobuf_replicate (post k : ℕ) :
    ∀ a ∈ List.replicate k (ReadsAct.postUnref post), a.isIobuf = false := by
  intro a ha
  rw [List.eq_of_mem_replicate ha]
  rfl

theorem isIobuf_callocActs : ∀ a ∈ callocActs readch, a.isIobuf = false := by
  intro a ha
  simp only [callocActs, List.mem_cons, List.not_mem_nil, or_false] at ha
  rcases ha with rfl | rfl <;> rfl

theorem isIobuf_freeActs : ∀ a ∈ freeActs, a.isIobuf = false := by
  intro a ha
  simp only [freeActs, List.mem_cons, List.not_mem_nil, or_false] at ha
  rcases ha with rfl | rfl <;> rfl

/-- From the arrays on the buffer is left alone. -/
theorem ArraysRan.isIobuf {ret : ℤ} {c' : PostContext} {t : List ReadsAct}
    (h : ArraysRan peer post o readch ctx ret c' t) :
    (∀ a ∈ t, a.isIobuf = false) ∧ c'.iobref = heldIobref o ctx := by
  cases h with
  | unconnected => exact ⟨fun a ha => absurd ha List.not_mem_nil, rfl⟩
  | noList =>
    refine ⟨fun a ha => ?_, rfl⟩
    rw [List.mem_singleton.mp ha]
    rfl
  | noWr =>
    refine ⟨fun a ha => ?_, rfl⟩
    simp only [List.mem_cons, List.not_mem_nil, or_false] at ha
    rcases ha with rfl | rfl | rfl <;> rfl
  | @unregistered k c' hk hret hiobref =>
    have hout := List.forall_mem_append.mpr ⟨isIobuf_freeActs, isIobuf_replicate post k⟩
    exact ⟨List.forall_mem_append.mpr ⟨isIobuf_callocActs, List.forall_mem_append.mpr
      ⟨isIobuf_preparedActs k, List.forall_mem_cons.mpr ⟨rfl, hout⟩⟩⟩, hiobref⟩
  | accepted h hret =>
    rw [h.trace]
    exact ⟨List.forall_mem_append.mpr ⟨isIobuf_callocActs, List.forall_mem_append.mpr
      ⟨isIobuf_preparedActs _, List.forall_mem_cons.mpr ⟨rfl, isIobuf_freeActs⟩⟩⟩, h.iobref⟩
  | rejected h hret =>
    have hout := List.forall_mem_append.mpr
      ⟨isIobuf_freeActs, isIobuf_replicate post (givenBack o readch)⟩
    rw [h.trace]
    exact ⟨List.forall_mem_append.mpr ⟨isIobuf_callocActs, List.forall_mem_append.mpr
      ⟨isIobuf_preparedActs _, List.forall_mem_cons.mpr ⟨rfl, hout⟩⟩⟩, h.iobref⟩

/-- **Every call has that shape**, and one that returns and has handed the buffer over leaves
the `iobref` in the post. -/
theorem post_bufferRan : Traced.Post (fsRdmaDoReads peer post o readch.cells) ctx
    (fun _ c' t => BufferRan peer o readch ctx t ∧
      (ReachesAdd o readch ctx → c'.iobref = heldIobref o ctx))
    (fun _ _ t => BufferRan peer o readch ctx t) := by
  refine (post_fsRdmaDoReads peer post o readch ctx).mono ?_ ?_
  · intro ret c' t hran
    cases hran with
    | empty hnil =>
      have hno : ¬ReachesAdd o readch ctx := fun h => h.1 hnil
      exact ⟨BufferRan.none hno, fun h => absurd h hno⟩
    | noBuffer hne hnone =>
      have hno : ¬ReachesAdd o readch ctx := fun h => h.2.2.1 hnone
      exact ⟨BufferRan.noBuffer hno, fun h => absurd h hno⟩
    | noIobref hne hget hnone =>
      have hno : ¬ReachesAdd o readch ctx := fun h => h.2.2.2 hnone
      exact ⟨BufferRan.noIobref hno, fun h => absurd h hno⟩
    | @held b ret c' t hne hn hget hsome hran =>
      have hreach : ReachesAdd o readch ctx := by
        refine ⟨hne, hn, ?_, hsome⟩
        rw [hget]
        exact Option.some_ne_none b
      rw [bufferActs_eq, List.append_assoc]
      exact ⟨BufferRan.handed hreach hran.isIobuf.1, fun _ => hran.isIobuf.2⟩
  · intro e c' t hstuck
    cases hstuck with
    | counting hmax => exact BufferRan.none fun h => absurd h.2.1 (Nat.not_le_of_lt hmax)
    | @preparing b k t hne hn hget hsome hk hprefix =>
      have hreach : ReachesAdd o readch ctx := by
        refine ⟨hne, hn, ?_, hsome⟩
        rw [hget]
        exact Option.some_ne_none b
      have hlast : ∀ a ∈ t, a.isIobuf = false := by
        intro a ha
        have hmem := hprefix.subset ha
        simp only [prepareActs, List.mem_cons, List.not_mem_nil, or_false] at hmem
        rcases hmem with rfl | rfl <;> rfl
      rw [bufferActs_eq, List.append_assoc, List.singleton_append]
      exact BufferRan.handed hreach (List.forall_mem_append.mpr ⟨isIobuf_callocActs,
        List.forall_mem_append.mpr ⟨isIobuf_preparedActs k, hlast⟩⟩)

/-! ### The references of a call -/

/-- The counter of the references on a buffer. -/
def bufCounter (b : ℕ) : Monitor ℕ ReadsAct :=
  Monitor.counter (ReadsAct.takesBuf b) (ReadsAct.dropsBuf b)

/-- While no more is given back than taken, the counter shows the references. -/
theorem bufRefs_eq {b n : ℕ} {h : List ReadsAct} (hleads : (bufCounter b).Leads 0 h n) :
    bufRefs b h = n := by
  obtain ⟨hacc, hafter⟩ := hleads
  have hcount := Monitor.counter_after hacc
  change (bufCounter b).after 0 h + _ = _ at hcount
  rw [bufRefs]
  omega

theorem bufCounter_of_isIobuf {b n : ℕ} {t : List ReadsAct} (h : ∀ a ∈ t, a.isIobuf = false) :
    (bufCounter b).Leads n t n := by
  refine Monitor.counter_neutral fun a ha => ?_
  have hno := h a ha
  cases a with
  | iobufGet2 | iobrefAdd | iobufUnref => cases hno
  | _ => exact ⟨rfl, rfl⟩

/-- **Handing the buffer over**: what is left is the reference of the `iobref`, if there is
one. -/
theorem bufCounter_handedActs (b : ℕ) :
    (bufCounter b).Leads 0 (handedActs peer o readch ctx b) o.iobrefAdd.toNat := by
  have hget : (bufCounter b).Leads 0
      [.iobufGet2 peer.iobufPool (totalSize readch) (some b)] 1 :=
    Monitor.counter_up (beq_self_eq_true (some b)) rfl
  have hnew : (bufCounter b).Leads 1 (iobrefActs o ctx) 1 := by
    refine Monitor.counter_neutral fun a ha => ?_
    rw [iobrefActs] at ha
    split at ha
    · rw [List.mem_singleton.mp ha]
      exact ⟨rfl, rfl⟩
    · exact absurd ha List.not_mem_nil
  have hadd : (bufCounter b).Leads 1 [.iobrefAdd (heldIobref o ctx) b o.iobrefAdd]
      (1 + o.iobrefAdd.toNat) := by
    have hup : (ReadsAct.iobrefAdd (heldIobref o ctx) b o.iobrefAdd).takesBuf b = o.iobrefAdd := by
      rw [ReadsAct.takesBuf, beq_self_eq_true, Bool.true_and]
    have hone : (bufCounter b).Leads 1 [.iobrefAdd (heldIobref o ctx) b o.iobrefAdd]
        (1 + ((ReadsAct.iobrefAdd (heldIobref o ctx) b o.iobrefAdd).takesBuf b).toNat) :=
      Monitor.counter_single fun hc => Bool.noConfusion hc
    rwa [hup] at hone
  have hback : (bufCounter b).Leads (1 + o.iobrefAdd.toNat) [.iobufUnref b]
      o.iobrefAdd.toNat := by
    have hone : (bufCounter b).Leads (1 + o.iobrefAdd.toNat) (List.replicate 1 (.iobufUnref b))
        (1 + o.iobrefAdd.toNat - 1) :=
      Monitor.counter_replicate rfl (beq_self_eq_true b) (Nat.le_add_right 1 _)
    rwa [Nat.add_sub_cancel_left] at hone
  exact hget.append (hnew.append (hadd.append hback))

/-- The references on other buffers are left alone. -/
theorem bufCounter_of_ne {b b' : ℕ} (h : b' ≠ b) :
    (bufCounter b').Leads 0 (handedActs peer o readch ctx b) 0 := by
  have hne : (b == b') = false := beq_eq_false_iff_ne.mpr (Ne.symm h)
  refine Monitor.counter_neutral fun a ha => ?_
  rw [handedActs, iobrefActs] at ha
  split at ha <;> simp only [List.mem_cons, List.mem_append, List.not_mem_nil, or_false,
    false_or] at ha
  · rcases ha with rfl | rfl | rfl | rfl
    · exact ⟨hne, rfl⟩
    · exact ⟨rfl, rfl⟩
    · refine ⟨?_, rfl⟩
      rw [ReadsAct.takesBuf, hne, Bool.false_and]
    · exact ⟨rfl, hne⟩
  · rcases ha with rfl | rfl | rfl
    · exact ⟨hne, rfl⟩
    · refine ⟨?_, rfl⟩
      rw [ReadsAct.takesBuf, hne, Bool.false_and]
    · exact ⟨rfl, hne⟩

/-- Asking for the address, and what follows, changes nothing. -/
theorem bufCounter_ptr {b n addr : ℕ} {t : List ReadsAct} (b' : ℕ)
    (h : ∀ a ∈ t, a.isIobuf = false) : (bufCounter b).Leads n (.iobufPtr b' addr :: t) n := by
  have hptr : (bufCounter b).Leads n [.iobufPtr b' addr] n := by
    refine Monitor.counter_neutral fun a ha => ?_
    rw [List.mem_singleton.mp ha]
    exact ⟨rfl, rfl⟩
  exact hptr.append (bufCounter_of_isIobuf h)

/-- **At no moment of a call more is given back than taken.** -/
theorem BufferRan.leads {t : List ReadsAct} (h : BufferRan peer o readch ctx t) (b : ℕ) :
    ∃ n, (bufCounter b).Leads 0 t n := by
  cases h with
  | none => exact ⟨0, Monitor.leads_nil _ 0⟩
  | noBuffer =>
    refine ⟨0, Monitor.counter_neutral fun a ha => ?_⟩
    rw [List.mem_singleton.mp ha]
    exact ⟨rfl, rfl⟩
  | @noIobref b' =>
    refine ⟨_, ⟨fun hc => Bool.noConfusion hc, fun hc => Bool.noConfusion hc, fun hc => ?_,
      trivial⟩, rfl⟩
    -- what is given back is what has been obtained
    obtain rfl : b' = b := eq_of_beq hc
    change 0 < 0 + (some b' == some b').toNat - 0 + 0 - 0 + 0
    rw [beq_self_eq_true]
    decide
  | @handed b' t hreach ht =>
    by_cases heq : b' = b
    · subst heq
      exact ⟨_, (bufCounter_handedActs b').append (bufCounter_ptr b' ht)⟩
    · exact ⟨_, (bufCounter_of_ne (Ne.symm heq)).append (bufCounter_ptr b' ht)⟩

/-- The buffer that a call has obtained. -/
theorem eq_of_mem_handed {b b' pool : ℕ} {size : UInt64} {addr : ℕ} {t : List ReadsAct}
    (ht : ∀ a ∈ t, a.isIobuf = false) (h : .iobufGet2 pool size (some b') ∈
      handedActs peer o readch ctx b ++ .iobufPtr b addr :: t) : b' = b := by
  rcases List.mem_append.mp h with h | h
  · rw [handedActs, iobrefActs] at h
    split at h <;> simp only [List.mem_cons, List.mem_append, List.not_mem_nil, or_false,
      ReadsAct.iobufGet2.injEq, Option.some.injEq, reduceCtorEq] at h
    · exact h.2.2
    · exact h.2.2
  · rcases List.mem_cons.mp h with h | h
    · cases h
    · cases ht _ h

/-- Until the buffer is handed over its address is not asked for. -/
theorem iobufPtr_not_mem_handedActs (b b' addr : ℕ) :
    .iobufPtr b' addr ∉ handedActs peer o readch ctx b := by
  intro h
  rw [handedActs, iobrefActs] at h
  split at h <;> simp only [List.mem_cons, List.mem_append, List.not_mem_nil, or_false,
    reduceCtorEq] at h

theorem filter_handedActs (b : ℕ) :
    (handedActs peer o readch ctx b).filter ReadsAct.isPosting = [] := by
  have hall : (bufferActs peer o readch ctx b).filter ReadsAct.isPosting = [] :=
    filter_bufferActs b
  rw [bufferActs_eq, List.filter_append] at hall
  exact (List.append_eq_nil_iff.mp hall).1

/-- **Once it is handed over the references stay as they are.** -/
theorem liveUntilPosted_handed {b addr : ℕ} {t : List ReadsAct}
    (ht : ∀ a ∈ t, a.isIobuf = false) :
    LiveUntilPosted b (handedActs peer o readch ctx b ++ .iobufPtr b addr :: t) ↔
      o.iobrefAdd = true := by
  have hhanded : (bufCounter b).Leads 0 (handedActs peer o readch ctx b) o.iobrefAdd.toNat :=
    bufCounter_handedActs b
  constructor
  · intro h
    have hone := h (handedActs peer o readch ctx b) _ rfl ⟨addr, Or.inr rfl⟩ (filter_handedActs b)
    rw [bufRefs_eq hhanded] at hone
    cases hadd : o.iobrefAdd with
    | true => rfl
    | false =>
      rw [hadd] at hone
      exact absurd hone (Nat.not_succ_le_zero 0)
  · intro hadd h r hcut hptr hposted
    rw [hadd] at hhanded
    rcases List.append_eq_append_iff.mp hcut with ⟨as, rfl, hr⟩ | ⟨bs, hh, rfl⟩
    · -- the buffer has been handed over
      have hrest : (bufCounter b).Leads 1 as 1 := by
        cases as with
        | nil => exact Monitor.leads_nil _ 1
        | cons x as =>
          obtain ⟨rfl, rfl⟩ := List.cons.inj hr
          exact bufCounter_ptr b fun a ha => ht a (List.mem_append_left _ ha)
      exact (bufRefs_eq (hhanded.append hrest)).ge
    · cases bs with
      | nil =>
        rw [List.append_nil] at hh
        rw [← hh]
        exact (bufRefs_eq hhanded).ge
      | cons x bs =>
        -- its address has not been asked for, and is not asked for next
        have hno : ∀ addr', .iobufPtr b addr' ∉ h ++ x :: bs := by
          intro addr'
          rw [← hh]
          exact iobufPtr_not_mem_handedActs b b addr'
        obtain ⟨addr', hmem | hhead⟩ := hptr
        · exact absurd (List.mem_append_left _ hmem) (hno addr')
        · obtain rfl : x = .iobufPtr b addr' := Option.some.inj hhead
          exact absurd (List.mem_append_right _ List.mem_cons_self) (hno addr')

/-- A call that does not come to `iobref_add` never asks for an address. -/
theorem liveUntilPosted_of_not_mem {b : ℕ} {t : List ReadsAct}
    (h : ∀ addr, .iobufPtr b addr ∉ t) : LiveUntilPosted b t := by
  rintro u r rfl ⟨addr, hmem | hhead⟩ -
  · exact absurd (List.mem_append_left _ hmem) (h addr)
  · exact absurd (List.mem_append_right _ (List.mem_of_head? hhead)) (h addr)

/-! ### The whole call -/

/-- **The buffer outlives its use** exactly when `iobref_add` succeeds, if the call comes to
it. -/
theorem outlives_iff_added {out : Except ReadsFault ℤ} {ctx' : PostContext} {t : List ReadsAct}
    (h : fsRdmaDoReads peer post o readch.cells ctx = ⟨out, ctx', t⟩) :
    Outlives out ctx' t ↔ (ReachesAdd o readch ctx → o.iobrefAdd = true) := by
  have hshape : BufferRan peer o readch ctx t ∧ ∀ ret, out = .ok ret →
      ReachesAdd o readch ctx → ctx'.iobref = heldIobref o ctx := by
    cases out with
    | ok ret =>
      obtain ⟨hran, href⟩ := post_bufferRan.of_ok h
      exact ⟨hran, fun _ _ => href⟩
    | error e =>
      refine ⟨post_bufferRan.of_error h, fun ret hc => ?_⟩
      cases hc
  obtain ⟨hran, href⟩ := hshape
  -- no reference is dropped that has not been taken
  have hcovered : ∀ b t', t' <+: t →
      t'.countP (ReadsAct.dropsBuf b) ≤ t'.countP (ReadsAct.takesBuf b) := by
    intro b t' ht'
    obtain ⟨n, hacc, -⟩ := hran.leads b
    have hprefix := Monitor.counter_prefix hacc ht'
    omega
  refine ⟨fun houtlives hreach => ?_, fun hadd => ⟨fun pool size b hmem => ?_, hcovered,
    fun ret hret pool size b hmem => ?_⟩⟩
  · cases hran with
    | none hno | noBuffer hno | noIobref hno => exact absurd hreach hno
    | handed _ ht =>
      refine (liveUntilPosted_handed ht).mp (houtlives.live peer.iobufPool (totalSize readch) _ ?_)
      exact List.mem_append_left _ List.mem_cons_self
  · cases hran with
    | none => exact absurd hmem List.not_mem_nil
    | noBuffer => cases List.mem_singleton.mp hmem
    | noIobref =>
      refine liveUntilPosted_of_not_mem fun addr hptr => ?_
      simp only [List.mem_cons, List.not_mem_nil, or_false, reduceCtorEq] at hptr
    | handed hreach ht =>
      rw [eq_of_mem_handed ht hmem]
      exact (liveUntilPosted_handed ht).mpr (hadd hreach)
  · cases hran with
    | none => exact absurd hmem List.not_mem_nil
    | noBuffer => cases List.mem_singleton.mp hmem
    | @noIobref b' =>
      simp only [List.mem_cons, List.not_mem_nil, or_false, reduceCtorEq,
        ReadsAct.iobufGet2.injEq, Option.some.injEq] at hmem
      obtain ⟨-, -, rfl⟩ := hmem
      simp [ReadsAct.takesBuf, ReadsAct.dropsBuf]
    | @handed b' t' hreach ht =>
      obtain rfl := eq_of_mem_handed ht hmem
      have hptr : (bufCounter b).Leads o.iobrefAdd.toNat (.iobufPtr b o.iobufPtr :: t')
          o.iobrefAdd.toNat := bufCounter_ptr b ht
      obtain ⟨hacc, hafter⟩ := (bufCounter_handedActs b).append hptr
      -- the reference that the caller is handed is the one that was added
      have hadded : .iobrefAdd ctx'.iobref b true ∈
          handedActs peer o readch ctx b ++ .iobufPtr b o.iobufPtr :: t' := by
        rw [href ret hret hreach]
        refine List.mem_append_left _ (List.mem_cons_of_mem _ (List.mem_append_right _ ?_))
        rw [hadd hreach]
        exact List.mem_cons_self
      have hcount := Monitor.counter_after hacc
      change (bufCounter b).after 0 _ + _ = _ at hcount
      rw [hafter, hadd hreach, Nat.zero_add] at hcount
      rw [if_pos hadded, ← hcount, Nat.add_comm]
      rfl

/-- At the sample call. -/
theorem outlives_sample : ∃ ctx' t,
    fsRdmaDoReads Sample.peer 9 Sample.reads Sample.readch.cells Sample.postContext =
      ⟨.ok 0, ctx', t⟩ ∧ (Outlives (.ok 0) ctx' t ↔
        (ReachesAdd Sample.reads Sample.readch Sample.postContext →
          Sample.reads.iobrefAdd = true)) := by
  have hrun : fsRdmaDoReads Sample.peer 9 Sample.reads Sample.readch.cells Sample.postContext =
      ⟨.ok 0, _, _⟩ := rfl
  exact ⟨_, _, hrun, outlives_iff_added hrun⟩

/-- **A buffer that is gone**: `iobref_add` fails, and the device is told to write where the
buffer was. -/
theorem not_outlives_of_unadded : ∃ ctx' t,
    fsRdmaDoReads Sample.peer 9 { Sample.reads with iobrefAdd := false } Sample.readch.cells
      Sample.postContext = ⟨.ok 0, ctx', t⟩ ∧ ¬Outlives (.ok 0) ctx' t := by
  have hrun : fsRdmaDoReads Sample.peer 9 { Sample.reads with iobrefAdd := false }
      Sample.readch.cells Sample.postContext = ⟨.ok 0, _, _⟩ := rfl
  refine ⟨_, _, hrun, fun houtlives => ?_⟩
  have hlive := houtlives.live 4 5 10 List.mem_cons_self
  have hone := hlive ([.iobufGet2 4 5 (some 10), .iobrefNew (some 11),
    .iobrefAdd (some 11) 10 false, .iobufUnref 10]) _ rfl ⟨1000, Or.inr rfl⟩ rfl
  exact absurd hone (by decide)

end Transport
