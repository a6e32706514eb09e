import RdmaCpp.Lib.Monitor
import RdmaCpp.Transport.Scattered

/-!
# References on the post

`fs_rdma_do_reads` takes a reference on the post for each request it prepares, because the
request carries the post as its `wr_id` until it completes. When the chain, or a part of it,
is not accepted by the device, the completions of the other requests will never come, and
their references must be given back.

So the books are right when, at the end, as many references are held as requests were
accepted, and at no moment more have been given back than taken. The same goes for the two
arrays, which are freed exactly when they have been allocated
(`Transport.accounted_of_returns`). What is posted is known as well: one chain of a request
for each chunk, each with the post as its `wr_id`, exactly when no call before it has failed.
-/

namespace Transport

/-! ### Counting -/

/-- A reference on the post is taken. -/
def ReadsAct.takesPost (post : ℕ) : ReadsAct → Bool
  | .postRef p => p == post
  | _ => false

/-- A reference on the post is given back. -/
def ReadsAct.dropsPost (post : ℕ) : ReadsAct → Bool
  | .postUnref p => p == post
  | _ => false

/-- An array is allocated. -/
def ReadsAct.allocates (array : ReadsArray) : ReadsAct → Bool
  | .calloc a _ ok => a == array && ok
  | _ => false

/-- An array is freed. -/
def ReadsAct.frees (array : ReadsArray) : ReadsAct → Bool
  | .free a => a == array
  | _ => false

/-- How many requests the device accepts: all of them, or those before the one that fails, or
none when none is named. -/
def ReadsAct.accepted : ReadsAct → ℕ
  | .ibvPostSend _ wr _ ret badWr => if ret = 0 then wr.length else badWr.getD 0
  | _ => 0

/-- How many requests the device has accepted in a call. -/
def acceptedBy (t : List ReadsAct) : ℕ := (t.map ReadsAct.accepted).sum

/-- **A call before the posting fails.** The result of `iobref_add` is not looked at. -/
def ReadsAct.fails : ReadsAct → Bool
  | .iobufGet2 _ _ res | .iobrefNew res => res.isNone
  | .calloc _ _ ok => !ok
  | .registerLocalMr _ ret => ret == -1
  | _ => false

/-- **The books of a call are right.** -/
structure Accounted (peer : FsRdmaPeer) (post : ℕ) (readch : ReadChunkArray) (ret : ℤ)
    (t : List ReadsAct) : Prop where
  /-- A chain is posted exactly when there are chunks, the peer is connected and no call has
  failed; and no second one. -/
  posted : t.filter ReadsAct.isPosting ≠ [] ↔
    1 ≤ readch.count ∧ peer.connected ≠ 0 ∧ ∀ a ∈ t, a.fails = false
  single : (t.filter ReadsAct.isPosting).length ≤ 1
  /-- It is all of the array, followed through `next` from the first request on: one request for
  each chunk, which carries the post. -/
  chain : ∀ a ∈ t, a.isPosting = true → ∃ wr list ret' badWr,
    a = .ibvPostSend peer.qp wr list ret' badWr ∧ Follows wr (some 0) wr ∧
      wr.length = readch.count ∧ ∀ w ∈ wr, w.wrId = post
  /-- One reference is kept for each request accepted. -/
  kept : t.countP (ReadsAct.takesPost post) =
    t.countP (ReadsAct.dropsPost post) + acceptedBy t
  /-- No reference is given back that has not been taken. -/
  covered : ∀ t', t' <+: t →
    t'.countP (ReadsAct.dropsPost post) ≤ t'.countP (ReadsAct.takesPost post)
  /-- An array is allocated once at most. -/
  once : ∀ array, t.countP (ReadsAct.allocates array) ≤ 1
  /-- It is freed as often, and never before. -/
  freed : ∀ array, t.countP (ReadsAct.frees array) = t.countP (ReadsAct.allocates array)
  freedAfter : ∀ array t', t' <+: t →
    t'.countP (ReadsAct.frees array) ≤ t'.countP (ReadsAct.allocates array)
  /-- The result says whether all requests were accepted. -/
  result : (ret = 0 ∧ 1 ≤ readch.count ∧ acceptedBy t = readch.count) ∨
    ret = -1 ∧ ¬(1 ≤ readch.count ∧ acceptedBy t = readch.count)

/-- The counter of the references on the post. -/
def postCounter (post : ℕ) : Monitor ℕ ReadsAct :=
  Monitor.counter (ReadsAct.takesPost post) (ReadsAct.dropsPost post)

/-- The counter of the blocks allocated for an array. -/
def arrayCounter (array : ReadsArray) : Monitor ℕ ReadsAct :=
  Monitor.counter (ReadsAct.allocates array) (ReadsAct.frees array)

variable {peer : FsRdmaPeer} {post : ℕ} {o : ReadsOutcomes} {readch : ReadChunkArray}
  {ctx : PostContext} {n : ℕ}

/-! ### The calls about the buffer -/

/-- The calls about the buffer and its `iobref`. -/
def ReadsAct.isIobuf : ReadsAct → Bool
  | .iobufGet2 .. | .iobrefNew _ | .iobrefAdd .. | .iobufUnref _ | .iobufPtr .. => true
  | _ => false

theorem isIobuf_bufferActs (b : ℕ) :
    ∀ a ∈ bufferActs peer o readch ctx b, a.isIobuf = true := by
  intro a ha
  rw [bufferActs, iobrefActs] at ha
  split at ha <;> simp only [List.mem_cons, List.mem_append, List.not_mem_nil, or_false,
    false_or] at ha
  · rcases ha with rfl | rfl | rfl | rfl | rfl <;> rfl
  · rcases ha with rfl | rfl | rfl | rfl <;> rfl

/-- **A call ends among the calls about the buffer, or goes on to the arrays.** -/
theorem ReadsRan.cases_arrays {ret : ℤ} {c' : PostContext} {t : List ReadsAct}
    (h : ReadsRan peer post o readch ctx ret c' t) :
    ret = -1 ∧ (∀ a ∈ t, a.isIobuf = true) ∨
      ∃ t₁ t₂, t = t₁ ++ t₂ ∧ (∀ a ∈ t₁, a.isIobuf = true) ∧ 0 < readch.count ∧
        ArraysRan peer post o readch ctx ret c' t₂ := by
  cases h with
  | empty => exact Or.inl ⟨rfl, fun a ha => absurd ha List.not_mem_nil⟩
  | noBuffer =>
    refine Or.inl ⟨rfl, fun a ha => ?_⟩
    rw [List.mem_singleton.mp ha]
    rfl
  | noIobref =>
    refine Or.inl ⟨rfl, fun a ha => ?_⟩
    simp only [List.mem_cons, List.not_mem_nil, or_false] at ha
    rcases ha with rfl | rfl | rfl <;> rfl
  | held hne hn hget hsome hran =>
    exact Or.inr ⟨_, _, rfl, isIobuf_bufferActs _, List.length_pos_iff.mpr hne, hran⟩

/-! ### References on the post -/

theorem postCounter_neutral {t : List ReadsAct}
    (h : ∀ a ∈ t, a.takesPost post = false ∧ a.dropsPost post = false) :
    (postCounter post).Leads n t n := Monitor.counter_neutral h

theorem postCounter_of_isIobuf {t : List ReadsAct} (h : ∀ a ∈ t, a.isIobuf = true) :
    (postCounter post).Leads n t n := by
  refine postCounter_neutral fun a ha => ?_
  have hbuf := h a ha
  cases a with
  | postRef | postUnref => cases hbuf
  | _ => exact ⟨rfl, rfl⟩

theorem postCounter_callocActs : (postCounter post).Leads n (callocActs readch) n := by
  refine postCounter_neutral fun a ha => ?_
  simp only [callocActs, List.mem_cons, List.not_mem_nil, or_false] at ha
  rcases ha with rfl | rfl <;> exact ⟨rfl, rfl⟩

theorem postCounter_freeActs : (postCounter post).Leads n freeActs n := by
  refine postCounter_neutral fun a ha => ?_
  simp only [freeActs, List.mem_cons, List.not_mem_nil, or_false] at ha
  rcases ha with rfl | rfl <;> exact ⟨rfl, rfl⟩

theorem takesPost_self (post : ℕ) : (ReadsAct.postRef post).takesPost post = true :=
  beq_self_eq_true post

theorem dropsPost_self (post : ℕ) : (ReadsAct.postUnref post).dropsPost post = true :=
  beq_self_eq_true post

/-- Each turn of the loop takes one. -/
theorem postCounter_preparedActs (k : ℕ) :
    (postCounter post).Leads 0 (preparedActs post o readch ctx k) k := by
  induction k with
  | zero => exact Monitor.leads_nil _ 0
  | succ k ih =>
    rw [preparedActs_succ]
    refine ih.append ?_
    have hregister : (postCounter post).Leads k
        [.registerLocalMr (piece o readch k) (registerRet o readch ctx k)] k := by
      refine postCounter_neutral fun a ha => ?_
      rw [List.mem_singleton.mp ha]
      exact ⟨rfl, rfl⟩
    exact hregister.append (Monitor.counter_up (takesPost_self post) rfl)

/-- The references that are given back. -/
theorem postCounter_replicate {k : ℕ} (hk : k ≤ n) :
    (postCounter post).Leads n (List.replicate k (.postUnref post)) (n - k) :=
  Monitor.counter_replicate rfl (dropsPost_self post) hk

/-! ### Requests accepted -/

theorem acceptedBy_append (t t' : List ReadsAct) :
    acceptedBy (t ++ t') = acceptedBy t + acceptedBy t' := by
  rw [acceptedBy, List.map_append, List.sum_append]
  rfl

theorem acceptedBy_cons (a : ReadsAct) (t : List ReadsAct) :
    acceptedBy (a :: t) = a.accepted + acceptedBy t := rfl

/-- Without a chain that is posted nothing is accepted. -/
theorem acceptedBy_eq_zero {t : List ReadsAct} (h : t.filter ReadsAct.isPosting = []) :
    acceptedBy t = 0 := by
  induction t with
  | nil => rfl
  | cons a t ih =>
    have hall := List.filter_eq_nil_iff.mp h
    have hzero : a.accepted = 0 := by
      cases a with
      | ibvPostSend => exact absurd rfl (hall _ List.mem_cons_self)
      | _ => rfl
    rw [acceptedBy_cons, hzero, Nat.zero_add]
    exact ih (List.filter_eq_nil_iff.mpr fun b hb => hall b (List.mem_cons_of_mem a hb))

theorem acceptedBy_of_isIobuf {t : List ReadsAct} (h : ∀ a ∈ t, a.isIobuf = true) :
    acceptedBy t = 0 := by
  refine acceptedBy_eq_zero (List.filter_eq_nil_iff.mpr fun a ha hc => ?_)
  have hbuf := h a ha
  cases a with
  | ibvPostSend => cases hbuf
  | _ => cases hc

/-- How many requests of the chain are accepted. -/
theorem accepted_postAct : (postAct peer post o readch ctx).accepted =
    if o.ibvPostSend = 0 then readch.count else o.badWr.getD 0 := by
  rw [postAct, ReadsAct.accepted, length_postedWr]

/-- What is accepted in a call that posts the chain. -/
theorem acceptedBy_posted {t : List ReadsAct} (ht : t.filter ReadsAct.isPosting = []) :
    acceptedBy (callocActs readch ++ (preparedActs post o readch ctx readch.count ++
      (postAct peer post o readch ctx :: t))) =
        if o.ibvPostSend = 0 then readch.count else o.badWr.getD 0 := by
  have hcalloc : acceptedBy (callocActs readch) = 0 := rfl
  rw [acceptedBy_append, acceptedBy_append, acceptedBy_cons, hcalloc,
    acceptedBy_eq_zero (filter_preparedActs _), acceptedBy_eq_zero ht, accepted_postAct,
    Nat.zero_add, Nat.zero_add, Nat.add_zero]

/-- The calls under the label post nothing. -/
theorem filter_out (k : ℕ) :
    (freeActs ++ List.replicate k (ReadsAct.postUnref post)).filter ReadsAct.isPosting = [] := by
  rw [List.filter_append, filter_replicate]
  rfl

/-- What is accepted in a call that fails at a registration. -/
theorem acceptedBy_unregistered (k : ℕ) : acceptedBy (callocActs readch ++
    (preparedActs post o readch ctx k ++ (.registerLocalMr (piece o readch k) (-1) ::
      (freeActs ++ List.replicate k (.postUnref post))))) = 0 := by
  refine acceptedBy_eq_zero ?_
  rw [List.filter_append, List.filter_append, filter_preparedActs,
    List.filter_cons_of_neg Bool.false_ne_true, filter_out]
  rfl

/-! ### The call -/

/-- **The references of a call** that goes on to the arrays: one is kept for each request
accepted. -/
theorem ArraysRan.leads_post (hbad : ∀ k, o.badWr = some k → k < readch.count) {ret : ℤ}
    {c' : PostContext} {t : List ReadsAct} (h : ArraysRan peer post o readch ctx ret c' t) :
    (postCounter post).Leads 0 t (acceptedBy t) := by
  have hpost : (postCounter post).Leads readch.count [postAct peer post o readch ctx]
      readch.count := by
    refine postCounter_neutral fun a ha => ?_
    rw [List.mem_singleton.mp ha]
    exact ⟨rfl, rfl⟩
  cases h with
  | unconnected => exact Monitor.leads_nil _ 0
  | noList | noWr =>
    refine postCounter_neutral fun a ha => ?_
    simp only [List.mem_cons, List.not_mem_nil, or_false] at ha
    rcases ha with rfl | rfl | rfl <;> exact ⟨rfl, rfl⟩
  | @unregistered k c' hk hret hiobref =>
    have hregister : (postCounter post).Leads k [.registerLocalMr (piece o readch k) (-1)] k := by
      refine postCounter_neutral fun a ha => ?_
      rw [List.mem_singleton.mp ha]
      exact ⟨rfl, rfl⟩
    have hback : (postCounter post).Leads k (List.replicate k (.postUnref post)) (k - k) :=
      postCounter_replicate (Nat.le_refl k)
    rw [Nat.sub_self] at hback
    rw [acceptedBy_unregistered]
    exact postCounter_callocActs.append ((postCounter_preparedActs k).append
      (hregister.append (postCounter_freeActs.append hback)))
  | accepted h hret =>
    have hfree : freeActs.filter ReadsAct.isPosting = [] := rfl
    rw [h.trace, acceptedBy_posted hfree, if_pos hret]
    exact postCounter_callocActs.append ((postCounter_preparedActs _).append
      (hpost.append postCounter_freeActs))
  | rejected h hret =>
    -- the references that stay are those of the requests before the one that fails
    have hkept : readch.count - givenBack o readch = o.badWr.getD 0 := by
      rw [givenBack]
      rcases hk : o.badWr with _ | k
      · exact Nat.sub_self _
      · have hlt := hbad k hk
        rw [Option.getD_some]
        simp only
        omega
    have hle : givenBack o readch ≤ readch.count := by
      rw [givenBack]
      split
      · exact Nat.le_refl _
      · exact Nat.sub_le _ _
    have hback : (postCounter post).Leads readch.count
        (List.replicate (givenBack o readch) (.postUnref post))
        (readch.count - givenBack o readch) := postCounter_replicate hle
    rw [hkept] at hback
    rw [h.trace, acceptedBy_posted (filter_out _), if_neg hret]
    exact postCounter_callocActs.append ((postCounter_preparedActs _).append
      (hpost.append (postCounter_freeActs.append hback)))

/-- **What the result says.** -/
theorem ArraysRan.result (hbad : ∀ k, o.badWr = some k → k < readch.count)
    (hpos : 0 < readch.count) {ret : ℤ} {c' : PostContext} {t : List ReadsAct}
    (h : ArraysRan peer post o readch ctx ret c' t) :
    ret = 0 ∧ acceptedBy t = readch.count ∨ ret = -1 ∧ acceptedBy t < readch.count := by
  cases h with
  | unconnected | noList | noWr => exact Or.inr ⟨rfl, hpos⟩
  | unregistered =>
    rw [acceptedBy_unregistered]
    exact Or.inr ⟨rfl, hpos⟩
  | accepted h hret =>
    have hfree : freeActs.filter ReadsAct.isPosting = [] := rfl
    rw [h.trace, acceptedBy_posted hfree, if_pos hret]
    exact Or.inl ⟨rfl, rfl⟩
  | rejected h hret =>
    rw [h.trace, acceptedBy_posted (filter_out _), if_neg hret]
    refine Or.inr ⟨rfl, ?_⟩
    rcases hk : o.badWr with _ | k
    · exact hpos
    · exact hbad k hk

/-! ### What is posted -/

/-- The calls about a buffer that is obtained have not failed. -/
theorem fails_bufferActs {b : ℕ} (hsome : heldIobref o ctx ≠ none) :
    ∀ a ∈ bufferActs peer o readch ctx b, a.fails = false := by
  have hiobref : ∀ a ∈ iobrefActs o ctx, a.fails = false := by
    intro a ha
    rw [iobrefActs] at ha
    rw [heldIobref] at hsome
    split_ifs at ha hsome
    · rw [List.mem_singleton.mp ha]
      exact Option.isNone_eq_false_iff.mpr (Option.isSome_iff_ne_none.mpr hsome)
    · exact absurd ha List.not_mem_nil
  intro a ha
  rcases List.mem_cons.mp ha with rfl | ha
  · rfl
  rcases List.mem_append.mp ha with ha | ha
  · exact hiobref a ha
  · simp only [List.mem_cons, List.not_mem_nil, or_false] at ha
    rcases ha with rfl | rfl | rfl <;> rfl

/-- Nor has the loop, up to a registration that fails. -/
theorem fails_preparedActs {k : ℕ} (h : ∀ j < k, registerRet o readch ctx j ≠ -1) :
    ∀ a ∈ preparedActs post o readch ctx k, a.fails = false := by
  intro a ha
  obtain ⟨j, hj, ha⟩ := List.mem_flatMap.mp ha
  simp only [prepareActs, List.mem_cons, List.not_mem_nil, or_false] at ha
  rcases ha with rfl | rfl
  · exact beq_eq_false_iff_ne.mpr (h j (List.mem_range.mp hj))
  · rfl

/-- Where a call has failed, nothing is posted. -/
theorem posted_iff_of_fails {t : List ReadsAct} {a : ReadsAct}
    (hnil : t.filter ReadsAct.isPosting = []) (ha : a ∈ t) (hfails : a.fails = true) :
    t.filter ReadsAct.isPosting ≠ [] ↔ peer.connected ≠ 0 ∧ ∀ a ∈ t, a.fails = false := by
  refine ⟨fun hc => absurd hnil hc, fun hc => ?_⟩
  rw [hc.2 a ha] at hfails
  cases hfails

/-- Where all requests have been prepared, no call has failed, and the chain is posted. -/
theorem posted_iff_of_prepared {s : ReadsState} {t t' : List ReadsAct}
    (hprep : Prepared post o readch ctx readch.count s t) (hconn : peer.connected ≠ 0)
    (ht' : ∀ a ∈ t', a.fails = false) :
    (callocActs readch ++ (t ++ (postAct peer post o readch ctx :: t'))).filter
        ReadsAct.isPosting ≠ [] ↔
      peer.connected ≠ 0 ∧ ∀ a ∈ callocActs readch ++ (t ++ (postAct peer post o readch ctx :: t')),
        a.fails = false := by
  have hposted : postAct peer post o readch ctx ∈
      (callocActs readch ++ (t ++ (postAct peer post o readch ctx :: t'))).filter
        ReadsAct.isPosting :=
    List.mem_filter.mpr
      ⟨List.mem_append_right _ (List.mem_append_right _ List.mem_cons_self), rfl⟩
  refine iff_of_true (List.ne_nil_of_mem hposted) ⟨hconn, ?_⟩
  rw [hprep.trace]
  refine List.forall_mem_append.mpr ⟨?_, List.forall_mem_append.mpr
    ⟨fails_preparedActs hprep.registered, List.forall_mem_cons.mpr ⟨rfl, ht'⟩⟩⟩
  exact List.forall_mem_cons.mpr ⟨rfl, List.forall_mem_singleton.mpr rfl⟩

/-- **With the buffer at hand**, the chain is posted when the peer is connected and no call
fails. -/
theorem ArraysRan.posted_iff {ret : ℤ} {c' : PostContext} {t : List ReadsAct}
    (h : ArraysRan peer post o readch ctx ret c' t) : t.filter ReadsAct.isPosting ≠ [] ↔
      peer.connected ≠ 0 ∧ ∀ a ∈ t, a.fails = false := by
  have hfree : ∀ a ∈ freeActs, a.fails = false :=
    List.forall_mem_cons.mpr ⟨rfl, List.forall_mem_singleton.mpr rfl⟩
  cases h with
  | unconnected h => exact ⟨fun hc => absurd rfl hc, fun hc => absurd h hc.1⟩
  | noList => exact posted_iff_of_fails rfl List.mem_cons_self rfl
  | noWr => exact posted_iff_of_fails rfl (List.mem_cons_of_mem _ List.mem_cons_self) rfl
  | @unregistered k _ hk hret hiobref =>
    refine posted_iff_of_fails (a := .registerLocalMr (piece o readch k) (-1)) ?_
      (List.mem_append_right _ (List.mem_append_right _ List.mem_cons_self)) rfl
    rw [List.filter_append, List.filter_append, filter_preparedActs,
      List.filter_cons_of_neg Bool.false_ne_true, filter_out]
    rfl
  | accepted h _ hconn => exact posted_iff_of_prepared h hconn hfree
  | rejected h _ hconn =>
    refine posted_iff_of_prepared h hconn (List.forall_mem_append.mpr ⟨hfree, fun a ha => ?_⟩)
    rw [List.eq_of_mem_replicate ha]
    rfl

/-- **When the chain is posted.** -/
theorem ReadsRan.posted_iff {ret : ℤ} {c' : PostContext} {t : List ReadsAct}
    (h : ReadsRan peer post o readch ctx ret c' t) : t.filter ReadsAct.isPosting ≠ [] ↔
      1 ≤ readch.count ∧ peer.connected ≠ 0 ∧ ∀ a ∈ t, a.fails = false := by
  cases h with
  | empty h =>
    refine ⟨fun hc => absurd rfl hc, fun hc => ?_⟩
    have hlen : 1 ≤ readch.chunks.length := hc.1
    rw [h] at hlen
    exact absurd hlen (by decide)
  | noBuffer =>
    refine ⟨fun hc => absurd rfl hc, fun hc => ?_⟩
    cases hc.2.2 _ List.mem_cons_self
  | noIobref =>
    refine ⟨fun hc => absurd rfl hc, fun hc => ?_⟩
    cases hc.2.2 _ (List.mem_cons_of_mem _ List.mem_cons_self)
  | held hne _ _ hsome hran =>
    rw [List.filter_append, filter_bufferActs, List.nil_append, hran.posted_iff,
      List.forall_mem_append]
    exact ⟨fun hc => ⟨List.length_pos_iff.mpr hne, hc.1, fails_bufferActs hsome, hc.2⟩,
      fun hc => ⟨hc.2.1, hc.2.2.2⟩⟩

/-- **What is posted**, if anything is. -/
theorem ReadsRan.chain {ret : ℤ} {c' : PostContext} {t : List ReadsAct}
    (h : ReadsRan peer post o readch ctx ret c' t) :
    (t.filter ReadsAct.isPosting).length ≤ 1 ∧ ∀ a ∈ t, a.isPosting = true →
      ∃ wr list ret' badWr, a = .ibvPostSend peer.qp wr list ret' badWr ∧
        Follows wr (some 0) wr ∧ wr.length = readch.count ∧ ∀ w ∈ wr, w.wrId = post := by
  rcases h.posted with ⟨hnil, -⟩ | ⟨hone, hpos, -⟩
  · rw [hnil]
    exact ⟨Nat.zero_le 1, fun a ha hpost => absurd hpost (List.filter_eq_nil_iff.mp hnil a ha)⟩
  · rw [hone]
    refine ⟨Nat.le_refl 1, fun a ha hpost => ?_⟩
    have hmem : a ∈ t.filter ReadsAct.isPosting := List.mem_filter.mpr ⟨ha, hpost⟩
    rw [hone, List.mem_singleton] at hmem
    refine ⟨postedWr post readch, postedList o readch ctx, _, _, hmem,
      follows_postedWr readch.count 0 (Nat.zero_add _) hpos, length_postedWr, fun w hw => ?_⟩
    obtain ⟨j, hj⟩ := List.getElem?_of_mem hw
    obtain ⟨-, rfl⟩ := eq_chainWr_of_getElem? hj
    rfl

/-! ### The arrays -/

variable {array : ReadsArray}

theorem arrayCounter_neutral {t : List ReadsAct}
    (h : ∀ a ∈ t, a.allocates array = false ∧ a.frees array = false) :
    (arrayCounter array).Leads n t n := Monitor.counter_neutral h

/-- The calls that neither allocate nor free an array. -/
def ReadsAct.isArray : ReadsAct → Bool
  | .calloc .. | .free _ => true
  | _ => false

theorem arrayCounter_of_isArray {t : List ReadsAct} (h : ∀ a ∈ t, a.isArray = false) :
    (arrayCounter array).Leads n t n := by
  refine arrayCounter_neutral fun a ha => ?_
  have hno := h a ha
  cases a with
  | calloc | free => cases hno
  | _ => exact ⟨rfl, rfl⟩

theorem isArray_of_isIobuf {a : ReadsAct} (h : a.isIobuf = true) : a.isArray = false := by
  cases a with
  | calloc | free => cases h
  | _ => rfl

theorem isArray_preparedActs (k : ℕ) :
    ∀ a ∈ preparedActs post o readch ctx k, a.isArray = false := by
  intro a ha
  rcases eq_of_mem_preparedActs ha with ⟨v, ret, rfl⟩ | rfl <;> rfl

theorem isArray_replicate (post k : ℕ) :
    ∀ a ∈ List.replicate k (ReadsAct.postUnref post), a.isArray = false := by
  intro a ha
  rw [List.eq_of_mem_replicate ha]
  rfl

theorem isArray_singleton {a : ReadsAct} (h : a.isArray = false) :
    ∀ b ∈ [a], b.isArray = false := by
  intro b hb
  rw [List.mem_singleton.mp hb]
  exact h

/-- Allocating both arrays counts one block for each. -/
theorem arrayCounter_callocActs : (arrayCounter array).Leads 0 (callocActs readch) 1 := by
  cases array with
  | list =>
    have hwr : (arrayCounter .list).Leads 1 [.calloc .wr readch.count true] 1 :=
      arrayCounter_neutral fun a ha => by
        rw [List.mem_singleton.mp ha]
        exact ⟨rfl, rfl⟩
    exact (Monitor.counter_up rfl rfl).append hwr
  | wr =>
    have hlist : (arrayCounter .wr).Leads 0 [.calloc .list readch.count true] 0 :=
      arrayCounter_neutral fun a ha => by
        rw [List.mem_singleton.mp ha]
        exact ⟨rfl, rfl⟩
    exact hlist.append (Monitor.counter_up rfl rfl)

/-- Freeing both counts them off. -/
theorem arrayCounter_freeActs : (arrayCounter array).Leads 1 freeActs 0 := by
  cases array with
  | list =>
    have hwr : (arrayCounter .list).Leads 0 [.free .wr] 0 :=
      arrayCounter_neutral fun a ha => by
        rw [List.mem_singleton.mp ha]
        exact ⟨rfl, rfl⟩
    exact (Monitor.counter_replicate (k := 1) rfl rfl (Nat.le_refl 1)).append hwr
  | wr =>
    have hlist : (arrayCounter .wr).Leads 1 [.free .list] 1 :=
      arrayCounter_neutral fun a ha => by
        rw [List.mem_singleton.mp ha]
        exact ⟨rfl, rfl⟩
    exact hlist.append (Monitor.counter_replicate (k := 1) rfl rfl (Nat.le_refl 1))

/-- Both arrays are allocated and freed, whatever happens between. -/
theorem arrayCounter_both {t t' : List ReadsAct} (ht : ∀ a ∈ t, a.isArray = false)
    (ht' : ∀ a ∈ t', a.isArray = false) :
    (arrayCounter array).Leads 0 (callocActs readch ++ (t ++ (freeActs ++ t'))) 0 :=
  arrayCounter_callocActs.append ((arrayCounter_of_isArray ht).append
    (arrayCounter_freeActs.append (arrayCounter_of_isArray ht')))

theorem countP_allocates_of_isArray {t : List ReadsAct} (h : ∀ a ∈ t, a.isArray = false) :
    t.countP (ReadsAct.allocates array) = 0 := by
  refine List.countP_eq_zero.mpr fun a ha hc => ?_
  have hno := h a ha
  cases a with
  | calloc => cases hno
  | _ => cases hc

theorem countP_allocates_both {t t' : List ReadsAct} (ht : ∀ a ∈ t, a.isArray = false)
    (ht' : ∀ a ∈ t', a.isArray = false) :
    (callocActs readch ++ (t ++ (freeActs ++ t'))).countP (ReadsAct.allocates array) = 1 := by
  have hfree : freeActs.countP (ReadsAct.allocates array) = 0 := rfl
  rw [List.countP_append, List.countP_append, List.countP_append,
    countP_allocates_of_isArray ht, countP_allocates_of_isArray ht', hfree]
  cases array <;> rfl

/-- **The arrays of a call** are freed exactly when they have been allocated. -/
theorem ArraysRan.arrays {ret : ℤ} {c' : PostContext} {t : List ReadsAct}
    (h : ArraysRan peer post o readch ctx ret c' t) :
    (arrayCounter array).Leads 0 t 0 ∧ t.countP (ReadsAct.allocates array) ≤ 1 := by
  have hboth : ∀ {u u' : List ReadsAct}, (∀ a ∈ u, a.isArray = false) →
      (∀ a ∈ u', a.isArray = false) →
      (arrayCounter array).Leads 0 (callocActs readch ++ (u ++ (freeActs ++ u'))) 0 ∧
        (callocActs readch ++ (u ++ (freeActs ++ u'))).countP (ReadsAct.allocates array) ≤ 1 :=
    fun hu hu' => ⟨arrayCounter_both hu hu', (countP_allocates_both hu hu').le⟩
  -- what happens between the two allocations and the two releases
  have happend : ∀ {k : ℕ} {a : ReadsAct}, a.isArray = false →
      ∀ b ∈ preparedActs post o readch ctx k ++ [a], b.isArray = false := by
    intro k a ha b hb
    exact (List.mem_append.mp hb).elim (isArray_preparedActs k b) (isArray_singleton ha b)
  cases h with
  | unconnected => exact ⟨Monitor.leads_nil _ 0, Nat.zero_le 1⟩
  | noList =>
    refine ⟨arrayCounter_neutral fun a ha => ?_, ?_⟩
    · rw [List.mem_singleton.mp ha]
      exact ⟨Bool.and_false _, rfl⟩
    · rw [List.countP_singleton, ReadsAct.allocates, Bool.and_false]
      exact Nat.zero_le 1
  | noWr =>
    cases array with
    | list =>
      have hfail : (arrayCounter .list).Leads 1 [.calloc .wr readch.count false] 1 :=
        arrayCounter_neutral fun a ha => by
          rw [List.mem_singleton.mp ha]
          exact ⟨rfl, rfl⟩
      have hfree : (arrayCounter .list).Leads 1 [.free .list] 0 :=
        Monitor.counter_replicate (k := 1) rfl rfl (Nat.le_refl 1)
      exact ⟨(Monitor.counter_up rfl rfl).append (hfail.append hfree), Nat.le_refl 1⟩
    | wr =>
      refine ⟨arrayCounter_neutral fun a ha => ?_, Nat.zero_le 1⟩
      simp only [List.mem_cons, List.not_mem_nil, or_false] at ha
      rcases ha with rfl | rfl | rfl <;> exact ⟨rfl, rfl⟩
  | @unregistered k =>
    have hmid := hboth (happend (k := k) (a := .registerLocalMr (piece o readch k) (-1)) rfl)
      (isArray_replicate post k)
    simpa only [List.append_assoc, List.cons_append, List.nil_append] using hmid
  | accepted h hret =>
    have hmid := hboth (happend (k := readch.count) (a := postAct peer post o readch ctx) rfl)
      (fun a ha => absurd ha List.not_mem_nil)
    rw [h.trace]
    simpa only [List.append_assoc, List.cons_append, List.nil_append, List.append_nil] using hmid
  | rejected h hret =>
    have hmid := hboth (happend (k := readch.count) (a := postAct peer post o readch ctx) rfl)
      (isArray_replicate post (givenBack o readch))
    rw [h.trace]
    simpa only [List.append_assoc, List.cons_append, List.nil_append] using hmid

/-! ### The whole call -/

/-- **The books are right** whenever `fs_rdma_do_reads` returns, for a device that names a
request of the chain when it names one. -/
theorem accounted_of_returns (hbad : ∀ k, o.badWr = some k → k < readch.count) {ret : ℤ}
    {ctx' : PostContext} {t : List ReadsAct}
    (h : fsRdmaDoReads peer post o readch.cells ctx = ⟨.ok ret, ctx', t⟩) :
    Accounted peer post readch ret t := by
  have hran : ReadsRan peer post o readch ctx ret ctx' t :=
    (post_fsRdmaDoReads peer post o readch ctx).of_ok h
  have hbooks : (postCounter post).Leads 0 t (acceptedBy t) ∧
      (∀ array, (arrayCounter array).Leads 0 t 0 ∧ t.countP (ReadsAct.allocates array) ≤ 1) ∧
      (ret = 0 ∧ 1 ≤ readch.count ∧ acceptedBy t = readch.count ∨
        ret = -1 ∧ ¬(1 ≤ readch.count ∧ acceptedBy t = readch.count)) := by
    rcases hran.cases_arrays with ⟨rfl, hbuf⟩ | ⟨t₁, t₂, rfl, hbuf, hpos, harrays⟩
    · have hzero := acceptedBy_of_isIobuf hbuf
      refine ⟨?_, fun array => ⟨?_, ?_⟩, Or.inr ⟨rfl, ?_⟩⟩
      · rw [hzero]
        exact postCounter_of_isIobuf hbuf
      · exact arrayCounter_of_isArray fun a ha => isArray_of_isIobuf (hbuf a ha)
      · rw [countP_allocates_of_isArray fun a ha => isArray_of_isIobuf (hbuf a ha)]
        exact Nat.zero_le 1
      · rw [hzero]
        omega
    · have hsum : acceptedBy (t₁ ++ t₂) = acceptedBy t₂ := by
        rw [acceptedBy_append, acceptedBy_of_isIobuf hbuf, Nat.zero_add]
      refine ⟨?_, fun array => ⟨?_, ?_⟩, ?_⟩
      · rw [hsum]
        exact (postCounter_of_isIobuf hbuf).append (harrays.leads_post hbad)
      · have hfirst : (arrayCounter array).Leads 0 t₁ 0 :=
          arrayCounter_of_isArray fun a ha => isArray_of_isIobuf (hbuf a ha)
        exact hfirst.append harrays.arrays.1
      · rw [List.countP_append,
          countP_allocates_of_isArray fun a ha => isArray_of_isIobuf (hbuf a ha), Nat.zero_add]
        exact harrays.arrays.2
      · rw [hsum]
        rcases harrays.result hbad hpos with ⟨hret, hall⟩ | ⟨hret, hlt⟩
        · exact Or.inl ⟨hret, hpos, hall⟩
        · exact Or.inr ⟨hret, fun hc => Nat.ne_of_lt hlt hc.2⟩
  obtain ⟨⟨hacc, hafter⟩, harrays, hresult⟩ := hbooks
  -- the counters say the rest
  have hkept := Monitor.counter_after hacc
  change (postCounter post).after 0 t + _ = _ at hkept
  refine ⟨hran.posted_iff, hran.chain.1, hran.chain.2, ?_, fun t' ht' => ?_,
    fun array => (harrays array).2, fun array => ?_, fun array t' ht' => ?_, hresult⟩
  · omega
  · have hprefix := Monitor.counter_prefix hacc ht'
    omega
  · obtain ⟨⟨haccA, hafterA⟩, -⟩ := harrays array
    have hfreed := Monitor.counter_after haccA
    change (arrayCounter array).after 0 t + _ = _ at hfreed
    omega
  · have hprefix := Monitor.counter_prefix (harrays array).1.1 ht'
    omega

/-- At a chain whose second request is not accepted. -/
theorem accounted_sample : ∃ ctx' t,
    fsRdmaDoReads Sample.peer 9 { Sample.reads with ibvPostSend := 12, badWr := some 1 }
      Sample.readch.cells Sample.postContext = ⟨.ok (-1), ctx', t⟩ ∧
      Accounted Sample.peer 9 Sample.readch (-1) t := by
  have hrun : fsRdmaDoReads Sample.peer 9 { Sample.reads with ibvPostSend := 12, badWr := some 1 }
      Sample.readch.cells Sample.postContext = ⟨.ok (-1), _, _⟩ := rfl
  refine ⟨_, _, hrun, accounted_of_returns (fun k hk => ?_) hrun⟩
  obtain rfl : 1 = k := Option.some.inj hk
  decide

end Transport
