import Mathlib.Algebra.Group.Action.Defs
import Mathlib.Algebra.Order.Ring.Nat
import RdmaCpp.Lib.Scatter
import RdmaCpp.Transport.Reads

/-!
# What a call of `fs_rdma_do_reads` does

The function ends in one of eight ways, or it stops: `Transport.ReadsRan` has a constructor
for each failure before the arrays are allocated, and `Transport.ArraysRan` one for each
that comes after. The last of them is the chain that is posted, and what is posted is known
exactly, because the loop that prepares the requests has an invariant that says what every
entry of every array is after `k` of its turns (`Transport.Prepared`): the pieces of the
buffer in the vector of the post, the same pieces with the keys of their regions in `list`,
and the requests in `wr`.

It stops where the arguments do not fit: an `int` for more than `2 ^ 31 - 1` chunks, a
vector without room, a registration that reports success and leaves no region.
-/

namespace Transport

/-! ### The chunks -/

namespace ReadChunkArray

variable (readch : ReadChunkArray)

/-- How many chunks there are. -/
def count : ℕ := readch.chunks.length

/-- The chunk at an index. -/
def chunk (j : ℕ) : ReadChunk := readch.chunks[j]?.getD readch.terminator

theorem getElem?_chunks {j : ℕ} (h : j < readch.count) :
    readch.chunks[j]? = some (readch.chunk j) := by
  have hsome : readch.chunks[j]? = some readch.chunks[j] := List.getElem?_eq_getElem h
  rw [chunk, hsome, Option.getD_some]

theorem chunk_eq {j : ℕ} {ch : ReadChunk} (h : readch.chunks[j]? = some ch) :
    readch.chunk j = ch := by
  rw [chunk, h, Option.getD_some]

theorem getElem?_lens {j : ℕ} (h : j < readch.count) :
    readch.lens[j]? = some (readch.chunk j).len := by
  rw [lens, List.getElem?_map, readch.getElem?_chunks h, Option.map_some]

@[simp] theorem length_lens : readch.lens.length = readch.count := List.length_map _

theorem ends_eq_false {ch : ReadChunk} (h : ch ∈ readch.chunks) : ch.ends = false :=
  beq_eq_false_iff_ne.mpr (readch.discrim_ne ch h)

theorem ends_terminator : readch.terminator.ends = true :=
  beq_iff_eq.mpr readch.discrim_eq

/-- The length of a chunk is one of `2 ^ 32` numbers. -/
theorem sum_lens_le : readch.lens.sum ≤ readch.count * (2 ^ 32 - 1) := by
  have hle : ∀ x ∈ readch.lens, x ≤ 2 ^ 32 - 1 := by
    intro x hx
    obtain ⟨ch, -, rfl⟩ := List.mem_map.mp hx
    have hlt := ch.rcTarget.rsLength.toNat_lt
    rw [ReadChunk.len]
    omega
  have hsum := List.sum_le_card_nsmul readch.lens (2 ^ 32 - 1) hle
  rwa [smul_eq_mul, length_lens] at hsum

/-- **The total length does not wrap**, as long as an `int` can count the chunks. -/
theorem sum_lens_lt (h : readch.count ≤ intMax) : readch.lens.sum < 2 ^ 64 := by
  have hle := readch.sum_lens_le
  have hmul : readch.count * (2 ^ 32 - 1) ≤ intMax * (2 ^ 32 - 1) := Nat.mul_le_mul_right _ h
  have hmax : intMax * (2 ^ 32 - 1) < 2 ^ 64 := by decide
  omega

end ReadChunkArray

variable (peer : FsRdmaPeer) (post : ℕ) (o : ReadsOutcomes) (readch : ReadChunkArray)

/-! ### Measuring -/

/-- The variables after the chunks have been measured. -/
def measured (ctx : PostContext) : ReadsState :=
  { ReadsState.enter ctx with
    ctx := { ctx with fsRdmaReads := readch.count }
    size := UInt64.ofNat readch.lens.sum }

theorem post_countUp {s : ReadsState} {Q : Unit → ReadsState → List ReadsAct → Prop}
    {E : ReadsFault → ReadsState → List ReadsAct → Prop} :
    Traced.Post countUp s Q E ↔
      (s.i = intMax → E .signedOverflow s []) ∧
      (s.i ≠ intMax → Q () { s with i := s.i + 1 } []) := by
  rw [countUp, Traced.post_bind, Traced.post_get]
  by_cases h : s.i = intMax
  · simp only [h, if_true, Traced.post_bind, Traced.post_stop, forall_const, ne_eq,
      not_true_eq_false, false_implies, and_true, List.nil_append]
  · simp only [h, if_false, false_implies, true_and, ne_eq, not_false_eq_true,
      forall_const, Traced.post_modify, List.nil_append]

/-- **The first loop**: the chunks are counted and added up. -/
theorem post_measureChunks (ctx : PostContext) :
    Traced.Post (measureChunks readch.cells) (ReadsState.enter ctx)
      (fun r s t => t = [] ∧ match r with
        | some _ => readch.chunks = [] ∧ s = ReadsState.enter ctx
        | none => readch.chunks ≠ [] ∧ readch.count ≤ intMax ∧ s = measured readch ctx)
      (fun _ s t => t = [] ∧ s.ctx = ctx ∧ intMax < readch.count) := by
  rw [measureChunks, Traced.post_bind, Traced.post_modify, Traced.post_bind]
  let at_ : ℕ → ReadsState := fun j =>
    { ReadsState.enter ctx with i := j, size := UInt64.ofNat (Scatter.offset readch.lens j) }
  -- after `j` turns, `j` chunks are counted
  refine Traced.post_scan (fun j s t => j ≤ intMax ∧ s = at_ j ∧ t = [])
    (fun x hx => readch.ends_eq_false hx) readch.ends_terminator
    ⟨Nat.zero_le _, rfl, rfl⟩ ?_ ?_
  · rintro j ch s t hget ⟨hj, rfl, rfl⟩
    have hlt : j < readch.count := (List.getElem?_eq_some_iff.mp hget).1
    have hch := readch.chunk_eq hget
    have hoff := Scatter.offset_succ (readch.getElem?_lens hlt)
    have hsize : UInt64.ofNat (Scatter.offset readch.lens j) + ch.rcTarget.rsLength.toUInt64 =
        UInt64.ofNat (Scatter.offset readch.lens (j + 1)) := by
      rw [hoff, UInt64.ofNat_add, hch, ReadChunk.len, UInt64.ofNat_uInt32ToNat]
    rw [measureChunk, Traced.post_bind, Traced.post_modify, Traced.post_bind, post_countUp]
    refine ⟨fun hmax => ?_, fun hmax => ?_⟩
    · refine ⟨rfl, rfl, ?_⟩
      have hjmax : j = intMax := hmax
      omega
    · have hne : j ≠ intMax := hmax
      refine ⟨by omega, ?_, rfl⟩
      simp only [at_, hsize]
  · rintro s t ⟨hn, rfl, rfl⟩
    simp only [Traced.post_bind, Traced.post_get, List.nil_append]
    by_cases hzero : readch.chunks = []
    · have hi : (at_ readch.chunks.length).i = 0 := by
        rw [hzero]
        rfl
      rw [if_pos hi, Traced.post_pure]
      refine ⟨rfl, hzero, ?_⟩
      rw [hzero]
      rfl
    · have hi : ¬(at_ readch.chunks.length).i = 0 := by
        intro hlen
        exact hzero (List.length_eq_zero_iff.mp hlen)
      rw [if_neg hi]
      simp only [modifyCtx, Traced.post_bind, Traced.post_modify, Traced.post_pure]
      refine ⟨rfl, hzero, hn, ?_⟩
      have hsum : Scatter.offset readch.lens readch.chunks.length = readch.lens.sum := by
        rw [← Scatter.offset_length, ReadChunkArray.length_lens]
        rfl
      simp only [at_, hsum, measured, ReadsState.enter]
      rfl

/-! ### The buffer -/

/-- The total length, as `iobuf_get2` is asked for it. -/
def totalSize : UInt64 := UInt64.ofNat readch.lens.sum

/-- What the post has for an `iobref` once one has been asked for. -/
def heldIobref (o : ReadsOutcomes) (ctx : PostContext) : Ptr :=
  if ctx.iobref.isNone then o.iobrefNew else ctx.iobref

/-- The calls that find or make the `iobref`. -/
def iobrefActs (o : ReadsOutcomes) (ctx : PostContext) : List ReadsAct :=
  if ctx.iobref.isNone then [.iobrefNew o.iobrefNew] else []

/-- The calls that obtain the buffer `b` and hand it over. -/
def bufferActs (ctx : PostContext) (b : ℕ) : List ReadsAct :=
  .iobufGet2 peer.iobufPool (totalSize readch) (some b) :: (iobrefActs o ctx ++
    [.iobrefAdd (heldIobref o ctx) b o.iobrefAdd, .iobufUnref b, .iobufPtr b o.iobufPtr])

/-- The context of the post with its number of chunks and its `iobref`. -/
def PostContext.held (o : ReadsOutcomes) (readch : ReadChunkArray) (ctx : PostContext) :
    PostContext :=
  { ctx with fsRdmaReads := readch.count, iobref := heldIobref o ctx }

/-- The variables when the buffer is there. -/
def obtained (ctx : PostContext) : ReadsState :=
  { measured readch ctx with ctx := ctx.held o readch, ptr := o.iobufPtr }

/-- **The buffer** is obtained and handed over, or the function leaves for `out`. -/
theorem post_obtainBuffer (ctx : PostContext) :
    Traced.Post (obtainBuffer peer o) (measured readch ctx)
      (fun r s t => match r with
        | none => ∃ b, o.iobufGet2 = some b ∧ heldIobref o ctx ≠ none ∧
            s = obtained o readch ctx ∧ t = bufferActs peer o readch ctx b
        | some _ => s.ret = -1 ∧ s.list = none ∧ s.wr = none ∧ s.iobuf = none ∧
            s.totalRef = 0 ∧
            (o.iobufGet2 = none ∧ s.ctx = { ctx with fsRdmaReads := readch.count } ∧
                t = [.iobufGet2 peer.iobufPool (totalSize readch) none] ∨
              ∃ b, o.iobufGet2 = some b ∧ heldIobref o ctx = none ∧ s.ctx = ctx.held o readch ∧
                t = [.iobufGet2 peer.iobufPool (totalSize readch) (some b), .iobrefNew none,
                  .iobufUnref b]))
      (fun _ _ _ => False) := by
  rw [obtainBuffer, Traced.post_bind, Traced.post_get, Traced.post_bind, Traced.post_emit,
    Traced.post_bind, Traced.post_modify]
  rcases hget : o.iobufGet2 with _ | b
  · simp only [Traced.post_pure]
    exact ⟨rfl, rfl, rfl, trivial, rfl, Or.inl ⟨trivial, rfl, rfl⟩⟩
  simp only [Traced.post_bind, Traced.post_get]
  -- the list of references is made where there is none
  rcases href : ctx.iobref with _ | r
  · have hnone : (measured readch ctx).ctx.iobref.isNone = true := by
      rw [measured, href]
      rfl
    simp only [hnone, if_true, modifyCtx, Traced.post_bind, Traced.post_emit, Traced.post_modify]
    rcases hnew : o.iobrefNew with _ | r
    · simp only [Option.isNone_none, if_true, Traced.post_bind, Traced.post_emit,
        Traced.post_modify, Traced.post_pure]
      refine ⟨rfl, rfl, rfl, trivial, rfl, Or.inr ⟨b, rfl, ?_, ?_, rfl⟩⟩
      · rw [heldIobref, href, hnew]
        rfl
      · simp only [measured, PostContext.held, heldIobref, href, hnew]
        rfl
    · simp only [Option.isNone_some, Bool.false_eq_true, if_false, Traced.post_bind,
        Traced.post_get, Traced.post_emit, Traced.post_modify, Traced.post_pure]
      refine ⟨b, rfl, ?_, ?_, ?_⟩
      · rw [heldIobref, href, hnew]
        exact Option.some_ne_none r
      · simp only [obtained, measured, PostContext.held, heldIobref, href, hnew]
        rfl
      · simp only [bufferActs, iobrefActs, heldIobref, href, hnew]
        rfl
  · have hsome : (measured readch ctx).ctx.iobref.isNone = false := by
      rw [measured, href]
      rfl
    simp only [hsome, Bool.false_eq_true, if_false, Traced.post_bind, Traced.post_get,
      Traced.post_emit, Traced.post_modify, Traced.post_pure]
    refine ⟨b, rfl, ?_, ?_, ?_⟩
    · rw [heldIobref, href]
      exact Option.some_ne_none r
    · simp only [obtained, measured, PostContext.held, heldIobref, href]
      rfl
    · simp only [bufferActs, iobrefActs, heldIobref, href]
      simp only [measured, href]
      rfl

/-! ### The arrays -/

/-- The calls that allocate the arrays. -/
def callocActs : List ReadsAct := [.calloc .list readch.count true, .calloc .wr readch.count true]

/-- The variables when the arrays are there. -/
def allocated (ctx : PostContext) : ReadsState :=
  { obtained o readch ctx with
    list := some (List.replicate readch.count clearedSge)
    wr := some (List.replicate readch.count clearedWr) }

/-- **The arrays** are allocated, or the function leaves for `out`. -/
theorem post_allocateArrays (ctx : PostContext) :
    Traced.Post (allocateArrays peer o) (obtained o readch ctx)
      (fun r s t => match r with
        | none => peer.connected ≠ 0 ∧ o.calloc .list = true ∧ o.calloc .wr = true ∧
            s = allocated o readch ctx ∧ t = callocActs readch
        | some _ => s.ctx = ctx.held o readch ∧ s.ret = -1 ∧ s.wr = none ∧ s.iobuf = none ∧
            s.totalRef = 0 ∧
            (peer.connected = 0 ∧ s.list = none ∧ t = [] ∨
              o.calloc .list = false ∧ s.list = none ∧ t = [.calloc .list readch.count false] ∨
              o.calloc .wr = false ∧ s.list ≠ none ∧
                t = [.calloc .list readch.count true, .calloc .wr readch.count false]))
      (fun _ _ _ => False) := by
  have hn : (obtained o readch ctx).ctx.fsRdmaReads = readch.count := rfl
  rw [allocateArrays]
  by_cases hconn : peer.connected = 0
  · rw [if_pos hconn, Traced.post_pure]
    exact ⟨rfl, rfl, rfl, rfl, rfl, Or.inl ⟨hconn, rfl, rfl⟩⟩
  rw [if_neg hconn]
  simp only [Traced.post_bind, Traced.post_get, Traced.post_emit, hn, Int.toNat_natCast]
  rcases hlist : o.calloc .list with _ | _
  · simp only [if_true, Traced.post_bind, Traced.post_modify, Traced.post_pure]
    exact ⟨rfl, trivial, rfl, rfl, rfl, Or.inr (Or.inl ⟨trivial, rfl, rfl⟩)⟩
  simp only [Bool.true_eq_false, if_false, Traced.post_bind, Traced.post_modify, Traced.post_emit]
  rcases hwr : o.calloc .wr with _ | _
  · simp only [if_true, Traced.post_bind, Traced.post_modify, Traced.post_pure]
    refine ⟨rfl, trivial, rfl, rfl, rfl, Or.inr (Or.inr ⟨trivial, ?_, rfl⟩)⟩
    exact Option.some_ne_none _
  · simp only [Bool.true_eq_false, if_false, Traced.post_bind, Traced.post_modify,
      Traced.post_pure]
    exact ⟨hconn, trivial, trivial, rfl, rfl⟩

/-! ### Preparing the requests -/

/-- The piece of the buffer for a chunk. -/
def piece (j : ℕ) : IoVec :=
  ⟨o.iobufPtr + Scatter.offset readch.lens j, (readch.chunk j).rcTarget.rsLength.toUInt64⟩

/-- The regions of the post after `k` registrations. -/
def regions (ctx : PostContext) : ℕ → List IbvMr
  | 0 => ctx.mr
  | k + 1 => (o.register k (piece o readch k) (regions ctx k)).2

/-- What a registration returns. -/
def registerRet (ctx : PostContext) (k : ℕ) : ℤ :=
  (o.register k (piece o readch k) (regions o readch ctx k)).1

/-- The piece for a chunk as a request names it, with the key of the region registered
last. -/
def sge (ctx : PostContext) (j : ℕ) : IbvSge :=
  ⟨(piece o readch j).iovBase, (piece o readch j).iovLen.toUInt32,
    (((regions o readch ctx (j + 1)).getLast?).map IbvMr.lkey).getD 0⟩

/-- The calls of one turn. -/
def prepareActs (ctx : PostContext) (j : ℕ) : List ReadsAct :=
  [.registerLocalMr (piece o readch j) (registerRet o readch ctx j), .postRef post]

/-- The calls of the first `k` turns. -/
def preparedActs (ctx : PostContext) (k : ℕ) : List ReadsAct :=
  (List.range k).flatMap (prepareActs post o readch ctx)

theorem preparedActs_succ (ctx : PostContext) (k : ℕ) :
    preparedActs post o readch ctx (k + 1) =
      preparedActs post o readch ctx k ++ prepareActs post o readch ctx k := by
  rw [preparedActs, List.range_succ, List.flatMap_append, List.flatMap_singleton]
  rfl

/-- **The invariant of the loop**: what every variable and every entry of every array is
after `k` turns. -/
structure Prepared (ctx : PostContext) (k : ℕ) (s : ReadsState) (t : List ReadsAct) :
    Prop where
  i : s.i = k
  totalRef : s.totalRef = k
  ptr : s.ptr = o.iobufPtr + Scatter.offset readch.lens k
  iobuf : s.iobuf = none
  count : s.ctx.count = ctx.count + k
  mr : s.ctx.mr = regions o readch ctx k
  iobref : s.ctx.iobref = heldIobref o ctx
  reads : s.ctx.fsRdmaReads = readch.count
  /-- There was room in the vector. -/
  room : 0 < k → 0 ≤ ctx.count
  vector : Scatter.Written ctx.vector ctx.count.toNat (piece o readch) k s.ctx.vector
  list : ∃ l, s.list = some l ∧
    Scatter.Written (List.replicate readch.count clearedSge) 0 (sge o readch ctx) k l
  wr : ∃ l, s.wr = some l ∧ Scatter.Written (List.replicate readch.count clearedWr) 0
    (fun j => readWr post j (readch.chunk j)) k l
  registered : ∀ j < k, registerRet o readch ctx j ≠ -1
  trace : t = preparedActs post o readch ctx k

/-- Where the loop starts. -/
theorem prepared_zero (ctx : PostContext) :
    Prepared post o readch ctx 0 (allocated o readch ctx) [] where
  i := rfl
  totalRef := rfl
  ptr := rfl
  iobuf := rfl
  count := (Int.add_zero _).symm
  mr := rfl
  iobref := rfl
  reads := rfl
  room h := absurd h (Nat.lt_irrefl 0)
  vector := Scatter.written_zero _ _ _
  list := ⟨_, rfl, Scatter.written_zero _ _ _⟩
  wr := ⟨_, rfl, Scatter.written_zero _ _ _⟩
  registered j hj := absurd hj (Nat.not_lt_zero j)
  trace := rfl

theorem post_storeVector {v : IoVec} {s : ReadsState} {Q : Unit → ReadsState → List ReadsAct → Prop}
    {E : ReadsFault → ReadsState → List ReadsAct → Prop}
    (hstop : ∀ e s', E e s' [])
    (hstore : 0 ≤ s.ctx.count → s.ctx.count < s.ctx.vector.length →
      Q () { s with ctx := { s.ctx with
        count := s.ctx.count + 1, vector := s.ctx.vector.set s.ctx.count.toNat v } } []) :
    Traced.Post (storeVector v) s Q E := by
  rw [storeVector, Traced.post_bind, Traced.post_get]
  by_cases hmax : s.ctx.count = intMax
  · simp only [hmax, if_true, Traced.post_bind, Traced.post_stop, List.append_nil]
    exact hstop _ _
  simp only [hmax, if_false, modifyCtx, Traced.post_bind, Traced.post_modify]
  by_cases hroom : 0 ≤ s.ctx.count ∧ s.ctx.count < s.ctx.vector.length
  · simp only [if_pos hroom, Traced.post_modify]
    exact hstore hroom.1 hroom.2
  · simp only [if_neg hroom, Traced.post_stop]
    exact hstop _ _

theorem post_storeSge {i : ℕ} {x : IbvSge} {s : ReadsState} {l : List IbvSge}
    {Q : Unit → ReadsState → List ReadsAct → Prop}
    {E : ReadsFault → ReadsState → List ReadsAct → Prop} (hl : s.list = some l)
    (hi : i < l.length) :
    Traced.Post (storeSge i x) s Q E ↔ Q () { s with list := some (l.set i x) } [] := by
  rw [storeSge, Traced.post_bind, Traced.post_get, hl]
  simp only [hi, if_true, Traced.post_modify, List.append_nil]

theorem post_storeWr {i : ℕ} {x : IbvSendWr} {s : ReadsState} {l : List IbvSendWr}
    {Q : Unit → ReadsState → List ReadsAct → Prop}
    {E : ReadsFault → ReadsState → List ReadsAct → Prop} (hl : s.wr = some l)
    (hi : i < l.length) :
    Traced.Post (storeWr i x) s Q E ↔ Q () { s with wr := some (l.set i x) } [] := by
  rw [storeWr, Traced.post_bind, Traced.post_get, hl]
  simp only [hi, if_true, Traced.post_modify, List.append_nil]

section Loop

variable {peer post o readch} {ctx : PostContext} {k : ℕ} {s : ReadsState} {t : List ReadsAct}

/-- **One turn of the loop**: it prepares the next request, or leaves where the registration
fails, or stops. -/
theorem Prepared.turn (h : Prepared post o readch ctx k s t) (hk : k < readch.count) :
    Traced.Post (prepareRead post o (readch.chunk k)) s
      (fun r s' t' => match r with
        | none => Prepared post o readch ctx (k + 1) s' (t ++ t')
        | some _ => registerRet o readch ctx k = -1 ∧ s'.ret = -1 ∧ s'.totalRef = k ∧
            s'.iobuf = none ∧ s'.ctx.iobref = heldIobref o ctx ∧ s'.list ≠ none ∧ s'.wr ≠ none ∧
            t' = [.registerLocalMr (piece o readch k) (-1)])
      (fun _ _ t' => t' <+: prepareActs post o readch ctx k) := by
  have hpiece : (⟨s.ptr, (readch.chunk k).rcTarget.rsLength.toUInt64⟩ : IoVec) =
      piece o readch k := by rw [piece, h.ptr]
  have hregister : o.register k (piece o readch k) s.ctx.mr =
      (registerRet o readch ctx k, regions o readch ctx (k + 1)) := by
    rw [h.mr]
    rfl
  obtain ⟨l, hl, hsge⟩ := h.list
  obtain ⟨w, hw, hwr⟩ := h.wr
  rw [prepareRead, Traced.post_bind, Traced.post_get, Traced.post_bind, hpiece]
  refine post_storeVector (fun e s' => List.nil_prefix) fun hlo hhi => ?_
  simp only [Traced.post_bind, Traced.post_get, modifyCtx, Traced.post_modify,
    Traced.post_emit, h.i, hregister]
  by_cases hret : registerRet o readch ctx k = -1
  · simp only [hret, if_true, Traced.post_pure]
    refine ⟨trivial, trivial, h.totalRef, h.iobuf, h.iobref, ?_, ?_, rfl⟩
    · rw [hl]
      exact Option.some_ne_none l
    · rw [hw]
      exact Option.some_ne_none w
  simp only [hret, if_false]
  rcases hlast : (regions o readch ctx (k + 1)).getLast? with _ | mr
  · simp only [Traced.post_stop]
    exact ⟨[.postRef post], rfl⟩
  -- the entry is what the last region and the piece say
  have hkey : (⟨(piece o readch k).iovBase, (piece o readch k).iovLen.toUInt32, mr.lkey⟩ : IbvSge) =
      sge o readch ctx k := by
    rw [sge, hlast]
    rfl
  have hklist : k < l.length := by
    rw [hsge.length, List.length_replicate]
    exact hk
  have hkwr : k < w.length := by
    rw [hwr.length, List.length_replicate]
    exact hk
  simp only [Traced.post_bind, hkey]
  refine (post_storeSge ?_ hklist).mpr ?_
  · exact hl
  rw [Traced.post_emit]
  refine (post_storeWr ?_ hkwr).mpr ?_
  · exact hw
  simp only [Traced.post_modify, post_countUp, Traced.post_pure, List.nil_append,
    List.append_nil, List.cons_append]
  refine ⟨fun _ => List.prefix_refl _, fun hmax => ?_⟩
  -- the index into the vector has not wrapped, so there is room
  have hcount : ctx.count = s.ctx.count - k := by
    have hc := h.count
    omega
  have hnonneg : 0 ≤ ctx.count := by
    rcases Nat.eq_zero_or_pos k with rfl | hpos
    · have hc := h.count
      omega
    · exact h.room hpos
  have hindex : s.ctx.count.toNat = ctx.count.toNat + k := by omega
  have hfits : ctx.count.toNat + k < ctx.vector.length := by
    have hlen := h.vector.length
    omega
  -- the invariant, at one chunk more
  refine ⟨rfl, ?_, ?_, h.iobuf, ?_, rfl, h.iobref, h.reads, fun _ => hnonneg, ?_, ?_, ?_, ?_, ?_⟩
  · change s.totalRef + 1 = ((k + 1 : ℕ) : ℤ)
    rw [h.totalRef]
    omega
  · change s.ptr + (readch.chunk k).len = _
    rw [h.ptr, Scatter.offset_succ (readch.getElem?_lens hk), Nat.add_assoc]
  · change s.ctx.count + 1 = ctx.count + ((k + 1 : ℕ) : ℤ)
    omega
  · change Scatter.Written _ _ _ _ (s.ctx.vector.set s.ctx.count.toNat (piece o readch k))
    rw [hindex]
    exact h.vector.set hfits
  · refine ⟨_, rfl, ?_⟩
    have hset := hsge.set (by rwa [Nat.zero_add, List.length_replicate])
    rwa [Nat.zero_add] at hset
  · refine ⟨_, rfl, ?_⟩
    have hset := hwr.set (by rwa [Nat.zero_add, List.length_replicate])
    rwa [Nat.zero_add] at hset
  · intro j hj
    rcases Nat.lt_or_ge j k with hlt | hge
    · exact h.registered j hlt
    · obtain rfl : j = k := by omega
      exact hret
  · rw [preparedActs_succ, h.trace]
    rfl

/-- **The loop**: all requests are prepared, or a registration fails, or it stops. -/
theorem post_prepareReads (post : ℕ) (o : ReadsOutcomes) (readch : ReadChunkArray)
    (ctx : PostContext) :
    Traced.Post (prepareReads post o readch.cells) (allocated o readch ctx)
      (fun r s t => match r with
        | none => Prepared post o readch ctx readch.count s t
        | some _ => ∃ k < readch.count, registerRet o readch ctx k = -1 ∧ s.ret = -1 ∧
            s.totalRef = k ∧ s.iobuf = none ∧ s.ctx.iobref = heldIobref o ctx ∧ s.list ≠ none ∧
            s.wr ≠ none ∧ t = preparedActs post o readch ctx k ++
              [.registerLocalMr (piece o readch k) (-1)])
      (fun _ _ t => ∃ k < readch.count, ∃ t', t' <+: prepareActs post o readch ctx k ∧
        t = preparedActs post o readch ctx k ++ t') := by
  rw [prepareReads, Traced.post_bind, Traced.post_modify]
  refine Traced.post_scan (Prepared post o readch ctx) (fun x hx => readch.ends_eq_false hx)
    readch.ends_terminator (prepared_zero post o readch ctx) ?_ fun s t h => h
  intro k ch s t hget h
  have hk : k < readch.count := (List.getElem?_eq_some_iff.mp hget).1
  rw [← readch.chunk_eq hget]
  refine (h.turn hk).mono ?_ ?_
  · rintro (_ | u) s' t' hturn
    · exact hturn
    · obtain ⟨hret, hs, href, hbuf, hiobref, hlist, hwr, rfl⟩ := hturn
      rw [h.trace]
      exact ⟨k, hk, hret, hs, href, hbuf, hiobref, hlist, hwr, rfl⟩
  · intro e s' t' hprefix
    rw [h.trace]
    exact ⟨k, hk, t', hprefix, rfl⟩

end Loop

/-! ### Posting the chain -/

/-- The work request for a chunk, in the chain as it is posted. -/
def chainWr (j : ℕ) : IbvSendWr :=
  { readWr post j (readch.chunk j) with
    next := if j + 1 < readch.count then some (j + 1) else none }

/-- The array `wr` as it is posted. -/
def postedWr : List IbvSendWr := (List.range readch.count).map (chainWr post readch)

/-- The array `list` as it is posted. -/
def postedList (ctx : PostContext) : List IbvSge :=
  (List.range readch.count).map (sge o readch ctx)

/-- The call that posts the chain. -/
def postAct (ctx : PostContext) : ReadsAct :=
  .ibvPostSend peer.qp (postedWr post readch) (postedList o readch ctx) o.ibvPostSend o.badWr

/-- How many references are given back when posting the chain fails. -/
def givenBack : ℕ :=
  match o.badWr with
  | none => readch.count
  | some k => readch.count - k

theorem eq_map_range_of_getElem? {α : Type} {l : List α} {n : ℕ} {f : ℕ → α} (hlen : l.length = n)
    (h : ∀ j < n, l[j]? = some (f j)) : l = (List.range n).map f := by
  refine List.ext_getElem? fun j => ?_
  rcases Nat.lt_or_ge j n with hlt | hge
  · rw [h j hlt, List.getElem?_map, List.getElem?_range hlt, Option.map_some]
  · rw [List.getElem?_eq_none (by omega), List.getElem?_eq_none]
    rwa [List.length_map, List.length_range]

/-- The loop that finds the request that failed, entered at `i` for `m` turns. -/
theorem post_skipAccepted (k : ℕ) (s : ReadsState) (m i : ℕ) (hik : i ≤ k) :
    Traced.Post (Traced.forLoop (skipAccepted k) i m) s
      (fun _ s' t => s' = { s with totalRef := s.totalRef - (min m (k - i) : ℕ) } ∧ t = [])
      (fun _ _ _ => False) := by
  induction m generalizing i s with
  | zero =>
    rw [Traced.forLoop, Traced.post_pure]
    refine ⟨?_, rfl⟩
    rw [Nat.zero_min, Int.natCast_zero, Int.sub_zero]
  | succ m ih =>
    rw [Traced.forLoop, Traced.post_bind, skipAccepted]
    by_cases hi : i = k
    · simp only [hi, ne_eq, not_true_eq_false, if_false, Traced.post_pure]
      refine ⟨?_, rfl⟩
      rw [Nat.sub_self, Nat.min_zero, Int.natCast_zero, Int.sub_zero]
    · simp only [ne_eq, hi, not_false_eq_true, if_true, Traced.post_bind, Traced.post_modify,
        Traced.post_pure]
      refine (ih _ (i + 1) (by omega)).mono ?_ fun e s' t hf => hf
      rintro r s' t ⟨rfl, rfl⟩
      refine ⟨?_, rfl⟩
      have hmin : min (m + 1) (k - i) = min m (k - (i + 1)) + 1 := by omega
      have hsub : s.totalRef - 1 - ((min m (k - (i + 1)) : ℕ) : ℤ) =
          s.totalRef - ((min (m + 1) (k - i) : ℕ) : ℤ) := by
        rw [hmin]
        omega
      simp only [hsub]

/-- **The chain is posted.** -/
theorem post_postReads {ctx : PostContext} {s : ReadsState} {t : List ReadsAct}
    (h : Prepared post o readch ctx readch.count s t) (hpos : 0 < readch.count) :
    Traced.Post (postReads peer o) s
      (fun _ s' t' => s'.ctx = s.ctx ∧ s'.list ≠ none ∧ s'.wr ≠ none ∧ s'.iobuf = none ∧
        s'.ret = (if o.ibvPostSend = 0 then 0 else -1) ∧
        (o.ibvPostSend ≠ 0 → s'.totalRef = givenBack o readch) ∧
        t' = [postAct peer post o readch ctx])
      (fun _ _ _ => False) := by
  obtain ⟨l, hl, hsge⟩ := h.list
  obtain ⟨w, hw, hwr⟩ := h.wr
  have hlen : l.length = readch.count := by rw [hsge.length, List.length_replicate]
  have hwlen : w.length = readch.count := by rw [hwr.length, List.length_replicate]
  have hlist : l = postedList o readch ctx :=
    eq_map_range_of_getElem? hlen fun j hj => by
      rw [← hsge.inside j hj, Nat.zero_add]
  have hentry : ∀ j < readch.count, w[j]? = some (readWr post j (readch.chunk j)) := by
    intro j hj
    rw [← hwr.inside j hj, Nat.zero_add]
  have hlast : readch.count - 1 < readch.count := by omega
  -- only the last request changes, and it had a successor that the chain does not have
  have hchain : w.set (readch.count - 1)
      { readWr post (readch.count - 1) (readch.chunk (readch.count - 1)) with next := none } =
        postedWr post readch := by
    refine eq_map_range_of_getElem? (by rw [List.length_set, hwlen]) fun j hj => ?_
    rw [chainWr]
    rcases Nat.lt_or_ge (j + 1) readch.count with hlt | hge
    · rw [List.getElem?_set_ne (by omega), hentry j hj, if_pos hlt]
      rfl
    · obtain rfl : j = readch.count - 1 := by omega
      rw [List.getElem?_set_self (by omega), if_neg (by omega)]
  rw [postReads, Traced.post_bind, Traced.post_get, Traced.post_bind, h.i, endChain,
    Traced.post_bind, Traced.post_get, hw]
  simp only [Option.bind_some, hentry _ hlast]
  have hlastw : readch.count - 1 < w.length := by omega
  refine (post_storeWr ?_ hlastw).mpr ?_
  · exact hw
  simp only [Traced.post_bind, Traced.post_get, Traced.post_emit, Traced.post_modify, hl,
    hchain, Option.getD_some, h.reads, Int.toNat_natCast, List.nil_append]
  -- where the chain is rejected, what is not accepted is given back
  by_cases hret : o.ibvPostSend = 0
  · simp only [hret, ne_eq, not_true_eq_false, if_false, Traced.post_pure]
    refine ⟨trivial, Option.some_ne_none _, Option.some_ne_none _, h.iobuf, ?_, ?_, ?_⟩
    · rfl
    · exact False.elim
    · rw [postAct, hret, hlist]
      rfl
  simp only [hret, ne_eq, not_false_eq_true, if_true, Traced.post_bind, Traced.post_modify,
    if_false]
  rcases hbad : o.badWr with _ | k
  · simp only [Traced.post_bind, Traced.post_modify, Traced.post_pure]
    refine ⟨trivial, Option.some_ne_none _, Option.some_ne_none _, h.iobuf, trivial, ?_, ?_⟩
    · intro _
      rw [givenBack, hbad]
      exact h.totalRef
    · rw [postAct, hbad, hlist]
      rfl
  · simp only [Traced.post_bind]
    refine (post_skipAccepted k _ readch.count 0 (Nat.zero_le k)).mono ?_ fun e s' t hf => hf
    rintro r s' t' ⟨rfl, rfl⟩
    simp only [Traced.post_modify, Traced.post_pure]
    refine ⟨trivial, Option.some_ne_none _, Option.some_ne_none _, h.iobuf, trivial, ?_, ?_⟩
    · intro _
      have href := h.totalRef
      rw [givenBack, hbad]
      change s.totalRef - _ = ((readch.count - k : ℕ) : ℤ)
      omega
    · rw [postAct, hbad, hlist]
      rfl

/-! ### The label `out` -/

/-- What is freed and given back under the label. -/
def outActs (s : ReadsState) : List ReadsAct :=
  (if s.list.isSome then [.free .list] else []) ++ ((if s.wr.isSome then [.free .wr] else []) ++
    if s.ret = -1 then
      List.replicate s.totalRef.toNat (.postUnref post) ++ s.iobuf.toList.map .iobufUnref
    else [])

theorem run_unrefPost (s : ReadsState) (m i : ℕ) :
    Traced.forLoop (unrefPost post) i m s = ⟨.ok none, s, List.replicate m (.postUnref post)⟩ := by
  induction m generalizing i with
  | zero => rfl
  | succ m ih =>
    have hturn : unrefPost post i s = ⟨.ok none, s, [.postUnref post]⟩ := rfl
    rw [Traced.forLoop, Traced.run_bind_ok hturn]
    simp only [ih, List.cons_append, List.nil_append, List.replicate_succ]

/-- **The label in closed form.** -/
theorem run_readsOut (s : ReadsState) :
    readsOut post s = ⟨.ok s.ret, s, outActs post s⟩ := by
  rw [readsOut, Traced.run_bind_ok (Traced.run_get s), outActs]
  rcases s.list with _ | l <;> rcases s.wr with _ | w <;>
    by_cases hret : s.ret = -1 <;> rcases s.iobuf with _ | b <;>
    simp [hret, Traced.run_bind_ok (Traced.run_emit _ _),
      Traced.run_bind_ok (run_unrefPost post s _ _)]

/-! ### The whole function -/

/-- The arrays are freed. -/
def freeActs : List ReadsAct := [.free .list, .free .wr]

/-- **How the function goes on when the buffer is handed over**: what it returns, the context
of the post, the calls. -/
inductive ArraysRan (ctx : PostContext) : ℤ → PostContext → List ReadsAct → Prop
  /-- The peer is not connected. -/
  | unconnected (h : peer.connected = 0) : ArraysRan ctx (-1) (ctx.held o readch) []
  /-- There is no memory for `list`. -/
  | noList (h : o.calloc .list = false) :
      ArraysRan ctx (-1) (ctx.held o readch) [.calloc .list readch.count false]
  /-- There is no memory for `wr`. -/
  | noWr (h : o.calloc .wr = false) : ArraysRan ctx (-1) (ctx.held o readch)
      [.calloc .list readch.count true, .calloc .wr readch.count false, .free .list]
  /-- A piece cannot be registered. -/
  | unregistered {k : ℕ} {c' : PostContext} (hk : k < readch.count)
      (h : registerRet o readch ctx k = -1) (hiobref : c'.iobref = heldIobref o ctx) :
      ArraysRan ctx (-1) c' (callocActs readch ++ (preparedActs post o readch ctx k ++
        (.registerLocalMr (piece o readch k) (-1) ::
          (freeActs ++ List.replicate k (.postUnref post)))))
  /-- The chain is posted, and accepted. -/
  | accepted {s : ReadsState} {t : List ReadsAct}
      (h : Prepared post o readch ctx readch.count s t) (hret : o.ibvPostSend = 0)
      (hconn : peer.connected ≠ 0) :
      ArraysRan ctx 0 s.ctx (callocActs readch ++ (t ++
        (postAct peer post o readch ctx :: freeActs)))
  /-- The chain is posted, and a request is not accepted. -/
  | rejected {s : ReadsState} {t : List ReadsAct}
      (h : Prepared post o readch ctx readch.count s t) (hret : o.ibvPostSend ≠ 0)
      (hconn : peer.connected ≠ 0) :
      ArraysRan ctx (-1) s.ctx (callocActs readch ++ (t ++ (postAct peer post o readch ctx ::
        (freeActs ++ List.replicate (givenBack o readch) (.postUnref post)))))

/-- **How `fs_rdma_do_reads` returns.** -/
inductive ReadsRan (ctx : PostContext) : ℤ → PostContext → List ReadsAct → Prop
  /-- There are no chunks. -/
  | empty (h : readch.chunks = []) : ReadsRan ctx (-1) ctx []
  /-- There is no buffer. -/
  | noBuffer (hne : readch.chunks ≠ []) (h : o.iobufGet2 = none) :
      ReadsRan ctx (-1) { ctx with fsRdmaReads := readch.count }
        [.iobufGet2 peer.iobufPool (totalSize readch) none]
  /-- There is no `iobref`. -/
  | noIobref {b : ℕ} (hne : readch.chunks ≠ []) (h : o.iobufGet2 = some b)
      (hnone : heldIobref o ctx = none) : ReadsRan ctx (-1) (ctx.held o readch)
        [.iobufGet2 peer.iobufPool (totalSize readch) (some b), .iobrefNew none, .iobufUnref b]
  /-- The buffer is handed over. -/
  | held {b : ℕ} {ret : ℤ} {c' : PostContext} {t : List ReadsAct} (hne : readch.chunks ≠ [])
      (hn : readch.count ≤ intMax) (h : o.iobufGet2 = some b) (hsome : heldIobref o ctx ≠ none)
      (hran : ArraysRan peer post o readch ctx ret c' t) :
      ReadsRan ctx ret c' (bufferActs peer o readch ctx b ++ t)

/-- **Where it stops**: counting the chunks, or preparing a request. -/
inductive ReadsStuck (ctx : PostContext) : List ReadsAct → Prop
  | counting (h : intMax < readch.count) : ReadsStuck ctx []
  | preparing {b k : ℕ} {t : List ReadsAct} (hne : readch.chunks ≠ [])
      (hn : readch.count ≤ intMax) (h : o.iobufGet2 = some b)
      (hsome : heldIobref o ctx ≠ none) (hk : k < readch.count)
      (ht : t <+: prepareActs post o readch ctx k) :
      ReadsStuck ctx (bufferActs peer o readch ctx b ++ (callocActs readch ++
        (preparedActs post o readch ctx k ++ t)))

/-- **`fs_rdma_do_reads`.** -/
theorem post_fsRdmaDoReads (ctx : PostContext) :
    Traced.Post (fsRdmaDoReads peer post o readch.cells) ctx
      (fun ret c' t => ReadsRan peer post o readch ctx ret c' t)
      (fun _ _ t => ReadsStuck peer post o readch ctx t) := by
  rw [fsRdmaDoReads, Traced.post_withLocals, Traced.post_bind, Traced.post_firstExit_cons]
  refine (post_measureChunks readch ctx).mono ?_ ?_
  swap
  · rintro e s t ⟨rfl, -, hmax⟩
    exact ReadsStuck.counting hmax
  rintro (_ | u) s t ⟨rfl, hmeasured⟩
  swap
  · obtain ⟨hnil, rfl⟩ := hmeasured
    rw [Traced.post_of_run (run_readsOut post _)]
    exact ReadsRan.empty hnil
  obtain ⟨hne, hn, rfl⟩ := hmeasured
  have hpos : 0 < readch.count := List.length_pos_iff.mpr hne
  simp only [Traced.post_firstExit_cons]
  refine (post_obtainBuffer peer o readch ctx).mono ?_ fun e s t hf => hf.elim
  rintro (_ | u) s t hobtained
  swap
  · obtain ⟨hret, hlist, hwr, hbuf, href, hcase⟩ := hobtained
    rw [Traced.post_of_run (run_readsOut post s), outActs, hret, hlist, hwr, hbuf, href]
    simp only [Option.isSome_none, Bool.false_eq_true, if_false, if_true, Int.toNat_zero,
      List.replicate_zero, Option.toList_none, List.map_nil, List.append_nil, List.nil_append]
    rcases hcase with ⟨hnone, hctx, rfl⟩ | ⟨b, hget, hnone, hctx, rfl⟩
    · rw [hctx]
      exact ReadsRan.noBuffer hne hnone
    · rw [hctx]
      exact ReadsRan.noIobref hne hget hnone
  obtain ⟨b, hget, hheld, rfl, rfl⟩ := hobtained
  -- the arrays
  refine (post_allocateArrays peer o readch ctx).mono ?_ fun e s t hf => hf.elim
  rintro (_ | u) s t hallocated
  swap
  · obtain ⟨hctx, hret, hwr, hbuf, href, hcase⟩ := hallocated
    rw [Traced.post_of_run (run_readsOut post s), outActs, hret, hwr, hbuf, href]
    simp only [Option.isSome_none, Bool.false_eq_true, if_false, if_true, Int.toNat_zero,
      List.replicate_zero, Option.toList_none, List.map_nil, List.append_nil, List.nil_append,
      List.append_assoc]
    refine ReadsRan.held hne hn hget hheld ?_
    rw [hctx]
    rcases hcase with ⟨hconn, hlist, rfl⟩ | ⟨hcalloc, hlist, rfl⟩ | ⟨hcalloc, hlist, rfl⟩
    · rw [hlist]
      exact ArraysRan.unconnected hconn
    · rw [hlist]
      exact ArraysRan.noList hcalloc
    · rw [if_pos (Option.isSome_iff_ne_none.mpr hlist)]
      exact ArraysRan.noWr hcalloc
  obtain ⟨hconn, -, -, rfl, rfl⟩ := hallocated
  -- one request for each chunk
  refine (post_prepareReads post o readch ctx).mono ?_ ?_
  swap
  · rintro e s t ⟨k, hk, t', hprefix, rfl⟩
    exact ReadsStuck.preparing hne hn hget hheld hk hprefix
  rintro (_ | u) s t hprepared
  swap
  · obtain ⟨k, hk, hfail, hret, href, hbuf, hiobref, hlist, hwr, rfl⟩ := hprepared
    rw [Traced.post_of_run (run_readsOut post s), outActs, hret, hbuf, href,
      if_pos (Option.isSome_iff_ne_none.mpr hlist), if_pos (Option.isSome_iff_ne_none.mpr hwr)]
    have hran : ArraysRan peer post o readch ctx (-1) s.ctx _ :=
      ArraysRan.unregistered hk hfail hiobref
    simpa only [if_true, Int.toNat_natCast, Option.toList_none, List.map_nil, List.append_nil,
      List.append_assoc, List.nil_append, List.cons_append, freeActs] using
      ReadsRan.held hne hn hget hheld hran
  refine (post_postReads peer post o readch hprepared hpos).mono ?_ fun e s t hf => hf.elim
  rintro r s' t' ⟨hctx, hlist, hwr, hbuf, hret, href, rfl⟩
  -- what is released at the end
  have hout : outActs post s' = freeActs ++
      (if o.ibvPostSend = 0 then []
        else List.replicate (givenBack o readch) (.postUnref post)) := by
    rw [outActs, hret, hbuf, if_pos (Option.isSome_iff_ne_none.mpr hlist),
      if_pos (Option.isSome_iff_ne_none.mpr hwr)]
    by_cases hsend : o.ibvPostSend = 0
    · simp only [hsend, if_true, freeActs]
      rfl
    · rw [href hsend]
      simp only [hsend, if_false, if_true, Int.toNat_natCast, Option.toList_none, List.map_nil,
        List.append_nil, freeActs, List.cons_append, List.nil_append]
  have hran : ReadsRan peer post o readch ctx s'.ret s'.ctx (bufferActs peer o readch ctx b ++
      (callocActs readch ++ (t ++ (postAct peer post o readch ctx :: outActs post s')))) := by
    refine ReadsRan.held hne hn hget hheld ?_
    rw [hctx, hret, hout]
    by_cases hsend : o.ibvPostSend = 0
    · simp only [hsend, if_true, List.append_nil]
      exact ArraysRan.accepted hprepared hsend hconn
    · simp only [hsend, if_false]
      exact ArraysRan.rejected hprepared hsend hconn
  cases r with
  | none =>
    simp only [Traced.post_firstExit_nil, Traced.post_of_run (run_readsOut post s'),
      List.nil_append, List.append_assoc, List.cons_append]
    exact hran
  | some u =>
    simp only [Traced.post_of_run (run_readsOut post s'), List.nil_append, List.append_assoc,
      List.cons_append]
    exact hran

/-! ### What is posted -/

/-- The call that posts a chain. -/
def ReadsAct.isPosting : ReadsAct → Bool
  | .ibvPostSend .. => true
  | _ => false

section Posting

variable {peer post o readch} {ctx : PostContext}

/-- The calls of the loop register and take references. -/
theorem eq_of_mem_preparedActs {k : ℕ} {a : ReadsAct}
    (h : a ∈ preparedActs post o readch ctx k) :
    (∃ v ret, a = .registerLocalMr v ret) ∨ a = .postRef post := by
  obtain ⟨j, -, hj⟩ := List.mem_flatMap.mp h
  simp only [prepareActs, List.mem_cons, List.not_mem_nil, or_false] at hj
  rcases hj with rfl | rfl
  · exact Or.inl ⟨_, _, rfl⟩
  · exact Or.inr rfl

theorem filter_preparedActs (k : ℕ) :
    (preparedActs post o readch ctx k).filter ReadsAct.isPosting = [] := by
  refine List.filter_eq_nil_iff.mpr fun a ha => ?_
  rcases eq_of_mem_preparedActs ha with ⟨v, ret, rfl⟩ | rfl <;> exact Bool.false_ne_true

theorem filter_bufferActs (b : ℕ) :
    (bufferActs peer o readch ctx b).filter ReadsAct.isPosting = [] := by
  rw [bufferActs, iobrefActs]
  split <;> rfl

theorem filter_replicate (k : ℕ) :
    (List.replicate k (ReadsAct.postUnref post)).filter ReadsAct.isPosting = [] := by
  refine List.filter_eq_nil_iff.mpr fun a ha => ?_
  rw [List.eq_of_mem_replicate ha]
  exact Bool.false_ne_true

/-- **At most one chain is posted**, and the result says how that went. -/
theorem ArraysRan.posted {ret : ℤ} {c' : PostContext} {t : List ReadsAct}
    (h : ArraysRan peer post o readch ctx ret c' t) :
    t.filter ReadsAct.isPosting = [] ∧ ret = -1 ∨
      t.filter ReadsAct.isPosting = [postAct peer post o readch ctx] ∧
        ret = if o.ibvPostSend = 0 then 0 else -1 := by
  cases h with
  | unconnected | noList | noWr => exact Or.inl ⟨rfl, rfl⟩
  | unregistered =>
    refine Or.inl ⟨?_, rfl⟩
    rw [List.filter_append, List.filter_append, filter_preparedActs,
      List.filter_cons_of_neg Bool.false_ne_true, List.filter_append, filter_replicate]
    rfl
  | accepted h hret =>
    refine Or.inr ⟨?_, (if_pos hret).symm⟩
    rw [h.trace, List.filter_append, List.filter_append, filter_preparedActs]
    rfl
  | rejected h hret =>
    refine Or.inr ⟨?_, (if_neg hret).symm⟩
    rw [h.trace, List.filter_append, List.filter_append, filter_preparedActs,
      List.filter_cons_of_pos rfl, List.filter_append, filter_replicate]
    rfl

theorem ReadsRan.posted {ret : ℤ} {c' : PostContext} {t : List ReadsAct}
    (h : ReadsRan peer post o readch ctx ret c' t) :
    t.filter ReadsAct.isPosting = [] ∧ ret = -1 ∨
      t.filter ReadsAct.isPosting = [postAct peer post o readch ctx] ∧ 0 < readch.count ∧
        ret = if o.ibvPostSend = 0 then 0 else -1 := by
  cases h with
  | empty | noBuffer | noIobref => exact Or.inl ⟨rfl, rfl⟩
  | held hne hn hget hsome hran =>
    rw [List.filter_append, filter_bufferActs, List.nil_append]
    rcases hran.posted with hnone | ⟨hpost, hret⟩
    · exact Or.inl hnone
    · exact Or.inr ⟨hpost, List.length_pos_iff.mpr hne, hret⟩

end Posting

end Transport
