import RdmaCpp.Transport.ReadsRan

/-!
# The chunks end up in the buffer, one behind the other

When `fs_rdma_do_reads` returns `0`, it has posted a chain of as many requests as there are
chunks, and each reads its chunk into its own piece of the buffer. The pieces tile the
buffer, so the device may execute the requests in any order: at the end the buffer holds
the concatenation of the chunks (`Transport.exists_scattered_of_zero`).

Nothing is assumed of the calls but what the code relies on for the keys: a registration
that does not fail appends one region to those of the post, for the very piece it was given
(`Transport.Registers`).
-/

namespace Transport

/-! ### Following and executing a chain -/

/-- **The chain from a request on**, followed through `next` to its end. -/
inductive Follows (wr : List IbvSendWr) : Option ℕ → List IbvSendWr → Prop
  | nil : Follows wr none []
  | cons {i : ℕ} {w : IbvSendWr} {ws : List IbvSendWr} (h : wr[i]? = some w)
      (ht : Follows wr w.next ws) : Follows wr (some i) (w :: ws)

/-- The piece of local memory that a request names. -/
def IbvSendWr.sge (list : List IbvSge) (w : IbvSendWr) : Option IbvSge :=
  w.sgList.bind fun i => list[i]?

/-- The places in local memory that a request writes to. -/
def IbvSendWr.range (list : List IbvSge) (w : IbvSendWr) : Set ℕ :=
  {y | ∃ s, w.sge list = some s ∧ s.addr ≤ y ∧ y < s.addr + s.length.toNat}

/-- What lies in the memory of the peer, under a key from an address on. -/
def remoteBytes (remote : UInt32 → ℕ → UInt8) (rkey : UInt32) (a len : ℕ) : List UInt8 :=
  (List.range len).map fun k => remote rkey (a + k)

/-- What executing a request writes, and where. -/
def IbvSendWr.writes (remote : UInt32 → ℕ → UInt8) (list : List IbvSge) (w : IbvSendWr) :
    ℕ × List UInt8 :=
  match w.sge list with
  | none => (0, [])
  | some s => (s.addr, remoteBytes remote w.rkey w.remoteAddr.toNat s.length.toNat)

/-- Local memory after the requests have been executed one after the other. -/
def execute (remote : UInt32 → ℕ → UInt8) (list : List IbvSge) (mem : ℕ → UInt8)
    (ws : List IbvSendWr) : ℕ → UInt8 :=
  Scatter.scatter mem (ws.map (IbvSendWr.writes remote list))

/-- The contents of a chunk. -/
def ReadChunk.bytes (remote : UInt32 → ℕ → UInt8) (ch : ReadChunk) : List UInt8 :=
  remoteBytes remote ch.rcTarget.rsHandle ch.rcTarget.rsOffset.toNat ch.len

/-! ### What is asked of a call that returns `0` -/

/-- **What the code relies on in `__fs_rdma_register_local_mr_for_rdma`**: it fails with `-1`,
or returns `0` with one more region, for the piece it was given. -/
def Registers (register : ℕ → IoVec → List IbvMr → ℤ × List IbvMr) : Prop :=
  ∀ k v ms, (register k v ms).1 = -1 ∨ (register k v ms).1 = 0 ∧
    ∃ m : IbvMr, (register k v ms).2 = ms ++ [m] ∧ m.addr = v.iovBase ∧ m.length = v.iovLen.toNat

/-- What a call has posted: the buffer, the arrays, the chain and the regions. -/
structure Posting where
  size : UInt64
  iobuf : ℕ
  base : ℕ
  wr : List IbvSendWr
  list : List IbvSge
  badWr : Option ℕ
  chain : List IbvSendWr
  regions : List IbvMr

/-- A request reads a chunk into a piece of local memory, under the key of the region
registered for that piece. -/
structure ReadsInto (list : List IbvSge) (w : IbvSendWr) (ch : ReadChunk) (addr : ℕ)
    (m : IbvMr) : Prop where
  opcode : w.opcode = .rdmaRead
  numSge : w.numSge = 1
  remoteAddr : w.remoteAddr = ch.rcTarget.rsOffset
  rkey : w.rkey = ch.rcTarget.rsHandle
  sge : w.sge list = some ⟨addr, ch.rcTarget.rsLength, m.lkey⟩
  region : m.addr = addr ∧ m.length = ch.len

/-- **The chunks are scattered right.** -/
structure Scattered (peer : FsRdmaPeer) (readch : ReadChunkArray) (ctx ctx' : PostContext)
    (t : List ReadsAct) (p : Posting) : Prop where
  /-- The buffer has the total length, which does not wrap. -/
  buffer : .iobufGet2 peer.iobufPool p.size (some p.iobuf) ∈ t ∧ .iobufPtr p.iobuf p.base ∈ t
  size : p.size.toNat = readch.lens.sum
  /-- One chain is posted, and accepted. -/
  posted : t.filter ReadsAct.isPosting =
    [.ibvPostSend peer.qp p.wr p.list 0 p.badWr]
  /-- It has one request for each chunk, and ends. -/
  follows : Follows p.wr (some 0) p.chain
  length : p.chain.length = readch.count
  /-- Each request reads its chunk to its offset. -/
  reads : ∀ j < readch.count, ∃ w m, p.chain[j]? = some w ∧ p.regions[j]? = some m ∧
    ReadsInto p.list w (readch.chunk j) (p.base + Scatter.offset readch.lens j) m
  /-- The regions are those that the call has added. -/
  regions : ctx'.mr = ctx.mr ++ p.regions
  /-- The local ranges are pairwise disjoint, and tile the buffer. -/
  disjoint : ∀ (i j : ℕ) (w w' : IbvSendWr), p.chain[i]? = some w → p.chain[j]? = some w' → i ≠ j →
    Disjoint (w.range p.list) (w'.range p.list)
  tile : {y | ∃ w ∈ p.chain, y ∈ w.range p.list} =
    {y | p.base ≤ y ∧ y < p.base + p.size.toNat}
  /-- The vector records the pieces, from the entry value of `count` on. -/
  nonneg : 0 ≤ ctx.count
  vector : Scatter.Written ctx.vector ctx.count.toNat
    (fun j => ⟨p.base + Scatter.offset readch.lens j,
      (readch.chunk j).rcTarget.rsLength.toUInt64⟩) readch.count ctx'.vector
  count : ctx'.count = ctx.count + readch.count
  fsRdmaReads : ctx'.fsRdmaReads = readch.count
  /-- In whatever order the requests are executed, the buffer holds the chunks, one behind the
  other, and nothing else has changed. -/
  contents : ∀ (remote : UInt32 → ℕ → UInt8) (mem : ℕ → UInt8) (order : List IbvSendWr),
    order.Perm p.chain → execute remote p.list mem order =
      Scatter.write mem p.base (readch.chunks.flatMap (ReadChunk.bytes remote))

/-! ### The chain -/

variable {peer : FsRdmaPeer} {post : ℕ} {o : ReadsOutcomes} {readch : ReadChunkArray}
  {ctx : PostContext}

theorem length_postedWr : (postedWr post readch).length = readch.count := by
  rw [postedWr, List.length_map, List.length_range]

theorem getElem?_postedWr {j : ℕ} (h : j < readch.count) :
    (postedWr post readch)[j]? = some (chainWr post readch j) := by
  rw [postedWr, List.getElem?_map, List.getElem?_range h, Option.map_some]

theorem getElem?_postedList {j : ℕ} (h : j < readch.count) :
    (postedList o readch ctx)[j]? = some (sge o readch ctx j) := by
  rw [postedList, List.getElem?_map, List.getElem?_range h, Option.map_some]

/-- The chain from the `j`-th request on is the rest of the array. -/
theorem follows_postedWr (m j : ℕ) (hj : j + m = readch.count) (hm : 0 < m) :
    Follows (postedWr post readch) (some j) ((postedWr post readch).drop j) := by
  induction m generalizing j with
  | zero => exact absurd hm (Nat.lt_irrefl 0)
  | succ m ih =>
    have hlt : j < readch.count := by omega
    have hget : (postedWr post readch)[j]? = some (chainWr post readch j) :=
      getElem?_postedWr hlt
    have hdrop : (postedWr post readch).drop j =
        chainWr post readch j :: (postedWr post readch).drop (j + 1) := by
      obtain ⟨hlen, heq⟩ := List.getElem?_eq_some_iff.mp hget
      rw [List.drop_eq_getElem_cons hlen, heq]
    rw [hdrop]
    refine Follows.cons hget ?_
    rcases Nat.eq_zero_or_pos m with rfl | hpos
    · -- the last request
      have hnext : (chainWr post readch j).next = none := if_neg (by omega)
      rw [hnext, List.drop_eq_nil_of_le (by rw [length_postedWr]; omega)]
      exact Follows.nil
    · have hnext : (chainWr post readch j).next = some (j + 1) := if_pos (by omega)
      rw [hnext]
      exact ih (j + 1) (by omega) hpos

/-! ### The regions -/

/-- **Each registration adds the region for its piece.** -/
theorem exists_regions (hreg : Registers o.register) (k : ℕ)
    (h : ∀ j < k, registerRet o readch ctx j ≠ -1) : ∃ ms : List IbvMr,
      regions o readch ctx k = ctx.mr ++ ms ∧ ms.length = k ∧ ∀ j < k, ∃ m, ms[j]? = some m ∧
        m.addr = (piece o readch j).iovBase ∧ m.length = (piece o readch j).iovLen.toNat ∧
        (regions o readch ctx (j + 1)).getLast? = some m := by
  induction k with
  | zero => exact ⟨[], (List.append_nil _).symm, rfl, fun j hj => absurd hj (Nat.not_lt_zero j)⟩
  | succ k ih =>
    obtain ⟨ms, hms, hlen, hall⟩ := ih fun j hj => h j (Nat.lt_succ_of_lt hj)
    -- the registration has not failed, so it has added a region
    rcases hreg k (piece o readch k) (regions o readch ctx k) with hfail | ⟨-, m, hm, haddr, hmlen⟩
    · exact absurd hfail (h k (Nat.lt_succ_self k))
    have hnext : regions o readch ctx (k + 1) = regions o readch ctx k ++ [m] := hm
    refine ⟨ms ++ [m], ?_, ?_, fun j hj => ?_⟩
    · rw [hnext, hms, List.append_assoc]
    · rw [List.length_append, hlen, List.length_singleton]
    rcases Nat.lt_or_ge j k with hlt | hge
    · obtain ⟨m', hget, hrest⟩ := hall j hlt
      refine ⟨m', ?_, hrest⟩
      rw [List.getElem?_append_left (by omega), hget]
    · obtain rfl : j = k := by omega
      refine ⟨m, ?_, haddr, hmlen, ?_⟩
      · rw [List.getElem?_append_right (by omega), hlen, Nat.sub_self]
        rfl
      · rw [hnext, List.getLast?_concat]

/-! ### The pieces -/

theorem sge_chainWr {j : ℕ} (h : j < readch.count) :
    (chainWr post readch j).sge (postedList o readch ctx) = some (sge o readch ctx j) :=
  getElem?_postedList h

/-- The length of a piece, as a request has it. -/
theorem toNat_length_sge (j : ℕ) :
    (sge o readch ctx j).length.toNat = (readch.chunk j).len := by
  rw [sge, piece, UInt32.toUInt32_toUInt64, ReadChunk.len]

/-- **A request writes to the range of its piece.** -/
theorem range_chainWr {j : ℕ} (h : j < readch.count) :
    (chainWr post readch j).range (postedList o readch ctx) =
      Scatter.range o.iobufPtr readch.lens j := by
  ext y
  constructor
  · rintro ⟨s, hs, hlo, hhi⟩
    rw [sge_chainWr h] at hs
    obtain rfl := Option.some.inj hs
    rw [toNat_length_sge] at hhi
    exact ⟨_, readch.getElem?_lens h, hlo, hhi⟩
  · rintro ⟨x, hx, hlo, hhi⟩
    rw [readch.getElem?_lens h] at hx
    obtain rfl := Option.some.inj hx
    refine ⟨_, sge_chainWr h, hlo, ?_⟩
    rw [toNat_length_sge]
    exact hhi

/-- What is posted are the requests of the chain, one a chunk. -/
theorem eq_chainWr_of_getElem? {j : ℕ} {w : IbvSendWr}
    (h : (postedWr post readch)[j]? = some w) : j < readch.count ∧ w = chainWr post readch j := by
  have hlt : j < readch.count := by
    have hlen := (List.getElem?_eq_some_iff.mp h).1
    rwa [length_postedWr] at hlen
  rw [getElem?_postedWr hlt] at h
  exact ⟨hlt, (Option.some.inj h).symm⟩

/-- **No two requests write to one place.** -/
theorem disjoint_postedWr {i j : ℕ} {w w' : IbvSendWr} (hw : (postedWr post readch)[i]? = some w)
    (hw' : (postedWr post readch)[j]? = some w') (hij : i ≠ j) :
    Disjoint (w.range (postedList o readch ctx)) (w'.range (postedList o readch ctx)) := by
  obtain ⟨hi, rfl⟩ := eq_chainWr_of_getElem? hw
  obtain ⟨hj, rfl⟩ := eq_chainWr_of_getElem? hw'
  rw [range_chainWr hi, range_chainWr hj]
  exact Scatter.disjoint_range _ _ hij

/-- **Together they write to the whole buffer.** -/
theorem tile_postedWr : {y | ∃ w ∈ postedWr post readch, y ∈ w.range (postedList o readch ctx)} =
    {y | o.iobufPtr ≤ y ∧ y < o.iobufPtr + readch.lens.sum} := by
  rw [← Scatter.iUnion_range]
  ext y
  rw [Set.mem_iUnion]
  constructor
  · rintro ⟨w, hw, hy⟩
    obtain ⟨j, hj⟩ := List.getElem?_of_mem hw
    obtain ⟨hlt, rfl⟩ := eq_chainWr_of_getElem? hj
    rw [range_chainWr hlt] at hy
    exact ⟨j, hy⟩
  · rintro ⟨j, hy⟩
    have hlt : j < readch.count := by
      obtain ⟨x, hx, -, -⟩ := hy
      rw [← readch.length_lens]
      exact (List.getElem?_eq_some_iff.mp hx).1
    refine ⟨_, List.mem_of_getElem? (getElem?_postedWr hlt), ?_⟩
    rw [range_chainWr hlt]
    exact hy

theorem length_bytes (remote : UInt32 → ℕ → UInt8) (ch : ReadChunk) :
    (ch.bytes remote).length = ch.len := by
  rw [ReadChunk.bytes, remoteBytes, List.length_map, List.length_range]

/-- What the requests write is the chunks, laid out in the buffer. -/
theorem writes_postedWr (remote : UInt32 → ℕ → UInt8) :
    (postedWr post readch).map (IbvSendWr.writes remote (postedList o readch ctx)) =
      Scatter.laid o.iobufPtr (readch.chunks.map (ReadChunk.bytes remote)) := by
  have hlens : (readch.chunks.map (ReadChunk.bytes remote)).map List.length = readch.lens := by
    rw [List.map_map]
    exact List.map_congr_left fun ch _ => length_bytes remote ch
  refine List.ext_getElem? fun j => ?_
  rw [List.getElem?_map, Scatter.getElem?_laid, hlens, List.getElem?_map]
  rcases Nat.lt_or_ge j readch.count with hlt | hge
  · rw [getElem?_postedWr hlt, readch.getElem?_chunks hlt, Option.map_some, Option.map_some,
      Option.map_some, IbvSendWr.writes, sge_chainWr hlt]
    simp only [toNat_length_sge]
    rfl
  · have hwr : (postedWr post readch)[j]? = none := by
      refine List.getElem?_eq_none ?_
      rwa [length_postedWr]
    have hchunk : readch.chunks[j]? = none := List.getElem?_eq_none hge
    rw [hwr, hchunk]
    rfl

/-! ### The whole call -/

/-- **The chunks are scattered right** whenever `fs_rdma_do_reads` returns `0`. -/
theorem exists_scattered_of_zero (hreg : Registers o.register) {ctx' : PostContext}
    {t : List ReadsAct}
    (h : fsRdmaDoReads peer post o readch.cells ctx = ⟨.ok 0, ctx', t⟩) :
    ∃ p, Scattered peer readch ctx ctx' t p := by
  have hran : ReadsRan peer post o readch ctx 0 ctx' t :=
    (post_fsRdmaDoReads peer post o readch ctx).of_ok h
  rcases hran.posted with ⟨-, hc⟩ | ⟨hfilter, -, -⟩
  · cases hc
  cases hran with
  | held hne hn hget hsome hran =>
    rename_i b t'
    cases hran with
    | @accepted s t'' hprep hret _ =>
      have hpos : 0 < readch.count := List.length_pos_iff.mpr hne
      -- the regions that were added, one for each piece
      obtain ⟨ms, hms, hmslen, hmsall⟩ := exists_regions hreg readch.count hprep.registered
      have hsize : (totalSize readch).toNat = readch.lens.sum := by
        rw [totalSize, UInt64.toNat_ofNat', Nat.mod_eq_of_lt (readch.sum_lens_lt hn)]
      refine ⟨⟨totalSize readch, b, o.iobufPtr, postedWr post readch, postedList o readch ctx,
        o.badWr, postedWr post readch, ms⟩, ?_⟩
      refine ⟨⟨?_, ?_⟩, hsize, ?_, ?_, length_postedWr, fun j hj => ?_, ?_, ?_, ?_, hprep.room hpos,
        hprep.vector, hprep.count, hprep.reads, ?_⟩
      · exact List.mem_append_left _ List.mem_cons_self
      · refine List.mem_append_left _ (List.mem_cons_of_mem _ (List.mem_append_right _ ?_))
        simp only [List.mem_cons, List.not_mem_nil, or_false, or_true]
      · rw [hfilter, postAct, hret]
      · exact follows_postedWr readch.count 0 (Nat.zero_add _) hpos
      · obtain ⟨m, hm, haddr, hmlen, hlast⟩ := hmsall j hj
        refine ⟨chainWr post readch j, m, getElem?_postedWr hj, hm, rfl, rfl, rfl, rfl, ?_, ?_⟩
        · rw [sge_chainWr hj, sge, hlast, piece, UInt32.toUInt32_toUInt64]
          rfl
        · exact ⟨haddr, hmlen⟩
      · rw [hprep.mr, hms]
      · exact fun i j w w' hw hw' hij => disjoint_postedWr hw hw' hij
      · rw [hsize]
        exact tile_postedWr
      · -- the order does not matter, since the ranges are disjoint
        intro remote mem order hperm
        have hwrites := hperm.map (IbvSendWr.writes remote (postedList o readch ctx))
        rw [writes_postedWr] at hwrites
        rw [execute, Scatter.scatter_eq_of_perm hwrites, List.flatMap_def]

theorem Sample.registers : Registers Sample.register :=
  fun _ _ _ => Or.inr ⟨rfl, _, rfl, rfl, rfl⟩

/-- Two chunks, read into a buffer at address `1000`. -/
theorem exists_scattered_sample : ∃ ctx' t,
    fsRdmaDoReads Sample.peer 9 Sample.reads Sample.readch.cells Sample.postContext =
      ⟨.ok 0, ctx', t⟩ ∧ ∃ p, Scattered Sample.peer Sample.readch Sample.postContext ctx' t p := by
  have hrun : fsRdmaDoReads Sample.peer 9 Sample.reads Sample.readch.cells Sample.postContext =
      ⟨.ok 0, _, _⟩ := rfl
  have hreg : Registers Sample.reads.register := Sample.registers
  exact ⟨_, _, hrun, exists_scattered_of_zero hreg hrun⟩

end Transport
