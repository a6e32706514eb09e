import RdmaCpp.Lib.Traced
import RdmaCpp.Verbs

/-!
# Reading the chunks of a peer

`fs_rdma_do_reads`: the chunks that a message names are read from the memory of the peer
into one buffer, by a chain of work requests that is posted in one call.

The function measures the chunks, obtains a buffer for their total length and hands it to
the `iobref` of the post, allocates the arrays `list` and `wr`, fills them by a second pass
over the chunks that registers each piece of the buffer and takes a reference on the post
for each request, and posts the chain. Every failure leaves for the label `out`, where the
arrays are freed and, when the result is `-1`, the references given back that no request
needs.

The types of the parameters are declared nowhere in the repository; they have the fields
that the function uses. `__fs_rdma_register_local_mr_for_rdma` is not defined in it either:
it is a parameter, which sees the piece to register and the regions of the post, `ctx.mr[0]`
to `ctx.mr[mr_count - 1]`, and may change these only. The code takes no lock where the
braces around the second half of the function stand.
-/

namespace Transport

/-! ### Data -/

/-- A piece of the memory of the peer, `rc_target`. -/
structure Segment where
  rsHandle : UInt32
  rsLength : UInt32
  rsOffset : UInt64
  deriving DecidableEq

/-- A read chunk, `fs_rdma_read_chunk_t`. -/
structure ReadChunk where
  /-- `0` in the chunk that ends an array. -/
  rcDiscrim : UInt32
  rcTarget : Segment
  deriving DecidableEq

/-- The length of a chunk. -/
def ReadChunk.len (ch : ReadChunk) : ℕ := ch.rcTarget.rsLength.toNat

/-- **A terminated array of read chunks**, in memory: its entries, the chunk that ends it,
and whatever lies behind. -/
structure ReadChunkArray where
  chunks : List ReadChunk
  terminator : ReadChunk
  beyond : List ReadChunk
  discrim_ne : ∀ ch ∈ chunks, ch.rcDiscrim ≠ 0
  discrim_eq : terminator.rcDiscrim = 0

/-- The memory a terminated array is in. -/
def ReadChunkArray.cells (readch : ReadChunkArray) : List ReadChunk :=
  readch.chunks ++ readch.terminator :: readch.beyond

/-- The lengths of the chunks. -/
def ReadChunkArray.lens (readch : ReadChunkArray) : List ℕ := readch.chunks.map ReadChunk.len

/-- A piece of local memory, `struct iovec`. -/
structure IoVec where
  iovBase : ℕ
  iovLen : UInt64
  deriving DecidableEq

/-- A memory region, `struct ibv_mr`: the range that is registered, and its key. -/
structure IbvMr where
  addr : ℕ
  length : ℕ
  lkey : UInt32
  deriving DecidableEq

/-- A piece of local memory as a work request names it, `struct ibv_sge`. -/
structure IbvSge where
  addr : ℕ
  length : UInt32
  lkey : UInt32
  deriving DecidableEq

/-- The operations of work requests that the code uses, and the one of a cleared request. -/
inductive WrOpcode
  | rdmaWrite
  | rdmaRead
  deriving DecidableEq

/-- A work request, `struct ibv_send_wr`. Its pointers lead into the arrays `list` and `wr`,
and are the indices there. -/
structure IbvSendWr where
  wrId : ℕ
  next : Option ℕ
  sgList : Option ℕ
  numSge : ℤ
  opcode : WrOpcode
  signaled : Bool
  remoteAddr : UInt64
  rkey : UInt32
  deriving DecidableEq

/-- The context of a post, `post->ctx`. -/
structure PostContext where
  vector : List IoVec
  count : ℤ
  /-- The regions up to `mr_count`. -/
  mr : List IbvMr
  iobref : Ptr
  fsRdmaReads : ℤ
  deriving DecidableEq

/-- A peer, `fs_rdma_peer_t`: `trans->private->connected`, `qp` and
`trans->ctx->iobuf_pool`. -/
structure FsRdmaPeer where
  connected : ℤ
  qp : ℕ
  iobufPool : ℕ
  deriving DecidableEq

/-- The two arrays that the function allocates. -/
inductive ReadsArray
  | list
  | wr
  deriving DecidableEq

/-- **An action** of `fs_rdma_do_reads`: a call with its arguments and what came back. -/
inductive ReadsAct
  | iobufGet2 (pool : ℕ) (size : UInt64) (res : Ptr)
  | iobrefNew (res : Ptr)
  | iobrefAdd (iobref : Ptr) (iobuf : ℕ) (ok : Bool)
  | iobufUnref (iobuf : ℕ)
  | iobufPtr (iobuf : ℕ) (res : ℕ)
  | calloc (array : ReadsArray) (count : ℤ) (ok : Bool)
  | free (array : ReadsArray)
  | registerLocalMr (vector : IoVec) (ret : ℤ)
  | postRef (post : ℕ)
  | postUnref (post : ℕ)
  /-- The chain is posted; the arrays are as the device finds them. -/
  | ibvPostSend (qp : ℕ) (wr : List IbvSendWr) (list : List IbvSge) (ret : ℤ)
      (badWr : Option ℕ)
  deriving DecidableEq

/-- What the calls of `fs_rdma_do_reads` bring back. -/
structure ReadsOutcomes where
  iobufGet2 : Ptr
  iobrefNew : Ptr
  /-- `iobref_add` succeeds; the code does not look. -/
  iobrefAdd : Bool
  /-- Where the buffer is in memory. -/
  iobufPtr : ℕ
  calloc : ReadsArray → Bool
  /-- `__fs_rdma_register_local_mr_for_rdma`, at each of its calls. -/
  register : ℕ → IoVec → List IbvMr → ℤ × List IbvMr
  ibvPostSend : ℤ
  /-- What a failing `ibv_post_send` leaves in `bad_wr`: a request, by its index. -/
  badWr : Option ℕ

/-- What stops the function for good. -/
inductive ReadsFault
  /-- An access outside of an array. -/
  | outOfBounds
  /-- An `int` is counted beyond its range. -/
  | signedOverflow
  deriving DecidableEq

/-! ### The monad -/

/-- The variables of the function, and the context of the post. -/
structure ReadsState where
  ctx : PostContext
  ret : ℤ
  i : ℕ
  size : UInt64
  ptr : ℕ
  iobuf : Ptr
  list : Option (List IbvSge)
  wr : Option (List IbvSendWr)
  badWr : Option ℕ
  totalRef : ℤ
  deriving DecidableEq

/-- The variables as they are declared. -/
def ReadsState.enter (ctx : PostContext) : ReadsState :=
  ⟨ctx, -1, 0, 0, 0, none, none, none, none, 0⟩

/-- A piece of `fs_rdma_do_reads`. A value returned by a piece is `goto out`. -/
abbrev ReadsM : Type → Type := Traced ReadsState ReadsAct ReadsFault

/-- The largest `int`. -/
def intMax : ℕ := 2 ^ 31 - 1

/-- `i++`. -/
def countUp : ReadsM Unit := do
  if (← Traced.get).i = intMax then Traced.stop .signedOverflow
  Traced.modify fun s => { s with i := s.i + 1 }

/-- Change a field of `post->ctx`. -/
def modifyCtx (f : PostContext → PostContext) : ReadsM Unit :=
  Traced.modify fun s => { s with ctx := f s.ctx }

/-- The loops over the chunks end at this one. -/
def ReadChunk.ends (ch : ReadChunk) : Bool := ch.rcDiscrim == 0

/-! ### The function -/

/-- One turn of the loop that adds the lengths up. -/
def measureChunk (ch : ReadChunk) : ReadsM (Option Unit) := do
  Traced.modify fun s => { s with size := s.size + ch.rcTarget.rsLength.toUInt64 }
  countUp
  return none

/-- The chunks are counted and their lengths added up. -/
def measureChunks (readch : List ReadChunk) : ReadsM (Option Unit) := do
  Traced.modify fun s => { s with i := 0 }
  let _ ← Traced.scan ReadChunk.ends .outOfBounds measureChunk readch
  let s ← Traced.get
  if s.i = 0 then return some ()
  modifyCtx fun c => { c with fsRdmaReads := s.i }
  Traced.modify fun s => { s with i := 0 }
  return none

/-- A buffer is obtained and handed to the `iobref` of the post. -/
def obtainBuffer (peer : FsRdmaPeer) (o : ReadsOutcomes) : ReadsM (Option Unit) := do
  Traced.emit (.iobufGet2 peer.iobufPool (← Traced.get).size o.iobufGet2)
  Traced.modify fun s => { s with iobuf := o.iobufGet2 }
  match o.iobufGet2 with
  | none => return some ()
  | some iobuf => do
    if (← Traced.get).ctx.iobref.isNone then
      Traced.emit (.iobrefNew o.iobrefNew)
      modifyCtx fun c => { c with iobref := o.iobrefNew }
      if o.iobrefNew.isNone then
        Traced.emit (.iobufUnref iobuf)
        Traced.modify fun s => { s with iobuf := none }
        return some ()
    Traced.emit (.iobrefAdd (← Traced.get).ctx.iobref iobuf o.iobrefAdd)
    Traced.emit (.iobufUnref iobuf)
    Traced.emit (.iobufPtr iobuf o.iobufPtr)
    Traced.modify fun s => { s with ptr := o.iobufPtr, iobuf := none }
    return none

/-- A cleared `struct ibv_sge`. -/
def clearedSge : IbvSge := ⟨0, 0, 0⟩

/-- A cleared `struct ibv_send_wr`. -/
def clearedWr : IbvSendWr := ⟨0, none, none, 0, .rdmaWrite, false, 0, 0⟩

/-- The arrays are allocated, when the peer is connected. -/
def allocateArrays (peer : FsRdmaPeer) (o : ReadsOutcomes) : ReadsM (Option Unit) := do
  if peer.connected = 0 then return some ()
  let n := (← Traced.get).ctx.fsRdmaReads
  Traced.emit (.calloc .list n (o.calloc .list))
  if o.calloc .list = false then
    Traced.modify fun s => { s with ret := -1 }
    return some ()
  Traced.modify fun s => { s with list := some (List.replicate n.toNat clearedSge) }
  Traced.emit (.calloc .wr n (o.calloc .wr))
  if o.calloc .wr = false then
    Traced.modify fun s => { s with ret := -1 }
    return some ()
  Traced.modify fun s => { s with wr := some (List.replicate n.toNat clearedWr) }
  return none

/-- `list[i] = sge`. -/
def storeSge (i : ℕ) (sge : IbvSge) : ReadsM Unit := do
  match (← Traced.get).list with
  | none => Traced.stop .outOfBounds
  | some l =>
    if i < l.length then Traced.modify fun s => { s with list := some (l.set i sge) }
    else Traced.stop .outOfBounds

/-- `wr[i] = w`. -/
def storeWr (i : ℕ) (w : IbvSendWr) : ReadsM Unit := do
  match (← Traced.get).wr with
  | none => Traced.stop .outOfBounds
  | some l =>
    if i < l.length then Traced.modify fun s => { s with wr := some (l.set i w) }
    else Traced.stop .outOfBounds

/-- `post->ctx.vector[post->ctx.count++] = v`. -/
def storeVector (v : IoVec) : ReadsM Unit := do
  let c := (← Traced.get).ctx
  if c.count = intMax then Traced.stop .signedOverflow
  modifyCtx fun c => { c with count := c.count + 1 }
  if 0 ≤ c.count ∧ c.count < c.vector.length then
    modifyCtx fun d => { d with vector := d.vector.set c.count.toNat v }
  else Traced.stop .outOfBounds

/-- The work request for a chunk, the `i`-th of the chain. -/
def readWr (post i : ℕ) (ch : ReadChunk) : IbvSendWr where
  wrId := post
  next := some (i + 1)
  sgList := some i
  numSge := 1
  opcode := .rdmaRead
  signaled := true
  remoteAddr := ch.rcTarget.rsOffset
  rkey := ch.rcTarget.rsHandle

/-- One turn of the loop that prepares the requests. -/
def prepareRead (post : ℕ) (o : ReadsOutcomes) (ch : ReadChunk) : ReadsM (Option Unit) := do
  let v : IoVec := ⟨(← Traced.get).ptr, ch.rcTarget.rsLength.toUInt64⟩
  storeVector v
  let s ← Traced.get
  let registered := o.register s.i v s.ctx.mr
  Traced.emit (.registerLocalMr v registered.1)
  modifyCtx fun c => { c with mr := registered.2 }
  Traced.modify fun s => { s with ret := registered.1 }
  if registered.1 = -1 then return some ()
  match registered.2.getLast? with
  | none => Traced.stop .outOfBounds
  | some mr => do
    storeSge s.i ⟨v.iovBase, v.iovLen.toUInt32, mr.lkey⟩
    Traced.emit (.postRef post)
    storeWr s.i (readWr post s.i ch)
    Traced.modify fun s =>
      { s with ptr := s.ptr + ch.len, totalRef := s.totalRef + 1 }
    countUp
    return none

/-- The requests are prepared. -/
def prepareReads (post : ℕ) (o : ReadsOutcomes) (readch : List ReadChunk) :
    ReadsM (Option Unit) := do
  Traced.modify fun s => { s with i := 0 }
  Traced.scan ReadChunk.ends .outOfBounds (prepareRead post o) readch

/-- `wr[i].next = NULL`. -/
def endChain (i : ℕ) : ReadsM Unit := do
  match (← Traced.get).wr.bind fun l => l[i]? with
  | none => Traced.stop .outOfBounds
  | some w => storeWr i { w with next := none }

/-- One turn of the loop that finds the request that failed. -/
def skipAccepted (badWr i : ℕ) : ReadsM (Option Unit) := do
  if i ≠ badWr then
    Traced.modify fun s => { s with totalRef := s.totalRef - 1 }
    return none
  else return some ()

/-- The chain is posted. When that fails, the requests before the one that failed have been
accepted, and their references are kept. -/
def postReads (peer : FsRdmaPeer) (o : ReadsOutcomes) : ReadsM (Option Unit) := do
  endChain ((← Traced.get).i - 1)
  let s ← Traced.get
  Traced.emit (.ibvPostSend peer.qp (s.wr.getD []) (s.list.getD []) o.ibvPostSend o.badWr)
  Traced.modify fun s => { s with ret := o.ibvPostSend }
  if o.ibvPostSend ≠ 0 then
    Traced.modify fun s => { s with badWr := o.badWr }
    match o.badWr with
    | none => do
      Traced.modify fun s => { s with ret := -1 }
      return some ()
    | some k => do
      let _ ← Traced.forLoop (skipAccepted k) 0 s.ctx.fsRdmaReads.toNat
      Traced.modify fun s => { s with ret := -1 }
      return none
  else return none

/-- One turn of the loop that gives references back. -/
def unrefPost (post _i : ℕ) : ReadsM (Option Empty) := do
  Traced.emit (.postUnref post)
  return none

/-- The code under the label `out`. The loop `while (total_ref-- > 0)` turns as often as
`total_ref` is positive. -/
def readsOut (post : ℕ) : ReadsM ℤ := do
  let s ← Traced.get
  if s.list.isSome then Traced.emit (.free .list)
  if s.wr.isSome then Traced.emit (.free .wr)
  if s.ret = -1 then
    let _ ← Traced.forLoop (unrefPost post) 0 s.totalRef.toNat
    match s.iobuf with
    | none => pure ()
    | some iobuf => Traced.emit (.iobufUnref iobuf)
  return s.ret

/-- **`fs_rdma_do_reads`**, as a function of the context of the post. -/
def fsRdmaDoReads (peer : FsRdmaPeer) (post : ℕ) (o : ReadsOutcomes) (readch : List ReadChunk) :
    Traced PostContext ReadsAct ReadsFault ℤ :=
  Traced.withLocals ReadsState.enter ReadsState.ctx do
    let _ ← Traced.firstExit [measureChunks readch, obtainBuffer peer o, allocateArrays peer o,
      prepareReads post o readch, postReads peer o]
    readsOut post

/-! ### A concrete call

Two chunks, one of them empty, for a post whose vector has one entry in use. -/

namespace Sample

/-- The peer. -/
def peer : FsRdmaPeer := ⟨1, 3, 4⟩

/-- The chunks, and the one that ends them. -/
def readch : ReadChunkArray where
  chunks := [⟨1, 7, 5, 4096⟩, ⟨1, 8, 0, 8192⟩]
  terminator := ⟨0, 0, 0, 0⟩
  beyond := []
  discrim_ne := by decide
  discrim_eq := rfl

/-- The context of the post. -/
def postContext : PostContext := ⟨List.replicate 4 ⟨0, 0⟩, 1, [⟨16, 1, 50⟩], none, 0⟩

/-- A registration that always succeeds. -/
def register (k : ℕ) (v : IoVec) (ms : List IbvMr) : ℤ × List IbvMr :=
  (0, ms ++ [⟨v.iovBase, v.iovLen.toNat, UInt32.ofNat (60 + k)⟩])

/-- Every call succeeds. -/
def reads : ReadsOutcomes := ⟨some 10, some 11, true, 1000, fun _ => true, register, 0, none⟩

end Sample

end Transport
