import RdmaCpp.Transport.Types

/-!
# Acquiring and releasing the resources

`fs_rdma_find_dev`, `fs_rdma_create_resources` and `fs_rdma_teardown`.

The acquisitions run one after another and leave through `goto out` on a failure,
which is `Transport.Exit.out`; the one path that returns past the label – the
`default` of the switch on the connection type, whose `return NULL` is the number
`0` – is `Transport.Exit.ret`. The cleanup under the label and the teardown are
made of the same statement, “if the field is not `NULL`, release it and set it to
`NULL`” (`Transport.releaseField`); both run it on the three array fields
themselves, once per turn of a loop that no longer finds anything on its second
turn.

Names of the source that are declared nowhere are read as the field they stand
for: `ctx` and `priv->device` are the context, `content` is its `context`, `attr`
in the switch is the queue pair's, and a `cq` to release stands for the send and
the receive completion queue in turn.
-/

namespace Transport

/-! ### Acquiring -/

/-- `fs_rdma_find_dev`: the named device, or the first one. -/
def fsRdmaFindDev (o : CreateOutcomes) (ibDevname : Option String) : TransportM Ptr := do
  Traced.emit (.ibvGetDeviceList o.ibvGetDeviceList.isSome)
  match o.ibvGetDeviceList with
  | none => return none
  | some devList =>
    if devList.length ≤ 0 then return none
    match ibDevname with
    | none => return devList.head?.map IbvDevice.ptr
    | some name => return (devList.find? fun d => d.name = name).map IbvDevice.ptr

/-- How a piece of `fs_rdma_create_resources` leaves it. -/
inductive Exit
  /-- `goto out` with this value in `ret`, or falling through to the label. -/
  | out (ret : ℤ)
  /-- `return` of this value, past the label. -/
  | ret (v : ℤ)
  deriving DecidableEq

/-- The depth asked for the completion queues: the product is computed in 32-bit
arithmetic, then clamped to what the device offers. -/
def cqeCount (config : RdmaParam) (maxCqe : ℤ) : ℤ :=
  let cqeCount := wrapInt32 (defaultBufDepth * config.qpCount)
  if cqeCount > maxCqe then maxCqe else cqeCount

/-- The attributes of the shared receive queue. -/
def srqAttr : SrqAttr := ⟨defaultBufDepth, 1, 10⟩

/-- The attributes of a queue pair of the given type. -/
def qpInitAttr (c : RdmaContext) (qpType : QpType) : QpInitAttr where
  sendCq := c.sendCq
  recvCq := c.recvCq
  srq := c.srq
  maxSendWr := defaultBufDepth
  maxRecvWr := defaultBufDepth
  maxSendSge := maxSendSge
  maxRecvSge := maxRecvSge
  qpType := qpType

/-- The access asked for a buffer. -/
def mrFlags : MrAccess := ⟨true, true, true⟩

/-- The device context, its port, the protection domain. -/
def createContext (config : RdmaParam) (o : CreateOutcomes) : TransportM (Option Exit) := do
  let ibDev ← fsRdmaFindDev o none
  Traced.emit (.ibvOpenDevice ibDev o.ibvOpenDevice)
  assign fun c => { c with context := o.ibvOpenDevice }
  if (← rdmaCtx).context.isNone then return some (.out (-1))
  Traced.emit (.ibvQueryPort (← rdmaCtx).context config.ibPort o.ibvQueryPort)
  if o.ibvQueryPort ≠ 0 then return some (.out (-1))
  Traced.emit (.ibvAllocPd (← rdmaCtx).context o.ibvAllocPd)
  assign fun c => { c with pd := o.ibvAllocPd }
  if (← rdmaCtx).pd.isNone then return some (.out (-1))
  return none

/-- The completion channel, when events are used. -/
def createChannel (config : RdmaParam) (o : CreateOutcomes) : TransportM (Option Exit) := do
  if config.useEvent ≠ 0 then
    Traced.emit (.ibvCreateCompChannel (← rdmaCtx).context o.ibvCreateCompChannel)
    assign fun c => { c with channel := o.ibvCreateCompChannel }
    if (← rdmaCtx).channel.isNone then return some (.out (-1))
  return none

/-- The completion queues, with the depth the device allows. The check after the
second one looks at the first one again. -/
def createCqs (config : RdmaParam) (o : CreateOutcomes) : TransportM (Option Exit) := do
  Traced.emit (.ibvQueryDevice (← rdmaCtx).context o.ibvQueryDevice)
  if o.ibvQueryDevice ≠ 0 then return some (.out (-1))
  let cqe := cqeCount config o.maxCqe
  let c ← rdmaCtx
  Traced.emit (.ibvCreateCq c.context cqe c.channel o.createSendCq)
  assign fun c => { c with sendCq := o.createSendCq }
  if (← rdmaCtx).sendCq.isNone then return some (.out (-1))
  let c ← rdmaCtx
  Traced.emit (.ibvCreateCq c.context cqe c.channel o.createRecvCq)
  assign fun c => { c with recvCq := o.createRecvCq }
  if (← rdmaCtx).sendCq.isNone then return some (.out (-1))
  return none

/-- The shared receive queue, when one is used. -/
def createSrq (config : RdmaParam) (o : CreateOutcomes) : TransportM (Option Exit) := do
  if config.useSrq ≠ 0 then
    Traced.emit (.ibvCreateSrq (← rdmaCtx).pd srqAttr o.ibvCreateSrq)
    assign fun c => { c with srq := o.ibvCreateSrq }
    if (← rdmaCtx).srq.isNone then return some (.out (-1))
  return none

/-- One turn of the loop that creates the queue pairs. The switch on the connection
type comes first; a type it has no case for leaves with `return NULL`. -/
def createQp (config : RdmaParam) (o : CreateOutcomes) (i : ℕ) : TransportM (Option Exit) := do
  let c ← rdmaCtx
  match qpTypeOf config.connectionType with
  | none => return some (.ret 0)
  | some qpType => do
    Traced.emit (.rdmaCreateQp c.cmId c.pd (qpInitAttr c qpType) (o.rdmaCreateQp i))
    if (o.rdmaCreateQp i).isNone then return some (.out (-1))
    if c.cmId.isNone then Traced.stop .nullDeref
    storeCell RdmaContext.qp ArrayField.qp.put i (o.rdmaCreateQp i)
    return none

/-- One turn of the loop that allocates and registers the buffers. A buffer that
could not be allocated sets `ret` but does not leave: it is cleared through the
`NULL` it is. -/
def registerBuf (o : CreateOutcomes) (i : ℕ) : TransportM (Option Exit) := do
  Traced.emit (.memalign bufSize (o.memalign i))
  storeCell RdmaContext.buf ArrayField.buf.put i (o.memalign i)
  Traced.emit (.memset (o.memalign i) bufSize)
  if (o.memalign i).isNone then Traced.stop .nullDeref
  Traced.emit (.ibvRegMr (← rdmaCtx).pd (o.memalign i) bufSize mrFlags (o.ibvRegMr i))
  storeCell RdmaContext.mr ArrayField.mr.put i (o.ibvRegMr i)
  if (o.ibvRegMr i).isNone then return some (.out (-1))
  return none

/-- `fs_rdma_create_resources` up to the label `out`. -/
def createResourcesBody (config : RdmaParam) (o : CreateOutcomes) : TransportM Exit := do
  match ← Traced.firstExit [createContext config o, createChannel config o, createCqs config o,
      createSrq config o, Traced.forLoop (createQp config o) 0 config.turns,
      Traced.forLoop (registerBuf o) 0 config.turns] with
  | some exit => return exit
  | none => return .out 0

/-! ### Releasing -/

/-- **The releasing statement** `if (rdma_ctx->field) { call; rdma_ctx->field = NULL; }`. -/
def releaseField (field : RdmaContext → Ptr) (call : RdmaContext → Act)
    (clear : RdmaContext → RdmaContext) : TransportM Unit := do
  let c ← rdmaCtx
  if (field c).isSome then
    Traced.emit (call c)
    assign clear

/-- The release keyed on `qp`: what is released is the queue pair of the
connection id. -/
def releaseQp : TransportM Unit :=
  releaseField (fun c => arrayPtr c.qp) (fun c => .rdmaDestroyQp c.cmId)
    fun c => { c with qp := none }

/-- The release keyed on `mr`: `ibv_dereg_mr` is given the array. -/
def releaseMr : TransportM Unit :=
  releaseField (fun c => arrayPtr c.mr) (fun c => .ibvDeregMr (arrayPtr c.mr))
    fun c => { c with mr := none }

/-- The release keyed on `buf`: `free` is given the array. -/
def releaseBuf : TransportM Unit :=
  releaseField (fun c => arrayPtr c.buf) (fun c => .free (arrayPtr c.buf))
    fun c => { c with buf := none }

/-- The release of the send completion queue. -/
def releaseSendCq : TransportM Unit :=
  releaseField RdmaContext.sendCq (fun c => .ibvDestroyCq c.sendCq)
    fun c => { c with sendCq := none }

/-- The release of the receive completion queue. -/
def releaseRecvCq : TransportM Unit :=
  releaseField RdmaContext.recvCq (fun c => .ibvDestroyCq c.recvCq)
    fun c => { c with recvCq := none }

/-- The release of the protection domain. -/
def releasePd : TransportM Unit :=
  releaseField RdmaContext.pd (fun c => .ibvDeallocPd c.pd) fun c => { c with pd := none }

/-- The release of the device context. -/
def releaseContext : TransportM Unit :=
  releaseField RdmaContext.context (fun c => .ibvCloseDevice c.context)
    fun c => { c with context := none }

/-- The release of the connection id. -/
def releaseCmId : TransportM Unit :=
  releaseField RdmaContext.cmId (fun c => .rdmaDestroyId c.cmId) fun c => { c with cmId := none }

/-- One turn of the loop over the queue pairs, regions and buffers. -/
def releaseTurn (_ : ℕ) : TransportM (Option Empty) := do
  releaseQp
  releaseMr
  releaseBuf
  return none

/-- The loop over the queue pairs, regions and buffers. -/
def releaseArrays (config : RdmaParam) : TransportM Unit := do
  let _ ← Traced.forLoop releaseTurn 0 config.turns

/-- The cleanup under the label `out`, run when `ret` is `-1`. -/
def createResourcesOut (config : RdmaParam) : TransportM Unit := do
  releaseArrays config
  releaseSendCq
  releaseRecvCq
  releasePd
  releaseContext

/-- `fs_rdma_create_resources`: the acquisitions, and the cleanup under the
label. -/
def fsRdmaCreateResources (config : RdmaParam) (o : CreateOutcomes) : TransportM ℤ := do
  Traced.emit (.enter .createResources)
  match ← createResourcesBody config o with
  | .ret v => do
    Traced.emit (.leave .createResources v)
    return v
  | .out ret => do
    if ret = -1 then
      createResourcesOut config
    Traced.emit (.leave .createResources ret)
    return ret

/-- `fs_rdma_teardown`. -/
def fsRdmaTeardown (config : RdmaParam) : TransportM ℤ := do
  Traced.emit (.enter .teardown)
  releaseArrays config
  releaseSendCq
  releaseRecvCq
  releasePd
  releaseCmId
  Traced.emit (.leave .teardown 0)
  return 0

end Transport
