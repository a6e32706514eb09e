import RdmaCpp.Transport.Types
import Mathlib.Data.List.Range

/-!
# Setting up: the context, connecting, listening

`fs_rdma_create_ctx`, `fs_rdma_destroy_ctx`, `fs_rdma_connect` and
`fs_rdma_listen`. What to watch here is what is *not* done: the block of the
context comes from `malloc` and only the event channel, the connection id and the
three arrays are assigned, so the remaining fields keep their initial contents;
and `fs_rdma_connect` does not look at the result of `fs_rdma_create_ctx`.

The names `ctx` and `rdma_ctx` of the source are the same context.
-/

namespace Transport

/-- The macro `ALLOCATE(ctx->field, type, config->qp_count)`: the process ends when
there is no memory, and otherwise the field points to a block of `qp_count`
pointers with whatever contents it happens to have. -/
def allocate (config : RdmaParam) (o : CtxOutcomes) (field : ArrayField) : TransportM Unit := do
  Traced.emit (.allocate field config.qpCount ((o.allocate field).map Prod.fst))
  match o.allocate field with
  | none => do
    Traced.emit (.exit 1)
    Traced.stop (.exit 1)
  | some (addr, contents) =>
    assign (field.put ⟨addr, (List.range config.turns).map contents⟩)

/-- `fs_rdma_create_ctx`. -/
def fsRdmaCreateCtx (config : RdmaParam) (o : CtxOutcomes) : TransportM ℤ := do
  Traced.emit (.malloc o.malloc.isSome)
  Traced.modify fun _ => o.malloc
  if o.malloc.isNone then return -1
  Traced.emit (.rdmaCreateEventChannel o.rdmaCreateEventChannel)
  assign fun c => { c with cmEventChannel := o.rdmaCreateEventChannel }
  if (← rdmaCtx).cmEventChannel.isNone then return -1
  let portSpace := if config.connectionType = .ud then PortSpace.udp else PortSpace.tcp
  Traced.emit (.rdmaCreateId (← rdmaCtx).cmEventChannel portSpace o.rdmaCreateId)
  if o.rdmaCreateId.isNone then return -1
  assign fun c => { c with cmId := o.rdmaCreateId }
  allocate config o .qp
  allocate config o .mr
  allocate config o .buf
  return 0

/-- `fs_rdma_destroy_ctx`. The source writes `ctx->cm_channel`, a field that
`struct rdma_context` does not have; its only event channel is `cm_event_channel`, and
that one is meant. -/
def fsRdmaDestroyCtx : TransportM ℤ := do
  Traced.emit (.rdmaDestroyId (← rdmaCtx).cmId)
  Traced.emit (.rdmaDestroyEventChannel (← rdmaCtx).cmEventChannel)
  return 0

/-- `fs_rdma_connect`. Neither the result of `fs_rdma_create_ctx` nor that of
`getaddrinfo` is looked at, so `res` is followed even when nothing was stored in
it. The hints are written `hints` in the call, where a pointer to them is expected. -/
def fsRdmaConnect (config : RdmaParam) (ipAddr : Option String) (port : ℤ)
    (o : ConnectOutcomes) : TransportM ℤ := do
  let _ ← fsRdmaCreateCtx config o.ctx
  Traced.emit (.getaddrinfo ipAddr port o.getaddrinfo.ret)
  match o.getaddrinfo.res with
  | none => Traced.stop .wildDeref
  | some addr => do
    let sin : SockAddr := ⟨addr, toUInt16 config.port⟩
    Traced.emit (.freeaddrinfo addr)
    Traced.emit (.rdmaResolveAddr (← rdmaCtx).cmId sin timeoutInMs o.rdmaResolveAddr)
    return o.rdmaResolveAddr

/-- `fs_rdma_listen`. The call of `getaddrinfo` is written with `hints` and `res`, where
pointers to them are expected, and is read as one with `&hints` and `&res`: what it finds
is what `res` points to afterwards. -/
def fsRdmaListen (config : RdmaParam) (ipAddr : Option String) (port : ℤ)
    (o : ListenOutcomes) : TransportM ℤ := do
  Traced.emit (.getaddrinfo ipAddr port o.getaddrinfo.ret)
  if o.getaddrinfo.ret < 0 then return o.getaddrinfo.ret
  match o.getaddrinfo.res with
  | none => Traced.stop .wildDeref
  | some addr => do
    let sin : SockAddr := ⟨addr, toUInt16 config.port⟩
    Traced.emit (.freeaddrinfo addr)
    Traced.emit (.rdmaBindAddr (← rdmaCtx).cmId sin o.rdmaBindAddr)
    if o.rdmaBindAddr ≠ 0 then return -1
    Traced.emit (.rdmaListen (← rdmaCtx).cmId 0 o.rdmaListen)
    if o.rdmaListen ≠ 0 then return -1
    return o.rdmaListen

/-- **How a run starts**: with `fs_rdma_connect`, or with `fs_rdma_create_ctx`
followed by `fs_rdma_listen`. -/
inductive Start
  | connect (ipAddr : Option String) (port : ℤ) (o : ConnectOutcomes)
  | listen (ipAddr : Option String) (port : ℤ) (ctx : CtxOutcomes) (o : ListenOutcomes)

/-- What the calls of `fs_rdma_create_ctx` bring back in a start. -/
def Start.ctx : Start → CtxOutcomes
  | .connect _ _ o => o.ctx
  | .listen _ _ ctx _ => ctx

/-- The code run at the start. -/
def Start.code (config : RdmaParam) : Start → TransportM Unit
  | .connect ipAddr port o => do
    let _ ← fsRdmaConnect config ipAddr port o
  | .listen ipAddr port ctx o => do
    let _ ← fsRdmaCreateCtx config ctx
    let _ ← fsRdmaListen config ipAddr port o

end Transport
