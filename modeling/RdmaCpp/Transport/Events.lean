import RdmaCpp.Transport.Resources
import RdmaCpp.Transport.Setup

/-!
# The event handlers and the event loop

`fs_rdma_cm_event_handler` takes one connection-manager event after another and
calls the handler of its kind. The error kinds and `DISCONNECTED` acknowledge the
event before their handler runs and go round the loop; the others acknowledge it
after the handler, at the bottom.

Two names of `fs_rdma_cm_handle_connect_init` are declared nowhere: its `ret` is a
local that starts at `0`, and its `cm_id` is a local nothing reads.
-/

namespace Transport

/-! ### The handlers -/

/-- `fs_rdma_cm_handle_disconnect`. -/
def fsRdmaCmHandleDisconnect (config : RdmaParam) : TransportM Unit := do
  let _ ← fsRdmaTeardown config

/-- `fs_rdma_cm_handle_addr_resolved`. -/
def fsRdmaCmHandleAddrResolved (config : RdmaParam) (o : HandlerOutcomes) (event : CmEvent) :
    TransportM ℤ := do
  Traced.emit (.readEvent event)
  Traced.emit (.rdmaResolveRoute event.id timeoutInMs o.rdmaResolveRoute)
  if o.rdmaResolveRoute ≠ 0 then
    fsRdmaCmHandleDisconnect config
    return o.rdmaResolveRoute
  return o.rdmaResolveRoute

/-- The connection parameters both sides use. -/
def connParam (config : RdmaParam) : ConnParam where
  responderResources := 1
  initiatorDepth := 1
  retryCount := toUInt8 config.retryCount
  rnrRetryCount := 7
  qpNum := 0

/-- `fs_rdma_cm_handle_route_resolved`. -/
def fsRdmaCmHandleRouteResolved (config : RdmaParam) (o : HandlerOutcomes)
    (event : Option CmEvent) : TransportM ℤ := do
  if event.isNone then return 0
  let ret ← fsRdmaCreateResources config o.create
  if ret ≠ 0 then
    fsRdmaCmHandleDisconnect config
    return ret
  Traced.emit (.rdmaConnect (← rdmaCtx).cmId (connParam config) o.rdmaConnect)
  if o.rdmaConnect ≠ 0 then
    fsRdmaCmHandleDisconnect config
    return o.rdmaConnect
  return 0

/-- `fs_rdma_cm_handle_connect_init`. -/
def fsRdmaCmHandleConnectInit (event : CmEvent) : TransportM ℤ := do
  Traced.emit (.readEvent event)
  let c ← rdmaCtx
  let ret : ℤ := if c.connected = 1 then -1 else 0
  Traced.emit (.readEvent event)
  let ret : ℤ := if some event.id ≠ c.cmId then -1 else ret
  if ret < 0 then
    Traced.emit (.rdmaDisconnect c.cmId)
  else
    assign fun c => { c with connected := 1 }
  return ret

/-- `fs_rdma_cm_handle_connect_request`. -/
def fsRdmaCmHandleConnectRequest (config : RdmaParam) (o : HandlerOutcomes) (event : CmEvent) :
    TransportM ℤ := do
  let ret ← fsRdmaCreateResources config o.create
  if ret ≠ 0 then
    fsRdmaCmHandleDisconnect config
    return ret
  Traced.emit (.rdmaAccept (← rdmaCtx).cmId (connParam config) o.rdmaAccept)
  if o.rdmaAccept < 0 then
    fsRdmaCmHandleDisconnect config
    return o.rdmaAccept
  let _ ← fsRdmaCmHandleConnectInit event
  return 0

/-- `fs_rdma_cm_handle_event_error`. -/
def fsRdmaCmHandleEventError (config : RdmaParam) : TransportM ℤ := do
  fsRdmaCmHandleDisconnect config
  return 0

/-! ### The event loop -/

/-- The `switch` of the event loop with the acknowledgement of its arm; what it
returns is the variable `event` as the next turn of the loop finds it. -/
def dispatch (config : RdmaParam) (o : HandlerOutcomes) (event : CmEvent) :
    TransportM (Option CmEvent) := do
  Traced.emit (.readEvent event)
  match event.event with
  | .addrResolved => do
    let _ ← fsRdmaCmHandleAddrResolved config o event
    Traced.emit (.rdmaAckCmEvent event)
    return some event
  | .routeResolved => do
    let _ ← fsRdmaCmHandleRouteResolved config o (some event)
    Traced.emit (.rdmaAckCmEvent event)
    return some event
  | .connectRequest => do
    let _ ← fsRdmaCmHandleConnectRequest config o event
    Traced.emit (.rdmaAckCmEvent event)
    return some event
  | .established => do
    let _ ← fsRdmaCmHandleConnectInit event
    Traced.emit (.rdmaAckCmEvent event)
    return some event
  | .addrError | .routeError | .connectError | .unreachable | .rejected => do
    Traced.emit (.readEvent event)
    Traced.emit (.rdmaAckCmEvent event)
    let _ ← fsRdmaCmHandleEventError config
    return none
  | .disconnected => do
    Traced.emit (.rdmaAckCmEvent event)
    fsRdmaCmHandleDisconnect config
    return none
  | _ => do
    Traced.emit (.readEvent event)
    Traced.emit (.rdmaAckCmEvent event)
    return some event

/-- One turn of the event loop; it returns the variable `event` for the next turn,
or nothing when it leaves the loop. The event is copied before the result of
`rdma_get_cm_event` is looked at, and a failing call leaves `event` as it was. -/
def turn (config : RdmaParam) (channel : Ptr) (event : Option CmEvent) (tick : Tick) :
    TransportM (Option (Option CmEvent)) := do
  Traced.emit (.rdmaGetCmEvent channel tick.got)
  match tick.got <|> event with
  | none => Traced.stop .nullDeref
  | some copied => do
    Traced.emit (.readEvent copied)
    match tick.got with
    | none => return none
    | some got => do
      let event ← dispatch config tick.outcomes got
      return some event

/-- **`fs_rdma_cm_event_handler`**: the loop over what `rdma_get_cm_event`
delivers; where the deliveries end, the call blocks. -/
def fsRdmaCmEventHandler (config : RdmaParam) (channel : Ptr) (event : Option CmEvent)
    (ticks : List Tick) : TransportM Unit :=
  Traced.loopOver (turn config channel) event ticks

/-- **A run**: the start, then the event loop. -/
def run (config : RdmaParam) (channel : Ptr) (start : Start) (ticks : List Tick) :
    TransportM Unit := do
  start.code config
  fsRdmaCmEventHandler config channel none ticks

/-! ### A concrete run

A client with two queue pairs, on a machine where every call succeeds. -/

namespace Sample

/-- Two reliable queue pairs, no completion channel, no shared receive queue. -/
def config : RdmaParam := ⟨2, 7471, 1, 7, 0, 0, .rc⟩

/-- A block with nothing in it. -/
def block : RdmaContext :=
  ⟨none, none, none, none, none, none, none, none, none, none, none, 0⟩

/-- The calls of `fs_rdma_create_ctx`, for a block with the given contents. -/
def ctx (block : RdmaContext) : CtxOutcomes :=
  ⟨some block, some 10, some 11, fun
    | .qp => some (12, fun _ => none)
    | .mr => some (13, fun _ => none)
    | .buf => some (14, fun _ => none)⟩

/-- A client. -/
def connect (block : RdmaContext) : Start :=
  .connect (some "server") 7471 ⟨ctx block, ⟨0, some 1⟩, 0⟩

/-- A server. -/
def listen (block : RdmaContext) : Start := .listen none 7471 (ctx block) ⟨⟨0, some 1⟩, 0, 0⟩

/-- The calls of `fs_rdma_create_resources`. -/
def create : CreateOutcomes where
  ibvGetDeviceList := some [⟨20, "mlx5_0"⟩]
  ibvOpenDevice := some 21
  ibvQueryPort := 0
  ibvAllocPd := some 22
  ibvCreateCompChannel := some 23
  ibvQueryDevice := 0
  maxCqe := 16384
  createSendCq := some 24
  createRecvCq := some 25
  ibvCreateSrq := some 26
  rdmaCreateQp i := some (30 + i)
  memalign i := some (40 + i)
  ibvRegMr i := some (50 + i)

/-- The calls of the handlers. -/
def handler : HandlerOutcomes := ⟨0, create, 0, 0⟩

/-- An event on the given id. -/
def event (kind : CmEventType) (id : ℕ) : CmEvent := ⟨60, kind, id, ⟨0, 0, 0⟩⟩

/-- The turn that handles an event. -/
def tick (kind : CmEventType) (id : ℕ) : Tick := ⟨some (event kind id), handler⟩

/-- The run of the client over the given kinds of event on its id. -/
def clientRun (kinds : List CmEventType) : Ran (Option RdmaContext) Act Fault Unit :=
  run config (some 10) (connect block) (kinds.map (tick · 11)) none

end Sample

end Transport
