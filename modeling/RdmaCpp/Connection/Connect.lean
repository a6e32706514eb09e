import RdmaCpp.Connection.Types

/-!
# The blocking connection: connecting

`rdma_client_connect`, `rdma_server_connect`, `establish_connection` and
`retry_rdma_connect`. Both parties look up an address, make their calls one after another,
and return at the first that fails. What to watch is what such an early return leaves
behind: both functions set `work_rdma_cm` for the duration of `ctx_init`, and both hold an
event while they go on.

The block `if (connection_type == UD)` of the client is read as closed before the last
acknowledgement: its closing brace stands inside of the comment that takes the sending of
the queue pair number out.
-/

namespace Connection

/-! ### What the two parties have in common -/

/-- The address to connect to, or to listen on: `check_add_port`, and the look at what it
has found. -/
def lookUp (passive : Bool) (found : Option AddrInfo) :
    ConnectionM (Option (AddrInfo × SockAddr)) := do
  let user ← userParam
  Traced.emit (.checkAddPort user.port user.servername passive found)
  match found with
  | none => return none
  | some res => do
    if res.aiFamily ≠ pfInet then return none
    return some (res, ⟨res.aiAddr, toUInt16 user.port⟩)

/-- The call `rdma_get_cm_event(ctx->cm_channel, &event)`. -/
def rdmaGetCmEvent (got : Option CmEvent) : ConnectionM (Option CmEvent) := do
  Traced.emit (.rdmaGetCmEvent (← context).cmChannel got)
  return got

/-- The connection parameters, but for the number of a queue pair: `outReads` is read before
`work_rdma_cm` gets its value back, and `retryCount` with it. -/
def connParamOf (user : PerftestParameters) : ConnParam where
  responderResources := if user.verb = .read ∨ user.verb = .atomic then toUInt8 user.outReads else 0
  initiatorDepth := if user.verb = .read ∨ user.verb = .atomic then toUInt8 user.outReads else 0
  retryCount := toUInt8 user.retryCount
  rnrRetryCount := 7
  qpNum := 0

/-- The test needs an answer from the server, so that the server needs the client's address:
`tst == LAT || (tst == BW && duplex)`. -/
def PerftestParameters.Answers (user : PerftestParameters) : Prop :=
  user.tst = .lat ∨ user.tst = .bw ∧ user.duplex ≠ 0

instance (user : PerftestParameters) : Decidable user.Answers :=
  inferInstanceAs (Decidable (_ ∨ _ ∧ _))

/-! ### The client -/

/-- **The two resolution loops**: a call, then an event; an error event costs one of the
retries that are left. The loops differ in the call, in the test by which they give up, and in
the two kinds of event. What is returned, unless the function fails, is how many retries are
left and how many events have been obtained. -/
def resolveLoop (o : ClientOutcomes) (call : ℕ → Act × ℤ) (spent : ℤ → Bool)
    (error resolved : CmEventType) : ℕ → ℤ → ℕ → ConnectionM (Option (ℤ × ℕ))
  | 0, _, _ => Traced.stop .outOfTurns
  | turns + 1, numOfRetry, k => do
    if spent numOfRetry then return none
    Traced.emit (call k).1
    if (call k).2 ≠ 0 then return none
    match ← rdmaGetCmEvent (o.rdmaGetCmEvent k) with
    | none => return none
    | some event => do
      Traced.emit (.readEvent event)
      if event.event = error then
        Traced.emit (.rdmaAckCmEvent event)
        resolveLoop o call spent error resolved turns (numOfRetry - 1) (k + 1)
      else
        Traced.emit (.readEvent event)
        if event.event ≠ resolved then
          Traced.emit (.readEvent event)
          Traced.emit (.rdmaAckCmEvent event)
          return none
        Traced.emit (.rdmaAckCmEvent event)
        return some (numOfRetry, k + 1)

/-- The first loop: it gives up where `num_of_retry == 0`. -/
def resolveAddr (o : ClientOutcomes) (id : ℕ) (sin : SockAddr) :
    ℕ → ℤ → ℕ → ConnectionM (Option (ℤ × ℕ)) :=
  resolveLoop o
    (fun k => (.rdmaResolveAddr id sin timeoutInMs (o.rdmaResolveAddr k), o.rdmaResolveAddr k))
    (fun numOfRetry => numOfRetry = 0) .addrError .addrResolved

/-- The second loop: it gives up where `num_of_retry <= 0`. -/
def resolveRoute (o : ClientOutcomes) (id : ℕ) : ℕ → ℤ → ℕ → ConnectionM (Option (ℤ × ℕ)) :=
  resolveLoop o
    (fun k => (.rdmaResolveRoute id timeoutInMs (o.rdmaResolveRoute k), o.rdmaResolveRoute k))
    (fun numOfRetry => numOfRetry ≤ 0) .routeError .routeResolved

/-- The part of `rdma_client_connect` before `ctx_init`, with `turns` turns granted to either
loop. It returns how many events have been obtained, unless the function fails. -/
def resolve (turns numOfRetries : ℕ) (o : ClientOutcomes) : ConnectionM (Option ℕ) := do
  match ← lookUp false o.checkAddPort with
  | none => return none
  | some (_, sin) => do
    let id := (← context).cmId
    match ← resolveAddr o id sin turns numOfRetries 0 with
    | none => return none
    | some (numOfRetry, k) => do
      match ← resolveRoute o id turns numOfRetry k with
      | none => return none
      | some (_, k) => return some k

/-- `ctx_init`, for the time of which `work_rdma_cm` is `ON`. To give it its value back is left
to the caller. -/
def initialise (ret : ℤ) (pd : Ptr) (qpNum : ℕ) : ConnectionM ℤ := do
  setParam fun user => { user with workRdmaCm := ON }
  Traced.emit (.ctxInit (← userParam) ret)
  setCtx fun c => { c with pd := pd, qpNum := qpNum }
  return ret

/-- The part of `rdma_client_connect` after `rdma_connect`, with the event obtained. -/
def established (o : ClientOutcomes) (event : CmEvent) : ConnectionM ℤ := do
  Traced.emit (.readEvent event)
  if event.event ≠ .established then
    Traced.emit (.readEvent event)
    Traced.emit (.rdmaAckCmEvent event)
    return FAILURE
  if (← userParam).connectionType = .ud then
    Traced.emit (.readEvent event)
    setParam fun user => { user with remUdQpn := event.ud.qpNum }
    Traced.emit (.readEvent event)
    setParam fun user => { user with remUdQkey := event.ud.qkey }
    Traced.emit (.readEvent event)
    Traced.emit (.ibvCreateAh (← context).pd event.ud.ahAttr o.ibvCreateAh)
    storeAh o.ibvCreateAh
    if (← context).ah.isNone then return FAILURE
  Traced.emit (.rdmaAckCmEvent event)
  return SUCCESS

/-- The receive that `rdma_client_connect` posts before `rdma_connect`; what it returns, if it
does. -/
def postReceive (o : ClientOutcomes) : ConnectionM (Option ℤ) := do
  if (← userParam).workRdmaCm = OFF then
    Traced.emit (.postOneRecvWqe o.postOneRecvWqe)
    if o.postOneRecvWqe ≠ 0 then return some 1
  return none

/-- The part of `rdma_client_connect` after `ctx_init`, with `k` events obtained. -/
def connect (o : ClientOutcomes) (k : ℕ) : ConnectionM ℤ := do
  match ← postReceive o with
  | some ret => return ret
  | none => do
    Traced.emit (.rdmaConnect (← context).cmId (connParamOf (← userParam)) o.rdmaConnect)
    if o.rdmaConnect ≠ 0 then return FAILURE
    match ← rdmaGetCmEvent (o.rdmaGetCmEvent k) with
    | none => return FAILURE
    | some event => established o event

/-- **`rdma_client_connect`**, with `turns` turns granted to either of its loops. -/
def rdmaClientConnectIn (turns numOfRetries : ℕ) (o : ClientOutcomes) : ConnectionM ℤ := do
  match ← resolve turns numOfRetries o with
  | none => return FAILURE
  | some k => do
    setCtx fun c => { c with context := o.verbs }
    let temp := (← userParam).workRdmaCm
    if (← initialise o.ctxInit o.pd o.qpNum) ≠ 0 then return FAILURE
    setParam fun user => { user with workRdmaCm := temp }
    connect o k

/-- **`rdma_client_connect`**: no loop makes more turns than there are retries, and one. -/
def rdmaClientConnect (numOfRetries : ℕ) (o : ClientOutcomes) : ConnectionM ℤ :=
  rdmaClientConnectIn (numOfRetries + 1) numOfRetries o

/-! ### The server -/

/-- The part of `rdma_server_connect` before `rdma_accept` that depends on `work_rdma_cm`: it
returns what the function returns, if it does. -/
def postReceives (o : ServerOutcomes) : ConnectionM (Option ℤ) := do
  let user ← userParam
  if user.workRdmaCm = OFF then
    Traced.emit (.postOneRecvWqe o.postOneRecvWqe)
    if o.postOneRecvWqe ≠ 0 then return some 1
  else if user.connectionType = .ud then
    if user.Answers then
      Traced.emit (.postRecvToGetAh o.postRecvToGetAh)
      if o.postRecvToGetAh ≠ 0 then return some 1
  return none

/-- The part of `rdma_server_connect` after `rdma_accept` that depends on it. -/
def receiveAh (o : ServerOutcomes) : ConnectionM (Option ℤ) := do
  let user ← userParam
  if user.workRdmaCm ≠ 0 ∧ user.connectionType = .ud then
    if user.Answers then
      Traced.emit (.createAhFromWcRecv user o.createAhFromWcRecv)
      setCtx fun c => { c with ah := o.ah }
      if o.createAhFromWcRecv ≠ 0 then return some 1
  return none

/-- The part of `rdma_server_connect` from `ctx_init` on, with the event obtained. -/
def accept (o : ServerOutcomes) (res : AddrInfo) (event : CmEvent) : ConnectionM ℤ := do
  let temp := (← userParam).workRdmaCm
  if (← initialise o.ctxInit o.pd o.qpNum) ≠ 0 then return FAILURE
  let ctx ← context
  let qpNum := if (← userParam).connectionType = .ud then ctx.qpNum else 0
  setParam fun user => { user with workRdmaCm := temp }
  match ← postReceives o with
  | some ret => return ret
  | none => do
    Traced.emit (.rdmaAccept (← context).cmId { connParamOf (← userParam) with qpNum := qpNum }
      o.rdmaAccept)
    if o.rdmaAccept ≠ 0 then return 1
    match ← receiveAh o with
    | some ret => return ret
    | none => do
      Traced.emit (.rdmaAckCmEvent event)
      Traced.emit (.rdmaDestroyId (← context).cmIdControl)
      Traced.emit (.freeaddrinfo res.ptr)
      return 0

/-- **`rdma_server_connect`.** -/
def rdmaServerConnect (o : ServerOutcomes) : ConnectionM ℤ := do
  match ← lookUp true o.checkAddPort with
  | none => return FAILURE
  | some (res, sin) => do
    Traced.emit (.rdmaBindAddr (← context).cmIdControl sin o.rdmaBindAddr)
    if o.rdmaBindAddr ≠ 0 then return 1
    Traced.emit (.rdmaListen (← context).cmIdControl 0 o.rdmaListen)
    if o.rdmaListen ≠ 0 then return 1
    match ← rdmaGetCmEvent o.rdmaGetCmEvent with
    | none => return 1
    | some event => do
      Traced.emit (.readEvent event)
      if event.event ≠ .connectRequest then
        Traced.emit (.readEvent event)
        return 1
      Traced.emit (.readEvent event)
      setCtx fun c => { c with cmId := event.id, context := o.verbs }
      if (← userParam).workRdmaCm = ON then
        Traced.emit (.allocCtx (← userParam))
        setCtx fun c => { c with ah := o.allocCtx }
      accept o res event

/-! ### Either party, and more attempts than one -/

/-- What the calls of `establish_connection` bring back, whichever party runs. -/
structure EstablishOutcomes where
  client : ClientOutcomes
  server : ServerOutcomes

/-- **`establish_connection`.** -/
def establishConnection (numOfRetries : ℕ) (o : EstablishOutcomes) : ConnectionM ℤ := do
  if (← userParam).machine = .client then
    if (← rdmaClientConnect numOfRetries o.client) ≠ 0 then return 1
  else
    if (← rdmaServerConnect o.server) ≠ 0 then return 1
  return 0

/-- `max_retries` of `retry_rdma_connect`. -/
def maxRetries : ℕ := 10

/-- `delay` of `retry_rdma_connect`, in microseconds. -/
def delay : ℕ := 100000

/-- One turn of the loop of `retry_rdma_connect`. -/
def attempt (numOfRetries : ℕ) (o : AttemptOutcomes) : ConnectionM (Option ℤ) := do
  let user ← userParam
  Traced.emit (.createRdmaResources user o.createRdmaResources)
  setCtx fun _ => o.built user
  if o.createRdmaResources ≠ 0 then return some FAILURE
  if (← rdmaClientConnect numOfRetries o.client) = SUCCESS then return some SUCCESS
  Traced.emit (.destroyRdmaResources (← userParam) o.destroyRdmaResources)
  if o.destroyRdmaResources ≠ 0 then return some FAILURE
  Traced.emit (.usleep delay)
  return none

/-- **`retry_rdma_connect`.** -/
def retryRdmaConnect (numOfRetries : ℕ) (o : ℕ → AttemptOutcomes) : ConnectionM ℤ := do
  match ← Traced.forLoop (fun i => attempt numOfRetries (o i)) 0 maxRetries with
  | some ret => return ret
  | none => return FAILURE

/-! ### A sample connection -/

namespace Sample

/-- Parameters of a latency test over a reliable connection. -/
def user : PerftestParameters :=
  ⟨.client, 7471, some "server", .send, .rc, .lat, 0, 1, 7, OFF, 0, 0⟩

/-- A context as it is built from parameters. -/
def ctx : PingpongContext := ⟨some 20, some 21, 22, none, none, some ⟨23, [none]⟩, 0⟩

/-- The list that is found. -/
def found : AddrInfo := ⟨30, pfInet, 31⟩

/-- An event of a kind. -/
def event (kind : CmEventType) : CmEvent := ⟨40, kind, 22, ⟨41, 42, 43⟩⟩

/-- A client all of whose calls succeed. -/
def client : ClientOutcomes where
  checkAddPort := some found
  rdmaResolveAddr _ := 0
  rdmaResolveRoute _ := 0
  rdmaGetCmEvent
    | 0 => some (event .addrResolved)
    | 1 => some (event .routeResolved)
    | _ => some (event .established)
  verbs := some 50
  ctxInit := 0
  pd := some 51
  qpNum := 52
  postOneRecvWqe := 0
  rdmaConnect := 0
  ibvCreateAh := some 53

/-- A server all of whose calls succeed. -/
def server : ServerOutcomes where
  checkAddPort := some found
  rdmaBindAddr := 0
  rdmaListen := 0
  rdmaGetCmEvent := some (event .connectRequest)
  verbs := some 60
  allocCtx := some ⟨61, [none]⟩
  ctxInit := 0
  pd := some 62
  qpNum := 63
  postOneRecvWqe := 0
  postRecvToGetAh := 0
  rdmaAccept := 0
  createAhFromWcRecv := 0
  ah := some ⟨61, [some 64]⟩

end Sample

end Connection
