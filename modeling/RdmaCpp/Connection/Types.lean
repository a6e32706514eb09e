import RdmaCpp.Lib.Traced
import RdmaCpp.Verbs

/-!
# The blocking connection: data

The functions of `Connection.cc` connect a client and a server by a fixed sequence of
blocking calls. They work on two objects of their caller, `user_param` and `ctx`, of which
the types are declared elsewhere; here are the fields that the functions read or assign
(`Connection.PerftestParameters`, `Connection.PingpongContext`). A run is made of three
things, as that of the event-driven transport is.

* The **state** is what the two pointers lead to (`Connection.Conn`).
* The **outcomes** of the calls are inputs, one field per call site
  (`Connection.ClientOutcomes`, `Connection.ServerOutcomes`, `Connection.AttemptOutcomes`).
  That goes for the helpers as well whose code is elsewhere, `ctx_init` among them.
* The **actions** are the calls with their arguments and what came back, and the looks at
  an event (`Connection.Act`).

Messages printed to a stream are not modelled.
-/

namespace Connection

/-! ### Constants -/

/-- `ON`. -/
def ON : ℤ := 1

/-- `OFF`. -/
def OFF : ℤ := 0

/-- `SUCCESS`. -/
def SUCCESS : ℤ := 0

/-- `FAILURE`. -/
def FAILURE : ℤ := 1

/-- `PF_INET`. -/
def pfInet : ℕ := 2

/-- How long an address or a route may take to be resolved, in milliseconds. -/
def timeoutInMs : ℕ := 2000

/-! ### The objects of the caller -/

/-- Which of the two parties runs. -/
inductive MachineType
  | client
  | server
  deriving DecidableEq

/-- The operation that is measured, `enum VerbType`. -/
inductive VerbType
  | send
  | write
  | read
  | atomic
  deriving DecidableEq

/-- What is measured, `enum TestType`. -/
inductive TestType
  /-- Latency. -/
  | lat
  /-- Bandwidth. -/
  | bw
  /-- Another kind of test. -/
  | other (n : ℤ)
  deriving DecidableEq

/-- **The parameters**, the fields of `struct perftest_parameters` that are read or
assigned. -/
structure PerftestParameters where
  machine : MachineType
  port : ℤ
  servername : Option String
  verb : VerbType
  connectionType : ConnectionType
  tst : TestType
  duplex : ℤ
  outReads : ℤ
  retryCount : ℤ
  workRdmaCm : ℤ
  remUdQpn : ℕ
  remUdQkey : ℕ
  deriving DecidableEq

/-- **The context**, the fields of `struct pingpong_context` that are read or assigned. -/
structure PingpongContext where
  cmChannel : Ptr
  /-- The id a server listens on. -/
  cmIdControl : Ptr
  /-- The id of the connection. -/
  cmId : ℕ
  context : Ptr
  pd : Ptr
  /-- The address handles. -/
  ah : Option PtrArray
  /-- The number of the first queue pair, `ctx->qp[0]->qp_num`. -/
  qpNum : ℕ
  deriving DecidableEq

/-- **The state**: what `user_param` and `ctx` lead to. -/
structure Conn where
  param : PerftestParameters
  ctx : PingpongContext
  deriving DecidableEq

/-! ### Actions -/

/-- The head of a list that `check_add_port` stores, `struct addrinfo`. -/
structure AddrInfo where
  /-- Where the list is: what `freeaddrinfo` is given. -/
  ptr : ℕ
  aiFamily : ℕ
  /-- The address it leads to. -/
  aiAddr : ℕ
  deriving DecidableEq

/-- An internet address: the one found, with the port of the parameters. -/
structure SockAddr where
  addr : ℕ
  sinPort : ℕ
  deriving DecidableEq

/-- **An action** of a run: a call with its arguments and, last, what came back. Of an
object that a helper is given by its pointer the contents are noted. -/
inductive Act
  | checkAddPort (port : ℤ) (servername : Option String) (passive : Bool) (res : Option AddrInfo)
  | freeaddrinfo (res : ℕ)
  | rdmaResolveAddr (id : ℕ) (sin : SockAddr) (timeout : ℕ) (ret : ℤ)
  | rdmaResolveRoute (id : ℕ) (timeout : ℕ) (ret : ℤ)
  | rdmaBindAddr (id : Ptr) (sin : SockAddr) (ret : ℤ)
  | rdmaListen (id : Ptr) (backlog : ℕ) (ret : ℤ)
  | rdmaGetCmEvent (channel : Ptr) (res : Option CmEvent)
  /-- A field of the event is read. -/
  | readEvent (e : CmEvent)
  | rdmaAckCmEvent (e : CmEvent)
  | allocCtx (param : PerftestParameters)
  | ctxInit (param : PerftestParameters) (ret : ℤ)
  | postOneRecvWqe (ret : ℤ)
  | postRecvToGetAh (ret : ℤ)
  | rdmaConnect (id : ℕ) (param : ConnParam) (ret : ℤ)
  | rdmaAccept (id : ℕ) (param : ConnParam) (ret : ℤ)
  | ibvCreateAh (pd : Ptr) (ahAttr : ℕ) (res : Ptr)
  /-- Wait for the message by which the client sends its queue pair number. -/
  | createAhFromWcRecv (param : PerftestParameters) (ret : ℤ)
  /-- Send that message. The one call of it is commented out. -/
  | sendQpNumForAh (param : PerftestParameters) (ret : ℤ)
  | rdmaDestroyId (id : Ptr)
  | createRdmaResources (param : PerftestParameters) (ret : ℤ)
  | destroyRdmaResources (param : PerftestParameters) (ret : ℤ)
  | usleep (delay : ℕ)
  deriving DecidableEq

/-! ### Outcomes of the calls -/

/-- What the calls of `rdma_client_connect` bring back. -/
structure ClientOutcomes where
  /-- The list that was stored; `none` when the call returns non-zero. -/
  checkAddPort : Option AddrInfo
  /-- What `rdma_resolve_addr` returns when so many events have been obtained. -/
  rdmaResolveAddr : ℕ → ℤ
  /-- What `rdma_resolve_route` returns when so many events have been obtained. -/
  rdmaResolveRoute : ℕ → ℤ
  /-- The events, in the order in which they are delivered; `none` where the call fails. -/
  rdmaGetCmEvent : ℕ → Option CmEvent
  /-- What is found in `ctx->cm_id->verbs` after the resolution. -/
  verbs : Ptr
  ctxInit : ℤ
  /-- The protection domain `ctx_init` leaves in the context. -/
  pd : Ptr
  /-- The number of the first queue pair `ctx_init` leaves in the context. -/
  qpNum : ℕ
  postOneRecvWqe : ℤ
  rdmaConnect : ℤ
  ibvCreateAh : Ptr

/-- What the calls of `rdma_server_connect` bring back. -/
structure ServerOutcomes where
  /-- The list that was stored; `none` when the call returns non-zero. -/
  checkAddPort : Option AddrInfo
  rdmaBindAddr : ℤ
  rdmaListen : ℤ
  /-- The event delivered; `none` when the call fails. -/
  rdmaGetCmEvent : Option CmEvent
  /-- What is found in `ctx->cm_id->verbs` of the id that came with the event. -/
  verbs : Ptr
  /-- The array for address handles that `alloc_ctx` leaves in the context. -/
  allocCtx : Option PtrArray
  ctxInit : ℤ
  /-- The protection domain `ctx_init` leaves in the context. -/
  pd : Ptr
  /-- The number of the first queue pair `ctx_init` leaves in the context. -/
  qpNum : ℕ
  postOneRecvWqe : ℤ
  postRecvToGetAh : ℤ
  rdmaAccept : ℤ
  createAhFromWcRecv : ℤ
  /-- The array for address handles that `create_ah_from_wc_recv` leaves in the context. -/
  ah : Option PtrArray

/-- What the calls of one turn of `retry_rdma_connect` bring back. -/
structure AttemptOutcomes where
  createRdmaResources : ℤ
  /-- The context that `create_rdma_resources` builds from the parameters. -/
  built : PerftestParameters → PingpongContext
  client : ClientOutcomes
  destroyRdmaResources : ℤ

/-! ### The monad of the connection -/

/-- What stops a run for good. -/
inductive Stop
  /-- An element is stored through `NULL`. -/
  | nullDeref
  /-- An element is stored where the array has no room for it. -/
  | wildDeref
  /-- A `while (1)` has made all the turns the model grants it. -/
  | outOfTurns
  deriving DecidableEq

/-- A piece of `Connection.cc`. -/
abbrev ConnectionM : Type → Type := Traced Conn Act Stop

/-- Read through `user_param`. -/
def userParam : ConnectionM PerftestParameters := fun s => ⟨.ok s.param, s, []⟩

/-- Read through `ctx`. -/
def context : ConnectionM PingpongContext := fun s => ⟨.ok s.ctx, s, []⟩

/-- Assign a field of `*user_param`. -/
def setParam (f : PerftestParameters → PerftestParameters) : ConnectionM Unit :=
  Traced.modify fun s => { s with param := f s.param }

/-- Assign a field of `*ctx`. -/
def setCtx (f : PingpongContext → PingpongContext) : ConnectionM Unit :=
  Traced.modify fun s => { s with ctx := f s.ctx }

/-- The assignment `ctx->ah[0] = ah`. -/
def storeAh (ah : Ptr) : ConnectionM Unit := do
  match (← context).ah with
  | none => Traced.stop .nullDeref
  | some a =>
    if 0 < a.cells.length then setCtx fun c => { c with ah := some (a.store 0 ah) }
    else Traced.stop .wildDeref

variable {s : Conn} {E : Stop → Conn → List Act → Prop}

@[simp] theorem run_userParam : userParam s = ⟨.ok s.param, s, []⟩ := rfl

@[simp] theorem run_context : context s = ⟨.ok s.ctx, s, []⟩ := rfl

@[simp] theorem post_userParam {Q : PerftestParameters → Conn → List Act → Prop} :
    Traced.Post userParam s Q E ↔ Q s.param s [] := Iff.rfl

@[simp] theorem post_context {Q : PingpongContext → Conn → List Act → Prop} :
    Traced.Post context s Q E ↔ Q s.ctx s [] := Iff.rfl

@[simp] theorem post_setParam {f : PerftestParameters → PerftestParameters}
    {Q : Unit → Conn → List Act → Prop} :
    Traced.Post (setParam f) s Q E ↔ Q () { s with param := f s.param } [] := Iff.rfl

@[simp] theorem post_setCtx {f : PingpongContext → PingpongContext}
    {Q : Unit → Conn → List Act → Prop} :
    Traced.Post (setCtx f) s Q E ↔ Q () { s with ctx := f s.ctx } [] := Iff.rfl

end Connection
