import RdmaCpp.Lib.Traced
import RdmaCpp.Verbs

/-!
# The event-driven transport: data

The types of `c/transport.h`, and the three things a run of `c/transport.c` is
made of.

* The **state** is the one global the code works on, `rdma_ctx`: `NULL` until
  `fs_rdma_create_ctx` has allocated it, then a `Transport.RdmaContext`. The block
  comes from `malloc`, so every field has *some* content from the start, and the
  code's own content only once it has been assigned.
* The **outcomes** of the calls into the system and the RDMA libraries are inputs,
  one field per call site (`Transport.CtxOutcomes`, `Transport.CreateOutcomes`,
  `Transport.HandlerOutcomes`, …); a call in a loop has one outcome per index.
* The **actions** are what a run does to the outside: the calls with their
  arguments and what came back, the reads of an event, and the entry to and return
  from the two functions that acquire and release everything (`Transport.Act`).

Messages printed to a stream are not modelled, and neither are the fields of the
structures that only they, or nothing, reads.
-/

namespace Transport

/-! ### Configuration and context -/

/-- `DEFAULT_BUF_DEPTH`. -/
def defaultBufDepth : ℕ := 4096

/-- `MAX_SEND_SGE`. -/
def maxSendSge : ℕ := 1

/-- `MAX_RECV_SGE`. -/
def maxRecvSge : ℕ := 1

/-- `TIMEOUT_IN_MS`. -/
def timeoutInMs : ℕ := 2000

/-- `BUF_SIZE`. -/
def bufSize : ℕ := 4096 * 1024

/-- The configuration, the fields of `struct rdma_param` that are read. -/
structure RdmaParam where
  /-- How many queue pairs, regions and buffers. -/
  qpCount : ℤ
  port : ℤ
  ibPort : ℤ
  retryCount : ℤ
  useEvent : ℤ
  useSrq : ℤ
  connectionType : ConnectionType
  deriving DecidableEq

/-- How often a loop `for (i = 0; i < config->qp_count; i++)` turns. -/
def RdmaParam.turns (config : RdmaParam) : ℕ := config.qpCount.toNat

/-- **The context**, `struct rdma_context`: the one object all handlers share. -/
structure RdmaContext where
  cmEventChannel : Ptr
  cmId : Ptr
  context : Ptr
  channel : Ptr
  pd : Ptr
  mr : Option PtrArray
  sendCq : Ptr
  recvCq : Ptr
  buf : Option PtrArray
  qp : Option PtrArray
  srq : Ptr
  connected : ℤ
  deriving DecidableEq

/-! ### Arguments of the calls -/

/-- The port space of a connection id. -/
inductive PortSpace
  | tcp
  | udp
  deriving DecidableEq

/-- The type of a queue pair, `enum ibv_qp_type`. -/
inductive QpType
  | rc
  | uc
  | ud
  deriving DecidableEq

/-- The type of queue pair the code asks for: the `switch` on
`config->connection_type`, which has no case for a value outside the
enumeration. -/
def qpTypeOf : ConnectionType → Option QpType
  | .rc => some .rc
  | .uc => some .uc
  | .ud => some .ud
  | .other _ => none

/-- The attributes of a new queue pair, `struct ibv_qp_init_attr`. -/
structure QpInitAttr where
  sendCq : Ptr
  recvCq : Ptr
  srq : Ptr
  maxSendWr : ℕ
  maxRecvWr : ℕ
  maxSendSge : ℕ
  maxRecvSge : ℕ
  qpType : QpType
  deriving DecidableEq

/-- The attributes of a new shared receive queue, `struct ibv_srq_attr`. -/
structure SrqAttr where
  maxWr : ℕ
  maxSge : ℕ
  srqLimit : ℕ
  deriving DecidableEq

/-- The access a memory region grants. -/
structure MrAccess where
  localWrite : Bool
  remoteRead : Bool
  remoteWrite : Bool
  deriving DecidableEq

/-- An internet address: the one `getaddrinfo` found, with the configured port. -/
structure SockAddr where
  addr : ℕ
  sinPort : ℕ
  deriving DecidableEq

/-- A device as the device list names it. -/
structure IbvDevice where
  ptr : ℕ
  name : String
  deriving DecidableEq

/-- The three arrays of the context that `ALLOCATE` allocates. -/
inductive ArrayField
  | qp
  | mr
  | buf
  deriving DecidableEq

/-- Assign an array field. -/
def ArrayField.put : ArrayField → PtrArray → RdmaContext → RdmaContext
  | .qp, a, c => { c with qp := some a }
  | .mr, a, c => { c with mr := some a }
  | .buf, a, c => { c with buf := some a }

/-- The two functions whose calls and returns a trace records. -/
inductive Fn
  | createResources
  | teardown
  deriving DecidableEq

/-! ### Actions -/

/-- **An action** of a run: a call with its arguments and, last, what came back
(`Ptr` for a call that returns or stores a new object, the returned number
otherwise). -/
inductive Act
  | malloc (ok : Bool)
  | rdmaCreateEventChannel (res : Ptr)
  | rdmaCreateId (channel : Ptr) (ps : PortSpace) (res : Ptr)
  | allocate (array : ArrayField) (count : ℤ) (res : Ptr)
  | exit (code : ℕ)
  | getaddrinfo (host : Option String) (service : ℤ) (ret : ℤ)
  | freeaddrinfo (res : ℕ)
  | rdmaResolveAddr (id : Ptr) (sin : SockAddr) (timeout : ℕ) (ret : ℤ)
  | rdmaBindAddr (id : Ptr) (sin : SockAddr) (ret : ℤ)
  | rdmaListen (id : Ptr) (backlog : ℕ) (ret : ℤ)
  | rdmaDestroyEventChannel (channel : Ptr)
  | rdmaGetCmEvent (channel : Ptr) (res : Option CmEvent)
  /-- A field of the event is read. -/
  | readEvent (e : CmEvent)
  | rdmaAckCmEvent (e : CmEvent)
  | rdmaResolveRoute (id : ℕ) (timeout : ℕ) (ret : ℤ)
  | ibvGetDeviceList (ok : Bool)
  | ibvOpenDevice (dev : Ptr) (res : Ptr)
  | ibvQueryPort (context : Ptr) (port : ℤ) (ret : ℤ)
  | ibvAllocPd (context : Ptr) (res : Ptr)
  | ibvCreateCompChannel (context : Ptr) (res : Ptr)
  | ibvQueryDevice (context : Ptr) (ret : ℤ)
  | ibvCreateCq (context : Ptr) (cqe : ℤ) (channel : Ptr) (res : Ptr)
  | ibvCreateSrq (pd : Ptr) (attr : SrqAttr) (res : Ptr)
  | rdmaCreateQp (id : Ptr) (pd : Ptr) (attr : QpInitAttr) (res : Ptr)
  | memalign (size : ℕ) (res : Ptr)
  | memset (p : Ptr) (size : ℕ)
  | ibvRegMr (pd : Ptr) (buf : Ptr) (size : ℕ) (access : MrAccess) (res : Ptr)
  | rdmaConnect (id : Ptr) (param : ConnParam) (ret : ℤ)
  | rdmaAccept (id : Ptr) (param : ConnParam) (ret : ℤ)
  | rdmaDisconnect (id : Ptr)
  | rdmaDestroyQp (id : Ptr)
  | ibvDeregMr (mr : Ptr)
  | free (p : Ptr)
  | ibvDestroyCq (cq : Ptr)
  | ibvDeallocPd (pd : Ptr)
  | ibvCloseDevice (context : Ptr)
  | rdmaDestroyId (id : Ptr)
  /-- A recorded function is entered. -/
  | enter (f : Fn)
  /-- A recorded function returns. -/
  | leave (f : Fn) (ret : ℤ)
  deriving DecidableEq

/-- The calls by which the resources of a connection are made. -/
def Act.isMaking : Act → Bool
  | .ibvGetDeviceList .. | .ibvOpenDevice .. | .ibvQueryPort .. | .ibvAllocPd ..
  | .ibvCreateCompChannel .. | .ibvQueryDevice .. | .ibvCreateCq .. | .ibvCreateSrq ..
  | .rdmaCreateQp .. | .memalign .. | .memset .. | .ibvRegMr .. => true
  | _ => false

/-- The calls by which they are released. -/
def Act.isFreeing : Act → Bool
  | .rdmaDestroyQp _ | .ibvDeregMr _ | .free _ | .ibvDestroyCq _ | .ibvDeallocPd _
  | .ibvCloseDevice _ => true
  | _ => false

/-- The calls that make and release the resources of a connection, as opposed to the
connection id, its events and its address. -/
def Act.isResource (a : Act) : Bool := a.isMaking || a.isFreeing

theorem Act.isResource_of_isMaking {a : Act} (h : a.isMaking = true) : a.isResource = true := by
  rw [Act.isResource, h, Bool.true_or]

/-- The calls of a start, and the end of the process in it. -/
def Act.isStarting : Act → Bool
  | .malloc _ | .rdmaCreateEventChannel _ | .rdmaCreateId .. | .allocate .. | .exit _
  | .getaddrinfo .. | .freeaddrinfo _ | .rdmaResolveAddr .. | .rdmaBindAddr .. | .rdmaListen .. =>
    true
  | _ => false

theorem all_mono {p q : Act → Bool} (hpq : ∀ a, p a = true → q a = true) {t : List Act}
    (h : t.all p = true) : t.all q = true :=
  List.all_eq_true.mpr fun a ha => hpq a (List.all_eq_true.mp h a ha)

theorem all_isResource_of_isMaking {t : List Act} (h : t.all Act.isMaking = true) :
    t.all Act.isResource = true :=
  all_mono (fun _ => Act.isResource_of_isMaking) h

theorem all_prefix {p : Act → Bool} {t t' : List Act} (h : t' <+: t) (ht : t.all p = true) :
    t'.all p = true :=
  List.all_eq_true.mpr fun a ha => List.all_eq_true.mp ht a (h.subset ha)

/-! ### Outcomes of the calls -/

/-- What the calls of `fs_rdma_create_ctx` bring back. A block fresh from
`malloc` comes with the contents it happens to have. -/
structure CtxOutcomes where
  /-- The context block with its initial contents, or `NULL`. -/
  malloc : Option RdmaContext
  rdmaCreateEventChannel : Ptr
  /-- The new connection id; `none` when the call fails. -/
  rdmaCreateId : Ptr
  /-- The address and the initial contents of each array, or `NULL`. -/
  allocate : ArrayField → Option (ℕ × (ℕ → Ptr))

/-- What `getaddrinfo` brings back: its result, and the address it found, if it
stored one. -/
structure AddrOutcome where
  ret : ℤ
  res : Option ℕ

/-- What the calls of `fs_rdma_connect` bring back. -/
structure ConnectOutcomes where
  ctx : CtxOutcomes
  getaddrinfo : AddrOutcome
  rdmaResolveAddr : ℤ

/-- What the calls of `fs_rdma_listen` bring back. -/
structure ListenOutcomes where
  getaddrinfo : AddrOutcome
  rdmaBindAddr : ℤ
  rdmaListen : ℤ

/-- What the calls of `fs_rdma_create_resources` bring back; the calls in its two
loops have one outcome per index. -/
structure CreateOutcomes where
  ibvGetDeviceList : Option (List IbvDevice)
  ibvOpenDevice : Ptr
  ibvQueryPort : ℤ
  ibvAllocPd : Ptr
  ibvCreateCompChannel : Ptr
  ibvQueryDevice : ℤ
  /-- `device_attr.max_cqe`, as the device reports it. -/
  maxCqe : ℤ
  createSendCq : Ptr
  createRecvCq : Ptr
  ibvCreateSrq : Ptr
  /-- The queue pair a successful call leaves in `cm_id->qp`; `none` when the call
  returns non-zero. -/
  rdmaCreateQp : ℕ → Ptr
  memalign : ℕ → Ptr
  ibvRegMr : ℕ → Ptr

/-- What the calls of the event handlers bring back. -/
structure HandlerOutcomes where
  rdmaResolveRoute : ℤ
  create : CreateOutcomes
  rdmaConnect : ℤ
  rdmaAccept : ℤ

/-- One turn of the event loop: what `rdma_get_cm_event` delivers (`none` when it
fails) and what the calls made while handling it bring back. -/
structure Tick where
  got : Option CmEvent
  outcomes : HandlerOutcomes

/-! ### The monad of the transport -/

/-- A piece of `c/transport.c`. -/
abbrev TransportM : Type → Type := Traced (Option RdmaContext) Act Fault

/-- Follow the global pointer `rdma_ctx`. -/
def rdmaCtx : TransportM RdmaContext := fun s =>
  match s with
  | some c => ⟨.ok c, some c, []⟩
  | none => ⟨.error .nullDeref, none, []⟩

/-- Assign a field of `*rdma_ctx`. -/
def assign (f : RdmaContext → RdmaContext) : TransportM Unit := fun s =>
  match s with
  | some c => ⟨.ok (), some (f c), []⟩
  | none => ⟨.error .nullDeref, none, []⟩

/-- Store an element of an array field of `*rdma_ctx`: `rdma_ctx->field[i] = p`. -/
def storeCell (field : RdmaContext → Option PtrArray)
    (put : PtrArray → RdmaContext → RdmaContext) (i : ℕ) (p : Ptr) : TransportM Unit := do
  let c ← rdmaCtx
  match field c with
  | none => Traced.stop .nullDeref
  | some a => if i < a.cells.length then assign (put (a.store i p)) else Traced.stop .wildDeref

variable {Q : RdmaContext → Option RdmaContext → List Act → Prop}
  {E : Fault → Option RdmaContext → List Act → Prop}

@[simp] theorem run_rdmaCtx (c : RdmaContext) : rdmaCtx (some c) = ⟨.ok c, some c, []⟩ := rfl

@[simp] theorem run_assign (f : RdmaContext → RdmaContext) (c : RdmaContext) :
    assign f (some c) = ⟨.ok (), some (f c), []⟩ := rfl

@[simp] theorem post_rdmaCtx {c : RdmaContext} :
    Traced.Post rdmaCtx (some c) Q E ↔ Q c (some c) [] := Iff.rfl

@[simp] theorem post_rdmaCtx_null : Traced.Post rdmaCtx none Q E ↔ E .nullDeref none [] := Iff.rfl

@[simp] theorem post_assign {f : RdmaContext → RdmaContext} {c : RdmaContext}
    {Q : Unit → Option RdmaContext → List Act → Prop} :
    Traced.Post (assign f) (some c) Q E ↔ Q () (some (f c)) [] := Iff.rfl

section StoreCell

variable {field : RdmaContext → Option PtrArray} {put : PtrArray → RdmaContext → RdmaContext}
  {i : ℕ} {p : Ptr} {c : RdmaContext}

/-- Storing an element of an array that is long enough. -/
theorem run_storeCell {a : PtrArray} (ha : field c = some a) (hi : i < a.cells.length) :
    storeCell field put i p (some c) = ⟨.ok (), some (put (a.store i p) c), []⟩ := by
  rw [storeCell, Traced.run_bind_ok (run_rdmaCtx c), ha]
  simp only [if_pos hi, run_assign, List.append_nil]

/-- Storing an element where there is no room for it stops the run. -/
theorem run_storeCell_stuck (put : PtrArray → RdmaContext → RdmaContext) (p : Ptr)
    (hi : ¬i < room (field c)) :
    ∃ e, storeCell field put i p (some c) = ⟨.error e, some c, []⟩ := by
  rw [storeCell, Traced.run_bind_ok (run_rdmaCtx c)]
  cases hf : field c with
  | none => exact ⟨.nullDeref, rfl⟩
  | some a =>
    rw [hf, room_some] at hi
    refine ⟨.wildDeref, ?_⟩
    simp only [if_neg hi, Traced.run_stop, List.append_nil]

end StoreCell

end Transport
