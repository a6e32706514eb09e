import Mathlib.Algebra.Group.Nat.Defs
import Mathlib.Data.Int.Notation
import Mathlib.Data.List.Range
import Mathlib.Tactic.Common

/-!
# What the RDMA libraries hand out

The vocabulary shared by the two connection stacks of the repository: pointers to
the objects of `librdmacm` and `libibverbs`, connection-manager events, and the
parameters of a connection. The libraries themselves are not modelled – every
call's outcome is an input of the model – so all that is needed of an object is
the address by which the code names it.
-/

/-- **A C pointer** to an object of one of the libraries: `none` is `NULL`. -/
abbrev Ptr : Type := Option ℕ

/-- A C `int` stored in a field of type `uint8_t`. -/
def toUInt8 (x : ℤ) : ℕ := (x % 256).toNat

/-- A C `int` stored in a field of type `uint16_t`. -/
def toUInt16 (x : ℤ) : ℕ := (x % 65536).toNat

/-- A C `int` product computed in 32 bits, as two's complement hardware leaves
it. -/
def wrapInt32 (x : ℤ) : ℤ := Int.bmod x (2 ^ 32)

/-- The kinds of connection, `enum ConnectionType`. The field that holds one is a
C enumeration, so it may also hold a number that is none of them. -/
inductive ConnectionType
  /-- Reliable connected. -/
  | rc
  /-- Unreliable datagram. -/
  | ud
  /-- Unreliable connected. -/
  | uc
  /-- A value outside the enumeration. -/
  | other (n : ℤ)
  deriving DecidableEq

/-- The kinds of event a connection manager reports, `enum rdma_cm_event_type`. -/
inductive CmEventType
  | addrResolved
  | addrError
  | routeResolved
  | routeError
  | connectRequest
  | connectResponse
  | connectError
  | unreachable
  | rejected
  | established
  | disconnected
  | deviceRemoval
  | multicastJoin
  | multicastError
  | addrChange
  | timewaitExit
  deriving DecidableEq

/-- The kinds whose handler is the error handler. -/
def CmEventType.isError : CmEventType → Bool
  | .addrError | .routeError | .connectError | .unreachable | .rejected => true
  | _ => false

/-- The kinds that ask nothing of a handler. -/
def CmEventType.isOther : CmEventType → Bool
  | .connectResponse | .deviceRemoval | .multicastJoin | .multicastError | .addrChange
  | .timewaitExit => true
  | _ => false

/-- The datagram parameters an event may carry, `event->param.ud`. -/
structure UdParam where
  /-- The queue pair number of the peer. -/
  qpNum : ℕ
  /-- The key of the peer. -/
  qkey : ℕ
  /-- The attributes an address handle of the peer is made from. -/
  ahAttr : ℕ
  deriving DecidableEq

/-- **A connection-manager event**, `struct rdma_cm_event`. -/
structure CmEvent where
  /-- Where the event lives: what `rdma_ack_cm_event` is given. -/
  addr : ℕ
  /-- Its kind. -/
  event : CmEventType
  /-- The connection id it was reported on. -/
  id : ℕ
  /-- Its datagram parameters. -/
  ud : UdParam
  deriving DecidableEq

/-- The parameters of a connection, the fields of `struct rdma_conn_param` that
the code sets. -/
structure ConnParam where
  responderResources : ℕ
  initiatorDepth : ℕ
  retryCount : ℕ
  rnrRetryCount : ℕ
  qpNum : ℕ
  deriving DecidableEq

/-- A block of memory holding pointers, as `malloc` gives it: where it is, and
what is in it. -/
structure PtrArray where
  /-- The address of the block. -/
  addr : ℕ
  /-- The pointers in it. -/
  cells : List Ptr
  deriving DecidableEq

/-- The block with the `i`-th pointer replaced. -/
def PtrArray.store (a : PtrArray) (i : ℕ) (p : Ptr) : PtrArray :=
  { a with cells := a.cells.set i p }

@[simp] theorem PtrArray.store_addr (a : PtrArray) (i : ℕ) (p : Ptr) :
    (a.store i p).addr = a.addr := rfl

@[simp] theorem PtrArray.store_cells (a : PtrArray) (i : ℕ) (p : Ptr) :
    (a.store i p).cells = a.cells.set i p := rfl

/-- The address in an array field. -/
def arrayPtr (a : Option PtrArray) : Ptr := a.map PtrArray.addr

theorem arrayPtr_eq_none {a : Option PtrArray} : arrayPtr a = none ↔ a = none :=
  Option.map_eq_none_iff

/-- How many elements an array field leads to. -/
def room (a : Option PtrArray) : ℕ :=
  match a with
  | none => 0
  | some b => b.cells.length

@[simp] theorem room_none : room none = 0 := rfl

@[simp] theorem room_some (a : PtrArray) : room (some a) = a.cells.length := rfl

/-- The `i`-th pointer an array field leads to. -/
def elem (a : Option PtrArray) (i : ℕ) : Ptr := a.bind fun b => b.cells[i]?.join

@[simp] theorem elem_none (i : ℕ) : elem none i = none := rfl

/-! ### Arrays filled from the front -/

/-- The array with its first `n` elements replaced by `f 0`, `f 1`, …. -/
def PtrArray.fill (f : ℕ → Ptr) (n : ℕ) (a : PtrArray) : PtrArray :=
  (List.range n).foldl (fun a i => a.store i (f i)) a

@[simp] theorem PtrArray.fill_zero (f : ℕ → Ptr) (a : PtrArray) : a.fill f 0 = a := rfl

theorem PtrArray.fill_succ (f : ℕ → Ptr) (n : ℕ) (a : PtrArray) :
    a.fill f (n + 1) = (a.fill f n).store n (f n) := by
  simp only [PtrArray.fill, List.range_succ, List.foldl_append, List.foldl_cons, List.foldl_nil]

@[simp] theorem PtrArray.fill_length (f : ℕ → Ptr) (n : ℕ) (a : PtrArray) :
    (a.fill f n).cells.length = a.cells.length := by
  induction n with
  | zero => rfl
  | succ n ih => rw [PtrArray.fill_succ, PtrArray.store_cells, List.length_set, ih]

@[simp] theorem PtrArray.fill_addr (f : ℕ → Ptr) (n : ℕ) (a : PtrArray) :
    (a.fill f n).addr = a.addr := by
  induction n with
  | zero => rfl
  | succ n ih => rw [PtrArray.fill_succ, PtrArray.store_addr, ih]

/-- The elements filled in are the ones asked for. -/
theorem PtrArray.fill_getElem? (f : ℕ → Ptr) {n j : ℕ} (a : PtrArray) (hj : j < n)
    (hlen : j < a.cells.length) : (a.fill f n).cells[j]? = some (f j) := by
  induction n with
  | zero => omega
  | succ n ih =>
    rw [PtrArray.fill_succ, PtrArray.store_cells]
    rcases Nat.lt_or_ge j n with hlt | hge
    · rw [List.getElem?_set_ne (by omega)]
      exact ih hlt
    · obtain rfl : j = n := by omega
      exact List.getElem?_set_self (by rwa [PtrArray.fill_length])

/-- Filling does not move the end of the array. -/
@[simp] theorem room_map_fill (f : ℕ → Ptr) (n : ℕ) (a : Option PtrArray) :
    room (a.map (PtrArray.fill f n)) = room a := by
  cases a with
  | none => rfl
  | some a => exact PtrArray.fill_length f n a

/-- Filling leaves the array where it is. -/
@[simp] theorem arrayPtr_map_fill (f : ℕ → Ptr) (n : ℕ) (a : Option PtrArray) :
    arrayPtr (a.map (PtrArray.fill f n)) = arrayPtr a := by
  cases a with
  | none => rfl
  | some a => exact congrArg some (PtrArray.fill_addr f n a)

/-- The pointers filled in are the ones found. -/
theorem elem_map_fill (f : ℕ → Ptr) {n i : ℕ} {a : Option PtrArray} (hi : i < n)
    (hroom : i < room a) : elem (a.map (PtrArray.fill f n)) i = f i := by
  cases a with
  | none => exact absurd hroom (Nat.not_lt_zero i)
  | some a =>
    change ((a.fill f n).cells[i]?).join = f i
    rw [PtrArray.fill_getElem? f a hi hroom]
    rfl

theorem map_fill_zero (f : ℕ → Ptr) (a : Option PtrArray) : a.map (PtrArray.fill f 0) = a := by
  cases a <;> rfl

/-- An array with room for `i` is there, and one more element can be filled in. -/
theorem exists_of_lt_room {a : Option PtrArray} {i : ℕ} (f : ℕ → Ptr) (h : i < room a) :
    ∃ b, a.map (PtrArray.fill f i) = some b ∧ i < b.cells.length ∧
      some (b.store i (f i)) = a.map (PtrArray.fill f (i + 1)) := by
  cases a with
  | none => exact absurd h (Nat.not_lt_zero i)
  | some a =>
    refine ⟨a.fill f i, rfl, ?_, ?_⟩
    · rwa [PtrArray.fill_length]
    · rw [Option.map_some, PtrArray.fill_succ]

/-- What stops a run for good. -/
inductive Fault
  /-- A field is read, or an element stored, through `NULL`. -/
  | nullDeref
  /-- An element is stored, or a field read, through a pointer that does not lead
  to memory of the right extent. -/
  | wildDeref
  /-- The process ends, `exit(code)`. -/
  | exit (code : ℕ)
  deriving DecidableEq
