import RdmaCpp.Lib.Ledger
import RdmaCpp.Transport.Handled

/-!
# The resources of a run

Which resources the calls of the transport acquire and release, and on which
resources they must not be made unless these are live: one ledger
(`Transport.books`), read by the results on live handles, on what a teardown leaves
behind, and on the connected flag.

The resources are the objects themselves, not the fields that point to them: an
array that `ALLOCATE` returns is a block of the heap and so is a data buffer, but
neither is a queue pair or a region, whatever field it is found in.
`rdma_destroy_qp` is given a connection id and releases the queue pair last made on
it; `free` releases the block at the address it is given.
-/

namespace Transport

/-- **A resource** the libraries or the heap hand out. -/
inductive Resource
  | cmId (id : ℕ)
  | context (p : ℕ)
  | channel (p : ℕ)
  | pd (p : ℕ)
  | cq (p : ℕ)
  | srq (p : ℕ)
  /-- A queue pair, with the connection id it is attached to. -/
  | qp (id : ℕ) (p : ℕ)
  | mr (p : ℕ)
  /-- An array that `ALLOCATE` returned. -/
  | array (p : ℕ)
  /-- A data buffer. -/
  | buffer (p : ℕ)
  deriving DecidableEq

/-- The queue pairs attached to a connection id. -/
def Resource.isQpOf (id : ℕ) : Resource → Bool
  | .qp id' _ => id' = id
  | _ => false

/-- A pointer to a live resource of a kind. -/
def Held (kind : ℕ → Resource) (u : List Resource) (p : Ptr) : Prop := ∃ n, p = some n ∧ kind n ∈ u

/-- What a call acquires. -/
def acquires : Act → List Resource
  | .rdmaCreateId _ _ res => res.toList.map .cmId
  | .allocate _ _ res => res.toList.map .array
  | .ibvOpenDevice _ res => res.toList.map .context
  | .ibvAllocPd _ res => res.toList.map .pd
  | .ibvCreateCompChannel _ res => res.toList.map .channel
  | .ibvCreateCq _ _ _ res => res.toList.map .cq
  | .ibvCreateSrq _ _ res => res.toList.map .srq
  | .rdmaCreateQp id _ _ res => id.toList.flatMap fun i => res.toList.map (.qp i)
  | .memalign _ res => res.toList.map .buffer
  | .ibvRegMr _ _ _ _ res => res.toList.map .mr
  | _ => []

/-- What a call releases, when the given resources are live. -/
def releases (u : List Resource) : Act → List Resource
  | .rdmaDestroyQp id => id.toList.flatMap fun i => (u.find? (Resource.isQpOf i)).toList
  | .ibvDeregMr mr => mr.toList.map .mr
  | .free p => p.toList.map fun n => if .buffer n ∈ u then .buffer n else .array n
  | .ibvDestroyCq cq => cq.toList.map .cq
  | .ibvDeallocPd pd => pd.toList.map .pd
  | .ibvCloseDevice context => context.toList.map .context
  | .rdmaDestroyId id => id.toList.map .cmId
  | _ => []

/-- **When a call is made on live handles only**: every connection id, queue pair,
region, block, completion queue, protection domain and device context it is given
is live, and of the right kind. The heap takes back blocks of either kind. -/
def HandlesLive (u : List Resource) : Act → Prop
  | .rdmaResolveAddr id .. | .rdmaBindAddr id .. | .rdmaListen id .. | .rdmaConnect id ..
  | .rdmaAccept id .. | .rdmaDisconnect id | .rdmaDestroyId id => Held .cmId u id
  | .ibvQueryPort context .. | .ibvAllocPd context _ | .ibvCreateCompChannel context _
  | .ibvQueryDevice context _ | .ibvCreateCq context .. | .ibvCloseDevice context =>
    Held .context u context
  | .ibvCreateSrq pd .. | .ibvDeallocPd pd => Held .pd u pd
  | .rdmaCreateQp id pd attr _ =>
    Held .cmId u id ∧ Held .pd u pd ∧ Held .cq u attr.sendCq ∧ Held .cq u attr.recvCq
  | .ibvRegMr pd buf .. => Held .pd u pd ∧ Held .buffer u buf
  | .rdmaDestroyQp id => Held .cmId u id ∧ ∃ i p, id = some i ∧ .qp i p ∈ u
  | .ibvDeregMr mr => Held .mr u mr
  | .free p => Held .buffer u p ∨ Held .array u p
  | .ibvDestroyCq cq => Held .cq u cq
  | _ => True

/-- **The books** of a run. -/
def books : Ledger Act Resource := ⟨acquires, releases, HandlesLive⟩

theorem Held.mono {kind : ℕ → Resource} {u u' : List Resource} {p : Ptr} (h : Held kind u p)
    (hsub : u ⊆ u') : Held kind u' p := by
  obtain ⟨n, hp, hn⟩ := h
  exact ⟨n, hp, hsub hn⟩

/-- A call that is made on live handles stays one when more is live. -/
theorem HandlesLive.mono {u u' : List Resource} {a : Act} (hsub : u ⊆ u')
    (h : HandlesLive u a) : HandlesLive u' a := by
  cases a <;> simp only [HandlesLive] at h ⊢
  case rdmaCreateQp id pd attr res =>
    exact ⟨h.1.mono hsub, h.2.1.mono hsub, h.2.2.1.mono hsub, h.2.2.2.mono hsub⟩
  case ibvRegMr pd buf size access res => exact ⟨h.1.mono hsub, h.2.mono hsub⟩
  case free p => exact h.imp (fun hb => hb.mono hsub) fun ha => ha.mono hsub
  case rdmaDestroyQp id =>
    obtain ⟨hid, i, p, heq, hp⟩ := h
    exact ⟨hid.mono hsub, i, p, heq, hsub hp⟩
  all_goals exact h.mono hsub

/-- The actions that release nothing. -/
def Act.isKeeping : Act → Bool
  | .rdmaDestroyId _ => false
  | a => !a.isFreeing

theorem keeps_of_isKeeping {t : List Act} (h : t.all Act.isKeeping = true) :
    ∀ a ∈ t, books.Keeps a := by
  intro a ha u
  have hkeeping := List.all_eq_true.mp h a ha
  cases a <;> first | rfl | exact absurd hkeeping Bool.false_ne_true

theorem all_isKeeping_of_isMaking {t : List Act} (h : t.all Act.isMaking = true) :
    t.all Act.isKeeping = true := by
  refine all_mono (fun a ha => ?_) h
  cases a <;> first | rfl | exact absurd ha Bool.false_ne_true

/-- What is held stays held along actions that release nothing. -/
theorem Held.keep {kind : ℕ → Resource} {u : List Resource} {t : List Act} {p : Ptr}
    (h : Held kind u p) (ht : t.all Act.isKeeping = true) : Held kind (books.live u t) p :=
  h.mono (Ledger.subset_live (keeps_of_isKeeping ht))

/-- What is acquired along the way is held at the end, when nothing is released. -/
theorem held_of_acquires {kind : ℕ → Resource} {u : List Resource} {t : List Act} {a : Act}
    {p : Ptr} (ht : t.all Act.isKeeping = true) (ha : a ∈ t)
    (hacq : acquires a = p.toList.map kind) (hp : p ≠ none) : Held kind (books.live u t) p := by
  obtain ⟨n, rfl⟩ := Option.ne_none_iff_exists'.mp hp
  refine ⟨n, rfl, Ledger.takes_subset_live (keeps_of_isKeeping ht) ha ?_⟩
  change kind n ∈ acquires a
  rw [hacq]
  exact List.mem_cons_self

/-- A stretch of actions that release nothing, each on handles live at its start. -/
theorem accepts_of_isKeeping {u : List Resource} {t : List Act} (ht : t.all Act.isKeeping = true)
    (hok : ∀ a ∈ t, HandlesLive u a) : books.monitor.Accepts u t :=
  Ledger.accepts_of_keeps (fun _ _ _ hsub h => HandlesLive.mono hsub h)
    fun a ha => ⟨keeps_of_isKeeping ht a ha, hok a ha⟩

/-! ### Runs without a teardown -/

variable {config : RdmaParam}

/-- The books do not notice that an event is obtained. -/
theorem live_turn {u : List Resource} {channel : Ptr} {event : CmEvent} (h t : List Act) :
    books.live u (h ++ (obtainActs channel event ++ t)) = books.live (books.live u h) t := by
  rw [books.live_append, books.live_append]
  rfl

theorem initActs_keeping (event : CmEvent) (c : RdmaContext) :
    (initActs event c).all Act.isKeeping = true := by
  rw [initActs]
  split <;> rfl

/-- **Handling an event without a teardown releases nothing.** -/
theorem Kept.keeping {o : HandlerOutcomes} {event : CmEvent} {c c' : RdmaContext} {t : List Act}
    (h : Kept config o event c c' t) : t.all Act.isKeeping = true := by
  cases h with
  | untouched h ht => rcases ht with rfl | rfl <;> rfl
  | connecting h hran =>
    obtain ⟨exit, t', hbody, rfl⟩ := hran.body
    simp only [List.all_cons, List.all_append, all_isKeeping_of_isMaking hbody.frame.1]
    rfl
  | accepted h hran =>
    obtain ⟨exit, t', hbody, rfl⟩ := hran.body
    simp only [List.all_cons, List.all_append, all_isKeeping_of_isMaking hbody.frame.1,
      initActs_keeping]
    rfl
  | established h =>
    rw [List.all_cons, List.all_append, initActs_keeping]
    rfl

end Transport
