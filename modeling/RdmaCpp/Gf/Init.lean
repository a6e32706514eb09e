import Mathlib.Algebra.Order.BigOperators.Group.List
import Mathlib.Algebra.Order.Ring.Nat
import Mathlib.Data.Set.Card
import RdmaCpp.Lib.Locked
import RdmaCpp.Lib.Traced
import RdmaCpp.Verbs

/-!
# Transports that are initialised side by side

`init` of `Transport.cc` makes the private part of a transport, lets `gf_rdma_init` look for a
device, and then, under the lock of the context that all transports of the process share,
counts the transports that have come from a library (`this->dl_handle`): the first of them
registers the pool of buffers with the device.

Any number of threads may do that at once. Whatever the interleaving, the pool is registered
**once**, no such `init` returns `0` before that has been done, and where the lock is free the
count is the number of those that have returned (`Gf.registered_once`). All of it comes from
the serial executions of `RdmaCpp.Lib.Locked`: the count is one only for the first, as long as
the transports from a library are fewer than an `int32_t` can count.

What the lock does not help with is the context itself: the code asks whether it is `NULL` only
after it has locked its mutex. Where it is there, every `init` can return.
-/

namespace Gf

/-- What `init` does before it takes the lock. -/
inductive InitAct
  /-- `GF_CALLOC (1, sizeof (*priv), gf_common_mt_rdma_private_t)`. -/
  | gfCalloc (res : Ptr)
  /-- `gf_rdma_init (this)`. -/
  | gfRdmaInit (ret : ℤ)
  /-- `GF_FREE (priv)`. -/
  | gfFree (p : Ptr)

/-- `rpc_transport_t`, as far as `init` goes. -/
structure RpcTransport where
  /-- `private`. -/
  priv : Ptr
  /-- `dl_handle`: the library that the transport has come from. -/
  dlHandle : Ptr

/-- How `init` ends. -/
inductive Ended
  | returned (ret : ℤ)
  /-- The lock of a context that is not there. -/
  | fault
  deriving DecidableEq

/-- What the calls of `init` bring back. -/
structure InitOutcomes where
  gfCalloc : Ptr
  gfRdmaInit : ℤ
  /-- `this->ctx->ib`, once `gf_rdma_init` has returned: the context that all transports share,
  or `NULL`. -/
  ib : Ptr

/-- What the pool of buffers calls for an arena. -/
inductive Hook
  | gfRdmaRegisterArena
  | gfRdmaDeregisterArena
  deriving DecidableEq

/-- **What the transports share**: of the context `ib` the count and the device, and of the
pool of buffers what it calls. -/
structure Shared where
  dlcount : Int32
  device : Ptr
  rdmaRegistration : Option Hook
  rdmaDeregistration : Option Hook
  /-- The devices that `gf_rdma_register_iobuf_pool_with_device` has been called with, oldest
  first. -/
  registered : List Ptr

open Locked (Code)

/-- The mutex is that of a context which is not there. -/
def Faults (o : InitOutcomes) : Prop :=
  o.gfCalloc ≠ none ∧ o.gfRdmaInit = 0 ∧ o.ib = none

/-- `init`, up to the lock. A mutex that is looked for in the context `NULL` is none. -/
def initBefore (o : InitOutcomes) : Traced RpcTransport InitAct Ended Unit := do
  Traced.emit (.gfCalloc o.gfCalloc)
  if o.gfCalloc = none then Traced.stop (.returned (-1))
  else do
    Traced.modify fun this => { this with priv := o.gfCalloc }
    Traced.emit (.gfRdmaInit o.gfRdmaInit)
    if o.gfRdmaInit ≠ 0 then do
      Traced.modify fun this => { this with priv := none }
      Traced.emit (.gfFree o.gfCalloc)
      Traced.stop (.returned (-1))
    else if o.ib = none then Traced.stop .fault
    else pure ()

/-- `this->dl_handle && (++(rdma_ctx->dlcount)) == 1`, where there is a context. The count is
read, and then written. -/
def isFirst (ib : Ptr) (this : RpcTransport) : Code Shared Bool :=
  if ib = none then pure false
  else if this.dlHandle = none then pure false
  else do
    let dlcount ← Code.load Shared.dlcount
    Code.store fun s => { s with dlcount := dlcount + 1 }
    return decide (dlcount + 1 = 1)

/-- The first transport makes the device known to the pool, and the pool to the device. -/
def registerPool (first : Bool) : Code Shared Unit :=
  if first then do
    Code.store fun s => { s with rdmaRegistration := some .gfRdmaRegisterArena }
    Code.store fun s => { s with rdmaDeregistration := some .gfRdmaDeregisterArena }
    Code.store fun s => { s with registered := s.registered ++ [s.device] }
  else pure ()

/-- `init`, from the lock to the end. -/
def initLocked (ib : Ptr) (this : RpcTransport) : Code Shared Ended := do
  let first ← isFirst ib this
  registerPool first
  return .returned 0

/-- **`init`**: where it has to take the lock, and where not. -/
def init (o : InitOutcomes) (this : RpcTransport) : Except Ended (Code Shared Ended) :=
  (initBefore o this).out.map fun _ => initLocked o.ib (initBefore o this).state

/-! ### One `init` alone -/

variable {o : InitOutcomes} {this : RpcTransport} {n : ℕ} {s : Shared}

/-- **Before the lock.** What fails leaves no private part behind that has been freed. -/
theorem post_initBefore (o : InitOutcomes) (this : RpcTransport) :
    Traced.Post (initBefore o) this
      (fun _ this' _ => o.gfCalloc ≠ none ∧ o.gfRdmaInit = 0 ∧ o.ib ≠ none ∧
        this' = ⟨o.gfCalloc, this.dlHandle⟩)
      (fun e this' t => e ≠ .returned 0 ∧ (e = .fault → Faults o) ∧
        ∀ p, .gfFree p ∈ t → this'.priv ≠ p) := by
  rw [initBefore, Traced.post_bind, Traced.post_emit, Traced.post_ite]
  refine ⟨fun _ => ⟨by decide, fun hc => (by cases hc), fun p hp => ?_⟩, fun hpriv => ?_⟩
  · simp at hp
  rw [Traced.post_bind, Traced.post_modify, Traced.post_bind, Traced.post_emit, Traced.post_ite]
  refine ⟨fun _ => ?_, fun hinit => ?_⟩
  · rw [Traced.post_bind, Traced.post_modify, Traced.post_bind, Traced.post_emit,
      Traced.post_stop]
    refine ⟨by decide, fun hc => (by cases hc), fun p hp => ?_⟩
    simp only [List.nil_append, List.append_nil, List.cons_append, List.mem_cons,
      reduceCtorEq, false_or, InitAct.gfFree.injEq, List.not_mem_nil, or_false] at hp
    rw [hp]
    exact Ne.symm hpriv
  · rw [Traced.post_ite]
    refine ⟨fun hib => ⟨by decide, fun _ => ⟨hpriv, not_not.mp hinit, hib⟩, fun p hp => ?_⟩,
      fun hib => ?_⟩
    · simp at hp
    · exact ⟨hpriv, not_not.mp hinit, hib, rfl⟩

/-- What has to take the lock has found the context. -/
theorem eq_initLocked {c : Code Shared Ended} (h : init o this = .ok c) :
    o.ib ≠ none ∧ c = initLocked o.ib ⟨o.gfCalloc, this.dlHandle⟩ := by
  have hpost := post_initBefore o this
  rw [init] at h
  rcases hrun : initBefore o this with ⟨e | ⟨⟩, this', t⟩
  · rw [hrun] at h
    cases h
  · rw [hrun] at h
    obtain ⟨-, -, hib, rfl⟩ := hpost.of_ok hrun
    cases h
    exact ⟨hib, rfl⟩

/-- What need not does not return `0`, and faults only where there is no context. -/
theorem ne_of_init_error {e : Ended} (h : init o this = .error e) :
    e ≠ .returned 0 ∧ (e = .fault → Faults o) := by
  have hpost := post_initBefore o this
  rw [init] at h
  rcases hrun : initBefore o this with ⟨e' | ⟨⟩, this', t⟩
  · rw [hrun] at h
    cases h
    exact ⟨(hpost.of_error hrun).1, (hpost.of_error hrun).2.1⟩
  · rw [hrun] at h
    cases h

/-- **The pool is ready**: it calls the device for its arenas, and has been registered once. -/
structure PoolReady (device : Ptr) (s : Shared) : Prop where
  registration : s.rdmaRegistration = some .gfRdmaRegisterArena
  deregistration : s.rdmaDeregistration = some .gfRdmaDeregisterArena
  registered : s.registered = [device]

/-- So many transports have been counted, and the pool is ready when there are any. -/
structure Counted (device : Ptr) (n : ℕ) (s : Shared) : Prop where
  dlcount : s.dlcount.toInt = n
  same : s.device = device
  unready : n = 0 → s.registered = []
  ready : 0 < n → PoolReady device s

/-- What an `init` counts for. -/
def RpcTransport.counts (this : RpcTransport) : ℕ := if this.dlHandle = none then 0 else 1

variable {device ib : Ptr}

/-- **What holds all along** while an `init` holds the lock, when `n` have been counted. -/
def Keeping (device : Ptr) (n : ℕ) (s : Shared) : Prop :=
  s.registered.length ≤ 1 ∧ (0 < n → PoolReady device s)

theorem Counted.keeping (h : Counted device n s) : Keeping device n s := by
  refine ⟨?_, h.ready⟩
  rcases Nat.eq_zero_or_pos n with hzero | hpos
  · rw [h.unready hzero]
    exact Nat.zero_le 1
  · rw [(h.ready hpos).registered]
    exact Nat.le_refl 1

/-- Counting does not touch the pool. -/
theorem Keeping.count (h : Keeping device n s) (dlcount : Int32) :
    Keeping device n { s with dlcount := dlcount } :=
  ⟨h.1, fun hn => ⟨(h.2 hn).registration, (h.2 hn).deregistration, (h.2 hn).registered⟩⟩

/-- One more is one more, as long as there is room for it in an `int32_t`. -/
theorem Counted.toInt_add_one (h : Counted device n s) (hroom : n + 1 < 2 ^ 31) :
    (s.dlcount + 1).toInt = (n + 1 : ℕ) := by
  rw [Int32.toInt_add, h.dlcount, Int32.toInt_one, Int.bmod_eq_of_le (by omega) (by omega)]
  rfl

/-- **The first one** makes the pool ready, and registers it once. -/
theorem registerPool_first (device : Ptr) (hnone : s.registered = []) :
    PoolReady s.device ((registerPool true).run s).2 ∧
      (registerPool true).Always (Keeping device 0) s := by
  have hkeeping : ∀ s' : Shared, s'.registered.length ≤ 1 → Keeping device 0 s' :=
    fun s' hle => ⟨hle, fun hc => absurd hc (Nat.lt_irrefl 0)⟩
  have hle : s.registered.length ≤ 1 := by
    rw [hnone]
    exact Nat.zero_le 1
  have hone : (s.registered ++ [s.device]).length ≤ 1 := by
    rw [hnone]
    exact Nat.le_refl 1
  simp only [registerPool, if_true, Code.run_bind, Code.run_store, Code.always_bind,
    Code.always_store]
  refine ⟨⟨rfl, rfl, by rw [hnone]; rfl⟩, ⟨?_, ?_⟩, ⟨?_, ?_⟩, ?_, ?_⟩
  all_goals exact hkeeping _ (by assumption)

/-- **The steps of an `init` under the lock**, where `n` have been counted before it: one more
has been counted behind them when it counts, and all along the pool has been registered once at
the most, and stays ready where it was. -/
theorem Counted.initLocked (h : Counted device n s) (hib : ib ≠ none) (this : RpcTransport)
    (hroom : n + this.counts < 2 ^ 31) :
    ((initLocked ib this).run s).1 = .returned 0 ∧
      Counted device (n + this.counts) ((initLocked ib this).run s).2 ∧
      (initLocked ib this).Always (Keeping device n) s := by
  by_cases hdl : this.dlHandle = none
  · -- a transport that does not count
    have hzero : this.counts = 0 := if_pos hdl
    have hfirst : isFirst ib this = pure false := by
      rw [isFirst, if_neg hib, if_pos hdl]
    simp only [Gf.initLocked, hfirst, registerPool, Code.run_bind, Code.run_pure,
      Bool.false_eq_true, if_false, Code.always_bind, Code.always_pure, and_self, hzero,
      Nat.add_zero]
    exact ⟨trivial, h, h.keeping⟩
  have hone : this.counts = 1 := if_neg hdl
  have hrun : (isFirst ib this).run s =
      (decide (s.dlcount + 1 = 1), { s with dlcount := s.dlcount + 1 }) := by
    rw [isFirst, if_neg hib, if_neg hdl]
    rfl
  have halways : (isFirst ib this).Always (Keeping device n) s := by
    rw [isFirst, if_neg hib, if_neg hdl]
    simp only [Code.always_bind, Code.always_load, Code.run_load, Code.always_store,
      Code.run_store, Code.always_pure]
    exact ⟨h.keeping, ⟨h.keeping, h.keeping.count _⟩, h.keeping.count _⟩
  rw [hone] at hroom
  have hcount := h.toInt_add_one hroom
  simp only [Gf.initLocked, Code.run_bind, Code.always_bind, hrun, hone]
  rcases Nat.eq_zero_or_pos n with rfl | hpos
  · -- the first one
    have hfirst : decide (s.dlcount + 1 = 1) = true :=
      decide_eq_true (Int32.toInt_inj.mp hcount)
    obtain ⟨hready, hall⟩ := registerPool_first device
      (s := { s with dlcount := s.dlcount + 1 }) (h.unready rfl)
    rw [hfirst]
    refine ⟨rfl, ⟨hcount, h.same, fun hc => (by cases hc), fun _ => ?_⟩, halways, hall, hall.run⟩
    rw [← h.same]
    exact hready
  · have hfirst : decide (s.dlcount + 1 = 1) = false := by
      refine decide_eq_false fun hc => ?_
      rw [hc, Int32.toInt_one] at hcount
      omega
    have hkeeping := h.keeping.count (s.dlcount + 1)
    rw [hfirst]
    exact ⟨rfl, ⟨hcount, h.same, fun hc => (by cases hc), fun _ => hkeeping.2 hpos⟩, halways,
      hkeeping, hkeeping⟩

/-! ### Any number of them at once -/

section Threads

variable {ι : Type} [DecidableEq ι]

/-- The transports share a context without a count, and a pool that calls nothing. -/
def fresh (device : Ptr) : Shared := ⟨0, device, none, none, []⟩

/-- Every interleaving of the `init`s of the transports. -/
def Reached (o : ι → InitOutcomes) (this : ι → RpcTransport) (device : Ptr)
    (S : Locked.State ι Shared Ended) : Prop :=
  Locked.Reached (fun i => init (o i) (this i)) (fresh device) S

/-- The `init` of a transport has returned `0`. -/
def Succeeded (S : Locked.State ι Shared Ended) (i : ι) : Prop :=
  S.phase i = .returned (.returned 0)

variable {o : ι → InitOutcomes} {this : ι → RpcTransport} {S : Locked.State ι Shared Ended}
  {order : List (ι × Ended)}

omit [DecidableEq ι] in
theorem counted_fresh (device : Ptr) : Counted device 0 (fresh device) :=
  ⟨rfl, rfl, fun _ => rfl, fun hc => absurd hc (Nat.lt_irrefl 0)⟩

/-- The transports from a library are fewer than an `int32_t` can count. -/
def Few (this : ι → RpcTransport) : Prop := {i | (this i).dlHandle ≠ none}.encard < 2 ^ 31

/-- No list of them counts for more. -/
theorem Few.sum_lt (h : Few this) {is : List ι} (hnodup : is.Nodup) :
    (is.map fun i => (this i).counts).sum < 2 ^ 31 := by
  have hsum : (is.map fun i => (this i).counts).sum =
      (is.filter fun i => (this i).dlHandle ≠ none).toFinset.card := by
    rw [List.toFinset_card_of_nodup (hnodup.filter _)]
    clear hnodup
    induction is with
    | nil => rfl
    | cons i is ih =>
      rw [List.map_cons, List.sum_cons, ih, List.filter_cons, RpcTransport.counts]
      by_cases hdl : (this i).dlHandle = none
      · simp [hdl]
      · simp [hdl, Nat.add_comm]
  have hsub : (↑(is.filter fun i => (this i).dlHandle ≠ none).toFinset : Set ι) ⊆
      {i | (this i).dlHandle ≠ none} := by
    intro i hi
    rw [Finset.mem_coe, List.mem_toFinset, List.mem_filter] at hi
    exact of_decide_eq_true hi.2
  have hlt := (Set.encard_le_encard hsub).trans_lt h
  rw [Set.encard_coe_eq_coe_finsetCard] at hlt
  rw [hsum]
  exact_mod_cast hlt

/-- So there is room for one more that has not been counted. -/
theorem Few.room (h : Few this) {i : ι} (hnodup : (order.map Prod.fst ++ [i]).Nodup) :
    (order.map fun p => (this p.1).counts).sum + (this i).counts < 2 ^ 31 := by
  have hlt := h.sum_lt hnodup
  rw [List.map_append, List.sum_append, List.map_map] at hlt
  exact hlt

/-- What has run one after the other has been counted, and has returned `0`. -/
theorem counted_of_serial (hfew : Few this)
    (h : Locked.Serial (fun i => init (o i) (this i)) (fresh device) order s) :
    Counted device (order.map fun p => (this p.1).counts).sum s ∧
      (order.map Prod.fst).Nodup ∧ ∀ p ∈ order, p.2 = .returned 0 := by
  induction h with
  | nil => exact ⟨counted_fresh device, List.nodup_nil, fun p hp => absurd hp List.not_mem_nil⟩
  | @snoc order s i c hserial hnew henter ih =>
    obtain ⟨hcounted, hnodup, hrets⟩ := ih
    obtain ⟨hib, rfl⟩ := eq_initLocked henter
    have hnodup' : (order.map Prod.fst ++ [i]).Nodup :=
      hnodup.append (List.nodup_singleton i) (List.disjoint_singleton.mpr hnew)
    obtain ⟨hret, hmore, -⟩ := hcounted.initLocked hib ⟨(o i).gfCalloc, (this i).dlHandle⟩
      (hfew.room hnodup')
    refine ⟨?_, ?_, fun p hp => ?_⟩
    · rw [List.map_append, List.sum_append]
      exact hmore
    · rw [List.map_append]
      exact hnodup'
    · rcases List.mem_append.mp hp with hold | hlast
      · exact hrets p hold
      · rw [List.mem_singleton.mp hlast]
        exact hret

/-- **The pool is registered once**, whatever the interleaving of the `init`s of any number of
transports, fewer than `2 ^ 31` of them from a library: never for a second time; and before the
`init` of a transport from a library returns `0`. Where nobody holds the lock, the count is that
of the transports from a library whose `init` has returned `0`. And where the context is there,
no `init` can be kept from returning. -/
theorem registered_once (hfew : Few this) (h : Reached o this device S) :
    S.shared.registered.length ≤ 1 ∧
      (∀ i, Succeeded S i → (this i).dlHandle ≠ none → PoolReady device S.shared) ∧
      (S.holder = none → ∃ order : List ι, order.Nodup ∧ (∀ i, i ∈ order ↔ Succeeded S i) ∧
        S.shared.dlcount.toInt = ((order.map fun i => (this i).counts).sum : ℕ)) ∧
      ((∀ i, ¬Faults (o i)) → ∀ i, ∃ S' ret,
        Locked.Reaches (fun i => init (o i) (this i)) S S' ∧
          S'.phase i = .returned (.returned ret)) := by
  obtain ⟨order, s, hexp⟩ := Locked.Reached.explained h
  obtain ⟨hcounted, hnodup, hrets⟩ := counted_of_serial hfew hexp.serial
  have hkeeping : Keeping device _ S.shared := hexp.now hcounted.keeping fun i c hc hnew => by
    obtain ⟨hib, rfl⟩ := eq_initLocked hc
    have hnodup' := hnodup.append (List.nodup_singleton i) (List.disjoint_singleton.mpr hnew)
    exact (hcounted.initLocked hib _ (hfew.room hnodup')).2.2
  -- who has returned `0` is in the serial execution
  have hmem : ∀ i, i ∈ order.map Prod.fst ↔ Succeeded S i := by
    intro i
    constructor
    · intro hi
      obtain ⟨⟨j, e⟩, hje, rfl⟩ := List.mem_map.mp hi
      obtain rfl : e = .returned 0 := hrets _ hje
      exact hexp.of_mem j _ hje
    · intro hi
      rcases hexp.returned i _ hi with hin | herror
      · exact List.mem_map_of_mem hin
      · exact absurd rfl (ne_of_init_error herror).1
  refine ⟨hkeeping.1, fun i hi hdl => hkeeping.2 ?_, fun hfree => ?_, fun hctx i => ?_⟩
  · obtain ⟨⟨j, e⟩, hje, rfl⟩ := List.mem_map.mp ((hmem i).mpr hi)
    have hone : (this j).counts = 1 := if_neg hdl
    calc 0 < (this j).counts := by rw [hone]; exact Nat.one_pos
      _ ≤ (order.map fun p => (this p.1).counts).sum :=
        List.single_le_sum (fun _ _ => Nat.zero_le _) _ (List.mem_map.mpr ⟨_, hje, rfl⟩)
  · refine ⟨order.map Prod.fst, hnodup, hmem, ?_⟩
    rw [hexp.free hfree, hcounted.dlcount, List.map_map]
    rfl
  · obtain ⟨S', e, hreach, hphase⟩ := Locked.Reached.exists_returned h i
    cases e with
    | returned ret => exact ⟨S', ret, hreach, hphase⟩
    | fault =>
      -- only where the context is not there
      have hreached : Reached o this device S' := h.trans hreach
      obtain ⟨order', s', hexp'⟩ := Locked.Reached.explained hreached
      rcases hexp'.returned i _ hphase with hin | herror
      · cases (counted_of_serial hfew hexp'.serial).2.2 _ hin
      · exact absurd ((ne_of_init_error herror).2 rfl) (hctx i)

/-! ### Two of them -/

namespace Sample

/-- Both find all that they need. -/
def outcomes : Bool → InitOutcomes := fun _ => ⟨some 1, 0, some 2⟩

/-- Both come from a library. -/
def transports : Bool → RpcTransport := fun _ => ⟨none, some 3⟩

end Sample

theorem few_transports : Few Sample.transports := by
  refine (Set.encard_le_encard (Set.subset_univ _)).trans_lt ?_
  rw [Set.encard_univ, ENat.card_eq_coe_fintype_card]
  decide

theorem registered_once_sample :
    ∃ S : Locked.State Bool Shared Ended, (∃ e, S.phase true = .returned e) ∧
      S.shared.registered.length ≤ 1 ∧
      (∀ i, Succeeded S i → (Sample.transports i).dlHandle ≠ none →
        PoolReady (some 4) S.shared) ∧
      (S.holder = none → ∃ order : List Bool, order.Nodup ∧ (∀ i, i ∈ order ↔ Succeeded S i) ∧
        S.shared.dlcount.toInt = ((order.map fun i => (Sample.transports i).counts).sum : ℕ)) ∧
      ((∀ i, ¬Faults (Sample.outcomes i)) → ∀ i, ∃ S' ret,
        Locked.Reaches (fun i => init (Sample.outcomes i) (Sample.transports i)) S S' ∧
          S'.phase i = .returned (.returned ret)) := by
  have hstart : Reached Sample.outcomes Sample.transports (some 4)
      (Locked.start (fresh (some 4))) := .refl
  obtain ⟨S, e, hreach, hret⟩ := Locked.Reached.exists_returned hstart true
  exact ⟨S, ⟨e, hret⟩, registered_once few_transports (hstart.trans hreach)⟩

end Threads

end Gf
