import Mathlib.Algebra.BigOperators.Group.Finset.Basic
import Mathlib.Algebra.Order.BigOperators.Group.Finset
import Mathlib.Tactic.Common

/-!
# Queues that many producers share

Work is posted to producers, each of which admits a fixed number of outstanding
requests. A request that is complete leaves an entry in the queue its producer reports
to, and counts as outstanding until the entry has been polled. Several producers report
to one queue, and nothing in the protocol looks at how long that queue has become.

How long it can become is the sum of the depths of its producers: no run exceeds it
(`SharedQueue.length_le`), and there is one that reaches it
(`SharedQueue.exists_full`). So a queue of a given capacity is never overrun exactly
when the sum fits (`SharedQueue.never_exceeds_iff`).
-/

/-- **Producers and the queues they report to**: how many outstanding requests each
admits, and which queue is its own. -/
structure SharedQueue (ι κ : Type) where
  /-- How many outstanding requests a producer admits. -/
  depth : ι → ℕ
  /-- The queue that a producer reports to. -/
  target : ι → κ

namespace SharedQueue

/-- **Where the work is**: the requests that are not complete, and the entries that have
not been polled, oldest first. -/
structure State (ι κ : Type) where
  /-- How many requests of a producer are not complete. -/
  waiting : ι → ℕ
  /-- The entries of a queue, each by the producer it is from. -/
  queue : κ → List ι

/-- What can happen. -/
inductive Op (ι κ : Type)
  /-- A request is posted. -/
  | post (i : ι)
  /-- A request is completed. -/
  | complete (i : ι)
  /-- A queue is polled for one entry. -/
  | poll (k : κ)

variable {ι κ : Type} [DecidableEq ι]

/-- One more request of a producer is waiting. -/
def State.posted (s : State ι κ) (i : ι) : State ι κ :=
  { s with waiting := Function.update s.waiting i (s.waiting i + 1) }

@[simp] theorem State.posted_queue (s : State ι κ) (i : ι) : (s.posted i).queue = s.queue := rfl

/-- The outstanding requests of a producer: posted, and not polled. -/
def outstanding (Q : SharedQueue ι κ) (s : State ι κ) (i : ι) : ℕ :=
  s.waiting i + (s.queue (Q.target i)).count i

/-- **The invariant**: no producer has more outstanding requests than it admits, and
entries are where they belong. -/
structure Inv (Q : SharedQueue ι κ) (s : State ι κ) : Prop where
  le_depth : ∀ i, Q.outstanding s i ≤ Q.depth i
  home : ∀ k, ∀ i ∈ s.queue k, Q.target i = k

/-- Nothing has been posted yet. -/
def idle : State ι κ := ⟨fun _ => 0, fun _ => []⟩

variable {Q : SharedQueue ι κ} {s s' : State ι κ}

theorem inv_idle : Q.Inv idle :=
  ⟨fun i => Nat.zero_le (Q.depth i), fun _ _ hi => absurd hi List.not_mem_nil⟩

/-- Posting a request to a producer that is not full. -/
theorem Inv.posted (h : Q.Inv s) {i : ι} (hi : Q.outstanding s i < Q.depth i) :
    Q.Inv (s.posted i) := by
  refine ⟨fun j => ?_, h.home⟩
  by_cases hj : j = i
  · subst hj
    have hone : Q.outstanding (s.posted j) j = Q.outstanding s j + 1 := by
      simp only [outstanding, State.posted, Function.update_self]
      omega
    omega
  · have hsame : Q.outstanding (s.posted i) j = Q.outstanding s j := by
      simp only [outstanding, State.posted, Function.update_of_ne hj]
    rw [hsame]
    exact h.le_depth j

variable [DecidableEq κ]

/-- A request of a producer is complete, and has left its entry in the queue. -/
def State.completed (s : State ι κ) (i : ι) (k : κ) : State ι κ :=
  ⟨Function.update s.waiting i (s.waiting i - 1),
    Function.update s.queue k (s.queue k ++ [i])⟩

/-- The oldest entry of a queue is gone. -/
def State.polled (s : State ι κ) (k : κ) : State ι κ :=
  { s with queue := Function.update s.queue k (s.queue k).tail }

@[simp] theorem State.completed_queue_self (s : State ι κ) (i : ι) (k : κ) :
    (s.completed i k).queue k = s.queue k ++ [i] := Function.update_self ..

theorem State.completed_queue_of_ne {s : State ι κ} {i : ι} {k k' : κ} (h : k' ≠ k) :
    (s.completed i k).queue k' = s.queue k' := Function.update_of_ne h ..

omit [DecidableEq ι] in
@[simp] theorem State.polled_queue_self (s : State ι κ) (k : κ) :
    (s.polled k).queue k = (s.queue k).tail := Function.update_self ..

omit [DecidableEq ι] in
theorem State.polled_queue_of_ne {s : State ι κ} {k k' : κ} (h : k' ≠ k) :
    (s.polled k).queue k' = s.queue k' := Function.update_of_ne h ..

/-- **One step.** A request is refused when its producer is full, and what has not been
posted does not complete; a queue without an entry is polled in vain. -/
def step (Q : SharedQueue ι κ) (s : State ι κ) : Op ι κ → Option (State ι κ)
  | .post i => if Q.outstanding s i < Q.depth i then some (s.posted i) else none
  | .complete i => if 0 < s.waiting i then some (s.completed i (Q.target i)) else none
  | .poll k => some (s.polled k)

/-- **A run**: one step after another, none of them refused. -/
def run (Q : SharedQueue ι κ) : State ι κ → List (Op ι κ) → Option (State ι κ)
  | s, [] => some s
  | s, op :: ops => (Q.step s op).bind fun s' => Q.run s' ops

/-! ### No queue is longer than the depths of its producers -/

/-- Completing a request moves it from one place to the other. -/
theorem Inv.completed (h : Q.Inv s) {i : ι} (hi : 0 < s.waiting i) :
    Q.Inv (s.completed i (Q.target i)) := by
  refine ⟨fun j => ?_, fun k j hj => ?_⟩
  · have hj := h.le_depth j
    rw [outstanding] at hj ⊢
    by_cases hji : j = i
    · subst hji
      have hwaiting : (s.completed j (Q.target j)).waiting j = s.waiting j - 1 :=
        Function.update_self ..
      rw [hwaiting, State.completed_queue_self, List.count_append, List.count_singleton_self]
      omega
    · have hwaiting : (s.completed i (Q.target i)).waiting j = s.waiting j :=
        Function.update_of_ne hji ..
      have hcount : ((s.completed i (Q.target i)).queue (Q.target j)).count j =
          (s.queue (Q.target j)).count j := by
        by_cases hk : Q.target j = Q.target i
        · rw [hk, State.completed_queue_self, List.count_append,
            List.count_eq_zero_of_not_mem fun hc => hji (List.mem_singleton.mp hc), Nat.add_zero]
        · rw [State.completed_queue_of_ne hk]
      rwa [hwaiting, hcount]
  · by_cases hk : k = Q.target i
    · subst hk
      rw [State.completed_queue_self, List.mem_append, List.mem_singleton] at hj
      rcases hj with hj | rfl
      · exact h.home _ j hj
      · rfl
    · rw [State.completed_queue_of_ne hk] at hj
      exact h.home k j hj

/-- Polling makes room. -/
theorem Inv.polled (h : Q.Inv s) (k : κ) : Q.Inv (s.polled k) := by
  refine ⟨fun j => ?_, fun k' j hj => ?_⟩
  · have hj := h.le_depth j
    have hcount : ((s.polled k).queue (Q.target j)).count j ≤ (s.queue (Q.target j)).count j := by
      by_cases hk : Q.target j = k
      · rw [hk, State.polled_queue_self]
        exact (List.tail_sublist (s.queue k)).count_le j
      · rw [State.polled_queue_of_ne hk]
    rw [outstanding] at hj ⊢
    change s.waiting j + _ ≤ _
    omega
  · by_cases hk : k' = k
    · subst hk
      rw [State.polled_queue_self] at hj
      exact h.home k' j (List.mem_of_mem_tail hj)
    · rw [State.polled_queue_of_ne hk] at hj
      exact h.home k' j hj

/-- Every step keeps it. -/
theorem Inv.step (h : Q.Inv s) {op : Op ι κ} (hstep : Q.step s op = some s') : Q.Inv s' := by
  cases op with
  | post i =>
    obtain ⟨hi, hs⟩ := Option.ite_none_right_eq_some.mp hstep
    obtain rfl := Option.some.inj hs
    exact h.posted hi
  | complete i =>
    obtain ⟨hi, hs⟩ := Option.ite_none_right_eq_some.mp hstep
    obtain rfl := Option.some.inj hs
    exact h.completed hi
  | poll k =>
    obtain rfl := Option.some.inj hstep
    exact h.polled k

/-- So does every run. -/
theorem Inv.run (h : Q.Inv s) {ops : List (Op ι κ)} (hrun : Q.run s ops = some s') :
    Q.Inv s' := by
  induction ops generalizing s with
  | nil =>
    obtain rfl := Option.some.inj hrun
    exact h
  | cons op ops ih =>
    obtain ⟨s₁, hstep, hrest⟩ := Option.bind_eq_some_iff.mp hrun
    exact ih (h.step hstep) hrest

section Finite

variable [Fintype ι]

/-- The sum of the depths of the producers of a queue. -/
def total (Q : SharedQueue ι κ) (k : κ) : ℕ := ∑ i with Q.target i = k, Q.depth i

/-- **A queue is never longer than the depths of its producers allow**: its entries are
counted by producer. -/
theorem Inv.length_le (h : Q.Inv s) (k : κ) : (s.queue k).length ≤ Q.total k := by
  have hmem : ∀ i ∈ (s.queue k : Multiset ι), i ∈ Finset.univ.filter fun i => Q.target i = k :=
    fun i hi => Finset.mem_filter.mpr ⟨Finset.mem_univ i, h.home k i (Multiset.mem_coe.mp hi)⟩
  calc (s.queue k).length
      = ∑ i with Q.target i = k, (s.queue k).count i := by
        rw [← Multiset.coe_card, ← Multiset.sum_count_eq_card hmem]
        exact Finset.sum_congr rfl fun i _ => Multiset.coe_count i (s.queue k)
    _ ≤ Q.total k := Finset.sum_le_sum fun i hi => by
        have hle := h.le_depth i
        rw [outstanding, (Finset.mem_filter.mp hi).2] at hle
        omega

/-! ### There is a run that fills it -/

omit [Fintype ι] in
/-- Posting requests and completing each at once leaves their entries in the queue. The
induction is on the requests left. -/
theorem run_fill {k : κ} (l : List ι) (hl : ∀ i ∈ l, Q.target i = k)
    (hroom : ∀ i ∈ l, Q.outstanding s i + l.count i ≤ Q.depth i) :
    Q.run s (l.flatMap fun i => [.post i, .complete i]) =
      some ⟨s.waiting, Function.update s.queue k (s.queue k ++ l)⟩ := by
  induction l generalizing s with
  | nil => rw [List.append_nil, Function.update_eq_self]; rfl
  | cons i l ih =>
    have hi : Q.target i = k := hl i List.mem_cons_self
    have hlt : Q.outstanding s i < Q.depth i := by
      have hle := hroom i List.mem_cons_self
      rw [List.count_cons_self] at hle
      omega
    have hpost : Q.step s (.post i) = some (s.posted i) := if_pos hlt
    have hcomplete : Q.step (s.posted i) (.complete i) =
        some ⟨s.waiting, Function.update s.queue k (s.queue k ++ [i])⟩ := by
      have hone : (s.posted i).waiting i = s.waiting i + 1 := Function.update_self ..
      have hback : Function.update (s.posted i).waiting i (s.waiting i) = s.waiting := by
        change Function.update (Function.update s.waiting i _) i _ = _
        rw [Function.update_idem, Function.update_eq_self]
      rw [step, hone, if_pos (Nat.succ_pos _), State.completed, hone, Nat.add_sub_cancel, hback,
        hi, State.posted_queue]
    rw [List.flatMap_cons, List.cons_append, List.cons_append, List.nil_append, run, hpost,
      Option.bind_some, run, hcomplete, Option.bind_some, ih]
    · simp only [Function.update_self, Function.update_idem, List.append_assoc,
        List.singleton_append]
    · exact fun j hj => hl j (List.mem_cons_of_mem i hj)
    · intro j hj
      have hle := hroom j (List.mem_cons_of_mem i hj)
      have hjk : Q.target j = k := hl j (List.mem_cons_of_mem i hj)
      simp only [outstanding, hjk, Function.update_self, List.count_append,
        List.count_cons, List.count_nil] at hle ⊢
      omega

/-- The requests that fill a queue: of each of its producers as many as it admits. -/
theorem exists_filling (Q : SharedQueue ι κ) (k : κ) : ∃ l : List ι,
    l.length = Q.total k ∧ ∀ i ∈ l, Q.target i = k ∧ l.count i ≤ Q.depth i := by
  let m : Multiset ι := ∑ i with Q.target i = k, Multiset.replicate (Q.depth i) i
  refine ⟨m.toList, ?_, fun i hi => ?_⟩
  · rw [Multiset.length_toList, Multiset.card_sum]
    exact Finset.sum_congr rfl fun i _ => Multiset.card_replicate _ _
  · obtain ⟨j, hj, hmem⟩ := Multiset.mem_sum.mp (Multiset.mem_toList.mp hi)
    obtain rfl := Multiset.eq_of_mem_replicate hmem
    refine ⟨(Finset.mem_filter.mp hj).2, ?_⟩
    rw [← Multiset.coe_count, Multiset.coe_toList, Multiset.count_sum',
      Finset.sum_eq_single_of_mem i hj fun j _ hne => ?_]
    · exact (Multiset.count_replicate_self i (Q.depth i)).le
    · exact Multiset.count_eq_zero_of_notMem fun hc => hne (Multiset.eq_of_mem_replicate hc).symm

/-- **A queue can become that long.** -/
theorem exists_full (Q : SharedQueue ι κ) (k : κ) :
    ∃ ops s, Q.run idle ops = some s ∧ (s.queue k).length = Q.total k := by
  obtain ⟨l, hlen, hl⟩ := exists_filling Q k
  refine ⟨_, _, run_fill (s := idle) l (fun i hi => (hl i hi).1) (fun i hi => ?_), ?_⟩
  · have hzero : Q.outstanding idle i = 0 := rfl
    rw [hzero, Nat.zero_add]
    exact (hl i hi).2
  · change (Function.update idle.queue k l k).length = Q.total k
    rw [Function.update_self]
    exact hlen

/-- **A capacity is never exceeded** exactly when the depths of the producers fit. -/
theorem never_exceeds_iff (Q : SharedQueue ι κ) (k : κ) (capacity : ℕ) :
    (∀ ops s, Q.run idle ops = some s → (s.queue k).length ≤ capacity) ↔
      Q.total k ≤ capacity := by
  constructor
  · intro h
    obtain ⟨ops, s, hrun, hlen⟩ := exists_full Q k
    rw [← hlen]
    exact h ops s hrun
  · intro h ops s hrun
    exact ((inv_idle.run hrun).length_le k).trans h

end Finite

end SharedQueue
