import Mathlib.Data.List.Count
import Mathlib.Logic.Function.Basic
import Mathlib.Logic.Relation

/-!
# Parties that follow scripts

Blocking programs that run side by side: what each of them would do, call by call, is its
*script*, and the only question is how far it gets. So a state of the whole is a cut through
the scripts (`Scripts`): what each party has done, and what it has still to do. In a step one
party performs its next action, whichever party it is, provided that the action is ready after
what all of them have done (`Scripts.Step`); a party whose next action is not ready is blocked.

Mostly what makes an action ready is a message. Two parties send each other messages, and take
them; an action that takes one is ready while one is in flight, that is, as long as more have
been sent than taken (`Scripts.Ready`). No more is taken than has been sent, whatever the
interleaving (`Scripts.taken_le_sent`); that is what shows how far a party cannot get. How far
it can get is shown by performing stretches of the scripts
(`Scripts.Reaches.perform`, `Scripts.Reaches.take`).
-/

/-- **A cut through the scripts**: what each party has done, and what it has still to do. -/
@[ext] structure Scripts (ι A : Type) where
  /-- What the party has done, oldest first. -/
  done : ι → List A
  /-- What it has still to do. -/
  rest : ι → List A

namespace Scripts

variable {ι A : Type} [DecidableEq ι]

/-- Nobody has done anything. -/
def start (script : ι → List A) : Scripts ι A := ⟨fun _ => [], script⟩

/-- The cut after a party has performed a stretch of its script. -/
def after (S : Scripts ι A) (i : ι) (t r : List A) : Scripts ι A where
  done := Function.update S.done i (S.done i ++ t)
  rest := Function.update S.rest i r

/-- **A step**: a party performs its next action, which is ready. -/
inductive Step (Ready : (ι → List A) → ι → A → Prop) : Scripts ι A → Scripts ι A → Prop
  | mk {S : Scripts ι A} {i : ι} {a : A} {r : List A} (hrest : S.rest i = a :: r)
      (hready : Ready S.done i a) : Step Ready S (S.after i [a] r)

/-- Any number of steps: **every interleaving**. -/
def Reaches (Ready : (ι → List A) → ι → A → Prop) : Scripts ι A → Scripts ι A → Prop :=
  Relation.ReflTransGen (Step Ready)

variable {P : (ι → List A) → ι → A → Prop} {S S' : Scripts ι A} {i j : ι} {a : A}
  {t t' r : List A}

@[simp] theorem after_done_self : (S.after i t r).done i = S.done i ++ t := by
  simp only [after, Function.update_self]

@[simp] theorem after_rest_self : (S.after i t r).rest i = r := by
  simp only [after, Function.update_self]

theorem after_done_of_ne (h : j ≠ i) : (S.after i t r).done j = S.done j := by
  simp only [after, Function.update_of_ne h]

theorem after_rest_of_ne (h : j ≠ i) : (S.after i t r).rest j = S.rest j := by
  simp only [after, Function.update_of_ne h]

/-- One stretch after another. -/
theorem after_after (r' : List A) :
    (S.after i t r).after i t' r' = S.after i (t ++ t') r' := by
  ext j : 2
  · by_cases h : j = i
    · subst h
      simp only [after_done_self, List.append_assoc]
    · simp only [after_done_of_ne h]
  · by_cases h : j = i
    · subst h
      simp only [after_rest_self]
    · simp only [after_rest_of_ne h]

/-- No stretch at all. -/
theorem after_nil (h : S.rest i = r) : S.after i [] r = S := by
  ext j : 2
  · by_cases hj : j = i
    · subst hj
      rw [after_done_self, List.append_nil]
    · rw [after_done_of_ne hj]
  · by_cases hj : j = i
    · subst hj
      rw [after_rest_self, h]
    · rw [after_rest_of_ne hj]

/-- **The scripts do not change**: what has been done is their beginning. -/
theorem Reaches.script_eq (h : Reaches P S S') (i : ι) :
    S'.done i ++ S'.rest i = S.done i ++ S.rest i := by
  induction h with
  | refl => rfl
  | tail _ hstep ih =>
    obtain @⟨j, a, r, hrest, -⟩ := hstep
    rw [← ih]
    by_cases hj : i = j
    · subst hj
      rw [after_done_self, after_rest_self, hrest, List.append_assoc, List.singleton_append]
    · rw [after_done_of_ne hj, after_rest_of_ne hj]

omit [DecidableEq ι] in
/-- **What comes before the next action** in the script has been done. -/
theorem mem_done_of_before {b : A} {p q : List A} (hscript : S.done i ++ S.rest i = p ++ a :: q)
    (hrest : S.rest i = b :: r) (hmem : b ∉ p) (hne : b ≠ a) : a ∈ S.done i := by
  rw [hrest] at hscript
  rcases List.append_eq_append_iff.mp hscript with ⟨u, hp, hq⟩ | ⟨u, hd, hq⟩
  · -- the next action would be `a`, or would come before it
    rcases List.cons_eq_append_iff.mp hq with ⟨-, hcons⟩ | ⟨v, hu, -⟩
    · exact absurd (List.cons.inj hcons).1.symm hne
    · refine absurd ?_ hmem
      rw [hp, hu]
      exact List.mem_append_right _ List.mem_cons_self
  · rcases List.cons_eq_append_iff.mp hq with ⟨-, hcons⟩ | ⟨v, hu, -⟩
    · exact absurd (List.cons.inj hcons).1 hne
    · rw [hd, hu]
      exact List.mem_append_right _ List.mem_cons_self

/-- One more action. -/
theorem Reaches.step (h : Reaches P S S') (hrest : S'.rest i = a :: r)
    (hready : P S'.done i a) : Reaches P S (S'.after i [a] r) :=
  Relation.ReflTransGen.tail h (Step.mk hrest hready)

/-- **A stretch of actions** that are ready whatever has been done. -/
theorem Reaches.perform (h : Reaches P S S') (hrest : S'.rest i = t ++ r)
    (hready : ∀ a ∈ t, ∀ done, P done i a) : Reaches P S (S'.after i t r) := by
  induction t generalizing S' with
  | nil =>
    have hr : S'.rest i = r := hrest
    rwa [after_nil hr]
  | cons a t ih =>
    have hnext := h.step hrest (hready a List.mem_cons_self _)
    have hlast := ih hnext after_rest_self fun b hb => hready b (List.mem_cons_of_mem a hb)
    rwa [after_after] at hlast

/-! ### Messages -/

section Messages

variable {M : Type} {sends : A → List M} {awaits : A → Option M} {peer : ι → ι}

/-- A stretch of actions that take no message. -/
def Quiet (awaits : A → Option M) (t : List A) : Prop := ∀ a ∈ t, awaits a = none

theorem Quiet.append (h : Quiet awaits t) (h' : Quiet awaits t') : Quiet awaits (t ++ t') :=
  List.forall_mem_append.mpr ⟨h, h'⟩

theorem Quiet.cons (ha : awaits a = none) (h : Quiet awaits t) : Quiet awaits (a :: t) :=
  List.forall_mem_cons.mpr ⟨ha, h⟩

theorem quiet_nil : Quiet awaits [] := fun _ ha => absurd ha List.not_mem_nil

variable [DecidableEq M]

/-- How often a message has been sent. -/
def sent (sends : A → List M) (t : List A) (m : M) : ℕ := (t.flatMap sends).count m

/-- How often it has been taken. -/
def taken (awaits : A → Option M) (t : List A) (m : M) : ℕ := t.countP fun a => awaits a = some m

/-- **An action is ready** when the message it takes, if it does, is in flight: its peer has
sent it more often than the party has taken it. -/
def Ready (sends : A → List M) (awaits : A → Option M) (peer : ι → ι) (done : ι → List A)
    (i : ι) (a : A) : Prop :=
  ∀ m, awaits a = some m → taken awaits (done i) m < sent sends (done (peer i)) m

theorem sent_append (t t' : List A) (m : M) :
    sent sends (t ++ t') m = sent sends t m + sent sends t' m := by
  rw [sent, List.flatMap_append, List.count_append]
  rfl

theorem taken_append (t t' : List A) (m : M) :
    taken awaits (t ++ t') m = taken awaits t m + taken awaits t' m := List.countP_append

/-- What an action sends has been sent. -/
theorem sent_pos {m : M} (ha : a ∈ t) (hm : m ∈ sends a) : 0 < sent sends t m :=
  List.count_pos_iff.mpr (List.mem_flatMap.mpr ⟨a, ha, hm⟩)

/-- What has been sent, an action has sent. -/
theorem exists_of_sent_pos {m : M} (h : 0 < sent sends t m) : ∃ a ∈ t, m ∈ sends a :=
  List.mem_flatMap.mp (List.count_pos_iff.mp h)

/-- What an action takes has been taken. -/
theorem taken_pos {m : M} (ha : a ∈ t) (hm : awaits a = some m) : 0 < taken awaits t m :=
  List.countP_pos_iff.mpr ⟨a, ha, decide_eq_true hm⟩

theorem taken_singleton_of_ne {m : M} (h : awaits a ≠ some m) : taken awaits [a] m = 0 := by
  rw [taken, List.countP_cons, if_neg (by rwa [decide_eq_true_eq]), List.countP_nil]

/-- Nothing is taken in a stretch that takes no message. -/
theorem Quiet.taken_eq_zero (h : Quiet awaits t) (m : M) : taken awaits t m = 0 := by
  refine List.countP_eq_zero.mpr fun a ha => ?_
  rw [h a ha, decide_eq_true_eq]
  exact Option.some_ne_none m ∘ Eq.symm

/-- **No more is taken than has been sent.** -/
theorem taken_le_sent {script : ι → List A}
    (h : Reaches (Ready sends awaits peer) (start script) S) (i : ι) (m : M) :
    taken awaits (S.done i) m ≤ sent sends (S.done (peer i)) m := by
  induction h with
  | refl => exact Nat.zero_le _
  | @tail T _ _ hstep ih =>
    obtain @⟨j, a, r, -, hready⟩ := hstep
    -- what has been sent only grows
    have hgrows : ∀ k, sent sends (T.done k) m ≤ sent sends ((T.after j [a] r).done k) m := by
      intro k
      by_cases hk : k = j
      · subst hk
        rw [after_done_self, sent_append]
        exact Nat.le_add_right _ _
      · exact Nat.le_of_eq (by rw [after_done_of_ne hk])
    refine Nat.le_trans ?_ (hgrows (peer i))
    by_cases hi : i = j
    · subst hi
      rw [after_done_self, taken_append]
      by_cases hm : awaits a = some m
      · have hone : taken awaits [a] m = 1 := by
          rw [taken, List.countP_cons, if_pos (decide_eq_true hm), List.countP_nil]
        rw [hone]
        exact hready m hm
      · rw [taken_singleton_of_ne hm]
        exact ih
    · rw [after_done_of_ne hi]
      exact ih

/-- **A stretch that takes no message** is never blocked. -/
theorem Reaches.perform_of_quiet (h : Reaches (Ready sends awaits peer) S S')
    (hrest : S'.rest i = t ++ r) (hquiet : Quiet awaits t) :
    Reaches (Ready sends awaits peer) S (S'.after i t r) := by
  refine h.perform hrest fun a ha done m hm => ?_
  rw [hquiet a ha] at hm
  cases hm

/-- **A message is taken** that has been sent, and not been taken before. -/
theorem Reaches.take {m : M} (h : Reaches (Ready sends awaits peer) S S')
    (hrest : S'.rest i = a :: r) (hawaits : awaits a = some m)
    (hsent : 0 < sent sends (S'.done (peer i)) m) (htaken : taken awaits (S'.done i) m = 0) :
    Reaches (Ready sends awaits peer) S (S'.after i [a] r) := by
  refine h.step hrest fun m' hm' => ?_
  rw [hawaits] at hm'
  obtain rfl := Option.some.inj hm'
  rwa [htaken]

end Messages

end Scripts
