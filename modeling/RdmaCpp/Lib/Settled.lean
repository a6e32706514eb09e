import Mathlib.Algebra.BigOperators.Group.Finset.Basic
import Mathlib.Algebra.Order.BigOperators.Group.Finset
import RdmaCpp.Lib.Monitor
import RdmaCpp.Lib.Scripts

/-!
# Where parties that follow scripts come to rest

A cut through the scripts is *blocked* when no party can perform its next action
(`Scripts.Blocked`): either all of them have finished, or some wait for what will never
come. Which of the two it is, might depend on who was faster. It does not, where an action
that is ready stays ready until it is performed (`Scripts.Steady`). Two steps of different
parties can then be taken in either order, so all the interleavings of the same scripts run
into each other (`Scripts.Reaches.join`), and they all come to rest at the same cut
(`Scripts.Reaches.eq_of_blocked`), which they do after finitely many steps
(`Scripts.exists_blocked`, `Scripts.exists_rest`).

That is the shape of a proof that nothing deadlocks: **one** interleaving is shown that comes
to the end, and every other one then comes to the same end (`Scripts.Reaches.to_blocked`).
Messages are of this kind (`Scripts.steady_ready`): nobody but the party that waits takes
what it waits for.

Where they do not come to the end, the question is who waits for whom. Two parties wait for each
other in no place where their scripts wait *in turn* (`Scripts.inTurn`): the messages are
ranked, and a party that waits for one has sent all of lower rank that the other may wait for.
Then one of the two has always finished, and what the other waits for is never sent
(`Scripts.Blocked.waits`).
-/

namespace Scripts

variable {ι A : Type} {P : (ι → List A) → ι → A → Prop}

/-- **What is ready stays ready**, whatever the other parties do. -/
def Steady (P : (ι → List A) → ι → A → Prop) : Prop :=
  ∀ done done' i a, done' i = done i → (∀ j, done j <+: done' j) → P done i a → P done' i a

variable [DecidableEq ι] {S S' S₁ S₂ B B' : Scripts ι A} {i j : ι} {t t' r r' : List A}

/-- **Nobody can get on.** -/
def Blocked (P : (ι → List A) → ι → A → Prop) (S : Scripts ι A) : Prop := ∀ S', ¬Step P S S'

/-- Everybody has finished. -/
theorem blocked_of_finished (h : ∀ i, S.rest i = []) : Blocked P S := by
  rintro _ @⟨i, a, r, hrest, -⟩
  rw [h i] at hrest
  cases hrest

/-! ### Two steps in either order -/

/-- Stretches of two parties, one after the other. -/
theorem after_comm (h : i ≠ j) : (S.after i t r).after j t' r' = (S.after j t' r').after i t r := by
  ext k : 2
  · by_cases hi : k = i
    · subst hi
      rw [after_done_of_ne h, after_done_self, after_done_self, after_done_of_ne h]
    · by_cases hj : k = j
      · subst hj
        rw [after_done_self, after_done_of_ne hi, after_done_of_ne hi, after_done_self]
      · rw [after_done_of_ne hj, after_done_of_ne hi, after_done_of_ne hi, after_done_of_ne hj]
  · by_cases hi : k = i
    · subst hi
      rw [after_rest_of_ne h, after_rest_self, after_rest_self]
    · by_cases hj : k = j
      · subst hj
        rw [after_rest_self, after_rest_of_ne hi, after_rest_self]
      · rw [after_rest_of_ne hj, after_rest_of_ne hi, after_rest_of_ne hi, after_rest_of_ne hj]

/-- What has been done only grows. -/
theorem done_prefix_after (j : ι) : S.done j <+: (S.after i t r).done j := by
  by_cases hj : j = i
  · subst hj
    rw [after_done_self]
    exact List.prefix_append _ _
  · rw [after_done_of_ne hj]

/-- **The diamond**: two steps from the same cut are the same, or each can be taken after the
other. -/
theorem Step.diamond (hP : Steady P) (h₁ : Step P S S₁) (h₂ : Step P S S₂) :
    S₁ = S₂ ∨ ∃ S', Step P S₁ S' ∧ Step P S₂ S' := by
  obtain @⟨i, a, r, hrest, hready⟩ := h₁
  obtain @⟨j, b, q, hrest', hready'⟩ := h₂
  by_cases hij : i = j
  · -- the same party has one next action
    subst hij
    rw [hrest] at hrest'
    obtain ⟨rfl, rfl⟩ := List.cons.inj hrest'
    exact Or.inl rfl
  · refine Or.inr ⟨(S.after i [a] r).after j [b] q, ?_, ?_⟩
    · have hji : j ≠ i := fun h => hij h.symm
      exact Step.mk ((after_rest_of_ne hji).trans hrest')
        (hP _ _ j b (after_done_of_ne hji) done_prefix_after hready')
    · rw [after_comm hij]
      exact Step.mk ((after_rest_of_ne hij).trans hrest)
        (hP _ _ i a (after_done_of_ne hij) done_prefix_after hready)

/-! ### Every interleaving comes to the same rest -/

/-- Where nobody can get on, nothing more is reached. -/
theorem Blocked.eq_of_reaches (h : Blocked P S) (hS : Reaches P S S') : S' = S := by
  rcases Relation.ReflTransGen.cases_head hS with heq | ⟨T, hstep, -⟩
  · exact heq.symm
  · exact absurd hstep (h T)

/-- **Interleavings run into each other.** -/
theorem Reaches.join (hP : Steady P) (h₁ : Reaches P S S₁) (h₂ : Reaches P S S₂) :
    ∃ S', Reaches P S₁ S' ∧ Reaches P S₂ S' := by
  refine Relation.church_rosser (fun T T₁ T₂ hstep₁ hstep₂ => ?_) h₁ h₂
  rcases hstep₁.diamond hP hstep₂ with rfl | ⟨T', h₁', h₂'⟩
  · exact ⟨T₁, Relation.ReflGen.refl, Relation.ReflTransGen.refl⟩
  · exact ⟨T', Relation.ReflGen.single h₁', Relation.ReflTransGen.single h₂'⟩

/-- **Every interleaving can be continued** to where one of them has come to rest. -/
theorem Reaches.to_blocked (hP : Steady P) (h : Reaches P S B) (hB : Blocked P B)
    (h' : Reaches P S S') : Reaches P S' B := by
  obtain ⟨T, hBT, hST⟩ := h.join hP h'
  rwa [hB.eq_of_reaches hBT] at hST

/-- **There is only one place to come to rest.** -/
theorem Reaches.eq_of_blocked (hP : Steady P) (h : Reaches P S B) (hB : Blocked P B)
    (h' : Reaches P S B') (hB' : Blocked P B') : B = B' :=
  hB'.eq_of_reaches (h.to_blocked hP hB h')

section Finite

variable [Fintype ι]

/-- How much there is still to do. -/
def left (S : Scripts ι A) : ℕ := ∑ i, (S.rest i).length

/-- A step is one action less. -/
theorem Step.left_lt (h : Step P S S') : S'.left < S.left := by
  obtain @⟨i, a, r, hrest, -⟩ := h
  refine Finset.sum_lt_sum (fun j _ => ?_) ⟨i, Finset.mem_univ i, ?_⟩
  · by_cases hj : j = i
    · subst hj
      rw [after_rest_self, hrest, List.length_cons]
      exact Nat.le_succ _
    · exact Nat.le_of_eq (by rw [after_rest_of_ne hj])
  · rw [after_rest_self, hrest, List.length_cons]
    exact Nat.lt_succ_self _

/-- **They come to rest**, after at most as many steps as there are actions left. -/
theorem exists_blocked (P : (ι → List A) → ι → A → Prop) (S : Scripts ι A) :
    ∃ B, Reaches P S B ∧ Blocked P B := by
  induction hn : S.left using Nat.strong_induction_on generalizing S with
  | _ n ih =>
    by_cases hS : Blocked P S
    · exact ⟨S, Relation.ReflTransGen.refl, hS⟩
    · obtain ⟨S', hstep⟩ := not_forall_not.mp hS
      obtain ⟨B, hreach, hB⟩ := ih _ (hn ▸ hstep.left_lt) S' rfl
      exact ⟨B, Relation.ReflTransGen.head hstep hreach, hB⟩

end Finite

/-! ### Messages -/

section Messages

variable {M : Type} [DecidableEq M] {sends : A → List M} {awaits : A → Option M} {peer : ι → ι}

/-- What has been sent only grows. -/
theorem sent_mono (h : t <+: t') (m : M) : sent sends t m ≤ sent sends t' m := by
  obtain ⟨u, rfl⟩ := h
  rw [sent_append]
  exact Nat.le_add_right _ _

omit [DecidableEq ι] in
/-- **A message waits** for the party that it was sent to. -/
theorem steady_ready : Steady (Ready sends awaits peer) := by
  intro done done' i a hself hgrows hready m hm
  rw [hself]
  exact Nat.lt_of_lt_of_le (hready m hm) (sent_mono (hgrows (peer i)) m)

/-! ### Who waits for whom -/

/-- **Waiting in turn.** The messages are meant for one of the parties each, and are ranked. The
monitor remembers what the party has done, and lets it wait for a message that is meant for it,
that it has not waited for before, and before which it has sent all those of lower rank that are
meant for its peer. -/
def inTurn (sends : A → List M) (awaits : A → Option M) (peer : ι → ι) (meant : M → ι)
    (rank : M → ℕ) (i : ι) : Monitor (List A) A where
  step h a := h ++ [a]
  Ok h a := ∀ m, awaits a = some m → meant m = i ∧ taken awaits h m = 0 ∧
    ∀ m', meant m' = peer i → rank m' < rank m → 0 < sent sends h m'

variable {meant : M → ι} {rank : M → ℕ} {h : List A}

omit [DecidableEq ι] in
/-- What the monitor remembers is what has been done. -/
@[simp] theorem inTurn_after (h t : List A) :
    (inTurn sends awaits peer meant rank i).after h t = h ++ t := by
  induction t generalizing h with
  | nil => exact (List.append_nil h).symm
  | cons a t ih =>
    rw [Monitor.after_cons, ih]
    exact List.append_assoc h [a] t

omit [DecidableEq ι] in
/-- A stretch that waits for nothing. -/
theorem Quiet.inTurn (ht : Quiet awaits t) (h : List A) :
    (inTurn sends awaits peer meant rank i).Accepts h t := by
  rw [Monitor.accepts_iff]
  rintro t' a r rfl m hm
  rw [ht a (List.mem_append_right _ List.mem_cons_self)] at hm
  cases hm

omit [DecidableEq ι] in
/-- An action that waits for a message, in its turn. -/
theorem inTurn_cons {a : A} {m : M} (ha : awaits a = some m) (hmeant : meant m = i)
    (htaken : taken awaits h m = 0)
    (hsent : ∀ m', meant m' = peer i → rank m' < rank m → 0 < sent sends h m')
    (ht : (inTurn sends awaits peer meant rank i).Accepts (h ++ [a]) t) :
    (inTurn sends awaits peer meant rank i).Accepts h (a :: t) := by
  refine ⟨fun m' hm' => ?_, ht⟩
  obtain rfl := Option.some.inj (ha.symm.trans hm')
  exact ⟨hmeant, htaken, hsent⟩

/-- **Nobody waits for one who waits.** Where two parties whose scripts wait in turn have come to
rest, each has finished, or waits for a message while the other has finished, and has not sent
it. For if both waited, the one that waits for the message of higher rank would have sent what
the other waits for. -/
theorem Blocked.waits (hrank : Function.Injective rank) (hpeer : ∀ i, peer (peer i) = i)
    (hne : ∀ i, peer i ≠ i) {script : ι → List A}
    (hturn : ∀ i, (inTurn sends awaits peer meant rank i).Accepts [] (script i))
    (hS : Reaches (Ready sends awaits peer) (start script) S)
    (hB : Blocked (Ready sends awaits peer) S) (i : ι) :
    S.rest i = [] ∨ ∃ a r m, S.rest i = a :: r ∧ awaits a = some m ∧ S.rest (peer i) = [] ∧
      ∀ b ∈ script (peer i), m ∉ sends b := by
  -- a party that has not finished waits for what has not been sent to it, in its turn
  have hwaits : ∀ j a r, S.rest j = a :: r → ∃ m, awaits a = some m ∧ meant m = j ∧
      sent sends (S.done (peer j)) m = 0 ∧
      ∀ m', meant m' = peer j → rank m' < rank m → 0 < sent sends (S.done j) m' := by
    intro j a r hrest
    have hnot : ¬Ready sends awaits peer S.done j a := fun hready => hB _ (Step.mk hrest hready)
    obtain ⟨m, hm⟩ := not_forall.mp hnot
    obtain ⟨hawaits, hle⟩ := Classical.not_imp.mp hm
    have hscript : script j = S.done j ++ a :: r := by
      rw [← hrest, hS.script_eq j]
      exact (List.nil_append _).symm
    have hok := ((inTurn sends awaits peer meant rank j).accepts_iff [] (script j)).mp (hturn j)
      _ a r hscript
    rw [inTurn_after, List.nil_append] at hok
    obtain ⟨hmeant, htaken, hsent⟩ := hok m hawaits
    rw [htaken, Nat.not_lt, Nat.le_zero] at hle
    exact ⟨m, hawaits, hmeant, hle, hsent⟩
  rcases hrest : S.rest i with _ | ⟨a, r⟩
  · exact Or.inl rfl
  obtain ⟨m, hawaits, hmeant, hzero, hsent⟩ := hwaits i a r hrest
  have hdone : S.rest (peer i) = [] := by
    by_contra hc
    obtain ⟨b, q, hrest'⟩ := List.exists_cons_of_ne_nil hc
    obtain ⟨m', -, hmeant', hzero', hsent'⟩ := hwaits (peer i) b q hrest'
    rw [hpeer] at hzero' hsent'
    rcases Nat.lt_trichotomy (rank m) (rank m') with hlt | heq | hgt
    · exact absurd hzero (Nat.ne_of_gt (hsent' m hmeant hlt))
    · rw [hrank heq, hmeant'] at hmeant
      exact hne i hmeant
    · exact absurd hzero' (Nat.ne_of_gt (hsent m' hmeant' hgt))
  refine Or.inr ⟨a, r, m, rfl, hawaits, hdone, fun b hb hm => ?_⟩
  have hall : script (peer i) = S.done (peer i) := by
    have hscript := hS.script_eq (peer i)
    rw [hdone, List.append_nil] at hscript
    exact hscript.symm
  rw [hall] at hb
  exact absurd hzero (Nat.ne_of_gt (sent_pos hb hm))

end Messages

end Scripts
