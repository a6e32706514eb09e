import Mathlib.Data.List.Nodup
import Mathlib.Logic.Function.Basic
import Mathlib.Logic.Relation
import Mathlib.Tactic.Common

/-!
# Threads that take turns under a lock

Threads share a state, and each of them works on it once, in small steps, while it holds a
lock; before that it may find that it need not, and return at once. Code is a tree of such
steps here (`Locked.Code`), so that what a thread does next may depend on what it has seen, and
a state of the whole is the shared state, the holder of the lock, and how far each thread has
got (`Locked.State`).

Whatever the interleaving, what the threads see of each other is a **serial** execution: there
is an order in which those that have released the lock have run one after the other, with the
results that they have returned, and the holder has done the first steps of its code behind
them (`Locked.Reached.explained`). So a property of the interleaving is shown for serial
executions, by induction on the order, and then for the steps of one thread alone
(`Locked.Code.Always`). And as code ends, the lock is always given back: every thread can still
return, wherever the others have got to (`Locked.Reached.exists_returned`).
-/

namespace Locked

/-- **Code of small steps** on a shared state, which ends with a value. -/
inductive Code (σ α : Type)
  /-- The end. -/
  | ret (a : α)
  /-- A step, after which the code goes on as it finds the state before it. -/
  | step (f : σ → σ) (next : σ → Code σ α)

variable {σ α β : Type}

namespace Code

/-- One piece of code and then another. -/
protected def bind : Code σ α → (α → Code σ β) → Code σ β
  | ret a, k => k a
  | step f next, k => step f fun s => (next s).bind k

instance : Monad (Code σ) where
  pure := ret
  bind := Code.bind

/-- Read the state. -/
def load (f : σ → α) : Code σ α := step id fun s => ret (f s)

/-- Change the state. -/
def store (f : σ → σ) : Code σ Unit := step f fun _ => ret ()

/-- **The code alone**: what it ends with, and the state behind it. -/
def run : Code σ α → σ → α × σ
  | ret a, s => (a, s)
  | step f next, s => (next s).run (f s)

/-- **All along**: the property holds of the states before, between and after the steps. -/
def Always (P : σ → Prop) : Code σ α → σ → Prop
  | ret _, s => P s
  | step f next, s => P s ∧ (next s).Always P (f s)

variable {c c' : Code σ α} {k : α → Code σ β} {s s' : σ} {P : σ → Prop}

@[simp] theorem run_pure (a : α) (s : σ) : (pure a : Code σ α).run s = (a, s) := rfl

@[simp] theorem run_load (f : σ → α) (s : σ) : (load f).run s = (f s, s) := rfl

@[simp] theorem run_store (f : σ → σ) (s : σ) : (store f).run s = ((), f s) := rfl

@[simp] theorem run_bind (c : Code σ α) (k : α → Code σ β) (s : σ) :
    (c >>= k).run s = (k (c.run s).1).run (c.run s).2 := by
  induction c generalizing s with
  | ret a => rfl
  | step f next ih => exact ih s (f s)

@[simp] theorem always_pure (a : α) : (pure a : Code σ α).Always P s ↔ P s := Iff.rfl

@[simp] theorem always_load (f : σ → α) : (load f).Always P s ↔ P s := and_self_iff

@[simp] theorem always_store (f : σ → σ) : (store f).Always P s ↔ P s ∧ P (f s) := Iff.rfl

/-- At the end in particular. -/
theorem Always.run (h : c.Always P s) : P (c.run s).2 := by
  induction c generalizing s with
  | ret a => exact h
  | step f next ih => exact ih s h.2

@[simp] theorem always_bind :
    (c >>= k).Always P s ↔ c.Always P s ∧ (k (c.run s).1).Always P (c.run s).2 := by
  induction c generalizing s with
  | ret a =>
    refine ⟨fun h => ⟨?_, h⟩, fun h => h.2⟩
    change P s
    rcases hk : k a with b | ⟨f, next⟩
    all_goals
      change (k a).Always P s at h
      rw [hk] at h
    · exact h
    · exact h.1
  | step f next ih =>
    change P s ∧ (next s >>= k).Always P (f s) ↔ (P s ∧ (next s).Always P (f s)) ∧ _
    rw [ih s, and_assoc]
    rfl

/-- **Some of the steps**: code has become the rest of it, and the state another one. -/
inductive Partly (c : Code σ α) (s : σ) : Code σ α → σ → Prop
  | start : Partly c s c s
  | step {f : σ → σ} {next : σ → Code σ α} {s' : σ} (h : Partly c s (.step f next) s') :
      Partly c s (next s') (f s')

/-- **What is left to do** leads to the same end. -/
theorem Partly.run_eq (h : Partly c s c' s') : c'.run s' = c.run s := by
  induction h with
  | start => rfl
  | step _ ih => exact ih

theorem Partly.always (h : Partly c s c' s') (halways : c.Always P s) : c'.Always P s' := by
  induction h with
  | start => exact halways
  | step _ ih => exact ih.2

/-- What holds all along holds now. -/
theorem Always.now (h : c.Always P s) : P s := by
  cases c with
  | ret a => exact h
  | step f next => exact h.1

end Code

/-! ### The interleavings -/

/-- **How far a thread has got.** -/
inductive Phase (σ α : Type)
  /-- It has not taken the lock yet. -/
  | outside
  /-- It holds the lock, and this is what it has still to do. -/
  | inside (c : Code σ α)
  /-- It has returned. -/
  | returned (a : α)

/-- **The shared state, the lock and the threads.** -/
structure State (ι σ α : Type) where
  shared : σ
  phase : ι → Phase σ α
  /-- The thread that holds the lock. -/
  holder : Option ι

variable {ι : Type} [DecidableEq ι]

/-- A thread has got on. -/
def State.goes (S : State ι σ α) (i : ι) (p : Phase σ α) : ι → Phase σ α :=
  Function.update S.phase i p

/-- It is where it has got to, and the others are where they were. -/
theorem State.goes_eq {S : State ι σ α} {i j : ι} {p q : Phase σ α} :
    S.goes i p j = q ↔ j = i ∧ p = q ∨ j ≠ i ∧ S.phase j = q := by
  rw [goes, Function.update_apply]
  by_cases h : j = i
  · rw [if_pos h]
    exact ⟨fun hq => Or.inl ⟨h, hq⟩, fun hq => (hq.resolve_right fun hc => hc.1 h).2⟩
  · rw [if_neg h]
    exact ⟨fun hq => Or.inr ⟨h, hq⟩, fun hq => (hq.resolve_left fun hc => h hc.1).2⟩

@[simp] theorem State.goes_self (S : State ι σ α) (i : ι) (p : Phase σ α) : S.goes i p i = p :=
  Function.update_self ..

theorem State.goes_of_ne {S : State ι σ α} {i j : ι} (h : j ≠ i) (p : Phase σ α) :
    S.goes i p j = S.phase j := Function.update_of_ne h ..

/-- **A step** of one thread, where `enter` is what the threads find when they begin: a value to
return at once, or code to run under the lock. -/
inductive Step (enter : ι → Except α (Code σ α)) : State ι σ α → State ι σ α → Prop
  /-- A thread returns without the lock. -/
  | refuse {S : State ι σ α} {i : ι} {a : α} (hphase : S.phase i = .outside)
      (henter : enter i = .error a) :
      Step enter S ⟨S.shared, S.goes i (.returned a), S.holder⟩
  /-- A thread takes the lock, which nobody holds. -/
  | acquire {S : State ι σ α} {i : ι} {c : Code σ α} (hphase : S.phase i = .outside)
      (henter : enter i = .ok c) (hfree : S.holder = none) :
      Step enter S ⟨S.shared, S.goes i (.inside c), some i⟩
  /-- A thread works. -/
  | work {S : State ι σ α} {i : ι} {f : σ → σ} {next : σ → Code σ α}
      (hphase : S.phase i = .inside (.step f next)) :
      Step enter S ⟨f S.shared, S.goes i (.inside (next S.shared)), S.holder⟩
  /-- A thread has come to its end, gives the lock back, and returns. -/
  | release {S : State ι σ α} {i : ι} {a : α} (hphase : S.phase i = .inside (.ret a)) :
      Step enter S ⟨S.shared, S.goes i (.returned a), none⟩

/-- Nobody has begun. -/
def start (s : σ) : State ι σ α := ⟨s, fun _ => .outside, none⟩

/-- Any number of steps: **every interleaving**. -/
def Reaches (enter : ι → Except α (Code σ α)) : State ι σ α → State ι σ α → Prop :=
  Relation.ReflTransGen (Step enter)

/-- What is reached from the start. -/
def Reached (enter : ι → Except α (Code σ α)) (s : σ) (S : State ι σ α) : Prop :=
  Reaches enter (start s) S

/-! ### What they see of each other -/

omit [DecidableEq ι] in
/-- **One thread after another**, each with what it ends with, no thread twice. -/
inductive Serial (enter : ι → Except α (Code σ α)) (s₀ : σ) : List (ι × α) → σ → Prop
  | nil : Serial enter s₀ [] s₀
  | snoc {order : List (ι × α)} {s : σ} {i : ι} {c : Code σ α} (h : Serial enter s₀ order s)
      (hnew : i ∉ order.map Prod.fst) (henter : enter i = .ok c) :
      Serial enter s₀ (order ++ [(i, (c.run s).1)]) (c.run s).2

/-- **A cut, explained** by a serial execution: what has been returned under the lock was
returned in it, and the lock is free exactly where it has ended; otherwise its holder has done
some of its steps behind it. -/
structure Explained (enter : ι → Except α (Code σ α)) (s₀ : σ) (S : State ι σ α)
    (order : List (ι × α)) (s : σ) : Prop where
  serial : Serial enter s₀ order s
  returned : ∀ i a, S.phase i = .returned a → (i, a) ∈ order ∨ enter i = .error a
  of_mem : ∀ i a, (i, a) ∈ order → S.phase i = .returned a
  alone : ∀ i c, S.phase i = .inside c → S.holder = some i
  free : S.holder = none → S.shared = s
  held : ∀ i, S.holder = some i → ∃ c c', enter i = .ok c ∧ S.phase i = .inside c' ∧
    Code.Partly c s c' S.shared

variable {enter : ι → Except α (Code σ α)} {s₀ s : σ} {S S' : State ι σ α}
  {order : List (ι × α)} {i j : ι} {a : α}

omit [DecidableEq ι] in
theorem explained_start (enter : ι → Except α (Code σ α)) (s₀ : σ) :
    Explained enter s₀ (start s₀) [] s₀ where
  serial := .nil
  returned _ _ h := by cases h
  of_mem _ _ h := absurd h List.not_mem_nil
  alone _ _ h := by cases h
  free _ := rfl
  held _ h := by cases h

omit [DecidableEq ι] in
/-- A thread that has run has returned. -/
theorem Explained.ne_of_mem (h : Explained enter s₀ S order s) (hmem : (j, a) ∈ order)
    (hnot : ∀ a, S.phase i ≠ .returned a) : j ≠ i := by
  rintro rfl
  exact hnot a (h.of_mem j a hmem)

omit [DecidableEq ι] in
theorem Explained.not_mem (h : Explained enter s₀ S order s)
    (hnot : ∀ a, S.phase i ≠ .returned a) : i ∉ order.map Prod.fst := by
  intro hmem
  obtain ⟨⟨j, a⟩, hja, rfl⟩ := List.mem_map.mp hmem
  exact h.ne_of_mem hja hnot rfl

/-- **Every step keeps it.** Only giving the lock back makes the order longer. -/
theorem Explained.step (h : Explained enter s₀ S order s) (hstep : Step enter S S') :
    ∃ order' s', Explained enter s₀ S' order' s' := by
  cases hstep with
  | @refuse i a hphase henter =>
    have hnot : ∀ b, S.phase i ≠ .returned b := fun b hb => by
      rw [hphase] at hb
      cases hb
    refine ⟨order, s, h.serial, fun j b hj => ?_, fun j b hj => ?_, fun j c hj => ?_, h.free,
      fun j hj => ?_⟩
    · rcases State.goes_eq.mp hj with ⟨rfl, hp⟩ | ⟨-, hj⟩
      · cases hp
        exact Or.inr henter
      · exact h.returned j b hj
    · exact State.goes_eq.mpr (Or.inr ⟨h.ne_of_mem hj hnot, h.of_mem j b hj⟩)
    · rcases State.goes_eq.mp hj with ⟨rfl, hp⟩ | ⟨-, hj⟩
      · cases hp
      · exact h.alone j c hj
    · obtain ⟨c, c', hc, hin, hpartly⟩ := h.held j hj
      have hji : j ≠ i := by
        rintro rfl
        rw [hphase] at hin
        cases hin
      exact ⟨c, c', hc, State.goes_eq.mpr (Or.inr ⟨hji, hin⟩), hpartly⟩
  | @acquire i c hphase henter hfree =>
    have hnot : ∀ b, S.phase i ≠ .returned b := fun b hb => by
      rw [hphase] at hb
      cases hb
    refine ⟨order, s, h.serial, fun j b hj => ?_, fun j b hj => ?_, fun j c' hj => ?_,
      fun hc => (by cases hc), fun j hj => ?_⟩
    · rcases State.goes_eq.mp hj with ⟨-, hp⟩ | ⟨-, hj⟩
      · cases hp
      · exact h.returned j b hj
    · exact State.goes_eq.mpr (Or.inr ⟨h.ne_of_mem hj hnot, h.of_mem j b hj⟩)
    · rcases State.goes_eq.mp hj with ⟨rfl, -⟩ | ⟨-, hj⟩
      · rfl
      · have hholds := h.alone j c' hj
        rw [hfree] at hholds
        cases hholds
    · cases hj
      refine ⟨c, c, henter, State.goes_self .., ?_⟩
      rw [h.free hfree]
      exact .start
  | @work i f next hphase =>
    have hholds := h.alone i _ hphase
    have hnot : ∀ b, S.phase i ≠ .returned b := fun b hb => by
      rw [hphase] at hb
      cases hb
    refine ⟨order, s, h.serial, fun j b hj => ?_, fun j b hj => ?_, fun j c' hj => ?_,
      fun hc => ?_, fun j hj => ?_⟩
    · rcases State.goes_eq.mp hj with ⟨-, hp⟩ | ⟨-, hj⟩
      · cases hp
      · exact h.returned j b hj
    · exact State.goes_eq.mpr (Or.inr ⟨h.ne_of_mem hj hnot, h.of_mem j b hj⟩)
    · rcases State.goes_eq.mp hj with ⟨rfl, -⟩ | ⟨-, hj⟩
      · exact hholds
      · exact h.alone j c' hj
    · rw [hholds] at hc
      cases hc
    · obtain rfl := Option.some.inj (hholds.symm.trans hj)
      obtain ⟨c, c', henter, hin, hpartly⟩ := h.held i hholds
      rw [hphase] at hin
      cases hin
      exact ⟨c, next S.shared, henter, State.goes_self .., hpartly.step⟩
  | @release i a hphase =>
    have hholds := h.alone i _ hphase
    have hnot : ∀ b, S.phase i ≠ .returned b := fun b hb => by
      rw [hphase] at hb
      cases hb
    obtain ⟨c, c', henter, hin, hpartly⟩ := h.held i hholds
    rw [hphase] at hin
    cases hin
    -- what it returns, and what it leaves, is what it would have returned and left alone
    have hrun : c.run s = (a, S.shared) := hpartly.run_eq.symm
    have hserial : Serial enter s₀ (order ++ [(i, a)]) S.shared := by
      have hsnoc := h.serial.snoc (h.not_mem hnot) henter
      rwa [hrun] at hsnoc
    refine ⟨order ++ [(i, a)], S.shared, hserial, fun j b hj => ?_, fun j b hj => ?_,
      fun j c' hj => ?_, fun _ => rfl, fun j hj => (by cases hj)⟩
    · rcases State.goes_eq.mp hj with ⟨rfl, hp⟩ | ⟨-, hj⟩
      · cases hp
        exact Or.inl (List.mem_append_right _ List.mem_cons_self)
      · exact (h.returned j b hj).imp_left (List.mem_append_left _)
    · rcases List.mem_append.mp hj with hold | hnew
      · exact State.goes_eq.mpr (Or.inr ⟨h.ne_of_mem hold hnot, h.of_mem j b hold⟩)
      · cases List.mem_singleton.mp hnew
        exact State.goes_self ..
    · rcases State.goes_eq.mp hj with ⟨-, hp⟩ | ⟨hji, hj⟩
      · cases hp
      · have hother := h.alone j c' hj
        rw [hholds] at hother
        exact absurd (Option.some.inj hother).symm hji

/-- **Whatever the interleaving**, there is a serial execution that explains it. -/
theorem Reached.explained (h : Reached enter s₀ S) : ∃ order s, Explained enter s₀ S order s := by
  induction h with
  | refl => exact ⟨[], s₀, explained_start enter s₀⟩
  | tail _ hstep ih =>
    obtain ⟨order, s, hexp⟩ := ih
    exact hexp.step hstep

/-! ### Properties of an interleaving -/

omit [DecidableEq ι] in
/-- **A property of the shared state** at a cut: it holds at the end of the serial execution, and
every piece of code that has not been executed keeps it all along. -/
theorem Explained.now {P : σ → Prop} (h : Explained enter s₀ S order s) (hend : P s)
    (hkeeps : ∀ i c, enter i = .ok c → i ∉ order.map Prod.fst → c.Always P s) : P S.shared := by
  rcases hholder : S.holder with _ | i
  · rw [h.free hholder]
    exact hend
  · obtain ⟨c, c', henter, hinside, hpartly⟩ := h.held i hholder
    have hnew : i ∉ order.map Prod.fst := h.not_mem fun a ha => by
      rw [hinside] at ha
      cases ha
    exact (hpartly.always (hkeeps i c henter hnew)).now

/-! ### Nobody waits for ever -/

/-- A thread that holds the lock can come to its end, and give it back. The induction is on
what it has to do. -/
theorem exists_released (enter : ι → Except α (Code σ α)) (c : Code σ α)
    (hphase : S.phase i = .inside c) :
    ∃ S' a, Reaches enter S S' ∧ S'.holder = none ∧ S'.phase i = .returned a ∧
      ∀ j ≠ i, S'.phase j = S.phase j := by
  induction c generalizing S with
  | ret a =>
    exact ⟨_, a, .single (.release hphase), rfl, State.goes_self ..,
      fun j hj => State.goes_of_ne hj _⟩
  | step f next ih =>
    have hwork : Step enter S ⟨f S.shared, S.goes i (.inside (next S.shared)), S.holder⟩ :=
      .work hphase
    obtain ⟨S', a, hreach, hfree, hret, hsame⟩ := ih S.shared
      (S := ⟨f S.shared, S.goes i (.inside (next S.shared)), S.holder⟩) (State.goes_self ..)
    refine ⟨S', a, .head hwork hreach, hfree, hret, fun j hj => ?_⟩
    rw [hsame j hj]
    exact State.goes_of_ne hj _

/-- **Every thread can still return**, wherever the others have got to. -/
theorem Reached.exists_returned (h : Reached enter s₀ S) (i : ι) :
    ∃ S' a, Reaches enter S S' ∧ S'.phase i = .returned a := by
  obtain ⟨order, s, hexp⟩ := h.explained
  rcases hphase : S.phase i with _ | c | a
  · rcases henter : enter i with a | c
    · exact ⟨_, a, .single (.refuse hphase henter), State.goes_self ..⟩
    · -- first the lock has to be given back
      have hfree : ∃ S₁, Reaches enter S S₁ ∧ S₁.holder = none ∧ S₁.phase i = .outside := by
        rcases hholder : S.holder with _ | j
        · exact ⟨S, .refl, hholder, hphase⟩
        · obtain ⟨-, c', -, hin, -⟩ := hexp.held j hholder
          have hij : i ≠ j := by
            rintro rfl
            rw [hphase] at hin
            cases hin
          obtain ⟨S₁, -, hreach, hfree, -, hsame⟩ := exists_released enter c' hin
          exact ⟨S₁, hreach, hfree, (hsame i hij).trans hphase⟩
      obtain ⟨S₁, hreach, hfree, hout⟩ := hfree
      have hstep : Step enter S₁ ⟨S₁.shared, S₁.goes i (.inside c), some i⟩ :=
        .acquire hout henter hfree
      obtain ⟨S', a, hreach', -, hret, -⟩ := exists_released enter
        (S := ⟨S₁.shared, S₁.goes i (.inside c), some i⟩) c (State.goes_self ..)
      exact ⟨S', a, hreach.trans (.head hstep hreach'), hret⟩
  · obtain ⟨S', a, hreach, -, hret, -⟩ := exists_released enter c hphase
    exact ⟨S', a, hreach, hret⟩
  · exact ⟨S, a, .refl, hphase⟩

end Locked
