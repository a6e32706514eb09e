import Mathlib.Data.List.Basic
import Mathlib.Tactic.Common

/-!
# Code that leaves a trace

Imperative code is read here as a function of the state it starts in. What a run
of it leaves behind is three things: how it ended, the state it ended in, and the
list of the actions it performed on the way, oldest first
(`Ran`). A piece of code is a function to such a result
(`Traced`), and sequencing concatenates the traces, so a piece of
code can only ever *add* actions after those of the code run before it.

The one predicate everything is proved with is `Traced.Post`: “run
from this state, the code either returns with `Q` or stops with `E`”, where both
conditions see the state left and the actions of this piece alone. There is one
rule per construct, and the rule of the bounded `for` loop
(`Traced.post_forLoop`) is the only one with an invariant in it.
-/

/-- **What a run of a piece of code leaves**: how it ended (a value, or what
stopped it), the state it left, and the actions it performed, oldest first. -/
structure Ran (σ A ε α : Type) where
  /-- The value returned, or what stopped the run. -/
  out : Except ε α
  /-- The state at the end. -/
  state : σ
  /-- The actions performed, oldest first. -/
  trace : List A

/-- **A piece of code** over states `σ`, performing actions `A`, returning a
value or stopping for a reason in `ε`. -/
def Traced (σ A ε α : Type) : Type := σ → Ran σ A ε α

namespace Traced

variable {σ A ε α β : Type}

/-! ### The constructs -/

/-- Return a value, doing nothing. -/
protected def pure (a : α) : Traced σ A ε α := fun s => ⟨.ok a, s, []⟩

/-- Run one piece of code and then another, which may depend on the value of the
first. If the first stops, the second never runs. -/
protected def bind (m : Traced σ A ε α) (f : α → Traced σ A ε β) : Traced σ A ε β := fun s =>
  match m s with
  | ⟨.error e, s', t⟩ => ⟨.error e, s', t⟩
  | ⟨.ok a, s', t⟩ => ⟨(f a s').out, (f a s').state, t ++ (f a s').trace⟩

instance : Monad (Traced σ A ε) where
  pure := Traced.pure
  bind := Traced.bind

/-- Perform one action. -/
def emit (a : A) : Traced σ A ε Unit := fun s => ⟨.ok (), s, [a]⟩

/-- Stop the run. -/
def stop (e : ε) : Traced σ A ε α := fun s => ⟨.error e, s, []⟩

/-- Read the state. -/
def get : Traced σ A ε σ := fun s => ⟨.ok s, s, []⟩

/-- Change the state. -/
def modify (f : σ → σ) : Traced σ A ε Unit := fun s => ⟨.ok (), f s, []⟩

/-- **The bounded `for` loop**: the body is run at `i`, `i + 1`, …, `k` times in
all, and the loop is left early as soon as the body returns a value. -/
def forLoop (body : ℕ → Traced σ A ε (Option β)) : ℕ → ℕ → Traced σ A ε (Option β)
  | _, 0 => pure none
  | i, k + 1 => do
    match ← body i with
    | some b => pure (some b)
    | none => forLoop body (i + 1) k

/-- **Steps with a common way out**: the pieces are run in order until one of them
returns a value, which is then the value of the whole. -/
def firstExit : List (Traced σ A ε (Option β)) → Traced σ A ε (Option β)
  | [] => pure none
  | m :: ms => do
    match ← m with
    | some b => pure (some b)
    | none => firstExit ms

/-- **The endless loop fed with inputs**: each turn of the body consumes one input
and hands the local variable `b` to the next; the loop is left when the body
returns none, and where the inputs end it waits. -/
def loopOver {ι : Type} (body : β → ι → Traced σ A ε (Option β)) : β → List ι → Traced σ A ε Unit
  | _, [] => pure ()
  | b, x :: xs => do
    match ← body b x with
    | none => pure ()
    | some b' => loopOver body b' xs

/-- **The loop to a terminator**: the body is run at one cell after another, up to the first
at which the loop ends, and the loop is left early as soon as the body returns a value.
Where the cells end first, the run stops. -/
def scan {ι : Type} (atEnd : ι → Bool) (e : ε) (body : ι → Traced σ A ε (Option β)) :
    List ι → Traced σ A ε (Option β)
  | [] => stop e
  | x :: xs =>
    if atEnd x then pure none
    else do
      match ← body x with
      | some b => pure (some b)
      | none => scan atEnd e body xs

/-- **Local variables**: a function whose body works on a larger state, entered with the
variables at their initial values, and left forgetting them. -/
def withLocals {τ : Type} (enter : σ → τ) (leave : τ → σ) (m : Traced τ A ε α) :
    Traced σ A ε α := fun s => ⟨(m (enter s)).out, leave (m (enter s)).state, (m (enter s)).trace⟩

/-! ### Running the constructs -/

@[simp] theorem run_pure (a : α) (s : σ) : (pure a : Traced σ A ε α) s = ⟨.ok a, s, []⟩ := rfl

@[simp] theorem run_emit (a : A) (s : σ) : (emit a : Traced σ A ε Unit) s = ⟨.ok (), s, [a]⟩ := rfl

@[simp] theorem run_stop (e : ε) (s : σ) : (stop e : Traced σ A ε α) s = ⟨.error e, s, []⟩ := rfl

@[simp] theorem run_get (s : σ) : (get : Traced σ A ε σ) s = ⟨.ok s, s, []⟩ := rfl

@[simp] theorem run_modify (f : σ → σ) (s : σ) :
    (modify f : Traced σ A ε Unit) s = ⟨.ok (), f s, []⟩ := rfl

/-- The second piece runs where the first one returned. -/
theorem run_bind_ok {m : Traced σ A ε α} {f : α → Traced σ A ε β} {s s' : σ} {a : α} {t : List A}
    (h : m s = ⟨.ok a, s', t⟩) :
    (m >>= f) s = ⟨(f a s').out, (f a s').state, t ++ (f a s').trace⟩ := by
  change Traced.bind m f s = _
  rw [Traced.bind, h]

/-- The second piece does not run where the first one stopped. -/
theorem run_bind_error {m : Traced σ A ε α} {f : α → Traced σ A ε β} {s s' : σ} {e : ε}
    {t : List A} (h : m s = ⟨.error e, s', t⟩) : (m >>= f) s = ⟨.error e, s', t⟩ := by
  change Traced.bind m f s = _
  rw [Traced.bind, h]

/-! ### Postconditions -/

/-- **The postcondition of a run**: from `s` the code either returns a value with
`Q`, or stops with `E`; both see the state left and the actions of this piece of
code alone. -/
def Post (m : Traced σ A ε α) (s : σ) (Q : α → σ → List A → Prop)
    (E : ε → σ → List A → Prop) : Prop :=
  match m s with
  | ⟨.ok a, s', t⟩ => Q a s' t
  | ⟨.error e, s', t⟩ => E e s' t

variable {Q : α → σ → List A → Prop} {E : ε → σ → List A → Prop} {s : σ}

@[simp] theorem post_pure {a : α} : Post (pure a : Traced σ A ε α) s Q E ↔ Q a s [] := Iff.rfl

@[simp] theorem post_emit {a : A} {Q : Unit → σ → List A → Prop} :
    Post (emit a : Traced σ A ε Unit) s Q E ↔ Q () s [a] := Iff.rfl

@[simp] theorem post_stop {e : ε} : Post (stop e : Traced σ A ε α) s Q E ↔ E e s [] := Iff.rfl

@[simp] theorem post_get {Q : σ → σ → List A → Prop} :
    Post (get : Traced σ A ε σ) s Q E ↔ Q s s [] := Iff.rfl

@[simp] theorem post_modify {f : σ → σ} {Q : Unit → σ → List A → Prop} :
    Post (modify f : Traced σ A ε Unit) s Q E ↔ Q () (f s) [] := Iff.rfl

/-- **The rule of sequencing**: the second piece of code owes the postcondition
of the whole at the trace of the first followed by its own. -/
@[simp] theorem post_bind {m : Traced σ A ε α} {f : α → Traced σ A ε β}
    {Q : β → σ → List A → Prop} :
    Post (m >>= f) s Q E ↔
      Post m s (fun a s' t => Post (f a) s' (fun b s'' t' => Q b s'' (t ++ t'))
        (fun e s'' t' => E e s'' (t ++ t'))) E := by
  rcases hm : m s with ⟨e | a, s', t⟩
  · simp only [Post, run_bind_error hm, hm]
  · simp only [Post, run_bind_ok hm, hm]
    rcases f a s' with ⟨e | b, s'', t'⟩ <;> rfl

/-- The rule of the conditional. -/
theorem post_ite {c : Prop} [Decidable c] {m m' : Traced σ A ε α} :
    Post (if c then m else m') s Q E ↔ (c → Post m s Q E) ∧ (¬c → Post m' s Q E) := by
  by_cases h : c
  · rw [if_pos h]
    exact ⟨fun hm => ⟨fun _ => hm, fun hc => absurd h hc⟩, fun hm => hm.1 h⟩
  · rw [if_neg h]
    exact ⟨fun hm => ⟨fun hc => absurd hc h, fun _ => hm⟩, fun hm => hm.2 h⟩

/-- **The rule of consequence.** -/
theorem Post.mono {m : Traced σ A ε α} {Q' : α → σ → List A → Prop} {E' : ε → σ → List A → Prop}
    (h : Post m s Q E) (hQ : ∀ a s' t, Q a s' t → Q' a s' t)
    (hE : ∀ e s' t, E e s' t → E' e s' t) : Post m s Q' E' := by
  rcases hm : m s with ⟨e | a, s', t⟩
  · simp only [Post, hm] at h ⊢
    exact hE e s' t h
  · simp only [Post, hm] at h ⊢
    exact hQ a s' t h

/-- Reading a postcondition off the result of a run that returned. -/
theorem Post.of_ok {m : Traced σ A ε α} {a : α} {s' : σ} {t : List A} (h : Post m s Q E)
    (hm : m s = ⟨.ok a, s', t⟩) : Q a s' t := by
  simpa only [Post, hm] using h

/-- Reading a postcondition off the result of a run that stopped. -/
theorem Post.of_error {m : Traced σ A ε α} {e : ε} {s' : σ} {t : List A} (h : Post m s Q E)
    (hm : m s = ⟨.error e, s', t⟩) : E e s' t := by
  simpa only [Post, hm] using h

/-- A postcondition that does not look at how the run ended. -/
theorem post_iff {m : Traced σ A ε α} {P : σ → List A → Prop} :
    Post m s (fun _ => P) (fun _ => P) ↔ P (m s).state (m s).trace := by
  unfold Post
  rcases m s with ⟨e | a, s', t⟩ <;> rfl

/-- A postcondition at a run that is known. -/
theorem post_of_run {m : Traced σ A ε α} {a : α} {s' : σ} {t : List A} (hm : m s = ⟨.ok a, s', t⟩) :
    Post m s Q E ↔ Q a s' t := by
  simp only [Post, hm]

/-- A postcondition at a run that is known to stop. -/
theorem post_of_stop {m : Traced σ A ε α} {e : ε} {s' : σ} {t : List A}
    (hm : m s = ⟨.error e, s', t⟩) : Post m s Q E ↔ E e s' t := by
  simp only [Post, hm]

@[simp] theorem post_firstExit_nil {Q : Option β → σ → List A → Prop} :
    Post (firstExit ([] : List (Traced σ A ε (Option β)))) s Q E ↔ Q none s [] := Iff.rfl

/-- **The rule of steps with a common way out.** -/
theorem post_firstExit_cons {m : Traced σ A ε (Option β)} {ms : List (Traced σ A ε (Option β))}
    {Q : Option β → σ → List A → Prop} :
    Post (firstExit (m :: ms)) s Q E ↔
      Post m s (fun r s' t => match r with
          | some b => Q (some b) s' t
          | none => Post (firstExit ms) s' (fun r s'' t' => Q r s'' (t ++ t'))
              (fun e s'' t' => E e s'' (t ++ t'))) E := by
  rw [firstExit, post_bind]
  rcases hm : m s with ⟨e | _ | b, s', t⟩
  · simp only [Post, hm]
  · simp only [Post, hm]
  · simp only [Post, hm, run_pure, List.append_nil]

/-- **The rule of the `for` loop.** The invariant `I j` speaks of the state and
of the actions of the loop so far, just before the body is run at `j`; a body
that leaves the loop, or stops, owes the postcondition of the whole. The
induction is on the number of turns left. -/
theorem post_forLoop {body : ℕ → Traced σ A ε (Option β)} {Q : Option β → σ → List A → Prop}
    (I : ℕ → σ → List A → Prop) {i k : ℕ} (hstart : I i s [])
    (hbody : ∀ j s' t, i ≤ j → j < i + k → I j s' t →
      Post (body j) s' (fun r s'' t' => match r with
          | some b => Q (some b) s'' (t ++ t')
          | none => I (j + 1) s'' (t ++ t'))
        (fun e s'' t' => E e s'' (t ++ t')))
    (hend : ∀ s' t, I (i + k) s' t → Q none s' t) :
    Post (forLoop body i k) s Q E := by
  suffices key : ∀ (k j : ℕ) (s' : σ) (t : List A), i ≤ j → I j s' t →
      (∀ j' s'' t', j ≤ j' → j' < j + k → I j' s'' t' →
        Post (body j') s'' (fun r s₁ t₁ => match r with
            | some b => Q (some b) s₁ (t' ++ t₁)
            | none => I (j' + 1) s₁ (t' ++ t₁))
          (fun e s₁ t₁ => E e s₁ (t' ++ t₁))) →
      (∀ s'' t', I (j + k) s'' t' → Q none s'' t') →
      Post (forLoop body j k) s' (fun r s'' t' => Q r s'' (t ++ t'))
        (fun e s'' t' => E e s'' (t ++ t')) by
    simpa only [List.nil_append] using key k i s [] (Nat.le_refl _) hstart hbody hend
  intro k
  induction k with
  | zero =>
    intro j s' t _ hI _ hend
    simpa only [forLoop, post_pure, List.append_nil] using hend s' t (by simpa using hI)
  | succ k ih =>
    intro j s' t hij hI hbody hend
    rw [forLoop, post_bind]
    refine (hbody j s' t (Nat.le_refl _) (by omega) hI).mono ?_ fun e s'' t' h => h
    rintro (_ | b) s'' t' h
    · refine (ih (j + 1) s'' (t ++ t') (by omega) h (fun j' s₁ t₁ h1 h2 => ?_) ?_).mono ?_ ?_
      · exact hbody j' s₁ t₁ (by omega) (by omega)
      · intro s₁ t₁ h1
        exact hend s₁ t₁ (by rwa [show j + (k + 1) = j + 1 + k by omega])
      · intro r s₁ t₁ h1
        rwa [List.append_assoc] at h1
      · intro e s₁ t₁ h1
        rwa [List.append_assoc] at h1
    · simpa only [post_pure, List.append_nil] using h

/-- A turn that goes on. -/
theorem run_forLoop_none {body : ℕ → Traced σ A ε (Option β)} {i : ℕ} {s s' : σ} {t : List A}
    (h : body i s = ⟨.ok none, s', t⟩) (k : ℕ) : forLoop body i (k + 1) s =
      ⟨(forLoop body (i + 1) k s').out, (forLoop body (i + 1) k s').state,
        t ++ (forLoop body (i + 1) k s').trace⟩ := by
  rw [forLoop, run_bind_ok h]

/-- **A loop that is left early** is left by one of its turns, after turns that go on. The
induction is on the number of turns. -/
theorem exists_of_forLoop_some {body : ℕ → Traced σ A ε (Option β)} {i k : ℕ} {s s' : σ} {b : β}
    {t : List A} (h : forLoop body i k s = ⟨.ok (some b), s', t⟩) :
    ∃ j < k, ∃ s₁ t₁ t₂, forLoop body i j s = ⟨.ok none, s₁, t₁⟩ ∧
      body (i + j) s₁ = ⟨.ok (some b), s', t₂⟩ ∧ t = t₁ ++ t₂ := by
  induction k generalizing i s t with
  | zero => cases h
  | succ k ih =>
    rcases hrun : body i s with ⟨e | _ | b', s₁, t₁⟩
    · rw [forLoop, run_bind_error hrun] at h
      cases h
    · rw [run_forLoop_none hrun] at h
      obtain ⟨hout, hstate, rfl⟩ := Ran.mk.inj h
      obtain ⟨j, hj, s₂, t₂, t₃, hloop, hlast, htrace⟩ := ih (t := _)
        (show forLoop body (i + 1) k s₁ = ⟨.ok (some b), s', _⟩ by rw [← hout, ← hstate])
      refine ⟨j + 1, by omega, s₂, t₁ ++ t₂, t₃, ?_, ?_, ?_⟩
      · rw [run_forLoop_none hrun, hloop]
      · rwa [show i + (j + 1) = i + 1 + j by omega]
      · rw [htrace, List.append_assoc]
    · rw [forLoop, run_bind_ok hrun] at h
      cases h
      exact ⟨0, Nat.succ_pos k, s, [], t₁, rfl, hrun, List.append_nil t₁⟩

/-- **The rule of the loop to a terminator**, for an array whose cells `xs` are followed by
one at which the loop ends. The invariant `I j` speaks of the state and of the actions of
the loop so far, just before the body is run at cell `j`. The induction is on the cells
left. -/
theorem post_scan {ι : Type} {atEnd : ι → Bool} {e : ε} {body : ι → Traced σ A ε (Option β)}
    {Q : Option β → σ → List A → Prop} (I : ℕ → σ → List A → Prop) {xs rest : List ι} {z : ι}
    (hxs : ∀ x ∈ xs, atEnd x = false) (hz : atEnd z = true) (hstart : I 0 s [])
    (hbody : ∀ j x s' t, xs[j]? = some x → I j s' t →
      Post (body x) s' (fun r s'' t' => match r with
          | some b => Q (some b) s'' (t ++ t')
          | none => I (j + 1) s'' (t ++ t'))
        (fun e s'' t' => E e s'' (t ++ t')))
    (hend : ∀ s' t, I xs.length s' t → Q none s' t) :
    Post (scan atEnd e body (xs ++ z :: rest)) s Q E := by
  suffices key : ∀ (ys : List ι) (j : ℕ) (s' : σ) (t : List A), xs.drop j = ys →
      j ≤ xs.length → I j s' t →
      Post (scan atEnd e body (ys ++ z :: rest)) s' (fun r s'' t' => Q r s'' (t ++ t'))
        (fun e s'' t' => E e s'' (t ++ t')) by
    simpa only [List.nil_append] using key xs 0 s [] rfl (Nat.zero_le _) hstart
  intro ys
  induction ys with
  | nil =>
    intro j s' t hdrop hj hI
    obtain rfl : j = xs.length := by
      have hlen := congrArg List.length hdrop
      rw [List.length_drop, List.length_nil] at hlen
      omega
    rw [List.nil_append, scan, if_pos hz, post_pure, List.append_nil]
    exact hend s' t hI
  | cons y ys ih =>
    intro j s' t hdrop hj hI
    have hget : xs[j]? = some y := by
      rw [← List.head?_drop, hdrop, List.head?_cons]
    have hlt : j < xs.length := (List.getElem?_eq_some_iff.mp hget).1
    have hnext : xs.drop (j + 1) = ys := by
      rw [← List.drop_drop, hdrop, List.drop_one, List.tail_cons]
    have hy : atEnd y = false := hxs y (List.mem_of_getElem? hget)
    rw [List.cons_append, scan, hy, if_neg Bool.false_ne_true, post_bind]
    refine (hbody j y s' t hget hI).mono ?_ fun e s'' t' h => h
    rintro (_ | b) s'' t' h
    · refine (ih (j + 1) s'' (t ++ t') hnext hlt h).mono ?_ ?_
      · intro r s₁ t₁ h1
        rwa [List.append_assoc] at h1
      · intro e s₁ t₁ h1
        rwa [List.append_assoc] at h1
    · simpa only [post_pure, List.append_nil] using h

/-- The rule of local variables. -/
theorem post_withLocals {τ : Type} {enter : σ → τ} {leave : τ → σ} {m : Traced τ A ε α} :
    Post (withLocals enter leave m) s Q E ↔
      Post m (enter s) (fun a s' t => Q a (leave s') t) (fun e s' t => E e (leave s') t) := by
  rcases hm : m (enter s) with ⟨e | a, s', t⟩
  · simp only [Post, withLocals, hm]
  · simp only [Post, withLocals, hm]

/-! ### Loops over inputs, under a condition on every step -/

section LoopOver

variable {ι : Type} {body : β → ι → Traced σ A ε (Option β)}

/-- **Every step meets the condition** `P`: it is asked of the history, the state
and the input with which a turn of the loop begins, for as long as the loop goes
on. -/
def Meets (P : List A → σ → ι → Prop) (body : β → ι → Traced σ A ε (Option β)) :
    β → σ → List A → List ι → Prop
  | _, _, _, [] => True
  | b, s, h, x :: xs => P h s x ∧
      ∀ b' s' t, body b x s = ⟨.ok (some b'), s', t⟩ → Meets P body b' s' (h ++ t) xs

/-- A condition that holds of every input, whatever the state, is met. -/
theorem meets_of_mem {P : List A → σ → ι → Prop} {xs : List ι} (hP : ∀ x ∈ xs, ∀ h s, P h s x)
    (b : β) (s : σ) (h : List A) : Meets P body b s h xs := by
  induction xs generalizing b s h with
  | nil => trivial
  | cons x xs ih =>
    refine ⟨hP x List.mem_cons_self h s, fun b' s' t _ => ?_⟩
    exact ih (fun y hy => hP y (List.mem_cons_of_mem x hy)) b' s' (h ++ t)

/-- **The rule of the loop over inputs.** The invariant `I` speaks of the local
variable, the state and the whole history; a turn that begins where `I` and the
condition hold either ends where `I` holds again, or leaves the loop with the
postcondition, or stops. The induction is on the inputs left. -/
theorem post_loopOver {P : List A → σ → ι → Prop} (I : β → σ → List A → Prop)
    {Q : σ → List A → Prop} {E : ε → σ → List A → Prop}
    (hturn : ∀ b s h x, P h s x → I b s h →
      Post (body b x) s (fun r s' t => match r with
          | some b' => I b' s' (h ++ t)
          | none => Q s' (h ++ t))
        (fun e s' t => E e s' (h ++ t)))
    (hend : ∀ b s h, I b s h → Q s h) {b : β} {s : σ} {h : List A} {xs : List ι}
    (hP : Meets P body b s h xs) (hI : I b s h) :
    Post (loopOver body b xs) s (fun _ s' t => Q s' (h ++ t)) (fun e s' t => E e s' (h ++ t)) := by
  induction xs generalizing b s h with
  | nil => simpa only [loopOver, post_pure, List.append_nil] using hend b s h hI
  | cons x xs ih =>
    obtain ⟨hx, hrest⟩ := hP
    have hone := hturn b s h x hx hI
    rw [loopOver, post_bind]
    rcases hrun : body b x s with ⟨e | _ | b', s', t⟩
    · simpa only [Post, hrun] using hone
    · simpa only [Post, hrun, run_pure, List.append_nil] using hone
    · have hI' : I b' s' (h ++ t) := by simpa only [Post, hrun] using hone
      have hnext := ih (hrest b' s' t hrun) hI'
      simp only [Post, hrun] at hnext ⊢
      simpa only [List.append_assoc] using hnext

/-- A turn after which the loop goes on. -/
theorem run_loopOver_some {b b' : β} {s s' : σ} {t : List A} {x : ι}
    (h : body b x s = ⟨.ok (some b'), s', t⟩) (xs : List ι) : loopOver body b (x :: xs) s =
      ⟨(loopOver body b' xs s').out, (loopOver body b' xs s').state,
        t ++ (loopOver body b' xs s').trace⟩ := by
  rw [loopOver, run_bind_ok h]

/-- **More inputs for a loop that has returned**: it had left, and does what it did; or it was
waiting, and goes on from there. The induction is on the inputs that it has had. -/
theorem exists_of_loopOver_append {b : β} {s s' : σ} {t : List A} {xs : List ι} (ys : List ι)
    (hrun : loopOver body b xs s = ⟨.ok (), s', t⟩) :
    loopOver body b (xs ++ ys) s = ⟨.ok (), s', t⟩ ∨
      ∃ b', loopOver body b (xs ++ ys) s = ⟨(loopOver body b' ys s').out,
        (loopOver body b' ys s').state, t ++ (loopOver body b' ys s').trace⟩ := by
  induction xs generalizing b s t with
  | nil =>
    obtain ⟨-, rfl, rfl⟩ := Ran.mk.inj hrun
    exact Or.inr ⟨b, rfl⟩
  | cons x xs ih =>
    rcases hone : body b x s with ⟨e | _ | b', s₁, t₁⟩
    · rw [loopOver, run_bind_error hone] at hrun
      cases hrun
    · rw [loopOver, run_bind_ok hone] at hrun
      refine Or.inl ?_
      rw [List.cons_append, loopOver, run_bind_ok hone]
      exact hrun
    · rw [run_loopOver_some hone] at hrun
      obtain ⟨hout, hstate, rfl⟩ := Ran.mk.inj hrun
      have hrest : loopOver body b' xs s₁ = ⟨.ok (), s', (loopOver body b' xs s₁).trace⟩ := by
        rw [← hout, ← hstate]
      rw [List.cons_append, run_loopOver_some hone]
      rcases ih hrest with hleft | ⟨b'', hwaits⟩
      · rw [hleft]
        exact Or.inl rfl
      · rw [hwaits]
        exact Or.inr ⟨b'', by rw [List.append_assoc]⟩

end LoopOver

end Traced
