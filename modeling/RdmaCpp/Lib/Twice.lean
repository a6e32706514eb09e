import RdmaCpp.Lib.Traced

/-!
# Two runs side by side

A property of *two* runs – “what differs between the states they start in makes no
difference” – is proved here by going through both pieces of code at once. Two runs
go alike (`Traced.Alike`) when they perform the same actions and end the same
way; what is known of the two values and the two states is a relation, carried from
construct to construct exactly as the postcondition of one run is. The actions may be held to a
condition `p` on the way.

Loops need one invariant each, which relates the two runs between two turns
(`Traced.Alike.forLoop`, `Traced.Alike.loopOver`). The loop over inputs is taken under
a condition on the pair of states with which a turn begins (`Traced.MeetsBoth`).
-/

namespace Traced

variable {σ τ A ε α β γ δ : Type}

/-- **Two runs go alike**: they perform the same actions, all of which satisfy `p`, and
either both return, with values and states related by `Q`, or both stop for the same
reason, with states related by `E`. -/
def Alike (p : A → Prop) (m : Traced σ A ε α) (m' : Traced τ A ε β) (s : σ) (u : τ)
    (Q : α → β → σ → τ → Prop) (E : σ → τ → Prop) : Prop :=
  ((∀ x ∈ (m s).trace, p x) ∧ (m s).trace = (m' u).trace) ∧
    match (m s).out, (m' u).out with
    | .ok a, .ok b => Q a b (m s).state (m' u).state
    | .error e, .error e' => e = e' ∧ E (m s).state (m' u).state
    | _, _ => False

variable {p : A → Prop} {m : Traced σ A ε α} {m' : Traced τ A ε β} {s : σ} {u : τ}
  {Q : α → β → σ → τ → Prop} {E : σ → τ → Prop}

/-! ### From the results of the runs, and back -/

/-- Two runs that are known to return. -/
theorem alike_of_ok {a : α} {b : β} {s' : σ} {u' : τ} {t t' : List A} (h : m s = ⟨.ok a, s', t⟩)
    (h' : m' u = ⟨.ok b, u', t'⟩) (hp : ∀ x ∈ t, p x) (ht : t = t')
    (hQ : Q a b s' u') : Alike p m m' s u Q E := by
  rw [Alike, h, h']
  exact ⟨⟨hp, ht⟩, hQ⟩

/-- Two runs that are known to stop. -/
theorem alike_of_error {e : ε} {s' : σ} {u' : τ} {t t' : List A} (h : m s = ⟨.error e, s', t⟩)
    (h' : m' u = ⟨.error e, u', t'⟩) (hp : ∀ x ∈ t, p x) (ht : t = t')
    (hE : E s' u') : Alike p m m' s u Q E := by
  rw [Alike, h, h']
  exact ⟨⟨hp, ht⟩, rfl, hE⟩

/-- **The two ways in which runs go alike.** -/
theorem Alike.cases (h : Alike p m m' s u Q E) :
    (∃ a b s' u' t, m s = ⟨.ok a, s', t⟩ ∧ m' u = ⟨.ok b, u', t⟩ ∧ (∀ x ∈ t, p x) ∧
        Q a b s' u') ∨
      ∃ e s' u' t, m s = ⟨.error e, s', t⟩ ∧ m' u = ⟨.error e, u', t⟩ ∧ (∀ x ∈ t, p x) ∧
        E s' u' := by
  rw [Alike] at h
  rcases hm : m s with ⟨e | a, s', t⟩
  · rcases hm' : m' u with ⟨e' | b, u', t'⟩
    · rw [hm, hm'] at h
      obtain ⟨⟨hp, rfl⟩, rfl, hE⟩ := h
      exact Or.inr ⟨e, s', u', t, rfl, rfl, hp, hE⟩
    · rw [hm, hm'] at h
      exact h.2.elim
  · rcases hm' : m' u with ⟨e' | b, u', t'⟩
    · rw [hm, hm'] at h
      exact h.2.elim
    · rw [hm, hm'] at h
      obtain ⟨⟨hp, rfl⟩, hQ⟩ := h
      exact Or.inl ⟨a, b, s', u', t, rfl, rfl, hp, hQ⟩

/-- **The rule of consequence**, for two runs. -/
theorem Alike.mono {Q' : α → β → σ → τ → Prop} {E' : σ → τ → Prop} (h : Alike p m m' s u Q E)
    (hQ : ∀ a b s' u', Q a b s' u' → Q' a b s' u') (hE : ∀ s' u', E s' u' → E' s' u') :
    Alike p m m' s u Q' E' := by
  rcases h.cases with ⟨a, b, s', u', t, hm, hm', hp, hq⟩ | ⟨e, s', u', t, hm, hm', hp, he⟩
  · exact alike_of_ok hm hm' hp rfl (hQ a b s' u' hq)
  · exact alike_of_error hm hm' hp rfl (hE s' u' he)

/-! ### The constructs -/

/-- Two returns. -/
theorem Alike.pure {a : α} {b : β} (h : Q a b s u) :
    Alike p (pure a : Traced σ A ε α) (pure b : Traced τ A ε β) s u Q E :=
  ⟨⟨fun _ hx => absurd hx List.not_mem_nil, rfl⟩, h⟩

/-- Two stops. -/
theorem Alike.stop {e : ε} (h : E s u) :
    Alike p (stop e : Traced σ A ε α) (stop e : Traced τ A ε β) s u Q E :=
  ⟨⟨fun _ hx => absurd hx List.not_mem_nil, rfl⟩, rfl, h⟩

/-- Two actions: they have to be the same. -/
theorem Alike.emit {a a' : A} {Q : Unit → Unit → σ → τ → Prop} (hp : p a) (h : a = a')
    (hQ : Q () () s u) :
    Alike p (emit a : Traced σ A ε Unit) (emit a' : Traced τ A ε Unit) s u Q E := by
  refine ⟨⟨fun x hx => ?_, congrArg (fun b => [b]) h⟩, hQ⟩
  rwa [List.mem_singleton.mp hx]

/-- Two changes of the state. -/
theorem Alike.modify {f : σ → σ} {g : τ → τ} {Q : Unit → Unit → σ → τ → Prop}
    (h : Q () () (f s) (g u)) :
    Alike p (modify f : Traced σ A ε Unit) (modify g : Traced τ A ε Unit) s u Q E :=
  ⟨⟨fun _ hx => absurd hx List.not_mem_nil, rfl⟩, h⟩

/-- **Code goes alike with itself** from one state. -/
theorem Alike.self {Q : α → α → σ → σ → Prop} {E : σ → σ → Prop}
    (h : Post m s (fun a s' t => (∀ x ∈ t, p x) ∧ Q a a s' s')
      fun _ s' t => (∀ x ∈ t, p x) ∧ E s' s') : Alike p m m s s Q E := by
  rcases hm : m s with ⟨e | a, s', t⟩
  · have hend := h.of_error hm
    exact alike_of_error hm hm hend.1 rfl hend.2
  · have hend := h.of_ok hm
    exact alike_of_ok hm hm hend.1 rfl hend.2

/-- **The rule of sequencing**, for two runs. -/
theorem Alike.bind {f : α → Traced σ A ε γ} {g : β → Traced τ A ε δ}
    {Q : γ → δ → σ → τ → Prop}
    (h : Alike p m m' s u (fun a b s' u' => Alike p (f a) (g b) s' u' Q E) E) :
    Alike p (m >>= f) (m' >>= g) s u Q E := by
  have happend : ∀ {t t' : List A}, (∀ x ∈ t, p x) → (∀ x ∈ t', p x) → ∀ x ∈ t ++ t', p x :=
    fun ht ht' x hx => (List.mem_append.mp hx).elim (ht x) (ht' x)
  rcases h.cases with ⟨a, b, s', u', t, hm, hm', hp, hrest⟩ | ⟨e, s', u', t, hm, hm', hp, hE⟩
  · rcases hrest.cases with
      ⟨c, d, s'', u'', t', hf, hg, hp', hQ⟩ | ⟨e, s'', u'', t', hf, hg, hp', hE⟩
    · have hleft : (m >>= f) s = ⟨.ok c, s'', t ++ t'⟩ := by rw [run_bind_ok hm, hf]
      have hright : (m' >>= g) u = ⟨.ok d, u'', t ++ t'⟩ := by rw [run_bind_ok hm', hg]
      exact alike_of_ok hleft hright (happend hp hp') rfl hQ
    · have hleft : (m >>= f) s = ⟨.error e, s'', t ++ t'⟩ := by rw [run_bind_ok hm, hf]
      have hright : (m' >>= g) u = ⟨.error e, u'', t ++ t'⟩ := by rw [run_bind_ok hm', hg]
      exact alike_of_error hleft hright (happend hp hp') rfl hE
  · exact alike_of_error (run_bind_error hm) (run_bind_error hm') hp rfl hE

/-- An action on either side, and then the rest. -/
theorem Alike.emit_bind {a a' : A} {f : Unit → Traced σ A ε γ} {g : Unit → Traced τ A ε δ}
    {Q : γ → δ → σ → τ → Prop} (hp : p a) (h : a = a')
    (hrest : Alike p (f ()) (g ()) s u Q E) :
    Alike p (Traced.emit a >>= f) (Traced.emit a' >>= g) s u Q E :=
  Alike.bind (Alike.emit hp h hrest)

/-- The rule of the conditional: the two conditions are decided alike. -/
theorem Alike.ite {c c' : Prop} [Decidable c] [Decidable c'] {m₁ m₂ : Traced σ A ε α}
    {m₁' m₂' : Traced τ A ε β} (hc : c ↔ c') (h₁ : c → Alike p m₁ m₁' s u Q E)
    (h₂ : ¬c → Alike p m₂ m₂' s u Q E) :
    Alike p (if c then m₁ else m₂) (if c' then m₁' else m₂') s u Q E := by
  by_cases h : c
  · rw [if_pos h, if_pos (hc.mp h)]
    exact h₁ h
  · rw [if_neg h, if_neg fun h' => h (hc.mpr h')]
    exact h₂ h

/-- **The rule of steps with a common way out**, for two runs: they leave at the same
step. -/
theorem Alike.firstExit_cons {ms : List (Traced σ A ε (Option α))}
    {ms' : List (Traced τ A ε (Option β))} {m : Traced σ A ε (Option α)}
    {m' : Traced τ A ε (Option β)} {Q : Option α → Option β → σ → τ → Prop}
    (h : Alike p m m' s u (fun r r' s' u' => match r, r' with
      | none, none => Alike p (firstExit ms) (firstExit ms') s' u' Q E
      | some a, some b => Q (some a) (some b) s' u'
      | _, _ => False) E) :
    Alike p (firstExit (m :: ms)) (firstExit (m' :: ms')) s u Q E := by
  rw [firstExit, firstExit]
  refine Alike.bind (h.mono ?_ fun _ _ hE => hE)
  rintro (_ | a) (_ | b) s' u' hr
  · exact hr
  · exact hr.elim
  · exact hr.elim
  · exact Alike.pure hr

/-- **The rule of the `for` loop**, for two runs: the invariant relates them between two
turns. The induction is on the number of turns left. -/
theorem Alike.forLoop {body : ℕ → Traced σ A ε (Option α)} {body' : ℕ → Traced τ A ε (Option β)}
    {Q : Option α → Option β → σ → τ → Prop} (J : ℕ → σ → τ → Prop) {i k : ℕ}
    (hbody : ∀ j s u, i ≤ j → j < i + k → J j s u →
      Alike p (body j) (body' j) s u (fun r r' s' u' => match r, r' with
        | none, none => J (j + 1) s' u'
        | some a, some b => Q (some a) (some b) s' u'
        | _, _ => False) E)
    (hend : ∀ s u, J (i + k) s u → Q none none s u) (hstart : J i s u) :
    Alike p (forLoop body i k) (forLoop body' i k) s u Q E := by
  induction k generalizing i s u with
  | zero => exact Alike.pure (hend s u (by simpa using hstart))
  | succ k ih =>
    rw [Traced.forLoop, Traced.forLoop]
    refine Alike.bind ((hbody i s u (Nat.le_refl _) (by omega) hstart).mono ?_ fun _ _ h => h)
    rintro (_ | a) (_ | b) s' u' h
    · refine ih (fun j s u h1 h2 => hbody j s u (by omega) (by omega)) (fun s u h1 => ?_) h
      exact hend s u (by rwa [show i + (k + 1) = i + 1 + k by omega])
    · exact h.elim
    · exact h.elim
    · exact Alike.pure h

/-! ### Loops over inputs -/

section LoopOver

variable {ι : Type} {body : β → ι → Traced σ A ε (Option β)}
  {body' : β → ι → Traced τ A ε (Option β)}

/-- **Every pair of steps meets the condition** `P`: it is asked of the two states and
the input with which a turn of the loop begins, for as long as both loops go on. -/
def MeetsBoth (P : σ → τ → ι → Prop) (body : β → ι → Traced σ A ε (Option β))
    (body' : β → ι → Traced τ A ε (Option β)) : β → σ → τ → List ι → Prop
  | _, _, _, [] => True
  | b, s, u, x :: xs => P s u x ∧
      ∀ b' s' u' t t', body b x s = ⟨.ok (some b'), s', t⟩ →
        body' b x u = ⟨.ok (some b'), u', t'⟩ → MeetsBoth P body body' b' s' u' xs

/-- **The rule of the loop over inputs**, for two runs, which hand on the same local
variable. The induction is on the inputs left. -/
theorem Alike.loopOver {P : σ → τ → ι → Prop} (J : σ → τ → Prop)
    (hturn : ∀ b s u x, P s u x → J s u →
      Alike p (body b x) (body' b x) s u (fun r r' s' u' => r = r' ∧ J s' u') J)
    {b : β} {xs : List ι} (hP : MeetsBoth P body body' b s u xs) (hJ : J s u) :
    Alike p (loopOver body b xs) (loopOver body' b xs) s u (fun _ _ s' u' => J s' u') J := by
  induction xs generalizing b s u with
  | nil => exact Alike.pure hJ
  | cons x xs ih =>
    obtain ⟨hx, hrest⟩ := hP
    rw [Traced.loopOver, Traced.loopOver]
    refine Alike.bind ?_
    rcases (hturn b s u x hx hJ).cases with
      ⟨r, r', s', u', t, hm, hm', hp, rfl, hJ'⟩ | ⟨e, s', u', t, hm, hm', hp, hJ'⟩
    · refine alike_of_ok hm hm' hp rfl ?_
      rcases r with _ | b'
      · exact Alike.pure hJ'
      · exact ih (hrest b' s' u' t t hm hm') hJ'
    · exact alike_of_error hm hm' hp rfl hJ'

end LoopOver

end Traced
