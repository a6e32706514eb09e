import Mathlib.Data.List.Basic
import Mathlib.Data.List.Count
import Mathlib.Tactic.Common

/-!
# Monitors of a trace

A safety property of a trace – “whenever this action is performed, the actions
before it have prepared it” – is decided by an observer that reads the trace from
left to right, keeps what it needs to remember, and objects to an action it meets
in the wrong place. That observer is a `Monitor`: `Monitor.step` is
what it remembers, `Monitor.Ok` is what it lets pass.

Two facts make monitors usable. Acceptance is compositional
(`Monitor.accepts_append`), which is what sequencing needs, and it is
the same thing as the property one wants to read, quantified over all the ways of
cutting the trace at an action (`Monitor.accepts_iff`).
-/

/-- **A monitor**: what an observer of a trace remembers, and which actions it
lets pass after what it has seen. -/
structure Monitor (μ A : Type) where
  /-- What is remembered after one more action. -/
  step : μ → A → μ
  /-- Whether the action may be performed now. -/
  Ok : μ → A → Prop

namespace Monitor

variable {μ A : Type} (M : Monitor μ A)

/-- What the monitor remembers after a trace. -/
def after (u : μ) (t : List A) : μ := t.foldl M.step u

/-- **Acceptance**: every action of the trace is let pass when it is met. -/
def Accepts : μ → List A → Prop
  | _, [] => True
  | u, a :: t => M.Ok u a ∧ Accepts (M.step u a) t

@[simp] theorem after_nil (u : μ) : M.after u [] = u := rfl

@[simp] theorem after_cons (u : μ) (a : A) (t : List A) :
    M.after u (a :: t) = M.after (M.step u a) t := rfl

@[simp] theorem after_append (u : μ) (t t' : List A) :
    M.after u (t ++ t') = M.after (M.after u t) t' :=
  List.foldl_append

@[simp] theorem accepts_nil (u : μ) : M.Accepts u [] := trivial

@[simp] theorem accepts_cons (u : μ) (a : A) (t : List A) :
    M.Accepts u (a :: t) ↔ M.Ok u a ∧ M.Accepts (M.step u a) t := Iff.rfl

/-- **Acceptance is compositional**: a concatenation is accepted when the first
part is, and the second is from where the first one leads. -/
@[simp] theorem accepts_append (u : μ) (t t' : List A) :
    M.Accepts u (t ++ t') ↔ M.Accepts u t ∧ M.Accepts (M.after u t) t' := by
  induction t generalizing u with
  | nil => simp
  | cons a t ih => simp only [List.cons_append, accepts_cons, after_cons, ih, and_assoc]

/-- **Acceptance, read at every moment**: wherever the trace is cut at an action,
the monitor lets it pass after what came before. -/
theorem accepts_iff (u : μ) (t : List A) :
    M.Accepts u t ↔ ∀ h a r, t = h ++ a :: r → M.Ok (M.after u h) a := by
  constructor
  · rintro ht h a r rfl
    exact ((M.accepts_append u h (a :: r)).mp ht).2.1
  · induction t generalizing u with
    | nil => exact fun _ => trivial
    | cons a t ih =>
      intro hcut
      refine ⟨hcut [] a t rfl, ih (M.step u a) fun h b r hr => ?_⟩
      exact hcut (a :: h) b r (by rw [hr, List.cons_append])

/-- **From one memory to another**: the trace is accepted, and this is what the monitor
remembers at its end. -/
def Leads (u : μ) (t : List A) (v : μ) : Prop := M.Accepts u t ∧ M.after u t = v

theorem leads_nil (u : μ) : M.Leads u [] u := ⟨trivial, rfl⟩

variable {M}

/-- One trace after another. -/
theorem Leads.append {u v w : μ} {t t' : List A} (h : M.Leads u t v) (h' : M.Leads v t' w) :
    M.Leads u (t ++ t') w := by
  obtain ⟨hacc, rfl⟩ := h
  obtain ⟨hacc', rfl⟩ := h'
  exact ⟨(M.accepts_append u t t').mpr ⟨hacc, hacc'⟩, M.after_append u t t'⟩

/-- An action before a trace. -/
theorem Leads.cons {u v : μ} {a : A} {t : List A} (ha : M.Ok u a) (h : M.Leads (M.step u a) t v) :
    M.Leads u (a :: t) v := ⟨⟨ha, h.1⟩, h.2⟩

/-- What follows a trace that leads somewhere starts there. -/
theorem Leads.append_iff {u v w : μ} {t t' : List A} (h : M.Leads u t v) :
    M.Leads u (t ++ t') w ↔ M.Leads v t' w := by
  obtain ⟨hacc, rfl⟩ := h
  rw [Leads, Leads, M.accepts_append, M.after_append]
  exact ⟨fun ⟨hall, hafter⟩ => ⟨hall.2, hafter⟩, fun ⟨hrest, hafter⟩ => ⟨⟨hacc, hrest⟩, hafter⟩⟩

/-- Actions that are always let pass. -/
theorem leads_of_forall {u : μ} {t : List A} (h : ∀ a ∈ t, ∀ u, M.Ok u a) :
    M.Leads u t (M.after u t) := by
  refine ⟨?_, rfl⟩
  rw [accepts_iff]
  rintro t' a r rfl
  exact h a (List.mem_append_right _ List.mem_cons_self) _

/-- Actions that the monitor lets pass without remembering them are accepted, and
leave it where it was. -/
theorem leads_of_neutral {u : μ} {t : List A} (h : ∀ a ∈ t, M.Ok u a ∧ M.step u a = u) :
    M.Leads u t u := by
  induction t with
  | nil => exact M.leads_nil u
  | cons a t ih =>
    obtain ⟨hok, hstep⟩ := h a List.mem_cons_self
    refine Leads.cons hok ?_
    rw [hstep]
    exact ih fun b hb => h b (List.mem_cons_of_mem a hb)

/-! ### Counting -/

section Counter

variable (up down : A → Bool)

/-- **The counter**: some actions count up, some count down, and never below zero. -/
def counter : Monitor ℕ A where
  step n a := n + (up a).toNat - (down a).toNat
  Ok n a := down a = true → 0 < n + (up a).toNat

variable {up down} {n : ℕ} {t : List A}

/-- **What the counter counts.** -/
theorem counter_after (h : (counter up down).Accepts n t) :
    (counter up down).after n t + t.countP down = n + t.countP up := by
  induction t generalizing n with
  | nil => rfl
  | cons a t ih =>
    obtain ⟨hok, hrest⟩ := h
    have hle : (down a).toNat ≤ n + (up a).toNat := by
      cases hdown : down a with
      | false => exact Nat.zero_le _
      | true => exact hok hdown
    have hif : ∀ b : Bool, (if b = true then 1 else 0) = b.toNat := by decide
    have hstep := ih hrest
    have hnow : (counter up down).step n a = n + (up a).toNat - (down a).toNat := rfl
    rw [hnow] at hstep
    rw [after_cons, List.countP_cons, List.countP_cons, hif, hif, hnow]
    omega

/-- **At no moment more is counted down than up.** -/
theorem counter_prefix (h : (counter up down).Accepts n t) {t' : List A} (ht : t' <+: t) :
    t'.countP down ≤ n + t'.countP up := by
  obtain ⟨rest, rfl⟩ := ht
  have hafter := counter_after ((accepts_append _ _ _ _).mp h).1
  omega

/-- Actions that do not count. -/
theorem counter_neutral (h : ∀ a ∈ t, up a = false ∧ down a = false) :
    (counter up down).Leads n t n := by
  refine leads_of_neutral fun a ha => ?_
  obtain ⟨hup, hdown⟩ := h a ha
  refine ⟨fun hc => ?_, ?_⟩
  · rw [hdown] at hc
    exact absurd hc Bool.false_ne_true
  · change n + (up a).toNat - (down a).toNat = n
    rw [hup, hdown]
    rfl

/-- One action. -/
theorem counter_single {a : A} (h : down a = true → 0 < n + (up a).toNat) :
    (counter up down).Leads n [a] (n + (up a).toNat - (down a).toNat) := ⟨⟨h, trivial⟩, rfl⟩

/-- An action that counts up. -/
theorem counter_up {a : A} (hup : up a = true) (hdown : down a = false) :
    (counter up down).Leads n [a] (n + 1) := by
  refine ⟨⟨fun hc => ?_, trivial⟩, ?_⟩
  · rw [hdown] at hc
    exact absurd hc Bool.false_ne_true
  · change n + (up a).toNat - (down a).toNat = n + 1
    rw [hup, hdown]
    rfl

/-- An action that counts down, performed as often as it may be. -/
theorem counter_replicate {a : A} {k : ℕ} (hup : up a = false) (hdown : down a = true)
    (hk : k ≤ n) : (counter up down).Leads n (List.replicate k a) (n - k) := by
  induction k generalizing n with
  | zero => exact leads_nil _ n
  | succ k ih =>
    have hstep : (counter up down).step n a = n - 1 := by
      change n + (up a).toNat - (down a).toNat = n - 1
      rw [hup, hdown]
      rfl
    have hrest := ih (n := n - 1) (by omega)
    rw [List.replicate_succ, show n - (k + 1) = n - 1 - k by omega]
    refine Leads.cons (fun _ => by omega) ?_
    rwa [hstep]

end Counter

end Monitor
