import RdmaCpp.Lib.Monitor
import Mathlib.Data.List.Count

/-!
# Ledgers of resources

A ledger reads a trace as book-keeping: some actions take resources, some give them
back, and what has been taken and not given back is *live*. What an action gives
back may depend on what is live, since a call may release “the latest one” of a
kind without naming it.

Two facts carry most arguments. Along actions that give nothing back the books only
grow (`Ledger.subset_live`), and what is taken on the way is live at the
end (`Ledger.takes_subset_live`). So a condition on actions that only asks
for live resources has to be checked at the start of such a stretch only
(`Ledger.accepts_of_keeps`).
-/

/-- **A ledger** over actions `A` and resources `ρ`: what an action takes, what it
gives back when the given resources are live, and when it may be performed. -/
structure Ledger (A ρ : Type) where
  /-- The resources an action takes. -/
  takes : A → List ρ
  /-- The resources an action gives back. -/
  drops : List ρ → A → List ρ
  /-- Whether an action may be performed while the given resources are live. -/
  Ok : List ρ → A → Prop

namespace Ledger

variable {A ρ : Type} [DecidableEq ρ] (L : Ledger A ρ)

/-- The monitor that keeps the books. -/
def monitor : Monitor (List ρ) A where
  step u a := L.takes a ++ u.diff (L.drops u a)
  Ok := L.Ok

/-- The resources live after a trace. -/
def live (u : List ρ) (t : List A) : List ρ := L.monitor.after u t

@[simp] theorem live_nil (u : List ρ) : L.live u [] = u := rfl

@[simp] theorem live_cons (u : List ρ) (a : A) (t : List A) :
    L.live u (a :: t) = L.live (L.takes a ++ u.diff (L.drops u a)) t := rfl

theorem live_append (u : List ρ) (t t' : List A) : L.live u (t ++ t') = L.live (L.live u t) t' :=
  L.monitor.after_append u t t'

/-- The action gives nothing back, whatever is live. -/
def Keeps (a : A) : Prop := ∀ u, L.drops u a = []

variable {L}

/-- **Along actions that give nothing back, the books only grow.** -/
theorem subset_live {u : List ρ} {t : List A} (h : ∀ a ∈ t, L.Keeps a) : u ⊆ L.live u t := by
  induction t generalizing u with
  | nil => exact fun _ hr => hr
  | cons a t ih =>
    intro r hr
    rw [live_cons, h a List.mem_cons_self u, List.diff_nil]
    exact ih (fun b hb => h b (List.mem_cons_of_mem a hb)) (List.mem_append_right _ hr)

/-- **What is taken and not given back is live.** -/
theorem takes_subset_live {u : List ρ} {t : List A} (h : ∀ a ∈ t, L.Keeps a) {a : A} (ha : a ∈ t) :
    L.takes a ⊆ L.live u t := by
  induction t generalizing u with
  | nil => exact absurd ha List.not_mem_nil
  | cons b t ih =>
    have hrest : ∀ c ∈ t, L.Keeps c := fun c hc => h c (List.mem_cons_of_mem b hc)
    rw [live_cons, h b List.mem_cons_self u, List.diff_nil]
    rcases List.mem_cons.mp ha with rfl | ha
    · exact fun r hr => subset_live hrest (List.mem_append_left _ hr)
    · exact ih hrest ha

/-- **A stretch that gives nothing back** is accepted when each of its actions may be
performed already at its start: by then only more is live. -/
theorem accepts_of_keeps (hmono : ∀ u u' a, u ⊆ u' → L.Ok u a → L.Ok u' a) {u : List ρ}
    {t : List A} (h : ∀ a ∈ t, L.Keeps a ∧ L.Ok u a) : L.monitor.Accepts u t := by
  induction t generalizing u with
  | nil => trivial
  | cons a t ih =>
    obtain ⟨hkeep, hok⟩ := h a List.mem_cons_self
    refine ⟨hok, ih fun b hb => ?_⟩
    obtain ⟨hkeepb, hokb⟩ := h b (List.mem_cons_of_mem a hb)
    refine ⟨hkeepb, hmono u _ b ?_ hokb⟩
    change u ⊆ L.takes a ++ u.diff (L.drops u a)
    rw [hkeep u, List.diff_nil]
    exact List.subset_append_right _ _

/-- Along actions that give nothing back, what is live is what was and what is taken. -/
theorem live_perm {u : List ρ} {t : List A} (h : ∀ a ∈ t, L.Keeps a) :
    (L.live u t).Perm (t.flatMap L.takes ++ u) := by
  induction t generalizing u with
  | nil => exact .refl u
  | cons a t ih =>
    rw [live_cons, h a List.mem_cons_self u, List.diff_nil, List.flatMap_cons, List.append_assoc]
    exact (ih fun b hb => h b (List.mem_cons_of_mem a hb)).trans (List.perm_append_comm_assoc _ _ _)

/-- So it is counted by what is taken. -/
theorem countP_live {p : ρ → Bool} {u : List ρ} {t : List A} (h : ∀ a ∈ t, L.Keeps a) :
    (L.live u t).countP p = u.countP p + (t.flatMap L.takes).countP p := by
  rw [(live_perm h).countP_eq, List.countP_append, Nat.add_comm]

/-- Along actions that take nothing and give back what they name, that is gone. -/
theorem live_of_drops {gives : A → List ρ} {u : List ρ} {t : List A}
    (h : ∀ a ∈ t, L.takes a = [] ∧ ∀ u, L.drops u a = gives a) :
    L.live u t = u.diff (t.flatMap gives) := by
  induction t generalizing u with
  | nil => rfl
  | cons a t ih =>
    obtain ⟨htakes, hdrops⟩ := h a List.mem_cons_self
    rw [live_cons, htakes, hdrops, List.nil_append, List.flatMap_cons, List.diff_append,
      ih fun b hb => h b (List.mem_cons_of_mem a hb)]

theorem diff_append_self (l u : List ρ) : (l ++ u).diff l = u := by
  induction l with
  | nil => rfl
  | cons r l ih => rwa [List.cons_append, List.diff_cons, List.erase_cons_head]

/-- **What is taken and named again is gone**, and the rest of what has been taken stays. -/
theorem live_append_perm {gives : A → List ρ} {u rest : List ρ} {t t' : List A}
    (ht : ∀ a ∈ t, L.Keeps a) (ht' : ∀ a ∈ t', L.takes a = [] ∧ ∀ u, L.drops u a = gives a)
    (h : (t.flatMap L.takes).Perm (rest ++ t'.flatMap gives)) :
    (L.live u (t ++ t')).Perm (rest ++ u) := by
  have hall : (L.live u t).Perm (t'.flatMap gives ++ (rest ++ u)) := by
    refine (live_perm ht).trans ((h.append_right u).trans ?_)
    rw [List.append_assoc]
    exact List.perm_append_comm_assoc _ _ _
  rw [live_append, live_of_drops ht']
  exact (hall.diff_right _).trans (.of_eq (diff_append_self _ _))

/-! ### Giving everything back -/

variable (L)

/-- **A trace settles the books** of exactly these resources: it can be performed, and leaves
nothing live, when they are what is live. -/
def Settles (t : List A) (R : List ρ) : Prop := ∀ u, L.monitor.Leads u t [] ↔ u.Perm R

theorem settles_nil : L.Settles [] [] := by
  intro u
  rw [List.perm_nil]
  exact ⟨And.right, fun hu => ⟨trivial, hu⟩⟩

variable {L}

/-- An action that gives back one resource, and may be performed when this is live. -/
theorem Settles.cons {a : A} {r : ρ} {t : List A} {R : List ρ} (htakes : L.takes a = [])
    (hok : ∀ u, L.Ok u a ↔ r ∈ u) (hdrops : ∀ u, r ∈ u → L.drops u a = [r])
    (h : L.Settles t R) : L.Settles (a :: t) (r :: R) := by
  intro u
  have hstep : r ∈ u → L.monitor.step u a = u.erase r := by
    intro hr
    change L.takes a ++ u.diff (L.drops u a) = u.erase r
    rw [htakes, hdrops u hr, List.nil_append, List.diff_cons, List.diff_nil]
  constructor
  · rintro ⟨⟨hfirst, hrest⟩, hafter⟩
    have hr : r ∈ u := (hok u).mp hfirst
    rw [hstep hr] at hrest
    rw [Monitor.after_cons, hstep hr] at hafter
    exact (List.perm_cons_erase hr).trans (((h (u.erase r)).mp ⟨hrest, hafter⟩).cons r)
  · intro hperm
    have hr : r ∈ u := hperm.symm.subset List.mem_cons_self
    refine Monitor.Leads.cons ((hok u).mpr hr) ?_
    rw [hstep hr]
    exact (h (u.erase r)).mpr (List.cons_perm_iff_perm_erase.mp hperm.symm).2.symm

end Ledger
