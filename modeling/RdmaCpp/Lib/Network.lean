import Mathlib.Data.List.Basic
import Mathlib.Logic.Function.Basic
import Mathlib.Logic.Relation

/-!
# Parties and messages in flight

A system of parties that react to messages: each party has a state, and for each there
is the list of the messages on their way to it. In a step some party takes one of its
messages, whichever it is, moves to another state and sends messages
(`Net.Delivers`). Nothing is said about the order of deliveries, so what is proved of
all the networks reached (`Net.Reaches`) holds for every interleaving.

A property of all of them is an invariant, and the two lemmas on
`Net.after` are what its steps need: who is in which state afterwards, and where a
message in flight comes from. Where the invariant says how far the network has got, it
also bounds the number of deliveries (`Net.ReachesIn.stage`).
-/

/-- **A network**: the states of the parties, and the messages in flight to each. -/
structure Net (ι σ M : Type) where
  /-- The state of each party. -/
  state : ι → σ
  /-- The messages on their way to each party. -/
  flight : ι → List M

namespace Net

variable {ι σ M : Type} [DecidableEq ι]

/-- The network after a party has taken a message, of which it leaves the others in flight,
moved to a state and sent messages. -/
def after (net : Net ι σ M) (i : ι) (rest : List M) (s : σ) (sent : List (ι × M)) :
    Net ι σ M where
  state := Function.update net.state i s
  flight j := (if j = i then rest else net.flight j) ++
    (sent.filter fun x => x.1 = j).map Prod.snd

@[simp] theorem after_state_self (net : Net ι σ M) (i : ι) (rest : List M) (s : σ)
    (sent : List (ι × M)) : (net.after i rest s sent).state i = s := by
  simp only [after, Function.update_self]

theorem after_state_of_ne {net : Net ι σ M} {i j : ι} (h : j ≠ i) (rest : List M) (s : σ)
    (sent : List (ι × M)) : (net.after i rest s sent).state j = net.state j := by
  simp only [after, Function.update_of_ne h]

/-- **A message in flight** was in flight before, or has just been sent. -/
theorem mem_flight_after {net : Net ι σ M} {i j : ι} {m m' : M} {rest : List M} {s : σ}
    {sent : List (ι × M)} (hflight : (net.flight i).Perm (m :: rest))
    (h : m' ∈ (net.after i rest s sent).flight j) : m' ∈ net.flight j ∨ (j, m') ∈ sent := by
  rcases List.mem_append.mp h with h | h
  · refine Or.inl ?_
    split at h
    · next hj =>
      rw [hj]
      exact hflight.symm.subset (List.mem_cons_of_mem m h)
    · exact h
  · refine Or.inr ?_
    obtain ⟨⟨k, x⟩, hx, rfl⟩ := List.mem_map.mp h
    obtain ⟨hmem, hk⟩ := List.mem_filter.mp hx
    obtain rfl : k = j := of_decide_eq_true hk
    exact hmem

/-- **A delivery**: a party takes one of the messages in flight to it.
`Handles net i m s sent` says that party `i` may handle `m` by moving to `s` and sending
`sent`. -/
inductive Delivers (Handles : Net ι σ M → ι → M → σ → List (ι × M) → Prop) :
    Net ι σ M → Net ι σ M → Prop
  | mk {net : Net ι σ M} {i : ι} {m : M} {rest : List M} {s : σ} {sent : List (ι × M)}
      (hflight : (net.flight i).Perm (m :: rest)) (h : Handles net i m s sent) :
      Delivers Handles net (net.after i rest s sent)

/-- Any number of deliveries, in any order. -/
def Reaches (Handles : Net ι σ M → ι → M → σ → List (ι × M) → Prop) :
    Net ι σ M → Net ι σ M → Prop :=
  Relation.ReflTransGen (Delivers Handles)

variable {Handles : Net ι σ M → ι → M → σ → List (ι × M) → Prop}

/-- **The rule of invariants**: what holds at the start and is kept by every delivery holds
of every network reached. -/
theorem Reaches.invariant {net net' : Net ι σ M} (I : Net ι σ M → Prop)
    (h : Reaches Handles net net') (hstart : I net)
    (hstep : ∀ net i m rest s sent, I net → (net.flight i).Perm (m :: rest) →
      Handles net i m s sent → I (net.after i rest s sent)) : I net' := by
  induction h with
  | refl => exact hstart
  | tail _ hlast ih =>
    obtain ⟨hflight, hhandles⟩ := hlast
    exact hstep _ _ _ _ _ _ ih hflight hhandles

/-- One more delivery. -/
theorem Reaches.deliver {net net' : Net ι σ M} (h : Reaches Handles net net') {i : ι} {m : M}
    {rest : List M} {s : σ} {sent : List (ι × M)} (hflight : (net'.flight i).Perm (m :: rest))
    (hhandles : Handles net' i m s sent) : Reaches Handles net (net'.after i rest s sent) :=
  Relation.ReflTransGen.tail h (Delivers.mk hflight hhandles)

/-! ### Counting the deliveries -/

/-- So many deliveries, in any order. -/
inductive ReachesIn (Handles : Net ι σ M → ι → M → σ → List (ι × M) → Prop) (net : Net ι σ M) :
    ℕ → Net ι σ M → Prop
  | zero : ReachesIn Handles net 0 net
  | succ {n : ℕ} {net' net'' : Net ι σ M} (h : ReachesIn Handles net n net')
      (hlast : Delivers Handles net' net'') : ReachesIn Handles net (n + 1) net''

/-- **The rule of stages**: where each delivery leads from a stage to the next one, the stage
says how many there have been. -/
theorem ReachesIn.stage {net net' : Net ι σ M} {n : ℕ} (I : ℕ → Net ι σ M → Prop)
    (h : ReachesIn Handles net n net') (hstart : I 0 net)
    (hstep : ∀ n net i m rest s sent, I n net → (net.flight i).Perm (m :: rest) →
      Handles net i m s sent → I (n + 1) (net.after i rest s sent)) : I n net' := by
  induction h with
  | zero => exact hstart
  | succ _ hlast ih =>
    obtain ⟨hflight, hhandles⟩ := hlast
    exact hstep _ _ _ _ _ _ _ ih hflight hhandles

omit [DecidableEq ι] in
/-- Where one message is in flight to a party, that is the one it takes. -/
theorem eq_of_flight_singleton {net : Net ι σ M} {i : ι} {m m' : M} {rest : List M}
    (h : net.flight i = [m]) (hflight : (net.flight i).Perm (m' :: rest)) :
    m' = m ∧ rest = [] := by
  rw [h] at hflight
  obtain ⟨rfl, rfl⟩ := List.cons.inj (List.singleton_perm.mp hflight)
  exact ⟨rfl, rfl⟩

omit [DecidableEq ι] in
/-- Where none is, it takes none. -/
theorem not_flight_nil {net : Net ι σ M} {i : ι} {m : M} {rest : List M}
    (h : net.flight i = []) : ¬(net.flight i).Perm (m :: rest) := by
  rw [h]
  exact fun hc => List.cons_ne_nil m rest (List.nil_perm.mp hc)

end Net
