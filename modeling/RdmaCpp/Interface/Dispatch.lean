import Mathlib.Order.WellFounded
import RdmaCpp.Interface.ReadAll

/-!
# Calls that are dispatched twice

A transport is called in two ways: through a pointer to `TTransport`, whose methods each call
a virtual counterpart (`read` calls `read_virt`, …), and directly, where the compiler finds the
method in the class or above it. `TVirtualTransport<T, Super>` ties the two together: its
virtual methods cast the object to `T` and call the method that is not virtual. Where `T` does
not declare it, and nobody above does, that is the one of `TTransport`, which calls the virtual
one, and so on for ever – unless `Super` is `TTransportDefaults`, which is there to “prevent
infinite recursion”.

The model follows what the compiler does: `Interface.Class.lookup` is the method that is
found in a class, `Interface.Class.final` the overrider of a virtual one, and
`Interface.Body.calls` the next call that is made; the loop of `readAll` calls `read`. The
comment is right: above `TTransportDefaults` every chain of calls ends
(`Interface.ends_of_onDefaults`). That its methods make no virtual call, as the comment says as
well, is so for all of them but `readAll`, whose loop calls `TTransport::read`, and that one
calls `read_virt`. Without the defaults a call recurses for ever exactly when it comes to
no code of a class's own and the nearest class that uses the helper has not got the method that
is asked for in the end (`Interface.ends_iff`): for `readAll`, which the helper provides, that
is `read`.

A class that provides `read` and uses the helper reads its own stream with `readAll`, in
whichever of the two ways it is called (`Interface.readAll_of_helped`).
-/

namespace Interface

/-- The methods of a transport that have a virtual counterpart. -/
inductive Method
  | read
  | readAll
  | write
  | borrow
  | consume
  deriving DecidableEq

/-- **A class of transports**, with the methods that it declares itself, and the virtual ones
that it overrides. One that uses the helper leaves those to the helper, as the header asks. -/
inductive Class
  | tTransport
  | tTransportDefaults
  /-- `class T : public TVirtualTransport<T, Super>`. -/
  | helped (own : Method → Bool) (super : Class)
  /-- `class T : public Super`, without the helper. -/
  | plain (own virt : Method → Bool) (super : Class)

/-- **What a call comes to**: code that calls no further method of the transport, but for the
loop of `readAll`, which goes on to call `read` of the class it was made for. -/
inductive Ending
  /-- The method that the class declares. -/
  | own (c : Class) (m : Method)
  /-- The virtual method, as the class overrides it. -/
  | overrider (c : Class) (m : Method)
  /-- The exception `NOT_OPEN` of the base class. -/
  | notOpen
  /-- `borrow` of the base class, which returns `NULL`. -/
  | null
  /-- The helper template `readAll`, on an object of this static type. -/
  | loop (c : Class)

/-- **The body of a method**: it ends, or calls another. -/
inductive Body
  | ends (e : Ending)
  /-- `m_virt(…)`. -/
  | virtual (m : Method)
  /-- `this->TTransport::m_virt(…)`. -/
  | base (m : Method)
  /-- `static_cast<T*>(this)->m(…)`. -/
  | direct (c : Class) (m : Method)

/-- The virtual methods of `TTransport` itself. -/
def baseBody : Method → Ending
  | .readAll => .loop .tTransport
  | .borrow => .null
  | .read | .write | .consume => .notOpen

/-- **The method that is found** in a class, or above it. -/
def Class.lookup : Class → Method → Body
  | .tTransport, m => .virtual m
  | .tTransportDefaults, m => .base m
  | .helped own super, m =>
    if own m then .ends (.own (.helped own super) m)
    else if m = .readAll then .ends (.loop (.helped own super))
    else super.lookup m
  | .plain own virt super, m =>
    if own m then .ends (.own (.plain own virt super) m) else super.lookup m

/-- **The overrider of a virtual method** in an object of the class. -/
def Class.final : Class → Method → Body
  | .tTransport, m => .ends (baseBody m)
  | .tTransportDefaults, m => .ends (baseBody m)
  | .helped own super, m => .direct (.helped own super) m
  | .plain own virt super, m =>
    if virt m then .ends (.overrider (.plain own virt super) m) else super.final m

/-- **The next call** that a body makes, in an object of class `dyn`. The loop of `readAll`
calls `read`, when there is anything to read. -/
def Body.calls (dyn : Class) : Body → Option Body
  | .ends (.loop c) => some (c.lookup .read)
  | .ends _ => none
  | .virtual m => some (dyn.final m)
  | .base m => some (.ends (baseBody m))
  | .direct c m => some (c.lookup m)

/-- **The call ends**: there is no endless chain of calls from it on. -/
def Ends (dyn : Class) (b : Body) : Prop :=
  ¬∃ f : ℕ → Body, f 0 = b ∧ ∀ n, (f n).calls dyn = some (f (n + 1))

/-- **Following the calls** from a body on, in an object of class `dyn`, as many as are granted,
to the code that they come to. -/
def exec (dyn : Class) : ℕ → Body → Option Ending
  | _, .ends e => some e
  | 0, _ => none
  | n + 1, b => (b.calls dyn).bind (exec dyn n)

/-! ### The shape of a class -/

/-- The class is derived from `TTransportDefaults`, in any number of steps. -/
def Class.onDefaults : Class → Bool
  | .tTransport => false
  | .tTransportDefaults => true
  | .helped _ super | .plain _ _ super => super.onDefaults

/-- What is found in the class is a method that it, or one above it, declares itself. Above the
helper there is no `readAll` to be found, for it has one. -/
def Class.owns : Class → Method → Bool
  | .tTransport, _ | .tTransportDefaults, _ => false
  | .helped own super, m => own m || (m ≠ .readAll && super.owns m)
  | .plain own _ super, m => own m || super.owns m

/-- The nearest class that uses the helper: itself, or one above it. -/
def Class.helper : Class → Option Class
  | .tTransport | .tTransportDefaults => none
  | .helped own super => some (.helped own super)
  | .plain _ _ super => super.helper

/-- A class below the nearest one that uses the helper overrides the virtual method. -/
def Class.overridden : Class → Method → Bool
  | .tTransport, _ | .tTransportDefaults, _ | .helped _ _, _ => false
  | .plain _ virt super, m => virt m || super.overridden m

/-- The method that is asked for in the end: the loop of `readAll` asks for `read`. -/
def Method.asked : Method → Method
  | .readAll => .read
  | m => m

/-- **The infinite recursion** of a method: above the bare `TTransport` there is a class that
uses the helper and has not got the method, and nobody below it overrides the virtual one. -/
structure Loops (dyn : Class) (m : Method) : Prop where
  bare : dyn.onDefaults = false
  kept : dyn.overridden m = false
  lacks : ∃ c, dyn.helper = some c ∧ c.owns m = false

variable {dyn c c' : Class} {m : Method} {b b' : Body} {n : ℕ}

/-! ### What is found -/

/-- A method that a class has is found, and it is the class's own code. -/
theorem Class.lookup_of_owns (h : c.owns m = true) : ∃ c', c.lookup m = .ends (.own c' m) := by
  induction c with
  | tTransport => cases h
  | tTransportDefaults => cases h
  | helped own super ih =>
    rw [Class.lookup]
    by_cases hown : own m = true
    · exact ⟨_, if_pos hown⟩
    simp only [Class.owns, Bool.or_eq_true, Bool.and_eq_true, decide_eq_true_eq] at h
    obtain ⟨hall, hsuper⟩ := h.resolve_left hown
    rw [if_neg hown, if_neg hall]
    exact ih hsuper
  | plain own virt super ih =>
    rw [Class.lookup]
    by_cases hown : own m = true
    · exact ⟨_, if_pos hown⟩
    simp only [Class.owns, Bool.or_eq_true] at h
    rw [if_neg hown]
    exact ih (h.resolve_left hown)

/-- Where it has no `readAll`, that of the nearest helper is found. -/
theorem Class.lookup_readAll (h : c.owns .readAll = false) (hhelper : c.helper = some c') :
    c.lookup .readAll = .ends (.loop c') := by
  induction c with
  | tTransport => cases hhelper
  | tTransportDefaults => cases hhelper
  | helped own super ih =>
    cases hhelper
    simp only [Class.owns, Bool.or_eq_false_iff] at h
    rw [Class.lookup, h.1, if_neg Bool.false_ne_true, if_pos rfl]
  | plain own virt super ih =>
    simp only [Class.owns, Bool.or_eq_false_iff] at h
    rw [Class.lookup, h.1, if_neg Bool.false_ne_true]
    exact ih h.2 hhelper

/-- And otherwise the method of the class at the bottom. -/
theorem Class.lookup_of_not_owns (h : c.owns m = false) (hm : m = .readAll → c.helper = none) :
    c.lookup m = if c.onDefaults then .base m else .virtual m := by
  induction c with
  | tTransport => rfl
  | tTransportDefaults => rfl
  | helped own super ih =>
    have hall : m ≠ .readAll := fun hc => nomatch hm hc
    simp only [Class.owns, Bool.or_eq_false_iff, Bool.and_eq_false_imp, decide_eq_true_eq] at h
    rw [Class.lookup, h.1, if_neg Bool.false_ne_true, if_neg hall]
    exact ih (h.2 hall) fun hc => absurd hc hall
  | plain own virt super ih =>
    simp only [Class.owns, Bool.or_eq_false_iff] at h
    rw [Class.lookup, h.1, if_neg Bool.false_ne_true]
    exact ih h.2 hm

theorem Class.final_of_overridden (h : c.overridden m = true) :
    ∃ c', c.final m = .ends (.overrider c' m) := by
  induction c with
  | tTransport => cases h
  | tTransportDefaults => cases h
  | helped own super => cases h
  | plain own virt super ih =>
    rw [Class.final]
    by_cases hvirt : virt m = true
    · exact ⟨_, if_pos hvirt⟩
    simp only [Class.overridden, Bool.or_eq_true] at h
    rw [if_neg hvirt]
    exact ih (h.resolve_left hvirt)

/-- A virtual method that nobody overrides belongs to the nearest class that uses the helper, or
it is that of the base class. -/
theorem Class.final_of_not_overridden (h : c.overridden m = false) :
    c.final m = (c.helper.map (Body.direct · m)).getD (.ends (baseBody m)) := by
  induction c with
  | tTransport => rfl
  | tTransportDefaults => rfl
  | helped own super => rfl
  | plain own virt super ih =>
    simp only [Class.overridden, Bool.or_eq_false_iff] at h
    rw [Class.final, h.1, if_neg Bool.false_ne_true]
    exact ih h.2

/-- The helper that a class uses is at the same bottom. -/
theorem Class.onDefaults_of_helper (h : c.helper = some c') : c'.onDefaults = c.onDefaults := by
  induction c with
  | tTransport => cases h
  | tTransportDefaults => cases h
  | helped own super =>
    cases h
    rfl
  | plain own virt super ih => exact ih h

/-- It is its own. -/
theorem Class.helper_of_helper (h : c.helper = some c') : c'.helper = some c' := by
  induction c with
  | tTransport => cases h
  | tTransportDefaults => cases h
  | helped own super =>
    cases h
    rfl
  | plain own virt super ih => exact ih h

/-! ### Chains of calls -/

/-- A call ends when it is accessible, in the order of the calls that are made. -/
theorem ends_iff_acc : Ends dyn b ↔ Acc (fun b' b => b.calls dyn = some b') b :=
  not_iff_comm.mp not_acc_iff_exists_descending_chain

/-- Code that calls no further method. -/
theorem ends_of_calls_none (h : b.calls dyn = none) : Ends dyn b := by
  rw [ends_iff_acc]
  refine ⟨_, fun b' hb' => ?_⟩
  rw [h] at hb'
  cases hb'

/-- A call ends exactly when the next one does. -/
theorem ends_congr (h : b.calls dyn = some b') : Ends dyn b ↔ Ends dyn b' := by
  rw [ends_iff_acc, ends_iff_acc]
  constructor
  · intro hb
    exact hb.inv h
  · intro hb'
    refine ⟨_, fun b'' hb'' => ?_⟩
    rw [h] at hb''
    cases hb''
    exact hb'

@[simp] theorem exec_ends (dyn : Class) (n : ℕ) (e : Ending) : exec dyn n (.ends e) = some e := by
  cases n <;> rfl

theorem ends_virtual : Ends dyn (.virtual m) ↔ Ends dyn (dyn.final m) := ends_congr rfl

theorem ends_direct : Ends dyn (.direct c m) ↔ Ends dyn (c.lookup m) := ends_congr rfl

theorem ends_base : Ends dyn (.base m) ↔ Ends dyn (.ends (baseBody m)) := ends_congr rfl

theorem ends_loop : Ends dyn (.ends (.loop c)) ↔ Ends dyn (c.lookup .read) := ends_congr rfl

/-- The methods of the base class end, but for the loop of `readAll`. -/
theorem ends_baseBody (hm : m ≠ .readAll) : Ends dyn (.ends (baseBody m)) := by
  refine ends_of_calls_none ?_
  cases m with
  | readAll => exact absurd rfl hm
  | read => rfl
  | write => rfl
  | borrow => rfl
  | consume => rfl

theorem asked_of_ne (h : m ≠ .readAll) : m.asked = m := by
  cases m with
  | readAll => exact absurd rfl h
  | read => rfl
  | write => rfl
  | borrow => rfl
  | consume => rfl

/-! ### The infinite recursion -/

theorem Loops.final (h : Loops dyn m) (hhelper : dyn.helper = some c) :
    dyn.final m = .direct c m := by
  rw [Class.final_of_not_overridden h.kept, hhelper]
  rfl

/-- The class that uses the helper has not got the method. -/
theorem Loops.owns (h : Loops dyn m) (hhelper : dyn.helper = some c) : c.owns m = false := by
  obtain ⟨c', hhelper', hlacks⟩ := h.lacks
  cases hhelper.symm.trans hhelper'
  exact hlacks

/-- So what is found in it is the one of `TTransport`. -/
theorem Loops.lookup (hm : m ≠ .readAll) (h : Loops dyn m) (hhelper : dyn.helper = some c) :
    c.lookup m = .virtual m := by
  rw [Class.lookup_of_not_owns (h.owns hhelper) fun hc => absurd hc hm,
    Class.onDefaults_of_helper hhelper, h.bare]
  rfl

/-- **The recursion does not end.** The virtual method calls the one of the class that uses the
helper, which is the one of `TTransport`, which calls the virtual method: no call that is one of
these two is the first one of a chain that ends. -/
theorem not_ends_of_loops (hm : m ≠ .readAll) (h : Loops dyn m) : ¬Ends dyn (.virtual m) := by
  obtain ⟨c, hhelper, -⟩ := h.lacks
  have hnot : ∀ b, Acc (fun b' b => Body.calls dyn b = some b') b →
      b ≠ .virtual m ∧ b ≠ .direct c m := by
    intro b hb
    induction hb with
    | intro b _ ih =>
      refine ⟨?_, ?_⟩
      · rintro rfl
        exact (ih _ (congrArg some (h.final hhelper))).2 rfl
      · rintro rfl
        exact (ih _ (congrArg some (h.lookup hm hhelper))).1 rfl
  exact fun hends => (hnot _ (ends_iff_acc.mp hends)).1 rfl

/-- Nor do three calls come to any code. -/
theorem exec_of_loops (hm : m ≠ .readAll) (h : Loops dyn m) :
    exec dyn 3 (.virtual m) = none := by
  obtain ⟨c, hhelper, -⟩ := h.lacks
  change exec dyn 2 (dyn.final m) = none
  rw [h.final hhelper]
  change exec dyn 1 (c.lookup m) = none
  rw [h.lookup hm hhelper]
  change exec dyn 0 (dyn.final m) = none
  rw [h.final hhelper]
  rfl

/-- A method that a class has, or that the defaults have, is found, and there the calls end. -/
theorem exec_lookup (dyn : Class) (hm : m ≠ .readAll)
    (h : c.owns m = true ∨ c.onDefaults = true) (n : ℕ) :
    ∃ e, exec dyn (n + 1) (c.lookup m) = some e ∧ Ends dyn (.ends e) := by
  rcases howns : c.owns m
  · have hdefaults := h.resolve_left (by rw [howns]; exact Bool.false_ne_true)
    rw [Class.lookup_of_not_owns howns fun hc => absurd hc hm, if_pos hdefaults]
    exact ⟨baseBody m, exec_ends dyn n _, ends_baseBody hm⟩
  · obtain ⟨c', hfound⟩ := Class.lookup_of_owns howns
    rw [hfound]
    exact ⟨_, exec_ends dyn _ _, ends_of_calls_none rfl⟩

/-- Without the infinite recursion a virtual call comes to code after three calls at the most,
and there the calls end. -/
theorem exec_virtual (hm : m ≠ .readAll) (h : ¬Loops dyn m) :
    ∃ e, exec dyn 3 (.virtual m) = some e ∧ Ends dyn (.ends e) := by
  change ∃ e, exec dyn 2 (dyn.final m) = some e ∧ _
  rcases hover : dyn.overridden m
  · rw [Class.final_of_not_overridden hover]
    rcases hhelper : dyn.helper with _ | c
    · exact ⟨baseBody m, exec_ends dyn 2 _, ends_baseBody hm⟩
    · have hother : c.owns m = true ∨ c.onDefaults = true := by
        by_contra hc
        obtain ⟨howns, hdefaults⟩ := not_or.mp hc
        rw [Class.onDefaults_of_helper hhelper] at hdefaults
        exact h ⟨Bool.eq_false_of_not_eq_true hdefaults, hover, c, hhelper,
          Bool.eq_false_of_not_eq_true howns⟩
      exact exec_lookup dyn hm hother 0
  · obtain ⟨c', hfinal⟩ := Class.final_of_overridden hover
    rw [hfinal]
    exact ⟨_, exec_ends dyn 2 _, ends_of_calls_none rfl⟩

/-- A call ends as the code that it comes to does. The induction is on the calls granted. -/
theorem ends_of_exec {e : Ending} (h : exec dyn n b = some e) :
    Ends dyn b ↔ Ends dyn (.ends e) := by
  induction n generalizing b with
  | zero =>
    cases b with
    | ends e' =>
      cases h
      rfl
    | virtual m => cases h
    | base m => cases h
    | direct c m => cases h
  | succ n ih =>
    cases b with
    | ends e' =>
      cases h
      rfl
    | virtual m => exact ends_virtual.trans (ih h)
    | base m => exact ends_base.trans (ih h)
    | direct c m => exact ends_direct.trans (ih h)

/-- **A virtual call ends** exactly when it is not the one of the infinite recursion. -/
theorem ends_virtual_iff (hm : m ≠ .readAll) : Ends dyn (.virtual m) ↔ ¬Loops dyn m := by
  refine ⟨fun hends hloops => not_ends_of_loops hm hloops hends, fun hnot => ?_⟩
  obtain ⟨e, hexec, hends⟩ := exec_virtual hm hnot
  exact (ends_of_exec hexec).mpr hends

/-- **A direct call ends**, made in whichever class, when the method is found there, or the
virtual call ends. -/
theorem ends_lookup (hm : m ≠ .readAll) : Ends dyn (c.lookup m) ↔
    c.owns m = true ∨ c.onDefaults = true ∨ ¬Loops dyn m := by
  by_cases hfound : c.owns m = true ∨ c.onDefaults = true
  · obtain ⟨e, hexec, hends⟩ := exec_lookup dyn hm hfound 0
    exact iff_of_true ((ends_of_exec hexec).mpr hends) (or_assoc.mp (Or.inl hfound))
  · obtain ⟨howns, hdefaults⟩ := not_or.mp hfound
    rw [← or_assoc, or_iff_right hfound,
      Class.lookup_of_not_owns (Bool.eq_false_of_not_eq_true howns) fun hc => absurd hc hm,
      if_neg hdefaults]
    exact ends_virtual_iff hm

/-- **Three calls are enough** to come to code, where there is any to come to. -/
theorem exec_eq_none_iff (hm : m ≠ .readAll) :
    exec dyn 3 (c.lookup m) = none ↔ ¬Ends dyn (c.lookup m) := by
  by_cases hfound : c.owns m = true ∨ c.onDefaults = true
  · obtain ⟨e, hexec, hends⟩ := exec_lookup dyn hm hfound 2
    rw [hexec]
    exact iff_of_false (Option.some_ne_none e) fun hc => hc ((ends_of_exec hexec).mpr hends)
  · obtain ⟨howns, hdefaults⟩ := not_or.mp hfound
    rw [Class.lookup_of_not_owns (Bool.eq_false_of_not_eq_true howns) fun hc => absurd hc hm,
      if_neg hdefaults]
    by_cases hloops : Loops dyn m
    · exact iff_of_true (exec_of_loops hm hloops) (not_ends_of_loops hm hloops)
    · obtain ⟨e, hexec, hends⟩ := exec_virtual hm hloops
      rw [hexec]
      exact iff_of_false (Option.some_ne_none e) fun hc => hc ((ends_of_exec hexec).mpr hends)

/-- **The loop of `readAll` ends** as the virtual `read` does, whether it was made for the base
class or for the class that uses the helper: where that class has got `read`, the virtual one
ends as well. -/
theorem ends_loop_iff (h : c = .tTransport ∨ dyn.helper = some c) :
    Ends dyn (.ends (.loop c)) ↔ ¬Loops dyn .read := by
  rw [ends_loop, ends_lookup (by decide)]
  rcases h with rfl | hhelper
  · exact (or_iff_right Bool.false_ne_true).trans (or_iff_right Bool.false_ne_true)
  · refine ⟨?_, fun hnot => Or.inr (Or.inr hnot)⟩
    rintro (howns | hdefaults | hnot) hloops
    · rw [hloops.owns hhelper] at howns
      cases howns
    · rw [Class.onDefaults_of_helper hhelper, hloops.bare] at hdefaults
      cases hdefaults
    · exact hnot hloops

/-- The virtual `readAll`. -/
theorem ends_virtual_readAll : Ends dyn (.virtual .readAll) ↔ dyn.overridden .readAll = true ∨
    (∃ c, dyn.helper = some c ∧ c.owns .readAll = true) ∨ ¬Loops dyn .read := by
  rw [ends_virtual]
  rcases hover : dyn.overridden .readAll
  · rw [Class.final_of_not_overridden hover]
    rcases hhelper : dyn.helper with _ | c
    · refine (ends_loop_iff (Or.inl rfl)).trans ⟨fun h => Or.inr (Or.inr h), ?_⟩
      rintro (hc | ⟨c, hc, -⟩ | hnot)
      · cases hc
      · cases hc
      · exact hnot
    · refine ends_direct.trans ?_
      rcases howns : c.owns .readAll
      · rw [Class.lookup_readAll howns (Class.helper_of_helper hhelper)]
        refine (ends_loop_iff (Or.inr hhelper)).trans ⟨fun h => Or.inr (Or.inr h), ?_⟩
        rintro (hc | ⟨c', hc, howns'⟩ | hnot)
        · cases hc
        · cases hc
          rw [howns] at howns'
          cases howns'
        · exact hnot
      · obtain ⟨c', hfound⟩ := Class.lookup_of_owns howns
        rw [hfound]
        exact ⟨fun _ => Or.inr (Or.inl ⟨c, rfl, howns⟩), fun _ => ends_of_calls_none rfl⟩
  · obtain ⟨c', hfinal⟩ := Class.final_of_overridden hover
    rw [hfinal]
    exact ⟨fun _ => Or.inl rfl, fun _ => ends_of_calls_none rfl⟩

/-- The direct `readAll`. -/
theorem ends_lookup_readAll : Ends dyn (dyn.lookup .readAll) ↔
    dyn.owns .readAll = true ∨ ¬Loops dyn .read := by
  rcases howns : dyn.owns .readAll
  · have hor : (false = true ∨ ¬Loops dyn .read) ↔ ¬Loops dyn .read :=
      or_iff_right Bool.false_ne_true
    rw [hor]
    rcases hhelper : dyn.helper with _ | c
    · have hnone : ¬Loops dyn .read := by
        rintro ⟨-, -, c, hc, -⟩
        rw [hhelper] at hc
        cases hc
      rw [Class.lookup_of_not_owns howns fun _ => hhelper]
      refine iff_of_true ?_ hnone
      split
      · exact ends_base.mpr ((ends_loop_iff (Or.inl rfl)).mpr hnone)
      · exact ends_virtual_readAll.mpr (Or.inr (Or.inr hnone))
    · rw [Class.lookup_readAll howns hhelper]
      exact ends_loop_iff (Or.inr hhelper)
  · obtain ⟨c', hfound⟩ := Class.lookup_of_owns howns
    rw [hfound]
    exact ⟨fun _ => Or.inl rfl, fun _ => ends_of_calls_none rfl⟩

/-- **When a call ends.** A direct call of a method ends exactly when what is found is a class's
own, or the method that is asked for in the end has no infinite recursion; and a call through a
pointer to the base class, when a class overrides the virtual method, or the nearest one that
uses the helper has the method, or there is no infinite recursion either. -/
theorem ends_iff (dyn : Class) (m : Method) :
    (Ends dyn (dyn.lookup m) ↔ dyn.owns m = true ∨ ¬Loops dyn m.asked) ∧
    (Ends dyn (.virtual m) ↔ dyn.overridden m = true ∨
      (∃ c, dyn.helper = some c ∧ c.owns m = true) ∨ ¬Loops dyn m.asked) := by
  by_cases hm : m = .readAll
  · subst hm
    exact ⟨ends_lookup_readAll, ends_virtual_readAll⟩
  rw [asked_of_ne hm, ends_lookup hm, ends_virtual_iff hm]
  refine ⟨?_, fun hnot => Or.inr (Or.inr hnot), ?_⟩
  · refine or_congr_right ⟨?_, Or.inr⟩
    rintro (hdefaults | hnot) hloops
    · rw [hloops.bare] at hdefaults
      cases hdefaults
    · exact hnot hloops
  · rintro (hover | ⟨c, hhelper, howns⟩ | hnot) hloops
    · rw [hloops.kept] at hover
      cases hover
    · rw [hloops.owns hhelper] at howns
      cases howns
    · exact hnot hloops

/-- **Above `TTransportDefaults` every call ends**, made in either way: the infinite recursion
is prevented. -/
theorem ends_of_onDefaults (h : dyn.onDefaults = true) (m : Method) :
    Ends dyn (dyn.lookup m) ∧ Ends dyn (.virtual m) := by
  have hnot : ¬Loops dyn m.asked := by
    intro hloops
    rw [hloops.bare] at h
    cases h
  exact ⟨(ends_iff dyn m).1.mpr (Or.inr hnot), (ends_iff dyn m).2.mpr (Or.inr (Or.inr hnot))⟩

/-! ### `readAll` through a pointer to the base class -/

/-- What the transports do in the methods that they declare themselves, and in the virtual ones
that they override. -/
structure Methods (τ ε : Type) where
  read : Class → Reader τ UInt8 ε
  readAll : Class → ℕ → ℕ → ReadM τ ε ℕ
  readVirt : Class → Reader τ UInt8 ε
  readAllVirt : Class → ℕ → ℕ → ReadM τ ε ℕ
  /-- The exception of the base class. -/
  notOpen : ε

variable {τ ε : Type}

/-- What `trans.read(buf, len)` does in an object of class `dyn`, when `trans` is of the static
type `c`: nothing that ends, when the calls recurse for ever. -/
def Methods.reader (methods : Methods τ ε) (dyn c : Class) : Option (Reader τ UInt8 ε) :=
  match exec dyn 3 (c.lookup .read) with
  | some (.own c' _) => some (methods.read c')
  | some (.overrider c' _) => some (methods.readVirt c')
  -- the base class throws; no other code is that of a `read`
  | some _ => some fun s _ => ⟨.error methods.notOpen, [], s⟩
  | none => none

/-- **`readAll`, called in one of the two ways** on an object of class `dyn`; there is no code
that ends, when there is something to read and the `read` of the loop recurses for ever. -/
def Methods.callReadAll (methods : Methods τ ε) (dyn : Class) (b : Body) (buf len : ℕ) :
    Option (ReadM τ ε ℕ) :=
  match exec dyn 3 b with
  | some (.own c' _) => some (methods.readAll c' buf len)
  | some (.overrider c' _) => some (methods.readAllVirt c' buf len)
  | some (.loop c) =>
    match methods.reader dyn c with
    | some read => some (Interface.readAll read buf len)
    | none => if 0 < len then none else some (return 0)
  -- no call of `readAll` comes here (`exec_readAll`)
  | some .notOpen | some .null | none => none

theorem Methods.reader_eq_none_iff (methods : Methods τ ε) :
    methods.reader dyn c = none ↔ ¬Ends dyn (c.lookup .read) := by
  rw [← exec_eq_none_iff (by decide), Methods.reader]
  rcases exec dyn 3 (c.lookup .read) with _ | e
  · exact iff_of_true rfl rfl
  · refine iff_of_false ?_ (Option.some_ne_none e)
    cases e <;> exact Option.some_ne_none _

/-- **What `readAll` comes to**, called in either way: code of a class's own, or the loop. -/
theorem exec_readAll (hb : b = .virtual .readAll ∨ b = dyn.lookup .readAll) :
    ∃ e, exec dyn 3 b = some e ∧
      ((∃ c, e = .own c .readAll) ∨ (∃ c, e = .overrider c .readAll) ∨ ∃ c, e = .loop c) := by
  have hvirtual : ∃ e, exec dyn 3 (.virtual .readAll) = some e ∧
      ((∃ c, e = .own c .readAll) ∨ (∃ c, e = .overrider c .readAll) ∨ ∃ c, e = .loop c) := by
    change ∃ e, exec dyn 2 (dyn.final .readAll) = some e ∧ _
    rcases hover : dyn.overridden .readAll
    · rw [Class.final_of_not_overridden hover]
      rcases hhelper : dyn.helper with _ | c
      · exact ⟨_, exec_ends dyn 2 _, Or.inr (Or.inr ⟨_, rfl⟩)⟩
      · change ∃ e, exec dyn 1 (c.lookup .readAll) = some e ∧ _
        rcases howns : c.owns .readAll
        · rw [Class.lookup_readAll howns (Class.helper_of_helper hhelper)]
          exact ⟨_, exec_ends dyn 1 _, Or.inr (Or.inr ⟨_, rfl⟩)⟩
        · obtain ⟨c', hfound⟩ := Class.lookup_of_owns howns
          rw [hfound]
          exact ⟨_, exec_ends dyn 1 _, Or.inl ⟨_, rfl⟩⟩
    · obtain ⟨c', hfinal⟩ := Class.final_of_overridden hover
      rw [hfinal]
      exact ⟨_, exec_ends dyn 2 _, Or.inr (Or.inl ⟨_, rfl⟩)⟩
  rcases hb with rfl | rfl
  · exact hvirtual
  rcases howns : dyn.owns .readAll
  · rcases hhelper : dyn.helper with _ | c
    · rw [Class.lookup_of_not_owns howns fun _ => hhelper]
      split
      · exact ⟨_, exec_ends dyn 2 _, Or.inr (Or.inr ⟨_, rfl⟩)⟩
      · exact hvirtual
    · rw [Class.lookup_readAll howns hhelper]
      exact ⟨_, exec_ends dyn 3 _, Or.inr (Or.inr ⟨_, rfl⟩)⟩
  · obtain ⟨c', hfound⟩ := Class.lookup_of_owns howns
    rw [hfound]
    exact ⟨_, exec_ends dyn 3 _, Or.inl ⟨_, rfl⟩⟩

/-- **`readAll` is code that runs** unless there is something to read and the call recurses for
ever. -/
theorem Methods.callReadAll_eq_none_iff (methods : Methods τ ε) (buf : ℕ) {len : ℕ}
    (hb : b = .virtual .readAll ∨ b = dyn.lookup .readAll) :
    methods.callReadAll dyn b buf len = none ↔ 0 < len ∧ ¬Ends dyn b := by
  obtain ⟨e, hexec, ⟨c, rfl⟩ | ⟨c, rfl⟩ | ⟨c, rfl⟩⟩ := exec_readAll hb
  · rw [ends_of_exec hexec, Methods.callReadAll, hexec]
    exact iff_of_false (Option.some_ne_none _) fun hc => hc.2 (ends_of_calls_none rfl)
  · rw [ends_of_exec hexec, Methods.callReadAll, hexec]
    exact iff_of_false (Option.some_ne_none _) fun hc => hc.2 (ends_of_calls_none rfl)
  · rw [ends_of_exec hexec, ends_loop, ← methods.reader_eq_none_iff, Methods.callReadAll, hexec]
    dsimp only
    rcases methods.reader dyn c with _ | read
    · dsimp only
      split
      · next hlen => exact iff_of_true rfl ⟨hlen, rfl⟩
      · next hlen => exact iff_of_false (Option.some_ne_none _) fun hc => hlen hc.1
    · exact iff_of_false (Option.some_ne_none _) fun hc => Option.some_ne_none _ hc.2

/-- The method of a class that uses the helper, found in it. -/
theorem lookup_helped (own : Method → Bool) (super : Class) :
    (Class.helped own super).lookup m = if own m then .ends (.own (.helped own super) m)
      else if m = .readAll then .ends (.loop (.helped own super)) else super.lookup m := rfl

/-- **A transport that provides `read`** and uses the helper has a `readAll` that reads its
stream, whatever its super class provides: called directly or through a pointer to the base
class, it is the loop over the `read` of this very class, even when the super class has another
`readAll`. -/
theorem readAll_of_helped (methods : Methods τ ε) {own : Method → Bool} (super : Class)
    {stream : τ → List UInt8} (hread : own .read = true) (hall : own .readAll = false)
    (hserves : (methods.read (.helped own super)).Serves stream) {len : ℕ}
    (hlen : len < 2 ^ 32) (buf : ℕ) (s : Mem τ) (b : Body)
    (hb : b = .virtual .readAll ∨ b = (Class.helped own super).lookup .readAll) :
    ∃ code, methods.callReadAll (.helped own super) b buf len = some code ∧
      Traced.Post code s
        (fun ret s' _ => ret = len ∧ Took stream buf len s s')
        (fun e s' t => ∃ k < len, Took stream buf k s s' ∧
          (e = .endOfFile ∧ k = (stream s.trans).length ∨
            Raises (methods.read (.helped own super)) t e)) := by
  have hloop : exec (.helped own super) 3 b = some (.loop (.helped own super)) := by
    have hfound : (Class.helped own super).lookup .readAll = .ends (.loop (.helped own super)) := by
      rw [lookup_helped, hall]
      rfl
    rcases hb with rfl | rfl
    · change exec (.helped own super) 1 ((Class.helped own super).lookup .readAll) = _
      rw [hfound]
      rfl
    · rw [hfound]
      rfl
  have hreader : methods.reader (.helped own super) (.helped own super) =
      some (methods.read (.helped own super)) := by
    have hfound : exec (.helped own super) 3 ((Class.helped own super).lookup .read) =
        some (.own (.helped own super) .read) := by
      rw [lookup_helped, hread]
      rfl
    rw [Methods.reader, hfound]
  refine ⟨readAll (methods.read (.helped own super)) buf len, ?_, ?_⟩
  · rw [Methods.callReadAll, hloop]
    dsimp only
    rw [hreader]
  · exact post_readAllFrom hserves hlen buf 0 (Nat.zero_le len) (Nat.le_refl len) s

namespace Sample

/-- A transport that declares `read` only. -/
def reads : Method → Bool := fun m => m = .read

/-- A transport that declares `read` and a `readAll` of its own. -/
def readsAll : Method → Bool := fun m => m = .read || m = .readAll

/-- All of them give out one byte at a time, and their own `readAll` gives up. -/
def methods : Methods (List UInt8) Unit where
  read _ := bytewise
  readAll _ _ _ := Traced.stop (.raised ())
  readVirt _ := bytewise
  readAllVirt _ _ _ := Traced.stop (.raised ())
  notOpen := ()

end Sample

theorem readAll_of_helped_sample :
    ∃ code, Sample.methods.callReadAll
        (.helped Sample.reads (.helped Sample.readsAll .tTransportDefaults))
        (.virtual .readAll) 8 5 = some code ∧ Traced.Post code Sample.mem
      (fun ret s' _ => ret = 5 ∧ Took id 8 5 Sample.mem s')
      (fun e s' t => ∃ k < 5, Took id 8 k Sample.mem s' ∧
        (e = .endOfFile ∧ k = [1, 2, 3].length ∨ Raises Sample.bytewise t e)) :=
  readAll_of_helped Sample.methods (.helped Sample.readsAll .tTransportDefaults) rfl rfl
    Sample.bytewise_serves (by decide) 8 Sample.mem (.virtual .readAll) (Or.inl rfl)

end Interface
