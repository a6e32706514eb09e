import RdmaCpp.Lib.Monitor
import RdmaCpp.Transport.Handled

/-!
# Connection ids and outstanding events

`rdma_destroy_id` waits until every event reported on the id has been
acknowledged, and the thread that destroys ids is the one that acknowledges
events. So an id must never be destroyed while an event on it is outstanding –
obtained, and not yet acknowledged.

The event loop acknowledges the error events and `DISCONNECTED` before their
handlers run, and the others after. Those others reach the teardown when one of
their calls fails, and the teardown destroys the current id: if the event is about
that very id, it is destroyed under it. That is the only way, and it always is one
(`Transport.undisturbed_iff_acksFirst`).
-/

namespace Transport

/-! ### The monitor -/

/-- **Watching the outstanding events**: an id may be destroyed when none of them
is about it. -/
def destroyMonitor : Monitor (List CmEvent) Act where
  step u a := match a with
    | .rdmaGetCmEvent _ (some e) => e :: u
    | .rdmaAckCmEvent e => u.erase e
    | _ => u
  Ok u a := ∀ id, a = .rdmaDestroyId id → ∀ e ∈ u, some e.id ≠ id

/-- The events obtained and not yet acknowledged after a history. -/
def outstanding (h : List Act) : List CmEvent := destroyMonitor.after [] h

/-- The actions that neither obtain nor acknowledge an event nor destroy an id. -/
def Act.isQuiet : Act → Bool
  | .rdmaGetCmEvent _ (some _) | .rdmaAckCmEvent _ | .rdmaDestroyId _ => false
  | _ => true

theorem Act.isQuiet_of_isResource {a : Act} (h : a.isResource = true) : a.isQuiet = true := by
  cases a <;> first | rfl | exact absurd h Bool.false_ne_true

theorem all_isQuiet_of_isResource {t : List Act} (h : t.all Act.isResource = true) :
    t.all Act.isQuiet = true :=
  all_mono (fun _ => Act.isQuiet_of_isResource) h

/-- Quiet actions pass, and the outstanding events stay. -/
theorem destroyMonitor_quiet {u : List CmEvent} {t : List Act} (h : t.all Act.isQuiet = true) :
    destroyMonitor.Accepts u t ∧ destroyMonitor.after u t = u := by
  refine Monitor.leads_of_neutral fun a ha => ?_
  have hquiet := List.all_eq_true.mp h a ha
  refine ⟨?_, ?_⟩
  · rintro id rfl
    exact absurd hquiet Bool.false_ne_true
  · cases a with
    | rdmaGetCmEvent ch res =>
      cases res with
      | none => rfl
      | some e => exact absurd hquiet Bool.false_ne_true
    | rdmaAckCmEvent e => exact absurd hquiet Bool.false_ne_true
    | _ => rfl

@[simp] theorem accepts_quiet_append {u : List CmEvent} {t t' : List Act}
    (h : t.all Act.isQuiet = true) :
    destroyMonitor.Accepts u (t ++ t') ↔ destroyMonitor.Accepts u t' := by
  obtain ⟨hacc, hafter⟩ := destroyMonitor_quiet (u := u) h
  rw [destroyMonitor.accepts_append, hafter]
  exact ⟨And.right, fun ht => ⟨hacc, ht⟩⟩

variable {config : RdmaParam} {u : List CmEvent} {t : List Act}

/-! ### The pieces of a run -/

theorem sharedReleaseActs_quiet (config : RdmaParam) (c : RdmaContext) :
    (sharedReleaseActs config c).all Act.isQuiet = true := by
  refine List.all_eq_true.mpr fun a ha => Act.isQuiet_of_isResource ?_
  exact Act.isResource_of_isShared (List.all_eq_true.mp (all_sharedReleaseActs config c) a ha)

/-- **A teardown is fine** when no outstanding event is about the current id; the
outstanding events stay. -/
theorem accepts_teardownActs_append {c : RdmaContext} :
    destroyMonitor.Accepts u (teardownActs config c ++ t) ↔
      (∀ id, c.cmId = some id → ∀ e ∈ u, e.id ≠ id) ∧ destroyMonitor.Accepts u t := by
  have hshared : (Act.enter .teardown :: sharedReleaseActs config c).all Act.isQuiet = true := by
    rw [List.all_cons, sharedReleaseActs_quiet config c]
    rfl
  have hsplit : teardownActs config c ++ t = (.enter .teardown :: sharedReleaseActs config c) ++
      (releaseAct c.cmId (.rdmaDestroyId c.cmId) ++ (.leave .teardown 0 :: t)) := by
    simp only [teardownActs, List.cons_append, List.append_assoc, List.nil_append]
  have hleave : destroyMonitor.Accepts u (.leave .teardown 0 :: t) ↔ destroyMonitor.Accepts u t :=
    accepts_quiet_append (t := [.leave .teardown 0]) rfl
  rw [hsplit, accepts_quiet_append hshared]
  rcases hid : c.cmId with _ | id
  · rw [releaseAct_none, List.nil_append, hleave]
    exact ⟨fun ht => ⟨fun id hc => absurd hc (Option.some_ne_none id).symm, ht⟩, And.right⟩
  · rw [releaseAct_some, List.cons_append, List.nil_append, destroyMonitor.accepts_cons]
    change (∀ id', Act.rdmaDestroyId (some id) = .rdmaDestroyId id' → ∀ e ∈ u, some e.id ≠ id') ∧
      destroyMonitor.Accepts u (.leave .teardown 0 :: t) ↔ _
    rw [hleave]
    refine and_congr_left fun _ => ⟨?_, ?_⟩
    · rintro h id' hid' e he rfl
      exact h (some id) rfl e he hid'.symm
    · rintro h id' hid' e he heq
      cases hid'
      exact h id rfl e he (Option.some.inj heq)

/-- The creation of the resources is quiet. -/
theorem CreateRan.quiet {o : CreateOutcomes} {c c' : RdmaContext} {ret : ℤ}
    (h : CreateRan config o c ret c' t) : t.all Act.isQuiet = true := by
  obtain ⟨⟨t', rfl, hall⟩, -⟩ := h.frame
  rw [List.all_cons, List.all_append, all_isQuiet_of_isResource hall]
  rfl

/-- **When the event is acknowledged**: after a teardown, with no teardown, or before
one. Only the first is a teardown under the event. -/
inductive AckedWhen (config : RdmaParam) (event : CmEvent) (c : RdmaContext) (late : Prop) :
    List Act → Prop
  | afterTeardown {t : List Act} {c' : RdmaContext} (ht : t.all Act.isQuiet = true)
      (hid : c'.cmId = c.cmId) (hlate : late) :
      AckedWhen config event c late (t ++ (teardownActs config c' ++ [.rdmaAckCmEvent event]))
  | noTeardown {t : List Act} (ht : t.all Act.isQuiet = true) (hlate : ¬late) :
      AckedWhen config event c late (t ++ [.rdmaAckCmEvent event])
  | beforeTeardown {t : List Act} (ht : t.all Act.isQuiet = true) (hlate : ¬late) :
      AckedWhen config event c late (t ++ .rdmaAckCmEvent event :: teardownActs config c)

section AckedWhen

variable {event : CmEvent} {c : RdmaContext} {late : Prop}

theorem accepts_ack (u : List CmEvent) : destroyMonitor.Accepts u [.rdmaAckCmEvent event] := by
  refine ⟨?_, trivial⟩
  rintro id hc
  cases hc

theorem after_ack (u : List CmEvent) :
    destroyMonitor.after (event :: u) [.rdmaAckCmEvent event] = u :=
  List.erase_cons_head event u

/-- It objects to nothing else. -/
theorem AckedWhen.accepts (h : AckedWhen config event c late t)
    (hok : c.cmId = some event.id → ¬late) : destroyMonitor.Accepts [event] t := by
  cases h with
  | afterTeardown ht hid hlate =>
    rw [accepts_quiet_append ht, accepts_teardownActs_append, hid]
    refine ⟨?_, accepts_ack [event]⟩
    rintro id heq e he rfl
    rw [List.mem_singleton.mp he] at heq
    exact hok heq hlate
  | noTeardown ht hlate =>
    rw [accepts_quiet_append ht]
    exact accepts_ack [event]
  | beforeTeardown ht hlate =>
    have hstep : destroyMonitor.step [event] (.rdmaAckCmEvent event) = [] := after_ack []
    rw [accepts_quiet_append ht, destroyMonitor.accepts_cons, hstep,
      ← List.append_nil (teardownActs config c), accepts_teardownActs_append]
    refine ⟨(accepts_ack [event]).1, ?_, trivial⟩
    rintro id - e he
    exact absurd he List.not_mem_nil

end AckedWhen

/-! ### Runs -/

theorem all_isQuiet_of_isStarting (h : t.all Act.isStarting = true) :
    t.all Act.isQuiet = true := by
  refine all_mono (fun a ha => ?_) h
  cases a <;> first | rfl | exact absurd ha Bool.false_ne_true

/-- A start obtains no event and destroys no id. -/
theorem Started.quiet {start : Start} {s : Option RdmaContext} (h : Started config start s t) :
    t.all Act.isQuiet = true :=
  all_isQuiet_of_isStarting h.all_isStarting

theorem StartExits.quiet {start : Start} (h : StartExits config start t) :
    t.all Act.isQuiet = true :=
  all_isQuiet_of_isStarting h.all_isStarting

variable {channel : Ptr} {start : Start}

theorem accepts_obtainActs (event : CmEvent) (t : List Act) :
    destroyMonitor.Accepts u (obtainActs channel event ++ t) ↔
      destroyMonitor.Accepts (event :: u) t := by
  rw [obtainActs, List.cons_append, List.cons_append, List.nil_append, destroyMonitor.accepts_cons,
    destroyMonitor.accepts_cons]
  refine ⟨fun h => h.2.2, fun h => ⟨?_, ?_, h⟩⟩
  · rintro id hc
    cases hc
  · rintro id hc
    cases hc

/-- **The monitor's invariant**: everything so far has been let pass, and between two
turns nothing is outstanding. -/
def Settled (h : List Act) : Prop :=
  destroyMonitor.Accepts [] h ∧ destroyMonitor.after [] h = []

theorem Settled.accepts_append {h : List Act} (hs : Settled h) :
    destroyMonitor.Accepts [] (h ++ t) ↔ destroyMonitor.Accepts [] t := by
  rw [destroyMonitor.accepts_append, hs.2]
  exact ⟨And.right, fun ht => ⟨hs.1, ht⟩⟩

/-- A turn whose event is acknowledged keeps the invariant. -/
theorem Settled.turn {h : List Act} {event : CmEvent} (hs : Settled h)
    (hacc : destroyMonitor.Accepts [event] t) (hafter : destroyMonitor.after [event] t = []) :
    Settled (h ++ (obtainActs channel event ++ t)) := by
  refine ⟨?_, ?_⟩
  · rwa [hs.accepts_append, accepts_obtainActs]
  · rw [destroyMonitor.after_append, hs.2]
    exact hafter

end Transport
