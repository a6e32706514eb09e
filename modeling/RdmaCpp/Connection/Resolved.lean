import RdmaCpp.Connection.Acknowledged

/-!
# The resolution of an address and a route

The client resolves the address of the server and then a route to it, each in an endless
loop over an event stream that may report errors for ever. What ends the loops is the
budget of retries they share: the first is left with what it has not used, and the second
goes on from there. Both tests by which a loop gives up, `== 0` and `<= 0`, are passed by
exactly the budgets there can be (`Connection.post_resolveLoop`).

So the events that lead on are some address errors, the address, some route errors and the
route, where the errors together are fewer than the retries (`Connection.ResolvedAt`).
-/

namespace Connection

/-! ### What leads on -/

/-- **The events from the `k`-th on that a loop goes through**: so many errors, and then what it
waits for; and the call before each of them succeeds. -/
def GoesThrough (o : ClientOutcomes) (ret : ℕ → ℤ) (error resolved : CmEventType)
    (k errors : ℕ) : Prop :=
  (∀ i < errors, ret (k + i) = 0 ∧
    (o.rdmaGetCmEvent (k + i)).map CmEvent.event = some error) ∧
  ret (k + errors) = 0 ∧ (o.rdmaGetCmEvent (k + errors)).map CmEvent.event = some resolved

/-- An address has been found, of the right family. -/
def Found (found : Option AddrInfo) : Prop := ∃ res, found = some res ∧ res.aiFamily = pfInet

/-- **The resolution succeeds**, with the `k`-th event. -/
def ResolvedAt (numOfRetries : ℕ) (o : ClientOutcomes) (k : ℕ) : Prop :=
  Found o.checkAddPort ∧ ∃ a r, a + r < numOfRetries ∧ k = a + r + 2 ∧
    GoesThrough o o.rdmaResolveAddr .addrError .addrResolved 0 a ∧
    GoesThrough o o.rdmaResolveRoute .routeError .routeResolved (a + 1) r

/-- The calls that resolve an address or a route. -/
def Act.isResolve : Act → Bool
  | .rdmaResolveAddr .. | .rdmaResolveRoute .. => true
  | _ => false

/-- The actions of the resolution. -/
def Act.isResolution : Act → Bool
  | .checkAddPort .. | .rdmaResolveAddr .. | .rdmaResolveRoute .. | .rdmaGetCmEvent .. |
    .readEvent _ | .rdmaAckCmEvent _ => true
  | _ => false

/-- The kinds of event it goes through. -/
def ofResolution : CmEventType → Bool
  | .addrError | .addrResolved | .routeError | .routeResolved => true
  | _ => false

/-- What a stretch of the resolution does, whether it leads on or not: it obtains,
looks at and acknowledges events, each in its turn, and makes at most so many of its calls. -/
structure Resolves (calls : ℕ) (t : List Act) : Prop where
  leads : events.monitor.Leads [] t []
  bounded : t.countP Act.isResolve ≤ calls
  resolution : ∀ a ∈ t, a.isResolution = true

/-- The events that the actions obtain are of kinds that lead on. -/
def LeadsOn (t : List Act) : Prop :=
  ∀ channel e, .rdmaGetCmEvent channel (some e) ∈ t → ofResolution e.event = true

/-- Each event that they obtain is of such a kind, or it is at least one that is delivered. -/
def Delivered (o : ClientOutcomes) (t : List Act) : Prop :=
  ∀ channel e, .rdmaGetCmEvent channel (some e) ∈ t →
    ofResolution e.event = true ∨ ∃ k, o.rdmaGetCmEvent k = some e

variable {o : ClientOutcomes} {t t' : List Act} {m n : ℕ}

theorem LeadsOn.delivered (h : LeadsOn t) : Delivered o t :=
  fun channel e he => Or.inl (h channel e he)

theorem Delivered.append (h : Delivered o t) (h' : Delivered o t') : Delivered o (t ++ t') :=
  fun channel e he => (List.mem_append.mp he).elim (h channel e) (h' channel e)

theorem resolves_nil : Resolves n [] :=
  ⟨Monitor.leads_nil _ _, Nat.zero_le n, fun _ ha => absurd ha List.not_mem_nil⟩

theorem Resolves.append (h : Resolves m t) (h' : Resolves n t') : Resolves (m + n) (t ++ t') := by
  refine ⟨h.leads.append h'.leads, ?_, List.forall_mem_append.mpr ⟨h.resolution, h'.resolution⟩⟩
  rw [List.countP_append]
  exact Nat.add_le_add h.bounded h'.bounded

/-- A call before actions that are none. -/
theorem Resolves.cons {a : Act} (ha : a.isResolve = true) (h : Resolves 0 t) :
    Resolves 1 (a :: t) := by
  have hevent : a.isEvent = false := by
    cases a <;> first | rfl | exact absurd ha Bool.false_ne_true
  have hresolution : a.isResolution = true := by
    cases a <;> first | rfl | exact absurd ha Bool.false_ne_true
  refine ⟨leads_cons hevent h.leads, ?_, List.forall_mem_cons.mpr ⟨hresolution, h.resolution⟩⟩
  rw [List.countP_cons, if_pos ha]
  exact Nat.add_le_add_right h.bounded 1

theorem resolves_rdmaGetCmEvent_none (channel : Ptr) :
    Resolves 0 [.rdmaGetCmEvent channel none] := by
  refine ⟨leads_rdmaGetCmEvent_none (Monitor.leads_nil _ _), Nat.le_refl 0, fun x hx => ?_⟩
  rw [List.mem_singleton.mp hx]
  rfl

theorem LeadsOn.append (h : LeadsOn t) (h' : LeadsOn t') : LeadsOn (t ++ t') :=
  fun channel e he => (List.mem_append.mp he).elim (h channel e) (h' channel e)

/-! ### One turn of a loop -/

section Loop

variable {call : ℕ → Act × ℤ} {spent : ℤ → Bool} {error resolved : CmEventType}
  {turns b k : ℕ} {s : Conn}

/-- A call, an event, so many looks at it, and its acknowledgement. -/
def turnActs (call : Act) (channel : Ptr) (event : CmEvent) (reads : ℕ) : List Act :=
  call :: .rdmaGetCmEvent channel (some event) ::
    (List.replicate reads (.readEvent event) ++ [.rdmaAckCmEvent event])

theorem resolves_turnActs {a : Act} (ha : a.isResolve = true) (channel : Ptr) (event : CmEvent)
    (reads : ℕ) : Resolves 1 (turnActs a channel event reads) := by
  have hrest : ∀ x ∈ Act.rdmaGetCmEvent channel (some event) ::
      (List.replicate reads (.readEvent event) ++ [.rdmaAckCmEvent event]),
      x.isResolution = true ∧ x.isResolve = false := by
    intro x hx
    simp only [List.mem_cons, List.mem_append, List.mem_replicate, List.not_mem_nil,
      or_false] at hx
    rcases hx with rfl | ⟨-, rfl⟩ | rfl <;> exact ⟨rfl, rfl⟩
  refine Resolves.cons ha ⟨leads_obtained reads (Monitor.leads_nil _ _), ?_,
    fun x hx => (hrest x hx).1⟩
  refine (List.countP_eq_zero.mpr fun x hx => ?_).le
  rw [(hrest x hx).2]
  exact Bool.false_ne_true

/-- How one turn of a loop goes. -/
theorem run_resolveLoop_succ (b : ℤ) : resolveLoop o call spent error resolved (turns + 1) b k s =
    if spent b then ⟨.ok none, s, []⟩
    else if (call k).2 ≠ 0 then ⟨.ok none, s, [(call k).1]⟩
    else match o.rdmaGetCmEvent k with
      | none => ⟨.ok none, s, [(call k).1, .rdmaGetCmEvent s.ctx.cmChannel none]⟩
      | some event =>
        if event.event = error then
          ⟨(resolveLoop o call spent error resolved turns (b - 1) (k + 1) s).out,
            (resolveLoop o call spent error resolved turns (b - 1) (k + 1) s).state,
            turnActs (call k).1 s.ctx.cmChannel event 1 ++
              (resolveLoop o call spent error resolved turns (b - 1) (k + 1) s).trace⟩
        else if event.event ≠ resolved then
          ⟨.ok none, s, turnActs (call k).1 s.ctx.cmChannel event 3⟩
        else ⟨.ok (some (b, k + 1)), s, turnActs (call k).1 s.ctx.cmChannel event 2⟩ := by
  rw [resolveLoop]
  split_ifs with hspent hcall
  · rfl
  · rfl
  · rcases o.rdmaGetCmEvent k with _ | event
    · rfl
    · have hget : rdmaGetCmEvent (some event) s = ⟨.ok (some event), s,
          [.rdmaGetCmEvent s.ctx.cmChannel (some event)]⟩ := rfl
      simp only [Traced.run_bind_ok (Traced.run_emit _ _), Traced.run_bind_ok hget]
      split_ifs with herror hresolved
      · simp only [Traced.run_bind_ok (Traced.run_emit _ _)]
        rfl
      · rfl
      · rfl

/-! ### The loops -/

variable {ret : ℕ → ℤ}

theorem goesThrough_zero : GoesThrough o ret error resolved k 0 ↔
    ret k = 0 ∧ (o.rdmaGetCmEvent k).map CmEvent.event = some resolved :=
  ⟨And.right, fun h => ⟨fun i hi => absurd hi (Nat.not_lt_zero i), h⟩⟩

theorem goesThrough_succ {a : ℕ} : GoesThrough o ret error resolved k (a + 1) ↔
    (ret k = 0 ∧ (o.rdmaGetCmEvent k).map CmEvent.event = some error) ∧
      GoesThrough o ret error resolved (k + 1) a := by
  have hshift : ∀ i, k + 1 + i = k + (i + 1) := fun i => by omega
  constructor
  · rintro ⟨herrors, hlast⟩
    refine ⟨herrors 0 (Nat.succ_pos a), fun i hi => ?_, ?_⟩
    · rw [hshift]
      exact herrors (i + 1) (Nat.succ_lt_succ hi)
    · rwa [hshift]
  · rintro ⟨hfirst, herrors, hlast⟩
    refine ⟨fun i hi => ?_, ?_⟩
    · cases i with
      | zero => exact hfirst
      | succ i =>
        rw [← hshift]
        exact herrors i (Nat.lt_of_succ_lt_succ hi)
    · rwa [← hshift]

/-- What goes through begins with a call that succeeds, and an event of one of the two
kinds. -/
theorem GoesThrough.first {a : ℕ} (h : GoesThrough o ret error resolved k a) : ret k = 0 ∧
    ∃ event, o.rdmaGetCmEvent k = some event ∧ (event.event = error ∨ event.event = resolved) := by
  cases a with
  | zero =>
    obtain ⟨hret, hkind⟩ := goesThrough_zero.mp h
    obtain ⟨event, hgot, hevent⟩ := Option.map_eq_some_iff.mp hkind
    exact ⟨hret, event, hgot, Or.inr hevent⟩
  | succ a =>
    obtain ⟨⟨hret, hkind⟩, -⟩ := goesThrough_succ.mp h
    obtain ⟨event, hgot, hevent⟩ := Option.map_eq_some_iff.mp hkind
    exact ⟨hret, event, hgot, Or.inl hevent⟩

/-- **How a loop ends**, with `b` retries left after `k` events. -/
inductive LoopRan (o : ClientOutcomes) (ret : ℕ → ℤ) (error resolved : CmEventType) (b k : ℕ) :
    Option (ℤ × ℕ) → List Act → Prop
  /-- The function fails: what leads on is not what is delivered. -/
  | failed {t : List Act} (h : Resolves b t)
      (hno : ∀ a < b, ¬GoesThrough o ret error resolved k a) (hdelivered : Delivered o t) :
      LoopRan o ret error resolved b k none t
  /-- The loop is left after some errors, each of which has cost a retry. -/
  | through {t : List Act} (a : ℕ) (ha : a < b) (h : Resolves (a + 1) t)
      (hthrough : GoesThrough o ret error resolved k a) (hleads : LeadsOn t) :
      LoopRan o ret error resolved b k (some ((b - a : ℕ), k + a + 1)) t

/-- The turns whose event is of a kind that leads on. -/
theorem leadsOn_turnActs {a : Act} (ha : a.isResolve = true) {channel : Ptr} {event : CmEvent}
    (hkind : ofResolution event.event = true) (reads : ℕ) :
    LeadsOn (turnActs a channel event reads) := by
  intro ch e he
  simp only [turnActs, List.mem_cons, List.mem_append, List.mem_replicate, List.not_mem_nil,
    or_false] at he
  rcases he with rfl | he | ⟨-, he⟩ | he
  · cases ha
  · cases he
    exact hkind
  · cases he
  · cases he

/-- The turns whose event is delivered. -/
theorem delivered_turnActs {a : Act} (ha : a.isResolve = true) {channel : Ptr} {event : CmEvent}
    (hgot : o.rdmaGetCmEvent k = some event) (reads : ℕ) :
    Delivered o (turnActs a channel event reads) := by
  intro ch e he
  simp only [turnActs, List.mem_cons, List.mem_append, List.mem_replicate, List.not_mem_nil,
    or_false] at he
  rcases he with rfl | he | ⟨-, he⟩ | he
  · cases ha
  · cases he
    exact Or.inr ⟨k, hgot⟩
  · cases he
  · cases he

/-- A call that fails, or whose event does, obtains none. -/
theorem delivered_of_none {a : Act} (ha : a.isResolve = true) (channel : Ptr) :
    Delivered o [a] ∧ Delivered o [a, .rdmaGetCmEvent channel none] := by
  constructor
  all_goals
    intro ch e he
    simp only [List.mem_cons, List.not_mem_nil, or_false, reduceCtorEq, Act.rdmaGetCmEvent.injEq,
      and_false] at he
    rw [← he] at ha
    cases ha

/-- **Either loop ends** within one turn more than there are retries. The induction is on the
turns granted; an error event leaves one turn and one retry less. -/
theorem run_resolveLoop (hspent : ∀ n : ℕ, spent n = true ↔ n = 0)
    (hcall : ∀ k, (call k).1.isResolve = true) (hret : ∀ k, (call k).2 = ret k)
    (herror : ofResolution error = true) (hresolved : ofResolution resolved = true)
    (hne : resolved ≠ error) (hturns : b < turns) :
    ∃ r t, resolveLoop o call spent error resolved turns b k s = ⟨.ok r, s, t⟩ ∧
      LoopRan o ret error resolved b k r t := by
  induction turns generalizing b k with
  | zero => exact absurd hturns (Nat.not_lt_zero b)
  | succ turns ih =>
    rw [run_resolveLoop_succ, hret]
    by_cases hzero : b = 0
    · rw [if_pos ((hspent b).mpr hzero)]
      refine ⟨none, [], rfl, LoopRan.failed resolves_nil (fun a ha => ?_) fun _ _ he => ?_⟩
      · omega
      · exact absurd he List.not_mem_nil
    rw [if_neg fun hc => hzero ((hspent b).mp hc)]
    -- there is a retry left, so the call is made
    have hpos : 1 ≤ b := Nat.one_le_iff_ne_zero.mpr hzero
    have hle : ∀ {t}, Resolves 1 t → Resolves b t := fun h =>
      ⟨h.leads, h.bounded.trans hpos, h.resolution⟩
    by_cases hok : ret k = 0
    swap
    · rw [if_pos hok]
      exact ⟨none, _, rfl, LoopRan.failed (hle (Resolves.cons (hcall k) resolves_nil))
        (fun a _ hc => hok hc.first.1) (delivered_of_none (hcall k) none).1⟩
    rw [if_neg fun hc => hc hok]
    rcases hgot : o.rdmaGetCmEvent k with _ | event
    · refine ⟨none, _, rfl, LoopRan.failed
        (hle (Resolves.cons (hcall k) (resolves_rdmaGetCmEvent_none _))) (fun a _ hc => ?_)
        (delivered_of_none (hcall k) _).2⟩
      obtain ⟨-, event, hevent, -⟩ := hc.first
      rw [hgot] at hevent
      cases hevent
    dsimp only
    -- an error takes the loop round again, with one retry less
    by_cases hkind : event.event = error
    · rw [if_pos hkind]
      obtain ⟨b, rfl⟩ : ∃ b', b = b' + 1 := ⟨b - 1, by omega⟩
      have hcast : ((b + 1 : ℕ) : ℤ) - 1 = (b : ℕ) := by omega
      obtain ⟨r, t, hrun, hran⟩ := ih (b := b) (k := k + 1) (by omega)
      rw [hcast, hrun]
      refine ⟨r, _, rfl, ?_⟩
      have hturn := resolves_turnActs (hcall k) s.ctx.cmChannel event 1
      have hfirst : ret k = 0 ∧ (o.rdmaGetCmEvent k).map CmEvent.event = some error :=
        ⟨hok, by rw [hgot, Option.map_some, hkind]⟩
      cases hran with
      | failed h hno hdelivered =>
        refine LoopRan.failed ?_ (fun a ha hc => ?_)
          ((delivered_turnActs (hcall k) hgot 1).append hdelivered)
        · rw [Nat.add_comm b 1]
          exact hturn.append h
        · cases a with
          | zero =>
            have hsame := (goesThrough_zero.mp hc).2
            rw [hfirst.2] at hsame
            exact hne (Option.some.inj hsame).symm
          | succ a => exact hno a (by omega) (goesThrough_succ.mp hc).2
      | through a ha h hthrough hleads =>
        have hcount : (b - a : ℕ) = b + 1 - (a + 1) := by omega
        have hnext : k + 1 + a + 1 = k + (a + 1) + 1 := by omega
        rw [hcount, hnext]
        refine LoopRan.through (a + 1) (by omega) ?_ (goesThrough_succ.mpr ⟨hfirst, hthrough⟩)
          ((leadsOn_turnActs (hcall k) (by rwa [hkind]) 1).append hleads)
        rw [Nat.add_comm (a + 1) 1]
        exact hturn.append h
    rw [if_neg hkind]
    -- anything but an error ends it
    by_cases hlast : event.event = resolved
    · rw [if_neg fun hc => hc hlast]
      refine ⟨_, _, rfl, LoopRan.through 0 hpos (resolves_turnActs (hcall k) _ event 2)
        (goesThrough_zero.mpr ⟨hok, ?_⟩) (leadsOn_turnActs (hcall k) (by rwa [hlast]) 2)⟩
      rw [hgot, Option.map_some, hlast]
    · rw [if_pos hlast]
      refine ⟨none, _, rfl, LoopRan.failed (hle (resolves_turnActs (hcall k) _ event 3))
        (fun a _ hc => ?_) (delivered_turnActs (hcall k) hgot 3)⟩
      obtain ⟨-, event', hevent, hor⟩ := hc.first
      rw [hgot] at hevent
      cases hevent
      exact hor.elim hkind hlast

theorem run_resolveAddr (id : ℕ) (sin : SockAddr) (hturns : b < turns) :
    ∃ r t, resolveAddr o id sin turns b k s = ⟨.ok r, s, t⟩ ∧
      LoopRan o o.rdmaResolveAddr .addrError .addrResolved b k r t :=
  run_resolveLoop (fun n => by simp) (fun _ => rfl) (fun _ => rfl) rfl rfl (by decide) hturns

theorem run_resolveRoute (id : ℕ) (hturns : b < turns) :
    ∃ r t, resolveRoute o id turns b k s = ⟨.ok r, s, t⟩ ∧
      LoopRan o o.rdmaResolveRoute .routeError .routeResolved b k r t :=
  run_resolveLoop (fun n => by simp) (fun _ => rfl) (fun _ => rfl) rfl rfl (by decide) hturns

/-- It is settled how many errors there are before what a loop waits for. -/
theorem goesThrough_unique (hne : error ≠ resolved) {a a' : ℕ}
    (h : GoesThrough o ret error resolved k a) (h' : GoesThrough o ret error resolved k a') :
    a = a' := by
  have hle : ∀ {a a' : ℕ}, GoesThrough o ret error resolved k a →
      GoesThrough o ret error resolved k a' → a ≤ a' := by
    intro a a' h h'
    -- a shorter run would end at what is an error of the longer
    by_contra hlt
    have hkind := (h.1 a' (by omega)).2
    rw [h'.2.2] at hkind
    exact hne (Option.some.inj hkind).symm
  exact Nat.le_antisymm (hle h h') (hle h' h)

end Loop

/-! ### The whole resolution -/

variable {numOfRetries turns : ℕ} {s : Conn}

/-- What `check_add_port` has found is looked at. -/
theorem run_lookUp (passive : Bool) (found : Option AddrInfo) (s : Conn) :
    (¬Found found ∧ lookUp passive found s = ⟨.ok none, s,
      [.checkAddPort s.param.port s.param.servername passive found]⟩) ∨
    ∃ res, found = some res ∧ res.aiFamily = pfInet ∧ lookUp passive found s =
      ⟨.ok (some (res, ⟨res.aiAddr, toUInt16 s.param.port⟩)), s,
        [.checkAddPort s.param.port s.param.servername passive found]⟩ := by
  rcases found with _ | res
  · refine Or.inl ⟨?_, rfl⟩
    rintro ⟨res, hres, -⟩
    cases hres
  · have hrun : lookUp passive (some res) s =
        ⟨.ok (if res.aiFamily ≠ pfInet then none else
          some (res, ⟨res.aiAddr, toUInt16 s.param.port⟩)), s,
          [.checkAddPort s.param.port s.param.servername passive (some res)]⟩ := by
      rw [lookUp, Traced.run_bind_ok (run_userParam (s := s)),
        Traced.run_bind_ok (Traced.run_emit _ _)]
      dsimp only
      split_ifs <;> rfl
    by_cases hfamily : res.aiFamily = pfInet
    · rw [if_neg fun hc => hc hfamily] at hrun
      exact Or.inr ⟨res, rfl, hfamily, hrun⟩
    · rw [if_pos hfamily] at hrun
      refine Or.inl ⟨?_, hrun⟩
      rintro ⟨res', hres, hinet⟩
      cases hres
      exact hfamily hinet

/-- **How the resolution ends.** -/
inductive ResolveRan (numOfRetries : ℕ) (o : ClientOutcomes) : Option ℕ → List Act → Prop
  | failed {t : List Act} (h : Resolves (numOfRetries + 1) t)
      (hno : ∀ k, ¬ResolvedAt numOfRetries o k) (hdelivered : Delivered o t) :
      ResolveRan numOfRetries o none t
  | done {t : List Act} (k : ℕ) (h : Resolves (numOfRetries + 1) t)
      (hat : ResolvedAt numOfRetries o k) (hleads : LeadsOn t) :
      ResolveRan numOfRetries o (some k) t

theorem Resolves.mono (h : Resolves m t) (hle : m ≤ n) : Resolves n t :=
  ⟨h.leads, h.bounded.trans hle, h.resolution⟩

/-- **The resolution comes to an end**, and tells whether it has succeeded. -/
theorem run_resolve (hturns : numOfRetries < turns) :
    ∃ r t, resolve turns numOfRetries o s = ⟨.ok r, s, t⟩ ∧ ResolveRan numOfRetries o r t := by
  have hlook : Resolves 0 [.checkAddPort s.param.port s.param.servername false o.checkAddPort] :=
    ⟨leads_cons rfl (Monitor.leads_nil _ _), Nat.le_refl 0, fun x hx => by
      rw [List.mem_singleton.mp hx]
      rfl⟩
  have hlookLeads : LeadsOn
      [.checkAddPort s.param.port s.param.servername false o.checkAddPort] := by
    intro channel e he
    cases List.mem_singleton.mp he
  rw [resolve]
  rcases run_lookUp false o.checkAddPort s with ⟨hno, hrun⟩ | ⟨res, hfound, hfamily, hrun⟩
  · rw [Traced.run_bind_ok hrun]
    exact ⟨none, _, rfl, ResolveRan.failed (hlook.mono (Nat.zero_le _)) (fun k hc => hno hc.1)
      hlookLeads.delivered⟩
  rw [Traced.run_bind_ok hrun]
  obtain ⟨r, t, haddr, hran⟩ := run_resolveAddr (o := o) (k := 0) (s := s) s.ctx.cmId
    ⟨res.aiAddr, toUInt16 s.param.port⟩ hturns
  dsimp only
  rw [Traced.run_bind_ok (run_context (s := s)), Traced.run_bind_ok haddr]
  cases hran with
  | failed h hno hdelivered =>
    refine ⟨none, _ ++ ([] ++ (t ++ [])), rfl, ResolveRan.failed ?_ ?_ ?_⟩
    · rw [List.nil_append, List.append_nil]
      exact (hlook.append h).mono (by omega)
    · rintro k ⟨-, a, r, hlt, -, hthrough, -⟩
      exact hno a (by omega) hthrough
    · rw [List.nil_append, List.append_nil]
      exact hlookLeads.delivered.append hdelivered
  | through a ha h hthrough hleads =>
    dsimp only
    -- the second loop has the turns it needs, as it has fewer retries
    have hleft : numOfRetries - a < turns := by omega
    obtain ⟨r, t', hroute, hran⟩ := run_resolveRoute (o := o) (k := 0 + a + 1) (s := s)
      s.ctx.cmId hleft
    rw [Traced.run_bind_ok hroute]
    cases hran with
    | failed h' hno hdelivered =>
      refine ⟨none, _ ++ ([] ++ (t ++ (t' ++ []))), rfl, ResolveRan.failed ?_ ?_ ?_⟩
      · rw [List.nil_append, List.append_nil]
        exact (hlook.append (h.append h')).mono (by omega)
      · rintro k ⟨-, a', r, hlt, -, hthrough', hroute'⟩
        obtain rfl := goesThrough_unique (by decide) hthrough hthrough'
        rw [Nat.zero_add] at hno
        exact hno r (by omega) hroute'
      · rw [List.nil_append, List.append_nil]
        exact hlookLeads.delivered.append (hleads.delivered.append hdelivered)
    | through r hr h' hthrough' hleads' =>
      refine ⟨_, _ ++ ([] ++ (t ++ (t' ++ []))), rfl, ResolveRan.done _ ?_
        ⟨⟨res, hfound, hfamily⟩, a, r, ?_⟩ ?_⟩
      · rw [List.nil_append, List.append_nil]
        exact (hlook.append (h.append h')).mono (by omega)
      · rw [Nat.zero_add] at hthrough'
        exact ⟨by omega, by omega, hthrough, hthrough'⟩
      · rw [List.nil_append, List.append_nil]
        exact hlookLeads.append (hleads.append hleads')

end Connection
