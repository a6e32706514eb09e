import RdmaCpp.Connection.ClientRan

/-!
# A connection after some that failed

`retry_rdma_connect` makes attempts until one succeeds, each with resources of its own. What
they share are the parameters, so an attempt is as good as a first one when those before it
have left the parameters alone.

Of all the exits by which an attempt can fail one does not: the failure of `ctx_init`, which
leaves `work_rdma_cm` at `ON`. The next attempt takes that for the value of the caller, and
no longer posts the receive that its caller has asked for
(`Connection.balanced_and_asGoodAsFirst_iff`).
-/

namespace Connection

/-! ### The attempts -/

/-- The first `k` attempts. -/
def attempts (numOfRetries : ℕ) (o : ℕ → AttemptOutcomes) (k : ℕ) : ConnectionM (Option ℤ) :=
  Traced.forLoop (fun i => attempt numOfRetries (o i)) 0 k

/-- **The function succeeds at attempt `k`**: the attempts before it go on, from `s` to `s₁`,
and it succeeds, from `s₁` to `s₂`. -/
structure SucceedsAt (numOfRetries : ℕ) (o : ℕ → AttemptOutcomes) (s : Conn) (k : ℕ)
    (s₁ : Conn) (t₁ : List Act) (s₂ : Conn) (t₂ : List Act) : Prop where
  lt : k < maxRetries
  earlier : attempts numOfRetries o k s = ⟨.ok none, s₁, t₁⟩
  last : attempt numOfRetries (o k) s₁ = ⟨.ok (some SUCCESS), s₂, t₂⟩

/-- **The attempt is as good as a first one**: but for the creation of its resources, its
actions are those of a single `rdma_client_connect` with the parameters of the caller, and
these are what it finds. -/
structure AsGoodAsFirst (numOfRetries : ℕ) (o : AttemptOutcomes) (s s₁ : Conn)
    (t₂ : List Act) : Prop where
  calls : t₂.tail = (rdmaClientConnect numOfRetries o.client ⟨s.param, o.built s.param⟩).trace
  param : s₁.param = s.param

/-- A creation of resources that succeeds. -/
def Act.isCreated : Act → Bool
  | .createRdmaResources _ ret => ret = 0
  | _ => false

/-- A destruction of resources that succeeds. -/
def Act.isDestroyed : Act → Bool
  | .destroyRdmaResources _ ret => ret = 0
  | _ => false

/-- **The calls balance**: a success leaves one creation that has not been taken back, and
attempts that have all failed leave none if every destruction succeeds. -/
def Balanced (ret : ℤ) (t : List Act) : Prop :=
  (ret = SUCCESS → t.countP Act.isCreated = t.countP Act.isDestroyed + 1) ∧
  (ret ≠ SUCCESS → (∀ user ret, .destroyRdmaResources user ret ∈ t → ret = 0) →
    t.countP Act.isCreated = t.countP Act.isDestroyed)

/-- **The attempt fails in `ctx_init`.** -/
def CtxInitFails (numOfRetries : ℕ) (o : ClientOutcomes) : Prop :=
  (∃ k, ResolvedAt numOfRetries o k) ∧ o.ctxInit ≠ 0

variable {numOfRetries k : ℕ} {o : ClientOutcomes} {s s' : Conn} {ret : ℤ} {t : List Act}

/-! ### One attempt -/

/-- **A failure leaves the parameters alone**, unless it is one of `ctx_init`. -/
theorem ClientRan.param_eq (h : ClientRan numOfRetries o s ret s' t) (hret : ret ≠ SUCCESS) :
    (CtxInitFails numOfRetries o ∧ s'.param = s.param.on) ∨
      (¬CtxInitFails numOfRetries o ∧ s'.param = s.param) := by
  cases h with
  | unresolved h hno => exact Or.inr ⟨fun ⟨⟨k, hk⟩, _⟩ => hno k hk, rfl⟩
  | noInit h hat hfail => exact Or.inl ⟨⟨⟨_, hat⟩, hfail⟩, rfl⟩
  | ran h hat hleads hok hran =>
    refine Or.inr ⟨fun hc => hc.2 hok, ?_⟩
    cases hran with
    | noRecv | noConnect | noEvent | unexpected => rfl
    | done | doneUd => exact absurd rfl hret

/-- The action neither creates nor destroys resources. -/
def Act.isInner : Act → Bool
  | .createRdmaResources .. | .destroyRdmaResources .. => false
  | _ => true

/-- The client neither creates nor destroys resources. -/
theorem ClientRan.inner (h : ClientRan numOfRetries o s ret s' t) :
    ∀ a ∈ t, a.isInner = true := by
  have hresolves : ∀ {n : ℕ} {t : List Act}, Resolves n t → ∀ a ∈ t, a.isInner = true := by
    intro n t h a ha
    have hresolution := h.resolution a ha
    cases a <;> first | rfl | exact absurd hresolution Bool.false_ne_true
  have hconnect : ∀ s, (connectActs o s).all Act.isInner = true := by
    intro s
    rw [connectActs, recvActs]
    split_ifs <;> rfl
  cases h with
  | unresolved h => exact hresolves h
  | noInit h => exact List.forall_mem_append.mpr ⟨hresolves h, List.all_eq_true.mp rfl⟩
  | ran h hat hleads hok hran =>
    refine List.forall_mem_append.mpr ⟨hresolves h, List.forall_mem_cons.mpr ⟨rfl, ?_⟩⟩
    cases hran with
    | noRecv =>
      exact fun a ha => List.all_eq_true.mp (hconnect _) a (List.mem_append_left _ ha)
    | noConnect => exact List.all_eq_true.mp (hconnect _)
    | noEvent | unexpected | done | doneUd =>
      exact List.forall_mem_append.mpr ⟨List.all_eq_true.mp (hconnect _), List.all_eq_true.mp rfl⟩

/-- Such actions do not count. -/
theorem countP_inner (h : ∀ a ∈ t, a.isInner = true) :
    t.countP Act.isCreated = 0 ∧ t.countP Act.isDestroyed = 0 := by
  constructor
  · refine List.countP_eq_zero.mpr fun a ha hc => ?_
    have hinner := h a ha
    cases a <;> first | exact absurd hc Bool.false_ne_true | exact absurd hinner Bool.false_ne_true
  · refine List.countP_eq_zero.mpr fun a ha hc => ?_
    have hinner := h a ha
    cases a <;> first | exact absurd hc Bool.false_ne_true | exact absurd hinner Bool.false_ne_true

variable {a : AttemptOutcomes}

/-- The state in which an attempt connects. -/
def Conn.rebuilt (a : AttemptOutcomes) (s : Conn) : Conn := ⟨s.param, a.built s.param⟩

/-- **How an attempt ends.** -/
inductive AttemptRan (numOfRetries : ℕ) (a : AttemptOutcomes) (s : Conn) :
    Option ℤ → Conn → List Act → Prop
  | noResources (hfail : a.createRdmaResources ≠ 0) :
      AttemptRan numOfRetries a s (some FAILURE) (s.rebuilt a)
        [.createRdmaResources s.param a.createRdmaResources]
  | succeeded {s' : Conn} {t : List Act} (hcreate : a.createRdmaResources = 0)
      (hrun : rdmaClientConnect numOfRetries a.client (s.rebuilt a) = ⟨.ok SUCCESS, s', t⟩) :
      AttemptRan numOfRetries a s (some SUCCESS) s'
        (.createRdmaResources s.param a.createRdmaResources :: t)
  | undestroyed {s' : Conn} {ret : ℤ} {t : List Act} (hcreate : a.createRdmaResources = 0)
      (hran : ClientRan numOfRetries a.client (s.rebuilt a) ret s' t) (hret : ret ≠ SUCCESS)
      (hfail : a.destroyRdmaResources ≠ 0) :
      AttemptRan numOfRetries a s (some FAILURE) s'
        (.createRdmaResources s.param a.createRdmaResources ::
          (t ++ [.destroyRdmaResources s'.param a.destroyRdmaResources]))
  | again {s' : Conn} {ret : ℤ} {t : List Act} (hcreate : a.createRdmaResources = 0)
      (hran : ClientRan numOfRetries a.client (s.rebuilt a) ret s' t) (hret : ret ≠ SUCCESS)
      (hdestroy : a.destroyRdmaResources = 0) :
      AttemptRan numOfRetries a s none s'
        (.createRdmaResources s.param a.createRdmaResources ::
          (t ++ [.destroyRdmaResources s'.param a.destroyRdmaResources, .usleep delay]))

theorem post_attempt (numOfRetries : ℕ) (a : AttemptOutcomes) (s : Conn) :
    Traced.Post (attempt numOfRetries a) s (AttemptRan numOfRetries a s) (fun _ _ _ => True) := by
  rw [attempt]
  simp only [Traced.post_bind, post_userParam, Traced.post_emit, post_setCtx, List.nil_append]
  by_cases hcreate : a.createRdmaResources = 0
  swap
  · rw [if_pos hcreate]
    exact AttemptRan.noResources hcreate
  rw [if_neg fun hc => hc hcreate, Traced.post_bind]
  change Traced.Post (rdmaClientConnect numOfRetries a.client) (s.rebuilt a) _ _
  have hpost := post_rdmaClientConnect numOfRetries a.client (s.rebuilt a)
  rcases hrun : rdmaClientConnect numOfRetries a.client (s.rebuilt a) with ⟨e | ret, s', t⟩
  · exact (Traced.post_of_stop hrun).mpr trivial
  have hran := hpost.of_ok hrun
  rw [Traced.post_of_run hrun]
  by_cases hret : ret = SUCCESS
  · rw [if_pos hret, Traced.post_pure, List.append_nil]
    rw [hret] at hrun
    exact AttemptRan.succeeded hcreate hrun
  rw [if_neg hret]
  simp only [Traced.post_bind, post_userParam, Traced.post_emit, List.nil_append]
  by_cases hdestroy : a.destroyRdmaResources = 0
  swap
  · rw [if_pos hdestroy]
    exact AttemptRan.undestroyed hcreate hran hret hdestroy
  rw [if_neg fun hc => hc hdestroy]
  exact AttemptRan.again hcreate hran hret hdestroy

/-! ### The attempts before -/

variable {os : ℕ → AttemptOutcomes}

/-- **What failed attempts leave**, `k` of them: the parameters of the caller, but for
`work_rdma_cm` if one has failed in `ctx_init`; and as many creations as destructions. -/
structure Left (numOfRetries : ℕ) (os : ℕ → AttemptOutcomes) (s : Conn) (k : ℕ) (s₁ : Conn)
    (t : List Act) : Prop where
  param : (∃ j < k, CtxInitFails numOfRetries (os j).client) ∧ s₁.param = s.param.on ∨
    (∀ j < k, ¬CtxInitFails numOfRetries (os j).client) ∧ s₁.param = s.param
  balanced : t.countP Act.isCreated = t.countP Act.isDestroyed

/-- One more attempt that fails. -/
theorem Left.succ {s₁ : Conn} {t' : List Act} (h : Left numOfRetries os s k s₁ t)
    (hran : AttemptRan numOfRetries (os k) s₁ none s' t') :
    Left numOfRetries os s (k + 1) s' (t ++ t') := by
  cases hran with
  | again hcreate hran hret hdestroy =>
    refine ⟨?_, ?_⟩
    · rcases hran.param_eq hret with ⟨hfails, hparam⟩ | ⟨hno, hparam⟩
      · refine Or.inl ⟨⟨k, Nat.lt_succ_self k, hfails⟩, hparam.trans ?_⟩
        change s₁.param.on = s.param.on
        rcases h.param with ⟨-, hon⟩ | ⟨-, hsame⟩
        · rw [hon]
          rfl
        · rw [hsame]
      · have hsame : s'.param = s₁.param := hparam
        rw [hsame]
        refine h.param.imp (And.imp_left ?_) (And.imp_left ?_)
        · rintro ⟨j, hj, hfails⟩
          exact ⟨j, Nat.lt_succ_of_lt hj, hfails⟩
        · intro hall j hj
          rcases Nat.lt_succ_iff_lt_or_eq.mp hj with hlt | rfl
          · exact hall j hlt
          · exact hno
    · obtain ⟨hcreated, hdestroyed⟩ := countP_inner hran.inner
      simp only [List.countP_append, List.countP_cons, List.countP_nil, h.balanced, hcreated,
        hdestroyed, Act.isCreated, Act.isDestroyed, hcreate, hdestroy]
      simp

/-- An attempt with which the function returns. -/
theorem Left.ends {s₁ : Conn} {t' : List Act} (h : Left numOfRetries os s k s₁ t)
    (hran : AttemptRan numOfRetries (os k) s₁ (some ret) s' t') : Balanced ret (t ++ t') := by
  have hfailure : FAILURE ≠ SUCCESS := by decide
  cases hran with
  | noResources hfail =>
    refine ⟨fun hc => absurd hc hfailure, fun _ _ => ?_⟩
    simp only [List.countP_append, List.countP_cons, List.countP_nil, h.balanced, Act.isCreated,
      Act.isDestroyed, hfail]
    simp
  | succeeded hcreate hrun =>
    have hinner := ((post_rdmaClientConnect _ _ _).of_ok hrun).inner
    obtain ⟨hcreated, hdestroyed⟩ := countP_inner hinner
    refine ⟨fun _ => ?_, fun hc => absurd rfl hc⟩
    simp only [List.countP_append, List.countP_cons, h.balanced, hcreated, hdestroyed,
      Act.isCreated, Act.isDestroyed, hcreate]
    simp
  | @undestroyed s' ret t₂ hcreate hran hret hfail =>
    refine ⟨fun hc => absurd hc hfailure, fun _ hall => absurd ?_ hfail⟩
    refine hall s'.param _ (List.mem_append_right _ (List.mem_cons_of_mem _ ?_))
    exact List.mem_append_right _ List.mem_cons_self

theorem post_attempts (numOfRetries : ℕ) (os : ℕ → AttemptOutcomes) (k : ℕ) (s : Conn) :
    Traced.Post (attempts numOfRetries os k) s
      (fun r s' t => match r with
        | none => Left numOfRetries os s k s' t
        | some ret => Balanced ret t) (fun _ _ _ => True) := by
  refine Traced.post_forLoop (Left numOfRetries os s) ?_ ?_ ?_
  · exact ⟨Or.inr ⟨fun j hj => absurd hj (Nat.not_lt_zero j), rfl⟩, rfl⟩
  · intro j s₁ t _ _ hleft
    refine (post_attempt numOfRetries (os j) s₁).mono ?_ fun _ _ _ h => h
    rintro (_ | ret) s' t' hran
    · exact hleft.succ hran
    · exact hleft.ends hran
  · intro s' t hleft
    rwa [Nat.zero_add] at hleft

/-! ### The whole function -/

/-- How the function returns: with what its loop is left with, or else with a failure. -/
theorem run_retryRdmaConnect {s₁ : Conn} {r : Option ℤ}
    (h : attempts numOfRetries os maxRetries s = ⟨.ok r, s₁, t⟩) :
    retryRdmaConnect numOfRetries os s = ⟨.ok (r.getD FAILURE), s₁, t⟩ := by
  have hloop : Traced.forLoop (fun i => attempt numOfRetries (os i)) 0 maxRetries s =
      ⟨.ok r, s₁, t⟩ := h
  rw [retryRdmaConnect, Traced.run_bind_ok hloop]
  cases r with
  | none => simp only [Traced.run_pure, List.append_nil, Option.getD_none]
  | some ret => simp only [Traced.run_pure, List.append_nil, Option.getD_some]

/-- It does not return where its loop stops. -/
theorem exists_of_retryRdmaConnect (h : retryRdmaConnect numOfRetries os s = ⟨.ok ret, s', t⟩) :
    ∃ r, attempts numOfRetries os maxRetries s = ⟨.ok r, s', t⟩ ∧ r.getD FAILURE = ret := by
  rcases hrun : attempts numOfRetries os maxRetries s with ⟨e | r, s₁, t₁⟩
  · have hloop : Traced.forLoop (fun i => attempt numOfRetries (os i)) 0 maxRetries s =
        ⟨.error e, s₁, t₁⟩ := hrun
    rw [retryRdmaConnect, Traced.run_bind_error hloop] at h
    cases h
  · rw [run_retryRdmaConnect hrun] at h
    cases h
    exact ⟨r, rfl, rfl⟩

/-- **A success is one of some attempt.** -/
theorem exists_succeedsAt (h : retryRdmaConnect numOfRetries os s = ⟨.ok SUCCESS, s', t⟩) :
    ∃ k s₁ t₁ t₂, SucceedsAt numOfRetries os s k s₁ t₁ s' t₂ ∧ t = t₁ ++ t₂ := by
  obtain ⟨r, hrun, hret⟩ := exists_of_retryRdmaConnect h
  cases r with
  | none => exact absurd hret (by decide)
  | some ret =>
    obtain rfl : ret = SUCCESS := hret
    obtain ⟨k, hk, s₁, t₁, t₂, hearlier, hlast, ht⟩ := Traced.exists_of_forLoop_some hrun
    rw [Nat.zero_add] at hlast
    exact ⟨k, s₁, t₁, t₂, ⟨hk, hearlier, hlast⟩, ht⟩

/-- **An attempt is as good as a first one** exactly when those before it have left the
parameters alone. -/
theorem SucceedsAt.asGoodAsFirst_iff {s₁ : Conn} {t₁ t₂ : List Act}
    (h : SucceedsAt numOfRetries os s k s₁ t₁ s' t₂) :
    AsGoodAsFirst numOfRetries (os k) s s₁ t₂ ↔
      s.param.workRdmaCm = ON ∨ ∀ j < k, ¬CtxInitFails numOfRetries (os j).client := by
  have hleft := (post_attempts numOfRetries os k s).of_ok h.earlier
  constructor
  · intro hgood
    rcases hleft.param with ⟨-, hon⟩ | ⟨hno, -⟩
    · refine Or.inl ?_
      have hsame : s.param.on = s.param := hon.symm.trans hgood.param
      exact (congrArg PerftestParameters.workRdmaCm hsame).symm
    · exact Or.inr hno
  · intro hcond
    -- what the failed attempts may have left is `ON`, which it was before
    have hparam : s₁.param = s.param := by
      rcases hleft.param with ⟨⟨j, hj, hfails⟩, hon⟩ | ⟨-, hsame⟩
      · rcases hcond with hwork | hno
        · rw [hon, PerftestParameters.on, ← hwork]
        · exact absurd hfails (hno j hj)
      · exact hsame
    refine ⟨?_, hparam⟩
    cases (post_attempt numOfRetries (os k) s₁).of_ok h.last with
    | succeeded hcreate hrun =>
      rw [Conn.rebuilt, hparam] at hrun
      rw [hrun]
      rfl

/-- **What retrying achieves**: the creations and destructions balance always, and the attempt
that succeeds is as good as a first one exactly when `work_rdma_cm` was `ON` from the start
or no attempt before it has failed in `ctx_init`. -/
theorem balanced_and_asGoodAsFirst_iff (numOfRetries : ℕ) (os : ℕ → AttemptOutcomes) (s : Conn) :
    (∀ ret s' t, retryRdmaConnect numOfRetries os s = ⟨.ok ret, s', t⟩ → Balanced ret t) ∧
    ∀ s' t, retryRdmaConnect numOfRetries os s = ⟨.ok SUCCESS, s', t⟩ →
      ∃ k s₁ t₁ t₂, SucceedsAt numOfRetries os s k s₁ t₁ s' t₂ ∧ t = t₁ ++ t₂ ∧
        (AsGoodAsFirst numOfRetries (os k) s s₁ t₂ ↔
          s.param.workRdmaCm = ON ∨ ∀ j < k, ¬CtxInitFails numOfRetries (os j).client) := by
  constructor
  · intro ret s' t h
    obtain ⟨r, hrun, hret⟩ := exists_of_retryRdmaConnect h
    have hpost := (post_attempts numOfRetries os maxRetries s).of_ok hrun
    cases r with
    | none =>
      obtain rfl : FAILURE = ret := hret
      exact ⟨fun hc => absurd hc (by decide), fun _ _ => hpost.balanced⟩
    | some ret' =>
      obtain rfl : ret' = ret := hret
      exact hpost
  · intro s' t h
    obtain ⟨k, s₁, t₁, t₂, hsucceeds, ht⟩ := exists_succeedsAt h
    exact ⟨k, s₁, t₁, t₂, hsucceeds, ht, hsucceeds.asGoodAsFirst_iff⟩

/-- Attempts of which the first fails in `ctx_init`. -/
def Sample.flaky (i : ℕ) : AttemptOutcomes where
  createRdmaResources := 0
  built _ := Sample.ctx
  client := { Sample.client with ctxInit := if i = 0 then 1 else 0 }
  destroyRdmaResources := 0

/-- **The second attempt posts no receive**, which the first one of its caller does. -/
theorem not_asGoodAsFirst_of_flaky : ∃ s₁ t₁ s₂ t₂,
    retryRdmaConnect 2 Sample.flaky ⟨Sample.user, Sample.ctx⟩ = ⟨.ok SUCCESS, s₂, t₁ ++ t₂⟩ ∧
      SucceedsAt 2 Sample.flaky ⟨Sample.user, Sample.ctx⟩ 1 s₁ t₁ s₂ t₂ ∧
        ¬AsGoodAsFirst 2 (Sample.flaky 1) ⟨Sample.user, Sample.ctx⟩ s₁ t₂ := by
  refine ⟨_, _, _, _, ?_, ⟨by decide, rfl, rfl⟩, fun hgood => ?_⟩
  · rfl
  have hmem : .postOneRecvWqe 0 ∈ (rdmaClientConnect 2 (Sample.flaky 1).client
      ⟨Sample.user, (Sample.flaky 1).built Sample.user⟩).trace := by decide
  rw [← hgood.calls] at hmem
  revert hmem
  decide

end Connection
