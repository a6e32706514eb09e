import RdmaCpp.Transport.Books

/-!
# What a teardown leaves behind

A teardown that follows a successful creation should leave nothing of what has been
acquired since the last teardown. It never does: `fs_rdma_teardown` has no
statement that closes the device context, and only a creation that *fails* closes
the one it opened. So since the last teardown one device context has been opened
for every creation that succeeded, and they are all still open
(`Transport.context_left_of_teardown`).

The accounts of a run (`Transport.account`) are the resources acquired since the last
teardown and not released yet, and whether a creation has succeeded since. The proof
only counts device contexts, along stretches without a teardown
(`Transport.count_account`).
-/

namespace Transport

/-! ### The accounts -/

/-- The accounts after one more action: they are closed when a teardown returns. -/
def accountStep (u : List Resource × Bool) (a : Act) : List Resource × Bool :=
  match a with
  | .leave .teardown _ => ([], false)
  | .leave .createResources ret => (u.1, u.2 || ret = 0)
  | a => (acquires a ++ u.1.diff (releases u.1 a), u.2)

/-- **The accounts of a history**: what has been acquired since the last teardown and
not released, and whether a creation has succeeded since. -/
def account (h : List Act) : List Resource × Bool := h.foldl accountStep ([], false)

/-- The arrays of the context are not resources of a connection. -/
def Resource.isArray : Resource → Bool
  | .array _ => true
  | _ => false

/-- **What a history leaves**: the queue pairs, regions, buffers, completion queues,
receive queues, channels, domains, device contexts and connection ids acquired
since the last teardown and not released. -/
def leftover (h : List Act) : List Resource := (account h).1.filter fun r => !r.isArray

/-- **A teardown leaves nothing**: whenever one returns after a creation that
succeeded, everything acquired since the last one has been released. -/
def LeavesNothing (t : List Act) : Prop :=
  ∀ h ret r, t = h ++ .leave .teardown ret :: r → (account h).2 = true → leftover h = []

/-! ### Counting device contexts -/

def Resource.isContext : Resource → Bool
  | .context _ => true
  | _ => false

/-- The calls that open a device context. -/
def Act.isOpen : Act → Bool
  | .ibvOpenDevice _ (some _) => true
  | _ => false

/-- The calls that close one. -/
def Act.isClose : Act → Bool
  | .ibvCloseDevice (some _) => true
  | _ => false

/-- The actions at which the accounts are closed. -/
def Act.isTeardownReturn : Act → Bool
  | .leave .teardown _ => true
  | _ => false

/-- Removing elements from a list takes at most their number off a count. -/
theorem countP_le_countP_diff (p : Resource → Bool) (u l : List Resource) :
    u.countP p ≤ (u.diff l).countP p + l.countP p := by
  induction l generalizing u with
  | nil => rw [List.diff_nil, List.countP_nil, Nat.add_zero]
  | cons r l ih =>
    have herase : u.countP p ≤ (u.erase r).countP p + if p r then 1 else 0 := by
      by_cases hr : r ∈ u
      · rw [(List.perm_cons_erase hr).countP_eq p, List.countP_cons]
      · rw [List.erase_of_not_mem hr]
        exact Nat.le_add_right _ _
    have hrest := ih (u.erase r)
    rw [List.diff_cons, List.countP_cons]
    omega

theorem countP_acquires (a : Act) :
    (acquires a).countP Resource.isContext = if a.isOpen then 1 else 0 := by
  cases a with
  | ibvOpenDevice dev res => cases res <;> rfl
  | rdmaCreateQp id pd attr res => cases id <;> cases res <;> rfl
  | rdmaCreateId _ _ res | allocate _ _ res | ibvAllocPd _ res | ibvCreateCompChannel _ res
  | ibvCreateCq _ _ _ res | ibvCreateSrq _ _ res | memalign _ res | ibvRegMr _ _ _ _ res =>
    cases res <;> rfl
  | _ => rfl

theorem countP_releases (u : List Resource) (a : Act) :
    (releases u a).countP Resource.isContext = if a.isClose then 1 else 0 := by
  cases a with
  | ibvCloseDevice context => cases context <;> rfl
  | rdmaDestroyQp id =>
    rcases id with _ | i
    · rfl
    · rw [releases, Option.toList_some, List.flatMap_cons, List.flatMap_nil, List.append_nil]
      rcases hfind : u.find? (Resource.isQpOf i) with _ | r
      · rfl
      · have hqp := List.find?_some hfind
        cases r <;> first | rfl | exact absurd hqp Bool.false_ne_true
  | free p =>
    rcases p with _ | n
    · rfl
    · rw [releases, Option.toList_some, List.map_cons, List.map_nil]
      split <;> rfl
  | ibvDeregMr p | ibvDestroyCq p | ibvDeallocPd p | rdmaDestroyId p => cases p <;> rfl
  | _ => rfl

/-- **One action and the count of device contexts.** -/
theorem count_accountStep {a : Act} (h : a.isTeardownReturn = false) (u : List Resource × Bool) :
    u.1.countP Resource.isContext + (if a.isOpen then 1 else 0) ≤
      (accountStep u a).1.countP Resource.isContext + if a.isClose then 1 else 0 := by
  have hbooks : u.1.countP Resource.isContext + (if a.isOpen then 1 else 0) ≤
      (acquires a ++ u.1.diff (releases u.1 a)).countP Resource.isContext +
        if a.isClose then 1 else 0 := by
    have hdiff := countP_le_countP_diff Resource.isContext u.1 (releases u.1 a)
    rw [countP_releases] at hdiff
    rw [List.countP_append, countP_acquires]
    omega
  cases a with
  | leave f ret =>
    cases f with
    | createResources => exact Nat.le_refl _
    | teardown => exact absurd h.symm Bool.false_ne_true
  | _ => exact hbooks

/-- The successes recorded by one action. -/
def Act.isSuccess : Act → Bool
  | .leave .createResources ret => ret = 0
  | _ => false

theorem accountStep_success {a : Act} (h : a.isTeardownReturn = false) (u : List Resource × Bool) :
    (accountStep u a).2 = (u.2 || a.isSuccess) := by
  cases a with
  | leave f ret =>
    cases f with
    | createResources => rfl
    | teardown => exact absurd h.symm Bool.false_ne_true
  | _ => exact (Bool.or_false u.2).symm

/-- **A stretch without a teardown, and the count of device contexts**: what it opens and
does not close is added, and a success is recorded when there is one. -/
theorem count_account {t : List Act} (h : t.all (fun a => !a.isTeardownReturn) = true)
    (u : List Resource × Bool) :
    u.1.countP Resource.isContext + t.countP Act.isOpen ≤
        (t.foldl accountStep u).1.countP Resource.isContext + t.countP Act.isClose ∧
      (t.foldl accountStep u).2 = (u.2 || t.any Act.isSuccess) := by
  induction t generalizing u with
  | nil => exact ⟨Nat.le_refl _, (Bool.or_false u.2).symm⟩
  | cons a t ih =>
    rw [List.all_cons, Bool.and_eq_true, Bool.not_eq_true'] at h
    obtain ⟨hcount, hsuccess⟩ := ih h.2 (accountStep u a)
    have hstep := count_accountStep h.1 u
    rw [accountStep_success h.1, Bool.or_assoc] at hsuccess
    rw [List.foldl_cons, List.countP_cons, List.countP_cons, List.any_cons]
    exact ⟨by omega, hsuccess⟩

/-! ### The monitor -/

/-- A device context is among the resources. -/
def HasContext (u : List Resource) : Prop := ∃ p, .context p ∈ u

/-- **Watching for leftovers**: when a teardown returns after a success, a device
context is left. -/
def leftoverMonitor : Monitor (List Resource × Bool) Act where
  step := accountStep
  Ok u a := a.isTeardownReturn = true → u.2 = true → HasContext u.1

theorem hasContext_of_count {u : List Resource} (h : 0 < u.countP Resource.isContext) :
    HasContext u := by
  obtain ⟨r, hr, hctx⟩ := List.countP_pos_iff.mp h
  cases r with
  | context p => exact ⟨p, hr⟩
  | _ => exact absurd hctx Bool.false_ne_true

/-- The accounts after a success hold a device context. -/
def Fine (u : List Resource × Bool) : Prop :=
  u.2 = true → 0 < u.1.countP Resource.isContext

/-- **A stretch passes**: the monitor accepts it, and the accounts are fine after
it. -/
def Passes (u : List Resource × Bool) (t : List Act) : Prop :=
  leftoverMonitor.Accepts u t ∧ Fine (leftoverMonitor.after u t)

theorem Passes.append {u : List Resource × Bool} {t t' : List Act} (h : Passes u t)
    (h' : ∀ u, Fine u → Passes u t') : Passes u (t ++ t') := by
  obtain ⟨hacc, hfine⟩ := h
  obtain ⟨hacc', hfine'⟩ := h' _ hfine
  refine ⟨(leftoverMonitor.accepts_append _ _ _).mpr ⟨hacc, hacc'⟩, ?_⟩
  rwa [leftoverMonitor.after_append]

/-- The monitor has nothing to say where no teardown returns. -/
theorem accepts_of_noReturn {t : List Act} (h : t.all (fun a => !a.isTeardownReturn) = true)
    (u : List Resource × Bool) : leftoverMonitor.Accepts u t := by
  induction t generalizing u with
  | nil => trivial
  | cons a t ih =>
    rw [List.all_cons, Bool.and_eq_true, Bool.not_eq_true'] at h
    refine ⟨fun hc => ?_, ih h.2 _⟩
    rw [h.1] at hc
    exact absurd hc Bool.false_ne_true

/-- **A stretch without a teardown passes** when it opens as many device contexts as it
closes, and one more if it records a success. -/
theorem passes_of_count {t : List Act} (h : t.all (fun a => !a.isTeardownReturn) = true)
    (hcount : t.countP Act.isClose + (if t.any Act.isSuccess then 1 else 0) ≤ t.countP Act.isOpen)
    {u : List Resource × Bool} (hu : Fine u) : Passes u t := by
  refine ⟨accepts_of_noReturn h u, fun hmade => ?_⟩
  obtain ⟨hctx, hsuccess⟩ := count_account h u
  have hmade' : (u.2 || t.any Act.isSuccess) = true := hsuccess ▸ hmade
  change 0 < (t.foldl accountStep u).1.countP Resource.isContext
  rcases Bool.or_eq_true_iff.mp hmade' with hold | hnew
  · have hpos := hu hold
    omega
  · rw [if_pos hnew] at hcount
    omega

/-- The actions that the accounts do not notice. -/
def Act.isUncounted (a : Act) : Bool :=
  !a.isOpen && !a.isClose && !a.isTeardownReturn && !a.isSuccess

theorem passes_of_uncounted {t : List Act} (h : t.all Act.isUncounted = true)
    {u : List Resource × Bool} (hu : Fine u) : Passes u t := by
  have hno : ∀ a ∈ t, a.isOpen = false ∧ a.isClose = false ∧ a.isTeardownReturn = false ∧
      a.isSuccess = false := by
    intro a ha
    have hun := List.all_eq_true.mp h a ha
    simp only [Act.isUncounted, Bool.and_eq_true, Bool.not_eq_true'] at hun
    exact ⟨hun.1.1.1, hun.1.1.2, hun.1.2, hun.2⟩
  refine passes_of_count ?_ ?_ hu
  · exact List.all_eq_true.mpr fun a ha => by rw [(hno a ha).2.2.1]; rfl
  · have hclose : t.countP Act.isClose = 0 :=
      List.countP_eq_zero.mpr fun a ha hc => by rw [(hno a ha).2.1] at hc; cases hc
    have hsuccess : t.any Act.isSuccess = false :=
      List.any_eq_false.mpr fun a ha hc => by rw [(hno a ha).2.2.2] at hc; cases hc
    rw [hclose, hsuccess]
    exact Nat.zero_le _

variable {config : RdmaParam}

/-! ### Creating the resources -/

section Create

variable {o : CreateOutcomes} {c : RdmaContext}

theorem countP_open_contextActs :
    (contextActs config o).countP Act.isOpen = if o.ibvOpenDevice ≠ none then 1 else 0 := by
  rw [contextActs]
  rcases hopen : o.ibvOpenDevice with _ | d
  · rw [if_neg (by simp), if_neg (by simp [AsksPd, hopen]), if_neg (by simp)]
    rfl
  · rw [if_pos (Option.some_ne_none d), if_pos (Option.some_ne_none d)]
    split <;> rfl

theorem countP_open_channelActs : (channelActs config o c).countP Act.isOpen = 0 := by
  rw [channelActs]
  split <;> rfl

theorem countP_open_cqsActs : (cqsActs config o c).countP Act.isOpen = 0 := by
  rw [cqsActs]
  split_ifs <;> rfl

theorem countP_open_srqActs : (srqActs config o c).countP Act.isOpen = 0 := by
  rw [srqActs]
  split <;> rfl

theorem countP_open_qpsActs (n : ℕ) : (qpsActs config o c n).countP Act.isOpen = 0 := by
  rw [qpsActs]
  split
  · rfl
  · refine List.countP_eq_zero.mpr fun a ha => ?_
    obtain ⟨i, -, rfl⟩ := List.mem_map.mp ha
    exact Bool.false_ne_true

theorem countP_open_bufsActs (n : ℕ) : (bufsActs o c n).countP Act.isOpen = 0 := by
  refine List.countP_eq_zero.mpr fun a ha => ?_
  obtain ⟨i, -, ha⟩ := List.mem_flatMap.mp ha
  simp only [bufActs, List.mem_cons, List.not_mem_nil, or_false] at ha
  rcases ha with rfl | rfl | rfl <;> exact Bool.false_ne_true

/-- **The acquisitions open one device context**, if they open any. -/
theorem BodyRan.countP_open {exit : Exit} {c' : RdmaContext} {t : List Act}
    (h : BodyRan config o c exit c' t) :
    t.countP Act.isOpen = if o.ibvOpenDevice ≠ none then 1 else 0 := by
  have hshared : (sharedActs config o c).countP Act.isOpen =
      if o.ibvOpenDevice ≠ none then 1 else 0 := by
    rw [sharedActs, queueActs, deviceActs, List.countP_append, List.countP_append,
      List.countP_append, countP_open_channelActs, countP_open_cqsActs, countP_open_srqActs]
    exact countP_open_contextActs
  cases h with
  | noContext => exact countP_open_contextActs
  | noChannel =>
    rw [deviceActs, List.countP_append, countP_open_channelActs]
    exact countP_open_contextActs
  | noCqs =>
    rw [queueActs, deviceActs, List.countP_append, List.countP_append, countP_open_channelActs,
      countP_open_cqsActs]
    exact countP_open_contextActs
  | noSrq => exact hshared
  | qps _ hqps =>
    obtain ⟨n, -, rfl⟩ := hqps.acts_eq
    rw [List.countP_append, countP_open_qpsActs, hshared]
    rfl
  | bufs _ hqps hbufs | done _ hqps hbufs =>
    obtain ⟨n, -, rfl⟩ := hqps.acts_eq
    obtain ⟨m, rfl, -⟩ := hbufs.acts_eq
    rw [List.countP_append, List.countP_append, countP_open_qpsActs, countP_open_bufsActs,
      hshared]
    rfl

/-- Making calls close nothing, and record nothing. -/
theorem not_closing_of_isMaking {t : List Act} (h : t.all Act.isMaking = true) :
    t.countP Act.isClose = 0 ∧ t.any Act.isSuccess = false ∧
      t.all (fun a => !a.isTeardownReturn) = true := by
  have hno : ∀ a ∈ t, a.isClose = false ∧ a.isSuccess = false ∧ a.isTeardownReturn = false := by
    intro a ha
    have hmaking := List.all_eq_true.mp h a ha
    cases a <;> first | exact ⟨rfl, rfl, rfl⟩ | exact absurd hmaking Bool.false_ne_true
  refine ⟨?_, ?_, ?_⟩
  · exact List.countP_eq_zero.mpr fun a ha hc => by rw [(hno a ha).1] at hc; cases hc
  · exact List.any_eq_false.mpr fun a ha hc => by rw [(hno a ha).2.1] at hc; cases hc
  · exact List.all_eq_true.mpr fun a ha => by rw [(hno a ha).2.2]; rfl

theorem sharedReleaseActs_uncounted (config : RdmaParam) (c : RdmaContext) :
    (sharedReleaseActs config c).all Act.isUncounted = true := by
  refine List.all_eq_true.mpr fun a ha => ?_
  have hshared := List.all_eq_true.mp (all_sharedReleaseActs config c) a ha
  cases a <;> first | rfl | exact absurd hshared Bool.false_ne_true

/-- What the accounts do not notice is neither counted nor recorded. -/
theorem countP_of_uncounted {t : List Act} (h : t.all Act.isUncounted = true) :
    t.countP Act.isClose = 0 ∧ t.any Act.isSuccess = false ∧
      t.all (fun a => !a.isTeardownReturn) = true := by
  have hno : ∀ a ∈ t, a.isClose = false ∧ a.isSuccess = false ∧ a.isTeardownReturn = false := by
    intro a ha
    have hun := List.all_eq_true.mp h a ha
    simp only [Act.isUncounted, Bool.and_eq_true, Bool.not_eq_true'] at hun
    exact ⟨hun.1.1.2, hun.2, hun.1.2⟩
  refine ⟨?_, ?_, ?_⟩
  · exact List.countP_eq_zero.mpr fun a ha hc => by rw [(hno a ha).1] at hc; cases hc
  · exact List.any_eq_false.mpr fun a ha hc => by rw [(hno a ha).2.1] at hc; cases hc
  · exact List.all_eq_true.mpr fun a ha => by rw [(hno a ha).2.2]; rfl

/-- The cleanup closes the device context it finds, and nothing else that is
counted. -/
theorem countP_cleanupActs (config : RdmaParam) (c : RdmaContext) :
    (cleanupActs config c).countP Act.isClose = (if c.context ≠ none then 1 else 0) ∧
      (cleanupActs config c).any Act.isSuccess = false ∧
      (cleanupActs config c).all (fun a => !a.isTeardownReturn) = true := by
  obtain ⟨hclose, hsuccess, hreturn⟩ := countP_of_uncounted (sharedReleaseActs_uncounted config c)
  rw [cleanupActs, List.countP_append, List.any_append, List.all_append, hclose, hsuccess, hreturn]
  rcases c.context with _ | p <;> exact ⟨rfl, rfl, rfl⟩

/-- **A creation passes**: when it succeeds, the device context it opened is left, and
when it fails, it closes what it opened. -/
theorem CreateRan.passes {c' : RdmaContext} {ret : ℤ} {t : List Act}
    (h : CreateRan config o c ret c' t) {u : List Resource × Bool} (hu : Fine u) :
    Passes u t := by
  cases h with
  | @failed c₁ t₁ h =>
    obtain ⟨hclose, hsuccess, hreturn⟩ := not_closing_of_isMaking h.frame.1
    obtain ⟨hclose', hsuccess', hreturn'⟩ := countP_cleanupActs config c₁
    refine passes_of_count ?_ ?_ hu
    · simp only [List.all_cons, List.all_append, hreturn, hreturn']
      rfl
    · simp only [List.countP_cons, List.countP_append, List.any_cons, List.any_append, hclose,
        hsuccess, hclose', hsuccess', h.context_eq, h.countP_open]
      change 0 + ((if o.ibvOpenDevice ≠ none then 1 else 0) + 0) + 0 + 0 ≤
        (if o.ibvOpenDevice ≠ none then 1 else 0) +
          ((cleanupActs config c₁).countP Act.isOpen + 0) + 0
      omega
  | made h | unknown h =>
    obtain ⟨hclose, hsuccess, hreturn⟩ := not_closing_of_isMaking h.frame.1
    have hopen := h.countP_open
    rw [if_pos (h.contextOk (by decide)).1] at hopen
    refine passes_of_count ?_ ?_ hu
    · simp only [List.all_cons, List.all_append, hreturn]
      rfl
    · simp only [List.countP_cons, List.countP_append, List.any_cons, List.any_append, hclose,
        hsuccess, hopen]
      exact Nat.le_refl _

end Create

/-! ### The steps of a run -/

variable {c : RdmaContext} {u : List Resource × Bool}

/-- **A teardown passes**: a device context is left when it returns after a success. -/
theorem passes_teardownActs (config : RdmaParam) (c : RdmaContext) (hu : Fine u) :
    Passes u (teardownActs config c) := by
  have hrelease : (releaseAct c.cmId (.rdmaDestroyId c.cmId)).all Act.isUncounted = true :=
    all_releaseAct rfl
  have hsplit : teardownActs config c = (.enter .teardown :: (sharedReleaseActs config c ++
      releaseAct c.cmId (.rdmaDestroyId c.cmId))) ++ [.leave .teardown 0] := by
    simp only [teardownActs, List.cons_append, List.append_assoc]
  rw [hsplit]
  refine (passes_of_uncounted ?_ hu).append fun v hv => ⟨⟨?_, trivial⟩, ?_⟩
  · rw [List.all_cons, List.all_append, sharedReleaseActs_uncounted, hrelease]
    rfl
  · exact fun _ hmade => hasContext_of_count (hv hmade)
  · exact fun hmade => absurd hmade Bool.false_ne_true

theorem initActs_uncounted (event : CmEvent) (c : RdmaContext) :
    (initActs event c).all Act.isUncounted = true := by
  rw [initActs]
  split <;> rfl

/-- **Handling an event passes.** -/
theorem Handled.passes {o : HandlerOutcomes} {event : CmEvent} {c c' : RdmaContext}
    {r : Option CmEvent} {t : List Act} (h : Handled config o event c r c' t) (hu : Fine u) :
    Passes u t := by
  have hplain : ∀ {t : List Act}, t.all Act.isUncounted = true → ∀ v, Fine v → Passes v t :=
    fun ht v hv => passes_of_uncounted ht hv
  -- what a teardown leaves, and the acknowledgement after it
  have htear : ∀ (c : RdmaContext) v, Fine v →
      Passes v (teardownActs config c ++ [.rdmaAckCmEvent event]) := by
    intro c v hv
    exact (passes_teardownActs config c hv).append (hplain rfl)
  cases h with
  | other h => exact hplain rfl u hu
  | resolved h hret => exact hplain rfl u hu
  | unresolved h hret => exact (hplain rfl u hu).append (htear c)
  | @uncreated c₁ t₁ ret h hran hret =>
    refine Passes.append (t := [.readEvent event]) (hplain rfl u hu) fun v hv => ?_
    exact (hran.passes hv).append (htear c₁)
  | @unconnected c₁ t₁ h hran hret =>
    refine Passes.append (t := [.readEvent event]) (hplain rfl u hu) fun v hv => ?_
    refine (hran.passes hv).append fun w hw => ?_
    exact Passes.append (t := [.rdmaConnect _ _ _]) (hplain rfl w hw) (htear c₁)
  | connecting h hran hret =>
    refine Passes.append (t := [.readEvent event]) (hplain rfl u hu) fun v hv => ?_
    exact (hran.passes hv).append (hplain rfl)
  | @unaccepted c₁ t₁ h hran hret =>
    refine Passes.append (t := [.readEvent event]) (hplain rfl u hu) fun v hv => ?_
    refine (hran.passes hv).append fun w hw => ?_
    exact Passes.append (t := [.rdmaAccept _ _ _]) (hplain rfl w hw) (htear c₁)
  | @accepted c₁ t₁ h hran hret =>
    refine Passes.append (t := [.readEvent event]) (hplain rfl u hu) fun v hv => ?_
    refine (hran.passes hv).append fun w hw => ?_
    refine Passes.append (t := [.rdmaAccept _ _ _]) (hplain rfl w hw) fun x hx => ?_
    exact Passes.append (hplain (initActs_uncounted event c₁) x hx) (hplain rfl)
  | established h =>
    refine Passes.append (t := [.readEvent event]) (hplain rfl u hu) fun v hv => ?_
    exact Passes.append (hplain (initActs_uncounted event c) v hv) (hplain rfl)
  | error h =>
    refine Passes.append (hplain rfl u hu) fun v hv => ?_
    exact passes_teardownActs config c hv
  | disconnected h =>
    refine Passes.append (hplain rfl u hu) fun v hv => ?_
    exact passes_teardownActs config c hv

/-! ### Runs -/

variable {channel : Ptr} {start : Start} {s : Option RdmaContext} {t : List Act}

theorem all_isUncounted_of_isStarting (h : t.all Act.isStarting = true) :
    t.all Act.isUncounted = true := by
  refine all_mono (fun a ha => ?_) h
  cases a <;> first | rfl | exact absurd ha Bool.false_ne_true

/-- A start opens no device context. -/
theorem Started.uncounted (h : Started config start s t) : t.all Act.isUncounted = true :=
  all_isUncounted_of_isStarting h.all_isStarting

/-- A turn that passes, after a history that does. -/
theorem Passes.turn {h : List Act} {event : CmEvent} (hs : Passes u h)
    (ht : ∀ v, Fine v → Passes v t) : Passes u (h ++ (obtainActs channel event ++ t)) :=
  hs.append fun _ hv => (passes_of_uncounted (t := obtainActs channel event) rfl hv).append ht

/-- **Every run passes**: no condition is needed on its steps. -/
theorem leftover_invariant (config : RdmaParam) (channel : Ptr) (start : Start) :
    RunInvariant config channel start (fun _ _ _ => True) (fun _ h => Passes ([], false) h)
      (fun _ _ t => leftoverMonitor.Accepts ([], false) t) where
  started s t h := passes_of_uncounted h.uncounted fun hc => absurd hc Bool.false_ne_true
  exits e s t h := by
    refine (passes_of_uncounted ?_ fun hc => absurd hc Bool.false_ne_true).1
    exact all_isUncounted_of_isStarting h.all_isStarting
  handled c h o event r c' t _ hs hran := hs.turn fun _ hv => hran.passes hv
  stuck c h o event c' t e _ hs hran := by
    obtain ⟨hkind, hstuck⟩ := hran
    rw [← List.append_assoc]
    refine (leftoverMonitor.accepts_append _ _ _).mpr ⟨?_, ?_⟩
    · exact (hs.append fun v hv => passes_of_uncounted (t := obtainActs channel event) rfl hv).1
    · refine accepts_of_noReturn ?_ _
      rw [List.all_cons, List.all_cons, (not_closing_of_isMaking hstuck.frame.1).2.2]
      rfl
  handledNull h o event r t _ hs hran := by
    refine hs.turn fun v hv => passes_of_uncounted ?_ hv
    cases hran <;> rfl
  nullStuck h o event t e _ hs hran := by
    rw [← List.append_assoc]
    refine (leftoverMonitor.accepts_append _ _ _).mpr ⟨?_, accepts_of_noReturn ?_ _⟩
    · exact (hs.append fun v hv => passes_of_uncounted (t := obtainActs channel event) rfl hv).1
    · cases hran <;> rfl
  idle s h event out hs := by
    refine (hs.append fun v hv => passes_of_uncounted ?_ hv).1
    cases event <;> rfl
  ends s h out hs := hs.1

/-- **What a teardown leaves behind**: in every run, whenever a teardown returns after
a creation that succeeded, something acquired since the last teardown is left – a
device context, at least. -/
theorem context_left_of_teardown (config : RdmaParam) (channel : Ptr) (start : Start)
    (ticks : List Tick) (h r : List Act) (ret : ℤ)
    (htrace : (run config channel start ticks none).trace = h ++ .leave .teardown ret :: r)
    (hmade : (account h).2 = true) : leftover h ≠ [] := by
  have hmeets : RunMeets (fun _ _ _ => True) config channel start ticks := fun s t _ =>
    Traced.meets_of_mem (fun _ _ _ _ => trivial) none s t
  have hacc := Traced.post_iff.mp ((leftover_invariant config channel start).post_run hmeets)
  rw [leftoverMonitor.accepts_iff] at hacc
  obtain ⟨p, hp⟩ := hacc h _ r htrace rfl hmade
  exact List.ne_nil_of_mem (List.mem_filter.mpr ⟨hp, rfl⟩)

/-- The trace of the sample client that connects and is then disconnected: its last
action, the fiftieth, is the return from the teardown. -/
def Sample.disconnectedTrace : List Act :=
  (Sample.clientRun [.addrResolved, .routeResolved, .disconnected]).trace

/-- Something is left when the sample client has been disconnected. -/
theorem context_left_of_disconnected : leftover (Sample.disconnectedTrace.take 49) ≠ [] :=
  context_left_of_teardown Sample.config (some 10) (Sample.connect Sample.block)
    ([.addrResolved, .routeResolved, .disconnected].map (Sample.tick · 11))
    (Sample.disconnectedTrace.take 49) [] 0 rfl rfl

/-- The sample client that connects and is then disconnected leaves a device context,
two regions, two buffers and a queue pair. -/
theorem not_leavesNothing_of_disconnected : ¬LeavesNothing Sample.disconnectedTrace := by
  intro hall
  have hleft := hall (Sample.disconnectedTrace.take 49) 0 [] rfl rfl
  have hsome : leftover (Sample.disconnectedTrace.take 49) =
      [.mr 51, .buffer 41, .mr 50, .buffer 40, .qp 11 30, .context 21] := rfl
  rw [hsome] at hleft
  cases hleft

end Transport
