import RdmaCpp.Transport.Resources

/-!
# What the releases do

The cleanup of `fs_rdma_create_resources` and `fs_rdma_teardown` neither fail nor
branch on anything but which fields are `NULL`, so each has a closed form: the
context it leaves and the calls it makes, as functions of the context it finds
(`Transport.run_fsRdmaTeardown`, `Transport.run_cleanup`).

The loop over the arrays is where the count matters. Its first turn sets the three
array fields to `NULL`, and every later turn finds them so: however many queue
pairs there are, at most one call of each kind is made
(`Transport.run_releaseArrays`).
-/

namespace Transport

/-- The call of a releasing statement, made when the field is not `NULL`. -/
def releaseAct (p : Ptr) (call : Act) : List Act := if p.isSome then [call] else []

@[simp] theorem releaseAct_none (call : Act) : releaseAct none call = [] := rfl

@[simp] theorem releaseAct_some (n : ℕ) (call : Act) : releaseAct (some n) call = [call] := rfl

/-- **A releasing statement** makes its call when the field is not `NULL`, and
leaves the field `NULL` in any case. -/
theorem run_releaseField {field : RdmaContext → Ptr} {call : RdmaContext → Act}
    {clear : RdmaContext → RdmaContext} {c : RdmaContext}
    (hclear : field c = none → clear c = c) :
    releaseField field call clear (some c) =
      ⟨.ok (), some (clear c), releaseAct (field c) (call c)⟩ := by
  rw [releaseField, Traced.run_bind_ok (run_rdmaCtx c)]
  cases hf : field c with
  | none =>
    rw [hclear hf]
    simp only [Option.isSome_none, Bool.false_eq_true, if_false, Traced.run_pure, releaseAct_none,
      List.append_nil]
  | some n =>
    simp only [Option.isSome_some, if_true, Traced.run_bind_ok (Traced.run_emit _ _), run_assign,
      releaseAct_some, List.append_nil, List.nil_append]

/-! ### The loop over the arrays -/

/-- The calls of one turn of the loop. -/
def turnActs (c : RdmaContext) : List Act :=
  releaseAct (arrayPtr c.qp) (.rdmaDestroyQp c.cmId) ++
    (releaseAct (arrayPtr c.mr) (.ibvDeregMr (arrayPtr c.mr)) ++
      releaseAct (arrayPtr c.buf) (.free (arrayPtr c.buf)))

/-- The context after one turn of the loop. -/
def RdmaContext.withoutArrays (c : RdmaContext) : RdmaContext :=
  { c with qp := none, mr := none, buf := none }

theorem run_releaseQp (c : RdmaContext) : releaseQp (some c) =
    ⟨.ok (), some { c with qp := none }, releaseAct (arrayPtr c.qp) (.rdmaDestroyQp c.cmId)⟩ :=
  run_releaseField fun h => by rw [← arrayPtr_eq_none.mp h]

theorem run_releaseMr (c : RdmaContext) : releaseMr (some c) =
    ⟨.ok (), some { c with mr := none },
      releaseAct (arrayPtr c.mr) (.ibvDeregMr (arrayPtr c.mr))⟩ :=
  run_releaseField fun h => by rw [← arrayPtr_eq_none.mp h]

theorem run_releaseBuf (c : RdmaContext) : releaseBuf (some c) =
    ⟨.ok (), some { c with buf := none },
      releaseAct (arrayPtr c.buf) (.free (arrayPtr c.buf))⟩ :=
  run_releaseField fun h => by rw [← arrayPtr_eq_none.mp h]

theorem run_releaseTurn (i : ℕ) (c : RdmaContext) :
    releaseTurn i (some c) = ⟨.ok none, some c.withoutArrays, turnActs c⟩ := by
  rw [releaseTurn, Traced.run_bind_ok (run_releaseQp c), Traced.run_bind_ok (run_releaseMr _),
    Traced.run_bind_ok (run_releaseBuf _)]
  simp only [Traced.run_pure, List.append_nil]
  rfl

/-- A turn that finds the arrays gone does nothing. -/
theorem turnActs_withoutArrays (c : RdmaContext) : turnActs c.withoutArrays = [] := rfl

/-- The calls of the whole loop: those of its first turn. -/
def arrayActs (config : RdmaParam) (c : RdmaContext) : List Act :=
  if 0 < config.turns then turnActs c else []

/-- The context after the whole loop. -/
def RdmaContext.arraysReleased (config : RdmaParam) (c : RdmaContext) : RdmaContext :=
  if 0 < config.turns then c.withoutArrays else c

/-- Turns that find the arrays gone do nothing, however many there are. -/
theorem run_releaseTurns_withoutArrays (c : RdmaContext) (i k : ℕ) :
    Traced.forLoop releaseTurn i k (some c.withoutArrays) =
      ⟨.ok none, some c.withoutArrays, []⟩ := by
  induction k generalizing i with
  | zero => rfl
  | succ k ih =>
    rw [Traced.forLoop, Traced.run_bind_ok (run_releaseTurn i _), turnActs_withoutArrays]
    change (⟨(Traced.forLoop releaseTurn (i + 1) k (some c.withoutArrays)).out,
      (Traced.forLoop releaseTurn (i + 1) k (some c.withoutArrays)).state,
      [] ++ (Traced.forLoop releaseTurn (i + 1) k (some c.withoutArrays)).trace⟩ :
        Ran (Option RdmaContext) Act Fault (Option Empty)) = _
    rw [ih (i + 1)]
    rfl

/-- **The loop makes the calls of a single turn**, whatever the number of queue
pairs. -/
theorem run_releaseArrays (config : RdmaParam) (c : RdmaContext) :
    releaseArrays config (some c) =
      ⟨.ok (), some (c.arraysReleased config), arrayActs config c⟩ := by
  rw [releaseArrays, RdmaContext.arraysReleased, arrayActs]
  rcases Nat.eq_zero_or_pos config.turns with h0 | hpos
  · rw [h0]
    rfl
  · obtain ⟨k, hk⟩ : ∃ k, config.turns = k + 1 := ⟨config.turns - 1, by omega⟩
    have hloop : Traced.forLoop releaseTurn 0 config.turns (some c) =
        ⟨.ok none, some c.withoutArrays, turnActs c⟩ := by
      rw [hk, Traced.forLoop, Traced.run_bind_ok (run_releaseTurn 0 c)]
      simp only [run_releaseTurns_withoutArrays, List.append_nil]
    rw [Traced.run_bind_ok hloop, if_pos hpos, if_pos hpos]
    simp only [Traced.run_pure, List.append_nil]

/-! ### The single fields -/

theorem run_releaseSendCq (c : RdmaContext) : releaseSendCq (some c) =
    ⟨.ok (), some { c with sendCq := none }, releaseAct c.sendCq (.ibvDestroyCq c.sendCq)⟩ :=
  run_releaseField fun h => by rw [← h]

theorem run_releaseRecvCq (c : RdmaContext) : releaseRecvCq (some c) =
    ⟨.ok (), some { c with recvCq := none }, releaseAct c.recvCq (.ibvDestroyCq c.recvCq)⟩ :=
  run_releaseField fun h => by rw [← h]

theorem run_releasePd (c : RdmaContext) : releasePd (some c) =
    ⟨.ok (), some { c with pd := none }, releaseAct c.pd (.ibvDeallocPd c.pd)⟩ :=
  run_releaseField fun h => by rw [← h]

theorem run_releaseContext (c : RdmaContext) : releaseContext (some c) =
    ⟨.ok (), some { c with context := none }, releaseAct c.context (.ibvCloseDevice c.context)⟩ :=
  run_releaseField fun h => by rw [← h]

theorem run_releaseCmId (c : RdmaContext) : releaseCmId (some c) =
    ⟨.ok (), some { c with cmId := none }, releaseAct c.cmId (.rdmaDestroyId c.cmId)⟩ :=
  run_releaseField fun h => by rw [← h]

@[simp] theorem arraysReleased_sendCq (config : RdmaParam) (c : RdmaContext) :
    (c.arraysReleased config).sendCq = c.sendCq := by
  rw [RdmaContext.arraysReleased, apply_ite RdmaContext.sendCq]
  exact ite_self _

@[simp] theorem arraysReleased_recvCq (config : RdmaParam) (c : RdmaContext) :
    (c.arraysReleased config).recvCq = c.recvCq := by
  rw [RdmaContext.arraysReleased, apply_ite RdmaContext.recvCq]
  exact ite_self _

@[simp] theorem arraysReleased_pd (config : RdmaParam) (c : RdmaContext) :
    (c.arraysReleased config).pd = c.pd := by
  rw [RdmaContext.arraysReleased, apply_ite RdmaContext.pd]
  exact ite_self _

@[simp] theorem arraysReleased_context (config : RdmaParam) (c : RdmaContext) :
    (c.arraysReleased config).context = c.context := by
  rw [RdmaContext.arraysReleased, apply_ite RdmaContext.context]
  exact ite_self _

@[simp] theorem arraysReleased_cmId (config : RdmaParam) (c : RdmaContext) :
    (c.arraysReleased config).cmId = c.cmId := by
  rw [RdmaContext.arraysReleased, apply_ite RdmaContext.cmId]
  exact ite_self _

@[simp] theorem arraysReleased_connected (config : RdmaParam) (c : RdmaContext) :
    (c.arraysReleased config).connected = c.connected := by
  rw [RdmaContext.arraysReleased, apply_ite RdmaContext.connected]
  exact ite_self _

/-! ### Teardown and cleanup -/

/-- The calls both release sequences share: the loop, the completion queues, the
protection domain. -/
def sharedReleaseActs (config : RdmaParam) (c : RdmaContext) : List Act :=
  arrayActs config c ++ (releaseAct c.sendCq (.ibvDestroyCq c.sendCq) ++
    (releaseAct c.recvCq (.ibvDestroyCq c.recvCq) ++ releaseAct c.pd (.ibvDeallocPd c.pd)))

/-- The calls of `fs_rdma_teardown`. -/
def teardownActs (config : RdmaParam) (c : RdmaContext) : List Act :=
  .enter .teardown :: (sharedReleaseActs config c ++
    (releaseAct c.cmId (.rdmaDestroyId c.cmId) ++ [.leave .teardown 0]))

/-- The context `fs_rdma_teardown` leaves. The device context, the completion
channel, the shared receive queue and the connected flag are as before. -/
def RdmaContext.tornDown (config : RdmaParam) (c : RdmaContext) : RdmaContext :=
  { c.arraysReleased config with sendCq := none, recvCq := none, pd := none, cmId := none }

/-- **The teardown in closed form.** -/
theorem run_fsRdmaTeardown (config : RdmaParam) (c : RdmaContext) :
    fsRdmaTeardown config (some c) =
      ⟨.ok 0, some (c.tornDown config), teardownActs config c⟩ := by
  rw [fsRdmaTeardown, Traced.run_bind_ok (Traced.run_emit _ _),
    Traced.run_bind_ok (run_releaseArrays config c), Traced.run_bind_ok (run_releaseSendCq _),
    Traced.run_bind_ok (run_releaseRecvCq _), Traced.run_bind_ok (run_releasePd _),
    Traced.run_bind_ok (run_releaseCmId _), Traced.run_bind_ok (Traced.run_emit _ _)]
  simp only [Traced.run_pure, teardownActs, sharedReleaseActs, RdmaContext.tornDown,
    arraysReleased_sendCq, arraysReleased_recvCq, arraysReleased_pd, arraysReleased_cmId,
    List.append_nil, List.append_assoc, List.cons_append, List.nil_append]

/-- Without a context the teardown stops at its first look at one. -/
theorem run_fsRdmaTeardown_null (config : RdmaParam) :
    fsRdmaTeardown config none = ⟨.error .nullDeref, none, [.enter .teardown]⟩ := by
  rw [fsRdmaTeardown, Traced.run_bind_ok (Traced.run_emit _ _)]
  have harrays : releaseArrays config none = ⟨.ok (), none, []⟩ ∨
      releaseArrays config none = ⟨.error .nullDeref, none, []⟩ := by
    rw [releaseArrays]
    rcases Nat.eq_zero_or_pos config.turns with h0 | hpos
    · rw [h0]
      exact Or.inl rfl
    · obtain ⟨k, hk⟩ : ∃ k, config.turns = k + 1 := ⟨config.turns - 1, by omega⟩
      rw [hk]
      exact Or.inr rfl
  rcases harrays with h | h
  · rw [Traced.run_bind_ok h]
    rfl
  · rw [Traced.run_bind_error h]
    rfl

/-- The calls of the cleanup of `fs_rdma_create_resources`. -/
def cleanupActs (config : RdmaParam) (c : RdmaContext) : List Act :=
  sharedReleaseActs config c ++ releaseAct c.context (.ibvCloseDevice c.context)

/-- The context the cleanup leaves. -/
def RdmaContext.cleaned (config : RdmaParam) (c : RdmaContext) : RdmaContext :=
  { c.arraysReleased config with sendCq := none, recvCq := none, pd := none, context := none }

/-- **The cleanup in closed form.** -/
theorem run_createResourcesOut (config : RdmaParam) (c : RdmaContext) :
    createResourcesOut config (some c) =
      ⟨.ok (), some (c.cleaned config), cleanupActs config c⟩ := by
  rw [createResourcesOut, Traced.run_bind_ok (run_releaseArrays config c),
    Traced.run_bind_ok (run_releaseSendCq _), Traced.run_bind_ok (run_releaseRecvCq _),
    Traced.run_bind_ok (run_releasePd _), run_releaseContext]
  simp only [cleanupActs, sharedReleaseActs, RdmaContext.cleaned, arraysReleased_sendCq,
    arraysReleased_recvCq, arraysReleased_pd, arraysReleased_context, List.append_assoc]

/-! ### Only resources are released -/

/-- The calls both release sequences share. -/
def Act.isShared : Act → Bool
  | .rdmaDestroyQp _ | .ibvDeregMr _ | .free _ | .ibvDestroyCq _ | .ibvDeallocPd _ => true
  | _ => false

theorem Act.isResource_of_isShared {a : Act} (h : a.isShared = true) : a.isResource = true := by
  cases a <;> first | rfl | exact absurd h Bool.false_ne_true

theorem all_releaseAct {q : Act → Bool} {p : Ptr} {call : Act} (h : q call = true) :
    (releaseAct p call).all q = true := by
  rcases p with _ | n
  · rfl
  · simp only [releaseAct_some, List.all_cons, h, List.all_nil, Bool.and_self]

theorem all_arrayActs (config : RdmaParam) (c : RdmaContext) :
    (arrayActs config c).all Act.isShared = true := by
  rw [arrayActs]
  split
  · simp only [turnActs, List.all_append, Bool.and_eq_true]
    exact ⟨all_releaseAct rfl, all_releaseAct rfl, all_releaseAct rfl⟩
  · rfl

theorem all_sharedReleaseActs (config : RdmaParam) (c : RdmaContext) :
    (sharedReleaseActs config c).all Act.isShared = true := by
  simp only [sharedReleaseActs, List.all_append, Bool.and_eq_true]
  exact ⟨all_arrayActs config c, all_releaseAct rfl, all_releaseAct rfl, all_releaseAct rfl⟩

/-- The cleanup releases resources only, never the connection id. -/
theorem all_cleanupActs (config : RdmaParam) (c : RdmaContext) :
    (cleanupActs config c).all Act.isResource = true := by
  simp only [cleanupActs, List.all_append, Bool.and_eq_true]
  refine ⟨List.all_eq_true.mpr fun a ha => ?_, all_releaseAct rfl⟩
  exact Act.isResource_of_isShared (List.all_eq_true.mp (all_sharedReleaseActs config c) a ha)

end Transport
