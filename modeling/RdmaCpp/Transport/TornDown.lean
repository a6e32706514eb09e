import RdmaCpp.Transport.Leftovers

/-!
# After a teardown

`fs_rdma_teardown` leaves a context without a connection id and without arrays
(`Transport.Down`), and nothing brings them back: `rdma_ctx->cm_id` is assigned in
`fs_rdma_create_ctx` only. The event loop goes on, and the handlers go on creating resources
on the word of the events that arrive. They get no further than the first queue pair, which
is to be created on `NULL`.

So a connection that was torn down **never comes up again**
(`Transport.stays_down`): whatever events follow, the flag stays as it is, no connection is
requested or accepted, and nothing that a connection has is made or released. What is created
again is a device context, a protection domain and completion queues, and all of them are given
up within the handling of one event (`Transport.GivesBack`), while the completion channels and
the shared receive queues stay behind. A teardown that follows is one that finds nothing to do.
-/

namespace Transport

/-- **A context that has been torn down**: there is no connection id, and no array. -/
structure Down (c : RdmaContext) : Prop where
  cmId : c.cmId = none
  qp : c.qp = none
  mr : c.mr = none
  buf : c.buf = none

/-- Between two events there is no completion queue and no protection domain either. -/
structure AtRest (c : RdmaContext) : Prop extends Down c where
  sendCq : c.sendCq = none
  recvCq : c.recvCq = none
  pd : c.pd = none

/-- The calls that are made of a connection: to bring it up, to give it buffers, to take it
down, to release what it has. -/
def Act.isOfConnection : Act → Bool
  | .rdmaConnect .. | .rdmaAccept .. | .rdmaDestroyId _ | .rdmaDestroyQp _ | .ibvDeregMr _
  | .free _ | .memalign .. | .memset .. | .ibvRegMr .. => true
  | .rdmaCreateQp id .. | .rdmaDisconnect id => id.isSome
  | _ => false

/-- None of these calls is made. -/
def Idle (t : List Act) : Prop := t.all (fun a => !a.isOfConnection) = true

theorem Idle.append {t t' : List Act} (h : Idle t) (h' : Idle t') : Idle (t ++ t') := by
  rw [Idle, List.all_append, h, h']
  rfl

theorem Idle.cons {a : Act} {t : List Act} (ha : a.isOfConnection = false) (h : Idle t) :
    Idle (a :: t) := by
  rw [Idle, List.all_cons, ha, h]
  rfl

variable {config : RdmaParam} {c c' : RdmaContext} {t : List Act}

/-! ### Releasing what is not there -/

theorem idle_releaseAct {p : Ptr} {call : Act} (h : call.isOfConnection = false) :
    Idle (releaseAct p call) :=
  all_releaseAct (by rw [h]; rfl)

/-- Where there are no arrays there is nothing to release in them. -/
theorem Down.arrayActs_eq (h : Down c) : arrayActs config c = [] := by
  rw [arrayActs, turnActs, h.qp, h.mr, h.buf]
  split <;> rfl

theorem Down.arraysReleased_eq (h : Down c) : c.arraysReleased config = c := by
  obtain ⟨_, hqp, hmr, hbuf⟩ := h
  have hsame : c.withoutArrays = c := by
    cases c
    subst hqp hmr hbuf
    rfl
  rw [RdmaContext.arraysReleased, hsame]
  exact ite_self _

/-- **A teardown leaves a context at rest**, as there is a queue pair to go over. -/
theorem atRest_tornDown (hturns : 0 < config.turns) (c : RdmaContext) :
    AtRest (c.tornDown config) := by
  have hgone : c.arraysReleased config = c.withoutArrays := if_pos hturns
  rw [RdmaContext.tornDown, hgone]
  exact ⟨⟨rfl, rfl, rfl, rfl⟩, rfl, rfl, rfl⟩

/-- A cleanup of what has been torn down does too. -/
theorem Down.cleaned (h : Down c) : AtRest (c.cleaned config) := by
  rw [RdmaContext.cleaned, h.arraysReleased_eq]
  exact ⟨⟨h.cmId, h.qp, h.mr, h.buf⟩, rfl, rfl, rfl⟩

theorem Down.idle_cleanupActs (h : Down c) : Idle (cleanupActs config c) := by
  rw [cleanupActs, sharedReleaseActs, h.arrayActs_eq]
  exact (((idle_releaseAct rfl).append ((idle_releaseAct rfl).append (idle_releaseAct rfl)))).append
    (idle_releaseAct rfl)

/-- **A second teardown finds nothing to do.** -/
theorem AtRest.teardownActs_eq (h : AtRest c) :
    teardownActs config c = [.enter .teardown, .leave .teardown 0] := by
  rw [teardownActs, sharedReleaseActs, h.arrayActs_eq, h.sendCq, h.recvCq, h.pd, h.cmId]
  rfl

theorem AtRest.tornDown_eq (h : AtRest c) : c.tornDown config = c := by
  rw [RdmaContext.tornDown, h.arraysReleased_eq]
  obtain ⟨⟨hid, -, -, -⟩, hsend, hrecv, hpd⟩ := h
  cases c
  subst hid hsend hrecv hpd
  rfl

/-! ### Creating on what has been torn down -/

section Create

variable {o : CreateOutcomes}

theorem idle_sharedActs (config : RdmaParam) (o : CreateOutcomes) (c : RdmaContext) :
    Idle (contextActs config o) ∧ Idle (deviceActs config o c) ∧
      Idle (queueActs config o c) ∧ Idle (sharedActs config o c) := by
  have hcontext : Idle (contextActs config o) := by
    rw [Idle, contextActs]
    split_ifs <;> rfl
  have hchannel : ∀ c, Idle (channelActs config o c) := by
    intro c
    rw [Idle, channelActs]
    split_ifs <;> rfl
  have hcqs : ∀ c, Idle (cqsActs config o c) := by
    intro c
    rw [Idle, cqsActs]
    split_ifs <;> rfl
  have hsrq : ∀ c, Idle (srqActs config o c) := by
    intro c
    rw [Idle, srqActs]
    split_ifs <;> rfl
  have hdevice : Idle (deviceActs config o c) := hcontext.append (hchannel _)
  have hqueue : Idle (queueActs config o c) := hdevice.append (hcqs _)
  exact ⟨hcontext, hdevice, hqueue, hqueue.append (hsrq _)⟩

/-- The queue pairs are created on the connection id, of which there is none. -/
theorem idle_qpsActs (hid : c.cmId = none) (n : ℕ) : Idle (qpsActs config o c n) := by
  rw [Idle, qpsActs, hid]
  split
  · rfl
  · rw [List.all_map]
    exact List.all_eq_true.mpr fun _ _ => rfl

theorem Down.withShared (h : Down c) : Down (c.withShared config o) :=
  ⟨h.cmId, h.qp, h.mr, h.buf⟩

theorem Down.withQps (h : Down c) (n : ℕ) : Down (c.withQps o n) := by
  refine ⟨h.cmId, ?_, h.mr, h.buf⟩
  rw [RdmaContext.withQps, h.qp]
  rfl

/-- No queue pair gets through. -/
theorem Down.not_qpsTo (h : Down c) {n : ℕ} (hn : 0 < n) : ¬QpsTo o c n :=
  fun hto => (hto 0 hn).2.1 h.cmId

/-- **The acquisitions fail**, at the first queue pair at the latest. -/
theorem BodyRan.down {exit : Exit} (hturns : 0 < config.turns)
    (htype : qpTypeOf config.connectionType ≠ none) (h : BodyRan config o c exit c' t)
    (hc : Down c) : exit = .out (-1) ∧ Down c' ∧ Idle t := by
  obtain ⟨hcontext, hdevice, hqueue, hshared⟩ := idle_sharedActs config o c
  cases h with
  | noContext => exact ⟨rfl, ⟨hc.cmId, hc.qp, hc.mr, hc.buf⟩, hcontext⟩
  | noChannel => exact ⟨rfl, ⟨hc.cmId, hc.qp, hc.mr, hc.buf⟩, hdevice⟩
  | noCqs => exact ⟨rfl, ⟨hc.cmId, hc.qp, hc.mr, hc.buf⟩, hqueue⟩
  | noSrq => exact ⟨rfl, hc.withShared, hshared⟩
  | qps _ hqps =>
    cases hqps with
    | unknown hnone => exact absurd hnone htype
    | failed i =>
      exact ⟨rfl, hc.withShared.withQps i, hshared.append (idle_qpsActs hc.withShared.cmId _)⟩
  | bufs _ hqps | done _ hqps =>
    cases hqps with
    | done _ hto => exact absurd hto (hc.withShared.not_qpsTo hturns)

/-- Or they stop there. -/
theorem BodyStuck.down (hturns : 0 < config.turns) (h : BodyStuck config o c c' t)
    (hc : Down c) : Down c' ∧ Idle t := by
  obtain ⟨-, -, -, hshared⟩ := idle_sharedActs config o c
  cases h with
  | qps _ hqps =>
    obtain ⟨i, -, -, -, -, -⟩ := hqps
    exact ⟨hc.withShared.withQps i, hshared.append (idle_qpsActs hc.withShared.cmId _)⟩
  | bufs _ hqps =>
    cases hqps with
    | done _ hto => exact absurd hto (hc.withShared.not_qpsTo hturns)

/-- **A creation fails**, and gives up what it has made. -/
theorem CreateRan.down {ret : ℤ} (hturns : 0 < config.turns)
    (htype : qpTypeOf config.connectionType ≠ none) (h : CreateRan config o c ret c' t)
    (hc : Down c) : ret ≠ 0 ∧ AtRest c' ∧ Idle t := by
  cases h with
  | failed h =>
    obtain ⟨-, hdown, hidle⟩ := h.down hturns htype hc
    refine ⟨by decide, hdown.cleaned, Idle.cons rfl (hidle.append ?_)⟩
    exact hdown.idle_cleanupActs.append (Idle.cons rfl rfl)
  | made h | unknown h => cases (h.down hturns htype hc).1

end Create

/-! ### What is given back -/

section GiveBack

/-- Completion channels and shared receive queues: there is no statement that releases one. -/
def Resource.isLasting : Resource → Bool
  | .channel _ | .srq _ => true
  | _ => false

/-- **What is taken is given back**, but for these: whatever is live before is live behind, and
nothing else is. -/
def GivesBack (t : List Act) : Prop :=
  ∀ u, ∃ rest, (books.live u t).Perm (rest ++ u) ∧ rest.all Resource.isLasting = true

theorem givesBack_of_live (h : ∀ u, books.live u t = u) : GivesBack t :=
  fun u => ⟨[], .of_eq (h u), rfl⟩

theorem GivesBack.append {t' : List Act} (h : GivesBack t) (h' : GivesBack t') :
    GivesBack (t ++ t') := by
  intro u
  obtain ⟨rest, hperm, hall⟩ := h u
  obtain ⟨rest', hperm', hall'⟩ := h' (books.live u t)
  refine ⟨rest' ++ rest, ?_, by rw [List.all_append, hall, hall']; rfl⟩
  rw [books.live_append, List.append_assoc]
  exact hperm'.trans (hperm.append_left rest')

/-- What the cleanup releases, when there are no arrays. -/
def RdmaContext.held (c : RdmaContext) : List Resource :=
  c.sendCq.toList.map .cq ++ (c.recvCq.toList.map .cq ++
    (c.pd.toList.map .pd ++ c.context.toList.map .context))

/-- The releases that name what they release. -/
def Act.isNaming : Act → Bool
  | .ibvDestroyCq _ | .ibvDeallocPd _ | .ibvCloseDevice _ => true
  | _ => false

theorem releases_of_isNaming {a : Act} (h : a.isNaming = true) :
    books.takes a = [] ∧ ∀ u, books.drops u a = releases [] a := by
  cases a <;> first | exact ⟨rfl, fun _ => rfl⟩ | exact absurd h Bool.false_ne_true

theorem flatMap_releaseAct {p : Ptr} {call : Act} (kind : ℕ → Resource)
    (h : releases [] call = p.toList.map kind) :
    (releaseAct p call).flatMap (releases []) = p.toList.map kind := by
  rcases p with _ | n
  · rfl
  · rw [releaseAct_some, List.flatMap_cons, List.flatMap_nil, List.append_nil, h]

/-- **The cleanup without arrays** releases what is held, by name. -/
theorem Down.cleanupActs_releases (config : RdmaParam) (h : Down c) :
    (∀ a ∈ cleanupActs config c,
      books.takes a = [] ∧ ∀ u, books.drops u a = releases [] a) ∧
      (cleanupActs config c).flatMap (releases []) = c.held := by
  have hacts : cleanupActs config c = releaseAct c.sendCq (.ibvDestroyCq c.sendCq) ++
      (releaseAct c.recvCq (.ibvDestroyCq c.recvCq) ++
        (releaseAct c.pd (.ibvDeallocPd c.pd) ++
          releaseAct c.context (.ibvCloseDevice c.context))) := by
    rw [cleanupActs, sharedReleaseActs, h.arrayActs_eq]
    simp only [List.nil_append, List.append_assoc]
  rw [hacts]
  constructor
  · intro a ha
    refine releases_of_isNaming (List.all_eq_true.mp ?_ a ha)
    simp only [List.all_append, Bool.and_eq_true]
    exact ⟨all_releaseAct rfl, all_releaseAct rfl, all_releaseAct rfl, all_releaseAct rfl⟩
  · rw [List.flatMap_append, List.flatMap_append, List.flatMap_append,
      flatMap_releaseAct .cq rfl, flatMap_releaseAct .cq rfl, flatMap_releaseAct .pd rfl,
      flatMap_releaseAct .context rfl]
    rfl

variable {o : CreateOutcomes}

/-- **What the acquisitions have taken** is held in the context, but for what lasts. -/
def Holds (c : RdmaContext) (t : List Act) : Prop :=
  ∃ rest, (t.flatMap acquires).Perm (rest ++ c.held) ∧ rest.all Resource.isLasting = true

/-- One more piece, that takes what lasts and what the context holds more than before. -/
theorem Holds.more {t' : List Act} (h : Holds c t) (rest new : List Resource)
    (htakes : t'.flatMap acquires = rest ++ new) (hall : rest.all Resource.isLasting = true)
    (hheld : c'.held = new ++ c.held) : Holds c' (t ++ t') := by
  obtain ⟨rest₀, hperm, hall₀⟩ := h
  refine ⟨rest₀ ++ rest, ?_, by rw [List.all_append, hall₀, hall]; rfl⟩
  rw [List.flatMap_append, htakes, hheld]
  refine (hperm.append_right _).trans (List.perm_iff_count.mpr fun r => ?_)
  simp only [List.count_append]
  omega

theorem holds_contextActs (hc : AtRest c) : Holds (c.withContext o) (contextActs config o) := by
  have htakes : (contextActs config o).flatMap acquires =
      o.ibvOpenDevice.toList.map .context ++
        if AsksPd o then o.ibvAllocPd.toList.map .pd else [] := by
    rw [contextActs]
    split_ifs <;> simp [acquires]
  have hheld : (c.withContext o).held =
      (if AsksPd o then o.ibvAllocPd.toList.map .pd else []) ++
        o.ibvOpenDevice.toList.map .context := by
    simp only [RdmaContext.held, RdmaContext.withContext, hc.sendCq, hc.recvCq, hc.pd]
    split_ifs <;> rfl
  refine ⟨[], ?_, rfl⟩
  rw [htakes, hheld]
  exact List.perm_append_comm

theorem Holds.channel (h : Holds c t) :
    Holds (c.withChannel config o) (t ++ channelActs config o c) := by
  by_cases huse : config.useEvent ≠ 0
  · refine h.more (o.ibvCreateCompChannel.toList.map .channel) [] ?_ ?_ rfl
    · rw [channelActs, if_pos huse]
      rfl
    · cases o.ibvCreateCompChannel <;> rfl
  · refine h.more [] [] ?_ rfl rfl
    rw [channelActs, if_neg huse]
    rfl

theorem Holds.cqs (h : Holds c t) (hsend : c.sendCq = none) (hrecv : c.recvCq = none) :
    Holds (c.withCqs o) (t ++ cqsActs config o c) := by
  refine h.more [] ((if o.ibvQueryDevice = 0 then o.createSendCq.toList.map .cq else []) ++
    if CqsOk o then o.createRecvCq.toList.map .cq else []) ?_ rfl ?_
  · rw [cqsActs]
    split_ifs <;> simp [acquires]
  · simp only [RdmaContext.held, RdmaContext.withCqs, hsend, hrecv]
    split_ifs <;> simp

theorem Holds.srq (h : Holds c t) : Holds (c.withSrq config o) (t ++ srqActs config o c) := by
  by_cases huse : config.useSrq ≠ 0
  · refine h.more (o.ibvCreateSrq.toList.map .srq) [] ?_ ?_ rfl
    · rw [srqActs, if_pos huse]
      rfl
    · cases o.ibvCreateSrq <;> rfl
  · refine h.more [] [] ?_ rfl rfl
    rw [srqActs, if_neg huse]
    rfl

/-- On no id no queue pair is attached to one. -/
theorem Holds.qps (h : Holds c t) (hid : c.cmId = none) (k n : ℕ) :
    Holds (c.withQps o k) (t ++ qpsActs config o c n) := by
  refine h.more [] [] ?_ rfl rfl
  rw [qpsActs, hid]
  split
  · rfl
  · rw [List.flatMap_map]
    exact List.flatMap_eq_nil_iff.mpr fun _ _ => rfl

/-- **The acquisitions that fail** hold what they have taken. -/
theorem BodyRan.holds (hturns : 0 < config.turns) (htype : qpTypeOf config.connectionType ≠ none)
    {exit : Exit} (h : BodyRan config o c exit c' t) (hc : AtRest c) : Holds c' t := by
  have hdevice : Holds ((c.withContext o).withChannel config o) (deviceActs config o c) :=
    (holds_contextActs hc).channel
  have hqueue : Holds (((c.withContext o).withChannel config o).withCqs o)
      (queueActs config o c) := hdevice.cqs hc.sendCq hc.recvCq
  have hshared : Holds (c.withShared config o) (sharedActs config o c) := hqueue.srq
  cases h with
  | noContext => exact holds_contextActs hc
  | noChannel => exact hdevice
  | noCqs => exact hqueue
  | noSrq => exact hshared
  | qps _ hqps =>
    cases hqps with
    | unknown hnone => exact absurd hnone htype
    | failed i => exact hshared.qps hc.cmId i _
  | bufs _ hqps | done _ hqps =>
    cases hqps with
    | done _ hto => exact absurd hto (hc.toDown.withShared.not_qpsTo hturns)

/-- **A creation gives back what it has taken**, when there is no id. -/
theorem CreateRan.givesBack {ret : ℤ} (hturns : 0 < config.turns)
    (htype : qpTypeOf config.connectionType ≠ none) (h : CreateRan config o c ret c' t)
    (hc : AtRest c) : GivesBack t := by
  cases h with
  | failed h =>
    obtain ⟨-, hdown, -⟩ := h.down hturns htype hc.toDown
    obtain ⟨hnames, hreleases⟩ := hdown.cleanupActs_releases config
    obtain ⟨rest, hperm, hall⟩ := h.holds hturns htype hc
    rw [← hreleases] at hperm
    have hboth : GivesBack _ := fun u => ⟨rest, Ledger.live_append_perm (L := books) (u := u)
      (keeps_of_isKeeping (all_isKeeping_of_isMaking h.frame.1)) hnames hperm, hall⟩
    rw [← List.append_assoc]
    exact (givesBack_of_live (t := [.enter .createResources]) fun _ => rfl).append
      (hboth.append (givesBack_of_live fun _ => rfl))
  | made h | unknown h => cases (h.down hturns htype hc.toDown).1

end GiveBack

/-! ### Handling an event on what has been torn down -/

section Handle

variable {o : HandlerOutcomes} {event : CmEvent} {r : Option CmEvent}

/-- **Every event is handled without bringing anything back.** -/
theorem Handled.atRest (hturns : 0 < config.turns)
    (htype : qpTypeOf config.connectionType ≠ none) (h : Handled config o event c r c' t)
    (hc : AtRest c) : AtRest c' ∧ c'.connected = c.connected ∧ Idle t := by
  have hinit : ¬Initiates event c := by
    rintro ⟨-, hid⟩
    rw [hc.cmId] at hid
    cases hid
  cases h with
  | other => exact ⟨hc, rfl, rfl⟩
  | resolved => exact ⟨hc, rfl, rfl⟩
  | unresolved =>
    rw [hc.tornDown_eq, hc.teardownActs_eq]
    exact ⟨hc, rfl, rfl⟩
  | uncreated _ hran =>
    obtain ⟨-, hrest, hidle⟩ := hran.down hturns htype hc.toDown
    rw [hrest.tornDown_eq, hrest.teardownActs_eq]
    exact ⟨hrest, hran.frame.2.2.1, Idle.cons rfl (hidle.append rfl)⟩
  | unconnected _ hran | connecting _ hran | unaccepted _ hran | accepted _ hran =>
    exact absurd rfl (hran.down hturns htype hc.toDown).1
  | established =>
    rw [RdmaContext.initiated, if_neg hinit, initActs, if_neg hinit, hc.cmId]
    exact ⟨hc, rfl, rfl⟩
  | error | disconnected =>
    rw [hc.tornDown_eq, hc.teardownActs_eq]
    exact ⟨hc, rfl, rfl⟩

/-- **Nor does it leave anything** but what lasts. -/
theorem Handled.givesBack (hturns : 0 < config.turns)
    (htype : qpTypeOf config.connectionType ≠ none) (h : Handled config o event c r c' t)
    (hc : AtRest c) : GivesBack t := by
  cases h with
  | other => exact givesBack_of_live fun _ => rfl
  | resolved => exact givesBack_of_live fun _ => rfl
  | unresolved | error | disconnected =>
    rw [hc.teardownActs_eq]
    exact givesBack_of_live fun _ => rfl
  | uncreated _ hran =>
    obtain ⟨-, hrest, -⟩ := hran.down hturns htype hc.toDown
    rw [hrest.teardownActs_eq]
    exact (givesBack_of_live (t := [.readEvent event]) fun _ => rfl).append
      ((hran.givesBack hturns htype hc).append (givesBack_of_live fun _ => rfl))
  | unconnected _ hran | connecting _ hran | unaccepted _ hran | accepted _ hran =>
    exact absurd rfl (hran.down hturns htype hc.toDown).1
  | established =>
    rw [initActs]
    split_ifs <;> exact givesBack_of_live fun _ => rfl

theorem HandledStuck.down (hturns : 0 < config.turns) (h : HandledStuck config o event c c' t)
    (hc : Down c) : Down c' ∧ c'.connected = c.connected ∧ Idle t := by
  obtain ⟨-, hstuck⟩ := h
  obtain ⟨hdown, hidle⟩ := hstuck.down hturns hc
  exact ⟨hdown, hstuck.frame.2.2.1, Idle.cons rfl (Idle.cons rfl hidle)⟩

/-- **A teardown is the only way** to its return: an event in whose handling it returns leaves
what it leaves. -/
theorem Handled.tornDown_of_mem {ret : ℤ} (h : Handled config o event c r c' t)
    (hmem : .leave .teardown ret ∈ t) : ∃ c₁ : RdmaContext, c' = c₁.tornDown config := by
  have hcreate : ∀ {ret' : ℤ} {c₁ : RdmaContext} {t₁ : List Act},
      CreateRan config o.create c ret' c₁ t₁ → .leave .teardown ret ∉ t₁ := by
    intro ret' c₁ t₁ hran hmem
    obtain ⟨⟨t₂, rfl, hres⟩, -⟩ := hran.frame
    simp only [List.mem_cons, List.mem_append, reduceCtorEq, Act.leave.injEq, false_and,
      List.not_mem_nil, or_false, false_or] at hmem
    exact absurd (List.all_eq_true.mp hres _ hmem) Bool.false_ne_true
  have hinit : ∀ c, .leave .teardown ret ∉ initActs event c := by
    intro c
    rw [initActs]
    split_ifs <;> simp
  cases h with
  | unresolved | uncreated | unconnected | unaccepted | error | disconnected => exact ⟨_, rfl⟩
  | other | resolved => simp [resolveActs] at hmem
  | connecting _ hran => simp [hcreate hran] at hmem
  | accepted _ hran => simp [hcreate hran, hinit] at hmem
  | established => simp [hinit] at hmem

end Handle

/-! ### Runs -/

variable {channel : Ptr} {start : Start}

/-- What is at rest after a history stays so over any events, and so does the flag; and what the
events take is given back, when none of them stops for good. -/
theorem post_fsRdmaCmEventHandler_atRest (hturns : 0 < config.turns)
    (htype : qpTypeOf config.connectionType ≠ none) (channel : Ptr) (b : Option CmEvent)
    (ticks : List Tick) (hc : AtRest c) :
    Traced.Post (fsRdmaCmEventHandler config channel b ticks) (some c)
      (fun _ s t => ∃ c', s = some c' ∧ Down c' ∧ c'.connected = c.connected ∧ Idle t ∧
        GivesBack t)
      (fun _ s t => ∃ c', s = some c' ∧ Down c' ∧ c'.connected = c.connected ∧ Idle t) := by
  refine Traced.post_loopOver (P := fun _ _ _ => True) (h := [])
    (fun _ s h => ∃ c', s = some c' ∧ AtRest c' ∧ c'.connected = c.connected ∧ Idle h ∧
      GivesBack h)
    (Q := fun s h => ∃ c', s = some c' ∧ Down c' ∧ c'.connected = c.connected ∧ Idle h ∧
      GivesBack h)
    (E := fun _ s h => ∃ c', s = some c' ∧ Down c' ∧ c'.connected = c.connected ∧ Idle h)
    ?_ ?_ (Traced.meets_of_mem (fun _ _ _ _ => trivial) _ _ _)
    ⟨c, rfl, hc, rfl, rfl, givesBack_of_live fun _ => rfl⟩
  · rintro b s h ⟨got, o⟩ - ⟨c₁, rfl, hrest, hconn, hidle, hgives⟩
    have hread : ∀ event, Idle (obtainActs channel event) := fun _ => rfl
    rcases got with _ | event
    · have hnone : Idle (idleActs channel b) := by cases b <;> rfl
      have hnothing : GivesBack (idleActs channel b) := by
        cases b <;> exact givesBack_of_live fun _ => rfl
      refine post_turn_idle.mono ?_ ?_
      · rintro r s t ⟨rfl, rfl, rfl⟩
        exact ⟨c₁, rfl, hrest.toDown, hconn, hidle.append hnone, hgives.append hnothing⟩
      · rintro e s t ⟨rfl, rfl⟩
        exact ⟨c₁, rfl, hrest.toDown, hconn, hidle.append hnone⟩
    · refine post_turn_obtained.mono ?_ ?_
      · rintro r s t ⟨r', c', t', rfl, rfl, rfl, hran⟩
        obtain ⟨hrest', hconn', hidle'⟩ := hran.atRest hturns htype hrest
        have hobtain : GivesBack (obtainActs channel event) := givesBack_of_live fun _ => rfl
        exact ⟨c', rfl, hrest', hconn'.trans hconn, hidle.append ((hread event).append hidle'),
          hgives.append (hobtain.append (hran.givesBack hturns htype hrest))⟩
      · rintro e s t ⟨c', t', rfl, rfl, hran⟩
        obtain ⟨hdown, hconn', hidle'⟩ := hran.down hturns hrest.toDown
        exact ⟨c', rfl, hdown, hconn'.trans hconn, hidle.append ((hread event).append hidle')⟩
  · rintro _ s h ⟨c₁, rfl, hrest, hconn, hidle, hgives⟩
    exact ⟨c₁, rfl, hrest.toDown, hconn, hidle, hgives⟩

/-- A start tears nothing down. -/
theorem Started.not_mem_leave {s : Option RdmaContext} (h : Started config start s t) (ret : ℤ) :
    .leave .teardown ret ∉ t :=
  fun hmem => absurd (List.all_eq_true.mp h.all_isStarting _ hmem) Bool.false_ne_true

/-- **Once a teardown has returned the context is at rest**, between any two events of a
run. -/
theorem atRest_invariant (hturns : 0 < config.turns)
    (htype : qpTypeOf config.connectionType ≠ none) :
    RunInvariant config channel start (fun _ _ _ => True)
      (fun s h => ∀ ret, .leave .teardown ret ∈ h → ∃ c, s = some c ∧ AtRest c)
      (fun out s h => out = .ok () →
        ∀ ret, .leave .teardown ret ∈ h → ∃ c, s = some c ∧ AtRest c) where
  started s t h ret hmem := absurd hmem (h.not_mem_leave ret)
  exits e s t _ := fun hout => by cases hout
  handled c h o event r c' t _ hI hran := by
    intro ret hmem
    have hcases : .leave .teardown ret ∈ h ∨ .leave .teardown ret ∈ t := by
      simpa only [obtainActs, List.mem_append, List.mem_cons, reduceCtorEq, List.not_mem_nil,
        or_false, false_or] using hmem
    rcases hcases with hold | hnew
    · obtain ⟨c₁, hc, hrest⟩ := hI ret hold
      cases hc
      exact ⟨c', rfl, (hran.atRest hturns htype hrest).1⟩
    · obtain ⟨c₁, rfl⟩ := hran.tornDown_of_mem hnew
      exact ⟨_, rfl, atRest_tornDown hturns c₁⟩
  stuck c h o event c' t e _ _ _ := fun hout => by cases hout
  handledNull h o event r t _ hI hran := by
    intro ret hmem
    have hold : .leave .teardown ret ∈ h := by
      rcases List.mem_append.mp hmem with hold | hnew
      · exact hold
      · cases hran <;> simp [obtainActs, resolveActs] at hnew
    obtain ⟨c, hc, -⟩ := hI ret hold
    cases hc
  nullStuck h o event t e _ _ _ := fun hout => by cases hout
  idle s h event out hI := by
    intro _ ret hmem
    refine hI ret ((List.mem_append.mp hmem).resolve_right fun hnew => ?_)
    cases event <;> simp [idleActs] at hnew
  ends s h out hI := fun _ => hI

/-- **Torn down for good.** Once `fs_rdma_teardown` has returned in a run, then whatever events
follow, and whatever the calls bring back: there is no connection id and no array any more, the
connected flag is as it was, and the calls of a connection are not made again – none is
requested or accepted, no buffer is allocated or registered, nothing that a connection has is
released, and if `rdma_create_qp` or `rdma_disconnect` is called it is called on `NULL`. And
unless a call does not return, what the events take of other resources they have given back,
but for completion channels and shared receive queues. -/
theorem stays_down (hturns : 0 < config.turns) (htype : qpTypeOf config.connectionType ≠ none)
    (channel : Ptr) (start : Start) (ticks ticks' : List Tick) (s : Option RdmaContext)
    (hrun : run config channel start ticks none = ⟨.ok (), s, t⟩) (ret : ℤ)
    (htorn : .leave .teardown ret ∈ t) :
    ∃ c c' q, s = some c ∧
      (run config channel start (ticks ++ ticks') none).state = some c' ∧
      (run config channel start (ticks ++ ticks') none).trace = t ++ q ∧
      Down c' ∧ c'.connected = c.connected ∧ Idle q ∧
      ((run config channel start (ticks ++ ticks') none).out = .ok () → GivesBack q) := by
  have hmeets : RunMeets (fun _ _ _ => True) config channel start ticks := fun s t _ =>
    Traced.meets_of_mem (fun _ _ _ _ => trivial) none s t
  have hinv := (atRest_invariant hturns htype).post_run hmeets
  obtain ⟨c, rfl, hrest⟩ := hinv.of_ok hrun rfl ret htorn
  refine ⟨c, ?_⟩
  -- the start is the same, and then the loop is granted more events
  rcases hstart : start.code config none with ⟨e | ⟨⟩, s₁, t₁⟩
  · rw [run, Traced.run_bind_error hstart] at hrun
    cases hrun
  rw [run, Traced.run_bind_ok hstart] at hrun
  obtain ⟨hout, hstate, rfl⟩ := Ran.mk.inj hrun
  have hloop : fsRdmaCmEventHandler config channel none ticks s₁ =
      ⟨.ok (), some c, (fsRdmaCmEventHandler config channel none ticks s₁).trace⟩ := by
    rw [← hout, ← hstate]
  rw [run, Traced.run_bind_ok hstart]
  rcases Traced.exists_of_loopOver_append ticks' hloop with hleft | ⟨b, hwaits⟩
  · refine ⟨c, [], rfl, congrArg Ran.state hleft, ?_, hrest.toDown, rfl, rfl,
      fun _ => givesBack_of_live fun _ => rfl⟩
    have htrace : (fsRdmaCmEventHandler config channel none (ticks ++ ticks') s₁).trace =
        (fsRdmaCmEventHandler config channel none ticks s₁).trace := by
      rw [fsRdmaCmEventHandler, hleft]
    rw [List.append_nil, htrace]
  · have hpost := post_fsRdmaCmEventHandler_atRest hturns htype channel b ticks' hrest
    have hstays : ∃ c', (fsRdmaCmEventHandler config channel b ticks' (some c)).state = some c' ∧
        Down c' ∧ c'.connected = c.connected ∧
        Idle (fsRdmaCmEventHandler config channel b ticks' (some c)).trace ∧
        ((fsRdmaCmEventHandler config channel b ticks' (some c)).out = .ok () →
          GivesBack (fsRdmaCmEventHandler config channel b ticks' (some c)).trace) := by
      rcases hmore : fsRdmaCmEventHandler config channel b ticks' (some c) with ⟨e | ⟨⟩, s₂, t₂⟩
      · obtain ⟨c', hc', hdown, hconn, hidle⟩ := hpost.of_error hmore
        exact ⟨c', hc', hdown, hconn, hidle, fun hc => by cases hc⟩
      · obtain ⟨c', hc', hdown, hconn, hidle, hgives⟩ := hpost.of_ok hmore
        exact ⟨c', hc', hdown, hconn, hidle, fun _ => hgives⟩
    obtain ⟨c', hc', hdown, hconn, hidle, hgives⟩ := hstays
    refine ⟨c', _, rfl, (congrArg Ran.state hwaits).trans hc', ?_, hdown, hconn, hidle,
      fun hok => hgives ((congrArg Ran.out hwaits).symm.trans hok)⟩
    rw [List.append_assoc]
    exact congrArg (t₁ ++ ·) (congrArg Ran.trace hwaits)

/-- The sample client, which loses its connection, and to which the same events happen
again. -/
theorem stays_down_client :
    ∃ c c' q, (Sample.clientRun [.addrResolved, .routeResolved, .disconnected]).state = some c ∧
      (run Sample.config (some 10) (Sample.connect Sample.block)
        ([.addrResolved, .routeResolved, .disconnected].map (Sample.tick · 11) ++
          [.addrResolved, .routeResolved, .established].map (Sample.tick · 11)) none).state =
        some c' ∧
      (run Sample.config (some 10) (Sample.connect Sample.block)
        ([.addrResolved, .routeResolved, .disconnected].map (Sample.tick · 11) ++
          [.addrResolved, .routeResolved, .established].map (Sample.tick · 11)) none).trace =
        (Sample.clientRun [.addrResolved, .routeResolved, .disconnected]).trace ++ q ∧
      Down c' ∧ c'.connected = c.connected ∧ Idle q ∧
      ((run Sample.config (some 10) (Sample.connect Sample.block)
        ([.addrResolved, .routeResolved, .disconnected].map (Sample.tick · 11) ++
          [.addrResolved, .routeResolved, .established].map (Sample.tick · 11)) none).out =
        .ok () → GivesBack q) :=
  stays_down (by decide) (by decide) (some 10) (Sample.connect Sample.block) _ _ _ rfl 0 (by decide)

end Transport
