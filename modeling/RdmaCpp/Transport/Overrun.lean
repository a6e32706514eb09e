import RdmaCpp.Lib.SharedQueue
import RdmaCpp.Transport.FullyCreated
import Mathlib.Algebra.BigOperators.Fin
import Mathlib.Algebra.BigOperators.Group.Finset.Sigma

/-!
# Can a completion queue be overrun

All queue pairs of a connection report to the same two completion queues, one for the
sends and one for the receives. Each queue pair is asked for with
`DEFAULT_BUF_DEPTH` requests in either direction, and the completion queues with that
number times `qp_count`, which is just what can be outstanding – but clamped to what the
device offers, and then nothing clamps the queue pairs.

So, for queue pairs with receive queues of their own and a product that fits an `int`,
the completion queues have the capacity one expects, and they are never overrun exactly
when the device offers as much as the product (`Transport.requested_and_noOverrun_iff`).
-/

namespace Transport

/-! ### The queues of a connection -/

/-- The two kinds of work. -/
inductive Direction
  | send
  | recv
  deriving DecidableEq

instance : Fintype Direction where
  elems := {.send, .recv}
  complete := by
    rintro (_ | _)
    · exact Finset.mem_insert_self _ _
    · exact Finset.mem_insert_of_mem (Finset.mem_singleton_self _)

/-- How much work a queue pair is asked to admit. -/
def QpInitAttr.depth (attr : QpInitAttr) : Direction → ℕ
  | .send => attr.maxSendWr
  | .recv => attr.maxRecvWr

/-- The completion queue that the work of a queue pair is reported to. -/
def QpInitAttr.cq (attr : QpInitAttr) : Direction → Ptr
  | .send => attr.sendCq
  | .recv => attr.recvCq

/-- The attributes of the queue pair that an action makes. -/
def Act.qpMade : Act → Option QpInitAttr
  | .rdmaCreateQp _ _ attr (some _) => some attr
  | _ => none

/-- The queue pairs made in a trace. -/
def qpsOf (t : List Act) : List QpInitAttr := t.filterMap Act.qpMade

/-- **The work queues of queue pairs** that share one completion queue for each kind of
work. -/
def workQueues (qps : List QpInitAttr) : SharedQueue (Fin qps.length × Direction) Direction where
  depth i := (qps.get i.1).depth i.2
  target i := i.2

/-- **The completion queues are never overrun**: whatever is posted, completed and polled on
the queue pairs of the trace, no more completions are unpolled than the capacity that was
requested for their completion queue. -/
def NoOverrun (t : List Act) : Prop :=
  ∀ ops s, (workQueues (qpsOf t)).run SharedQueue.idle ops = some s →
    ∀ attr ∈ qpsOf t, ∀ d context cqe channel,
      .ibvCreateCq context cqe channel (attr.cq d) ∈ t → ((s.queue d).length : ℤ) ≤ cqe

/-- The work that queue pairs of one depth admit in one direction. -/
theorem total_workQueues {qps : List QpInitAttr} {d : Direction} {depth : ℕ}
    (h : ∀ attr ∈ qps, attr.depth d = depth) :
    (workQueues qps).total d = qps.length * depth := by
  calc (workQueues qps).total d
      = ∑ i : Fin qps.length, ∑ d', if d' = d then (qps.get i).depth d' else 0 := by
        rw [SharedQueue.total, Finset.sum_filter, Fintype.sum_prod_type]
        rfl
    _ = ∑ i : Fin qps.length, (qps.get i).depth d :=
        Finset.sum_congr rfl fun i _ => by rw [Finset.sum_ite_eq', if_pos (Finset.mem_univ d)]
    _ = ∑ _i : Fin qps.length, depth :=
        Finset.sum_congr rfl fun i _ => h _ (List.get_mem qps i)
    _ = qps.length * depth := by rw [Finset.sum_const, Finset.card_univ, Fintype.card_fin,
        smul_eq_mul]

/-! ### The queues that a creation makes -/

variable {config : RdmaParam} {o : CreateOutcomes} {c : RdmaContext}

theorem qpsOf_append (t t' : List Act) : qpsOf (t ++ t') = qpsOf t ++ qpsOf t' :=
  List.filterMap_append

theorem qpsOf_sharedActs : qpsOf (sharedActs config o c) = [] := by
  have hcontext : qpsOf (contextActs config o) = [] := by
    rw [contextActs]
    split_ifs <;> rfl
  have hchannel : ∀ c, qpsOf (channelActs config o c) = [] := fun c => by
    rw [channelActs]
    split_ifs <;> rfl
  have hcqs : ∀ c, qpsOf (cqsActs config o c) = [] := fun c => by
    rw [cqsActs]
    split_ifs <;> rfl
  have hsrq : ∀ c, qpsOf (srqActs config o c) = [] := fun c => by
    rw [srqActs]
    split_ifs <;> rfl
  simp only [sharedActs, queueActs, deviceActs, qpsOf_append, hcontext, hchannel, hcqs, hsrq,
    List.append_nil]

/-- The queue pairs of turns that get through. -/
theorem qpsOf_qpsActs {qpType : QpType} (h : qpTypeOf config.connectionType = some qpType)
    {n : ℕ} (hto : QpsTo o c n) :
    qpsOf (qpsActs config o c n) = List.replicate n (qpInitAttr c qpType) := by
  induction n with
  | zero => rw [qpsActs_zero]; rfl
  | succ n ih =>
    obtain ⟨q, hq⟩ := Option.ne_none_iff_exists'.mp (hto n (Nat.lt_succ_self n)).1
    have hlast : qpsOf [Act.rdmaCreateQp c.cmId c.pd (qpInitAttr c qpType) (o.rdmaCreateQp n)] =
        [qpInitAttr c qpType] := by
      rw [hq]
      rfl
    rw [qpsActs_succ h, qpsOf_append, ih fun i hi => hto i (Nat.lt_succ_of_lt hi), hlast,
      List.replicate_succ']

theorem qpsOf_bufsActs (n : ℕ) : qpsOf (bufsActs o c n) = [] := by
  induction n with
  | zero => rfl
  | succ n ih => rw [bufsActs_succ, qpsOf_append, ih]; rfl

/-- The calls of a creation that returns `0`. -/
theorem CreateRan.acts_eq {c' : RdmaContext} {t : List Act} (h : CreateRan config o c 0 c' t) :
    ∃ c₁ c₂ n m, t = .enter .createResources ::
      (sharedActs config o c ++ (qpsActs config o c₁ n ++ bufsActs o c₂ m) ++
        [.leave .createResources 0]) := by
  obtain ⟨exit, t', hexit, hbody, rfl⟩ : ∃ exit t', exit ≠ .out (-1) ∧
      BodyRan config o c exit c' t' ∧
      t = .enter .createResources :: (t' ++ [.leave .createResources 0]) := by
    cases h with
    | made h => exact ⟨_, _, by decide, h, rfl⟩
    | unknown h => exact ⟨_, _, by decide, h, rfl⟩
  cases hbody with
  | noContext | noChannel | noCqs | noSrq => exact absurd rfl hexit
  | qps _ hq =>
    obtain ⟨n, -, rfl⟩ := hq.acts_eq
    exact ⟨_, c, n, 0, by rw [bufsActs, List.range_zero, List.flatMap_nil, List.append_nil]⟩
  | bufs _ hq hb | done _ hq hb =>
    obtain ⟨n, -, rfl⟩ := hq.acts_eq
    obtain ⟨m, rfl, -⟩ := hb.acts_eq
    exact ⟨_, _, n, m, rfl⟩

/-- **The queue pairs of a creation that returns `0`**: as many as there are turns, all of
them alike, if the connection type is known. -/
theorem CreateRan.qpsOf_eq {c' : RdmaContext} {t : List Act} (h : CreateRan config o c 0 c' t)
    {qpType : QpType} (htype : qpTypeOf config.connectionType = some qpType) :
    qpsOf t = List.replicate config.turns (qpInitAttr (c.withShared config o) qpType) := by
  obtain ⟨⟨-, hto, -⟩, -, rfl⟩ := h.complete fun _ => by
    rw [htype]
    exact Option.some_ne_none qpType
  have hqps : qpsOf (qpsActs config o (c.withShared config o) config.turns) =
      List.replicate config.turns (qpInitAttr (c.withShared config o) qpType) :=
    qpsOf_qpsActs htype hto
  change qpsOf (_ ++ _) = _
  rw [qpsOf_append, createdActs, qpsOf_append, qpsOf_append, qpsOf_sharedActs, hqps,
    qpsOf_bufsActs, List.append_nil]
  exact List.append_nil _

/-- An unknown connection type has none. -/
theorem CreateRan.qpsOf_eq_nil {c' : RdmaContext} {t : List Act}
    (h : CreateRan config o c 0 c' t) (htype : qpTypeOf config.connectionType = none) :
    qpsOf t = [] := by
  obtain ⟨c₁, c₂, n, m, rfl⟩ := h.acts_eq
  have hqps : qpsOf (qpsActs config o c₁ n) = [] := by
    rw [qpsActs, htype]
    rfl
  change qpsOf (_ ++ _) = []
  rw [qpsOf_append, qpsOf_append, qpsOf_append, qpsOf_sharedActs, hqps, qpsOf_bufsActs]
  rfl

/-- The action asks for a completion queue of this capacity, or for none. -/
def Act.asksFor (cqe : ℤ) : Act → Bool
  | .ibvCreateCq _ cqe' _ _ => cqe' == cqe
  | _ => true

/-- The capacity asked for is the one computed. -/
theorem all_asksFor_sharedActs :
    (sharedActs config o c).all (Act.asksFor (cqeCount config o.maxCqe)) = true := by
  have hcontext : (contextActs config o).all (Act.asksFor (cqeCount config o.maxCqe)) = true := by
    rw [contextActs]
    split_ifs <;> rfl
  have hchannel : ∀ c, (channelActs config o c).all (Act.asksFor (cqeCount config o.maxCqe)) =
      true := fun c => by
    rw [channelActs]
    split_ifs <;> rfl
  have hcqs : ∀ c, (cqsActs config o c).all (Act.asksFor (cqeCount config o.maxCqe)) = true :=
    fun c => by
      rw [cqsActs]
      split_ifs <;> simp [Act.asksFor]
  have hsrq : ∀ c, (srqActs config o c).all (Act.asksFor (cqeCount config o.maxCqe)) = true :=
    fun c => by
      rw [srqActs]
      split_ifs <;> rfl
  simp only [sharedActs, queueActs, deviceActs, List.all_append, hcontext, hchannel, hcqs, hsrq,
    Bool.and_self]

theorem all_asksFor_qpsActs (cqe : ℤ) (n : ℕ) :
    (qpsActs config o c n).all (Act.asksFor cqe) = true := by
  rw [qpsActs]
  split
  · rfl
  · rw [List.all_map]
    exact List.all_eq_true.mpr fun _ _ => rfl

theorem all_asksFor_bufsActs (cqe : ℤ) (n : ℕ) :
    (bufsActs o c n).all (Act.asksFor cqe) = true := by
  rw [bufsActs, List.all_flatMap]
  exact List.all_eq_true.mpr fun _ _ => rfl

theorem CreateRan.shared_subset {c' : RdmaContext} {t : List Act}
    (h : CreateRan config o c 0 c' t) : sharedActs config o c ⊆ t := by
  obtain ⟨c₁, c₂, n, m, rfl⟩ := h.acts_eq
  intro a ha
  exact List.mem_cons_of_mem _ (List.mem_append_left _ (List.mem_append_left _ ha))

/-- **The capacity requested**, in a creation that returns `0`. -/
theorem CreateRan.cqe_eq {c' : RdmaContext} {t : List Act} (h : CreateRan config o c 0 c' t)
    {context channel q : Ptr} {cqe : ℤ} (hmem : .ibvCreateCq context cqe channel q ∈ t) :
    cqe = cqeCount config o.maxCqe := by
  obtain ⟨c₁, c₂, n, m, rfl⟩ := h.acts_eq
  rw [List.mem_cons, List.mem_append, List.mem_append, List.mem_append] at hmem
  have hasked : Act.asksFor (cqeCount config o.maxCqe) (.ibvCreateCq context cqe channel q) =
      true := by
    rcases hmem with hc | (hs | hq | hb) | hl
    · cases hc
    · exact List.all_eq_true.mp all_asksFor_sharedActs _ hs
    · exact List.all_eq_true.mp (all_asksFor_qpsActs _ n) _ hq
    · exact List.all_eq_true.mp (all_asksFor_bufsActs _ m) _ hb
    · cases List.mem_singleton.mp hl
  exact eq_of_beq hasked

/-- The completion queues of the queue pairs are requested. -/
theorem exists_ibvCreateCq (h : SharedOk config o) (qpType : QpType) (d : Direction) :
    ∃ context channel, .ibvCreateCq context (cqeCount config o.maxCqe) channel
      ((qpInitAttr (c.withShared config o) qpType).cq d) ∈ sharedActs config o c := by
  obtain ⟨-, hsend, hrecv⟩ := withShared_fields (c := c) h
  refine ⟨o.ibvOpenDevice, (c.withShared config o).channel, ?_⟩
  cases d with
  | send =>
    change Act.ibvCreateCq _ _ _ (c.withShared config o).sendCq ∈ _
    rw [hsend]
    exact createSendCq_mem h.2.2.1
  | recv =>
    change Act.ibvCreateCq _ _ _ (c.withShared config o).recvCq ∈ _
    rw [hrecv]
    exact createRecvCq_mem h.2.2.1

/-! ### When they fit -/

/-- **Completion queues of a creation are never overrun** exactly when the capacity covers
the work of all queue pairs. -/
theorem noOverrun_iff_le {c' : RdmaContext} {t : List Act} (h : CreateRan config o c 0 c' t)
    (hturns : 0 < config.turns) :
    NoOverrun t ↔ (qpTypeOf config.connectionType ≠ none →
      ((config.turns * defaultBufDepth : ℕ) : ℤ) ≤ cqeCount config o.maxCqe) := by
  cases htype : qpTypeOf config.connectionType with
  | none =>
    refine ⟨fun _ hc => absurd rfl hc, fun _ ops s _ attr hattr => ?_⟩
    rw [h.qpsOf_eq_nil htype] at hattr
    exact absurd hattr List.not_mem_nil
  | some qpType =>
    have hqps := h.qpsOf_eq htype
    have hattr : ∀ attr ∈ qpsOf t, ∀ d, attr.depth d = defaultBufDepth := by
      intro attr hmem d
      rw [hqps] at hmem
      rw [List.eq_of_mem_replicate hmem]
      cases d <;> rfl
    have htotal : ∀ d, (workQueues (qpsOf t)).total d = config.turns * defaultBufDepth := by
      intro d
      rw [total_workQueues fun attr hmem => hattr attr hmem d, hqps, List.length_replicate]
    constructor
    · intro hno _
      obtain ⟨ops, s, hrun, hlen⟩ := SharedQueue.exists_full (workQueues (qpsOf t)) .send
      obtain ⟨hshared, -, -⟩ := (h.complete fun _ => by
        rw [htype]
        exact Option.some_ne_none qpType).1
      obtain ⟨context, channel, hcq⟩ : ∃ context channel,
          .ibvCreateCq context (cqeCount config o.maxCqe) channel
            ((qpInitAttr (c.withShared config o) qpType).cq .send) ∈ sharedActs config o c :=
        exists_ibvCreateCq hshared qpType .send
      have hmem : qpInitAttr (c.withShared config o) qpType ∈ qpsOf t := by
        rw [hqps]
        exact List.mem_replicate.mpr ⟨by omega, rfl⟩
      have hle := hno ops s hrun _ hmem .send context _ channel (h.shared_subset hcq)
      rwa [hlen, htotal] at hle
    · intro hfit ops s hrun attr _ d context cqe channel hcq
      have hle := (SharedQueue.never_exceeds_iff (workQueues (qpsOf t)) d
        (config.turns * defaultBufDepth)).mpr (htotal d).le ops s hrun
      rw [h.cqe_eq hcq]
      exact (Int.ofNat_le.mpr hle).trans (hfit (Option.some_ne_none qpType))

/-- A product that fits an `int` is clamped to what the device offers. -/
theorem cqeCount_eq {maxCqe : ℤ} (hqp : 1 ≤ config.qpCount)
    (hfit : defaultBufDepth * config.qpCount < 2 ^ 31) :
    cqeCount config maxCqe = min (defaultBufDepth * config.qpCount) maxCqe := by
  have hdepth : (defaultBufDepth : ℤ) = 4096 := rfl
  rw [hdepth] at hfit ⊢
  have hwrap : wrapInt32 (4096 * config.qpCount) = 4096 * config.qpCount := by
    rw [wrapInt32]
    exact Int.bmod_eq_of_le_mul_two (by omega) (by omega)
  rw [cqeCount, hdepth, hwrap]
  split_ifs with hlt <;> omega

/-- **The completion queues of a creation that returns `0`**, for queue pairs with receive
queues of their own: each is asked for with the product, clamped to what the device offers,
and they are never overrun exactly when nothing is clamped, or there are no queue pairs. -/
theorem requested_and_noOverrun_iff {s' : Option RdmaContext} {t : List Act}
    (h : fsRdmaCreateResources config o (some c) = ⟨.ok 0, s', t⟩) (hqp : 1 ≤ config.qpCount)
    (hfit : defaultBufDepth * config.qpCount < 2 ^ 31) (hmax : 1 ≤ o.maxCqe) :
    (∀ context cqe channel q, .ibvCreateCq context cqe channel q ∈ t →
      cqe = min (defaultBufDepth * config.qpCount) o.maxCqe ∧ 0 < cqe) ∧
    (NoOverrun t ↔ (qpTypeOf config.connectionType ≠ none →
      defaultBufDepth * config.qpCount ≤ o.maxCqe)) := by
  obtain ⟨c', -, hran⟩ := (post_fsRdmaCreateResources config o c).of_ok h
  have hdepth : (defaultBufDepth : ℤ) = 4096 := rfl
  have hturns : ((config.turns * defaultBufDepth : ℕ) : ℤ) = defaultBufDepth * config.qpCount := by
    rw [Int.natCast_mul, RdmaParam.turns, Int.toNat_of_nonneg (by omega), Int.mul_comm]
  refine ⟨fun context cqe channel q hmem => ?_, ?_⟩
  · rw [hran.cqe_eq hmem, cqeCount_eq hqp hfit, hdepth]
    exact ⟨rfl, by omega⟩
  · have hpos : 0 < config.turns := by
      rw [RdmaParam.turns]
      omega
    rw [noOverrun_iff_le hran hpos, hturns, cqeCount_eq hqp hfit]
    exact imp_congr_right fun _ => by omega

/-- At the sample creation. -/
theorem requested_and_noOverrun_sample : ∃ s' t,
    fsRdmaCreateResources Sample.config Sample.create (some Sample.fresh) = ⟨.ok 0, s', t⟩ ∧
    (∀ context (cqe : ℤ) channel q, .ibvCreateCq context cqe channel q ∈ t →
      cqe = min (defaultBufDepth * 2) 16384 ∧ 0 < cqe) ∧
    (NoOverrun t ↔ (qpTypeOf .rc ≠ none → (defaultBufDepth : ℤ) * 2 ≤ 16384)) := by
  have hrun : fsRdmaCreateResources Sample.config Sample.create (some Sample.fresh) =
      ⟨.ok 0, _, _⟩ := rfl
  exact ⟨_, _, hrun, requested_and_noOverrun_iff hrun (by decide) (by decide) (by decide)⟩

/-- **A completion queue that is overrun**: the device offers as much as one queue pair needs,
and there are two. -/
theorem not_noOverrun_of_clamped : ∃ s' t,
    fsRdmaCreateResources Sample.config { Sample.create with maxCqe := 4096 }
      (some Sample.fresh) = ⟨.ok 0, s', t⟩ ∧ ¬NoOverrun t := by
  have hrun : fsRdmaCreateResources Sample.config { Sample.create with maxCqe := 4096 }
      (some Sample.fresh) = ⟨.ok 0, _, _⟩ := rfl
  obtain ⟨c', -, hran⟩ := (post_fsRdmaCreateResources _ _ _).of_ok hrun
  refine ⟨_, _, hrun, fun hno => ?_⟩
  have hfit := (noOverrun_iff_le hran (by decide)).mp hno (by decide)
  exact absurd hfit (by decide)

end Transport
