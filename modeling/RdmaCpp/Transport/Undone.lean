import RdmaCpp.Transport.Books
import RdmaCpp.Transport.FullyCreated

/-!
# A failure undoes everything

When `fs_rdma_create_resources` fails, the cleanup under its label should give back what
this call has acquired: everything, once, and nothing else; and no field should go on
referring to it (`Transport.FailsAtomically`).

The cleanup tests fields, and the fields do not say what has been acquired. The arrays `qp`,
`mr` and `buf` are there long before anything is in them, so they are destroyed,
deregistered and freed themselves, and what is in them is lost; `pd` and the completion
queues may hold what was never assigned; the completion channel and the shared receive queue
are not released at all. What the cleanup gives back can be read off the context it finds
(`Transport.settles_cleanupActs`), what has been acquired off the step that failed, and the
two agree in a few cases only (`Transport.failsAtomically_iff_clean`).
-/

namespace Transport

/-! ### What a failure should leave -/

/-- **The release is one of something live**: acquired in this call, and not released yet. -/
def ReleasesLive (u : List Resource) : Act → Prop
  | .rdmaDestroyQp id => ∃ i p, id = some i ∧ .qp i p ∈ u
  | .ibvDeregMr mr => Held .mr u mr
  | .free p => Held .buffer u p
  | .ibvDestroyCq cq => Held .cq u cq
  | .ibvDeallocPd pd => Held .pd u pd
  | .ibvCloseDevice context => Held .context u context
  | _ => True

/-- **The books of one call.** -/
def undo : Ledger Act Resource := ⟨acquires, releases, ReleasesLive⟩

/-- The context refers to a resource. -/
def RdmaContext.RefersTo (c : RdmaContext) : Resource → Prop
  | .cmId p => c.cmId = some p
  | .context p => c.context = some p
  | .channel p => c.channel = some p
  | .pd p => c.pd = some p
  | .cq p => c.sendCq = some p ∨ c.recvCq = some p
  | .srq p => c.srq = some p
  | .qp _ p => ∃ i, elem c.qp i = some p
  | .mr p => ∃ i, elem c.mr i = some p
  | .buffer p => ∃ i, elem c.buf i = some p
  | .array p => arrayPtr c.qp = some p ∨ arrayPtr c.mr = some p ∨ arrayPtr c.buf = some p

/-- **Everything is undone** after the actions of a call. -/
structure Undone (c : RdmaContext) (t : List Act) : Prop where
  /-- Nothing is released that the call has not acquired, or has released before. -/
  owned : ∀ h a r, t = h ++ a :: r → ReleasesLive (undo.live [] h) a
  /-- Everything the call has acquired has been released. -/
  settled : undo.live [] t = []
  /-- No field refers to it. -/
  cleared : ∀ a ∈ t, ∀ r ∈ acquires a, ¬c.RefersTo r

/-- **A failure is atomic.** -/
def FailsAtomically (r : Ran (Option RdmaContext) Act Fault ℤ) : Prop :=
  ∀ ret c, r.out = .ok ret → r.state = some c → ret ≠ 0 → Undone c r.trace

/-- **What the cleanup can undo.** -/
structure Clean (config : RdmaParam) (o : CreateOutcomes) (c : RdmaContext) : Prop where
  /-- There are no arrays but, perhaps, one of queue pairs, in which there is just one. -/
  mr : c.mr = none
  buf : c.buf = none
  qp : c.qp = none ∨ SharedOk config o ∧ QpsTo o c 1 ∧ o.rdmaCreateQp 1 = none
  /-- No completion channel has been created. -/
  channel : ContextOk o → config.useEvent ≠ 0 → o.ibvCreateCompChannel = none
  /-- No shared receive queue has been created. -/
  srq : ContextOk o → ChannelOk config o → CqsOk o → config.useSrq ≠ 0 → o.ibvCreateSrq = none
  /-- What has not been assigned is `NULL`. -/
  pd : ¬AsksPd o → c.pd = none
  sendCq : ¬(ContextOk o ∧ ChannelOk config o ∧ o.ibvQueryDevice = 0) → c.sendCq = none
  recvCq : ¬(ContextOk o ∧ ChannelOk config o ∧ CqsOk o) → c.recvCq = none

variable {config : RdmaParam} {o : CreateOutcomes} {c : RdmaContext} {t : List Act}

/-- The books of a call, by the monitor. -/
theorem undone_iff : Undone c t ↔
    undo.monitor.Leads [] t [] ∧ ∀ a ∈ t, ∀ r ∈ acquires a, ¬c.RefersTo r := by
  rw [Monitor.Leads, undo.monitor.accepts_iff]
  exact ⟨fun h => ⟨⟨h.owned, h.settled⟩, h.cleared⟩, fun h => ⟨h.1.1, h.1.2, h.2⟩⟩

/-! ### What the cleanup gives back -/

/-- The queue pair that the cleanup releases, if the array is there: one of the current
id. -/
def QpReleased (c : RdmaContext) (q : List Resource) : Prop :=
  c.qp = none ∧ q = [] ∨ c.qp ≠ none ∧ ∃ i p, c.cmId = some i ∧ q = [.qp i p]

/-- What else the cleanup gives back: the arrays of regions and buffers, as if they were a
region and a buffer, and the fields. -/
def cleanupReleases (c : RdmaContext) : List Resource :=
  (arrayPtr c.mr).toList.map .mr ++ ((arrayPtr c.buf).toList.map .buffer ++
    (c.sendCq.toList.map .cq ++ (c.recvCq.toList.map .cq ++
      (c.pd.toList.map .pd ++ c.context.toList.map .context))))

/-- A releasing statement of a field gives back what the field refers to. -/
theorem settles_releaseAct {kind : ℕ → Resource} {call : Ptr → Act} {R : List Resource}
    (htakes : ∀ p, acquires (call p) = []) (hok : ∀ u p, ReleasesLive u (call p) ↔ Held kind u p)
    (hdrops : ∀ u n, kind n ∈ u → releases u (call (some n)) = [kind n]) (p : Ptr)
    (h : undo.Settles t R) :
    undo.Settles (releaseAct p (call p) ++ t) (p.toList.map kind ++ R) := by
  cases p with
  | none => exact h
  | some n =>
    refine Ledger.Settles.cons (htakes (some n)) (fun u => (hok u (some n)).trans ?_)
      (fun u hu => hdrops u n hu) h
    constructor
    · rintro ⟨m, hm, hmem⟩
      rwa [Option.some.inj hm]
    · exact fun hmem => ⟨n, rfl, hmem⟩

/-- **The cleanup but for the queue pair** gives back what its fields refer to. -/
theorem settles_rest (c : RdmaContext) : undo.Settles
    (releaseAct (arrayPtr c.mr) (.ibvDeregMr (arrayPtr c.mr)) ++
      (releaseAct (arrayPtr c.buf) (.free (arrayPtr c.buf)) ++
        (releaseAct c.sendCq (.ibvDestroyCq c.sendCq) ++
          (releaseAct c.recvCq (.ibvDestroyCq c.recvCq) ++
            (releaseAct c.pd (.ibvDeallocPd c.pd) ++
              (releaseAct c.context (.ibvCloseDevice c.context) ++ []))))))
    (cleanupReleases c) := by
  have hcontext : undo.Settles (releaseAct c.context (.ibvCloseDevice c.context) ++ [])
      (c.context.toList.map .context ++ []) :=
    settles_releaseAct (fun _ => rfl) (fun _ _ => Iff.rfl) (fun _ _ _ => rfl) _ undo.settles_nil
  rw [List.append_nil (List.map _ _)] at hcontext
  have hfree : ∀ (u : List Resource) n, .buffer n ∈ u → releases u (.free (some n)) =
      [.buffer n] := by
    intro u n hn
    change [if Resource.buffer n ∈ u then Resource.buffer n else .array n] = _
    rw [if_pos hn]
  refine settles_releaseAct (fun _ => rfl) (fun _ _ => Iff.rfl) (fun _ _ _ => rfl) _ ?_
  refine settles_releaseAct (fun _ => rfl) (fun _ _ => Iff.rfl) hfree _ ?_
  refine settles_releaseAct (fun _ => rfl) (fun _ _ => Iff.rfl) (fun _ _ _ => rfl) _ ?_
  refine settles_releaseAct (fun _ => rfl) (fun _ _ => Iff.rfl) (fun _ _ _ => rfl) _ ?_
  exact settles_releaseAct (fun _ => rfl) (fun _ _ => Iff.rfl) (fun _ _ _ => rfl) _ hcontext

/-- There is no queue pair in that. -/
theorem isQpOf_cleanupReleases (i : ℕ) : ∀ r ∈ cleanupReleases c, r.isQpOf i = false := by
  intro r hr
  simp only [cleanupReleases, List.mem_append, List.mem_map] at hr
  rcases hr with ⟨n, -, rfl⟩ | ⟨n, -, rfl⟩ | ⟨n, -, rfl⟩ | ⟨n, -, rfl⟩ | ⟨n, -, rfl⟩ |
    ⟨n, -, rfl⟩ <;> rfl

/-- Destroying the queue pair of an id, when it is the only one. -/
theorem leads_rdmaDestroyQp {id : Ptr} {R u : List Resource} (h : undo.Settles t R)
    (hR : ∀ i, ∀ r ∈ R, r.isQpOf i = false) :
    undo.monitor.Leads u (.rdmaDestroyQp id :: t) [] ↔
      ∃ i p, id = some i ∧ u.Perm (.qp i p :: R) := by
  -- the call gives back the queue pair of the id, if there is one
  have hstep : ∀ i r, u.find? (Resource.isQpOf i) = some r →
      undo.monitor.step u (.rdmaDestroyQp (some i)) = u.erase r := by
    intro i r hfind
    change acquires (.rdmaDestroyQp (some i)) ++ u.diff (releases u (.rdmaDestroyQp (some i))) = _
    have hreleases : releases u (.rdmaDestroyQp (some i)) = [r] := by
      rw [releases, Option.toList_some, List.flatMap_cons, hfind]
      rfl
    rw [hreleases, List.diff_cons, List.diff_nil]
    rfl
  constructor
  · rintro ⟨⟨⟨i, p, rfl, hmem⟩, hrest⟩, hafter⟩
    obtain ⟨r, hfind⟩ : ∃ r, u.find? (Resource.isQpOf i) = some r := by
      rcases hfind : u.find? (Resource.isQpOf i) with _ | r
      · have hno := List.find?_eq_none.mp hfind _ hmem
        simp [Resource.isQpOf] at hno
      · exact ⟨r, rfl⟩
    obtain ⟨p', rfl⟩ : ∃ p', r = .qp i p' := by
      have hqp := List.find?_some hfind
      cases r with
      | qp i' p' =>
        obtain rfl : i' = i := of_decide_eq_true hqp
        exact ⟨p', rfl⟩
      | _ => exact absurd hqp Bool.false_ne_true
    rw [hstep i _ hfind] at hrest
    rw [Monitor.after_cons, hstep i _ hfind] at hafter
    exact ⟨i, p', rfl, (List.perm_cons_erase (List.mem_of_find?_eq_some hfind)).trans
      (((h _).mp ⟨hrest, hafter⟩).cons _)⟩
  · rintro ⟨i, p, rfl, hperm⟩
    have hmem : .qp i p ∈ u := hperm.symm.subset List.mem_cons_self
    have hfind : u.find? (Resource.isQpOf i) = some (.qp i p) := by
      rcases hfind : u.find? (Resource.isQpOf i) with _ | r
      · have hno := List.find?_eq_none.mp hfind _ hmem
        simp [Resource.isQpOf] at hno
      · -- another queue pair of the id would be among the rest
        rcases List.mem_cons.mp (hperm.subset (List.mem_of_find?_eq_some hfind)) with rfl | hr
        · rfl
        · have hqp := List.find?_some hfind
          rw [hR i r hr] at hqp
          cases hqp
    refine Monitor.Leads.cons ⟨i, p, rfl, hmem⟩ ?_
    rw [hstep i _ hfind]
    exact (h _).mpr (List.cons_perm_iff_perm_erase.mp hperm.symm).2.symm

/-- **What the cleanup gives back**: it settles the books when these are what is live. -/
theorem leads_cleanupActs (hpos : 0 < config.turns) (u : List Resource) :
    undo.monitor.Leads u (cleanupActs config c) [] ↔
      ∃ q, QpReleased c q ∧ u.Perm (q ++ cleanupReleases c) := by
  have hsplit : cleanupActs config c = releaseAct (arrayPtr c.qp) (.rdmaDestroyQp c.cmId) ++
      (releaseAct (arrayPtr c.mr) (.ibvDeregMr (arrayPtr c.mr)) ++
        (releaseAct (arrayPtr c.buf) (.free (arrayPtr c.buf)) ++
          (releaseAct c.sendCq (.ibvDestroyCq c.sendCq) ++
            (releaseAct c.recvCq (.ibvDestroyCq c.recvCq) ++
              (releaseAct c.pd (.ibvDeallocPd c.pd) ++
                (releaseAct c.context (.ibvCloseDevice c.context) ++ [])))))) := by
    simp only [cleanupActs, sharedReleaseActs, arrayActs, if_pos hpos, turnActs,
      List.append_assoc, List.append_nil]
  rw [hsplit]
  rcases hqp : c.qp with _ | a
  · refine (settles_rest c u).trans ⟨fun h => ⟨[], Or.inl ⟨hqp, rfl⟩, h⟩, ?_⟩
    rintro ⟨q, ⟨-, rfl⟩ | ⟨hne, -⟩, h⟩
    · exact h
    · exact absurd hqp hne
  · have hne : c.qp ≠ none := by
      rw [hqp]
      exact Option.some_ne_none a
    refine (leads_rdmaDestroyQp (settles_rest c) fun i => isQpOf_cleanupReleases i).trans ?_
    constructor
    · rintro ⟨i, p, hid, h⟩
      exact ⟨[.qp i p], Or.inr ⟨hne, i, p, hid, rfl⟩, h⟩
    · rintro ⟨q, ⟨hnone, -⟩ | ⟨-, i, p, hid, rfl⟩, h⟩
      · exact absurd hnone hne
      · exact ⟨i, p, hid, h⟩

/-! ### What has been acquired -/

/-- The kinds of resources. -/
inductive ResourceKind
  | cmId
  | context
  | channel
  | pd
  | cq
  | srq
  | qp
  | mr
  | array
  | buffer
  deriving DecidableEq

/-- The kind of a resource. -/
def Resource.kind : Resource → ResourceKind
  | .cmId _ => .cmId
  | .context _ => .context
  | .channel _ => .channel
  | .pd _ => .pd
  | .cq _ => .cq
  | .srq _ => .srq
  | .qp _ _ => .qp
  | .mr _ => .mr
  | .array _ => .array
  | .buffer _ => .buffer

/-- The resource is of this kind. -/
def Resource.is (k : ResourceKind) (r : Resource) : Bool := r.kind = k

/-- What a field refers to, counted by kind. -/
theorem countP_toList {k : ResourceKind} (f : ℕ → Resource) (k' : ResourceKind)
    (hf : ∀ n, (f n).kind = k') (p : Ptr) :
    (p.toList.map f).countP (Resource.is k) = if k' = k then p.toList.length else 0 := by
  cases p with
  | none => simp
  | some n =>
    simp only [Option.toList_some, List.map_cons, List.map_nil, List.countP_cons, List.countP_nil,
      Resource.is, hf, decide_eq_true_eq, List.length_cons, List.length_nil, Nat.zero_add]

/-- Queue pairs, counted by kind. -/
theorem countP_qps {k : ResourceKind} {qps : List Resource} (h : ∀ r ∈ qps, r.kind = .qp) :
    qps.countP (Resource.is k) = if .qp = k then qps.length else 0 := by
  split_ifs with hk
  · subst hk
    exact List.countP_eq_length.mpr fun r hr => decide_eq_true (h r hr)
  · refine List.countP_eq_zero.mpr fun r hr hc => hk ?_
    rw [← h r hr]
    exact of_decide_eq_true hc

/-- **The stock of a call**: queue pairs, and what has come of the other acquisitions. -/
def stock (qps : List Resource) (srq recvCq sendCq channel pd context : Ptr) : List Resource :=
  qps ++ (srq.toList.map .srq ++ (recvCq.toList.map .cq ++ (sendCq.toList.map .cq ++
    (channel.toList.map .channel ++ (pd.toList.map .pd ++ context.toList.map .context)))))

section Stock

variable {qps q : List Resource} {srq recvCq sendCq channel pd context : Ptr}

theorem countP_stock (h : ∀ r ∈ qps, r.kind = .qp) (k : ResourceKind) :
    (stock qps srq recvCq sendCq channel pd context).countP (Resource.is k) =
      (if .qp = k then qps.length else 0) + ((if .srq = k then srq.toList.length else 0) +
        ((if .cq = k then recvCq.toList.length else 0) +
          ((if .cq = k then sendCq.toList.length else 0) +
            ((if .channel = k then channel.toList.length else 0) +
              ((if .pd = k then pd.toList.length else 0) +
                if .context = k then context.toList.length else 0))))) := by
  have hfield := fun f k' hf p => countP_toList (k := k) f k' hf p
  simp only [stock, List.countP_append, countP_qps h, hfield .srq .srq fun _ => rfl,
    hfield .cq .cq fun _ => rfl, hfield .channel .channel fun _ => rfl,
    hfield .pd .pd fun _ => rfl, hfield .context .context fun _ => rfl]

theorem countP_cleanup (h : ∀ r ∈ q, r.kind = .qp) (k : ResourceKind) :
    (q ++ cleanupReleases c).countP (Resource.is k) =
      (if .qp = k then q.length else 0) +
        ((if .mr = k then (arrayPtr c.mr).toList.length else 0) +
          ((if .buffer = k then (arrayPtr c.buf).toList.length else 0) +
            ((if .cq = k then c.sendCq.toList.length else 0) +
              ((if .cq = k then c.recvCq.toList.length else 0) +
                ((if .pd = k then c.pd.toList.length else 0) +
                  if .context = k then c.context.toList.length else 0))))) := by
  have hfield := fun f k' hf p => countP_toList (k := k) f k' hf p
  simp only [cleanupReleases, List.countP_append, countP_qps h, hfield .mr .mr fun _ => rfl,
    hfield .buffer .buffer fun _ => rfl, hfield .cq .cq fun _ => rfl,
    hfield .pd .pd fun _ => rfl, hfield .context .context fun _ => rfl]

theorem length_toList_eq_zero {p : Ptr} : p.toList.length = 0 ↔ p = none := by
  cases p with
  | none => exact ⟨fun _ => rfl, fun _ => rfl⟩
  | some n => exact ⟨fun h => absurd h (Nat.succ_ne_zero 0), fun h => absurd h (by simp)⟩

/-- What is not there when the field is assigned, or the field itself. -/
theorem eq_of_length_toList {p p' : Ptr} (h : p = none ∨ p = p')
    (hlen : p.toList.length = p'.toList.length) : p = p' := by
  rcases h with rfl | h
  · exact (length_toList_eq_zero.mp hlen.symm).symm
  · exact h

theorem length_toList_le {p p' : Ptr} (h : p = none ∨ p = p') :
    p.toList.length ≤ p'.toList.length := by
  rcases h with rfl | rfl
  · exact Nat.zero_le _
  · exact Nat.le_refl _

/-- **The cleanup matches the stock** when the two agree on the queue pairs, there is nothing
that the cleanup does not know of, and the fields hold nothing else. The resources are counted
by kind. -/
theorem stock_perm_iff (hqps : ∀ r ∈ qps, r.kind = .qp) (hq : ∀ r ∈ q, r.kind = .qp)
    (hrecv : recvCq = none ∨ recvCq = c.recvCq) (hsend : sendCq = none ∨ sendCq = c.sendCq)
    (hpd : pd = none ∨ pd = c.pd) :
    (stock qps srq recvCq sendCq channel pd c.context).Perm (q ++ cleanupReleases c) ↔
      qps.Perm q ∧ srq = none ∧ channel = none ∧ recvCq = c.recvCq ∧ sendCq = c.sendCq ∧
        pd = c.pd ∧ c.mr = none ∧ c.buf = none := by
  constructor
  · intro hperm
    have hcount : ∀ k, _ = _ := fun k => hperm.countP_eq (Resource.is k)
    simp only [countP_stock hqps, countP_cleanup hq] at hcount
    have hsrq := hcount .srq
    have hchannel := hcount .channel
    have hcq := hcount .cq
    have hpds := hcount .pd
    have hmr := hcount .mr
    have hbuf := hcount .buffer
    simp only [reduceCtorEq, if_true, if_false, Nat.add_zero, Nat.zero_add]
      at hsrq hchannel hcq hpds hmr hbuf
    have hrecvLe := length_toList_le hrecv
    have hsendLe := length_toList_le hsend
    refine ⟨?_, length_toList_eq_zero.mp hsrq, length_toList_eq_zero.mp hchannel,
      eq_of_length_toList hrecv (by omega), eq_of_length_toList hsend (by omega),
      eq_of_length_toList hpd hpds, arrayPtr_eq_none.mp (length_toList_eq_zero.mp hmr.symm),
      arrayPtr_eq_none.mp (length_toList_eq_zero.mp hbuf.symm)⟩
    -- the queue pairs are what is of their kind
    have hfilter := hperm.filter (Resource.is .qp)
    have hrest : ∀ l : List Resource, l.countP (Resource.is .qp) = 0 →
        l.filter (Resource.is .qp) = [] := fun l hl =>
      List.filter_eq_nil_iff.mpr fun r hr => List.countP_eq_zero.mp hl r hr
    have hall : ∀ l : List Resource, (∀ r ∈ l, r.kind = .qp) →
        l.filter (Resource.is .qp) = l := fun l hl =>
      List.filter_eq_self.mpr fun r hr => decide_eq_true (hl r hr)
    have hnone : (stock [] srq recvCq sendCq channel pd c.context).countP
        (Resource.is .qp) = 0 := by
      rw [countP_stock (fun r hr => absurd hr List.not_mem_nil)]
      simp
    have hnone' : (cleanupReleases c).countP (Resource.is .qp) = 0 := by
      rw [← List.nil_append (cleanupReleases c),
        countP_cleanup (fun r hr => absurd hr List.not_mem_nil)]
      simp
    have hsplit : stock qps srq recvCq sendCq channel pd c.context =
        qps ++ stock [] srq recvCq sendCq channel pd c.context := rfl
    rw [hsplit, List.filter_append, List.filter_append, hall qps hqps, hall q hq,
      hrest _ hnone, hrest _ hnone', List.append_nil, List.append_nil] at hfilter
    exact hfilter
  · rintro ⟨hperm, rfl, rfl, rfl, rfl, rfl, hmr, hbuf⟩
    have hfields : ∀ l, (c.recvCq.toList.map Resource.cq ++
        (c.sendCq.toList.map Resource.cq ++ l)).Perm
          (c.sendCq.toList.map Resource.cq ++ (c.recvCq.toList.map Resource.cq ++ l)) := by
      intro l
      rw [← List.append_assoc, ← List.append_assoc]
      exact List.Perm.append_right l List.perm_append_comm
    rw [stock, cleanupReleases, hmr, hbuf]
    exact hperm.append (hfields _)

end Stock

/-! ### The steps of the acquisitions -/

/-- A result that is asked for, or nothing. -/
def asked (p : Prop) [Decidable p] (res : Ptr) : Ptr := if p then res else none

/-- What is live after the first step. -/
theorem live_contextActs (u : List Resource) : undo.live u (contextActs config o) =
    (asked (AsksPd o) o.ibvAllocPd).toList.map .pd ++
      (o.ibvOpenDevice.toList.map .context ++ u) := by
  rw [contextActs, asked]
  by_cases hasks : AsksPd o
  · obtain ⟨hopen, hport⟩ := hasks
    obtain ⟨d, hd⟩ := Option.ne_none_iff_exists'.mp hopen
    have hasks : AsksPd o := ⟨hopen, hport⟩
    rw [if_pos hopen, if_pos hasks, if_pos hasks, hd]
    rcases o.ibvAllocPd with _ | p <;> rfl
  · rw [if_neg hasks, if_neg hasks]
    rcases o.ibvOpenDevice with _ | d <;> rfl

theorem live_channelActs (u : List Resource) (c : RdmaContext) :
    undo.live u (channelActs config o c) =
      (asked (config.useEvent ≠ 0) o.ibvCreateCompChannel).toList.map .channel ++ u := by
  rw [channelActs, asked]
  split_ifs
  · rcases o.ibvCreateCompChannel with _ | p <;> rfl
  · rfl

theorem live_cqsActs (u : List Resource) (c : RdmaContext) :
    undo.live u (cqsActs config o c) = (asked (CqsOk o) o.createRecvCq).toList.map .cq ++
      ((asked (o.ibvQueryDevice = 0) o.createSendCq).toList.map .cq ++ u) := by
  rw [cqsActs, asked, asked]
  by_cases hdev : o.ibvQueryDevice = 0
  · rw [if_pos hdev, if_pos hdev]
    split_ifs
    · rcases o.createSendCq with _ | p <;> rcases o.createRecvCq with _ | p' <;> rfl
    · rcases o.createSendCq with _ | p <;> rfl
  · have hcqs : ¬CqsOk o := fun h => hdev h.1
    rw [if_neg hdev, if_neg hdev, if_neg hcqs, if_neg hcqs]
    rfl

theorem live_srqActs (u : List Resource) (c : RdmaContext) :
    undo.live u (srqActs config o c) =
      (asked (config.useSrq ≠ 0) o.ibvCreateSrq).toList.map .srq ++ u := by
  rw [srqActs, asked]
  split_ifs
  · rcases o.ibvCreateSrq with _ | p <;> rfl
  · rfl

/-- **What is live after the steps that run once.** -/
theorem live_sharedActs : undo.live [] (sharedActs config o c) =
    stock [] (asked (config.useSrq ≠ 0) o.ibvCreateSrq) (asked (CqsOk o) o.createRecvCq)
      (asked (o.ibvQueryDevice = 0) o.createSendCq)
      (asked (config.useEvent ≠ 0) o.ibvCreateCompChannel) (asked (AsksPd o) o.ibvAllocPd)
      o.ibvOpenDevice := by
  rw [sharedActs, queueActs, deviceActs, undo.live_append, undo.live_append, undo.live_append,
    live_contextActs, live_channelActs, live_cqsActs, live_srqActs, stock, List.nil_append,
    List.append_nil]

/-- The queue pairs of turns that get through. -/
theorem live_qpsActs {n : ℕ} (hknown : qpTypeOf config.connectionType ≠ none)
    (hto : QpsTo o c n) (u : List Resource) : ∃ qps, qps.length = n ∧
      (∀ r ∈ qps, ∃ i p, c.cmId = some i ∧ r = .qp i p) ∧
      undo.live u (qpsActs config o c n) = qps ++ u := by
  obtain ⟨qpType, htype⟩ := Option.ne_none_iff_exists'.mp hknown
  induction n with
  | zero =>
    refine ⟨[], rfl, fun r hr => absurd hr List.not_mem_nil, ?_⟩
    rw [qpsActs_zero]
    rfl
  | succ n ih =>
    obtain ⟨qps, hlen, hqps, hlive⟩ := ih fun i hi => hto i (Nat.lt_succ_of_lt hi)
    obtain ⟨hqp, hid, -⟩ := hto n (Nat.lt_succ_self n)
    obtain ⟨p, hp⟩ := Option.ne_none_iff_exists'.mp hqp
    obtain ⟨i, hi⟩ := Option.ne_none_iff_exists'.mp hid
    refine ⟨.qp i p :: qps, by rw [List.length_cons, hlen],
      List.forall_mem_cons.mpr ⟨⟨i, p, hi, rfl⟩, hqps⟩, ?_⟩
    rw [qpsActs_succ htype, undo.live_append, hlive, hp, hi]
    rfl

/-- A turn that fails adds none. -/
theorem live_qpsActs_failed {n : ℕ} (hknown : qpTypeOf config.connectionType ≠ none)
    (hfail : o.rdmaCreateQp n = none) (u : List Resource) :
    undo.live u (qpsActs config o c (n + 1)) = undo.live u (qpsActs config o c n) := by
  obtain ⟨qpType, htype⟩ := Option.ne_none_iff_exists'.mp hknown
  rw [qpsActs_succ htype, undo.live_append, hfail]
  rcases c.cmId with _ | i <;> rfl

theorem QpReleased.kind {q : List Resource} (h : QpReleased c q) : ∀ r ∈ q, r.kind = .qp := by
  intro r hr
  rcases h with ⟨-, rfl⟩ | ⟨-, i, p, -, rfl⟩
  · exact absurd hr List.not_mem_nil
  · rw [List.mem_singleton.mp hr]
    rfl

/-! ### Every failure -/

/-- The cleanup has something to match: what is live is a stock. -/
theorem leads_stock_iff (hpos : 0 < config.turns) {qps : List Resource}
    {srq recvCq sendCq channel pd : Ptr} (hqps : ∀ r ∈ qps, ∃ i p, c.cmId = some i ∧ r = .qp i p)
    (hrecv : recvCq = none ∨ recvCq = c.recvCq) (hsend : sendCq = none ∨ sendCq = c.sendCq)
    (hpd : pd = none ∨ pd = c.pd) :
    undo.monitor.Leads (stock qps srq recvCq sendCq channel pd c.context)
        (cleanupActs config c) [] ↔
      (c.qp = none ∧ qps = [] ∨ c.qp ≠ none ∧ qps.length = 1) ∧ srq = none ∧ channel = none ∧
        recvCq = c.recvCq ∧ sendCq = c.sendCq ∧ pd = c.pd ∧ c.mr = none ∧ c.buf = none := by
  have hkind : ∀ r ∈ qps, r.kind = .qp := by
    intro r hr
    obtain ⟨i, p, -, rfl⟩ := hqps r hr
    rfl
  rw [leads_cleanupActs hpos]
  constructor
  · rintro ⟨q, hreleased, hperm⟩
    obtain ⟨hqperm, hrest⟩ := (stock_perm_iff hkind hreleased.kind hrecv hsend hpd).mp hperm
    refine ⟨?_, hrest⟩
    rcases hreleased with ⟨hnone, rfl⟩ | ⟨hne, i, p, -, rfl⟩
    · exact Or.inl ⟨hnone, hqperm.eq_nil⟩
    · exact Or.inr ⟨hne, hqperm.length_eq⟩
  · rintro ⟨hqp, hrest⟩
    obtain ⟨hreleased, hqperm⟩ : QpReleased c qps ∧ qps.Perm qps := by
      refine ⟨?_, List.Perm.refl qps⟩
      rcases hqp with ⟨hnone, rfl⟩ | ⟨hne, hlen⟩
      · exact Or.inl ⟨hnone, rfl⟩
      · obtain ⟨r, rfl⟩ := List.length_eq_one_iff.mp hlen
        obtain ⟨i, p, hid, rfl⟩ := hqps r List.mem_cons_self
        exact Or.inr ⟨hne, i, p, hid, rfl⟩
    exact ⟨qps, hreleased,
      (stock_perm_iff hkind hreleased.kind hrecv hsend hpd).mpr ⟨hqperm, hrest⟩⟩

theorem asked_of_not {p : Prop} [Decidable p] {res : Ptr} (h : ¬p) : asked p res = none :=
  if_neg h

theorem asked_of {p : Prop} [Decidable p] {res : Ptr} (h : p) : asked p res = res := if_pos h

/-- A field that is assigned when the result is asked for. -/
theorem asked_eq_none_or {p : Prop} [Decidable p] (res old : Ptr) :
    asked p res = none ∨ asked p res = if p then res else old := by
  by_cases h : p
  · exact Or.inr (by rw [asked_of h, if_pos h])
  · exact Or.inl (asked_of_not h)

/-- It agrees with what has been acquired if it was `NULL` before. -/
theorem asked_eq_iff {p : Prop} [Decidable p] (res old : Ptr) :
    (asked p res = if p then res else old) ↔ (¬p → old = none) := by
  by_cases h : p
  · rw [asked_of h, if_pos h]
    exact ⟨fun _ hc => absurd h hc, fun _ => rfl⟩
  · rw [asked_of_not h, if_neg h]
    exact ⟨fun hnone _ => hnone.symm, fun hnone => (hnone h).symm⟩

/-- Without queue pairs there must be no array for them. -/
theorem noQps_iff {a : Option PtrArray} :
    (a = none ∧ ([] : List Resource) = [] ∨ a ≠ none ∧ ([] : List Resource).length = 1) ↔
      a = none :=
  ⟨fun h => h.elim And.left fun hc => absurd hc.2 (by decide), fun h => Or.inl ⟨h, rfl⟩⟩

/-- **Before the queues** there is the device, and its protection domain. -/
theorem leads_device_iff (hpos : 0 < config.turns) (c₁ : RdmaContext) (old : Ptr)
    (hpd : c₁.pd = if AsksPd o then o.ibvAllocPd else old) :
    undo.monitor.Leads
        (stock [] none none none none (asked (AsksPd o) o.ibvAllocPd) c₁.context)
        (cleanupActs config c₁) [] ↔
      c₁.qp = none ∧ c₁.recvCq = none ∧ c₁.sendCq = none ∧ (¬AsksPd o → old = none) ∧
        c₁.mr = none ∧ c₁.buf = none := by
  rw [leads_stock_iff hpos (fun r hr => absurd hr List.not_mem_nil) (Or.inl rfl) (Or.inl rfl)
    (by rw [hpd]; exact asked_eq_none_or _ _), noQps_iff, hpd, asked_eq_iff]
  -- what has not been created must be `NULL` in the context as well
  constructor
  · rintro ⟨hqp, -, -, hrecv, hsend, hold, hmr, hbuf⟩
    exact ⟨hqp, hrecv.symm, hsend.symm, hold, hmr, hbuf⟩
  · rintro ⟨hqp, hrecv, hsend, hold, hmr, hbuf⟩
    exact ⟨hqp, rfl, rfl, hrecv.symm, hsend.symm, hold, hmr, hbuf⟩

theorem undo_noContext (hpos : 0 < config.turns) (h : ¬ContextOk o) :
    undo.monitor.Leads (undo.live [] (contextActs config o))
      (cleanupActs config (c.withContext o)) [] ↔ Clean config o c := by
  have hlive : undo.live [] (contextActs config o) =
      stock [] none none none none (asked (AsksPd o) o.ibvAllocPd) (c.withContext o).context := by
    rw [live_contextActs, List.append_nil]
    rfl
  rw [hlive, leads_device_iff hpos (c.withContext o) c.pd rfl]
  constructor
  · rintro ⟨hqp, hrecv, hsend, hpd, hmr, hbuf⟩
    exact ⟨hmr, hbuf, Or.inl hqp, fun hc => absurd hc h, fun hc => absurd hc h, hpd,
      fun _ => hsend, fun _ => hrecv⟩
  · intro hclean
    have hqp : c.qp = none := hclean.qp.elim id fun hc => absurd hc.1.1 h
    exact ⟨hqp, hclean.recvCq fun hc => h hc.1, hclean.sendCq fun hc => h hc.1, hclean.pd,
      hclean.mr, hclean.buf⟩

theorem undo_noChannel (hpos : 0 < config.turns) (hctx : ContextOk o) (h : ¬ChannelOk config o) :
    undo.monitor.Leads (undo.live [] (deviceActs config o c))
      (cleanupActs config ((c.withContext o).withChannel config o)) [] ↔ Clean config o c := by
  have hasks : AsksPd o := ⟨hctx.1, hctx.2.1⟩
  have hnone : asked (config.useEvent ≠ 0) o.ibvCreateCompChannel = none := by
    rw [asked]
    split_ifs with huse
    · by_contra hc
      exact h fun _ => hc
    · rfl
  have hlive : undo.live [] (deviceActs config o c) = stock [] none none none none
      (asked (AsksPd o) o.ibvAllocPd) ((c.withContext o).withChannel config o).context := by
    rw [deviceActs, undo.live_append, live_contextActs, live_channelActs, hnone, List.append_nil]
    rfl
  rw [hlive, leads_device_iff hpos ((c.withContext o).withChannel config o) c.pd rfl]
  constructor
  · rintro ⟨hqp, hrecv, hsend, hpd, hmr, hbuf⟩
    refine ⟨hmr, hbuf, Or.inl hqp, fun _ huse => ?_, fun _ hc => absurd hc h, hpd,
      fun _ => hsend, fun _ => hrecv⟩
    rwa [asked_of huse] at hnone
  · intro hclean
    have hqp : c.qp = none := hclean.qp.elim id fun hc => absurd hc.1.2.1 h
    exact ⟨hqp, hclean.recvCq fun hc => h hc.2.1, hclean.sendCq fun hc => h hc.2.1, hclean.pd,
      hclean.mr, hclean.buf⟩

theorem undo_noCqs (hpos : 0 < config.turns) (hctx : ContextOk o) (hch : ChannelOk config o)
    (h : ¬CqsOk o) : undo.monitor.Leads (undo.live [] (queueActs config o c))
      (cleanupActs config (((c.withContext o).withChannel config o).withCqs o)) [] ↔
        Clean config o c := by
  have hasks : AsksPd o := ⟨hctx.1, hctx.2.1⟩
  have hlive : undo.live [] (queueActs config o c) = stock [] none none
      (asked (o.ibvQueryDevice = 0) o.createSendCq)
      (asked (config.useEvent ≠ 0) o.ibvCreateCompChannel) (asked (AsksPd o) o.ibvAllocPd)
      (((c.withContext o).withChannel config o).withCqs o).context := by
    rw [queueActs, deviceActs, undo.live_append, undo.live_append, live_contextActs,
      live_channelActs, live_cqsActs, asked_of_not h, List.append_nil]
    rfl
  -- the second queue has not been assigned
  have hrecvCq : (((c.withContext o).withChannel config o).withCqs o).recvCq = c.recvCq :=
    if_neg h
  rw [hlive, leads_stock_iff hpos (fun r hr => absurd hr List.not_mem_nil) (Or.inl rfl)
    (asked_eq_none_or _ _) (asked_eq_none_or _ _), noQps_iff, hrecvCq]
  change c.qp = none ∧ none = none ∧ asked (config.useEvent ≠ 0) o.ibvCreateCompChannel = none ∧
    none = c.recvCq ∧ (asked (o.ibvQueryDevice = 0) o.createSendCq =
      if o.ibvQueryDevice = 0 then o.createSendCq else c.sendCq) ∧
    (asked (AsksPd o) o.ibvAllocPd = if AsksPd o then o.ibvAllocPd else c.pd) ∧ c.mr = none ∧
      c.buf = none ↔ _
  rw [asked_eq_iff, asked_eq_iff]
  constructor
  · rintro ⟨hqp, -, hchannel, hrecv, hsend, hpd, hmr, hbuf⟩
    refine ⟨hmr, hbuf, Or.inl hqp, fun _ huse => ?_, fun _ _ hc => absurd hc h, hpd,
      fun hno => hsend fun hdev => hno ⟨hctx, hch, hdev⟩, fun _ => hrecv.symm⟩
    rwa [asked_of huse] at hchannel
  · intro hclean
    have hqp : c.qp = none := hclean.qp.elim id fun hc => absurd hc.1.2.2.1 h
    refine ⟨hqp, rfl, ?_, (hclean.recvCq fun hc => h hc.2.2).symm,
      fun hdev => hclean.sendCq fun hc => hdev hc.2.2, hclean.pd, hclean.mr, hclean.buf⟩
    rw [asked]
    split_ifs with huse
    · exact hclean.channel hctx huse
    · rfl

/-- After the steps that run once: the completion channel and the shared receive queue are
what the cleanup does not know of. -/
theorem leads_shared_iff (hpos : 0 < config.turns) (hctx : ContextOk o) (hcqs : CqsOk o)
    {qps : List Resource} (hqps : ∀ r ∈ qps, ∃ i p, c.cmId = some i ∧ r = .qp i p) (n : ℕ) :
    undo.monitor.Leads (qps ++ undo.live [] (sharedActs config o c))
        (cleanupActs config ((c.withShared config o).withQps o n)) [] ↔
      (c.qp = none ∧ qps = [] ∨ c.qp ≠ none ∧ qps.length = 1) ∧
        asked (config.useSrq ≠ 0) o.ibvCreateSrq = none ∧
        asked (config.useEvent ≠ 0) o.ibvCreateCompChannel = none ∧ c.mr = none ∧
        c.buf = none := by
  have hasks : AsksPd o := ⟨hctx.1, hctx.2.1⟩
  have hpd : ((c.withShared config o).withQps o n).pd = o.ibvAllocPd := if_pos hasks
  have hsend : ((c.withShared config o).withQps o n).sendCq = o.createSendCq := if_pos hcqs.1
  have hrecv : ((c.withShared config o).withQps o n).recvCq = o.createRecvCq := if_pos hcqs
  have hqp : ((c.withShared config o).withQps o n).qp = none ↔ c.qp = none :=
    Option.map_eq_none_iff
  have hlive : qps ++ undo.live [] (sharedActs config o c) =
      stock qps (asked (config.useSrq ≠ 0) o.ibvCreateSrq) o.createRecvCq o.createSendCq
        (asked (config.useEvent ≠ 0) o.ibvCreateCompChannel) o.ibvAllocPd
        ((c.withShared config o).withQps o n).context := by
    rw [live_sharedActs, asked_of hcqs, asked_of hcqs.1, asked_of hasks]
    rfl
  have hids : ∀ r ∈ qps, ∃ i p, ((c.withShared config o).withQps o n).cmId = some i ∧
      r = .qp i p := hqps
  have hmr : ((c.withShared config o).withQps o n).mr = c.mr := rfl
  have hbuf : ((c.withShared config o).withQps o n).buf = c.buf := rfl
  rw [hlive, leads_stock_iff hpos hids (Or.inr hrecv.symm) (Or.inr hsend.symm)
    (Or.inr hpd.symm), Ne, hqp, hpd, hsend, hrecv, hmr, hbuf]
  constructor
  · rintro ⟨h1, h2, h3, -, -, -, h4, h5⟩
    exact ⟨h1, h2, h3, h4, h5⟩
  · rintro ⟨h1, h2, h3, h4, h5⟩
    exact ⟨h1, h2, h3, rfl, rfl, rfl, h4, h5⟩

/-- What the cleanup can undo from there. -/
theorem clean_shared_iff (hctx : ContextOk o) (hch : ChannelOk config o) (hcqs : CqsOk o) :
    Clean config o c ↔
      (c.qp = none ∨ SharedOk config o ∧ QpsTo o c 1 ∧ o.rdmaCreateQp 1 = none) ∧
        asked (config.useSrq ≠ 0) o.ibvCreateSrq = none ∧
        asked (config.useEvent ≠ 0) o.ibvCreateCompChannel = none ∧ c.mr = none ∧
        c.buf = none := by
  constructor
  · intro hclean
    refine ⟨hclean.qp, ?_, ?_, hclean.mr, hclean.buf⟩
    · rw [asked]
      split_ifs with huse
      · exact hclean.srq hctx hch hcqs huse
      · rfl
    · rw [asked]
      split_ifs with huse
      · exact hclean.channel hctx huse
      · rfl
  · rintro ⟨hqp, hsrq, hchannel, hmr, hbuf⟩
    refine ⟨hmr, hbuf, hqp, fun _ huse => ?_, fun _ _ _ huse => ?_,
      fun hno => absurd ⟨hctx.1, hctx.2.1⟩ hno, fun hno => absurd ⟨hctx, hch, hcqs.1⟩ hno,
      fun hno => absurd ⟨hctx, hch, hcqs⟩ hno⟩
    · rwa [asked_of huse] at hchannel
    · rwa [asked_of huse] at hsrq

theorem undo_noSrq (hpos : 0 < config.turns) (hctx : ContextOk o) (hch : ChannelOk config o)
    (hcqs : CqsOk o) (h : ¬SrqOk config o) :
    undo.monitor.Leads (undo.live [] (sharedActs config o c))
      (cleanupActs config (c.withShared config o)) [] ↔ Clean config o c := by
  have hiff := leads_shared_iff (c := c) hpos hctx hcqs
    (fun r hr => absurd hr List.not_mem_nil) 0
  rw [withQps_zero, List.nil_append, noQps_iff] at hiff
  have hqp : (c.qp = none ∨ SharedOk config o ∧ QpsTo o c 1 ∧ o.rdmaCreateQp 1 = none) ↔
      c.qp = none := ⟨fun hc => hc.elim id fun hc => absurd hc.1.2.2.2 h, Or.inl⟩
  rw [hiff, clean_shared_iff hctx hch hcqs, hqp]

/-- A queue pair that could not be created: the ones before it are lost, but for one. -/
theorem undo_qps (hpos : 0 < config.turns) (hshared : SharedOk config o) {n : ℕ}
    (hknown : qpTypeOf config.connectionType ≠ none) (hto : QpsTo o c n)
    (hfail : o.rdmaCreateQp n = none) :
    undo.monitor.Leads (undo.live [] (sharedActs config o c ++
        qpsActs config o (c.withShared config o) (n + 1)))
      (cleanupActs config ((c.withShared config o).withQps o n)) [] ↔ Clean config o c := by
  have htoShared : QpsTo o (c.withShared config o) n := hto
  obtain ⟨qps, hlen, hqps, hlive⟩ :=
    live_qpsActs hknown htoShared (undo.live [] (sharedActs config o c))
  have hqpsOf : ∀ r ∈ qps, ∃ i p, c.cmId = some i ∧ r = .qp i p := hqps
  rw [undo.live_append, live_qpsActs_failed hknown hfail, hlive,
    leads_shared_iff hpos hshared.1 hshared.2.2.1 hqpsOf,
    clean_shared_iff hshared.1 hshared.2.1 hshared.2.2.1]
  refine and_congr_left fun _ => ?_
  constructor
  · rintro (⟨hnone, -⟩ | ⟨-, hone⟩)
    · exact Or.inl hnone
    · obtain rfl : n = 1 := by omega
      exact Or.inr ⟨hshared, hto, hfail⟩
  · -- a queue pair needs an array to be stored in
    have hroom : ∀ m, QpsTo o c m → 0 < m → c.qp ≠ none := by
      intro m hm hlt hnone
      have hlt' := (hm 0 hlt).2.2
      rw [hnone] at hlt'
      exact absurd hlt' (Nat.not_lt_zero 0)
    rintro (hnone | ⟨-, hto', hfail'⟩)
    · refine Or.inl ⟨hnone, List.length_eq_zero_iff.mp ?_⟩
      by_contra hc
      exact hroom n hto (by omega) hnone
    · have hle : n ≤ 1 := QpsTo.le hto hfail'
      have hge : 1 ≤ n := QpsTo.le hto' hfail
      exact Or.inr ⟨hroom 1 hto' Nat.one_pos, by omega⟩

/-- The buffers and the regions of turns that get through. -/
theorem countP_bufsActs {n : ℕ} (hto : BufsTo o c n) :
    ((bufsActs o c n).flatMap acquires).countP (Resource.is .mr) = n ∧
      ((bufsActs o c n).flatMap acquires).countP (Resource.is .buffer) = n := by
  induction n with
  | zero => exact ⟨rfl, rfl⟩
  | succ n ih =>
    obtain ⟨hmr, hbuf⟩ := ih fun i hi => hto i (Nat.lt_succ_of_lt hi)
    obtain ⟨⟨-, halign, -⟩, hreg⟩ := hto n (Nat.lt_succ_self n)
    obtain ⟨b, hb⟩ := Option.ne_none_iff_exists'.mp halign
    obtain ⟨m, hm⟩ := Option.ne_none_iff_exists'.mp hreg
    have hlast : (bufActs o c n).flatMap acquires = [.buffer b, .mr m] := by
      rw [bufActs, hb, hm]
      rfl
    rw [bufsActs_succ, List.flatMap_append, List.countP_append, List.countP_append, hmr, hbuf,
      hlast]
    exact ⟨rfl, rfl⟩

/-- Before the buffers there are no regions and no buffers. -/
theorem countP_live_qps {n : ℕ} {k : ResourceKind} (hk : k = .mr ∨ k = .buffer)
    (hknown : qpTypeOf config.connectionType ≠ none) (hto : QpsTo o (c.withShared config o) n) :
    (undo.live [] (sharedActs config o c ++
      qpsActs config o (c.withShared config o) n)).countP (Resource.is k) = 0 := by
  obtain ⟨qps, -, hids, hlive⟩ := live_qpsActs hknown hto (undo.live [] (sharedActs config o c))
  have hqps : ∀ r ∈ qps, r.kind = .qp := by
    intro r hr
    obtain ⟨i, p, -, rfl⟩ := hids r hr
    rfl
  have hstock : ∀ srq recvCq sendCq channel pd context,
      (qps ++ stock [] srq recvCq sendCq channel pd context).countP (Resource.is k) = 0 := by
    intro srq recvCq sendCq channel pd context
    change (stock qps srq recvCq sendCq channel pd context).countP (Resource.is k) = 0
    rw [countP_stock hqps]
    rcases hk with rfl | rfl <;> rfl
  rw [undo.live_append, hlive, live_sharedActs]
  exact hstock _ _ _ _ _ _

/-- After a buffer that could not be registered there is one buffer more than there are
regions. -/
theorem countP_live_bufs {n : ℕ} (hknown : qpTypeOf config.connectionType ≠ none)
    (hqps : QpsTo o (c.withShared config o) config.turns)
    (hto : BufsTo o ((c.withShared config o).withQps o config.turns) n)
    (halign : o.memalign n ≠ none) (hfail : o.ibvRegMr n = none) :
    (undo.live [] (sharedActs config o c ++
      (qpsActs config o (c.withShared config o) config.turns ++
        bufsActs o ((c.withShared config o).withQps o config.turns) (n + 1)))).countP
          (Resource.is .mr) = n ∧
    (undo.live [] (sharedActs config o c ++
      (qpsActs config o (c.withShared config o) config.turns ++
        bufsActs o ((c.withShared config o).withQps o config.turns) (n + 1)))).countP
          (Resource.is .buffer) = n + 1 := by
  obtain ⟨hmrs, hbufs⟩ := countP_bufsActs hto
  obtain ⟨b, hb⟩ := Option.ne_none_iff_exists'.mp halign
  have hlast : (bufActs o ((c.withShared config o).withQps o config.turns) n).flatMap acquires =
      [.buffer b] := by
    rw [bufActs, hb, hfail]
    rfl
  have hkeeps : ∀ a ∈ bufsActs o ((c.withShared config o).withQps o config.turns) (n + 1),
      undo.Keeps a := fun a ha =>
    keeps_of_isKeeping (all_isKeeping_of_isMaking (all_bufsActs (n + 1))) a ha
  have hcount : ∀ k, k = .mr ∨ k = .buffer →
      (undo.live [] (sharedActs config o c ++
        (qpsActs config o (c.withShared config o) config.turns ++
          bufsActs o ((c.withShared config o).withQps o config.turns) (n + 1)))).countP
            (Resource.is k) =
        ((bufsActs o ((c.withShared config o).withQps o config.turns) n).flatMap
          acquires).countP (Resource.is k) + [Resource.buffer b].countP (Resource.is k) := by
    intro k hk
    rw [← List.append_assoc, undo.live_append, Ledger.countP_live hkeeps,
      countP_live_qps hk hknown hqps, Nat.zero_add, bufsActs_succ, List.flatMap_append,
      List.countP_append, ← hlast]
    rfl
  rw [hcount .mr (Or.inl rfl), hcount .buffer (Or.inr rfl), hmrs, hbufs]
  exact ⟨rfl, rfl⟩

/-- **A buffer that could not be registered**: the cleanup is never right. It deregisters one
region and frees one buffer. -/
theorem not_undo_bufs (hpos : 0 < config.turns) {n : ℕ}
    (hknown : qpTypeOf config.connectionType ≠ none) (hqps : QpsTo o c config.turns)
    (hto : BufsTo o c n) (hat : BufAt o c n) (hfail : o.ibvRegMr n = none) :
    ¬undo.monitor.Leads (undo.live [] (sharedActs config o c ++
        (qpsActs config o (c.withShared config o) config.turns ++
          bufsActs o ((c.withShared config o).withQps o config.turns) (n + 1))))
      (cleanupActs config (((c.withShared config o).withQps o config.turns).withBufs o
        (n + 1) (n + 1))) [] := by
  intro hleads
  obtain ⟨q, hreleased, hperm⟩ := (leads_cleanupActs hpos _).mp hleads
  have hq : ∀ r ∈ q, r.kind = .qp := hreleased.kind
  obtain ⟨hmrs, hbufs⟩ := countP_live_bufs (c := c) hknown hqps hto hat.2.1 hfail
  -- the arrays are there, and each is released as one
  have harray : ∀ {a : Option PtrArray} (f : ℕ → Ptr), n < room a →
      (arrayPtr (a.map (PtrArray.fill f (n + 1)))).toList.length = 1 := by
    intro a f hroom
    rw [arrayPtr_map_fill]
    cases a with
    | none => exact absurd hroom (Nat.not_lt_zero n)
    | some a => rfl
  have hmrOne : (arrayPtr (((c.withShared config o).withQps o config.turns).withBufs o
      (n + 1) (n + 1)).mr).toList.length = 1 := harray o.ibvRegMr hat.2.2
  have hbufOne : (arrayPtr (((c.withShared config o).withQps o config.turns).withBufs o
      (n + 1) (n + 1)).buf).toList.length = 1 := harray o.memalign hat.1
  have hmr := hperm.countP_eq (Resource.is .mr)
  have hbuf := hperm.countP_eq (Resource.is .buffer)
  rw [hmrs, countP_cleanup hq, hmrOne] at hmr
  rw [hbufs, countP_cleanup hq, hbufOne] at hbuf
  simp only [reduceCtorEq, if_true, if_false, Nat.add_zero, Nat.zero_add] at hmr hbuf
  omega

/-- **The cleanup undoes the acquisitions** in the clean cases only. -/
theorem BodyRan.undo_iff {c₁ : RdmaContext} (h : BodyRan config o c (.out (-1)) c₁ t)
    (hpos : 0 < config.turns) :
    undo.monitor.Leads (undo.live [] t) (cleanupActs config c₁) [] ↔ Clean config o c := by
  cases h with
  | noContext h => exact undo_noContext hpos h
  | noChannel hctx h => exact undo_noChannel hpos hctx h
  | noCqs hctx hch h => exact undo_noCqs hpos hctx hch h
  | noSrq hctx hch hcqs h => exact undo_noSrq hpos hctx hch hcqs h
  | qps hshared hqps =>
    cases hqps with
    | failed n hn hknown hto hfail => exact undo_qps hpos hshared hknown hto hfail
  | bufs hshared hqps hbufs =>
    cases hqps with
    | done hknown hqpsTo =>
      cases hbufs with
      | failed n hn hto hat hfail =>
        refine ⟨fun hc => absurd hc (not_undo_bufs hpos (hknown hpos) hqpsTo hto hat hfail),
          fun hclean => ?_⟩
        have hroom : n < room c.buf := hat.1
        rw [hclean.buf] at hroom
        exact absurd hroom (Nat.not_lt_zero n)

/-! ### The whole call -/

/-- The acquisitions are let pass. -/
theorem leads_of_isMaking (h : t.all Act.isMaking = true) (u : List Resource) :
    undo.monitor.Leads u t (undo.live u t) := by
  refine Monitor.leads_of_forall fun a ha u => ?_
  have hmaking := List.all_eq_true.mp h a ha
  cases a <;> first | exact trivial | exact absurd hmaking Bool.false_ne_true

/-- **The cleanup clears what it tests**: no field refers to what it gives back. -/
theorem not_refersTo_cleaned (hpos : 0 < config.turns) {q : List Resource}
    (hq : QpReleased c q) :
    ∀ r ∈ q ++ cleanupReleases c, ¬(c.cleaned config).RefersTo r := by
  have harrays : c.arraysReleased config = c.withoutArrays := if_pos hpos
  intro r hr
  rw [RdmaContext.cleaned, harrays]
  rcases List.mem_append.mp hr with hr | hr
  · rcases hq with ⟨-, rfl⟩ | ⟨-, i, p, -, rfl⟩
    · exact absurd hr List.not_mem_nil
    · obtain rfl := List.mem_singleton.mp hr
      rintro ⟨j, hj⟩
      cases hj
  · simp only [cleanupReleases, List.mem_append, List.mem_map] at hr
    rcases hr with ⟨n, -, rfl⟩ | ⟨n, -, rfl⟩ | ⟨n, -, rfl⟩ | ⟨n, -, rfl⟩ | ⟨n, -, rfl⟩ |
      ⟨n, -, rfl⟩
    · rintro ⟨j, hj⟩
      cases hj
    · rintro ⟨j, hj⟩
      cases hj
    · rintro (hcq | hcq) <;> cases hcq
    · rintro (hcq | hcq) <;> cases hcq
    · intro hpd
      cases hpd
    · intro hcontext
      cases hcontext

/-- The cleanup acquires nothing. -/
theorem acquires_cleanupActs : ∀ a ∈ cleanupActs config c, acquires a = [] := by
  intro a ha
  rcases List.mem_append.mp ha with ha | ha
  · have hshared := List.all_eq_true.mp (all_sharedReleaseActs config c) a ha
    cases a <;> first | rfl | exact absurd hshared Bool.false_ne_true
  · rw [releaseAct] at ha
    split at ha
    · rw [List.mem_singleton.mp ha]
      rfl
    · exact absurd ha List.not_mem_nil

/-- **A failure undoes everything in the clean cases only.** -/
theorem BodyRan.undone_iff {c₁ : RdmaContext} (h : BodyRan config o c (.out (-1)) c₁ t)
    (hpos : 0 < config.turns) :
    Undone (c₁.cleaned config) (.enter .createResources :: (t ++ (cleanupActs config c₁ ++
      [.leave .createResources (-1)]))) ↔ Clean config o c := by
  have hmaking := h.frame.1
  have henter : undo.monitor.Leads [] [Act.enter .createResources] [] :=
    Monitor.leads_of_neutral fun a ha => by
      rw [List.mem_singleton.mp ha]
      exact ⟨trivial, rfl⟩
  have hacts : undo.monitor.Leads [] (.enter .createResources :: (t ++
      (cleanupActs config c₁ ++ [.leave .createResources (-1)]))) [] ↔
        undo.monitor.Leads (undo.live [] t) (cleanupActs config c₁) [] := by
    refine henter.append_iff.trans ?_
    refine (Monitor.Leads.append_iff (leads_of_isMaking hmaking [])).trans ?_
    -- the note of the return neither takes nor gives back
    rw [Monitor.Leads, Monitor.Leads, Monitor.accepts_append, Monitor.after_append]
    constructor
    · rintro ⟨hacc, hafter⟩
      exact ⟨hacc.1, hafter⟩
    · rintro ⟨hacc, hafter⟩
      exact ⟨⟨hacc, trivial, trivial⟩, hafter⟩
  rw [Transport.undone_iff, hacts, h.undo_iff hpos, and_iff_left_iff_imp]
  intro hclean
  obtain ⟨q, hq, hperm⟩ := (leads_cleanupActs hpos _).mp ((h.undo_iff hpos).mpr hclean)
  intro a ha r hr
  refine not_refersTo_cleaned hpos hq r (hperm.subset ?_)
  have hkeeps : ∀ a ∈ t, undo.Keeps a := keeps_of_isKeeping (all_isKeeping_of_isMaking hmaking)
  rcases List.mem_cons.mp ha with rfl | ha
  · exact absurd hr List.not_mem_nil
  rcases List.mem_append.mp ha with ha | ha
  · exact Ledger.takes_subset_live hkeeps ha hr
  rcases List.mem_append.mp ha with ha | ha
  · rw [acquires_cleanupActs a ha] at hr
    exact absurd hr List.not_mem_nil
  · rw [List.mem_singleton.mp ha] at hr
    exact absurd hr List.not_mem_nil

/-- **`fs_rdma_create_resources` fails atomically** exactly when it does not fail or what it has
acquired by then is what the cleanup can undo. -/
theorem failsAtomically_iff_clean (config : RdmaParam) (o : CreateOutcomes) (c : RdmaContext)
    (hqp : 1 ≤ config.qpCount) :
    FailsAtomically (fsRdmaCreateResources config o (some c)) ↔
      (CreateFails config o c → Clean config o c) := by
  have hpos : 0 < config.turns := by
    rw [RdmaParam.turns]
    omega
  have hpost := post_fsRdmaCreateResources config o c
  rcases hrun : fsRdmaCreateResources config o (some c) with ⟨e | ret, s, t⟩
  · obtain ⟨c', t', -, -, hstuck⟩ := hpost.of_error hrun
    refine ⟨fun _ hfails => absurd hfails hstuck.undecided.1, fun _ ret c'' hout => ?_⟩
    cases hout
  · obtain ⟨c', rfl, hran⟩ := hpost.of_ok hrun
    have hatomic : FailsAtomically (⟨.ok ret, some c', t⟩ : Ran (Option RdmaContext) Act Fault ℤ) ↔
        (ret ≠ 0 → Undone c' t) := by
      constructor
      · exact fun h hne => h ret c' rfl rfl hne
      · intro h ret' c'' hout hstate hne
        cases hout
        cases hstate
        exact h hne
    rw [hatomic]
    rcases hran.ret_eq with ⟨rfl, hsucceeds⟩ | ⟨rfl, hfails⟩
    · exact ⟨fun _ hc => absurd hc (not_createFails_of_createSucceeds hsucceeds),
        fun _ hne => absurd rfl hne⟩
    · cases hran with
      | failed h =>
        rw [h.undone_iff hpos]
        exact ⟨fun hclean _ => hclean (by decide), fun hclean _ => hclean hfails⟩

/-- At the sample creation, when the device cannot be opened. -/
theorem failsAtomically_iff_clean_sample :
    FailsAtomically (fsRdmaCreateResources Sample.config
      { Sample.create with ibvOpenDevice := none } (some Sample.fresh)) ↔
        (CreateFails Sample.config { Sample.create with ibvOpenDevice := none } Sample.fresh →
          Clean Sample.config { Sample.create with ibvOpenDevice := none } Sample.fresh) :=
  failsAtomically_iff_clean _ _ _ (by decide)

/-- **A device that cannot be opened**: the cleanup destroys a queue pair that is not there,
deregisters an array of regions and frees one of buffers. -/
theorem not_failsAtomically_of_noDevice : ¬FailsAtomically (fsRdmaCreateResources Sample.config
    { Sample.create with ibvOpenDevice := none } (some Sample.fresh)) := by
  intro hatomic
  have hmade : ∃ c', (fsRdmaCreateResources Sample.config
      { Sample.create with ibvOpenDevice := none } (some Sample.fresh)).state = some c' :=
    ⟨_, rfl⟩
  obtain ⟨c', hstate⟩ := hmade
  have hundone := hatomic (-1) c' rfl hstate (by decide)
  obtain ⟨i, p, -, hmem⟩ := hundone.owned [.enter .createResources, .ibvGetDeviceList true,
    .ibvOpenDevice (firstDev Sample.create) none] (.rdmaDestroyQp (some 11)) _ rfl
  exact absurd hmem List.not_mem_nil

end Transport
