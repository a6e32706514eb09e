import RdmaCpp.Transport.Leftovers

/-!
# The connected flag

`rdma_ctx->connected` is set by `fs_rdma_cm_handle_connect_init` and never reset, so
it goes on saying that there is a connection after a teardown has released
everything. And it is set on the word of an `ESTABLISHED` event alone, whether or not
any resource was created, and after a creation that returned early because it did
not know the connection type.

Where neither happens the flag is right
(`Transport.flagTruthful_of_runMeets`). The invariant rests on one fact about
this code: every release leaves `cm_id` `NULL`, and the flag is only ever set for the
current id. So as long as there is an id, nothing has been released, and what the
last creation made is still there.
-/

namespace Transport

/-- What a creation makes: the protection domain, and in the arrays live queue pairs of
the connection id, live regions and live buffers. -/
structure Resourced (config : RdmaParam) (c : RdmaContext) (u : List Resource) : Prop where
  pd : c.pd ≠ none
  qps : ∀ id, c.cmId = some id → ∀ i < config.turns, Held (.qp id) u (elem c.qp i)
  mrs : ∀ i < config.turns, Held .mr u (elem c.mr i)
  bufs : ∀ i < config.turns, Held .buffer u (elem c.buf i)

/-- **What a context that says it is connected should hold**: what a creation makes, the
connection id, and the three arrays. -/
structure Ready (config : RdmaParam) (c : RdmaContext) (u : List Resource) : Prop
    extends Resourced config c u where
  cmId : c.cmId ≠ none
  qp : c.qp ≠ none
  mr : c.mr ≠ none
  buf : c.buf ≠ none

/-- **The flag does not lie** in the given state after the given history. -/
def FlagTruthful (config : RdmaParam) (s : Option RdmaContext) (h : List Act) : Prop :=
  ∀ c, s = some c → c.connected = 1 → Ready config c (books.live [] h)

/-! ### The condition -/

/-- A creation that returns `0` has made everything, and the arrays are there: the
connection type is known, or there is nothing to make. -/
def Buildable (config : RdmaParam) (c : RdmaContext) : Prop :=
  (0 < config.turns → qpTypeOf config.connectionType ≠ none) ∧
    (config.turns = 0 → c.qp ≠ none ∧ c.mr ≠ none ∧ c.buf ≠ none)

/-- The action that records a creation that returned `0`. -/
def created : Act := .leave .createResources 0

/-- **The condition on a step**: a context with the flag set is not torn down; and the
flag is set only after resources have been created, by a creation that makes
them. -/
def KeepsFlag (config : RdmaParam) (h : List Act) (s : Option RdmaContext) (tick : Tick) : Prop :=
  ∀ c event, s = some c → tick.got = some event →
    (c.connected = 1 → ¬TearsDown config tick.outcomes event c) ∧
      (Initiates event c → event.event = .established → created ∈ h ∧ Buildable config c) ∧
      (Initiates event c → event.event = .connectRequest →
        ¬TearsDown config tick.outcomes event c → Buildable config c)

/-! ### What a creation leaves -/

variable {config : RdmaParam} {c c' : RdmaContext} {u : List Resource} {t : List Act}

/-- What has been made stays live along actions that release nothing. -/
theorem Resourced.keep (h : Resourced config c u) (ht : t.all Act.isKeeping = true) :
    Resourced config c (books.live u t) where
  pd := h.pd
  qps id hid i hi := (h.qps id hid i hi).keep ht
  mrs i hi := (h.mrs i hi).keep ht
  bufs i hi := (h.bufs i hi).keep ht

/-- With the arrays in place, nothing else is needed. -/
theorem Resourced.ready (h : Resourced config c u) (hid : c.cmId ≠ none)
    (hbuild : Buildable config c) : Ready config c u := by
  have harrays : c.qp ≠ none ∧ c.mr ≠ none ∧ c.buf ≠ none := by
    rcases Nat.eq_zero_or_pos config.turns with h0 | hpos
    · exact hbuild.2 h0
    · obtain ⟨id, hid'⟩ := Option.ne_none_iff_exists'.mp hid
      have hne : ∀ {kind : ℕ → Resource} {a : Option PtrArray}, Held kind u (elem a 0) →
          a ≠ none := by
        rintro kind a ⟨n, hn, -⟩ rfl
        cases hn
      exact ⟨hne (h.qps id hid' 0 hpos), hne (h.mrs 0 hpos), hne (h.bufs 0 hpos)⟩
  exact ⟨h, hid, harrays.1, harrays.2.1, harrays.2.2⟩

/-- **A creation that returns `0` makes everything**, when it knows the connection type
or has nothing to make. -/
theorem CreateRan.resourced {o : CreateOutcomes} (h : CreateRan config o c 0 c' t)
    (hknown : 0 < config.turns → qpTypeOf config.connectionType ≠ none) (u : List Resource) :
    Resourced config c' (books.live u t) := by
  have hmaking : (createdActs config o c).all Act.isMaking = true := by
    rw [createdActs, List.all_append, List.all_append, all_sharedActs, all_qpsActs, all_bufsActs]
    rfl
  obtain ⟨⟨hshared, hqps, hbufs⟩, rfl, rfl⟩ := h.complete hknown
  have hkeep : (Act.enter .createResources :: (createdActs config o c ++ [created])).all
      Act.isKeeping = true := by
    rw [List.all_cons, List.all_append, all_isKeeping_of_isMaking hmaking]
    rfl
  -- each buffer is made and registered in its turn of the loop
  have hbufMem : ∀ i < config.turns, ∀ a ∈ bufActs o ((c.withShared config o).withQps o
      config.turns) i, a ∈ Act.enter .createResources :: (createdActs config o c ++ [created]) := by
    intro i hi a ha
    refine List.mem_cons_of_mem _ (List.mem_append_left _ (List.mem_append_right _
      (List.mem_append_right _ ?_)))
    exact List.mem_flatMap.mpr ⟨i, List.mem_range.mpr hi, ha⟩
  refine ⟨?_, ?_, ?_, ?_⟩
  · have hpd : (c.created config o).pd = o.ibvAllocPd := (withShared_fields hshared).1
    rw [hpd]
    exact hshared.1.2.2
  · -- the queue pairs
    intro id hid i hi
    obtain ⟨hqp, -, hroom⟩ := hqps i hi
    have helem : elem (c.created config o).qp i = o.rdmaCreateQp i := elem_map_fill _ hi hroom
    obtain ⟨qpType, htype⟩ := Option.ne_none_iff_exists'.mp (hknown (by omega))
    have hid' : (c.withShared config o).cmId = some id := hid
    rw [helem]
    refine held_of_acquires (a := .rdmaCreateQp (some id) (c.withShared config o).pd
      (qpInitAttr (c.withShared config o) qpType) (o.rdmaCreateQp i)) hkeep ?_ ?_ hqp
    · refine List.mem_cons_of_mem _ (List.mem_append_left _ (List.mem_append_right _
        (List.mem_append_left _ ?_)))
      rw [qpsActs, htype, hid']
      exact List.mem_map.mpr ⟨i, List.mem_range.mpr hi, rfl⟩
    · exact List.append_nil _
  · intro i hi
    obtain ⟨⟨-, -, hroom⟩, hmr⟩ := hbufs i hi
    have helem : elem (c.created config o).mr i = o.ibvRegMr i := elem_map_fill _ hi hroom
    rw [helem]
    exact held_of_acquires hkeep (hbufMem i hi _ (List.mem_cons_of_mem _ (List.mem_cons_of_mem _
      List.mem_cons_self))) rfl hmr
  · intro i hi
    obtain ⟨⟨hroom, hbuf, -⟩, -⟩ := hbufs i hi
    have helem : elem (c.created config o).buf i = o.memalign i := elem_map_fill _ hi hroom
    rw [helem]
    exact held_of_acquires hkeep (hbufMem i hi _ List.mem_cons_self) rfl hbuf

/-! ### The invariant -/

/-- **The invariant of a context**: while it has a connection id, what the last
creation made is there; and the flag is only set on a context with an id, after a
creation that makes everything. -/
structure FlagInv (config : RdmaParam) (c : RdmaContext) (h : List Act) : Prop where
  resourced : c.cmId ≠ none → created ∈ h →
    (0 < config.turns → qpTypeOf config.connectionType ≠ none) →
      Resourced config c (books.live [] h)
  flagged : c.connected = 1 → c.cmId ≠ none ∧ created ∈ h ∧ Buildable config c

theorem FlagInv.truthful {h : List Act} (hinv : FlagInv config c h) (hconn : c.connected = 1) :
    Ready config c (books.live [] h) := by
  obtain ⟨hid, hcreated, hbuild⟩ := hinv.flagged hconn
  exact (hinv.resourced hid hcreated hbuild.1).ready hid hbuild

/-- Whether there are arrays is not changed by a creation. -/
theorem Buildable.created {o : CreateOutcomes} (hbuild : Buildable config c)
    (h : CreateRan config o c 0 c' t) : Buildable config c' := by
  refine ⟨hbuild.1, fun h0 => ?_⟩
  obtain ⟨hqp, hmr, hbuf⟩ := hbuild.2 h0
  obtain ⟨-, rfl, -⟩ := h.complete hbuild.1
  exact ⟨fun hc => hqp (Option.map_eq_none_iff.mp hc), fun hc => hmr (Option.map_eq_none_iff.mp hc),
    fun hc => hbuf (Option.map_eq_none_iff.mp hc)⟩

variable {event : CmEvent} {channel : Ptr} {h : List Act}

/-- The connection check changes the flag only. -/
theorem initiated_eq (event : CmEvent) (c : RdmaContext) :
    c.initiated event = { c with connected := if Initiates event c then 1 else c.connected } := by
  rw [RdmaContext.initiated]
  split <;> rfl

theorem resourced_initiated (hres : Resourced config c u) :
    Resourced config (c.initiated event) u := by
  rw [initiated_eq]
  exact ⟨hres.pd, hres.qps, hres.mrs, hres.bufs⟩

/-- **What the connection check does to the invariant.** -/
theorem FlagInv.initiated (hinv : FlagInv config c h)
    (hset : Initiates event c → created ∈ h ∧ Buildable config c) :
    FlagInv config (c.initiated event) h := by
  refine ⟨fun hid hcreated hknown => ?_, fun hconn => ?_⟩
  · rw [initiated_cmId] at hid
    exact resourced_initiated (hinv.resourced hid hcreated hknown)
  · by_cases hinit : Initiates event c
    · obtain ⟨hcreated, hbuild⟩ := hset hinit
      have hid : c.cmId ≠ none := by
        rw [← hinit.2]
        exact Option.some_ne_none event.id
      rw [RdmaContext.initiated, if_pos hinit]
      exact ⟨hid, hcreated, hbuild⟩
    · rw [RdmaContext.initiated, if_neg hinit] at hconn ⊢
      exact hinv.flagged hconn

theorem created_not_mem (ht : t.all Act.isUncounted = true) : created ∉ t := fun hmem =>
  absurd (List.all_eq_true.mp ht created hmem) Bool.false_ne_true

/-- Actions that release nothing and record no creation keep the invariant. -/
theorem FlagInv.append (hinv : FlagInv config c h) (ht : t.all Act.isKeeping = true)
    (hun : t.all Act.isUncounted = true) : FlagInv config c (h ++ t) := by
  have hno := created_not_mem hun
  have hmem : created ∈ h ++ t ↔ created ∈ h :=
    ⟨fun hc => (List.mem_append.mp hc).resolve_right hno, fun hc => List.mem_append_left _ hc⟩
  refine ⟨fun hid hcreated hknown => ?_, fun hconn => ?_⟩
  · rw [books.live_append]
    exact (hinv.resourced hid (hmem.mp hcreated) hknown).keep ht
  · obtain ⟨hid, hcreated, hbuild⟩ := hinv.flagged hconn
    exact ⟨hid, hmem.mpr hcreated, hbuild⟩

/-- **What a creation does to the invariant**: it establishes it anew. -/
theorem FlagInv.create {o : CreateOutcomes} (hinv : FlagInv config c h)
    (hran : CreateRan config o c 0 c' t) : FlagInv config c' (h ++ t) := by
  obtain ⟨hid, hconn, -⟩ := hran.frame.2
  refine ⟨fun _ _ hknown => ?_, fun hflag => ?_⟩
  · rw [books.live_append]
    exact hran.resourced hknown _
  · rw [hconn] at hflag
    obtain ⟨hid', hcreated, hbuild⟩ := hinv.flagged hflag
    exact ⟨by rwa [hid], List.mem_append_left _ hcreated, hbuild.created hran⟩

/-- A context without an id and without the flag satisfies the invariant. -/
theorem flagInv_of_tornDown (hid : c.cmId = none) (hconn : c.connected ≠ 1) :
    FlagInv config c h :=
  ⟨fun hc => absurd hid hc, fun hc => absurd hc hconn⟩

theorem created_mem_of_createRan {o : CreateOutcomes} (hran : CreateRan config o c 0 c' t) :
    created ∈ t := by
  obtain ⟨exit, t', -, rfl⟩ := hran.body
  exact List.mem_cons_of_mem _ (List.mem_append_right _ List.mem_cons_self)

/-- **One event that does not tear down keeps the invariant.** -/
theorem FlagInv.kept {o : HandlerOutcomes} (hinv : FlagInv config c h)
    (hestablished : Initiates event c → event.event = .established →
      created ∈ h ∧ Buildable config c)
    (hrequest : Initiates event c → event.event = .connectRequest → Buildable config c)
    (hran : Kept config o event c c' t) : FlagInv config c' (h ++ t) := by
  cases hran with
  | untouched _ ht =>
    refine hinv.append ?_ ?_
    · rcases ht with rfl | rfl <;> rfl
    · rcases ht with rfl | rfl <;> rfl
  | @connecting _ t₁ hk hran =>
    have hread := hinv.append (t := [.readEvent event]) rfl rfl
    have hdone := (hread.create hran).append
      (t := [.rdmaConnect c'.cmId (connParam config) o.rdmaConnect, .rdmaAckCmEvent event]) rfl rfl
    simpa only [List.append_assoc, List.cons_append, List.nil_append] using hdone
  | @accepted c₁ t₁ hk hran =>
    have hread := hinv.append (t := [.readEvent event]) rfl rfl
    have hmade := hread.create hran
    obtain ⟨hid, hconn, -⟩ := hran.frame.2
    have hinit : Initiates event c₁ ↔ Initiates event c := by
      rw [Initiates, Initiates, hid, hconn]
    have hset : Initiates event c₁ →
        created ∈ h ++ [.readEvent event] ++ t₁ ∧ Buildable config c₁ := by
      intro hi
      exact ⟨List.mem_append_right _ (created_mem_of_createRan hran),
        (hrequest (hinit.mp hi) hk).created hran⟩
    have hdone := (hmade.initiated hset).append (t := .rdmaAccept c₁.cmId (connParam config)
      o.rdmaAccept :: (initActs event c₁ ++ [.rdmaAckCmEvent event])) ?_ ?_
    · simpa only [List.append_assoc, List.cons_append, List.nil_append] using hdone
    · rw [List.all_cons, List.all_append, initActs_keeping]
      rfl
    · rw [List.all_cons, List.all_append, initActs_uncounted]
      rfl
  | established hk =>
    refine (hinv.initiated fun hi => hestablished hi hk).append ?_ ?_
    · rw [List.all_cons, List.all_append, initActs_keeping]
      rfl
    · rw [List.all_cons, List.all_append, initActs_uncounted]
      rfl

/-! ### Runs -/

variable {start : Start}

/-- The start leaves the flag as it found it. -/
theorem Started.connected_eq {c : RdmaContext} (h : Started config start (some c) t) :
    ∃ c₀, start.ctx.malloc = some c₀ ∧ c.connected = c₀.connected := by
  cases h with
  | context h =>
    cases h with
    | unmade hmalloc => exact ⟨_, hmalloc, rfl⟩
    | made hmalloc => exact ⟨_, hmalloc, rfl⟩

/-- **The flag is right in every run** whose steps tear no connected context down and
set the flag only after a creation that makes everything. -/
theorem keepsFlag_invariant (hzero : ∀ c, start.ctx.malloc = some c → c.connected = 0) :
    RunInvariant config channel start (KeepsFlag config)
      (fun s h => ∀ c, s = some c → FlagInv config c h)
      (fun out s h => out = .ok () → FlagTruthful config s h) where
  started s t h := by
    rintro c rfl
    obtain ⟨c₀, hmalloc, hconn⟩ := h.connected_eq
    refine ⟨fun _ hc => absurd hc (created_not_mem h.uncounted), fun hc => ?_⟩
    rw [hconn, hzero c₀ hmalloc] at hc
    exact absurd hc (by decide)
  exits e s t _ := fun hout => by cases hout
  handled c h o event r c' t hP hI hran := by
    rintro c'' hc
    obtain rfl : c' = c'' := Option.some.inj hc
    obtain ⟨hkeep, hestablished, hrequest⟩ := hP c event rfl rfl
    have hobtain := (hI c rfl).append (t := obtainActs channel event) rfl rfl
    rw [← List.append_assoc]
    by_cases htear : TearsDown config o event c
    · obtain ⟨hid, hconn, -⟩ := hran.tornDown htear
      refine flagInv_of_tornDown hid ?_
      rw [hconn]
      exact fun hc => hkeep hc htear
    · refine hobtain.kept (fun hi hk => ?_) (fun hi hk => hrequest hi hk htear) (hran.kept htear)
      obtain ⟨hcreated, hbuild⟩ := hestablished hi hk
      exact ⟨List.mem_append_left _ hcreated, hbuild⟩
  stuck c h o event c' t e hP hI hran := fun hout => by cases hout
  handledNull h o event r t hP hI hran := fun c hc => absurd hc.symm (Option.some_ne_none c)
  nullStuck h o event t e hP hI hran := fun hout => by cases hout
  idle s h event out hI := by
    rintro - c rfl hconn
    have hidle := (hI c rfl).append (t := idleActs channel event) ?_ ?_
    · exact hidle.truthful hconn
    · cases event <;> rfl
    · cases event <;> rfl
  ends s h out hI := by
    rintro - c rfl hconn
    exact (hI c rfl).truthful hconn

/-- **When the flag does not lie**: from a context whose flag is `0`, in every state a
run reaches all of whose steps tear no connected context down, and set the flag
only after a creation that makes everything. -/
theorem flagTruthful_of_runMeets (config : RdmaParam) (channel : Ptr) (start : Start)
    (ticks : List Tick) (hzero : ∀ c, start.ctx.malloc = some c → c.connected = 0)
    (hsteps : RunMeets (KeepsFlag config) config channel start ticks) (s : Option RdmaContext)
    (t : List Act) (hrun : run config channel start ticks none = ⟨.ok (), s, t⟩) :
    FlagTruthful config s t :=
  ((keepsFlag_invariant hzero).post_run hsteps).of_ok hrun rfl

/-- The sample client, connected: its flag does not lie. -/
theorem flagTruthful_connected_client : FlagTruthful Sample.config
    (Sample.clientRun [.addrResolved, .routeResolved, .established]).state
    (Sample.clientRun [.addrResolved, .routeResolved, .established]).trace := by
  refine flagTruthful_of_runMeets Sample.config (some 10) (Sample.connect Sample.block)
    ([.addrResolved, .routeResolved, .established].map (Sample.tick · 11)) ?_ ?_ _ _ rfl
  · rintro c hc
    cases hc
    rfl
  have hstep : ∀ {kind : CmEventType} {h : List Act} {c : RdmaContext}, c.connected ≠ 1 →
      kind ≠ .connectRequest → (kind = .established → created ∈ h) →
      KeepsFlag Sample.config h (some c) (Sample.tick kind 11) := by
    rintro kind h c hconn hrequest hestablished c' event hc hevent
    cases hc
    cases hevent
    refine ⟨fun h1 => absurd h1 hconn, fun _ hk => ⟨hestablished hk, fun _ => by decide, ?_⟩,
      fun _ hk => absurd hk hrequest⟩
    exact fun h0 => absurd h0 (by decide)
  rintro s t hstart
  cases hstart
  refine ⟨hstep (by decide) (by decide) (fun hk => by cases hk), ?_⟩
  rintro b s t hturn
  cases hturn
  refine ⟨hstep (by decide) (by decide) (fun hk => by cases hk), ?_⟩
  rintro b s t hturn
  cases hturn
  refine ⟨hstep (by decide) (by decide) (fun _ => by decide), ?_⟩
  exact fun _ _ _ _ => trivial

/-- The sample client, connected and then disconnected: the flag is still set, and the
connection id is gone. -/
theorem not_flagTruthful_of_disconnected :
    ¬FlagTruthful Sample.config
      (Sample.clientRun [.addrResolved, .routeResolved, .established, .disconnected]).state
      (Sample.clientRun [.addrResolved, .routeResolved, .established, .disconnected]).trace := by
  intro hall
  exact (hall _ rfl rfl).cmId rfl

end Transport
