import RdmaCpp.Transport.Leftovers

/-!
# What destroys the connection id

Two functions destroy the connection id that `fs_rdma_create_ctx` has made:
`fs_rdma_teardown`, which leaves `cm_id` `NULL`, and `fs_rdma_destroy_ctx`, which is there to
undo `fs_rdma_create_ctx` and does not look at what it destroys.

Over a whole life – a start, any events, and `fs_rdma_destroy_ctx` in the end – the id is
destroyed **once**, and so is the event channel, in this order
(`Transport.destroyed_of_run`). But when there has been a teardown in between, the id
is gone, and the call of `fs_rdma_destroy_ctx` is made on `NULL`.
-/

namespace Transport

/-- The calls that undo those of `fs_rdma_create_ctx`. -/
def Act.isDestroy : Act → Bool
  | .rdmaDestroyId _ | .rdmaDestroyEventChannel _ => true
  | _ => false

/-- The calls of a stretch that undo those of `fs_rdma_create_ctx`, in order. -/
def destroyed (t : List Act) : List Act := t.filter Act.isDestroy

/-- The action that records the return of a teardown. -/
def tornDownAct : Act := .leave .teardown 0

variable {config : RdmaParam} {c c' : RdmaContext} {t t' : List Act}

theorem destroyed_append : destroyed (t ++ t') = destroyed t ++ destroyed t' :=
  List.filter_append ..

/-- **A quiet stretch**: nothing is destroyed, and no teardown returns. -/
def Sparing (t : List Act) : Prop := destroyed t = [] ∧ tornDownAct ∉ t

theorem Sparing.append (h : Sparing t) (h' : Sparing t') : Sparing (t ++ t') := by
  refine ⟨?_, fun hmem => ?_⟩
  · rw [destroyed_append, h.1, h'.1, List.append_nil]
  · exact (List.mem_append.mp hmem).elim h.2 h'.2

theorem Sparing.cons {a : Act} (ha : a.isDestroy = false) (hne : a ≠ tornDownAct)
    (h : Sparing t) : Sparing (a :: t) := by
  refine Sparing.append (t := [a]) ⟨?_, ?_⟩ h
  · rw [destroyed, List.filter_cons, ha]
    rfl
  · exact fun hmem => hne (List.mem_singleton.mp hmem).symm

theorem sparing_nil : Sparing [] := ⟨rfl, List.not_mem_nil⟩

/-- Calls that are all of another kind. -/
theorem sparing_of_all {p : Act → Bool} (ht : t.all p = true)
    (hp : ∀ a, p a = true → a.isDestroy = false) (hne : p tornDownAct = false) : Sparing t := by
  rw [List.all_eq_true] at ht
  refine ⟨List.filter_eq_nil_iff.mpr fun a ha => ?_, fun hmem => ?_⟩
  · rw [hp a (ht a ha)]
    exact Bool.false_ne_true
  · rw [ht _ hmem] at hne
    cases hne

theorem sparing_of_isResource (ht : t.all Act.isResource = true) : Sparing t := by
  refine sparing_of_all ht (fun a ha => ?_) rfl
  cases a <;> first | rfl | exact absurd ha Bool.false_ne_true

theorem sparing_of_isStarting (ht : t.all Act.isStarting = true) : Sparing t := by
  refine sparing_of_all ht (fun a ha => ?_) rfl
  cases a <;> first | rfl | exact absurd ha Bool.false_ne_true

/-! ### What an event destroys -/

/-- **A stretch that destroys the id**: it is destroyed, if it was there, and a teardown
returns. -/
def Destroying (id : Ptr) (t : List Act) : Prop :=
  destroyed t = releaseAct id (.rdmaDestroyId id) ∧ tornDownAct ∈ t

theorem Destroying.append (h : Destroying c.cmId t) (h' : Sparing t') :
    Destroying c.cmId (t ++ t') := by
  refine ⟨?_, List.mem_append_left _ h.2⟩
  rw [destroyed_append, h'.1, List.append_nil, h.1]

theorem Sparing.destroying (h : Sparing t) (h' : Destroying c.cmId t') :
    Destroying c.cmId (t ++ t') := by
  refine ⟨?_, List.mem_append_right _ h'.2⟩
  rw [destroyed_append, h.1, List.nil_append, h'.1]

theorem destroying_teardownActs (config : RdmaParam) (c : RdmaContext) :
    Destroying c.cmId (teardownActs config c) := by
  have hshared : Sparing (sharedReleaseActs config c) := by
    refine sparing_of_isResource (all_mono (fun _ => Act.isResource_of_isShared) ?_)
    exact all_sharedReleaseActs config c
  have hid : Destroying c.cmId (releaseAct c.cmId (.rdmaDestroyId c.cmId) ++ [tornDownAct]) := by
    refine ⟨?_, List.mem_append_right _ List.mem_cons_self⟩
    cases c.cmId <;> rfl
  rw [teardownActs]
  exact Sparing.destroying (t := [.enter .teardown]) ⟨rfl, by decide⟩ (hshared.destroying hid)

theorem CreateRan.sparing {o : CreateOutcomes} {ret : ℤ} (h : CreateRan config o c ret c' t) :
    Sparing t := by
  obtain ⟨⟨t₁, rfl, hres⟩, -⟩ := h.frame
  refine Sparing.cons rfl (fun hc => by cases hc) ((sparing_of_isResource hres).append ?_)
  exact Sparing.cons rfl (fun hc => by cases hc) sparing_nil

theorem sparing_initActs (event : CmEvent) (c : RdmaContext) : Sparing (initActs event c) := by
  rw [initActs]
  split_ifs
  · exact ⟨rfl, by simp [tornDownAct]⟩
  · exact ⟨rfl, by simp [tornDownAct]⟩

/-- **What an event destroys**: nothing, and the id stays; or the id, which is `NULL`
afterwards. -/
theorem Handled.destroys {o : HandlerOutcomes} {event : CmEvent} {r : Option CmEvent}
    (h : Handled config o event c r c' t) : c'.cmEventChannel = c.cmEventChannel ∧
      (c'.cmId = c.cmId ∧ Sparing t ∨ c'.cmId = none ∧ Destroying c.cmId t) := by
  have hone : ∀ {a : Act}, a.isDestroy = false → a ≠ tornDownAct → Sparing [a] :=
    fun ha hne => Sparing.cons ha hne sparing_nil
  have hread : Sparing [.readEvent event] := hone rfl (fun hc => by cases hc)
  have hack : Sparing [.rdmaAckCmEvent event] := hone rfl (fun hc => by cases hc)
  have hresolve : Sparing (resolveActs o event) := ⟨rfl, by simp [resolveActs, tornDownAct]⟩
  have hsame : ∀ {c₁ : RdmaContext}, (c₁.tornDown config).cmEventChannel = c₁.cmEventChannel := by
    intro c₁
    rw [RdmaContext.tornDown, RdmaContext.arraysReleased]
    split <;> rfl
  have hinit : ∀ c₁ : RdmaContext, (c₁.initiated event).cmEventChannel = c₁.cmEventChannel := by
    intro c₁
    rw [RdmaContext.initiated]
    split <;> rfl
  -- a teardown of what a creation has left, and the acknowledgement after it
  have htear : ∀ {c₁ : RdmaContext}, c₁.cmId = c.cmId →
      Destroying c.cmId (teardownActs config c₁ ++ [.rdmaAckCmEvent event]) := by
    intro c₁ hid
    rw [← hid]
    exact (destroying_teardownActs config c₁).append hack
  cases h with
  | other => exact ⟨rfl, Or.inl ⟨rfl, hread.append (hread.append hack)⟩⟩
  | resolved => exact ⟨rfl, Or.inl ⟨rfl, hresolve.append hack⟩⟩
  | unresolved => exact ⟨hsame, Or.inr ⟨rfl, hresolve.destroying (htear rfl)⟩⟩
  | uncreated _ hran =>
    obtain ⟨hid, -, hch⟩ := hran.frame.2
    exact ⟨hsame.trans hch, Or.inr ⟨rfl, hread.destroying (hran.sparing.destroying (htear hid))⟩⟩
  | unconnected _ hran =>
    obtain ⟨hid, -, hch⟩ := hran.frame.2
    refine ⟨hsame.trans hch, Or.inr ⟨rfl, hread.destroying (hran.sparing.destroying ?_)⟩⟩
    exact Sparing.destroying (hone rfl fun hc => by cases hc) (htear hid)
  | connecting _ hran =>
    obtain ⟨hid, -, hch⟩ := hran.frame.2
    refine ⟨hch, Or.inl ⟨hid, hread.append (hran.sparing.append ?_)⟩⟩
    exact Sparing.append (hone rfl fun hc => by cases hc) hack
  | unaccepted _ hran =>
    obtain ⟨hid, -, hch⟩ := hran.frame.2
    refine ⟨hsame.trans hch, Or.inr ⟨rfl, hread.destroying (hran.sparing.destroying ?_)⟩⟩
    exact Sparing.destroying (hone rfl fun hc => by cases hc) (htear hid)
  | accepted _ hran =>
    obtain ⟨hid, -, hch⟩ := hran.frame.2
    refine ⟨(hinit _).trans hch, Or.inl ⟨by rw [initiated_cmId, hid], ?_⟩⟩
    refine hread.append (hran.sparing.append (Sparing.append (hone rfl fun hc => by cases hc) ?_))
    exact (sparing_initActs event _).append hack
  | established =>
    refine ⟨hinit c, Or.inl ⟨initiated_cmId event c, ?_⟩⟩
    exact hread.append ((sparing_initActs event c).append hack)
  | error =>
    refine ⟨hsame, Or.inr ⟨rfl, ?_⟩⟩
    exact (hread.append (hread.append hack)).destroying (destroying_teardownActs config c)
  | disconnected =>
    refine ⟨hsame, Or.inr ⟨rfl, ?_⟩⟩
    exact (hread.append hack).destroying (destroying_teardownActs config c)

/-! ### Over a life -/

/-- **A whole life**: a run, and `fs_rdma_destroy_ctx` when the event loop has returned. -/
def life (config : RdmaParam) (channel : Ptr) (start : Start) (ticks : List Tick) :
    TransportM Unit := do
  run config channel start ticks
  let _ ← fsRdmaDestroyCtx

/-- **The id is there until it is destroyed**: the context has the event channel it was made
with, and either its id, which nothing has destroyed, or none, after a teardown which has. -/
def OwnsId (ch id : Ptr) (s : Option RdmaContext) (h : List Act) : Prop :=
  ∃ c, s = some c ∧ c.cmEventChannel = ch ∧ (c.cmId = id ∧ Sparing h ∨
    c.cmId = none ∧ destroyed h = [.rdmaDestroyId id] ∧ tornDownAct ∈ h)

variable {ch id : Ptr} {h : List Act}

/-- A stretch that destroys nothing, and leaves the context alone. -/
theorem OwnsId.append (hown : OwnsId ch id (some c) h) (ht : Sparing t)
    (hch : c'.cmEventChannel = c.cmEventChannel) (hid : c'.cmId = c.cmId) :
    OwnsId ch id (some c') (h ++ t) := by
  obtain ⟨c₁, hc, hch₁, hcases⟩ := hown
  cases hc
  refine ⟨c', rfl, hch.trans hch₁, ?_⟩
  rcases hcases with ⟨hid₁, hspare⟩ | ⟨hnone, hdest, htorn⟩
  · exact Or.inl ⟨hid.trans hid₁, hspare.append ht⟩
  · refine Or.inr ⟨hid.trans hnone, ?_, List.mem_append_left _ htorn⟩
    rw [destroyed_append, ht.1, List.append_nil, hdest]

/-- A stretch that destroys the id, if it is still there. -/
theorem OwnsId.destroy (hown : OwnsId ch id (some c) h) (hne : id ≠ none)
    (ht : Destroying c.cmId t) (hch : c'.cmEventChannel = c.cmEventChannel)
    (hid : c'.cmId = none) : OwnsId ch id (some c') (h ++ t) := by
  obtain ⟨c₁, hc, hch₁, hcases⟩ := hown
  cases hc
  refine ⟨c', rfl, hch.trans hch₁, Or.inr ⟨hid, ?_, List.mem_append_right _ ht.2⟩⟩
  rw [destroyed_append, ht.1]
  rcases hcases with ⟨rfl, hspare⟩ | ⟨hnone, hdest, -⟩
  · obtain ⟨n, hn⟩ := Option.ne_none_iff_exists'.mp hne
    rw [hspare.1, hn]
    rfl
  · rw [hnone, hdest]
    rfl

variable {channel : Ptr} {start : Start}

/-- A complete start leaves the id that it has made. -/
theorem Started.ownsId {s : Option RdmaContext} (h : Started config start s t)
    (hmalloc : start.ctx.malloc ≠ none) (hmade : CtxMade start.ctx) :
    OwnsId start.ctx.rdmaCreateEventChannel start.ctx.rdmaCreateId s t := by
  have hspare : Sparing t := sparing_of_isStarting h.all_isStarting
  cases h with
  | null hran =>
    cases hran with
    | unallocated hnone => exact absurd hnone hmalloc
  | context hran =>
    cases hran with
    | unmade _ hfail => exact absurd hfail (not_or.mpr ⟨hmade.1, hmade.2.1⟩)
    | made => exact ⟨_, rfl, rfl, Or.inl ⟨rfl, hspare⟩⟩

/-- **In every run** the id is there until a teardown destroys it. -/
theorem ownsId_invariant (hmalloc : start.ctx.malloc ≠ none) (hmade : CtxMade start.ctx) :
    RunInvariant config channel start (fun _ _ _ => True)
      (OwnsId start.ctx.rdmaCreateEventChannel start.ctx.rdmaCreateId)
      (fun out s h => out = .ok () →
        OwnsId start.ctx.rdmaCreateEventChannel start.ctx.rdmaCreateId s h) where
  started s t h := h.ownsId hmalloc hmade
  exits e s t _ := fun hout => by cases hout
  handled c h o event r c' t _ hown hran := by
    have hobtain : Sparing (obtainActs channel event) := ⟨rfl, by simp [obtainActs, tornDownAct]⟩
    obtain ⟨hch, ⟨hid, hspare⟩ | ⟨hid, hdest⟩⟩ := hran.destroys
    · exact hown.append (hobtain.append hspare) hch hid
    · exact hown.destroy hmade.2.1 (hobtain.destroying hdest) hch hid
  stuck c h o event c' t e _ _ _ := fun hout => by cases hout
  handledNull h o event r t _ hown _ := by
    obtain ⟨c, hc, -⟩ := hown
    cases hc
  nullStuck h o event t e _ _ _ := fun hout => by cases hout
  idle s h event out hown := by
    intro _
    have hidle : Sparing (idleActs channel event) := by
      cases event <;> exact ⟨rfl, by simp [idleActs, tornDownAct]⟩
    rcases s with _ | c
    · obtain ⟨c, hc, -⟩ := hown
      cases hc
    · exact hown.append hidle rfl rfl
  ends s h out hown := fun _ => hown

/-- **Destroyed once.** In every life that starts with a complete context, whatever the events:
what is destroyed is the connection id, once, and at last the event channel, once; and in
between, when there has been a teardown, `fs_rdma_destroy_ctx` calls `rdma_destroy_id` on
`NULL`. -/
theorem destroyed_of_run (config : RdmaParam) (channel : Ptr) (start : Start) (ticks : List Tick)
    (hmalloc : start.ctx.malloc ≠ none) (hmade : CtxMade start.ctx) (s : Option RdmaContext)
    (hrun : run config channel start ticks none = ⟨.ok (), s, t⟩) :
    (life config channel start ticks none).out = .ok () ∧
      destroyed (life config channel start ticks none).trace =
        .rdmaDestroyId start.ctx.rdmaCreateId ::
          ((if tornDownAct ∈ t then [.rdmaDestroyId none] else []) ++
            [.rdmaDestroyEventChannel start.ctx.rdmaCreateEventChannel]) := by
  have hmeets : RunMeets (fun _ _ _ => True) config channel start ticks := fun s t _ =>
    Traced.meets_of_mem (fun _ _ _ _ => trivial) none s t
  obtain ⟨c, rfl, hch, hcases⟩ :=
    ((ownsId_invariant hmalloc hmade).post_run hmeets).of_ok hrun rfl
  have hlife : life config channel start ticks none = ⟨.ok (), some c,
      t ++ [.rdmaDestroyId c.cmId, .rdmaDestroyEventChannel c.cmEventChannel]⟩ := by
    rw [life, Traced.run_bind_ok hrun]
    rfl
  rw [hlife, destroyed_append, hch]
  refine ⟨rfl, ?_⟩
  rcases hcases with ⟨hid, hspare⟩ | ⟨hnone, hdest, htorn⟩
  · rw [hspare.1, hid, if_neg hspare.2]
    rfl
  · rw [hdest, hnone, if_pos htorn]
    rfl

/-- The context of the sample client is complete. -/
theorem Sample.ctxMade : CtxMade (Sample.ctx Sample.block) := by
  refine ⟨Option.some_ne_none _, Option.some_ne_none _, fun field => ?_⟩
  cases field <;> exact Option.some_ne_none _

/-- The sample client, which loses its connection. -/
theorem destroyed_of_run_client : ∃ t : List Act, tornDownAct ∈ t ∧
    (life Sample.config (some 10) (Sample.connect Sample.block)
        ([.addrResolved, .disconnected].map (Sample.tick · 11)) none).out = .ok () ∧
      destroyed (life Sample.config (some 10) (Sample.connect Sample.block)
          ([.addrResolved, .disconnected].map (Sample.tick · 11)) none).trace =
        .rdmaDestroyId (some 11) :: ((if tornDownAct ∈ t then [.rdmaDestroyId none] else []) ++
          [.rdmaDestroyEventChannel (some 10)]) :=
  ⟨(Sample.clientRun [.addrResolved, .disconnected]).trace, by decide,
    destroyed_of_run Sample.config (some 10) (Sample.connect Sample.block) _
      (Option.some_ne_none _) Sample.ctxMade
      (Sample.clientRun [.addrResolved, .disconnected]).state rfl⟩

end Transport
