import RdmaCpp.Transport.Setup

/-!
# What a start does

`fs_rdma_create_ctx` ends in one of four ways: without a context
(`Transport.CtxRan.unallocated`), with a context whose connection id was never
assigned (`Transport.CtxRan.unmade`), with a complete one
(`Transport.CtxRan.made`), or with the end of the process. The code around it adds
the resolution of an address, and on the way to a failed context it may use the id
that was never assigned.
-/

namespace Transport

variable {config : RdmaParam}

/-! ### The context -/

/-- The context with an event channel, an id and the arrays whose blocks are
there. -/
def RdmaContext.withArrays (config : RdmaParam) (o : CtxOutcomes) (c : RdmaContext) :
    RdmaContext :=
  { c with
    cmEventChannel := o.rdmaCreateEventChannel
    cmId := o.rdmaCreateId
    qp := (o.allocate .qp).map fun b => ⟨b.1, (List.range config.turns).map b.2⟩
    mr := (o.allocate .mr).map fun b => ⟨b.1, (List.range config.turns).map b.2⟩
    buf := (o.allocate .buf).map fun b => ⟨b.1, (List.range config.turns).map b.2⟩ }

/-- The port space of the connection id. -/
def portSpaceOf (config : RdmaParam) : PortSpace :=
  if config.connectionType = .ud then PortSpace.udp else PortSpace.tcp

/-- The calls up to the connection id. -/
def idActs (config : RdmaParam) (o : CtxOutcomes) : List Act :=
  [.malloc true, .rdmaCreateEventChannel o.rdmaCreateEventChannel,
    .rdmaCreateId o.rdmaCreateEventChannel (portSpaceOf config) o.rdmaCreateId]

/-- The allocation of an array. -/
def allocateAct (config : RdmaParam) (o : CtxOutcomes) (field : ArrayField) : Act :=
  .allocate field config.qpCount ((o.allocate field).map Prod.fst)

/-- The allocation of the three arrays. -/
def arraysActs (config : RdmaParam) (o : CtxOutcomes) : List Act :=
  [allocateAct config o .qp, allocateAct config o .mr, allocateAct config o .buf]

/-- The context is complete: event channel, connection id, arrays. -/
def CtxMade (o : CtxOutcomes) : Prop :=
  o.rdmaCreateEventChannel ≠ none ∧ o.rdmaCreateId ≠ none ∧ ∀ field, o.allocate field ≠ none

/-- **How `fs_rdma_create_ctx` returns**: leaving which state, after which
calls. -/
inductive CtxRan (config : RdmaParam) (o : CtxOutcomes) : Option RdmaContext → List Act → Prop
  /-- There is no memory. -/
  | unallocated (h : o.malloc = none) : CtxRan config o none [.malloc false]
  /-- The event channel or the connection id fails. -/
  | unmade {c : RdmaContext} {t : List Act} (h : o.malloc = some c)
      (hfail : o.rdmaCreateEventChannel = none ∨ o.rdmaCreateId = none)
      (ht : t <+: idActs config o) :
      CtxRan config o (some { c with cmEventChannel := o.rdmaCreateEventChannel }) t
  /-- The context is complete. -/
  | made {c : RdmaContext} (h : o.malloc = some c) (hmade : CtxMade o) :
      CtxRan config o (some (c.withArrays config o)) (idActs config o ++ arraysActs config o)

/-- Allocating an array: the field is assigned, or the process ends. -/
theorem post_allocate {o : CtxOutcomes} {field : ArrayField} {c : RdmaContext}
    {Q : Unit → Option RdmaContext → List Act → Prop}
    {E : Fault → Option RdmaContext → List Act → Prop} :
    Traced.Post (allocate config o field) (some c) Q E ↔
      match o.allocate field with
      | none => E (.exit 1) (some c) [allocateAct config o field, .exit 1]
      | some b => Q () (some (field.put ⟨b.1, (List.range config.turns).map b.2⟩ c))
          [allocateAct config o field] := by
  rw [allocate, Traced.post_bind, Traced.post_emit]
  rcases h : o.allocate field with _ | ⟨addr, contents⟩
  · simp only [Traced.post_bind, Traced.post_emit, Traced.post_stop, allocateAct, h]
    exact Iff.rfl
  · simp only [post_assign, allocateAct, h]
    exact Iff.rfl

/-- **`fs_rdma_create_ctx`.** -/
theorem post_fsRdmaCreateCtx (config : RdmaParam) (o : CtxOutcomes) (s : Option RdmaContext) :
    Traced.Post (fsRdmaCreateCtx config o) s (fun _ s' t => CtxRan config o s' t)
      (fun _ _ t => ∃ t', t' <+: arraysActs config o ∧
        t = idActs config o ++ (t' ++ [.exit 1])) := by
  rw [fsRdmaCreateCtx, Traced.post_bind, Traced.post_emit, Traced.post_bind, Traced.post_modify]
  rcases hm : o.malloc with _ | c
  · simp only [Option.isNone_none, if_true, Traced.post_pure, Option.isSome_none]
    exact CtxRan.unallocated hm
  simp only [Option.isNone_some, Bool.false_eq_true, if_false, Traced.post_bind,
    Traced.post_emit, post_assign, post_rdmaCtx, Option.isSome_some]
  rcases hch : o.rdmaCreateEventChannel with _ | ch
  · simp only [Option.isNone_none, if_true, Traced.post_pure]
    have hprefix : [Act.malloc true, .rdmaCreateEventChannel none] <+: idActs config o :=
      ⟨_, by rw [idActs, hch]; rfl⟩
    have hran := CtxRan.unmade hm (Or.inl hch) hprefix
    rwa [hch] at hran
  simp only [Option.isNone_some, Bool.false_eq_true, if_false, Traced.post_bind, post_rdmaCtx,
    Traced.post_emit]
  rcases hid : o.rdmaCreateId with _ | id
  · simp only [Option.isNone_none, if_true, Traced.post_pure]
    have hran := CtxRan.unmade hm (Or.inr hid) (List.prefix_refl (idActs config o))
    simpa only [idActs, portSpaceOf, hch, hid, List.cons_append, List.nil_append,
      List.append_nil] using hran
  simp only [Option.isNone_some, Bool.false_eq_true, if_false, Traced.post_bind, post_assign,
    post_allocate, Traced.post_pure]
  rcases hqp : o.allocate .qp with _ | qp
  · refine ⟨[allocateAct config o .qp], ⟨_, rfl⟩, ?_⟩
    simp only [idActs, portSpaceOf, hch, hid, List.nil_append, List.cons_append]
  rcases hmr : o.allocate .mr with _ | mr
  · refine ⟨[allocateAct config o .qp, allocateAct config o .mr], ⟨_, rfl⟩, ?_⟩
    simp only [idActs, portSpaceOf, hch, hid, List.nil_append, List.cons_append]
  rcases hbuf : o.allocate .buf with _ | buf
  · refine ⟨arraysActs config o, List.prefix_refl _, ?_⟩
    simp only [idActs, arraysActs, portSpaceOf, hch, hid, List.nil_append, List.cons_append]
  have hmade : CtxMade o := by
    refine ⟨by simp only [hch, ne_eq, reduceCtorEq, not_false_eq_true],
      by simp only [hid, ne_eq, reduceCtorEq, not_false_eq_true], ?_⟩
    rintro (_ | _ | _)
    · simp only [hqp, ne_eq, reduceCtorEq, not_false_eq_true]
    · simp only [hmr, ne_eq, reduceCtorEq, not_false_eq_true]
    · simp only [hbuf, ne_eq, reduceCtorEq, not_false_eq_true]
  have hran : CtxRan config o _ _ := CtxRan.made hm hmade
  simpa only [RdmaContext.withArrays, ArrayField.put, idActs, arraysActs, portSpaceOf, hch, hid,
    hqp, hmr, hbuf, Option.map_some, List.nil_append, List.append_nil, List.cons_append] using hran

/-! ### The whole start -/

/-- The address look-up of a start. -/
def Start.lookup : Start → Act
  | .connect ipAddr port o => .getaddrinfo ipAddr port o.getaddrinfo.ret
  | .listen ipAddr port _ o => .getaddrinfo ipAddr port o.getaddrinfo.ret

/-- The address a start goes on with. -/
def Start.found : Start → Option ℕ
  | .connect _ _ o => o.getaddrinfo.res
  | .listen _ _ _ o => if o.getaddrinfo.ret < 0 then none else o.getaddrinfo.res

/-- The calls that give the address to the connection id. -/
def Start.uses (config : RdmaParam) (id : Ptr) (start : Start) (addr : ℕ) : List Act :=
  match start with
  | .connect _ _ o =>
    [.rdmaResolveAddr id ⟨addr, toUInt16 config.port⟩ timeoutInMs o.rdmaResolveAddr]
  | .listen _ _ _ o =>
    .rdmaBindAddr id ⟨addr, toUInt16 config.port⟩ o.rdmaBindAddr ::
      if o.rdmaBindAddr ≠ 0 then [] else [.rdmaListen id 0 o.rdmaListen]

/-- The calls of a start that do not need a context. -/
def Start.lookupActs (start : Start) : List Act :=
  start.lookup :: start.found.toList.map .freeaddrinfo

/-- The calls of a start on its connection id. -/
def Start.useActs (config : RdmaParam) (start : Start) (id : Ptr) : List Act :=
  start.found.toList.flatMap (start.uses config id)

/-- **What a start leaves**: the context is what `fs_rdma_create_ctx` made of it;
the calls are its calls, then the look-up, and the uses of the connection id when
there is a context. -/
inductive Started (config : RdmaParam) (start : Start) : Option RdmaContext → List Act → Prop
  | null {t t' : List Act} (h : CtxRan config start.ctx none t) (ht : t' <+: start.lookupActs) :
      Started config start none (t ++ t')
  | context {c : RdmaContext} {t : List Act} (h : CtxRan config start.ctx (some c) t) :
      Started config start (some c) (t ++ (start.lookupActs ++ start.useActs config c.cmId))

/-- The process ends while the arrays of the context are allocated. -/
def StartExits (config : RdmaParam) (start : Start) (t : List Act) : Prop :=
  ∃ t', t' <+: arraysActs config start.ctx ∧ t = idActs config start.ctx ++ (t' ++ [.exit 1])

/-- **The start.** It may stop after the look-up, when there is no address or no
context to follow. -/
theorem post_start (config : RdmaParam) (start : Start) :
    Traced.Post (start.code config) none (fun _ s t => Started config start s t)
      (fun _ s t => StartExits config start t ∨ Started config start s t) := by
  cases start with
  | connect ipAddr port o =>
    rw [Start.code, Traced.post_bind, fsRdmaConnect, Traced.post_bind]
    refine (post_fsRdmaCreateCtx config o.ctx none).mono ?_ fun e s t h => Or.inl h
    rintro ret s t hran
    rw [Traced.post_bind, Traced.post_emit]
    rcases hres : o.getaddrinfo.res with _ | addr
    · simp only [Traced.post_stop]
      rcases s with _ | c
      · refine Or.inr (Started.null hran ?_)
        simp only [Start.lookupActs, Start.lookup, Start.found, hres]
        exact List.prefix_refl _
      · refine Or.inr ?_
        have hstarted : Started config (.connect ipAddr port o) _ _ := Started.context hran
        simpa only [Start.lookupActs, Start.useActs, Start.lookup, Start.found, hres,
          Option.toList_none, List.map_nil, List.flatMap_nil, List.append_nil] using hstarted
    · simp only [Traced.post_bind, Traced.post_emit]
      rcases s with _ | c
      · refine Or.inr (Started.null hran ?_)
        simp only [Start.lookupActs, Start.lookup, Start.found, hres]
        exact List.prefix_refl _
      · have hstarted : Started config (.connect ipAddr port o) _ _ := Started.context hran
        simp only [Start.lookupActs, Start.useActs, Start.lookup, Start.found, Start.uses, hres,
          Option.toList_some, List.map_cons, List.map_nil, List.flatMap_cons, List.flatMap_nil,
          List.cons_append, List.nil_append, List.append_nil] at hstarted
        simpa only [post_rdmaCtx, Traced.post_bind, Traced.post_emit, Traced.post_pure,
          List.cons_append, List.nil_append, List.append_nil] using hstarted
  | listen ipAddr port ctx o =>
    rw [Start.code, Traced.post_bind]
    refine (post_fsRdmaCreateCtx config ctx none).mono ?_ fun e s t h => Or.inl h
    rintro ret s t hran
    -- the two ways to be in the middle of a start
    have hnull : ∀ t', t' <+: Start.lookupActs (.listen ipAddr port ctx o) → s = none →
        Started config (.listen ipAddr port ctx o) s (t ++ t') := by
      rintro t' ht' rfl
      exact Started.null hran ht'
    have hsome : ∀ c, s = some c → Started config (.listen ipAddr port ctx o) s
        (t ++ (Start.lookupActs (.listen ipAddr port ctx o) ++
          Start.useActs config (.listen ipAddr port ctx o) c.cmId)) := by
      rintro c rfl
      exact Started.context hran
    simp only [Start.lookupActs, Start.useActs, Start.lookup, Start.found] at hnull hsome
    rw [Traced.post_bind, fsRdmaListen, Traced.post_bind, Traced.post_emit]
    by_cases hret : o.getaddrinfo.ret < 0
    · simp only [if_pos hret, Option.toList_none, List.map_nil, List.flatMap_nil,
        List.append_nil] at hnull hsome
      simp only [if_pos hret, Traced.post_pure, List.append_nil]
      rcases s with _ | c
      · exact hnull _ (List.prefix_refl _) rfl
      · exact hsome c rfl
    simp only [if_neg hret] at hnull hsome ⊢
    rcases hres : o.getaddrinfo.res with _ | addr
    · simp only [hres, Option.toList_none, List.map_nil, List.flatMap_nil,
        List.append_nil] at hnull hsome
      simp only [Traced.post_stop, List.append_nil]
      rcases s with _ | c
      · exact Or.inr (hnull _ (List.prefix_refl _) rfl)
      · exact Or.inr (hsome c rfl)
    simp only [hres, Option.toList_some, List.map_cons, List.map_nil, List.flatMap_cons,
      List.flatMap_nil, Start.uses, List.append_nil, List.cons_append, List.nil_append]
      at hnull hsome
    simp only [Traced.post_bind, Traced.post_emit]
    rcases s with _ | c
    · exact Or.inr (hnull _ (List.prefix_refl _) rfl)
    have hused := hsome c rfl
    simp only [post_rdmaCtx]
    by_cases hbind : o.rdmaBindAddr = 0
    · simp only [hbind, ne_eq, not_true_eq_false, if_false] at hused
      simp only [hbind, ne_eq, not_true_eq_false, if_false, post_rdmaCtx, Traced.post_bind,
        Traced.post_emit, List.cons_append, List.nil_append]
      split
      · simpa only [Traced.post_pure, List.append_nil] using hused
      · simpa only [Traced.post_pure, List.append_nil] using hused
    · simp only [hbind, ne_eq, not_false_eq_true, if_true] at hused
      simpa only [hbind, ne_eq, not_false_eq_true, if_true, Traced.post_pure, List.cons_append,
        List.nil_append, List.append_nil] using hused

/-! ### Only the calls of a start -/

theorem CtxRan.all_isStarting {o : CtxOutcomes} {s : Option RdmaContext} {t : List Act}
    (h : CtxRan config o s t) : t.all Act.isStarting = true := by
  cases h with
  | unallocated h => rfl
  | unmade h hfail ht => exact all_prefix ht rfl
  | made h hmade => rfl

theorem Start.all_lookupActs (start : Start) : start.lookupActs.all Act.isStarting = true := by
  rw [Start.lookupActs, List.all_cons]
  rcases start.found with _ | addr <;> cases start <;> rfl

theorem Start.all_useActs (start : Start) (id : Ptr) :
    (start.useActs config id).all Act.isStarting = true := by
  rw [Start.useActs]
  rcases start.found with _ | addr
  · rfl
  rw [Option.toList_some, List.flatMap_cons, List.flatMap_nil, List.append_nil]
  cases start with
  | connect ipAddr port o => rfl
  | listen ipAddr port ctx o =>
    rw [Start.uses]
    split <;> rfl

/-- **A start makes the calls of a start only.** -/
theorem Started.all_isStarting {start : Start} {s : Option RdmaContext} {t : List Act}
    (h : Started config start s t) : t.all Act.isStarting = true := by
  cases h with
  | null h ht =>
    rw [List.all_append, h.all_isStarting, all_prefix ht start.all_lookupActs, Bool.and_self]
  | context h =>
    rw [List.all_append, List.all_append, h.all_isStarting, start.all_lookupActs,
      start.all_useActs, Bool.and_self, Bool.and_self]

theorem StartExits.all_isStarting {start : Start} {t : List Act} (h : StartExits config start t) :
    t.all Act.isStarting = true := by
  obtain ⟨t', ht', rfl⟩ := h
  have harrays : (arraysActs config start.ctx).all Act.isStarting = true := rfl
  rw [List.all_append, List.all_append, all_prefix ht' harrays]
  rfl

end Transport
