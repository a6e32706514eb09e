import RdmaCpp.Transport.Alike

/-!
# Garbage in fresh memory

Whether the code behaves the same whatever its freshly allocated memory happens to
contain. Of the block of the context it assigns the event channel, the connection id
and the arrays at once; the other fields are read as they come: the completion channel
and the shared receive queue when none is asked for, the protection domain and the
completion queues by a cleanup or a teardown that comes before they were made, the
connected flag always, and the connection id too where `fs_rdma_create_ctx` has
failed and nobody looked.

So two runs are taken side by side that differ only in these contents
(`Transport.Start.refill`). They make the same calls and end with the same flag when
the blocks agree on the flag and every pair of steps finds the same in what it reads
before it writes it (`Transport.indifferent_of_readsAlike`).
-/

namespace Transport

/-! ### Runs that differ in garbage only -/

/-- The same outcomes of the allocations, with other contents of the blocks. -/
def CtxOutcomes.refill (block : RdmaContext) (contents : ArrayField → ℕ → Ptr)
    (o : CtxOutcomes) : CtxOutcomes :=
  { o with
    malloc := o.malloc.map fun _ => block
    allocate := fun field => (o.allocate field).map fun b => (b.1, contents field) }

/-- **The same start over other garbage.** -/
def Start.refill (block : RdmaContext) (contents : ArrayField → ℕ → Ptr) : Start → Start
  | .connect ipAddr port o => .connect ipAddr port { o with ctx := o.ctx.refill block contents }
  | .listen ipAddr port ctx o => .listen ipAddr port (ctx.refill block contents) o

/-- **The behaviour does not depend on the garbage**: the two runs make the same calls with
the same arguments, end the same way and with the same flag, and what is not used is
`NULL` in their calls. -/
def Indifferent (config : RdmaParam) (r r' : Ran (Option RdmaContext) Act Fault Unit) : Prop :=
  r.trace = r'.trace ∧ r.out = r'.out ∧ SameFlags r.state r'.state ∧
    ∀ a ∈ r.trace, a.nullArgs config

/-- The condition on a pair of starts: the blocks agree on the flag, and on the id when it
is used without having been made. -/
def StartsAlike (start : Start) (block : RdmaContext) : Prop :=
  ∀ c, start.ctx.malloc = some c → c.connected = block.connected ∧
    (start.found ≠ none → start.ctx.rdmaCreateEventChannel = none ∨ start.ctx.rdmaCreateId = none →
      c.cmId = block.cmId)

/-- **The condition on a pair of runs**: what every pair of steps reads is the same. -/
def RunsReadAlike (config : RdmaParam) (channel : Ptr) (start start' : Start)
    (ticks : List Tick) : Prop :=
  ∀ s s' t t', start.code config none = ⟨.ok (), s, t⟩ →
    start'.code config none = ⟨.ok (), s', t'⟩ →
    Traced.MeetsBoth (ReadsAlike config) (turn config channel) (turn config channel) none s s' ticks

variable {config : RdmaParam} {c c' : RdmaContext}

/-! ### Starting -/

/-- Two contexts after a start: with the same flag, and the same id if it will be used. -/
def StartedAlike (used : Prop) (c c' : RdmaContext) : Prop :=
  c.connected = c'.connected ∧ (used → c.cmId = c'.cmId)

theorem sameFlags_of_started {used : Prop} {s s' : Option RdmaContext}
    (hs : Option.Rel (StartedAlike used) s s') : SameFlags s s' := by
  cases hs with
  | none => rfl
  | some h => exact sameFlags_some h.1

/-- An array is allocated alike. -/
theorem goAlike_allocate_bind (block : RdmaContext) (contents : ArrayField → ℕ → Ptr)
    {o : CtxOutcomes} {field : ArrayField} {α : Type} {f g : Unit → TransportM α}
    {Q : α → α → Option RdmaContext → Option RdmaContext → Prop}
    (hflag : c.connected = c'.connected)
    (hrest : ∀ a a',
      GoAlike config (f ()) (g ()) (some (field.put a c)) (some (field.put a' c')) Q) :
    GoAlike config (allocate config o field >>= f)
      (allocate config (o.refill block contents) field >>= g) (some c) (some c') Q := by
  refine Traced.Alike.bind (Traced.Alike.emit_bind trivial ?_ ?_)
  · simp only [CtxOutcomes.refill, Option.map_map]
    rfl
  simp only [CtxOutcomes.refill]
  rcases o.allocate field with _ | ⟨addr, old⟩
  · exact Traced.Alike.emit_bind trivial rfl (Traced.Alike.stop (sameFlags_some hflag))
  · refine Traced.alike_of_ok (run_assign _ c) (run_assign _ c') ?_ rfl (hrest _ _)
    exact fun _ hx => absurd hx List.not_mem_nil

/-- **`fs_rdma_create_ctx` goes alike** over two blocks. -/
theorem goAlike_fsRdmaCreateCtx {used : Prop} {o : CtxOutcomes} {block : RdmaContext}
    (contents : ArrayField → ℕ → Ptr)
    (h : ∀ c, o.malloc = some c → c.connected = block.connected ∧
      (used → o.rdmaCreateEventChannel = none ∨ o.rdmaCreateId = none → c.cmId = block.cmId))
    (s s' : Option RdmaContext) :
    GoAlike config (fsRdmaCreateCtx config o) (fsRdmaCreateCtx config (o.refill block contents))
      s s' (fun _ _ s s' => Option.Rel (StartedAlike used) s s') := by
  refine Traced.Alike.emit_bind trivial (by rw [CtxOutcomes.refill, Option.isSome_map]) ?_
  refine Traced.Alike.bind (Traced.Alike.modify ?_)
  refine Traced.Alike.ite (by rw [CtxOutcomes.refill, Option.isNone_map]) (fun hnull => ?_)
    fun hsome => ?_
  · have hnone : o.malloc = none := Option.isNone_iff_eq_none.mp hnull
    have hnone' : (o.refill block contents).malloc = none := by
      rw [CtxOutcomes.refill, hnone, Option.map_none]
    rw [hnone', hnone]
    exact Traced.Alike.pure Option.Rel.none
  obtain ⟨c, hc⟩ : ∃ c, o.malloc = some c := by
    rcases hm : o.malloc with _ | c
    · exact absurd (by rw [hm]; rfl) hsome
    · exact ⟨c, rfl⟩
  obtain ⟨hflag, hid⟩ := h c hc
  have hc' : (o.refill block contents).malloc = some block := by
    rw [CtxOutcomes.refill, hc, Option.map_some]
  rw [hc', hc]
  refine Traced.Alike.emit_bind trivial rfl (goAlike_assign_bind (goAlike_rdmaCtx_bind ?_))
  refine Traced.Alike.ite Iff.rfl (fun hch => ?_) fun _ => ?_
  · have hnone : o.rdmaCreateEventChannel = none := Option.isNone_iff_eq_none.mp hch
    exact Traced.Alike.pure (Option.Rel.some ⟨hflag, fun hused => hid hused (Or.inl hnone)⟩)
  refine goAlike_rdmaCtx_bind (Traced.Alike.emit_bind trivial rfl ?_)
  refine Traced.Alike.ite Iff.rfl (fun hno => ?_) fun _ => ?_
  · have hnone : o.rdmaCreateId = none := Option.isNone_iff_eq_none.mp hno
    exact Traced.Alike.pure (Option.Rel.some ⟨hflag, fun hused => hid hused (Or.inr hnone)⟩)
  refine goAlike_assign_bind ?_
  refine goAlike_allocate_bind block contents hflag fun a₁ a₁' => ?_
  refine goAlike_allocate_bind block contents hflag fun a₂ a₂' => ?_
  refine goAlike_allocate_bind block contents hflag fun a₃ a₃' => ?_
  exact Traced.Alike.pure (Option.Rel.some ⟨hflag, fun _ => rfl⟩)

/-- The uses of the connection id go alike, and stop alike when there is no context. -/
theorem goAlike_use {used : Prop} (hused : used) {s s' : Option RdmaContext} {α : Type}
    {f g : RdmaContext → TransportM α} (hs : Option.Rel (StartedAlike used) s s')
    (hrest : ∀ c c', c.cmId = c'.cmId → c.connected = c'.connected →
      GoAlike config (f c) (g c') (some c) (some c') (fun _ _ s s' => SameFlags s s')) :
    GoAlike config (rdmaCtx >>= f) (rdmaCtx >>= g) s s' (fun _ _ s s' => SameFlags s s') := by
  cases hs with
  | none => exact Traced.alike_of_error rfl rfl (fun _ hx => absurd hx List.not_mem_nil) rfl rfl
  | @some c c' hcc => exact goAlike_rdmaCtx_bind (hrest c c' (hcc.2 hused) hcc.1)

/-- **The start goes alike** over two blocks. -/
theorem goAlike_start {start : Start} {block : RdmaContext} (contents : ArrayField → ℕ → Ptr)
    (h : StartsAlike start block) :
    GoAlike config (start.code config) ((start.refill block contents).code config) none none
      (fun _ _ s s' => SameFlags s s') := by
  have hctx := @goAlike_fsRdmaCreateCtx config _ _ block contents h none none
  cases start with
  | connect ipAddr port o =>
    refine Traced.Alike.bind (Traced.Alike.bind (hctx.mono ?_ fun _ _ hE => hE))
    intro _ _ s s' hs
    refine Traced.Alike.emit_bind trivial rfl ?_
    rcases hres : o.getaddrinfo.res with _ | addr
    · exact Traced.Alike.stop (sameFlags_of_started hs)
    have hused : (Start.connect ipAddr port o).found ≠ none := by
      rw [Start.found, hres]
      exact Option.some_ne_none addr
    refine Traced.Alike.emit_bind trivial rfl
      ((goAlike_use hused hs fun c c' hid hflag => ?_).mono
        (fun _ _ _ _ hs => Traced.Alike.pure hs) fun _ _ hE => hE)
    exact Traced.Alike.emit_bind trivial (by rw [hid]) (Traced.Alike.pure (sameFlags_some hflag))
  | listen ipAddr port ctx o =>
    refine Traced.Alike.bind (hctx.mono ?_ fun _ _ hE => hE)
    intro _ _ s s' hs
    refine Traced.Alike.bind (Traced.Alike.emit_bind trivial rfl ?_)
    refine Traced.Alike.ite Iff.rfl (fun _ => ?_) fun hret => ?_
    · exact Traced.Alike.pure (Traced.Alike.pure (sameFlags_of_started hs))
    rcases hres : o.getaddrinfo.res with _ | addr
    · exact Traced.Alike.stop (sameFlags_of_started hs)
    have hused : (Start.listen ipAddr port ctx o).found ≠ none := by
      rw [Start.found, if_neg hret, hres]
      exact Option.some_ne_none addr
    refine Traced.Alike.emit_bind trivial rfl
      ((goAlike_use hused hs fun c c' hid hflag => ?_).mono
        (fun _ _ _ _ hs => Traced.Alike.pure hs) fun _ _ hE => hE)
    have hdone : ∀ v : ℤ, GoAlike config (pure v : TransportM ℤ) (pure v : TransportM ℤ) (some c)
        (some c') (fun _ _ s s' => SameFlags s s') :=
      fun v => Traced.Alike.pure (sameFlags_some hflag)
    refine Traced.Alike.emit_bind trivial (by rw [hid]) ?_
    refine Traced.Alike.ite Iff.rfl (fun _ => hdone _) fun _ => goAlike_rdmaCtx_bind ?_
    refine Traced.Alike.emit_bind trivial (by rw [hid]) ?_
    exact Traced.Alike.ite Iff.rfl (fun _ => hdone _) fun _ => hdone _

/-! ### Running -/

/-- Without a context no turn makes one, or uses what needs one. -/
theorem post_turn_null {channel : Ptr} {b : Option CmEvent} {tick : Tick} :
    Traced.Post (turn config channel b tick) none
      (fun _ s t => (∀ a ∈ t, a.nullArgs config) ∧ s = none)
      fun _ s t => (∀ a ∈ t, a.nullArgs config) ∧ s = none := by
  obtain ⟨got, o⟩ := tick
  rcases got with _ | event
  · have hidle : ∀ a ∈ idleActs channel b, a.nullArgs config := by
      refine nullArgs_of_isBare ?_
      cases b <;> rfl
    refine post_turn_idle.mono ?_ ?_
    · rintro r s t ⟨-, rfl, rfl⟩
      exact ⟨hidle, rfl⟩
    · rintro e s t ⟨rfl, rfl⟩
      exact ⟨hidle, rfl⟩
  · refine post_turn_obtained_null.mono ?_ ?_
    · rintro r s t ⟨r', t', rfl, rfl, rfl, hran⟩
      refine ⟨nullArgs_of_isBare ?_, rfl⟩
      cases hran <;> rfl
    · rintro e s t ⟨t', rfl, rfl, hran⟩
      refine ⟨nullArgs_of_isBare ?_, rfl⟩
      cases hran <;> rfl

/-- **A turn goes alike** where what it reads is the same. -/
theorem goAlike_turn {channel : Ptr} {b : Option CmEvent} {s s' : Option RdmaContext} {tick : Tick}
    (h : ReadsAlike config s s' tick) (hflags : SameFlags s s') :
    GoAlike config (turn config channel b tick) (turn config channel b tick) s s'
      (fun r r' s s' => r = r' ∧ SameFlags s s') := by
  rcases s with _ | c
  · obtain rfl : s' = none := by
      rcases s' with _ | c'
      · rfl
      · cases hflags
    refine Traced.Alike.self (post_turn_null.mono ?_ ?_)
    · exact fun r s t ht => ⟨ht.1, rfl, rfl⟩
    · exact fun e s t ht => ⟨ht.1, rfl⟩
  rcases s' with _ | c'
  · cases hflags
  have hflag : c.connected = c'.connected := Option.some.inj hflags
  refine Traced.Alike.emit_bind trivial rfl ?_
  rcases hgot : tick.got with _ | event
  · -- what the pointer of the turn before leads to is copied, if it leads anywhere
    rcases b with _ | b
    · exact Traced.Alike.stop hflags
    · exact Traced.Alike.emit_bind trivial rfl (Traced.Alike.pure ⟨rfl, hflags⟩)
  · refine Traced.Alike.emit_bind trivial rfl (Traced.Alike.bind ?_)
    refine (goAlike_dispatch (h c c' event rfl rfl hgot) hflag).mono ?_ fun _ _ hE => hE
    rintro r r' s s' ⟨rfl, hs⟩
    exact Traced.Alike.pure ⟨rfl, hs⟩

/-- **A run goes alike over other garbage** when its start does and what every pair of
steps reads is the same. -/
theorem goAlike_run {channel : Ptr} {start : Start} {block : RdmaContext}
    {contents : ArrayField → ℕ → Ptr} {ticks : List Tick} (hstart : StartsAlike start block)
    (hsteps : RunsReadAlike config channel start (start.refill block contents) ticks) :
    GoAlike config (run config channel start ticks)
      (run config channel (start.refill block contents) ticks) none none
      (fun _ _ s s' => SameFlags s s') := by
  refine Traced.Alike.bind ?_
  rcases (goAlike_start contents hstart).cases with
    ⟨a, b, s, s', t, hm, hm', hnull, hs⟩ | ⟨e, s, s', t, hm, hm', hnull, hs⟩
  · refine Traced.alike_of_ok hm hm' hnull rfl ?_
    refine Traced.Alike.loopOver SameFlags (fun b s u x hx hJ => ?_) (hsteps s s' t t hm hm') hs
    exact goAlike_turn hx hJ
  · exact Traced.alike_of_error hm hm' hnull rfl hs

/-- **When the behaviour does not depend on the garbage**: two runs over different initial
contents make the same calls and end with the same flag when their starts are alike and
every pair of steps finds the same in what it reads before writing it. -/
theorem indifferent_of_readsAlike (config : RdmaParam) (channel : Ptr) (start : Start)
    (block : RdmaContext) (contents : ArrayField → ℕ → Ptr) (ticks : List Tick)
    (hstart : StartsAlike start block)
    (hsteps : RunsReadAlike config channel start (start.refill block contents) ticks) :
    Indifferent config (run config channel start ticks none)
      (run config channel (start.refill block contents) ticks none) := by
  rcases (goAlike_run hstart hsteps).cases with
    ⟨a, b, s, s', t, hm, hm', hnull, hs⟩ | ⟨e, s, s', t, hm, hm', hnull, hs⟩
  · rw [hm, hm']
    exact ⟨rfl, rfl, hs, hnull⟩
  · rw [hm, hm']
    exact ⟨rfl, rfl, hs, hnull⟩

/-! ### The sample client -/

namespace Sample

/-- A block full of garbage, where garbage does no harm. -/
def dirtyBlock : RdmaContext :=
  ⟨some 1, some 2, some 3, none, some 4, some ⟨5, []⟩, some 6, some 7, some ⟨8, []⟩, some ⟨9, []⟩,
    none, 0⟩

/-- The turns of the client that connects and is disconnected. -/
def ticks : List Tick :=
  [tick .addrResolved 11, tick .routeResolved 11, tick .established 11, tick .disconnected 11]

end Sample

/-- The sample client over a dirty block, connected and then disconnected: it does the
same as over an empty one. -/
theorem indifferent_connected_client :
    Indifferent Sample.config
      (run Sample.config (some 10) (Sample.connect Sample.block) Sample.ticks none)
      (run Sample.config (some 10)
        ((Sample.connect Sample.block).refill Sample.dirtyBlock fun _ i => some i)
        Sample.ticks none) := by
  refine indifferent_of_readsAlike _ _ _ _ _ _ ?_ ?_
  · rintro c hc
    cases hc
    refine ⟨rfl, fun _ hfail => ?_⟩
    rcases hfail with hfail | hfail <;> cases hfail
  rintro s s' t t' hm hm'
  cases hm
  cases hm'
  refine ⟨?_, ?_⟩
  · -- the address is resolved
    rintro c c' event hc hc' hevent
    cases hevent
    exact fun hret => absurd rfl hret
  rintro b s s' t t' hm hm'
  cases hm
  cases hm'
  refine ⟨?_, ?_⟩
  · rintro c c' event hc hc' hevent
    cases hc
    cases hc'
    cases hevent
    exact ⟨rfl, ⟨rfl, rfl⟩, ⟨rfl, rfl⟩, ⟨rfl, rfl⟩, fun _ _ => ⟨rfl, rfl⟩, fun _ _ => ⟨rfl, rfl⟩,
      fun hno => absurd (by decide) hno, fun hno => absurd (by decide) hno,
      fun hno => absurd (by decide) hno⟩
  rintro b s s' t t' hm hm'
  cases hm
  cases hm'
  refine ⟨?_, ?_⟩
  · rintro c c' event hc hc' hevent
    cases hc
    cases hc'
    cases hevent
    exact rfl
  rintro b s s' t t' hm hm'
  cases hm
  cases hm'
  refine ⟨?_, fun _ _ _ _ _ _ _ => trivial⟩
  rintro c c' event hc hc' hevent
  cases hc
  cases hc'
  cases hevent
  exact ⟨rfl, ⟨rfl, rfl⟩, ⟨rfl, rfl⟩, ⟨rfl, rfl⟩, rfl, rfl, rfl⟩

/-- A block with a pointer to a shared receive queue that was never made: the queue pairs
are attached to it, although none is used. -/
theorem not_indifferent_of_dirty_srq :
    ¬Indifferent Sample.config (Sample.clientRun [.addrResolved, .routeResolved])
      (run Sample.config (some 10)
        ((Sample.connect Sample.block).refill { Sample.block with srq := some 9 } fun _ _ => none)
        ([.addrResolved, .routeResolved].map (Sample.tick · 11)) none) := by
  rintro ⟨htrace, -⟩
  exact absurd htrace (by decide)

end Transport
