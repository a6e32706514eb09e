import RdmaCpp.Transport.Books

/-!
# Only live handles are used

Every call that takes a handle of the context should be made on an object that is
there: acquired earlier in the run, not released since, of the right kind. The
acquiring code keeps to that, each piece under what the pieces before it have
acquired (`Transport.BodyRan.accepts`), with one gap: after a failed second
`ibv_create_cq` it goes on to create queue pairs on a receive queue that is not
there.

The releasing code does not. Its fields `qp`, `mr` and `buf` hold arrays, allocated
with the context and long before any object is in them, and `ibv_dereg_mr` is
given the array itself; besides, the other fields are tested without ever having
been set. So a run uses live handles only for as long as it releases nothing
(`Transport.usesLive_of_runMeets`).
-/

namespace Transport

/-- **Only live handles are used**, at every moment of the trace. -/
def UsesLive (t : List Act) : Prop :=
  ∀ h a r, t = h ++ a :: r → HandlesLive (books.live [] h) a

theorem usesLive_iff_accepts {t : List Act} : UsesLive t ↔ books.monitor.Accepts [] t :=
  (books.monitor.accepts_iff [] t).symm

/-! ### Making calls -/

/-- What is held stays held along making calls. -/
theorem Held.make {kind : ℕ → Resource} {u : List Resource} {t : List Act} {p : Ptr}
    (h : Held kind u p) (ht : t.all Act.isMaking = true) : Held kind (books.live u t) p :=
  h.keep (all_isKeeping_of_isMaking ht)

theorem Held.append {kind : ℕ → Resource} {u : List Resource} {t t' : List Act} {p : Ptr}
    (h : Held kind (books.live u t) p) (ht' : t'.all Act.isMaking = true) :
    Held kind (books.live u (t ++ t')) p := by
  rw [books.live_append]
  exact h.make ht'

/-- What is made along the way is held at the end. -/
theorem held_of_makes {kind : ℕ → Resource} {u : List Resource} {t : List Act} {a : Act}
    {p : Ptr} (ht : t.all Act.isMaking = true) (ha : a ∈ t)
    (hacq : acquires a = p.toList.map kind) (hp : p ≠ none) : Held kind (books.live u t) p :=
  held_of_acquires (all_isKeeping_of_isMaking ht) ha hacq hp

/-- A stretch of making calls, each on handles live at its start. -/
theorem accepts_of_isMaking {u : List Resource} {t : List Act} (ht : t.all Act.isMaking = true)
    (hok : ∀ a ∈ t, HandlesLive u a) : books.monitor.Accepts u t :=
  accepts_of_isKeeping (all_isKeeping_of_isMaking ht) hok

variable {config : RdmaParam} {o : CreateOutcomes} {c : RdmaContext} {u : List Resource}

/-! ### The pieces that run once -/

theorem accepts_contextActs : books.monitor.Accepts u (contextActs config o) := by
  rw [contextActs, books.monitor.accepts_append]
  refine ⟨⟨trivial, trivial, trivial⟩, ?_⟩
  rcases hopen : o.ibvOpenDevice with _ | d
  · rw [if_neg (by simp), if_neg (by simp [AsksPd, hopen])]
    trivial
  have hheld : Held .context (books.live u [.ibvGetDeviceList o.ibvGetDeviceList.isSome,
      .ibvOpenDevice (firstDev o) (some d)]) (some d) :=
    held_of_makes (rfl) (List.mem_cons_of_mem _ List.mem_cons_self) rfl
      (Option.some_ne_none d)
  refine accepts_of_isMaking ?_ fun a ha => ?_
  · split_ifs <;> rfl
  · rcases List.mem_append.mp ha with ha | ha
    · rw [if_pos (Option.some_ne_none d)] at ha
      rw [List.mem_singleton.mp ha]
      exact hheld
    · split at ha
      · rw [List.mem_singleton.mp ha]
        exact hheld
      · exact absurd ha List.not_mem_nil

/-- The device context is held when it was opened. -/
theorem held_context (h : o.ibvOpenDevice ≠ none) :
    Held .context (books.live u (contextActs config o)) o.ibvOpenDevice :=
  held_of_makes all_contextActs
    (a := .ibvOpenDevice (firstDev o) o.ibvOpenDevice)
    (List.mem_append_left _ (List.mem_cons_of_mem _ List.mem_cons_self)) rfl h

/-- The protection domain is held when it was allocated. -/
theorem held_pd (h : ContextOk o) :
    Held .pd (books.live u (contextActs config o)) o.ibvAllocPd := by
  refine held_of_makes (a := .ibvAllocPd o.ibvOpenDevice o.ibvAllocPd)
    all_contextActs ?_ rfl h.2.2
  have hasks : AsksPd o := ⟨h.1, h.2.1⟩
  rw [contextActs, if_pos hasks]
  exact List.mem_append_right _ (List.mem_append_right _ List.mem_cons_self)

theorem accepts_deviceActs (h : ContextOk o) :
    books.monitor.Accepts u (deviceActs config o c) := by
  rw [deviceActs, books.monitor.accepts_append]
  refine ⟨accepts_contextActs, accepts_of_isMaking all_channelActs fun a ha => ?_⟩
  rw [channelActs] at ha
  split at ha
  · rw [List.mem_singleton.mp ha]
    exact held_context h.1
  · exact absurd ha List.not_mem_nil

theorem accepts_queueActs (h : ContextOk o) :
    books.monitor.Accepts u (queueActs config o c) := by
  rw [queueActs, books.monitor.accepts_append]
  refine ⟨accepts_deviceActs h, accepts_of_isMaking all_cqsActs fun a ha => ?_⟩
  have hheld : Held .context (books.live u (deviceActs config o c)) o.ibvOpenDevice :=
    (held_context h.1).append all_channelActs
  rw [cqsActs] at ha
  rcases List.mem_cons.mp ha with rfl | ha
  · exact hheld
  rcases List.mem_append.mp ha with ha | ha
  · split at ha
    · rw [List.mem_singleton.mp ha]
      exact hheld
    · exact absurd ha List.not_mem_nil
  · split at ha
    · rw [List.mem_singleton.mp ha]
      exact hheld
    · exact absurd ha List.not_mem_nil

theorem accepts_sharedActs (h : ContextOk o) :
    books.monitor.Accepts u (sharedActs config o c) := by
  rw [sharedActs, books.monitor.accepts_append]
  refine ⟨accepts_queueActs h, accepts_of_isMaking all_srqActs fun a ha => ?_⟩
  have hheld : Held .pd (books.live u (queueActs config o c)) o.ibvAllocPd :=
    ((held_pd h).append all_channelActs).append all_cqsActs
  rw [srqActs] at ha
  split at ha
  · rw [List.mem_singleton.mp ha]
    change Held .pd _ (if AsksPd o then o.ibvAllocPd else c.pd)
    rwa [if_pos (show AsksPd o from ⟨h.1, h.2.1⟩)]
  · exact absurd ha List.not_mem_nil

/-! ### What the loops find -/

/-- **What is live when the loops begin**: the protection domain and the completion
queues that could be made. -/
theorem held_shared (h : SharedOk config o) :
    Held .pd (books.live u (sharedActs config o c)) (c.withShared config o).pd ∧
      Held .cq (books.live u (sharedActs config o c)) (c.withShared config o).sendCq ∧
      (o.createRecvCq ≠ none →
        Held .cq (books.live u (sharedActs config o c)) (c.withShared config o).recvCq) := by
  obtain ⟨hpd, hsend, hrecv⟩ := withShared_fields (c := c) h
  obtain ⟨hctx, -, hcqs, -⟩ := h
  rw [hpd, hsend, hrecv]
  refine ⟨(((held_pd hctx).append all_channelActs).append all_cqsActs).append all_srqActs,
    ?_, fun hne => ?_⟩
  · refine Held.append ?_ all_srqActs
    refine held_of_makes (a := .ibvCreateCq ((c.withContext o).withChannel config o).context
      (cqeCount config o.maxCqe) ((c.withContext o).withChannel config o).channel o.createSendCq)
      all_queueActs (List.mem_append_right _ ?_) rfl hcqs.2
    rw [cqsActs, if_pos hcqs.1]
    exact List.mem_cons_of_mem _ (List.mem_append_left _ List.mem_cons_self)
  · refine Held.append ?_ all_srqActs
    refine held_of_makes (a := .ibvCreateCq ((c.withContext o).withChannel config o).context
      (cqeCount config o.maxCqe) ((c.withContext o).withChannel config o).channel o.createRecvCq)
      all_queueActs (List.mem_append_right _ ?_) rfl hne
    rw [cqsActs, if_pos hcqs]
    exact List.mem_cons_of_mem _ (List.mem_append_right _ List.mem_cons_self)

/-! ### The loops -/

/-- The loop over the queue pairs, on a live id, protection domain and completion
queues. -/
theorem accepts_qpsActs {n : ℕ} (hid : Held .cmId u c.cmId) (hpd : Held .pd u c.pd)
    (hsend : Held .cq u c.sendCq)
    (hrecv : qpTypeOf config.connectionType ≠ none → 0 < n → Held .cq u c.recvCq) :
    books.monitor.Accepts u (qpsActs config o c n) := by
  refine accepts_of_isMaking (all_qpsActs n) fun a ha => ?_
  rw [qpsActs] at ha
  split at ha
  · exact absurd ha List.not_mem_nil
  · rename_i qpType htype
    obtain ⟨i, hi, rfl⟩ := List.mem_map.mp ha
    have hpos : 0 < n := Nat.zero_lt_of_lt (List.mem_range.mp hi)
    exact ⟨hid, hpd, hsend, hrecv (by rw [htype]; exact Option.some_ne_none qpType) hpos⟩

/-- One turn of the loop over the buffers, whose buffer was allocated. -/
theorem accepts_bufActs {i : ℕ} (hpd : Held .pd u c.pd) (hbuf : o.memalign i ≠ none) :
    books.monitor.Accepts u (bufActs o c i) := by
  have hmaking : [Act.memalign bufSize (o.memalign i), .memset (o.memalign i) bufSize].all
      Act.isMaking = true := rfl
  refine (books.monitor.accepts_append u
    [.memalign bufSize (o.memalign i), .memset (o.memalign i) bufSize]
    [.ibvRegMr c.pd (o.memalign i) bufSize mrFlags (o.ibvRegMr i)]).mpr
    ⟨⟨trivial, trivial, trivial⟩, ⟨?_, ?_⟩, trivial⟩
  · exact hpd.make hmaking
  · exact held_of_makes hmaking List.mem_cons_self rfl hbuf

/-- The loop over the buffers. The induction is on the number of turns; the
protection domain stays live because nothing is released. -/
theorem accepts_bufsActs {n : ℕ} (hpd : Held .pd u c.pd) (hbuf : ∀ i < n, o.memalign i ≠ none) :
    books.monitor.Accepts u (bufsActs o c n) := by
  induction n with
  | zero => trivial
  | succ n ih =>
    rw [bufsActs_succ, books.monitor.accepts_append]
    refine ⟨ih fun i hi => hbuf i (Nat.lt_succ_of_lt hi), accepts_bufActs ?_ (hbuf n (by omega))⟩
    exact hpd.make (all_bufsActs n)

/-- A turn cut short. A buffer that was not allocated is not registered. -/
theorem accepts_take_bufActs {i k : ℕ} (hpd : Held .pd u c.pd)
    (hk : o.memalign i = none → k ≤ 2) : books.monitor.Accepts u ((bufActs o c i).take k) := by
  by_cases hbuf : o.memalign i = none
  · have hle := hk hbuf
    obtain rfl | rfl | rfl : k = 0 ∨ k = 1 ∨ k = 2 := by omega
    · trivial
    · exact ⟨trivial, trivial⟩
    · exact ⟨trivial, trivial, trivial⟩
  · have hall := accepts_bufActs hpd hbuf
    rw [← List.take_append_drop k (bufActs o c i), books.monitor.accepts_append] at hall
    exact hall.1

/-! ### Creating the resources -/

/-- The receive completion queue is there when queue pairs are made on it. -/
def RecvCqOk (config : RdmaParam) (o : CreateOutcomes) : Prop :=
  SharedOk config o → 0 < config.turns → qpTypeOf config.connectionType ≠ none →
    o.createRecvCq ≠ none

/-- What the loops need to find live. -/
theorem held_loops (hshared : SharedOk config o) (hid : Held .cmId u c.cmId)
    (hcq : RecvCqOk config o) {n : ℕ} (hn : n ≤ config.turns) :
    books.monitor.Accepts (books.live u (sharedActs config o c))
      (qpsActs config o (c.withShared config o) n) := by
  obtain ⟨hpd, hsend, hrecv⟩ := held_shared (c := c) (u := u) hshared
  refine accepts_qpsActs ?_ hpd hsend fun hknown hpos => hrecv (hcq hshared (by omega) hknown)
  exact hid.make all_sharedActs

/-- The protection domain stays live while queue pairs are made. -/
theorem held_pd_qps (hshared : SharedOk config o) (n : ℕ) :
    Held .pd (books.live (books.live u (sharedActs config o c))
      (qpsActs config o (c.withShared config o) n)) (c.withShared config o).pd :=
  (held_shared hshared).1.make (all_qpsActs n)

/-- **The acquisitions use live handles only**, on a live connection id, unless queue
pairs are made on a receive completion queue that is not there. -/
theorem BodyRan.accepts {exit : Exit} {c' : RdmaContext} {t : List Act}
    (h : BodyRan config o c exit c' t) (hid : Held .cmId u c.cmId) (hcq : RecvCqOk config o) :
    books.monitor.Accepts u t := by
  cases h with
  | noContext => exact accepts_contextActs
  | noChannel hctx => exact accepts_deviceActs hctx
  | noCqs hctx => exact accepts_queueActs hctx
  | noSrq hctx => exact accepts_sharedActs hctx
  | qps hshared hqps =>
    obtain ⟨n, hn, rfl⟩ := hqps.acts_eq
    rw [books.monitor.accepts_append]
    exact ⟨accepts_sharedActs hshared.1, held_loops hshared hid hcq hn⟩
  | bufs hshared hqps hbufs | done hshared hqps hbufs =>
    obtain ⟨m, rfl, hm⟩ := hbufs.acts_eq
    cases hqps with
    | done hknown hto =>
      rw [books.monitor.accepts_append, books.monitor.accepts_append]
      exact ⟨accepts_sharedActs hshared.1, held_loops hshared hid hcq (Nat.le_refl _),
        accepts_bufsActs (held_pd_qps hshared _) hm⟩

/-- So do acquisitions that stop. -/
theorem BodyStuck.accepts {c' : RdmaContext} {t : List Act} (h : BodyStuck config o c c' t)
    (hid : Held .cmId u c.cmId) (hcq : RecvCqOk config o) : books.monitor.Accepts u t := by
  cases h with
  | qps hshared hqps =>
    obtain ⟨i, hi, -, -, -, -⟩ := hqps
    rw [books.monitor.accepts_append]
    exact ⟨accepts_sharedActs hshared.1, held_loops hshared hid hcq hi⟩
  | bufs hshared hqps hbufs =>
    obtain ⟨i, b, k, hi, hto, hstuck, hk⟩ := hbufs
    cases hqps with
    | done hknown hqpsTo =>
      have hpd := held_pd_qps (c := c) (u := u) hshared config.turns
      rw [books.monitor.accepts_append, books.monitor.accepts_append,
        books.monitor.accepts_append]
      refine ⟨accepts_sharedActs hshared.1, held_loops hshared hid hcq (Nat.le_refl _),
        accepts_bufsActs hpd fun j hj => (hto j hj).1.2.1, accepts_take_bufActs ?_ hk⟩
      exact hpd.make (all_bufsActs i)

/-! ### Steps and runs -/

/-- The event channel and the connection id are there. -/
def IdMade (o : CtxOutcomes) : Prop := o.rdmaCreateEventChannel ≠ none ∧ o.rdmaCreateId ≠ none

/-- The start uses no connection id that was never made: there is no context, or
there is an id, or there is no address to give it. -/
def StartsLive (start : Start) : Prop :=
  start.ctx.malloc = none ∨ IdMade start.ctx ∨ start.found = none

/-- **The condition on a step**: the context is not looked at, or its connection id was
made, nothing is released, and no queue pair is made on a receive completion queue
that is not there. -/
def StaysLive (config : RdmaParam) (start : Start) (_ : List Act) (s : Option RdmaContext)
    (tick : Tick) : Prop :=
  ∀ c event, s = some c → tick.got = some event →
    Untouching tick.outcomes event ∨
      IdMade start.ctx ∧ ¬TearsDown config tick.outcomes event c ∧
        (event.event = .routeResolved ∨ event.event = .connectRequest →
          RecvCqOk config tick.outcomes.create)

/-- The invariant of such a run: live handles so far, and the connection id is
live. -/
def IdLive (start : Start) (s : Option RdmaContext) (h : List Act) : Prop :=
  books.monitor.Accepts [] h ∧
    ∀ c, s = some c → IdMade start.ctx → Held .cmId (books.live [] h) c.cmId

variable {event : CmEvent} {c' : RdmaContext} {t : List Act}

/-- The connection check, on a live connection id. -/
theorem accepts_initActs (hid : Held .cmId u c.cmId) :
    books.monitor.Accepts u (initActs event c) := by
  refine accepts_of_isKeeping (initActs_keeping event c) fun a ha => ?_
  rw [initActs] at ha
  rcases List.mem_append.mp ha with ha | ha
  · simp only [List.mem_cons, List.not_mem_nil, or_false, or_self] at ha
    rw [ha]
    trivial
  · split at ha
    · exact absurd ha List.not_mem_nil
    · rw [List.mem_singleton.mp ha]
      exact hid

theorem accepts_untouched {o : HandlerOutcomes}
    (ht : t = [.readEvent event, .readEvent event] ∨ t = resolveActs o event) :
    books.monitor.Accepts u (t ++ [.rdmaAckCmEvent event]) := by
  rcases ht with rfl | rfl
  · exact ⟨trivial, trivial, trivial, trivial⟩
  · exact ⟨trivial, trivial, trivial, trivial, trivial⟩

/-- A creation that succeeds, and what comes before and after it. -/
theorem CreateRan.accepts {o : CreateOutcomes} (h : CreateRan config o c 0 c' t)
    (hid : Held .cmId u c.cmId) (hcq : RecvCqOk config o) :
    books.monitor.Accepts u t ∧ Held .cmId (books.live u t) c.cmId := by
  obtain ⟨exit, t', hbody, rfl⟩ := h.body
  have hmade : Held .cmId (books.live u t') c.cmId := hid.make hbody.frame.1
  refine ⟨⟨trivial, (books.monitor.accepts_append _ _ _).mpr ⟨hbody.accepts hid hcq, ?_⟩⟩, ?_⟩
  · exact ⟨trivial, trivial⟩
  · change Held .cmId (books.live u (t' ++ [.leave .createResources 0])) c.cmId
    rw [books.live_append]
    exact hmade

/-- **An event handled without a teardown** is handled on live handles, when the
connection id is live. -/
theorem Kept.accepts {o : HandlerOutcomes} (h : Kept config o event c c' t)
    (hid : Held .cmId u c.cmId)
    (hcq : event.event = .routeResolved ∨ event.event = .connectRequest →
      RecvCqOk config o.create) : books.monitor.Accepts u t := by
  cases h with
  | untouched h ht => exact accepts_untouched ht
  | connecting h hran =>
    obtain ⟨hacc, hheld⟩ := hran.accepts hid (hcq (Or.inl h))
    have hid' : Held .cmId (books.live u _) c'.cmId := hran.frame.2.1 ▸ hheld
    exact ⟨trivial, (books.monitor.accepts_append _ _ _).mpr ⟨hacc, hid', trivial, trivial⟩⟩
  | @accepted c₁ t₁ h hran =>
    obtain ⟨hacc, hheld⟩ := hran.accepts hid (hcq (Or.inr h))
    have hid' : Held .cmId (books.live u t₁) c₁.cmId := hran.frame.2.1 ▸ hheld
    refine ⟨trivial, (books.monitor.accepts_append _ _ _).mpr ⟨hacc, hid', ?_⟩⟩
    exact (books.monitor.accepts_append _ _ _).mpr ⟨accepts_initActs hid', trivial, trivial⟩
  | established h =>
    exact ⟨trivial, (books.monitor.accepts_append _ _ _).mpr
      ⟨accepts_initActs hid, trivial, trivial⟩⟩

/-! ### Starts -/

variable {start : Start}

theorem all_isKeeping_of_isStarting (h : t.all Act.isStarting = true) :
    t.all Act.isKeeping = true := by
  refine all_mono (fun a ha => ?_) h
  cases a <;> first | rfl | exact absurd ha Bool.false_ne_true

theorem idActs_keeping (o : CtxOutcomes) : (idActs config o).all Act.isKeeping = true := rfl

theorem arraysActs_keeping (o : CtxOutcomes) : (arraysActs config o).all Act.isKeeping = true :=
  rfl

theorem lookupActs_keeping (start : Start) : start.lookupActs.all Act.isKeeping = true :=
  all_isKeeping_of_isStarting start.all_lookupActs

theorem useActs_keeping (start : Start) (id : Ptr) :
    (start.useActs config id).all Act.isKeeping = true :=
  all_isKeeping_of_isStarting (start.all_useActs id)

theorem handlesLive_idActs {o : CtxOutcomes} : ∀ a ∈ idActs config o, HandlesLive u a := by
  intro a ha
  simp only [idActs, List.mem_cons, List.not_mem_nil, or_false] at ha
  rcases ha with rfl | rfl | rfl <;> trivial

theorem handlesLive_arraysActs {o : CtxOutcomes} :
    ∀ a ∈ arraysActs config o, HandlesLive u a := by
  intro a ha
  simp only [arraysActs, List.mem_cons, List.not_mem_nil, or_false] at ha
  rcases ha with rfl | rfl | rfl <;> trivial

theorem handlesLive_lookupActs : ∀ a ∈ start.lookupActs, HandlesLive u a := by
  intro a ha
  rw [Start.lookupActs] at ha
  rcases List.mem_cons.mp ha with rfl | ha
  · cases start <;> trivial
  · obtain ⟨addr, -, rfl⟩ := List.mem_map.mp ha
    trivial

/-- The connection id is all a start uses. -/
theorem handlesLive_useActs {id : Ptr} (hid : Held .cmId u id) :
    ∀ a ∈ start.useActs config id, HandlesLive u a := by
  intro a ha
  obtain ⟨addr, -, ha⟩ := List.mem_flatMap.mp ha
  cases start with
  | connect ipAddr port o =>
    rw [List.mem_singleton.mp ha]
    exact hid
  | listen ipAddr port ctx o =>
    rcases List.mem_cons.mp ha with rfl | ha
    · exact hid
    · split at ha
      · exact absurd ha List.not_mem_nil
      · rw [List.mem_singleton.mp ha]
        exact hid

/-- **The start keeps to live handles**, and leaves a live connection id if it made
one. -/
theorem Started.idLive {s : Option RdmaContext} (h : Started config start s t)
    (hstart : StartsLive start) : IdLive start s t := by
  cases h with
  | null h ht =>
    cases h with
    | unallocated =>
      refine ⟨(books.monitor.accepts_append _ _ _).mpr ⟨⟨trivial, trivial⟩, ?_⟩, ?_⟩
      · have hlookup : books.monitor.Accepts [] start.lookupActs :=
          accepts_of_isKeeping (lookupActs_keeping start) handlesLive_lookupActs
        obtain ⟨rest, hrest⟩ := ht
        rw [← hrest, books.monitor.accepts_append] at hlookup
        exact hlookup.1
      · rintro c hc
        cases hc
  | @context c t h =>
    rcases h with _ | ⟨hmalloc, hfail, ht⟩ | ⟨hmalloc, hmade⟩
    · -- there is no id, so there must be no address either
      have hno : ¬IdMade start.ctx := fun hc => hfail.elim hc.1 hc.2
      have hfound : start.found = none := by
        rcases hstart with hnone | hmade | hfound
        · rw [hnone] at hmalloc
          cases hmalloc
        · exact absurd hmade hno
        · exact hfound
      refine ⟨?_, fun _ _ hc => absurd hc hno⟩
      have hall : books.monitor.Accepts [] (idActs config start.ctx) :=
        accepts_of_isKeeping (idActs_keeping _) handlesLive_idActs
      obtain ⟨rest, hrest⟩ := ht
      rw [← hrest, books.monitor.accepts_append] at hall
      rw [books.monitor.accepts_append, Start.useActs, hfound, Option.toList_none,
        List.flatMap_nil, List.append_nil]
      exact ⟨hall.1, accepts_of_isKeeping (lookupActs_keeping start) handlesLive_lookupActs⟩
    · have hid : Held .cmId (books.live [] (idActs config start.ctx ++ arraysActs config start.ctx))
          start.ctx.rdmaCreateId := by
        rw [books.live_append]
        refine Held.keep ?_ (arraysActs_keeping _)
        exact held_of_acquires (a := .rdmaCreateId start.ctx.rdmaCreateEventChannel
          (portSpaceOf config) start.ctx.rdmaCreateId) (idActs_keeping _)
          (List.mem_cons_of_mem _ (List.mem_cons_of_mem _ List.mem_cons_self)) rfl hmade.2.1
      have hid' := hid.keep (lookupActs_keeping start)
      refine ⟨?_, ?_⟩
      · rw [books.monitor.accepts_append, books.monitor.accepts_append,
          books.monitor.accepts_append]
        exact ⟨⟨accepts_of_isKeeping (idActs_keeping _) handlesLive_idActs,
            accepts_of_isKeeping (arraysActs_keeping _) handlesLive_arraysActs⟩,
          accepts_of_isKeeping (lookupActs_keeping start) handlesLive_lookupActs,
          accepts_of_isKeeping (useActs_keeping start _) (handlesLive_useActs hid')⟩
      · rintro c' hc -
        cases hc
        rw [books.live_append, books.live_append]
        exact hid'.keep (useActs_keeping start _)

/-- A start that ends the process keeps to live handles. -/
theorem StartExits.accepts (h : StartExits config start t) : books.monitor.Accepts [] t := by
  have hstarting := h.all_isStarting
  obtain ⟨t', ht', rfl⟩ := h
  refine accepts_of_isKeeping (all_isKeeping_of_isStarting hstarting) fun a ha => ?_
  · rcases List.mem_append.mp ha with ha | ha
    · exact handlesLive_idActs a ha
    rcases List.mem_append.mp ha with ha | ha
    · exact handlesLive_arraysActs a (ht'.subset ha)
    · rw [List.mem_singleton.mp ha]
      trivial

/-! ### Runs -/

variable {channel : Ptr}

theorem accepts_turn {h : List Act} (hh : books.monitor.Accepts u h)
    (ht : books.monitor.Accepts (books.live u h) t) :
    books.monitor.Accepts u (h ++ (obtainActs channel event ++ t)) := by
  rw [books.monitor.accepts_append, books.monitor.accepts_append]
  exact ⟨hh, ⟨trivial, trivial, trivial⟩, ht⟩

/-- **A run of steps that release nothing uses live handles only.** -/
theorem staysLive_invariant (hstart : StartsLive start) :
    RunInvariant config channel start (StaysLive config start) (IdLive start)
      (fun _ _ t => books.monitor.Accepts [] t) where
  started s t h := h.idLive hstart
  exits e s t h := h.accepts
  handled c h o event r c' t hP hI hran := by
    obtain ⟨hacc, hid⟩ := hI
    rcases hP c event rfl rfl with hun | ⟨hmade, hkeep, hcq⟩
    · -- an event that touches nothing
      obtain ⟨rfl, t', ht', rfl⟩ := hran.untouched hun
      refine ⟨accepts_turn hacc (accepts_untouched ht'), ?_⟩
      rintro c'' hc hmade
      rw [live_turn]
      refine (hid c'' hc hmade).keep ?_
      rcases ht' with rfl | rfl <;> rfl
    · have hkept := hran.kept hkeep
      have hheld := hid c rfl hmade
      refine ⟨accepts_turn hacc (hkept.accepts hheld hcq), ?_⟩
      rintro c'' hc -
      cases hc
      rw [live_turn, hkept.cmId_eq]
      exact hheld.keep hkept.keeping
  stuck c h o event c' t e hP hI hran := by
    obtain ⟨hkind, hstuck⟩ := hran
    rcases hP c event rfl rfl with hun | ⟨hmade, hkeep, hcq⟩
    · exfalso
      rcases hun with hun | ⟨hun, -⟩ <;> rcases hkind with hk | hk <;> rw [hk] at hun <;> cases hun
    · refine accepts_turn hI.1 ⟨trivial, trivial, ?_⟩
      exact hstuck.accepts (hI.2 c rfl hmade) (hcq hkind)
  handledNull h o event r t hP hI hran := by
    refine ⟨accepts_turn hI.1 ?_, fun c hc => absurd hc.symm (Option.some_ne_none c)⟩
    cases hran with
    | other hkind => exact accepts_untouched (o := o) (Or.inl rfl)
    | resolved hkind hret => exact accepts_untouched (o := o) (Or.inr rfl)
  nullStuck h o event t e hP hI hran := by
    refine accepts_turn hI.1 ?_
    cases hran with
    | unresolved hkind hret => exact ⟨trivial, trivial, trivial, trivial, trivial⟩
    | creating hkind => exact ⟨trivial, trivial, trivial, trivial, trivial⟩
    | established hkind => exact ⟨trivial, trivial, trivial⟩
    | error hkind => exact ⟨trivial, trivial, trivial, trivial, trivial⟩
    | disconnected hkind => exact ⟨trivial, trivial, trivial, trivial⟩
  idle s h event out hI := by
    refine (books.monitor.accepts_append _ _ _).mpr ⟨hI.1, ?_⟩
    rcases event with _ | event
    · exact ⟨trivial, trivial⟩
    · exact ⟨trivial, trivial, trivial⟩
  ends s h out hI := hI.1

/-- **When a run uses live handles only**: it does in every run that starts with a
connection id and whose steps all release nothing and make no queue pair on a
receive completion queue that is not there. -/
theorem usesLive_of_runMeets (config : RdmaParam) (channel : Ptr) (start : Start)
    (ticks : List Tick) (hstart : StartsLive start)
    (hsteps : RunMeets (StaysLive config start) config channel start ticks) :
    UsesLive (run config channel start ticks none).trace := by
  rw [usesLive_iff_accepts]
  exact Traced.post_iff.mp ((staysLive_invariant hstart).post_run hsteps)

/-- A client that resolves its address and its route uses live handles only. -/
theorem usesLive_connecting_client :
    UsesLive (run Sample.config (some 10) (Sample.connect Sample.block)
      [Sample.tick .addrResolved 11, Sample.tick .routeResolved 11] none).trace := by
  refine usesLive_of_runMeets _ _ _ _ (Or.inr (Or.inl ⟨by decide, by decide⟩)) ?_
  rintro s t hrun
  have hs : s = (Start.code Sample.config (Sample.connect Sample.block) none).state := by rw [hrun]
  subst hs
  refine ⟨?_, fun b s t hturn => ⟨?_, fun _ _ _ _ => trivial⟩⟩
  · rintro c event - hevent
    cases hevent
    exact Or.inl (Or.inr ⟨rfl, rfl⟩)
  · rintro c event rfl hevent
    cases hevent
    have hc : some c = (turn Sample.config (some 10) none (Sample.tick .addrResolved 11)
        (Start.code Sample.config (Sample.connect Sample.block) none).state).state := by rw [hturn]
    cases hc
    refine Or.inr ⟨⟨by decide, by decide⟩, ?_, fun _ _ _ _ => Option.some_ne_none _⟩
    exact Sample.not_tearsDown_routeResolved (Option.some_ne_none 11) rfl rfl rfl

/-- An address error before anything is created: the teardown destroys a queue pair
that was never made. -/
theorem not_usesLive_of_addrError :
    ¬UsesLive (run Sample.config (some 10) (Sample.connect Sample.block)
      [Sample.tick .addrError 11] none).trace := by
  intro hall
  have hbad := hall [.malloc true, .rdmaCreateEventChannel (some 10),
    .rdmaCreateId (some 10) .tcp (some 11), .allocate .qp 2 (some 12), .allocate .mr 2 (some 13),
    .allocate .buf 2 (some 14), .getaddrinfo (some "server") 7471 0, .freeaddrinfo 1,
    .rdmaResolveAddr (some 11) ⟨1, 7471⟩ 2000 0,
    .rdmaGetCmEvent (some 10) (some (Sample.event .addrError 11)),
    .readEvent (Sample.event .addrError 11), .readEvent (Sample.event .addrError 11),
    .readEvent (Sample.event .addrError 11), .rdmaAckCmEvent (Sample.event .addrError 11),
    .enter .teardown] (.rdmaDestroyQp (some 11))
    [.ibvDeregMr (some 13), .free (some 14), .rdmaDestroyId (some 11), .leave .teardown 0] rfl
  obtain ⟨-, i, p, -, hp⟩ := hbad
  change Resource.qp i p ∈ [.array 14, .array 13, .array 12, .cmId 11] at hp
  simp only [List.mem_cons, reduceCtorEq, List.not_mem_nil, or_self] at hp

end Transport
