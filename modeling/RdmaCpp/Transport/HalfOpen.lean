import RdmaCpp.Transport.Connected
import RdmaCpp.Transport.Handshake

/-!
# How the handshake ends

Of all that a party does in its event loop, the other one only gets to know some calls: those
that the connection manager answers, and those by which a connection is given up. Where every
call succeeds, there is not much choice in these, and the handshake of
`RdmaCpp.Transport.Handshake` can be followed to its end, whatever the order of the deliveries.

It **always ends**, after five deliveries and not before, and it **always ends half open**
(`Transport.ends_halfOpen`): the client takes itself to be connected and has given nothing up;
the server has accepted on the id that it listens on, and has then disconnected that id. Nobody
has torn anything down. (Disconnecting an id that only listens is reported to nobody.)
-/

namespace Transport

/-! ### What is said -/

/-- The calls that the other side gets to know of, and the teardown. -/
def Act.speaks : Act → Bool
  | .rdmaListen .. | .rdmaResolveAddr .. | .rdmaResolveRoute .. | .rdmaConnect .. | .rdmaAccept ..
  | .rdmaDisconnect _ | .enter .teardown => true
  | _ => false

theorem Act.speaks_of_asks {a : Act} (h : a.asks = true) : a.speaks = true := by
  cases a <;> first | rfl | exact absurd h Bool.false_ne_true

theorem Act.speaks_of_isResource {a : Act} (h : a.isResource = true) : a.speaks = false := by
  cases a <;> first | rfl | exact absurd h Bool.false_ne_true

/-- What a party has said so far. -/
def spoken (party : Party) : List Act := party.history.filter Act.speaks

theorem mem_spoken {party : Party} {a : Act} (h : a.speaks = true) :
    a ∈ spoken party ↔ a ∈ party.history := by
  rw [spoken, List.mem_filter]
  exact and_iff_left h

/-- A creation says nothing. -/
theorem CreateRan.filter_speaks {config : RdmaParam} {o : CreateOutcomes} {c c' : RdmaContext}
    {ret : ℤ} {t : List Act} (h : CreateRan config o c ret c' t) : t.filter Act.speaks = [] := by
  obtain ⟨⟨t', rfl, hall⟩, -⟩ := h.frame
  have hnone : t'.filter Act.speaks = [] := List.filter_eq_nil_iff.mpr fun a ha hspeaks =>
    absurd hspeaks (by
      rw [Act.speaks_of_isResource (List.all_eq_true.mp hall a ha)]
      exact Bool.false_ne_true)
  rw [List.filter_cons_of_neg Bool.false_ne_true, List.filter_append, hnone]
  rfl

/-! ### A turn in which every call succeeds -/

/-- The event is one of those that take the handshake further. -/
def Advances (event : CmEvent) : Prop :=
  event.event = .addrResolved ∨ event.event = .routeResolved ∨ event.event = .connectRequest ∨
    event.event = .established

/-- **A smooth turn**: what it leaves of the context, and what is said in it. -/
inductive Smooth (config : RdmaParam) (event : CmEvent) (c : RdmaContext) :
    RdmaContext → List Act → Prop
  | resolved (h : event.event = .addrResolved) :
      Smooth config event c c [.rdmaResolveRoute event.id timeoutInMs 0]
  | connecting {c' : RdmaContext} (h : event.event = .routeResolved) (hid : c'.cmId = c.cmId)
      (hconn : c'.connected = c.connected) :
      Smooth config event c c' [.rdmaConnect c.cmId (connParam config) 0]
  | accepted {c' : RdmaContext} (h : event.event = .connectRequest) (hid : c'.cmId = c.cmId) :
      Smooth config event c (c'.initiated event) (.rdmaAccept c.cmId (connParam config) 0 ::
        if Initiates event c' then [] else [.rdmaDisconnect c'.cmId])
  | established (h : event.event = .established) :
      Smooth config event c (c.initiated event)
        (if Initiates event c then [] else [.rdmaDisconnect c.cmId])

section Turns

variable {config : RdmaParam} {o : HandlerOutcomes} {event : CmEvent} {c c' : RdmaContext}
  {r : Option CmEvent} {t : List Act}

/-- What the connection check says. -/
theorem filter_initActs (event : CmEvent) (c : RdmaContext) :
    (initActs event c).filter Act.speaks =
      if Initiates event c then [] else [.rdmaDisconnect c.cmId] := by
  rw [initActs]
  split <;> rfl

/-- **Where every call succeeds, the turn is smooth.** -/
theorem Handled.smooth (h : Handled config o event c r c' t) (ho : o.Succeed)
    (hkind : Advances event) : Smooth config event c c' (t.filter Act.speaks) := by
  have hack : [Act.rdmaAckCmEvent event].filter Act.speaks = [] := rfl
  cases h with
  | other h => rcases hkind with hk | hk | hk | hk <;> rw [hk] at h <;> cases h
  | resolved h hret =>
    rw [resolveActs, hret]
    exact Smooth.resolved h
  | unresolved h hret => exact absurd ho.rdmaResolveRoute hret
  | uncreated h hran hret => exact absurd (hran.fails hret) ho.create.not_createFails
  | unconnected h hran hret => exact absurd ho.rdmaConnect hret
  | connecting h hran hret =>
    obtain ⟨-, hid, hconn, -⟩ := hran.frame
    rw [List.filter_cons_of_neg Bool.false_ne_true, List.filter_append, hran.filter_speaks, hid,
      hret]
    exact Smooth.connecting h hid hconn
  | unaccepted h hran hret => exact absurd hret (by rw [ho.rdmaAccept]; exact Int.lt_irrefl 0)
  | accepted h hran hret =>
    obtain ⟨-, hid, -⟩ := hran.frame
    rw [List.filter_cons_of_neg Bool.false_ne_true, List.filter_append, hran.filter_speaks,
      List.nil_append, List.filter_cons_of_pos rfl, List.filter_append, filter_initActs, hack,
      List.append_nil, hid, ho.rdmaAccept]
    have hsmooth : Smooth config event c _ _ := Smooth.accepted h hid
    rwa [hid] at hsmooth
  | established h =>
    rw [List.filter_cons_of_neg Bool.false_ne_true, List.filter_append, filter_initActs, hack,
      List.append_nil]
    exact Smooth.established h
  | error h => rcases hkind with hk | hk | hk | hk <;> rw [hk] at h <;> cases h
  | disconnected h => rcases hkind with hk | hk | hk | hk <;> rw [hk] at h <;> cases h

variable {said : List Act}

theorem Smooth.of_addrResolved (h : Smooth config event c c' said)
    (hkind : event.event = .addrResolved) :
    c' = c ∧ said = [.rdmaResolveRoute event.id timeoutInMs 0] := by
  cases h with
  | resolved => exact ⟨rfl, rfl⟩
  | connecting h | accepted h | established h => rw [hkind] at h; cases h

theorem Smooth.of_routeResolved (h : Smooth config event c c' said)
    (hkind : event.event = .routeResolved) :
    c'.cmId = c.cmId ∧ c'.connected = c.connected ∧
      said = [.rdmaConnect c.cmId (connParam config) 0] := by
  cases h with
  | connecting _ hid hconn => exact ⟨hid, hconn, rfl⟩
  | resolved h | accepted h | established h => rw [hkind] at h; cases h

/-- A request on another id than the current one is accepted, and given up. -/
theorem Smooth.of_connectRequest (h : Smooth config event c c' said)
    (hkind : event.event = .connectRequest) (hother : c.cmId ≠ some event.id) :
    c'.cmId = c.cmId ∧
      said = [.rdmaAccept c.cmId (connParam config) 0, .rdmaDisconnect c.cmId] := by
  cases h with
  | @accepted c' _ hid =>
    have hinit : ¬Initiates event c' := fun hc => hother (hid.symm.trans hc.2.symm)
    rw [if_neg hinit, initiated_cmId, hid]
    exact ⟨rfl, rfl⟩
  | resolved h | connecting h | established h => rw [hkind] at h; cases h

theorem Smooth.of_established (h : Smooth config event c c' said)
    (hkind : event.event = .established) :
    c' = c.initiated event ∧
      said = if Initiates event c then [] else [.rdmaDisconnect c.cmId] := by
  cases h with
  | established => exact ⟨rfl, rfl⟩
  | resolved h | connecting h | accepted h => rw [hkind] at h; cases h

end Turns

/-! ### What is said and what is reported -/

section Reported

variable {net : Handshake} {side : Side} {handled : Option CmEvent} {a : Act} {t : List Act}
  {es : List (Side × CmEvent)}

/-- A call that is not answered is not reported. -/
theorem Reports.eq_nil (h : Reports net side handled a es) (hasks : a.asks = false) : es = [] := by
  cases h with
  | silent => rfl
  | addrResolved | routeResolved | connectRequest | established => cases hasks

/-- **Only what is answered is reported**: of the other calls any may be left out. -/
theorem reportsAll_filter {p : Act → Bool} (hp : ∀ a, a.asks = true → p a = true) :
    ReportsAll net side handled (t.filter p) es ↔ ReportsAll net side handled t es := by
  induction t generalizing es with
  | nil => exact Iff.rfl
  | cons a t ih =>
    by_cases hpa : p a = true
    · rw [List.filter_cons_of_pos hpa]
      constructor
      · rintro (_ | ⟨ha, ht⟩)
        exact ReportsAll.cons ha (ih.mp ht)
      · rintro (_ | ⟨ha, ht⟩)
        exact ReportsAll.cons ha (ih.mpr ht)
    · rw [List.filter_cons_of_neg hpa]
      have hasks : a.asks = false := Bool.eq_false_iff.mpr fun hc => hpa (hp a hc)
      constructor
      · exact fun ht => ReportsAll.cons (Reports.silent hasks) (ih.mp ht)
      · rintro (_ | ⟨ha, ht⟩)
        rw [ha.eq_nil hasks]
        exact ih.mpr ht

/-- What is reported where one call is answered. -/
theorem reportsAll_iff_of_asks (h : t.filter Act.asks = [a]) :
    ReportsAll net side handled t es ↔ Reports net side handled a es := by
  rw [← reportsAll_filter (fun _ ha => ha), h]
  constructor
  · rintro (_ | ⟨ha, ⟨⟩⟩)
    rw [List.append_nil]
    exact ha
  · exact Reports.all

/-- And where none is. -/
theorem reportsAll_iff_of_silent (h : t.filter Act.asks = []) :
    ReportsAll net side handled t es ↔ es = [] := by
  rw [← reportsAll_filter (fun _ ha => ha), h]
  constructor
  · rintro ⟨⟩
    rfl
  · rintro rfl
    exact ReportsAll.nil

end Reported

section Handles

variable {config : Side → RdmaParam} {channel : Side → Ptr} {net : Handshake} {side : Side}
  {event : CmEvent} {party : Party} {es : List (Side × CmEvent)} {c : RdmaContext}

/-- **What is said in a turn**, and what is reported for it. -/
theorem Handles.smooth (h : Handles config channel net side event party es)
    (hc : (net.state side).ctx = some c) (hkind : Advances event) :
    ∃ c' said, party.ctx = some c' ∧ Smooth (config side) event c c' said ∧
      spoken party = spoken (net.state side) ++ said ∧
      ReportsAll net side (some event) said es := by
  obtain ⟨o, t, c', ho, hctx, hhistory, hran, hreports⟩ := h.inv hc
  have hobtain : (obtainActs (channel side) event ++ t).filter Act.speaks =
      t.filter Act.speaks := rfl
  refine ⟨c', t.filter Act.speaks, hctx, hran.smooth ho hkind, ?_, ?_⟩
  · rw [spoken, hhistory, List.filter_append, hobtain]
    rfl
  · rw [← hobtain]
    exact (reportsAll_filter fun _ => Act.speaks_of_asks).mpr hreports

end Handles

/-! ### The stages -/

/-- All that the client says, in this order. -/
def clientScript (config : RdmaParam) (id : ℕ) (sin : SockAddr) : List Act :=
  [.rdmaResolveAddr (some id) sin timeoutInMs 0, .rdmaResolveRoute id timeoutInMs 0,
    .rdmaConnect (some id) (connParam config) 0]

/-- What the server says up to the end of the connection request. -/
def serverScript (config : RdmaParam) (id : ℕ) : List Act :=
  [.rdmaListen (some id) 0 0, .rdmaAccept (some id) (connParam config) 0,
    .rdmaDisconnect (some id)]

/-- **The client has got this far** in what it says, with this context. -/
structure ClientAt (config : RdmaParam) (id k : ℕ) (c : RdmaContext) (party : Party) : Prop where
  ctx : party.ctx = some c
  cmId : c.cmId = some id
  said : ∃ sin, spoken party = (clientScript config id sin).take k

/-- **So has the server**, and has then disconnected its id `m` times more. -/
structure ServerAt (config : RdmaParam) (id k m : ℕ) (c : RdmaContext) (party : Party) :
    Prop where
  ctx : party.ctx = some c
  cmId : c.cmId = some id
  said : spoken party =
    (serverScript config id).take k ++ List.replicate m (.rdmaDisconnect (some id))

/-- The arrays of the context have the room that the creation of the resources needs. -/
def Roomy (config : RdmaParam) (c : RdmaContext) : Prop :=
  config.turns ≤ room c.qp ∧ config.turns ≤ room c.mr ∧ config.turns ≤ room c.buf

/-- **Whether the client has been told** that the connection is established: then it takes
itself to be connected. -/
inductive ClientTold (id : ℕ) (c : RdmaContext) (flight : List CmEvent) : ℕ → Prop
  | no {e : CmEvent} (hconn : c.connected ≠ 1) (hkind : e.event = .established) (hid : e.id = id)
      (hflight : flight = [e]) : ClientTold id c flight 0
  | yes (hconn : c.connected = 1) (hflight : flight = []) : ClientTold id c flight 1

/-- Whether the server has. -/
inductive ServerTold (m : ℕ) (flight : List CmEvent) : ℕ → Prop
  | no {e : CmEvent} (hm : m = 0) (hkind : e.event = .established) (hflight : flight = [e]) :
      ServerTold m flight 0
  | yes (hm : m ≤ 1) (hflight : flight = []) : ServerTold m flight 1

/-- **The stages of the handshake**, by the number of the events delivered. -/
inductive Stage (config : Side → RdmaParam) (n : ℕ) (net : Handshake) : Prop
  /-- The address or, after it, the route of the client is resolved. -/
  | resolving {id lid k : ℕ} {c s : RdmaContext} {e : CmEvent}
      (hclient : ClientAt (config .client) id k c (net.state .client))
      (hserver : ServerAt (config .server) lid 1 0 s (net.state .server))
      (hconn : c.connected ≠ 1) (hroom : Roomy (config .client) c)
      (hroom' : Roomy (config .server) s) (hc : net.flight .client = [e])
      (hs : net.flight .server = [])
      (hkind : n = 0 ∧ k = 1 ∧ e.event = .addrResolved ∧ e.id = id ∨
        n = 1 ∧ k = 2 ∧ e.event = .routeResolved)
  /-- The connection is requested, on an id that the server does not listen on. -/
  | request {id lid : ℕ} {c s : RdmaContext} {e : CmEvent} (hn : n = 2)
      (hclient : ClientAt (config .client) id 3 c (net.state .client))
      (hserver : ServerAt (config .server) lid 1 0 s (net.state .server))
      (hconn : c.connected ≠ 1) (hroom : Roomy (config .server) s)
      (hkind : e.event = .connectRequest) (hid : e.id ≠ lid) (hc : net.flight .client = [])
      (hs : net.flight .server = [e])
  /-- It is established, of which both sides are told. -/
  | established {id lid m a b : ℕ} {c s : RdmaContext} (hn : n = 3 + a + b)
      (hclient : ClientAt (config .client) id 3 c (net.state .client))
      (hserver : ServerAt (config .server) lid 3 m s (net.state .server))
      (hc : ClientTold id c (net.flight .client) a) (hs : ServerTold m (net.flight .server) b)

/-! ### The starts -/

/-- The look-up of an address says nothing. -/
theorem Start.filter_lookupActs (start : Start) : start.lookupActs.filter Act.speaks = [] := by
  rw [Start.lookupActs]
  rcases start.found with _ | addr <;> cases start <;> rfl

/-- A context that is complete has the room that is needed. -/
theorem roomy_withArrays {config : RdmaParam} {o : CtxOutcomes} (hmade : CtxMade o)
    (c : RdmaContext) : Roomy config (c.withArrays config o) := by
  have hroom : ∀ field, room ((o.allocate field).map fun b =>
      (⟨b.1, (List.range config.turns).map b.2⟩ : PtrArray)) = config.turns := by
    intro field
    obtain ⟨b, hb⟩ := Option.ne_none_iff_exists'.mp (hmade.2.2 field)
    rw [hb, Option.map_some, room_some, List.length_map, List.length_range]
  exact ⟨(hroom .qp).ge, (hroom .mr).ge, (hroom .buf).ge⟩

/-- **What a start that succeeds leaves**, and what is said in it. -/
theorem Started.succeeded {config : RdmaParam} {start : Start} {s : Option RdmaContext}
    {t : List Act} (h : Started config start s t) (hsucceed : start.Succeed) :
    ∃ c c₀ id, s = some c ∧ start.ctx.malloc = some c₀ ∧ c.connected = c₀.connected ∧
      c.cmId = some id ∧ Roomy config c ∧
      t.filter Act.speaks = (start.useActs config (some id)).filter Act.speaks := by
  obtain ⟨hmalloc, hmade, -⟩ := hsucceed
  obtain ⟨id, hid⟩ := Option.ne_none_iff_exists'.mp hmade.2.1
  cases h with
  | null hran =>
    cases hran with
    | unallocated hnone => exact absurd hnone hmalloc
  | context hran =>
    cases hran with
    | unmade _ hfail =>
      rcases hfail with hnone | hnone
      · exact absurd hnone hmade.1
      · exact absurd hnone hmade.2.1
    | @made c₀ hsome _ =>
      have hctx : (idActs config start.ctx ++ arraysActs config start.ctx).filter Act.speaks =
          [] := rfl
      have hcm : (c₀.withArrays config start.ctx).cmId = some id := hid
      refine ⟨_, c₀, id, rfl, hsome, rfl, hcm, roomy_withArrays hmade c₀, ?_⟩
      rw [List.filter_append, hctx, List.nil_append, List.filter_append,
        start.filter_lookupActs, List.nil_append, hcm]

section Deliveries

variable {config : Side → RdmaParam} {channel : Side → Ptr} {start : Side → Start}
  {net net' : Handshake} {n : ℕ}

/-- What is reported for the start of a party is what is reported for what it has said. -/
theorem Launched.reports (h : Launched config start net) (side : Side) :
    ∃ es, ReportsAll net side none (spoken (net.state side)) es ∧
      net.flight side = es.map Prod.snd := by
  obtain ⟨es, hreports, hflight⟩ := h.flight side
  exact ⟨es, (reportsAll_filter fun _ => Act.speaks_of_asks).mpr hreports, hflight⟩

/-- **Where the client starts**: it has asked for its address. -/
theorem Launched.clientAt (h : Launched config start net) : ∃ id c sin,
    ClientAt (config .client) id 1 c (net.state .client) ∧ c.connected ≠ 1 ∧
      Roomy (config .client) c ∧
      spoken (net.state .client) = [.rdmaResolveAddr (some id) sin timeoutInMs 0] := by
  obtain ⟨ipAddr, port, o, hconnect⟩ := h.connects
  have hstarted : Started (config .client) (start .client) (net.state .client).ctx
      (net.state .client).history := (post_start _ _).of_ok (h.ran .client)
  have hsucceed := h.succeed .client
  obtain ⟨c, c₀, id, hc, hmalloc, hconn, hid, hroom, hsaid⟩ := hstarted.succeeded hsucceed
  rw [hconnect] at hsaid hsucceed
  obtain ⟨-, -, -, hres, hresolve⟩ := hsucceed
  obtain ⟨addr, haddr⟩ := Option.ne_none_iff_exists'.mp hres
  have huse : Start.useActs (config .client) (.connect ipAddr port o) (some id) =
      [.rdmaResolveAddr (some id) ⟨addr, toUInt16 (config .client).port⟩ timeoutInMs
        o.rdmaResolveAddr] := by
    rw [Start.useActs, show Start.found (.connect ipAddr port o) = some addr from haddr]
    rfl
  rw [huse, hresolve] at hsaid
  refine ⟨id, c, _, ⟨hc, hid, _, hsaid⟩, ?_, hroom, hsaid⟩
  rw [hconn, h.unconnected .client c₀ hmalloc]
  decide

/-- **Where the server starts**: it listens. -/
theorem Launched.serverAt (h : Launched config start net) : ∃ id s,
    ServerAt (config .server) id 1 0 s (net.state .server) ∧ Roomy (config .server) s ∧
      spoken (net.state .server) = [.rdmaListen (some id) 0 0] := by
  obtain ⟨ipAddr, port, ctx, o, hlisten⟩ := h.listens
  have hstarted : Started (config .server) (start .server) (net.state .server).ctx
      (net.state .server).history := (post_start _ _).of_ok (h.ran .server)
  have hsucceed := h.succeed .server
  obtain ⟨s, -, id, hs, -, -, hid, hroom, hsaid⟩ := hstarted.succeeded hsucceed
  rw [hlisten] at hsaid hsucceed
  obtain ⟨-, -, hret, hres, hbind, hlistens⟩ := hsucceed
  obtain ⟨addr, haddr⟩ := Option.ne_none_iff_exists'.mp hres
  have hfound : Start.found (.listen ipAddr port ctx o) = some addr := by
    rw [Start.found, hret, if_neg (Int.lt_irrefl 0), haddr]
  have huse : Start.useActs (config .server) (.listen ipAddr port ctx o) (some id) =
      [.rdmaBindAddr (some id) ⟨addr, toUInt16 (config .server).port⟩ 0,
        .rdmaListen (some id) 0 0] := by
    simp only [Start.useActs, hfound, Option.toList_some, List.flatMap_cons, List.flatMap_nil,
      List.append_nil, Start.uses, hbind, hlistens, ne_eq, not_true_eq_false, if_false]
  rw [huse] at hsaid
  exact ⟨id, s, ⟨hs, hid, hsaid⟩, hroom, hsaid⟩

/-- **The first stage.** -/
theorem Launched.stage (h : Launched config start net) : Stage config 0 net := by
  obtain ⟨id, c, sin, hclient, hconn, hroom, hsaid⟩ := h.clientAt
  obtain ⟨lid, s, hserver, hroom', hsaid'⟩ := h.serverAt
  -- what is on its way
  obtain ⟨es, hreports, hflight⟩ := h.reports .client
  obtain ⟨es', hreports', hflight'⟩ := h.reports .server
  rw [hsaid, reportsAll_iff_of_asks rfl] at hreports
  rw [hsaid', reportsAll_iff_of_silent rfl] at hreports'
  cases hreports with
  | silent hc => cases hc
  | addrResolved hkind hid =>
    exact Stage.resolving hclient hserver hconn hroom hroom' hflight
      (by rw [hflight', hreports']; rfl) (Or.inl ⟨rfl, rfl, hkind, hid⟩)

/-! ### The steps -/

section Steps

variable {id lid m : ℕ} {c s : RdmaContext} {event : CmEvent} {party : Party}
  {es : List (Side × CmEvent)}

/-- **The address of the client is resolved.** -/
theorem ClientAt.address (hclient : ClientAt (config .client) id 1 c (net.state .client))
    (hserver : ServerAt (config .server) lid 1 0 s (net.state .server)) (hconn : c.connected ≠ 1)
    (hroom : Roomy (config .client) c) (hroom' : Roomy (config .server) s)
    (hs : net.flight .server = []) (hkind : event.event = .addrResolved) (hid : event.id = id)
    (h : Handles config channel net .client event party es) :
    Stage config 1 (net.after .client [] party es) := by
  obtain ⟨c', said, hctx, hsmooth, hspoken, hreports⟩ := h.smooth hclient.ctx (Or.inl hkind)
  obtain ⟨rfl, rfl⟩ := hsmooth.of_addrResolved hkind
  obtain ⟨sin, hsaid⟩ := hclient.said
  have hclient' : ClientAt (config .client) id 2 c' party :=
    ⟨hctx, hclient.cmId, sin, by rw [hspoken, hsaid, hid]; rfl⟩
  rw [← Net.after_state_self net .client [] party es] at hclient'
  rw [← Net.after_state_of_ne (i := .client) (by decide) [] party es] at hserver
  rw [reportsAll_iff_of_asks rfl] at hreports
  cases hreports with
  | silent hc => cases hc
  | routeResolved hkind' =>
    exact Stage.resolving hclient' hserver hconn hroom hroom' rfl ((List.append_nil _).trans hs)
      (Or.inr ⟨rfl, rfl, hkind'⟩)

/-- **Its route is**, and it connects. -/
theorem ClientAt.route (hclient : ClientAt (config .client) id 2 c (net.state .client))
    (hserver : ServerAt (config .server) lid 1 0 s (net.state .server)) (hconn : c.connected ≠ 1)
    (hroom' : Roomy (config .server) s) (hs : net.flight .server = [])
    (hkind : event.event = .routeResolved)
    (h : Handles config channel net .client event party es) :
    Stage config 2 (net.after .client [] party es) := by
  obtain ⟨c', said, hctx, hsmooth, hspoken, hreports⟩ :=
    h.smooth hclient.ctx (Or.inr (Or.inl hkind))
  obtain ⟨hcm, hflag, rfl⟩ := hsmooth.of_routeResolved hkind
  obtain ⟨sin, hsaid⟩ := hclient.said
  have hclient' : ClientAt (config .client) id 3 c' party :=
    ⟨hctx, hcm.trans hclient.cmId, sin, by rw [hspoken, hsaid, hclient.cmId]; rfl⟩
  have hlistens : Act.rdmaListen (some lid) 0 0 ∈ (net.state .server).history := by
    rw [← mem_spoken rfl, hserver.said]
    exact List.mem_cons_self
  rw [← Net.after_state_self net .client [] party es] at hclient'
  rw [← Net.after_state_of_ne (i := .client) (by decide) [] party es] at hserver
  rw [reportsAll_iff_of_asks rfl] at hreports
  cases hreports with
  | silent hc => cases hc
  | @connectRequest _ _ e hkind' hfresh =>
    have hother : e.id ≠ lid := by
      intro hc
      rw [hc] at hfresh
      exact hfresh 0 0 hlistens
    have hs' : (net.after .client [] party [(.server, e)]).flight .server = [e] := by
      change net.flight .server ++ [e] = [e]
      rw [hs, List.nil_append]
    exact Stage.request rfl hclient' hserver (by rw [hflag]; exact hconn) hroom' hkind' hother rfl
      hs'

/-- **The connection is requested**: the server accepts on its own id, and disconnects it. -/
theorem ServerAt.request (hclient : ClientAt (config .client) id 3 c (net.state .client))
    (hserver : ServerAt (config .server) lid 1 0 s (net.state .server)) (hconn : c.connected ≠ 1)
    (hc : net.flight .client = []) (hkind : event.event = .connectRequest)
    (hother : event.id ≠ lid) (h : Handles config channel net .server event party es) :
    Stage config 3 (net.after .server [] party es) := by
  obtain ⟨c', said, hctx, hsmooth, hspoken, hreports⟩ :=
    h.smooth hserver.ctx (Or.inr (Or.inr (Or.inl hkind)))
  have hne : s.cmId ≠ some event.id := by
    rw [hserver.cmId]
    exact fun hc => hother (Option.some.inj hc).symm
  obtain ⟨hcm, rfl⟩ := hsmooth.of_connectRequest hkind hne
  have hserver' : ServerAt (config .server) lid 3 0 c' party :=
    ⟨hctx, hcm.trans hserver.cmId, by rw [hspoken, hserver.said, hserver.cmId]; rfl⟩
  obtain ⟨sin, hsaid⟩ := hclient.said
  rw [← Net.after_state_self net .server [] party es] at hserver'
  have hclient' := hclient
  rw [← Net.after_state_of_ne (i := .server) (by decide) [] party es] at hclient'
  rw [reportsAll_iff_of_asks rfl] at hreports
  cases hreports with
  | silent hc => cases hc
  | @established _ _ e e' hkind' hkind'' hconnects _ =>
    -- the only id that the client has connected is its own
    obtain ⟨param, hmem⟩ := hconnects
    rw [← mem_spoken rfl, hsaid] at hmem
    have hid : e.id = id := by
      simp only [clientScript, List.take_succ_cons, List.take_zero, List.mem_cons,
        List.not_mem_nil, or_false, reduceCtorEq, false_or, Act.rdmaConnect.injEq,
        Option.some.injEq] at hmem
      exact hmem.1
    have hc' : (net.after .server [] party [(.client, e), (.server, e')]).flight .client =
        [e] := by
      change net.flight .client ++ [e] = [e]
      rw [hc, List.nil_append]
    exact Stage.established rfl hclient' hserver' (ClientTold.no hconn hkind' hid hc')
      (ServerTold.no rfl hkind'' rfl)

/-- **The client is told** that it is established, and takes itself to be connected. -/
theorem ClientAt.told (hclient : ClientAt (config .client) id 3 c (net.state .client))
    (hconn : c.connected ≠ 1) (hkind : event.event = .established) (hid : event.id = id)
    (h : Handles config channel net .client event party es) :
    ∃ c', ClientAt (config .client) id 3 c' party ∧ c'.connected = 1 ∧ es = [] := by
  obtain ⟨c', said, hctx, hsmooth, hspoken, hreports⟩ :=
    h.smooth hclient.ctx (Or.inr (Or.inr (Or.inr hkind)))
  obtain ⟨rfl, rfl⟩ := hsmooth.of_established hkind
  have hinit : Initiates event c := ⟨hconn, by rw [hid, hclient.cmId]⟩
  rw [if_pos hinit, List.append_nil] at hspoken
  rw [if_pos hinit, reportsAll_iff_of_silent rfl] at hreports
  obtain ⟨sin, hsaid⟩ := hclient.said
  refine ⟨_, ⟨hctx, ?_, sin, hspoken.trans hsaid⟩, ?_, hreports⟩
  · rw [initiated_cmId]
    exact hclient.cmId
  · rw [RdmaContext.initiated, if_pos hinit]

/-- **The server is told**, and may disconnect once more. -/
theorem ServerAt.told (hserver : ServerAt (config .server) lid 3 0 s (net.state .server))
    (hkind : event.event = .established)
    (h : Handles config channel net .server event party es) :
    ∃ s' m, ServerAt (config .server) lid 3 m s' party ∧ m ≤ 1 ∧ es = [] := by
  obtain ⟨s', said, hctx, hsmooth, hspoken, hreports⟩ :=
    h.smooth hserver.ctx (Or.inr (Or.inr (Or.inr hkind)))
  obtain ⟨rfl, rfl⟩ := hsmooth.of_established hkind
  have hcm : (s.initiated event).cmId = some lid := by
    rw [initiated_cmId]
    exact hserver.cmId
  by_cases hinit : Initiates event s
  · rw [if_pos hinit, List.append_nil, hserver.said] at hspoken
    rw [if_pos hinit, reportsAll_iff_of_silent rfl] at hreports
    exact ⟨_, 0, ⟨hctx, hcm, hspoken⟩, Nat.zero_le 1, hreports⟩
  · rw [if_neg hinit, hserver.said, hserver.cmId] at hspoken
    rw [if_neg hinit, reportsAll_iff_of_silent rfl] at hreports
    exact ⟨_, 1, ⟨hctx, hcm, hspoken⟩, Nat.le_refl 1, hreports⟩

end Steps

/-- **Every delivery leads to the next stage.** -/
theorem Stage.step {i : Side} {event : CmEvent} {rest : List CmEvent} {party : Party}
    {es : List (Side × CmEvent)} (hstage : Stage config n net)
    (hflight : (net.flight i).Perm (event :: rest))
    (h : Handles config channel net i event party es) :
    Stage config (n + 1) (net.after i rest party es) := by
  cases hstage with
  | resolving hclient hserver hconn hroom hroom' hc hs hkind =>
    cases i with
    | server => exact absurd hflight (Net.not_flight_nil hs)
    | client =>
      obtain ⟨rfl, rfl⟩ := Net.eq_of_flight_singleton hc hflight
      rcases hkind with ⟨rfl, rfl, hkind, hid⟩ | ⟨rfl, rfl, hkind⟩
      · exact hclient.address hserver hconn hroom hroom' hs hkind hid h
      · exact hclient.route hserver hconn hroom' hs hkind h
  | request hn hclient hserver hconn hroom hkind hid hc hs =>
    cases i with
    | client => exact absurd hflight (Net.not_flight_nil hc)
    | server =>
      obtain ⟨rfl, rfl⟩ := Net.eq_of_flight_singleton hs hflight
      subst hn
      exact hserver.request hclient hconn hc hkind hid h
  | established hn hclient hserver hc hs =>
    subst hn
    cases i with
    | client =>
      cases hc with
      | yes _ hnil => exact absurd hflight (Net.not_flight_nil hnil)
      | no hconn hkind hid hone =>
        obtain ⟨rfl, rfl⟩ := Net.eq_of_flight_singleton hone hflight
        obtain ⟨c', hclient', hconn', rfl⟩ := hclient.told hconn hkind hid h
        rw [← Net.after_state_self net .client [] party []] at hclient'
        rw [← Net.after_state_of_ne (i := .client) (by decide) [] party []] at hserver
        rw [← List.append_nil (net.flight .server)] at hs
        exact Stage.established (Nat.add_right_comm 3 _ 1) hclient' hserver
          (ClientTold.yes hconn' rfl) hs
    | server =>
      cases hs with
      | yes _ hnil => exact absurd hflight (Net.not_flight_nil hnil)
      | no hm hkind hone =>
        subst hm
        obtain ⟨rfl, rfl⟩ := Net.eq_of_flight_singleton hone hflight
        obtain ⟨s', m, hserver', hle, rfl⟩ := hserver.told hkind h
        rw [← Net.after_state_self net .server [] party []] at hserver'
        rw [← Net.after_state_of_ne (i := .server) (by decide) [] party []] at hclient
        rw [← List.append_nil (net.flight .client)] at hc
        exact Stage.established rfl hclient hserver' hc (ServerTold.yes hle rfl)

/-! ### No event has to wait -/

/-- With room for everything, a creation whose calls succeed does. -/
theorem CreateOutcomes.Succeed.createSucceeds {config : RdmaParam} {o : CreateOutcomes}
    {c : RdmaContext} (h : o.Succeed) (hroom : Roomy config c) (hid : c.cmId ≠ none) :
    CreateSucceeds config o c := by
  have hshared : SharedOk config o :=
    ⟨⟨h.ibvOpenDevice, h.ibvQueryPort, h.ibvAllocPd⟩, fun _ => h.ibvCreateCompChannel,
      ⟨h.ibvQueryDevice, h.createSendCq⟩, fun _ => h.ibvCreateSrq⟩
  refine ⟨hshared, ?_⟩
  by_cases hunknown : 0 < config.turns ∧ qpTypeOf config.connectionType = none
  · exact Or.inl hunknown
  refine Or.inr ⟨⟨fun hpos hnone => hunknown ⟨hpos, hnone⟩, fun i hi => ?_⟩, fun i hi => ?_⟩
  · exact ⟨h.rdmaCreateQp i, hid, hi.trans_le hroom.1⟩
  · exact ⟨⟨hi.trans_le hroom.2.2, h.memalign i, hi.trans_le hroom.2.1⟩, h.ibvRegMr i⟩

/-- **A party can handle an event** when what it says in a smooth turn can be reported, and it
has room for the resources it is to create. -/
theorem exists_handles {side : Side} {event : CmEvent} {c : RdmaContext}
    (hc : (net.state side).ctx = some c) (hkind : Advances event)
    (hroom : event.event = .routeResolved ∨ event.event = .connectRequest →
      Roomy (config side) c ∧ c.cmId ≠ none)
    (hreports : ∀ c' said, Smooth (config side) event c c' said →
      ∃ es, ReportsAll net side (some event) said es) :
    ∃ party es, Handles config channel net side event party es := by
  obtain ⟨o, ho⟩ : ∃ o : HandlerOutcomes, o.Succeed := ⟨Sample.handler, Sample.handler_succeed⟩
  rcases hrun : turn (config side) (channel side) (net.state side).event ⟨some event, o⟩ (some c)
    with ⟨e | r, s, t⟩
  · obtain ⟨c', t', -, -, hwhere, hstuck⟩ := post_turn_obtained.of_error hrun
    obtain ⟨hroom, hid⟩ := hroom hwhere
    exact absurd (ho.create.createSucceeds hroom hid) hstuck.undecided.2
  · obtain ⟨r', c', t', rfl, rfl, rfl, hran⟩ := post_turn_obtained.of_ok hrun
    obtain ⟨es, hes⟩ := hreports _ _ (hran.smooth ho hkind)
    have hobtain : (obtainActs (channel side) event ++ t').filter Act.speaks =
        t'.filter Act.speaks := rfl
    rw [← hobtain, reportsAll_filter fun _ => Act.speaks_of_asks] at hes
    rw [← hc] at hrun
    exact ⟨_, es, Handles.mk ho hrun hes⟩

/-- A delivery to a party to which one event is on its way. -/
theorem exists_delivers {side : Side} {event : CmEvent} {rest : List CmEvent}
    (hflight : net.flight side = event :: rest)
    (h : ∃ party es, Handles config channel net side event party es) :
    ∃ net', Net.Delivers (Handles config channel) net net' := by
  obtain ⟨party, es, h⟩ := h
  exact ⟨_, Net.Delivers.mk (by rw [hflight]) h⟩

/-- What is said to an event that reports the connection is not reported. -/
theorem exists_handles_established {side : Side} {event : CmEvent} {c : RdmaContext}
    (hc : (net.state side).ctx = some c) (hkind : event.event = .established) :
    ∃ party es, Handles config channel net side event party es := by
  refine exists_handles hc (Or.inr (Or.inr (Or.inr hkind))) (fun hwhere => ?_)
    fun c' said hsmooth => ⟨[], ?_⟩
  · rw [hkind] at hwhere
    rcases hwhere with hk | hk <;> cases hk
  · obtain ⟨-, rfl⟩ := hsmooth.of_established hkind
    refine (reportsAll_iff_of_silent ?_).mpr rfl
    split <;> rfl

/-- The client can handle the resolution of its address. -/
theorem ClientAt.exists_handles_address {id : ℕ} {c : RdmaContext} {event : CmEvent}
    (hclient : ClientAt (config .client) id 1 c (net.state .client))
    (hkind : event.event = .addrResolved) :
    ∃ party es, Handles config channel net .client event party es := by
  refine exists_handles hclient.ctx (Or.inl hkind) (fun hwhere => ?_)
    fun c' said hsmooth => ⟨[(.client, { event with event := .routeResolved })], ?_⟩
  · rw [hkind] at hwhere
    rcases hwhere with hk | hk <;> cases hk
  · obtain ⟨-, rfl⟩ := hsmooth.of_addrResolved hkind
    exact (reportsAll_iff_of_asks rfl).mpr (Reports.routeResolved rfl rfl)

/-- And that of its route: the server may be told on any id but the one it listens on. -/
theorem ClientAt.exists_handles_route {id lid : ℕ} {c s : RdmaContext} {event : CmEvent}
    (hclient : ClientAt (config .client) id 2 c (net.state .client))
    (hserver : ServerAt (config .server) lid 1 0 s (net.state .server))
    (hroom : Roomy (config .client) c) (hkind : event.event = .routeResolved) :
    ∃ party es, Handles config channel net .client event party es := by
  refine exists_handles hclient.ctx (Or.inr (Or.inl hkind))
    (fun _ => ⟨hroom, by rw [hclient.cmId]; exact Option.some_ne_none id⟩)
    fun c' said hsmooth =>
      ⟨[(.server, { event with event := .connectRequest, id := lid + 1 })], ?_⟩
  obtain ⟨-, -, rfl⟩ := hsmooth.of_routeResolved hkind
  refine (reportsAll_iff_of_asks rfl).mpr
    (Reports.connectRequest rfl fun backlog ret hmem => ?_)
  rw [← mem_spoken rfl, hserver.said] at hmem
  simp only [serverScript, List.take_succ_cons, List.take_zero, List.replicate_zero,
    List.append_nil, List.mem_cons, List.not_mem_nil, or_false, Act.rdmaListen.injEq,
    Option.some.injEq] at hmem
  omega

/-- The server can handle the request. -/
theorem ServerAt.exists_handles_request {id lid : ℕ} {c s : RdmaContext} {event : CmEvent}
    (hclient : ClientAt (config .client) id 3 c (net.state .client))
    (hserver : ServerAt (config .server) lid 1 0 s (net.state .server))
    (hroom : Roomy (config .server) s) (hkind : event.event = .connectRequest)
    (hother : event.id ≠ lid) :
    ∃ party es, Handles config channel net .server event party es := by
  refine exists_handles hserver.ctx (Or.inr (Or.inr (Or.inl hkind)))
    (fun _ => ⟨hroom, by rw [hserver.cmId]; exact Option.some_ne_none lid⟩)
    fun c' said hsmooth => ⟨[(.client, { event with event := .established, id := id }),
      (.server, { event with event := .established, id := lid })], ?_⟩
  have hne : s.cmId ≠ some event.id := by
    rw [hserver.cmId]
    exact fun hc => hother (Option.some.inj hc).symm
  obtain ⟨-, rfl⟩ := hsmooth.of_connectRequest hkind hne
  obtain ⟨sin, hsaid⟩ := hclient.said
  have hconnects : Act.rdmaConnect (some id) (connParam (config .client)) 0 ∈
      (net.state .client).history := by
    rw [← mem_spoken rfl, hsaid]
    exact List.mem_cons_of_mem _ (List.mem_cons_of_mem _ List.mem_cons_self)
  exact (reportsAll_iff_of_asks rfl).mpr
    (Reports.established rfl rfl ⟨_, hconnects⟩ (Or.inl hserver.cmId.symm))

/-- **Before the last stage there is a next one.** -/
theorem Stage.exists_delivers (hstage : Stage config n net) (hn : n < 5) :
    ∃ net', Net.Delivers (Handles config channel) net net' := by
  cases hstage with
  | resolving hclient hserver hconn hroom hroom' hc hs hkind =>
    rcases hkind with ⟨-, rfl, hkind, -⟩ | ⟨-, rfl, hkind⟩
    · exact Transport.exists_delivers hc (hclient.exists_handles_address hkind)
    · exact Transport.exists_delivers hc (hclient.exists_handles_route hserver hroom hkind)
  | request _ hclient hserver hconn hroom hkind hid hc hs =>
    exact Transport.exists_delivers hs (hserver.exists_handles_request hclient hroom hkind hid)
  | established hn' hclient hserver hc hs =>
    cases hc with
    | no _ hkind _ hone =>
      exact Transport.exists_delivers hone (exists_handles_established hclient.ctx hkind)
    | yes =>
      cases hs with
      | no _ hkind hone =>
        exact Transport.exists_delivers hone (exists_handles_established hserver.ctx hkind)
      | yes => omega

/-! ### The end -/

/-- **The handshake is half open.** The client takes itself to be connected; the server has
disconnected the id that it listens on; and nobody has said anything else, or torn down. -/
structure HalfOpen (config : Side → RdmaParam) (net : Handshake) : Prop where
  client : ∃ c id, ClientAt (config .client) id 3 c (net.state .client) ∧ c.connected = 1
  server : ∃ s id m, ServerAt (config .server) id 3 m s (net.state .server) ∧ m ≤ 1

/-- At the last stage nothing is on its way, and the handshake is half open. -/
theorem Stage.last (hstage : Stage config n net) :
    n ≤ 5 ∧ (n = 5 → (∀ side, net.flight side = []) ∧ HalfOpen config net) := by
  cases hstage with
  | resolving hclient hserver hconn hroom hroom' hc hs hkind => omega
  | request hn => omega
  | established hn hclient hserver hc hs =>
    cases hc with
    | no => cases hs <;> omega
    | yes hconn hnil =>
      cases hs with
      | no => omega
      | yes hm hnil' =>
        refine ⟨by omega, fun _ => ⟨fun side => ?_, ⟨_, _, hclient, hconn⟩,
          ⟨_, _, _, hserver, hm⟩⟩⟩
        cases side with
        | client => exact hnil
        | server => exact hnil'

/-- **How the handshake ends.** In whatever order the events are delivered after two successful
starts, and though every call succeeds: there are at most five deliveries, before the fifth
another one can always be made, and after the fifth nothing is on its way any more and the
handshake is half open. -/
theorem ends_halfOpen (hlaunched : Launched config start net)
    (hreach : Net.ReachesIn (Handles config channel) net n net') :
    n ≤ 5 ∧ (n < 5 → ∃ net'', Net.Delivers (Handles config channel) net' net'') ∧
      (n = 5 → (∀ side, net'.flight side = []) ∧ HalfOpen config net') := by
  have hstage : Stage config n net' := hreach.stage (Stage config) hlaunched.stage
    fun _ _ _ _ _ _ _ hstage hflight h => hstage.step hflight h
  exact ⟨hstage.last.1, hstage.exists_delivers, hstage.last.2⟩

end Deliveries

/-! ### The concrete handshake, to its end -/

namespace Sample

/-- The client is told that the connection is established. -/
def clientTold : Handshake := delivered requested .client (event .established 11) []

/-- So is the server. -/
def bothTold : Handshake := delivered clientTold .server (event .established 70) []

/-- **One more delivery** in the sample. -/
theorem reachesIn_succ {n : ℕ} {net : Handshake} {side : Side} {e : CmEvent}
    {sent : List (Side × CmEvent)}
    (hreach : Net.ReachesIn (Handles (fun _ => config) fun _ => some 10) launch n net)
    (hflight : net.flight side = [e])
    (hout : (turned (net.state side) e).out = .ok (some (some e)))
    (hreports : ReportsAll net side (some e) (turned (net.state side) e).trace sent) :
    Net.ReachesIn (Handles (fun _ => config) fun _ => some 10) launch (n + 1)
      (delivered net side e sent) := by
  refine hreach.succ (Net.Delivers.mk (by rw [hflight]) (Handles.mk handler_succeed ?_ hreports))
  change turned (net.state side) e = _
  rw [← hout]

theorem reachesIn_bothTold :
    Net.ReachesIn (Handles (fun _ => config) fun _ => some 10) launch 5 bothTold := by
  have hfresh : ∀ backlog ret,
      Act.rdmaListen (some 70) backlog ret ∉ (resolved.state .server).history := by
    intro backlog ret hmem
    have hall : (resolved.state .server).history.all (fun
        | .rdmaListen id .. => id == some 11
        | _ => true) = true := rfl
    exact absurd (List.all_eq_true.mp hall _ hmem) Bool.false_ne_true
  have hconnects : Act.rdmaConnect (some 11) (connParam config) 0 ∈
      (connecting.state .client).history := by decide
  have hresolved : Net.ReachesIn (Handles (fun _ => config) fun _ => some 10) launch 1
      resolved := by
    have hreport : Reports launch .client (some (event .addrResolved 11))
        (.rdmaResolveRoute 11 2000 0) [(.client, event .routeResolved 11)] :=
      Reports.routeResolved rfl rfl
    exact reachesIn_succ Net.ReachesIn.zero rfl rfl ((reportsAll_iff_of_asks rfl).mpr hreport)
  have hconnecting : Net.ReachesIn (Handles (fun _ => config) fun _ => some 10) launch 2
      connecting := by
    have hreport : Reports resolved .client (some (event .routeResolved 11))
        (.rdmaConnect (some 11) (connParam config) 0) [(.server, event .connectRequest 70)] :=
      Reports.connectRequest rfl hfresh
    exact reachesIn_succ hresolved rfl rfl ((reportsAll_iff_of_asks rfl).mpr hreport)
  have hrequested : Net.ReachesIn (Handles (fun _ => config) fun _ => some 10) launch 3
      requested := by
    have hreport : Reports connecting .server (some (event .connectRequest 70))
        (.rdmaAccept (some 11) (connParam config) 0)
        [(.client, event .established 11), (.server, event .established 70)] :=
      Reports.established rfl rfl ⟨_, hconnects⟩ (Or.inr ⟨_, rfl, rfl⟩)
    exact reachesIn_succ hconnecting rfl rfl ((reportsAll_iff_of_asks rfl).mpr hreport)
  have hclientTold : Net.ReachesIn (Handles (fun _ => config) fun _ => some 10) launch 4
      clientTold := reachesIn_succ hrequested rfl rfl ((reportsAll_iff_of_silent rfl).mpr rfl)
  exact reachesIn_succ hclientTold rfl rfl ((reportsAll_iff_of_silent rfl).mpr rfl)

end Sample

/-- In the sample, after its five deliveries. -/
theorem ends_halfOpen_sample :
    (∀ side, Sample.bothTold.flight side = []) ∧
      HalfOpen (fun _ => Sample.config) Sample.bothTold :=
  (ends_halfOpen Sample.launched Sample.reachesIn_bothTold).2.2 rfl

end Transport
