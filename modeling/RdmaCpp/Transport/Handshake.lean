import RdmaCpp.Lib.Network
import RdmaCpp.Transport.Handled

/-!
# The handshake of two parties

One client and one server, each in its event loop, and the connection manager between
them: it answers the calls of a party with events, of which any may be delivered next.
The client resolves its address and its route and connects; the server, listening, is
told of a `CONNECT_REQUEST` on a *new* id, creates its resources and accepts.

The handlers of the server work on `rdma_ctx->cm_id`, and that is the listening id to the
end: nothing ever stores the id of the request. So the connection check that the server
runs after `rdma_accept` compares two different ids and disconnects. A run goes well
exactly as long as the server has handled no request
(`Transport.agreed_iff_not_requested`), however the deliveries are interleaved.
-/

namespace Transport

/-! ### Calls that succeed -/

/-- Every call of `fs_rdma_create_resources` succeeds. -/
structure CreateOutcomes.Succeed (o : CreateOutcomes) : Prop where
  ibvGetDeviceList : o.ibvGetDeviceList ≠ none
  ibvOpenDevice : o.ibvOpenDevice ≠ none
  ibvQueryPort : o.ibvQueryPort = 0
  ibvAllocPd : o.ibvAllocPd ≠ none
  ibvCreateCompChannel : o.ibvCreateCompChannel ≠ none
  ibvQueryDevice : o.ibvQueryDevice = 0
  createSendCq : o.createSendCq ≠ none
  createRecvCq : o.createRecvCq ≠ none
  ibvCreateSrq : o.ibvCreateSrq ≠ none
  rdmaCreateQp : ∀ i, o.rdmaCreateQp i ≠ none
  memalign : ∀ i, o.memalign i ≠ none
  ibvRegMr : ∀ i, o.ibvRegMr i ≠ none

/-- Every call of the handlers succeeds. -/
structure HandlerOutcomes.Succeed (o : HandlerOutcomes) : Prop where
  rdmaResolveRoute : o.rdmaResolveRoute = 0
  create : o.create.Succeed
  rdmaConnect : o.rdmaConnect = 0
  rdmaAccept : o.rdmaAccept = 0

/-- Every call of a start succeeds. -/
def Start.Succeed (start : Start) : Prop :=
  start.ctx.malloc ≠ none ∧ CtxMade start.ctx ∧ match start with
    | .connect _ _ o =>
      o.getaddrinfo.ret = 0 ∧ o.getaddrinfo.res ≠ none ∧ o.rdmaResolveAddr = 0
    | .listen _ _ _ o =>
      o.getaddrinfo.ret = 0 ∧ o.getaddrinfo.res ≠ none ∧ o.rdmaBindAddr = 0 ∧ o.rdmaListen = 0

/-- A creation all of whose calls succeed does not fail. -/
theorem CreateOutcomes.Succeed.not_createFails {config : RdmaParam} {o : CreateOutcomes}
    {c : RdmaContext} (h : o.Succeed) : ¬CreateFails config o c := by
  rintro (hno | ⟨-, i, -, -, hqp⟩ | ⟨-, i, -, -, -, hmr⟩)
  · exact hno ⟨⟨h.ibvOpenDevice, h.ibvQueryPort, h.ibvAllocPd⟩, fun _ => h.ibvCreateCompChannel,
      ⟨h.ibvQueryDevice, h.createSendCq⟩, fun _ => h.ibvCreateSrq⟩
  · exact h.rdmaCreateQp i hqp
  · exact h.ibvRegMr i hmr

/-! ### The system -/

/-- The two parties. -/
inductive Side
  | client
  | server
  deriving DecidableEq

/-- A party between two turns of its event loop. -/
structure Party where
  /-- What `rdma_ctx` leads to. -/
  ctx : Option RdmaContext
  /-- The variable `event` of the loop. -/
  event : Option CmEvent
  /-- What it has done so far. -/
  history : List Act

/-- **The two parties, and the events on their way to them.** -/
abbrev Handshake : Type := Net Side Party CmEvent

/-- The calls that the connection manager answers with an event. -/
def Act.asks : Act → Bool
  | .rdmaResolveAddr .. | .rdmaResolveRoute .. | .rdmaConnect .. | .rdmaAccept .. => true
  | _ => false

/-- **What the connection manager reports for a call** of a party, made while it handles an
event. A resolution is reported on the id it was asked for. A connection attempt is
reported to the server as a request on an id that it does not listen on. When it is
accepted, both sides are told that it is established: the client on the id it connected,
the server on the id of the request or the one it gave to `rdma_accept`. -/
inductive Reports (net : Handshake) (side : Side) (handled : Option CmEvent) :
    Act → List (Side × CmEvent) → Prop
  | silent {a : Act} (h : a.asks = false) : Reports net side handled a []
  | addrResolved {id : ℕ} {sin : SockAddr} {timeout : ℕ} {e : CmEvent}
      (h : e.event = .addrResolved) (hid : e.id = id) :
      Reports net side handled (.rdmaResolveAddr (some id) sin timeout 0) [(side, e)]
  | routeResolved {id timeout : ℕ} {e : CmEvent} (h : e.event = .routeResolved)
      (hid : e.id = id) :
      Reports net side handled (.rdmaResolveRoute id timeout 0) [(side, e)]
  | connectRequest {id : Ptr} {param : ConnParam} {e : CmEvent} (h : e.event = .connectRequest)
      (hfresh : ∀ backlog ret,
        .rdmaListen (some e.id) backlog ret ∉ (net.state .server).history) :
      Reports net side handled (.rdmaConnect id param 0) [(.server, e)]
  | established {id : Ptr} {param : ConnParam} {e e' : CmEvent} (h : e.event = .established)
      (h' : e'.event = .established)
      (hid : ∃ param', .rdmaConnect (some e.id) param' 0 ∈ (net.state .client).history)
      (hid' : some e'.id = id ∨ ∃ request, handled = some request ∧ e'.id = request.id) :
      Reports net side handled (.rdmaAccept id param 0) [(.client, e), (.server, e')]

/-- What it reports for a sequence of calls. -/
inductive ReportsAll (net : Handshake) (side : Side) (handled : Option CmEvent) :
    List Act → List (Side × CmEvent) → Prop
  | nil : ReportsAll net side handled [] []
  | cons {a : Act} {t : List Act} {es es' : List (Side × CmEvent)}
      (h : Reports net side handled a es) (ht : ReportsAll net side handled t es') :
      ReportsAll net side handled (a :: t) (es ++ es')

/-- **A party handles an event**: one turn of its event loop, in which every call
succeeds. -/
inductive Handles (config : Side → RdmaParam) (channel : Side → Ptr) (net : Handshake)
    (side : Side) (event : CmEvent) : Party → List (Side × CmEvent) → Prop
  | mk {o : HandlerOutcomes} {r : Option CmEvent} {s : Option RdmaContext} {t : List Act}
      {es : List (Side × CmEvent)} (ho : o.Succeed)
      (hturn : turn (config side) (channel side) (net.state side).event ⟨some event, o⟩
        (net.state side).ctx = ⟨.ok (some r), s, t⟩)
      (hreports : ReportsAll net side (some event) t es) :
      Handles config channel net side event ⟨s, r, (net.state side).history ++ t⟩ es

/-- **The network after both starts**: a client that has run `fs_rdma_connect` and a server
that has run `fs_rdma_create_ctx` and `fs_rdma_listen`, every call of which succeeded,
with the flag `0` in both blocks. -/
structure Launched (config : Side → RdmaParam) (start : Side → Start) (net : Handshake) :
    Prop where
  connects : ∃ ipAddr port o, start .client = .connect ipAddr port o
  listens : ∃ ipAddr port ctx o, start .server = .listen ipAddr port ctx o
  succeed : ∀ side, (start side).Succeed
  unconnected : ∀ side c, (start side).ctx.malloc = some c → c.connected = 0
  ran : ∀ side, (start side).code (config side) none =
    ⟨.ok (), (net.state side).ctx, (net.state side).history⟩
  event : ∀ side, (net.state side).event = none
  flight : ∀ side, ∃ es, ReportsAll net side none (net.state side).history es ∧
    net.flight side = es.map Prod.snd

/-! ### What is asked of the handshake -/

/-- The calls by which a party gives a connection up. -/
def Act.givesUp : Act → Bool
  | .rdmaDisconnect _ | .enter .teardown => true
  | _ => false

/-- **The handshake goes well**: no party disconnects or tears down, and one that has handled
its `ESTABLISHED` event is connected, on the id of that event. -/
structure Agreed (net : Handshake) : Prop where
  calm : ∀ side, ∀ a ∈ (net.state side).history, a.givesUp = false
  connected : ∀ side e, e.event = .established →
    .rdmaAckCmEvent e ∈ (net.state side).history →
    ∃ c, (net.state side).ctx = some c ∧ c.connected = 1 ∧ c.cmId = some e.id

/-- The server has handled a connection request. -/
def Requested (net : Handshake) : Prop :=
  ∃ e, e.event = .connectRequest ∧ .rdmaAckCmEvent e ∈ (net.state .server).history

/-! ### What is reported -/

variable {net : Handshake} {side : Side} {handled : Option CmEvent} {t : List Act}
  {es : List (Side × CmEvent)}

/-- Every event reported is reported for one of the calls. -/
theorem ReportsAll.mem (h : ReportsAll net side handled t es) {x : Side × CmEvent} (hx : x ∈ es) :
    ∃ a ∈ t, ∃ es', Reports net side handled a es' ∧ x ∈ es' := by
  induction h with
  | nil => exact absurd hx List.not_mem_nil
  | @cons a t es es' h _ ih =>
    rcases List.mem_append.mp hx with hx | hx
    · exact ⟨a, List.mem_cons_self, es, h, hx⟩
    · obtain ⟨b, hb, hrest⟩ := ih hx
      exact ⟨b, List.mem_cons_of_mem a hb, hrest⟩

theorem Reports.all {a : Act} (h : Reports net side handled a es) :
    ReportsAll net side handled [a] es := by
  have hall := ReportsAll.cons h ReportsAll.nil
  rwa [List.append_nil] at hall

/-- Only the calls that are answered matter. -/
theorem reportsAll_of_filter (h : ReportsAll net side handled (t.filter Act.asks) es) :
    ReportsAll net side handled t es := by
  induction t generalizing es with
  | nil => exact h
  | cons a t ih =>
    by_cases hasks : a.asks = true
    · rw [List.filter_cons_of_pos hasks] at h
      cases h with
      | cons ha ht => exact ReportsAll.cons ha (ih ht)
    · rw [List.filter_cons_of_neg hasks] at h
      have hsilent : Reports net side handled a [] :=
        Reports.silent (Bool.eq_false_iff.mpr hasks)
      exact ReportsAll.cons hsilent (ih h)

/-- **Where a reported event comes from**: it is one of four kinds, and each has its
call. -/
theorem ReportsAll.cases (h : ReportsAll net side handled t es) {side' : Side} {e : CmEvent}
    (hx : (side', e) ∈ es) : ∃ a ∈ t, a.asks = true ∧
      ((∃ id sin timeout, a = .rdmaResolveAddr id sin timeout 0) ∧ side' = side ∧
          e.event = .addrResolved ∨
        (∃ id timeout, a = .rdmaResolveRoute id timeout 0) ∧ side' = side ∧
          e.event = .routeResolved ∨
        (∃ id param, a = .rdmaConnect id param 0) ∧ side' = .server ∧ e.event = .connectRequest ∧
          (∀ backlog ret, .rdmaListen (some e.id) backlog ret ∉ (net.state .server).history) ∨
        ∃ id param, a = .rdmaAccept id param 0) := by
  obtain ⟨a, ha, es', hrep, hx'⟩ := h.mem hx
  refine ⟨a, ha, ?_⟩
  cases hrep with
  | silent => exact absurd hx' List.not_mem_nil
  | addrResolved hkind =>
    obtain ⟨rfl, rfl⟩ := Prod.mk.inj (List.mem_singleton.mp hx')
    exact ⟨rfl, Or.inl ⟨⟨_, _, _, rfl⟩, rfl, hkind⟩⟩
  | routeResolved hkind =>
    obtain ⟨rfl, rfl⟩ := Prod.mk.inj (List.mem_singleton.mp hx')
    exact ⟨rfl, Or.inr (Or.inl ⟨⟨_, _, rfl⟩, rfl, hkind⟩)⟩
  | connectRequest hkind hfresh =>
    obtain ⟨rfl, rfl⟩ := Prod.mk.inj (List.mem_singleton.mp hx')
    exact ⟨rfl, Or.inr (Or.inr (Or.inl ⟨⟨_, _, rfl⟩, rfl, hkind, hfresh⟩))⟩
  | established => exact ⟨rfl, Or.inr (Or.inr (Or.inr ⟨_, _, rfl⟩))⟩

/-! ### What the turns do -/

section Turns

variable {config : RdmaParam} {o : HandlerOutcomes} {event : CmEvent} {c c' : RdmaContext}
  {r : Option CmEvent}

/-- The actions that neither give up, nor ask the connection manager, nor acknowledge an
event. -/
def Act.isBland : Act → Bool
  | .rdmaDisconnect _ | .enter .teardown | .rdmaResolveAddr .. | .rdmaResolveRoute ..
  | .rdmaConnect .. | .rdmaAccept .. | .rdmaAckCmEvent _ => false
  | _ => true

theorem Act.isBland_of_isResource {a : Act} (h : a.isResource = true) : a.isBland = true := by
  cases a <;> first | rfl | exact absurd h Bool.false_ne_true

theorem Act.givesUp_of_isBland {a : Act} (h : a.isBland = true) : a.givesUp = false := by
  cases a with
  | rdmaDisconnect id => exact absurd h Bool.false_ne_true
  | enter f =>
    cases f with
    | createResources => rfl
    | teardown => exact absurd h Bool.false_ne_true
  | _ => rfl

/-- A creation does nothing that matters to the connection. -/
theorem CreateRan.bland {o : CreateOutcomes} {ret : ℤ} (h : CreateRan config o c ret c' t) :
    t.all Act.isBland = true := by
  obtain ⟨⟨t', rfl, hall⟩, -⟩ := h.frame
  rw [List.all_cons, List.all_append, all_mono (fun _ => Act.isBland_of_isResource) hall]
  rfl

/-- **What the client does for its events**: nothing that gives up, and at most one call
that is answered. -/
theorem Handled.client_acts (h : Handled config o event c r c' t) (ho : o.Succeed)
    (hkind : event.event = .addrResolved ∨ event.event = .routeResolved) :
    ∀ a ∈ t, a.isBland = true ∨ a = .rdmaAckCmEvent event ∨
      (∃ id timeout ret, a = .rdmaResolveRoute id timeout ret) ∨
      ∃ id param ret, a = .rdmaConnect id param ret := by
  have hno : ∀ {k : CmEventType}, event.event = k → k = .addrResolved ∨ k = .routeResolved := by
    rintro k rfl
    exact hkind
  cases h with
  | other h =>
    rcases hkind with hk | hk <;> rw [hk] at h <;> cases h
  | resolved h hret =>
    intro a ha
    simp only [resolveActs, List.cons_append, List.nil_append, List.mem_cons, List.not_mem_nil,
      or_false] at ha
    rcases ha with rfl | rfl | rfl | rfl
    · exact Or.inl rfl
    · exact Or.inl rfl
    · exact Or.inr (Or.inr (Or.inl ⟨_, _, _, rfl⟩))
    · exact Or.inr (Or.inl rfl)
  | unresolved h hret => exact absurd ho.rdmaResolveRoute hret
  | uncreated h hran hret => exact absurd (hran.fails hret) ho.create.not_createFails
  | unconnected h hran hret => exact absurd ho.rdmaConnect hret
  | connecting h hran hret =>
    intro a ha
    rcases List.mem_cons.mp ha with rfl | ha
    · exact Or.inl rfl
    rcases List.mem_append.mp ha with ha | ha
    · exact Or.inl (List.all_eq_true.mp hran.bland a ha)
    simp only [List.mem_cons, List.not_mem_nil, or_false] at ha
    rcases ha with rfl | rfl
    · exact Or.inr (Or.inr (Or.inr ⟨_, _, _, rfl⟩))
    · exact Or.inr (Or.inl rfl)
  | unaccepted h | accepted h => rcases hno h with hc | hc <;> cases hc
  | established h => rcases hno h with hc | hc <;> cases hc
  | error h => rcases hkind with hk | hk <;> rw [hk] at h <;> cases h
  | disconnected h => rcases hno h with hc | hc <;> cases hc

/-- A teardown gives up. -/
theorem givesUp_teardownActs (config : RdmaParam) (c : RdmaContext) :
    ∃ a ∈ teardownActs config c, a.givesUp = true := ⟨_, List.mem_cons_self, rfl⟩

/-- **What the server does for a request** on an id that is not its own: it acknowledges the
event, and it gives up. -/
theorem Handled.server_acts (h : Handled config o event c r c' t)
    (hkind : event.event = .connectRequest) (hid : c.cmId ≠ some event.id) :
    .rdmaAckCmEvent event ∈ t ∧ ∃ a ∈ t, a.givesUp = true := by
  have hno : ∀ {k : CmEventType}, event.event = k → k = .connectRequest := by
    rintro k rfl
    exact hkind
  cases h with
  | other h => rw [hkind] at h; cases h
  | resolved h | unresolved h => cases hno h
  | uncreated h hran =>
    obtain ⟨a, ha, hup⟩ := givesUp_teardownActs config _
    refine ⟨?_, a, ?_, hup⟩
    · simp only [List.mem_cons, List.mem_append, true_or, or_true]
    · exact List.mem_cons_of_mem _ (List.mem_append_right _ (List.mem_append_left _ ha))
  | unconnected h | connecting h => cases hno h
  | unaccepted h hran =>
    obtain ⟨a, ha, hup⟩ := givesUp_teardownActs config _
    refine ⟨?_, a, ?_, hup⟩
    · simp only [List.mem_cons, List.mem_append, true_or, or_true]
    · exact List.mem_cons_of_mem _ (List.mem_append_right _
        (List.mem_cons_of_mem _ (List.mem_append_left _ ha)))
  | @accepted c₁ t₁ h hran =>
    -- the check compares the id of the request with the one the server listens on
    have hinit : ¬Initiates event c₁ := by
      rintro ⟨-, heq⟩
      rw [hran.frame.2.1] at heq
      exact hid heq.symm
    refine ⟨?_, .rdmaDisconnect c₁.cmId, ?_, rfl⟩
    · simp only [List.mem_cons, List.mem_append, true_or, or_true]
    · rw [initActs, if_neg hinit]
      simp only [List.mem_cons, List.mem_append, true_or, or_true]
  | established h => cases hno h
  | error h => rw [hkind] at h; cases h
  | disconnected h => cases hno h

end Turns

/-! ### The invariant -/

/-- **Before the server has handled a request**: nobody has given up or handled anything but
resolutions, only these are on their way to the client and only requests on other ids to the
server, which listens on its id. -/
structure BeforeRequest (net : Handshake) : Prop where
  client : ∃ c, (net.state .client).ctx = some c
  clientHistory : ∀ a ∈ (net.state .client).history, a.givesUp = false ∧
    ∀ e, a = .rdmaAckCmEvent e → e.event = .addrResolved ∨ e.event = .routeResolved
  clientFlight : ∀ e ∈ net.flight .client, e.event = .addrResolved ∨ e.event = .routeResolved
  server : ∃ c backlog ret, (net.state .server).ctx = some c ∧
    .rdmaListen c.cmId backlog ret ∈ (net.state .server).history
  serverHistory : ∀ a ∈ (net.state .server).history, a.givesUp = false ∧
    ∀ e, a ≠ .rdmaAckCmEvent e
  serverFlight : ∀ e ∈ net.flight .server, e.event = .connectRequest ∧
    ∀ backlog ret, .rdmaListen (some e.id) backlog ret ∉ (net.state .server).history

/-- **After it has**: it has given up. -/
def GivenUp (net : Handshake) : Prop :=
  Requested net ∧ ∃ a ∈ (net.state .server).history, a.givesUp = true

theorem BeforeRequest.not_requested (h : BeforeRequest net) : ¬Requested net := by
  rintro ⟨e, -, hmem⟩
  exact (h.serverHistory _ hmem).2 e rfl

theorem BeforeRequest.agreed (h : BeforeRequest net) : Agreed net := by
  refine ⟨fun side a ha => ?_, fun side e hkind hmem => ?_⟩
  · cases side with
    | client => exact (h.clientHistory a ha).1
    | server => exact (h.serverHistory a ha).1
  · cases side with
    | client =>
      rcases (h.clientHistory _ hmem).2 e rfl with hk | hk <;> rw [hk] at hkind <;> cases hkind
    | server => exact absurd rfl ((h.serverHistory _ hmem).2 e)

theorem GivenUp.not_agreed (h : GivenUp net) : ¬Agreed net := by
  obtain ⟨-, a, ha, hup⟩ := h
  intro hagreed
  rw [hagreed.calm .server a ha] at hup
  cases hup

/-! ### The start -/

/-- A start that succeeds leaves a context, and has used its connection id. -/
theorem Started.of_succeed {config : RdmaParam} {start : Start} {s : Option RdmaContext}
    (h : Started config start s t) (hsucceed : start.Succeed) :
    ∃ c, s = some c ∧ ∀ a ∈ start.useActs config c.cmId, a ∈ t := by
  cases h with
  | null hran =>
    cases hran with
    | unallocated hnone => exact absurd hnone hsucceed.1
  | @context c t hran =>
    refine ⟨c, rfl, fun a ha => ?_⟩
    exact List.mem_append_right t (List.mem_append_right _ ha)

/-- A call of a start that is answered asks for an address. -/
theorem Act.resolveAddr_of_isStarting {a : Act} (h : a.isStarting = true) (hasks : a.asks = true) :
    ∃ id sin timeout ret, a = .rdmaResolveAddr id sin timeout ret := by
  cases a <;> first
    | exact ⟨_, _, _, _, rfl⟩
    | exact absurd hasks Bool.false_ne_true
    | exact absurd h Bool.false_ne_true

/-- The calls of a start neither give up nor acknowledge. -/
theorem Act.calm_of_isStarting {a : Act} (h : a.isStarting = true) :
    a.givesUp = false ∧ ∀ e, a ≠ .rdmaAckCmEvent e := by
  cases a <;> first
    | exact ⟨rfl, fun e he => Act.noConfusion he⟩
    | exact absurd h Bool.false_ne_true

/-- A start that listens asks for nothing. -/
theorem Started.silent_of_listen {config : RdmaParam} {ipAddr : Option String} {port : ℤ}
    {ctx : CtxOutcomes} {o : ListenOutcomes} {s : Option RdmaContext}
    (h : Started config (.listen ipAddr port ctx o) s t) : ∀ a ∈ t, a.asks = false := by
  have hctx : ∀ {s' : Option RdmaContext} {t' : List Act}, CtxRan config ctx s' t' →
      ∀ a ∈ t', a.asks = false := by
    intro s' t' hran a ha
    have hid : ∀ b ∈ idActs config ctx, b.asks = false := by
      intro b hb
      simp only [idActs, List.mem_cons, List.not_mem_nil, or_false] at hb
      rcases hb with rfl | rfl | rfl <;> rfl
    have harrays : ∀ b ∈ arraysActs config ctx, b.asks = false := by
      intro b hb
      simp only [arraysActs, List.mem_cons, List.not_mem_nil, or_false] at hb
      rcases hb with rfl | rfl | rfl <;> rfl
    cases hran with
    | unallocated => rw [List.mem_singleton.mp ha]; rfl
    | unmade _ _ hpre => exact hid a (hpre.subset ha)
    | made => exact (List.mem_append.mp ha).elim (hid a) (harrays a)
  -- nor do the looks at the address, and the calls made with it
  have hlookup : ∀ a ∈ Start.lookupActs (.listen ipAddr port ctx o), a.asks = false := by
    intro a ha
    rcases List.mem_cons.mp ha with rfl | ha
    · rfl
    · obtain ⟨addr, -, rfl⟩ := List.mem_map.mp ha
      rfl
  have huses : ∀ id, ∀ a ∈ Start.useActs config (.listen ipAddr port ctx o) id,
      a.asks = false := by
    intro id a ha
    obtain ⟨addr, -, ha⟩ := List.mem_flatMap.mp ha
    rcases List.mem_cons.mp ha with rfl | ha
    · rfl
    split at ha
    · exact absurd ha List.not_mem_nil
    · rw [List.mem_singleton.mp ha]
      rfl
  intro a ha
  cases h with
  | null hran hpre =>
    exact (List.mem_append.mp ha).elim (hctx hran a) fun ha => hlookup a (hpre.subset ha)
  | context hran =>
    rcases List.mem_append.mp ha with ha | ha
    · exact hctx hran a ha
    · exact (List.mem_append.mp ha).elim (hlookup a) (huses _ a)

section Deliveries

variable {config : Side → RdmaParam} {channel : Side → Ptr} {start : Side → Start}

/-- A server that has listened listens on its id. -/
theorem Launched.listening (h : Launched config start net) :
    ∃ c backlog ret, (net.state .server).ctx = some c ∧
      .rdmaListen c.cmId backlog ret ∈ (net.state .server).history := by
  obtain ⟨ipAddr, port, ctx, o, hlisten⟩ := h.listens
  have hstarted : Started _ _ _ _ := (post_start _ _).of_ok (h.ran .server)
  obtain ⟨c, hc, huses⟩ := hstarted.of_succeed (h.succeed .server)
  have hsucceed := h.succeed .server
  rw [hlisten] at huses hsucceed
  obtain ⟨-, -, hret, hres, hbind, -⟩ := hsucceed
  obtain ⟨addr, haddr⟩ := Option.ne_none_iff_exists'.mp hres
  refine ⟨c, 0, o.rdmaListen, hc, huses _ ?_⟩
  have hfound : Start.found (.listen ipAddr port ctx o) = some addr := by
    rw [Start.found, hret, if_neg (Int.lt_irrefl 0), haddr]
  simp only [Start.useActs, hfound, Option.toList_some, List.flatMap_cons, List.flatMap_nil,
    List.append_nil, Start.uses, hbind, ne_eq, not_true_eq_false, if_false, List.mem_cons,
    List.not_mem_nil, or_false, or_true]

/-- **After the starts**, nothing has been requested. -/
theorem Launched.beforeRequest (h : Launched config start net) : BeforeRequest net := by
  have hstarted : ∀ side, Started (config side) (start side) (net.state side).ctx
      (net.state side).history := fun side => (post_start _ _).of_ok (h.ran side)
  have hcalls : ∀ side, ∀ a ∈ (net.state side).history, a.isStarting = true := fun side =>
    List.all_eq_true.mp (hstarted side).all_isStarting
  refine ⟨?_, fun a ha => ?_, fun e he => ?_, h.listening, fun a ha => ?_, fun e he => ?_⟩
  · obtain ⟨c, hc, -⟩ := (hstarted .client).of_succeed (h.succeed .client)
    exact ⟨c, hc⟩
  · obtain ⟨hcalm, hack⟩ := Act.calm_of_isStarting (hcalls .client a ha)
    exact ⟨hcalm, fun e he => absurd he (hack e)⟩
  · obtain ⟨es, hreports, hes⟩ := h.flight .client
    rw [hes] at he
    obtain ⟨⟨side, e⟩, hx, rfl⟩ := List.mem_map.mp he
    obtain ⟨a, ha, hasks, hkind⟩ := hreports.cases hx
    obtain ⟨id, sin, timeout, ret, rfl⟩ :=
      Act.resolveAddr_of_isStarting (hcalls .client a ha) hasks
    rcases hkind with ⟨-, -, hk⟩ | ⟨⟨_, _, hc⟩, -⟩ | ⟨⟨_, _, hc⟩, -⟩ | ⟨_, _, hc⟩
    · exact Or.inl hk
    · cases hc
    · cases hc
    · cases hc
  · exact Act.calm_of_isStarting (hcalls .server a ha)
  · obtain ⟨ipAddr, port, ctx, o, hlisten⟩ := h.listens
    have hserver := hstarted .server
    rw [hlisten] at hserver
    obtain ⟨es, hreports, hes⟩ := h.flight .server
    rw [hes] at he
    obtain ⟨⟨side, e⟩, hx, rfl⟩ := List.mem_map.mp he
    obtain ⟨a, ha, hasks, -⟩ := hreports.cases hx
    rw [hserver.silent_of_listen a ha] at hasks
    cases hasks

/-! ### The deliveries -/

/-- What a party does in a turn. -/
theorem Handles.inv {event : CmEvent} {party : Party} {c : RdmaContext}
    (h : Handles config channel net side event party es) (hc : (net.state side).ctx = some c) :
    ∃ o t c', o.Succeed ∧ party.ctx = some c' ∧
      party.history = (net.state side).history ++ (obtainActs (channel side) event ++ t) ∧
      Handled (config side) o event c party.event c' t ∧
      ReportsAll net side (some event) (obtainActs (channel side) event ++ t) es := by
  obtain ⟨ho, hturn, hreports⟩ := h
  rw [hc] at hturn
  obtain ⟨r, c', t, hr, rfl, rfl, hran⟩ := post_turn_obtained.of_ok hturn
  obtain rfl := Option.some.inj hr
  exact ⟨_, t, c', ho, rfl, rfl, hran, hreports⟩

/-- Obtaining an event is bland. -/
theorem bland_of_mem_obtainActs {channel : Ptr} {event : CmEvent} {a : Act}
    (ha : a ∈ obtainActs channel event) : a.isBland = true := by
  simp only [obtainActs, List.mem_cons, List.not_mem_nil, or_false] at ha
  rcases ha with rfl | rfl <;> rfl

/-- **The client takes an event** before the request. -/
theorem BeforeRequest.client_step {event : CmEvent} {rest : List CmEvent} {party : Party}
    (hI : BeforeRequest net) (hflight : (net.flight .client).Perm (event :: rest))
    (h : Handles config channel net .client event party es) :
    BeforeRequest (net.after .client rest party es) := by
  obtain ⟨c, hc⟩ := hI.client
  obtain ⟨o, t, c', ho, hctx, hhistory, hran, hreports⟩ := h.inv hc
  have hevent := hI.clientFlight event (hflight.symm.subset List.mem_cons_self)
  have hacts : ∀ a ∈ obtainActs (channel .client) event ++ t, a.isBland = true ∨
      a = .rdmaAckCmEvent event ∨ (∃ id timeout ret, a = .rdmaResolveRoute id timeout ret) ∨
      ∃ id param ret, a = .rdmaConnect id param ret := by
    intro a ha
    rcases List.mem_append.mp ha with ha | ha
    · exact Or.inl (bland_of_mem_obtainActs ha)
    · exact hran.client_acts ho hevent a ha
  -- what is reported: resolutions to the client, requests to the server
  have hsent : ∀ side' e, (side', e) ∈ es →
      side' = .client ∧ (e.event = .addrResolved ∨ e.event = .routeResolved) ∨
      side' = .server ∧ e.event = .connectRequest ∧
        ∀ backlog ret, .rdmaListen (some e.id) backlog ret ∉ (net.state .server).history := by
    intro side' e he
    obtain ⟨a, ha, hasks, hkind⟩ := hreports.cases he
    rcases hkind with ⟨-, hside, hk⟩ | ⟨-, hside, hk⟩ | ⟨-, hside, hk⟩ | ⟨id, param, rfl⟩
    · exact Or.inl ⟨hside, Or.inl hk⟩
    · exact Or.inl ⟨hside, Or.inr hk⟩
    · exact Or.inr ⟨hside, hk⟩
    · rcases hacts _ ha with hbland | hc | ⟨_, _, _, hc⟩ | ⟨_, _, _, hc⟩
      · cases hbland
      · cases hc
      · cases hc
      · cases hc
  -- the server has not moved
  have hserver : (net.after .client rest party es).state .server = net.state .server :=
    Net.after_state_of_ne (by decide) rest party es
  refine ⟨?_, fun a ha => ?_, fun e he => ?_, ?_, ?_, fun e he => ?_⟩
  · rw [Net.after_state_self]
    exact ⟨c', hctx⟩
  · rw [Net.after_state_self, hhistory] at ha
    rcases List.mem_append.mp ha with ha | ha
    · exact hI.clientHistory a ha
    rcases hacts a ha with hbland | rfl | ⟨_, _, _, rfl⟩ | ⟨_, _, _, rfl⟩
    · refine ⟨Act.givesUp_of_isBland hbland, ?_⟩
      rintro e rfl
      cases hbland
    · refine ⟨rfl, fun e he => ?_⟩
      obtain rfl := Act.rdmaAckCmEvent.inj he
      exact hevent
    · exact ⟨rfl, fun e he => Act.noConfusion he⟩
    · exact ⟨rfl, fun e he => Act.noConfusion he⟩
  · rcases Net.mem_flight_after hflight he with he | he
    · exact hI.clientFlight e he
    · rcases hsent _ e he with ⟨-, hk⟩ | ⟨hside, -⟩
      · exact hk
      · cases hside
  · rw [hserver]
    exact hI.server
  · rw [hserver]
    exact hI.serverHistory
  · rw [hserver]
    rcases Net.mem_flight_after hflight he with he | he
    · exact hI.serverFlight e he
    · rcases hsent _ e he with ⟨hside, -⟩ | ⟨-, hk⟩
      · cases hside
      · exact hk

/-- **The server takes its first event**, and gives up. -/
theorem BeforeRequest.server_step {event : CmEvent} {rest : List CmEvent} {party : Party}
    (hI : BeforeRequest net) (hflight : (net.flight .server).Perm (event :: rest))
    (h : Handles config channel net .server event party es) :
    GivenUp (net.after .server rest party es) := by
  obtain ⟨c, backlog, ret, hc, hlisten⟩ := hI.server
  obtain ⟨o, t, c', ho, hctx, hhistory, hran, hreports⟩ := h.inv hc
  obtain ⟨hkind, hfresh⟩ := hI.serverFlight event (hflight.symm.subset List.mem_cons_self)
  have hid : c.cmId ≠ some event.id := by
    intro heq
    rw [heq] at hlisten
    exact hfresh backlog ret hlisten
  obtain ⟨hack, a, ha, hup⟩ := hran.server_acts hkind hid
  have hmem : ∀ b ∈ t, b ∈ ((net.after .server rest party es).state .server).history := by
    intro b hb
    rw [Net.after_state_self, hhistory]
    exact List.mem_append_right _ (List.mem_append_right _ hb)
  exact ⟨⟨event, hkind, hmem _ hack⟩, a, hmem a ha, hup⟩

/-- A party that has given up has given up for good. -/
theorem GivenUp.step {i : Side} {event : CmEvent} {rest : List CmEvent} {party : Party}
    (hI : GivenUp net) (h : Handles config channel net i event party es) :
    GivenUp (net.after i rest party es) := by
  have hgrows : ∀ a ∈ (net.state .server).history,
      a ∈ ((net.after i rest party es).state .server).history := by
    intro a ha
    cases i with
    | client =>
      rw [Net.after_state_of_ne (by decide)]
      exact ha
    | server =>
      obtain ⟨-, -, -⟩ := h
      rw [Net.after_state_self]
      exact List.mem_append_left _ ha
  obtain ⟨⟨e, hkind, hack⟩, a, ha, hup⟩ := hI
  exact ⟨⟨e, hkind, hgrows _ hack⟩, a, hgrows a ha, hup⟩

/-! ### Every interleaving -/

/-- **The handshake of two parties.** In whatever order the events are delivered after two
successful starts, the handshake goes well exactly as long as the server has not handled a
connection request. -/
theorem agreed_iff_not_requested {net' : Handshake} (hlaunched : Launched config start net)
    (hreach : Net.Reaches (Handles config channel) net net') : Agreed net' ↔ ¬Requested net' := by
  have hI : BeforeRequest net' ∨ GivenUp net' := by
    refine hreach.invariant (fun net => BeforeRequest net ∨ GivenUp net)
      (Or.inl hlaunched.beforeRequest) ?_
    rintro net i event rest party es (hbefore | hgiven) hflight h
    · cases i with
      | client => exact Or.inl (hbefore.client_step hflight h)
      | server => exact Or.inr (hbefore.server_step hflight h)
    · exact Or.inr (hgiven.step h)
  rcases hI with hbefore | hgiven
  · exact ⟨fun _ => hbefore.not_requested, fun _ => hbefore.agreed⟩
  · exact ⟨fun hagreed => absurd hagreed hgiven.not_agreed, fun hnot => absurd hgiven.1 hnot⟩

end Deliveries

/-! ### A concrete handshake

The sample client and the sample server, each on its own machine. -/

namespace Sample

/-- The two starts. -/
def starts : Side → Start
  | .client => connect block
  | .server => listen block

/-- What a start leaves. -/
def startRan (side : Side) : Ran (Option RdmaContext) Act Fault Unit :=
  (starts side).code config none

/-- The network after the starts: the address of the client is resolved. -/
def launch : Handshake where
  state side := ⟨(startRan side).state, none, (startRan side).trace⟩
  flight
    | .client => [event .addrResolved 11]
    | .server => []

/-- A turn of a party of the sample. -/
def turned (party : Party) (event : CmEvent) : Ran (Option RdmaContext) Act Fault
    (Option (Option CmEvent)) :=
  turn config (some 10) party.event ⟨some event, handler⟩ party.ctx

/-- The network after a turn. -/
def delivered (net : Handshake) (side : Side) (event : CmEvent) (sent : List (Side × CmEvent)) :
    Handshake :=
  let ran := turned (net.state side) event
  net.after side [] ⟨ran.state, some event, (net.state side).history ++ ran.trace⟩ sent

theorem create_succeed : create.Succeed := by
  constructor <;> first | decide | exact fun i => Option.some_ne_none _

theorem handler_succeed : handler.Succeed := ⟨rfl, create_succeed, rfl, rfl⟩

theorem starts_succeed (side : Side) : (starts side).Succeed := by
  have hmade : CtxMade (ctx block) := by
    refine ⟨Option.some_ne_none _, Option.some_ne_none _, ?_⟩
    rintro (_ | _ | _) <;> exact Option.some_ne_none _
  cases side with
  | client => exact ⟨Option.some_ne_none _, hmade, rfl, Option.some_ne_none _, rfl⟩
  | server => exact ⟨Option.some_ne_none _, hmade, rfl, Option.some_ne_none _, rfl, rfl⟩

theorem launched : Launched (fun _ => config) starts launch where
  connects := ⟨_, _, _, rfl⟩
  listens := ⟨_, _, _, _, rfl⟩
  succeed := starts_succeed
  unconnected side c hc := by
    cases side with
    | client => cases hc; rfl
    | server => cases hc; rfl
  ran side := by cases side <;> rfl
  event _ := rfl
  flight side := by
    cases side with
    | client =>
      have hfilter : (startRan .client).trace.filter Act.asks =
          [.rdmaResolveAddr (some 11) ⟨1, 7471⟩ 2000 0] := rfl
      have hreport : Reports launch .client none (.rdmaResolveAddr (some 11) ⟨1, 7471⟩ 2000 0)
          [(.client, event .addrResolved 11)] := Reports.addrResolved rfl rfl
      have hall := hreport.all
      rw [← hfilter] at hall
      exact ⟨_, reportsAll_of_filter hall, rfl⟩
    | server => exact ⟨[], reportsAll_of_filter ReportsAll.nil, rfl⟩

/-- **One delivery** in the sample. -/
theorem delivers {net : Handshake} {side : Side} {e : CmEvent} {sent : List (Side × CmEvent)}
    {a : Act} (hreach : Net.Reaches (Handles (fun _ => config) fun _ => some 10) launch net)
    (hflight : net.flight side = [e])
    (hout : (turned (net.state side) e).out = .ok (some (some e)))
    (hfilter : (turned (net.state side) e).trace.filter Act.asks = [a])
    (hreport : Reports net side (some e) a sent) :
    Net.Reaches (Handles (fun _ => config) fun _ => some 10) launch
      (delivered net side e sent) := by
  refine hreach.deliver (by rw [hflight]) (Handles.mk handler_succeed ?_ ?_)
  · change turned (net.state side) e = _
    rw [← hout]
  · have hall := hreport.all
    rw [← hfilter] at hall
    exact reportsAll_of_filter hall

/-- The address of the client is resolved, and then its route. -/
def resolved : Handshake :=
  delivered launch .client (event .addrResolved 11) [(.client, event .routeResolved 11)]

/-- The client connects, and the server is told of it on an id of its own. -/
def connecting : Handshake :=
  delivered resolved .client (event .routeResolved 11) [(.server, event .connectRequest 70)]

/-- The server accepts. -/
def requested : Handshake :=
  delivered connecting .server (event .connectRequest 70)
    [(.client, event .established 11), (.server, event .established 70)]

theorem reaches_resolved :
    Net.Reaches (Handles (fun _ => config) fun _ => some 10) launch resolved := by
  have hreport : Reports launch .client (some (event .addrResolved 11))
      (.rdmaResolveRoute 11 2000 0) [(.client, event .routeResolved 11)] :=
    Reports.routeResolved rfl rfl
  exact delivers Relation.ReflTransGen.refl rfl rfl rfl hreport

theorem reaches_connecting :
    Net.Reaches (Handles (fun _ => config) fun _ => some 10) launch connecting := by
  have hfresh : ∀ backlog ret,
      Act.rdmaListen (some 70) backlog ret ∉ (resolved.state .server).history := by
    intro backlog ret hmem
    have hall : (resolved.state .server).history.all (fun
        | .rdmaListen id .. => id == some 11
        | _ => true) = true := rfl
    exact absurd (List.all_eq_true.mp hall _ hmem) Bool.false_ne_true
  have hreport : Reports resolved .client (some (event .routeResolved 11))
      (.rdmaConnect (some 11) (connParam config) 0) [(.server, event .connectRequest 70)] :=
    Reports.connectRequest rfl hfresh
  exact delivers reaches_resolved rfl rfl rfl hreport

theorem reaches_requested :
    Net.Reaches (Handles (fun _ => config) fun _ => some 10) launch requested := by
  have hconnect : Act.rdmaConnect (some 11) (connParam config) 0 ∈
      (connecting.state .client).history := by decide
  have hreport : Reports connecting .server (some (event .connectRequest 70))
      (.rdmaAccept (some 11) (connParam config) 0)
      [(.client, event .established 11), (.server, event .established 70)] :=
    Reports.established rfl rfl ⟨_, hconnect⟩ (Or.inr ⟨_, rfl, rfl⟩)
  exact delivers reaches_connecting rfl rfl rfl hreport

end Sample

/-- At the two networks of the sample before and after the request. -/
theorem agreed_iff_not_requested_sample :
    (Agreed Sample.connecting ↔ ¬Requested Sample.connecting) ∧
      (Agreed Sample.requested ↔ ¬Requested Sample.requested) :=
  ⟨agreed_iff_not_requested Sample.launched Sample.reaches_connecting,
    agreed_iff_not_requested Sample.launched Sample.reaches_requested⟩

/-- **A handshake that goes wrong**: the sample server accepts the request and
disconnects. -/
theorem not_agreed_of_request :
    ¬∀ (config : Side → RdmaParam) (channel : Side → Ptr) (start : Side → Start)
      (net net' : Handshake), Launched config start net →
      Net.Reaches (Handles config channel) net net' → Agreed net' := by
  intro hall
  have hagreed := hall _ _ _ _ _ Sample.launched Sample.reaches_requested
  have hdisconnect : Act.rdmaDisconnect (some 11) ∈ (Sample.requested.state .server).history := by
    decide
  exact Bool.false_ne_true (hagreed.calm .server _ hdisconnect).symm

end Transport
