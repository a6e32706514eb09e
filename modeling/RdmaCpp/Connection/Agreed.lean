import RdmaCpp.Lib.Scripts
import RdmaCpp.Connection.ServerRan

/-!
# Two parties that connect

A client and a server that connect to each other, both through `establish_connection`. What
either of them does, call by call, is a script (`Scripts`); the calls of one are ready when
those of the other have sent what they wait for (`Connection.Act.sends`,
`Connection.Act.awaits`). The connection manager passes on three messages: that the server
listens, the request of the client, and that the server has accepted it. The fourth is one of
the program's own. Over datagrams the server needs the address of a client that it has to
answer, so it waits, after `rdma_accept`, for the queue pair number of the client.

**The client never sends it**: the call of `send_qp_num_for_ah` is commented out. So a server
that takes the branch is blocked for ever as soon as it gets there, and it gets there whenever
the helpers succeed. What is left of the agreement holds but for one more slip: the client
looks at the array of its address handles, and not at the handle it has just stored in it, so
that an `ibv_create_ah` that fails is a success (`Connection.agreement_iff`).
-/

namespace Connection

/-! ### Two runs side by side -/

/-- What one party waits for, and the other sends. -/
inductive Message
  /-- The server listens: a request to connect is not turned away. -/
  | listening
  /-- The client asks for a connection. -/
  | request
  /-- The server has accepted it. -/
  | accepted
  /-- The number of the client's queue pair. -/
  | qpNumber
  deriving DecidableEq

/-- What a call sends, if it succeeds. -/
def Act.sends : Act → List Message
  | .rdmaListen _ _ ret => if ret = 0 then [.listening] else []
  | .rdmaConnect _ _ ret => if ret = 0 then [.request] else []
  | .rdmaAccept _ _ ret => if ret = 0 then [.accepted] else []
  | .sendQpNumForAh _ ret => if ret = 0 then [.qpNumber] else []
  | _ => []

/-- What a call waits for: it does not come back before. -/
def Act.awaits : Act → Option Message
  | .rdmaConnect _ _ ret => if ret = 0 then some .listening else none
  | .rdmaGetCmEvent _ (some event) =>
    if event.event = .connectRequest then some .request
    else if event.event = .established then some .accepted
    else none
  | .createAhFromWcRecv .. => some .qpNumber
  | _ => none

/-- The other party. -/
def MachineType.peer : MachineType → MachineType
  | .client => .server
  | .server => .client

/-- The run of a party that is never kept waiting. -/
def ranOf (numOfRetries : ℕ) (o : EstablishOutcomes) (s : MachineType → Conn) (i : MachineType) :
    Ran Conn Act Stop ℤ :=
  establishConnection numOfRetries o (s i)

/-- **How far two parties can get** with their scripts, in any interleaving. -/
def Interleaves (script : MachineType → List Act) (S : Scripts MachineType Act) : Prop :=
  Scripts.Reaches (Scripts.Ready Act.sends Act.awaits MachineType.peer) (Scripts.start script) S

/-- **How far the two can get** that connect to each other. -/
def Reached (numOfRetries : ℕ) (o : EstablishOutcomes) (s : MachineType → Conn)
    (S : Scripts MachineType Act) : Prop :=
  Interleaves (fun i => (ranOf numOfRetries o s i).trace) S

/-! ### What is assumed -/

/-- **The parameters of the two agree**, and each of them knows which party it is. -/
structure Agree (s : MachineType → Conn) : Prop where
  machine : ∀ i, (s i).param.machine = i
  port : (s .client).param.port = (s .server).param.port
  verb : (s .client).param.verb = (s .server).param.verb
  connectionType : (s .client).param.connectionType = (s .server).param.connectionType
  tst : (s .client).param.tst = (s .server).param.tst
  duplex : (s .client).param.duplex = (s .server).param.duplex
  outReads : (s .client).param.outReads = (s .server).param.outReads
  workRdmaCm : (s .client).param.workRdmaCm = (s .server).param.workRdmaCm

/-- **The calls of the connection manager succeed**, for either party. -/
structure CmSucceeds (numOfRetries : ℕ) (o : EstablishOutcomes) : Prop where
  /-- The client resolves the address of the server, and learns that it has accepted. -/
  resolved : ∃ k event, ResolvedAt numOfRetries o.client k ∧
    o.client.rdmaGetCmEvent k = some event ∧ event.event = .established
  connect : o.client.rdmaConnect = 0
  found : Found o.server.checkAddPort
  bind : o.server.rdmaBindAddr = 0
  listen : o.server.rdmaListen = 0
  /-- The server learns that the client asks for a connection. -/
  requested : ∃ event, o.server.rdmaGetCmEvent = some event ∧ event.event = .connectRequest
  accept : o.server.rdmaAccept = 0

/-- **The helpers between them succeed**: `ctx_init` of either party, and the receives that either
posts. The creation of an address handle is not among them, as neither party sends anything
after it. -/
structure HelpersSucceed (o : EstablishOutcomes) (s : MachineType → Conn) : Prop where
  clientInit : o.client.ctxInit = 0
  recv : RecvOk o.client (s .client).param
  serverInit : o.server.ctxInit = 0
  receives : ReceivesOk o.server (s .server).param

/-! ### What should hold wherever the two can get -/

/-- **The server waits in vain**: for a queue pair number that has not arrived, and that the
client has neither sent nor will send. -/
structure Hung (S : Scripts MachineType Act) : Prop where
  waits : ∃ user ret r, S.rest .server = .createAhFromWcRecv user ret :: r ∧
    ¬Scripts.Ready Act.sends Act.awaits MachineType.peer S.done .server
      (.createAhFromWcRecv user ret)
  never : ∀ a ∈ S.done .client ++ S.rest .client, Message.qpNumber ∉ a.sends

/-- The first address handle of a party in the end. -/
def handleOf (numOfRetries : ℕ) (o : EstablishOutcomes) (s : MachineType → Conn)
    (i : MachineType) : Ptr :=
  elem (ranOf numOfRetries o s i).state.ctx.ah 0

/-- **Who needs an address handle has one**, where both have returned a success for a
connection over datagrams. -/
def Equipped (numOfRetries : ℕ) (o : EstablishOutcomes) (s : MachineType → Conn)
    (S : Scripts MachineType Act) : Prop :=
  (∀ i, S.rest i = [] ∧ (ranOf numOfRetries o s i).out = .ok 0) →
    (s .client).param.connectionType = .ud →
    handleOf numOfRetries o s .client ≠ none ∧
      ((∃ user ret, .createAhFromWcRecv user ret ∈ S.done .server) →
        handleOf numOfRetries o s .server ≠ none)

/-- **The two paths agree**, in every state that can be reached. -/
def Agreement (numOfRetries : ℕ) (o : EstablishOutcomes) (s : MachineType → Conn) : Prop :=
  ∀ S, Reached numOfRetries o s S → ¬Hung S ∧ Equipped numOfRetries o s S

/-! ### Which of the two runs -/

section Establish

variable {numOfRetries : ℕ} {o : EstablishOutcomes} {s : Conn}

/-- What a party returns says no more than whether its function has succeeded. -/
theorem post_verdict {ret' : ℤ} {P : ℤ → Conn → List Act → Prop}
    {E : Stop → Conn → List Act → Prop} {t : List Act} (hran : P ret' s t) :
    Traced.Post (if ret' ≠ 0 then pure 1 else pure 0 : ConnectionM ℤ) s
      (fun ret s' t' => ∃ ret', P ret' s' (t ++ t') ∧ (ret = 0 ↔ ret' = 0)) E := by
  by_cases hret : ret' = 0
  · rw [if_neg fun hc => hc hret, Traced.post_pure, List.append_nil]
    exact ⟨ret', hran, fun _ => hret, fun _ => rfl⟩
  · rw [if_pos hret, Traced.post_pure, List.append_nil]
    exact ⟨ret', hran, fun hc => absurd hc (by decide), fun hc => absurd hc hret⟩

/-- `establish_connection` of a client. -/
theorem post_establishConnection_client (h : s.param.machine = .client) :
    Traced.Post (establishConnection numOfRetries o) s
      (fun ret s' t => ∃ ret', ClientRan numOfRetries o.client s ret' s' t ∧ (ret = 0 ↔ ret' = 0))
      (ClientStuck numOfRetries o.client s) := by
  rw [establishConnection, Traced.post_bind, post_userParam, if_pos h, Traced.post_bind]
  exact (post_rdmaClientConnect numOfRetries o.client s).mono
    (fun _ _ _ hran => post_verdict hran) fun _ _ _ hstuck => hstuck

/-- … and of a server. -/
theorem post_establishConnection_server (h : s.param.machine = .server) :
    Traced.Post (establishConnection numOfRetries o) s
      (fun ret s' t => ∃ ret', ServerRan o.server s ret' s' t ∧ (ret = 0 ↔ ret' = 0))
      (fun _ _ _ => False) := by
  have hne : s.param.machine ≠ .client := by
    rw [h]
    decide
  rw [establishConnection, Traced.post_bind, post_userParam, if_neg hne, Traced.post_bind]
  exact (post_rdmaServerConnect o.server s).mono
    (fun _ _ _ hran => post_verdict hran) fun _ _ _ hstuck => hstuck

end Establish

/-! ### What the client sends -/

section Client

variable {numOfRetries k n : ℕ} {o : ClientOutcomes} {s s' : Conn} {ret : ℤ} {e : Stop}
  {t : List Act}

/-- The resolution sends nothing. -/
theorem Resolves.sends (h : Resolves n t) : ∀ a ∈ t, a.sends = [] := by
  intro a ha
  have hresolution := h.resolution a ha
  cases a <;> first | rfl | exact absurd hresolution Bool.false_ne_true

/-- It waits for nothing either, as long as no event is one that another party has caused. -/
theorem Resolves.quiet_of (h : Resolves n t) (hkind : ∀ channel event,
    .rdmaGetCmEvent channel (some event) ∈ t →
      event.event ≠ .connectRequest ∧ event.event ≠ .established) :
    Scripts.Quiet Act.awaits t := by
  intro a ha
  have hresolution := h.resolution a ha
  cases a with
  | rdmaGetCmEvent channel res =>
    cases res with
    | none => rfl
    | some event =>
      obtain ⟨hrequest, haccepted⟩ := hkind channel event ha
      rw [Act.awaits, if_neg hrequest, if_neg haccepted]
  | _ => first | rfl | exact absurd hresolution Bool.false_ne_true

/-- Which the events of the resolution are not. -/
theorem ne_of_ofResolution {kind : CmEventType} (h : ofResolution kind = true) :
    kind ≠ .connectRequest ∧ kind ≠ .established := by
  constructor
  all_goals
    rintro rfl
    exact absurd h Bool.false_ne_true

theorem Resolves.quiet (h : Resolves n t) (hleads : LeadsOn t) : Scripts.Quiet Act.awaits t :=
  h.quiet_of fun channel event he => ne_of_ofResolution (hleads channel event he)

/-- The stretch sends a request, or nothing. -/
def Requests (t : List Act) : Prop := ∀ a ∈ t, ∀ m ∈ a.sends, m = .request

theorem Requests.append {t' : List Act} (h : Requests t) (h' : Requests t') :
    Requests (t ++ t') :=
  List.forall_mem_append.mpr ⟨h, h'⟩

theorem requests_of_sends (h : ∀ a ∈ t, a.sends = []) : Requests t := by
  intro a ha m hm
  rw [h a ha] at hm
  exact absurd hm List.not_mem_nil

theorem sends_recvActs (user : PerftestParameters) : ∀ a ∈ recvActs o user, a.sends = [] := by
  rw [recvActs]
  split_ifs
  · exact List.forall_mem_singleton.mpr rfl
  · exact fun a ha => absurd ha List.not_mem_nil

theorem requests_connectActs : Requests (connectActs o s) := by
  refine (requests_of_sends (sends_recvActs _)).append (List.forall_mem_singleton.mpr ?_)
  intro m hm
  rw [Act.sends] at hm
  split_ifs at hm
  · exact List.mem_singleton.mp hm
  · exact absurd hm List.not_mem_nil

/-- The request is sent only when the receive has been posted. -/
theorem sends_connectActs_append {rest : List Act} (hrecv : RecvOk o s.param)
    (hrest : ∀ a ∈ rest, a.sends = []) :
    ∀ a ∈ connectActs o s ++ rest, ∀ m ∈ a.sends, m = .request ∧ RecvOk o s.param :=
  fun a ha m hm => ⟨requests_connectActs.append (requests_of_sends hrest) a ha m hm, hrecv⟩

/-- **After `ctx_init`** the client sends its request, and nothing else. -/
theorem ConnectRan.sends (h : ConnectRan o k s ret s' t) :
    ∀ a ∈ t, ∀ m ∈ a.sends, m = .request ∧ RecvOk o s.param := by
  cases h with
  | noRecv =>
    intro a ha m hm
    rw [sends_recvActs _ a ha] at hm
    exact absurd hm List.not_mem_nil
  | noConnect hrecv => exact fun a ha m hm => ⟨requests_connectActs a ha m hm, hrecv⟩
  | noEvent hrecv | unexpected hrecv | done hrecv =>
    exact sends_connectActs_append hrecv (by simp [Act.sends])
  | doneUd hrecv => exact sends_connectActs_append hrecv (by simp [Act.sends, ahActs])

theorem ConnectStuck.sends (h : ConnectStuck o k s e s' t) :
    ∀ a ∈ t, ∀ m ∈ a.sends, m = .request ∧ RecvOk o s.param := by
  cases h with
  | mk hrecv => exact sends_connectActs_append hrecv (by simp [Act.sends, ahActs])

/-- What comes after `ctx_init` is all that is sent. -/
theorem sends_of_after {t' : List Act} {user : PerftestParameters} (h : Resolves n t)
    (hafter : ∀ a ∈ t', ∀ m ∈ a.sends, m = .request ∧ RecvOk o s.param) (hok : o.ctxInit = 0) :
    ∀ a ∈ t ++ .ctxInit user ret :: t', ∀ m ∈ a.sends,
      m = .request ∧ o.ctxInit = 0 ∧ RecvOk o s.param := by
  intro a ha m hm
  rcases List.mem_append.mp ha with ha | ha
  · rw [h.sends a ha] at hm
    exact absurd hm List.not_mem_nil
  · rcases List.mem_cons.mp ha with rfl | ha
    · exact absurd hm List.not_mem_nil
    · exact ⟨(hafter a ha m hm).1, hok, (hafter a ha m hm).2⟩

/-- **The client sends its request, and nothing else**: no queue pair number. And it sends
the request only when the helpers before it have succeeded. -/
theorem ClientRan.sends (h : ClientRan numOfRetries o s ret s' t) :
    ∀ a ∈ t, ∀ m ∈ a.sends, m = .request ∧ o.ctxInit = 0 ∧ RecvOk o s.param := by
  cases h with
  | unresolved h =>
    intro a ha m hm
    rw [h.sends a ha] at hm
    exact absurd hm List.not_mem_nil
  | noInit h =>
    intro a ha m hm
    rcases List.mem_append.mp ha with ha | ha
    · rw [h.sends a ha] at hm
      exact absurd hm List.not_mem_nil
    · rw [List.mem_singleton.mp ha] at hm
      exact absurd hm List.not_mem_nil
  | ran h _ _ hok hran => exact sends_of_after h hran.sends hok

theorem ClientStuck.sends (h : ClientStuck numOfRetries o s e s' t) :
    ∀ a ∈ t, ∀ m ∈ a.sends, m = .request ∧ o.ctxInit = 0 ∧ RecvOk o s.param := by
  cases h with
  | mk h _ _ hok hstuck => exact sends_of_after h hstuck.sends hok

/-! ### The client that gets to its end -/

/-- **A script of a client that connects**: what comes before it asks for a connection, the
request, the news that it has been accepted, and the rest. -/
structure ClientScript (t before after : List Act) (ask learn : Act) : Prop where
  eq : t = before ++ ask :: learn :: after
  before : Scripts.Quiet Act.awaits before
  asks : Message.request ∈ ask.sends
  waits : ask.awaits = some .listening
  learns : learn.awaits = some .accepted
  after : Scripts.Quiet Act.awaits after

/-- The one way to resolve: it is settled with which event the resolution succeeds. -/
theorem ResolvedAt.unique {k' : ℕ} (h : ResolvedAt numOfRetries o k)
    (h' : ResolvedAt numOfRetries o k') : k = k' := by
  obtain ⟨-, a, r, -, rfl, haddr, hroute⟩ := h
  obtain ⟨-, a', r', -, rfl, haddr', hroute'⟩ := h'
  obtain rfl := goesThrough_unique (by decide) haddr haddr'
  obtain rfl := goesThrough_unique (by decide) hroute hroute'
  rfl

/-- The event says that the server has accepted. -/
theorem awaits_established {event : CmEvent} (channel : Ptr) (h : event.event = .established) :
    (Act.rdmaGetCmEvent channel (some event)).awaits = some .accepted := by
  rw [Act.awaits, h, if_neg (by decide), if_pos rfl]

theorem quiet_recvActs (o : ClientOutcomes) (user : PerftestParameters) :
    Scripts.Quiet Act.awaits (recvActs o user) := by
  rw [recvActs]
  split_ifs
  · exact Scripts.Quiet.cons rfl Scripts.quiet_nil
  · exact Scripts.quiet_nil

/-- Up to `rdma_connect` the client waits for nothing. -/
theorem Resolves.quiet_initialised (h : Resolves n t) (hleads : LeadsOn t)
    (user user' : PerftestParameters) :
    Scripts.Quiet Act.awaits (t ++ .ctxInit user ret :: recvActs o user') :=
  (h.quiet hleads).append (Scripts.Quiet.cons rfl (quiet_recvActs o user'))

/-- The pieces of a run that gets past `rdma_connect` make such a script. -/
theorem clientScript_of_pieces {t' : List Act} {user : PerftestParameters} {channel : Ptr}
    {event : CmEvent} (h : Resolves n t) (hleads : LeadsOn t) (hok : o.rdmaConnect = 0)
    (hkind : event.event = .established) (hquiet : Scripts.Quiet Act.awaits t') :
    ClientScript (t ++ .ctxInit user ret ::
        (connectActs o s ++ .rdmaGetCmEvent channel (some event) :: t'))
      (t ++ .ctxInit user ret :: recvActs o s.param) t'
      (.rdmaConnect s.ctx.cmId (connParamOf s.param) o.rdmaConnect)
      (.rdmaGetCmEvent channel (some event)) := by
  refine ⟨?_, h.quiet_initialised hleads user s.param, ?_, ?_,
    awaits_established channel hkind, hquiet⟩
  · simp only [connectActs, List.append_assoc, List.cons_append, List.nil_append]
  · rw [Act.sends, if_pos hok]
    exact List.mem_cons_self
  · rw [Act.awaits, if_pos hok]

theorem quiet_ahActs (event : CmEvent) (pd : Ptr) :
    Scripts.Quiet Act.awaits (ahActs o event pd) := by
  simp [Scripts.Quiet, ahActs, Act.awaits]

/-- **The client succeeds** where all of its calls do, and has kept to such a script. -/
theorem ClientRan.script (h : ClientRan numOfRetries o s ret s' t)
    (hat : ResolvedAt numOfRetries o k) {event : CmEvent} (hgot : o.rdmaGetCmEvent k = some event)
    (hkind : event.event = .established) (hconnect : o.rdmaConnect = 0) (hinit : o.ctxInit = 0)
    (hrecv : RecvOk o s.param) :
    ret = SUCCESS ∧ ∃ before after ask learn, ClientScript t before after ask learn := by
  cases h with
  | unresolved _ hno => exact absurd hat (hno k)
  | noInit _ _ hfail => exact absurd hinit hfail
  | ran h hat' hleads _ hran =>
    obtain rfl := hat.unique hat'
    cases hran with
    | noRecv hoff hfail => exact absurd (hrecv hoff) hfail
    | noConnect _ hfail => exact absurd hconnect hfail
    | noEvent _ _ hnone =>
      rw [hgot] at hnone
      cases hnone
    | unexpected _ _ hgot' hother =>
      rw [hgot] at hgot'
      cases hgot'
      exact absurd hkind hother
    | done _ _ hgot' =>
      rw [hgot] at hgot'
      cases hgot'
      exact ⟨rfl, _, _, _, _, clientScript_of_pieces h hleads hconnect hkind
        (by simp [Scripts.Quiet, Act.awaits])⟩
    | doneUd _ _ hgot' =>
      rw [hgot] at hgot'
      cases hgot'
      exact ⟨rfl, _, _, _, _, clientScript_of_pieces h hleads hconnect hkind
        ((quiet_ahActs _ _).append (by simp [Scripts.Quiet, Act.awaits]))⟩

/-- A client that stops for want of an array has kept to one. -/
theorem ClientStuck.script (h : ClientStuck numOfRetries o s e s' t) :
    ¬0 < room s.ctx.ah ∧ ∃ before after ask learn, ClientScript t before after ask learn := by
  cases h with
  | mk h _ hleads _ hstuck =>
    cases hstuck with
    | mk _ hconnect _ hkind _ hroom =>
      exact ⟨hroom, _, _, _, _, clientScript_of_pieces h hleads hconnect hkind (quiet_ahActs _ _)⟩

/-- The handle that is stored is found. -/
theorem elem_withAh (c : PingpongContext) (ah : Ptr) (h : 0 < room c.ah) :
    elem (c.withAh ah).ah 0 = ah := by
  rw [PingpongContext.withAh]
  rcases hah : c.ah with _ | a
  · rw [hah] at h
    exact absurd h (Nat.lt_irrefl 0)
  · rw [hah] at h
    change (a.cells.set 0 ah)[0]?.join = ah
    rw [List.getElem?_set_self h]
    rfl

/-- **A success over datagrams**: the helpers have succeeded, and the handle is what
`ibv_create_ah` has brought back. -/
theorem ClientRan.handle (h : ClientRan numOfRetries o s ret s' t) (hret : ret = 0)
    (hud : s.param.connectionType = .ud) :
    o.ctxInit = 0 ∧ RecvOk o s.param ∧ 0 < room s.ctx.ah ∧
      elem s'.ctx.ah 0 = o.ibvCreateAh := by
  cases h with
  | unresolved => exact absurd hret (by decide)
  | noInit => exact absurd hret (by decide)
  | ran _ _ _ hok hran =>
    cases hran with
    | noRecv | noConnect | noEvent | unexpected => exact absurd hret (by decide)
    | done _ _ _ _ hrc => exact absurd hud hrc
    | doneUd hrecv _ _ _ _ hroom => exact ⟨hok, hrecv, hroom, elem_withAh _ _ hroom⟩

end Client

/-! ### What the server waits for -/

section Server

variable {o : ServerOutcomes} {s s' : Conn} {res : AddrInfo} {event : CmEvent} {ret r : ℤ}
  {user : PerftestParameters} {t : List Act}

theorem not_mem_receiveActs :
    .createAhFromWcRecv user r ∉ receiveActs o s.param := by
  rw [receiveActs]
  split_ifs <;> simp

theorem not_mem_acceptActs : .createAhFromWcRecv user r ∉ acceptActs o s := by
  simp [acceptActs, not_mem_receiveActs]

theorem awaitsAh_of_mem_awaitActs {user' : PerftestParameters}
    (h : .createAhFromWcRecv user r ∈ awaitActs o user') : user'.AwaitsAh := by
  rw [awaitActs] at h
  split_ifs at h with hawaits
  · exact hawaits
  · exact absurd h List.not_mem_nil

/-- **The wait for the queue pair number** is come to in the branch, and only when the helpers
before it have succeeded. -/
theorem AcceptRan.awaits (h : AcceptRan o res event s ret s' t)
    (hmem : .createAhFromWcRecv user r ∈ t) :
    s.param.AwaitsAh ∧ o.ctxInit = 0 ∧ ReceivesOk o s.param := by
  cases h with
  | noInit => simp at hmem
  | noReceive =>
    rcases List.mem_cons.mp hmem with hc | hmem
    · cases hc
    · exact absurd hmem not_mem_receiveActs
  | noAccept => exact absurd hmem not_mem_acceptActs
  | noAh hinit hrecv _ hawaits => exact ⟨hawaits, hinit, hrecv⟩
  | done hinit hrecv =>
    rcases List.mem_append.mp hmem with hmem | hmem
    · exact absurd hmem not_mem_acceptActs
    · rcases List.mem_append.mp hmem with hmem | hmem
      · exact ⟨awaitsAh_of_mem_awaitActs hmem, hinit, hrecv⟩
      · simp at hmem

/-- A server that comes to it has obtained a request before. -/
theorem ServerRan.awaits (h : ServerRan o s ret s' t) (hmem : .createAhFromWcRecv user r ∈ t) :
    (s.param.AwaitsAh ∧ o.ctxInit = 0 ∧ ReceivesOk o s.param) ∧
      ∃ p q learn, t = p ++ learn :: q ∧ learn.awaits = some .request ∧
        .createAhFromWcRecv user r ∉ p := by
  have hlisten : ∀ {res : AddrInfo}, .createAhFromWcRecv user r ∉ listenActs o res s := by
    intro res
    simp [listenActs, bindActs, lookUpActs]
  cases h with
  | noAddress => simp [lookUpActs] at hmem
  | noBind => simp [bindActs, lookUpActs] at hmem
  | noListen => exact absurd hmem hlisten
  | noEvent | badEvent =>
    rcases List.mem_append.mp hmem with hmem | hmem
    · exact absurd hmem hlisten
    · simp at hmem
  | ran _ _ _ _ _ hkind hran =>
    have hrest := (List.mem_append.mp hmem).resolve_left hlisten
    simp only [List.mem_cons, reduceCtorEq, false_or, List.mem_append] at hrest
    have halloc : .createAhFromWcRecv user r ∉ allocActs s.param := by
      rw [allocActs]
      split_ifs <;> simp
    refine ⟨hran.awaits (hrest.resolve_left halloc), _, _, _, rfl, ?_, hlisten⟩
    rw [Act.awaits, if_pos hkind]

/-- A success: the helpers have succeeded. -/
theorem ServerRan.helpers (h : ServerRan o s ret s' t) (hret : ret = 0) :
    o.ctxInit = 0 ∧ ReceivesOk o s.param := by
  cases h with
  | noAddress | noBind | noListen | noEvent | badEvent => exact absurd hret (by decide)
  | ran _ _ _ _ _ _ hran =>
    cases hran with
    | noInit | noReceive | noAccept | noAh => exact absurd hret (by decide)
    | done hinit hrecv => exact ⟨hinit, hrecv⟩

/-! ### The server that accepts -/

/-- **A script of a server that accepts**: it listens, obtains a request, accepts it, and there
is a rest. -/
structure ServerScript (t before mid rest : List Act) (listen learn accept : Act) : Prop where
  eq : t = before ++ listen :: learn :: (mid ++ accept :: rest)
  before : Scripts.Quiet Act.awaits before
  listens : Message.listening ∈ listen.sends
  quiet : listen.awaits = none
  learns : learn.awaits = some .request
  mid : Scripts.Quiet Act.awaits mid
  accepts : Message.accepted ∈ accept.sends
  accepts_quiet : accept.awaits = none

theorem quiet_allocActs (user : PerftestParameters) :
    Scripts.Quiet Act.awaits (allocActs user) := by
  rw [allocActs]
  split_ifs <;> simp [Scripts.Quiet, Act.awaits]

theorem quiet_receiveActs (o : ServerOutcomes) (user : PerftestParameters) :
    Scripts.Quiet Act.awaits (receiveActs o user) := by
  rw [receiveActs]
  split_ifs <;> simp [Scripts.Quiet, Act.awaits]

/-- The pieces of a run that gets past `rdma_accept` make such a script. -/
theorem serverScript_of_pieces (res : AddrInfo) (rest : List Act) (hlisten : o.rdmaListen = 0)
    (hkind : event.event = .connectRequest) (haccept : o.rdmaAccept = 0) :
    ServerScript (listenActs o res s ++ .rdmaGetCmEvent s.ctx.cmChannel (some event) ::
        .readEvent event :: .readEvent event ::
          (allocActs s.param ++ (acceptActs o (s.requested o event) ++ rest)))
      (bindActs o res s)
      (.readEvent event :: .readEvent event ::
        (allocActs s.param ++ .ctxInit s.param.on o.ctxInit :: receiveActs o s.param))
      rest (.rdmaListen s.ctx.cmIdControl 0 o.rdmaListen)
      (.rdmaGetCmEvent s.ctx.cmChannel (some event))
      (.rdmaAccept event.id (acceptParam o s.param) o.rdmaAccept) := by
  refine ⟨?_, ?_, ?_, rfl, ?_, ?_, ?_, rfl⟩
  · simp only [listenActs, acceptActs, List.append_assoc, List.cons_append, List.nil_append]
    rfl
  · simp [Scripts.Quiet, bindActs, lookUpActs, Act.awaits]
  · rw [Act.sends, if_pos hlisten]
    exact List.mem_cons_self
  · rw [Act.awaits, if_pos hkind]
  · exact Scripts.Quiet.cons rfl (Scripts.Quiet.cons rfl
      ((quiet_allocActs s.param).append (Scripts.Quiet.cons rfl (quiet_receiveActs o s.param))))
  · rw [Act.sends, if_pos haccept]
    exact List.mem_cons_self

/-- **The server accepts** where all of the calls up to `rdma_accept` succeed. What is left then
begins with the wait for the queue pair number, in the branch; and otherwise there is nothing
to wait for. -/
theorem ServerRan.script (h : ServerRan o s ret s' t) (hfound : Found o.checkAddPort)
    (hbind : o.rdmaBindAddr = 0) (hlisten : o.rdmaListen = 0)
    (hgot : o.rdmaGetCmEvent = some event) (hkind : event.event = .connectRequest)
    (haccept : o.rdmaAccept = 0) (hinit : o.ctxInit = 0) (hrecv : ReceivesOk o s.param) :
    ∃ before mid rest listen learn accept, ServerScript t before mid rest listen learn accept ∧
      (s.param.AwaitsAh → ∃ r q, rest = .createAhFromWcRecv s.param r :: q) ∧
      (¬s.param.AwaitsAh → Scripts.Quiet Act.awaits rest ∧ ret = 0) := by
  cases h with
  | noAddress h => exact absurd hfound h
  | noBind _ _ h => exact absurd hbind h
  | noListen _ _ _ h => exact absurd hlisten h
  | noEvent _ _ _ _ hnone =>
    rw [hgot] at hnone
    cases hnone
  | badEvent _ _ _ _ hgot' hother =>
    rw [hgot] at hgot'
    cases hgot'
    exact absurd hkind hother
  | ran _ _ _ _ hgot' _ hran =>
    rw [hgot] at hgot'
    cases hgot'
    cases hran with
    | noInit hfail => exact absurd hinit hfail
    | noReceive _ hfail => exact absurd hrecv hfail
    | noAccept _ _ hfail => exact absurd haccept hfail
    | noAh _ _ _ hawaits =>
      have hawaits' : s.param.AwaitsAh := hawaits
      refine ⟨_, _, _, _, _, _, serverScript_of_pieces _ _ hlisten hkind haccept,
        fun _ => ?_, fun hno => absurd hawaits' hno⟩
      exact ⟨_, _, if_pos hawaits'⟩
    | done =>
      refine ⟨_, _, _, _, _, _, serverScript_of_pieces _ _ hlisten hkind haccept,
        fun hawaits => ?_, fun hno => ⟨?_, rfl⟩⟩
      · have hacts : awaitActs o (s.requested o event).param =
            [.createAhFromWcRecv s.param o.createAhFromWcRecv] := if_pos hawaits
        rw [hacts]
        exact ⟨_, _, rfl⟩
      · have hacts : awaitActs o (s.requested o event).param = [] := if_neg hno
        rw [hacts]
        simp [Scripts.Quiet, Act.awaits]

end Server

/-! ### The two together -/

section Together

variable {script : MachineType → List Act} {dc rc ds rs t r : List Act} {a : Act} {m : Message}

/-- The cut at which the client has done `dc`, with `rc` still to do, and the server `ds` with
`rs`. -/
def cut (dc rc ds rs : List Act) : Scripts MachineType Act where
  done
    | .client => dc
    | .server => ds
  rest
    | .client => rc
    | .server => rs

theorem start_eq_cut : Scripts.start script = cut [] (script .client) [] (script .server) := by
  ext i : 2
  · cases i <;> rfl
  · cases i <;> rfl

theorem after_client : (cut dc rc ds rs).after .client t r = cut (dc ++ t) r ds rs := by
  ext i : 2
  · cases i <;> rfl
  · cases i <;> rfl

theorem after_server : (cut dc rc ds rs).after .server t r = cut dc rc (ds ++ t) r := by
  ext i : 2
  · cases i <;> rfl
  · cases i <;> rfl

/-- The client gets on where it waits for nothing. -/
theorem Interleaves.client (h : Interleaves script (cut dc (t ++ r) ds rs))
    (hquiet : Scripts.Quiet Act.awaits t) : Interleaves script (cut (dc ++ t) r ds rs) := by
  have hnext := Scripts.Reaches.perform_of_quiet h (i := MachineType.client) rfl hquiet
  rwa [after_client] at hnext

/-- It gets what the server has sent, the first time. -/
theorem Interleaves.clientTakes (h : Interleaves script (cut dc (a :: r) ds rs))
    (hawaits : a.awaits = some m) (hsent : ∃ b ∈ ds, m ∈ b.sends)
    (htaken : Scripts.taken Act.awaits dc m = 0) :
    Interleaves script (cut (dc ++ [a]) r ds rs) := by
  obtain ⟨b, hb, hm⟩ := hsent
  have hnext := Scripts.Reaches.take h (i := MachineType.client) rfl hawaits
    (Scripts.sent_pos hb hm) htaken
  rwa [after_client] at hnext

theorem Interleaves.server (h : Interleaves script (cut dc rc ds (t ++ r)))
    (hquiet : Scripts.Quiet Act.awaits t) : Interleaves script (cut dc rc (ds ++ t) r) := by
  have hnext := Scripts.Reaches.perform_of_quiet h (i := MachineType.server) rfl hquiet
  rwa [after_server] at hnext

theorem Interleaves.serverTakes (h : Interleaves script (cut dc rc ds (a :: r)))
    (hawaits : a.awaits = some m) (hsent : ∃ b ∈ dc, m ∈ b.sends)
    (htaken : Scripts.taken Act.awaits ds m = 0) :
    Interleaves script (cut dc rc (ds ++ [a]) r) := by
  obtain ⟨b, hb, hm⟩ := hsent
  have hnext := Scripts.Reaches.take h (i := MachineType.server) rfl hawaits
    (Scripts.sent_pos hb hm) htaken
  rwa [after_server] at hnext

variable {before before' after mid rest : List Act} {ask learn listen obtain accept : Act}

/-- **They meet**: the client has asked for a connection, and the server has accepted it. -/
theorem interleaves_accepted (hclient : ClientScript (script .client) before after ask learn)
    (hserver : ServerScript (script .server) before' mid rest listen obtain accept) :
    Interleaves script (cut (before ++ [ask]) (learn :: after)
      (before' ++ [listen] ++ [obtain] ++ mid ++ [accept]) rest) := by
  have hstart : Interleaves script (Scripts.start script) := Relation.ReflTransGen.refl
  rw [start_eq_cut, hclient.eq, hserver.eq] at hstart
  have hlistens : Scripts.Quiet Act.awaits [listen] :=
    Scripts.Quiet.cons hserver.quiet Scripts.quiet_nil
  -- the server comes to listen, before the client asks
  have hlistened : Interleaves script (cut [] (before ++ ask :: learn :: after)
      (before' ++ [listen]) (obtain :: (mid ++ accept :: rest))) :=
    (hstart.server hserver.before).server hlistens
  have hasked : Interleaves script (cut (before ++ [ask]) (learn :: after)
      (before' ++ [listen]) (obtain :: (mid ++ accept :: rest))) := by
    refine (hlistened.client hclient.before).clientTakes hclient.waits
      ⟨listen, List.mem_append_right _ List.mem_cons_self, hserver.listens⟩ ?_
    exact hclient.before.taken_eq_zero _
  -- then the request arrives, and the server goes on to accept it
  have hobtained := hasked.serverTakes hserver.learns
    ⟨ask, List.mem_append_right _ List.mem_cons_self, hclient.asks⟩
    ((hserver.before.append hlistens).taken_eq_zero _)
  exact (hobtained.server hserver.mid).server
    (Scripts.Quiet.cons hserver.accepts_quiet Scripts.quiet_nil)

/-- **They finish**, where there is nothing the server waits for after it has accepted. -/
theorem interleaves_finished (hclient : ClientScript (script .client) before after ask learn)
    (hserver : ServerScript (script .server) before' mid rest listen obtain accept)
    (hrest : Scripts.Quiet Act.awaits rest) :
    ∃ S, Interleaves script S ∧ ∀ i, S.rest i = [] := by
  have haccepted := interleaves_accepted hclient hserver
  -- the client learns that it has been accepted
  have hlearned := haccepted.clientTakes hclient.learns
    ⟨accept, List.mem_append_right _ List.mem_cons_self, hserver.accepts⟩ (by
      have hask : ask.awaits ≠ some .accepted := by
        rw [hclient.waits]
        decide
      rw [Scripts.taken_append, hclient.before.taken_eq_zero,
        Scripts.taken_singleton_of_ne hask])
  rw [← List.append_nil after] at hlearned
  have hclientDone := hlearned.client hclient.after
  rw [← List.append_nil rest] at hclientDone
  have hdone := hclientDone.server hrest
  refine ⟨_, hdone, fun i => ?_⟩
  cases i <;> rfl

end Together

/-! ### The two runs -/

section Runs

variable {numOfRetries : ℕ} {o : EstablishOutcomes} {s : MachineType → Conn}
  {S : Scripts MachineType Act} {a : Act} {r : ℤ} {user : PerftestParameters}

/-- What has been done and what is still to do is the script. -/
theorem Reached.trace_eq (h : Reached numOfRetries o s S) (i : MachineType) :
    S.done i ++ S.rest i = (ranOf numOfRetries o s i).trace :=
  Scripts.Reaches.script_eq h i

/-- **The run of the client** is one of `rdma_client_connect`. -/
theorem ranOf_client (numOfRetries : ℕ) (o : EstablishOutcomes)
    (hmachine : ∀ i, (s i).param.machine = i) :
    (∃ ret ret', (ranOf numOfRetries o s .client).out = .ok ret ∧ (ret = 0 ↔ ret' = 0) ∧
      ClientRan numOfRetries o.client (s .client) ret' (ranOf numOfRetries o s .client).state
        (ranOf numOfRetries o s .client).trace) ∨
    ∃ e, (ranOf numOfRetries o s .client).out = .error e ∧
      ClientStuck numOfRetries o.client (s .client) e (ranOf numOfRetries o s .client).state
        (ranOf numOfRetries o s .client).trace := by
  have hpost : Traced.Post (establishConnection numOfRetries o) (s .client) _ _ :=
    post_establishConnection_client (hmachine .client)
  rw [ranOf]
  rcases hrun : establishConnection numOfRetries o (s .client) with ⟨e | ret, s', t⟩
  · exact Or.inr ⟨e, rfl, hpost.of_error hrun⟩
  · obtain ⟨ret', hran, hret⟩ := hpost.of_ok hrun
    exact Or.inl ⟨ret, ret', rfl, hret, hran⟩

/-- The run of the server is one of `rdma_server_connect`, which comes to an end. -/
theorem ranOf_server (numOfRetries : ℕ) (o : EstablishOutcomes)
    (hmachine : ∀ i, (s i).param.machine = i) :
    ∃ ret ret', (ranOf numOfRetries o s .server).out = .ok ret ∧ (ret = 0 ↔ ret' = 0) ∧
      ServerRan o.server (s .server) ret' (ranOf numOfRetries o s .server).state
        (ranOf numOfRetries o s .server).trace := by
  have hpost : Traced.Post (establishConnection numOfRetries o) (s .server) _ _ :=
    post_establishConnection_server (hmachine .server)
  rw [ranOf]
  rcases hrun : establishConnection numOfRetries o (s .server) with ⟨e | ret, s', t⟩
  · exact (hpost.of_error hrun).elim
  · obtain ⟨ret', hran, hret⟩ := hpost.of_ok hrun
    exact ⟨ret, ret', rfl, hret, hran⟩

/-- Whatever the client sends is its request. -/
theorem sends_client (hagree : Agree s) :
    ∀ a ∈ (ranOf numOfRetries o s .client).trace, ∀ m ∈ a.sends,
      m = .request ∧ o.client.ctxInit = 0 ∧ RecvOk o.client (s .client).param := by
  rcases ranOf_client numOfRetries o hagree.machine with ⟨_, _, _, _, hran⟩ | ⟨_, _, hstuck⟩
  · exact hran.sends
  · exact hstuck.sends

/-- A client that succeeds over datagrams has the handle that `ibv_create_ah` has brought
back. -/
theorem handle_client (hagree : Agree s) (hout : (ranOf numOfRetries o s .client).out = .ok 0)
    (hud : (s .client).param.connectionType = .ud) :
    o.client.ctxInit = 0 ∧ RecvOk o.client (s .client).param ∧ 0 < room (s .client).ctx.ah ∧
      handleOf numOfRetries o s .client = o.client.ibvCreateAh := by
  rcases ranOf_client numOfRetries o hagree.machine with
    ⟨ret, ret', hok, hret, hran⟩ | ⟨e, hstop, -⟩
  · rw [hok] at hout
    exact hran.handle (hret.mp (Except.ok.inj hout)) hud
  · rw [hstop] at hout
    cases hout

/-- **A server that waits in vain** is one in the branch, and all the helpers have
succeeded: the request that it has obtained was sent after those of the client. -/
theorem Hung.awaits (hagree : Agree s) (hS : Reached numOfRetries o s S) (h : Hung S) :
    HelpersSucceed o s ∧ (s .server).param.AwaitsAh := by
  obtain ⟨⟨user, r, rest, hrest, -⟩, -⟩ := h
  have hserver := hS.trace_eq .server
  have hclient := hS.trace_eq .client
  obtain ⟨_, _, _, _, hran⟩ := ranOf_server numOfRetries o hagree.machine
  have hmem : .createAhFromWcRecv user r ∈ (ranOf numOfRetries o s .server).trace := by
    rw [← hserver, hrest]
    exact List.mem_append_right _ List.mem_cons_self
  obtain ⟨⟨hawaits, hinit, hrecv⟩, p, q, learn, htrace, hlearn, hnot⟩ := hran.awaits hmem
  -- it has obtained the request
  have hne : Act.createAhFromWcRecv user r ≠ learn := by
    rintro rfl
    cases hlearn
  have hdone : learn ∈ S.done .server :=
    Scripts.mem_done_of_before (hserver.trans htrace) hrest hnot hne
  -- so the client has sent it
  have hle : Scripts.taken Act.awaits (S.done .server) .request ≤
      Scripts.sent Act.sends (S.done .client) .request := Scripts.taken_le_sent hS .server _
  obtain ⟨a, ha, hm⟩ := Scripts.exists_of_sent_pos
    (Nat.lt_of_lt_of_le (Scripts.taken_pos hdone hlearn) hle)
  have hsends : a ∈ (ranOf numOfRetries o s .client).trace := by
    rw [← hclient]
    exact List.mem_append_left _ ha
  obtain ⟨-, hcinit, hcrecv⟩ := sends_client hagree a hsends _ hm
  exact ⟨⟨hcinit, hcrecv, hinit, hrecv⟩, hawaits⟩

/-- **The scripts of the two**, where all their calls succeed. -/
theorem exists_scripts (hagree : Agree s) (hcm : CmSucceeds numOfRetries o)
    (hhelp : HelpersSucceed o s) :
    (∃ before after ask learn,
      ClientScript (ranOf numOfRetries o s .client).trace before after ask learn) ∧
    (0 < room (s .client).ctx.ah → (ranOf numOfRetries o s .client).out = .ok 0) ∧
    ∃ before mid rest listen learn accept,
      ServerScript (ranOf numOfRetries o s .server).trace before mid rest listen learn accept ∧
      ((s .server).param.AwaitsAh → ∃ r q, rest = .createAhFromWcRecv (s .server).param r :: q) ∧
      (¬(s .server).param.AwaitsAh →
        Scripts.Quiet Act.awaits rest ∧ (ranOf numOfRetries o s .server).out = .ok 0) := by
  obtain ⟨k, event, hat, hgot, hkind⟩ := hcm.resolved
  obtain ⟨request, hreq, hreqkind⟩ := hcm.requested
  -- the server first
  obtain ⟨ret, ret', hok, hret, hran⟩ := ranOf_server numOfRetries o hagree.machine
  obtain ⟨before, mid, rest, listen, learn, accept, hserver, hawaits, hno⟩ := hran.script hcm.found
    hcm.bind hcm.listen hreq hreqkind hcm.accept hhelp.serverInit hhelp.receives
  have hserver' : ∃ before mid rest listen learn accept,
      ServerScript (ranOf numOfRetries o s .server).trace before mid rest listen learn accept ∧
      ((s .server).param.AwaitsAh → ∃ r q, rest = .createAhFromWcRecv (s .server).param r :: q) ∧
      (¬(s .server).param.AwaitsAh →
        Scripts.Quiet Act.awaits rest ∧ (ranOf numOfRetries o s .server).out = .ok 0) := by
    refine ⟨before, mid, rest, listen, learn, accept, hserver, hawaits, fun hc => ?_⟩
    obtain ⟨hquiet, hzero⟩ := hno hc
    rw [hok, hret.mpr hzero]
    exact ⟨hquiet, rfl⟩
  rcases ranOf_client numOfRetries o hagree.machine with
    ⟨ret, ret', hout, hret, hran⟩ | ⟨e, -, hstuck⟩
  · obtain ⟨hzero, hclient⟩ := hran.script hat hgot hkind hcm.connect hhelp.clientInit hhelp.recv
    refine ⟨hclient, fun _ => ?_, hserver'⟩
    rw [hout, hret.mpr hzero]
  · obtain ⟨hroom, hclient⟩ := hstuck.script
    exact ⟨hclient, fun hc => absurd hc hroom, hserver'⟩

/-- **In the branch the server comes to wait in vain.** -/
theorem exists_hung (hagree : Agree s) (hcm : CmSucceeds numOfRetries o)
    (hhelp : HelpersSucceed o s) (hawaits : (s .server).param.AwaitsAh) :
    ∃ S, Reached numOfRetries o s S ∧ Hung S := by
  obtain ⟨⟨before, after, ask, learn, hclient⟩, -, before', mid, rest, listen, obtain, accept,
    hserver, hrest, -⟩ := exists_scripts hagree hcm hhelp
  obtain ⟨r, q, rfl⟩ := hrest hawaits
  have hreached : Reached numOfRetries o s _ := interleaves_accepted hclient hserver
  have hnever : ∀ a ∈ (ranOf numOfRetries o s .client).trace, Message.qpNumber ∉ a.sends := by
    intro a ha hm
    cases (sends_client hagree a ha _ hm).1
  refine ⟨_, hreached, ⟨_, r, q, rfl, fun hready => ?_⟩, ?_⟩
  · -- nothing of the kind has been sent
    obtain ⟨a, ha, hm⟩ := Scripts.exists_of_sent_pos
      (Nat.lt_of_le_of_lt (Nat.zero_le _) (hready .qpNumber rfl))
    refine hnever a ?_ hm
    rw [← hreached.trace_eq .client]
    exact List.mem_append_left _ ha
  · rw [hreached.trace_eq .client]
    exact hnever

/-- **Outside of it both come to an end**, and have succeeded. -/
theorem exists_succeeded (hagree : Agree s) (hcm : CmSucceeds numOfRetries o)
    (hhelp : HelpersSucceed o s) (hno : ¬(s .server).param.AwaitsAh)
    (hroom : 0 < room (s .client).ctx.ah) :
    ∃ S, Reached numOfRetries o s S ∧
      ∀ i, S.rest i = [] ∧ (ranOf numOfRetries o s i).out = .ok 0 := by
  obtain ⟨⟨before, after, ask, learn, hclient⟩, hout, before', mid, rest, listen, obtain, accept,
    hserver, -, hquiet⟩ := exists_scripts hagree hcm hhelp
  obtain ⟨hrest, hout'⟩ := hquiet hno
  have hfinished : ∃ S, Reached numOfRetries o s S ∧ ∀ i, S.rest i = [] :=
    interleaves_finished hclient hserver hrest
  obtain ⟨S, hS, hdone⟩ := hfinished
  refine ⟨S, hS, fun i => ⟨hdone i, ?_⟩⟩
  cases i with
  | client => exact hout hroom
  | server => exact hout'

/-- **The two paths agree** exactly when, over datagrams and with helpers that succeed, the
server has nothing to wait for, and the client is given an address handle for every one that it
stores. -/
theorem agreement_iff (hagree : Agree s) (hcm : CmSucceeds numOfRetries o) :
    Agreement numOfRetries o s ↔
      (HelpersSucceed o s → (s .client).param.connectionType = .ud →
        ¬(s .server).param.AwaitsAh ∧
          (0 < room (s .client).ctx.ah → o.client.ibvCreateAh ≠ none)) := by
  constructor
  · intro hall hhelp hud
    -- the server must not take the branch
    have hno : ¬(s .server).param.AwaitsAh := by
      intro hawaits
      obtain ⟨S, hS, hhung⟩ := exists_hung hagree hcm hhelp hawaits
      exact (hall S hS).1 hhung
    -- and then both finish
    refine ⟨hno, fun hroom => ?_⟩
    obtain ⟨S, hS, hdone⟩ := exists_succeeded hagree hcm hhelp hno hroom
    rw [← (handle_client hagree (hdone .client).2 hud).2.2.2]
    exact ((hall S hS).2 hdone hud).1
  · intro hcond S hS
    refine ⟨fun hhung => ?_, fun hdone hud => ?_⟩
    · obtain ⟨hhelp, hawaits⟩ := hhung.awaits hagree hS
      have hud : (s .client).param.connectionType = .ud :=
        hagree.connectionType.trans hawaits.2.1
      exact (hcond hhelp hud).1 hawaits
    · obtain ⟨hinit, hrecv, hroom, hhandle⟩ := handle_client hagree (hdone .client).2 hud
      obtain ⟨ret, ret', hok, hret, hran⟩ :=
        ranOf_server numOfRetries o hagree.machine
      have hzero : ret' = 0 := hret.mp (Except.ok.inj (hok.symm.trans (hdone .server).2))
      obtain ⟨hinit', hrecv'⟩ := hran.helpers hzero
      obtain ⟨hno, hcreate⟩ := hcond ⟨hinit, hrecv, hinit', hrecv'⟩ hud
      refine ⟨?_, ?_⟩
      · rw [hhandle]
        exact hcreate hroom
      · rintro ⟨user, r, hmem⟩
        -- a server that does not take the branch has not waited
        have hwaits : .createAhFromWcRecv user r ∈ (ranOf numOfRetries o s .server).trace := by
          rw [← hS.trace_eq .server]
          exact List.mem_append_left _ hmem
        exact absurd (hran.awaits hwaits).1.1 hno

end Runs

/-! ### A connection over datagrams -/

namespace Sample

/-- Two parties that measure the latency of datagrams, on a connection of their own. -/
def udPair (i : MachineType) : Conn :=
  ⟨{ user with machine := i, connectionType := .ud, workRdmaCm := ON }, ctx⟩

/-- Calls that all succeed. -/
def both : EstablishOutcomes := ⟨client, server⟩

theorem agree_udPair : Agree udPair := by
  constructor <;> first | rfl | exact fun i => rfl

theorem cmSucceeds_both : CmSucceeds 2 both := by
  refine ⟨⟨2, event .established, ⟨⟨found, rfl, rfl⟩, 0, 0, by decide, rfl, ?_, ?_⟩, rfl, rfl⟩,
    rfl, ⟨found, rfl, rfl⟩, rfl, rfl, ⟨_, rfl, rfl⟩, rfl⟩
  · exact goesThrough_zero.mpr ⟨rfl, rfl⟩
  · exact goesThrough_zero.mpr ⟨rfl, rfl⟩

theorem helpersSucceed_both : HelpersSucceed both udPair :=
  ⟨rfl, fun _ => rfl, rfl, fun _ => rfl, fun _ _ _ => rfl⟩

end Sample

theorem agreement_iff_sample : Agreement 2 Sample.both Sample.udPair ↔
    (HelpersSucceed Sample.both Sample.udPair →
      (Sample.udPair .client).param.connectionType = .ud →
        ¬(Sample.udPair .server).param.AwaitsAh ∧
          (0 < room (Sample.udPair .client).ctx.ah → Sample.both.client.ibvCreateAh ≠ none)) :=
  agreement_iff Sample.agree_udPair Sample.cmSucceeds_both

/-- **A latency test over datagrams**: the server waits for ever. -/
theorem not_agreement_of_lat : ¬Agreement 2 Sample.both Sample.udPair := by
  intro hall
  obtain ⟨S, hS, hhung⟩ := exists_hung Sample.agree_udPair Sample.cmSucceeds_both
    Sample.helpersSucceed_both (by decide)
  exact (hall S hS).1 hhung

end Connection
