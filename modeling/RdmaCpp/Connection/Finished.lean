import RdmaCpp.Connection.Agreed
import RdmaCpp.Lib.Settled

/-!
# Where two parties that connect come to rest

The two parties of `Connection.Agreed` take turns in any order. It does not matter which:
what one waits for, the other does not take away, so that all interleavings come to rest at
the same cut (`Connection.Reached.eq_of_stands`), whatever the calls bring back. What is left to
find out is which cut that is.

Both come to their end exactly when the helpers between the calls of the connection manager –
`ctx_init`, and the receives that are posted – succeed for both, and the server is not in the
branch in which it waits for a queue pair number (`Connection.finishes_iff`): a helper that
fails makes its party return without the message that the other waits for, which is then
**blocked for ever**. In the branch, with
helpers that succeed, the client comes to its end, and the server to the call in which it
waits in vain (`Connection.hung_of_stands`).

A client that has no room for the address handle that it stores comes to its end there, and
not by a return: nothing that it would have done after that is anything the server waits for.
-/

namespace Connection

/-- **Going on** from a cut. -/
def Continues (S S' : Scripts MachineType Act) : Prop :=
  Scripts.Reaches (Scripts.Ready Act.sends Act.awaits MachineType.peer) S S'

/-- **Neither party can get on.** -/
def Stands (S : Scripts MachineType Act) : Prop :=
  Scripts.Blocked (Scripts.Ready Act.sends Act.awaits MachineType.peer) S

/-- **Both parties have come to the end** of what they do. That is a return, or, for a client,
the store into an array of address handles without room. -/
def BothDone (S : Scripts MachineType Act) : Prop := ∀ i, S.rest i = []

/-- **Nothing deadlocks**: wherever the two have got to, they can get to the end. -/
def Finishes (numOfRetries : ℕ) (o : EstablishOutcomes) (s : MachineType → Conn) : Prop :=
  ∀ S, Reached numOfRetries o s S → ∃ S', Continues S S' ∧ BothDone S'

instance : Fintype MachineType where
  elems := {.client, .server}
  complete i := by cases i <;> decide

variable {numOfRetries : ℕ} {o : EstablishOutcomes} {s : MachineType → Conn}
  {S B : Scripts MachineType Act}

theorem Reached.continues {S' : Scripts MachineType Act} (h : Reached numOfRetries o s S)
    (h' : Continues S S') : Reached numOfRetries o s S' :=
  Relation.ReflTransGen.trans h h'

theorem BothDone.stands (h : BothDone S) : Stands S := Scripts.blocked_of_finished h

/-- Where one interleaving comes to rest, every other one does. -/
theorem Reached.continues_to (hB : Reached numOfRetries o s B) (hstands : Stands B)
    (h : Reached numOfRetries o s S) : Continues S B :=
  Scripts.Reaches.to_blocked Scripts.steady_ready hB hstands h

theorem Reached.eq_of_stands (hB : Reached numOfRetries o s B) (hstands : Stands B)
    (h : Reached numOfRetries o s S) (h' : Stands S) : S = B :=
  Scripts.Reaches.eq_of_blocked Scripts.steady_ready h h' hB hstands

/-! ### What a party must have had -/

section Server

variable {o : ServerOutcomes} {s s' : Conn} {res : AddrInfo} {event : CmEvent} {ret : ℤ}
  {t : List Act} {a : Act}

theorem sends_receiveActs (user : PerftestParameters) : ∀ a ∈ receiveActs o user, a.sends = [] := by
  rw [receiveActs]
  split_ifs
  · exact List.forall_mem_singleton.mpr rfl
  · exact List.forall_mem_singleton.mpr rfl
  · exact fun a ha => absurd ha List.not_mem_nil

/-- A server says that it has accepted only when its helpers have succeeded. -/
theorem AcceptRan.accepted (h : AcceptRan o res event s ret s' t) (ha : a ∈ t)
    (hm : Message.accepted ∈ a.sends) : o.ctxInit = 0 ∧ ReceivesOk o s.param := by
  cases h with
  | noInit =>
    rw [List.mem_singleton.mp ha] at hm
    exact absurd hm List.not_mem_nil
  | noReceive =>
    rcases List.mem_cons.mp ha with rfl | ha
    · exact absurd hm List.not_mem_nil
    · rw [sends_receiveActs _ a ha] at hm
      exact absurd hm List.not_mem_nil
  | noAccept hinit hrecv | noAh hinit hrecv | done hinit hrecv => exact ⟨hinit, hrecv⟩

/-- What comes before the event says only that the server listens. -/
theorem sends_listenActs (ha : a ∈ listenActs o res s) : Message.accepted ∉ a.sends := by
  intro hm
  simp only [listenActs, bindActs, lookUpActs, List.mem_append, List.mem_cons, List.not_mem_nil,
    or_false] at ha
  rcases ha with ((rfl | rfl) | rfl)
  · exact absurd hm List.not_mem_nil
  · exact absurd hm List.not_mem_nil
  · rw [Act.sends] at hm
    split_ifs at hm
    · exact absurd (List.mem_singleton.mp hm) (by decide)
    · exact absurd hm List.not_mem_nil

theorem ServerRan.accepted (h : ServerRan o s ret s' t) (ha : a ∈ t)
    (hm : Message.accepted ∈ a.sends) : o.ctxInit = 0 ∧ ReceivesOk o s.param := by
  cases h with
  | noAddress =>
    simp only [lookUpActs, List.mem_singleton] at ha
    subst ha
    exact absurd hm List.not_mem_nil
  | noBind =>
    simp only [bindActs, lookUpActs, List.mem_append, List.mem_singleton] at ha
    rcases ha with rfl | rfl <;> exact absurd hm List.not_mem_nil
  | noListen => exact absurd hm (sends_listenActs ha)
  | noEvent | badEvent =>
    rcases List.mem_append.mp ha with ha | ha
    · exact absurd hm (sends_listenActs ha)
    · simp only [List.mem_cons, List.not_mem_nil, or_false] at ha
      rcases ha with rfl | rfl | rfl <;> exact absurd hm List.not_mem_nil
  | ran _ _ _ _ _ _ hran =>
    rcases List.mem_append.mp ha with ha | ha
    · exact absurd hm (sends_listenActs ha)
    · simp only [List.mem_cons, List.mem_append] at ha
      rcases ha with rfl | rfl | rfl | ha | ha
      · exact absurd hm List.not_mem_nil
      · exact absurd hm List.not_mem_nil
      · exact absurd hm List.not_mem_nil
      · rw [allocActs] at ha
        split_ifs at ha
        · rw [List.mem_singleton.mp ha] at hm
          exact absurd hm List.not_mem_nil
        · exact absurd ha List.not_mem_nil
      · exact hran.accepted ha hm

/-- A server to which the request comes has taken it. -/
theorem ServerRan.requested (h : ServerRan o s ret s' t) (hfound : Found o.checkAddPort)
    (hbind : o.rdmaBindAddr = 0) (hlisten : o.rdmaListen = 0)
    (hgot : o.rdmaGetCmEvent = some event) (hkind : event.event = .connectRequest) :
    ∃ a ∈ t, a.awaits = some .request := by
  cases h with
  | noAddress h => exact absurd hfound h
  | noBind _ _ h => exact absurd hbind h
  | noListen _ _ _ h => exact absurd hlisten h
  | noEvent _ _ _ _ hnone =>
    rw [hgot] at hnone
    cases hnone
  | badEvent _ _ _ _ hgot' hother =>
    rw [hgot] at hgot'
    cases hgot'
    exact absurd hkind hother
  | ran _ _ _ _ hgot' hkind' =>
    refine ⟨_, List.mem_append_right _ List.mem_cons_self, ?_⟩
    rw [Act.awaits, if_pos hkind']

end Server

/-! ### Who has come to the end -/

/-- **What a party has taken**, that has come to its end, the other has sent. -/
theorem Reached.sent {i : MachineType} {a : Act} {m : Message} (h : Reached numOfRetries o s S)
    (hdone : S.rest i = []) (ha : a ∈ (ranOf numOfRetries o s i).trace)
    (hm : a.awaits = some m) : ∃ b ∈ (ranOf numOfRetries o s i.peer).trace, m ∈ b.sends := by
  have hself := h.trace_eq i
  rw [hdone, List.append_nil] at hself
  have hle : Scripts.taken Act.awaits (S.done i) m ≤ Scripts.sent Act.sends (S.done i.peer) m :=
    Scripts.taken_le_sent h i m
  obtain ⟨b, hb, hmb⟩ := Scripts.exists_of_sent_pos
    (Nat.lt_of_lt_of_le (Scripts.taken_pos (hself ▸ ha) hm) hle)
  refine ⟨b, ?_, hmb⟩
  rw [← h.trace_eq i.peer]
  exact List.mem_append_left _ hb

/-- Where both have come to the end, the client has sent its request. -/
theorem BothDone.client (hagree : Agree s) (hcm : CmSucceeds numOfRetries o)
    (h : Reached numOfRetries o s S) (hdone : BothDone S) :
    o.client.ctxInit = 0 ∧ RecvOk o.client (s .client).param := by
  obtain ⟨_, hreq, hkind⟩ := hcm.requested
  obtain ⟨_, _, -, -, hran⟩ := ranOf_server numOfRetries o hagree.machine
  obtain ⟨a, ha, hm⟩ := hran.requested hcm.found hcm.bind hcm.listen hreq hkind
  obtain ⟨b, hb, hmb⟩ := h.sent (hdone .server) ha hm
  exact (sends_client hagree b hb _ hmb).2

/-- And the server has accepted it. -/
theorem BothDone.server (hagree : Agree s) (hcm : CmSucceeds numOfRetries o)
    (h : Reached numOfRetries o s S) (hdone : BothDone S) :
    o.server.ctxInit = 0 ∧ ReceivesOk o.server (s .server).param := by
  obtain ⟨hinit, hrecv⟩ := hdone.client hagree hcm h
  obtain ⟨k, event, hat, hgot, hkind⟩ := hcm.resolved
  -- the client has learnt that it was accepted
  have hlearns : ∃ learn ∈ (ranOf numOfRetries o s .client).trace,
      learn.awaits = some .accepted := by
    have hscript : ∃ before after ask learn,
        ClientScript (ranOf numOfRetries o s .client).trace before after ask learn := by
      rcases ranOf_client numOfRetries o hagree.machine with ⟨_, _, _, _, hran⟩ | ⟨_, _, hstuck⟩
      · exact (hran.script hat hgot hkind hcm.connect hinit hrecv).2
      · exact hstuck.script.2
    obtain ⟨before, after, ask, learn, hclient⟩ := hscript
    refine ⟨learn, ?_, hclient.learns⟩
    rw [hclient.eq]
    exact List.mem_append_right _ (List.mem_cons_of_mem _ List.mem_cons_self)
  obtain ⟨learn, hlearn, hm⟩ := hlearns
  obtain ⟨b, hb, hmb⟩ := h.sent (hdone .client) hlearn hm
  obtain ⟨_, _, -, -, hran⟩ := ranOf_server numOfRetries o hagree.machine
  exact hran.accepted hb hmb

theorem BothDone.helpers (hagree : Agree s) (hcm : CmSucceeds numOfRetries o)
    (h : Reached numOfRetries o s S) (hdone : BothDone S) : HelpersSucceed o s := by
  obtain ⟨hclientInit, hrecv⟩ := hdone.client hagree hcm h
  obtain ⟨hserverInit, hreceives⟩ := hdone.server hagree hcm h
  exact ⟨hclientInit, hrecv, hserverInit, hreceives⟩

/-- And the server has not waited for a queue pair number, which nobody has sent. -/
theorem BothDone.not_awaits (hagree : Agree s) (hcm : CmSucceeds numOfRetries o)
    (h : Reached numOfRetries o s S) (hdone : BothDone S) : ¬(s .server).param.AwaitsAh := by
  intro hawaits
  obtain ⟨-, -, before', mid, rest, listen, learn, accept, hserver, hrest, -⟩ :=
    exists_scripts hagree hcm (hdone.helpers hagree hcm h)
  obtain ⟨r, q, rfl⟩ := hrest hawaits
  have hmem : .createAhFromWcRecv (s .server).param r ∈ (ranOf numOfRetries o s .server).trace := by
    rw [hserver.eq]
    simp
  obtain ⟨b, hb, hmb⟩ := h.sent (hdone .server) hmem rfl
  cases (sends_client hagree b hb _ hmb).1

/-- The two come to the end where the calls and the helpers succeed, and there is nothing to
wait for. -/
theorem exists_bothDone (hagree : Agree s) (hcm : CmSucceeds numOfRetries o)
    (hhelp : HelpersSucceed o s) (hno : ¬(s .server).param.AwaitsAh) :
    ∃ S, Reached numOfRetries o s S ∧ BothDone S := by
  obtain ⟨⟨before, after, ask, learn, hclient⟩, -, before', mid, rest, listen, obtain, accept,
    hserver, -, hquiet⟩ := exists_scripts hagree hcm hhelp
  exact interleaves_finished hclient hserver (hquiet hno).1

/-- **Nothing deadlocks** exactly when the helpers of both succeed and the server does not wait
for a queue pair number; and otherwise no interleaving at all comes to the end. -/
theorem finishes_iff (hagree : Agree s) (hcm : CmSucceeds numOfRetries o) :
    (Finishes numOfRetries o s ↔ HelpersSucceed o s ∧ ¬(s .server).param.AwaitsAh) ∧
      ((∃ S, Reached numOfRetries o s S ∧ BothDone S) ↔ Finishes numOfRetries o s) := by
  have hsome : (∃ S, Reached numOfRetries o s S ∧ BothDone S) →
      HelpersSucceed o s ∧ ¬(s .server).param.AwaitsAh := by
    rintro ⟨S, hS, hdone⟩
    exact ⟨hdone.helpers hagree hcm hS, hdone.not_awaits hagree hcm hS⟩
  have hall : (∃ S, Reached numOfRetries o s S ∧ BothDone S) → Finishes numOfRetries o s := by
    rintro ⟨B, hB, hdone⟩ S hS
    exact ⟨B, hB.continues_to hdone.stands hS, hdone⟩
  have hstart : Finishes numOfRetries o s → ∃ S, Reached numOfRetries o s S ∧ BothDone S := by
    intro hfin
    have hrefl : Reached numOfRetries o s _ := Relation.ReflTransGen.refl
    obtain ⟨S, hcont, hdone⟩ := hfin _ hrefl
    exact ⟨S, hrefl.continues hcont, hdone⟩
  refine ⟨⟨fun hfin => hsome (hstart hfin), ?_⟩, hall, hstart⟩
  rintro ⟨hhelp, hno⟩
  exact hall (exists_bothDone hagree hcm hhelp hno)

theorem finishes_iff_sample :
    (Finishes 2 Sample.both Sample.udPair ↔
      HelpersSucceed Sample.both Sample.udPair ∧ ¬(Sample.udPair .server).param.AwaitsAh) ∧
      ((∃ S, Reached 2 Sample.both Sample.udPair S ∧ BothDone S) ↔
        Finishes 2 Sample.both Sample.udPair) :=
  finishes_iff Sample.agree_udPair Sample.cmSucceeds_both

/-! ### The branch in which the server waits -/

/-- **The client comes to its end**, and the server to what it has to do after it has
accepted. -/
theorem interleaves_clientDone {script : MachineType → List Act}
    {before after before' mid rest : List Act} {ask learn listen obtain accept : Act}
    (hclient : ClientScript (script .client) before after ask learn)
    (hserver : ServerScript (script .server) before' mid rest listen obtain accept) :
    Interleaves script (cut (before ++ [ask] ++ [learn] ++ after) []
      (before' ++ [listen] ++ [obtain] ++ mid ++ [accept]) rest) := by
  have hask : ask.awaits ≠ some .accepted := by
    rw [hclient.waits]
    decide
  have hlearned := (interleaves_accepted hclient hserver).clientTakes hclient.learns
    ⟨accept, List.mem_append_right _ List.mem_cons_self, hserver.accepts⟩ (by
      rw [Scripts.taken_append, hclient.before.taken_eq_zero,
        Scripts.taken_singleton_of_ne hask])
  rw [← List.append_nil after] at hlearned
  simpa only [List.append_nil] using hlearned.client hclient.after

/-- **In the branch**, with helpers that succeed, all interleavings come to rest where the
client has come to its end, and the server waits for a queue pair number in vain. The end of
the client is a success, where it has room for the address handle. -/
theorem hung_of_stands (hagree : Agree s) (hcm : CmSucceeds numOfRetries o)
    (hhelp : HelpersSucceed o s) (hawaits : (s .server).param.AwaitsAh)
    (h : Reached numOfRetries o s S) (hstands : Stands S) :
    Hung S ∧ S.rest .client = [] ∧
      (0 < room (s .client).ctx.ah → (ranOf numOfRetries o s .client).out = .ok 0) := by
  obtain ⟨⟨before, after, ask, learn, hclient⟩, hout, before', mid, rest, listen, obtain, accept,
    hserver, hrest, -⟩ := exists_scripts hagree hcm hhelp
  obtain ⟨r, q, rfl⟩ := hrest hawaits
  have hB : Reached numOfRetries o s _ := interleaves_clientDone hclient hserver
  have hnever : ∀ a ∈ (ranOf numOfRetries o s .client).trace, Message.qpNumber ∉ a.sends := by
    intro a ha hm
    cases (sends_client hagree a ha _ hm).1
  -- the number that the server waits for is not among what the client has sent
  have hwait : ∀ {T}, Reached numOfRetries o s T →
      ¬Scripts.Ready Act.sends Act.awaits MachineType.peer T.done .server
        (.createAhFromWcRecv (s .server).param r) := by
    intro T hT hready
    obtain ⟨a, ha, hm⟩ := Scripts.exists_of_sent_pos
      (Nat.lt_of_le_of_lt (Nat.zero_le _) (hready .qpNumber rfl))
    refine hnever a ?_ hm
    rw [← hT.trace_eq .client]
    exact List.mem_append_left _ ha
  have hBstands : Stands (cut (before ++ [ask] ++ [learn] ++ after) []
      (before' ++ [listen] ++ [obtain] ++ mid ++ [accept])
      (.createAhFromWcRecv (s .server).param r :: q)) := by
    rintro _ @⟨i, a, r', hnext, hready⟩
    cases i with
    | client => cases hnext
    | server =>
      obtain ⟨rfl, rfl⟩ := List.cons.inj hnext
      exact hwait hB hready
  obtain rfl := hB.eq_of_stands hBstands h hstands
  refine ⟨⟨⟨_, r, q, rfl, hwait h⟩, ?_⟩, rfl, hout⟩
  rw [h.trace_eq .client]
  exact hnever

theorem hung_of_stands_sample :
    ∃ S, Reached 2 Sample.both Sample.udPair S ∧ Hung S ∧ S.rest .client = [] ∧
      (0 < room (Sample.udPair .client).ctx.ah →
        (ranOf 2 Sample.both Sample.udPair .client).out = .ok 0) := by
  obtain ⟨B, hB, hstands⟩ := Scripts.exists_blocked
    (Scripts.Ready Act.sends Act.awaits MachineType.peer)
    (Scripts.start fun i => (ranOf 2 Sample.both Sample.udPair i).trace)
  exact ⟨B, hB, hung_of_stands Sample.agree_udPair Sample.cmSucceeds_both
    Sample.helpersSucceed_both (by decide) hB hstands⟩

end Connection
