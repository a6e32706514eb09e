import RdmaCpp.Connection.Finished

/-!
# The two parties never wait for each other

In a connection that goes wrong – a call that fails, an event that nobody expects, two parties
whose parameters do not agree – one of the two may be left waiting. It never waits for one that
waits itself. The messages of the two are ranked in the order of the handshake
(`Connection.Message.rank`), and whoever waits for one has sent what comes before it: the client
waits for the news that it was accepted only after its request, and the server waits for a queue
pair number only after it has listened and accepted (`Connection.turns`). All the ways out of the
two functions keep to that (`Connection.ClientRan.inTurn`, `Connection.ServerRan.inTurn`), the
early returns as well.

So every interleaving comes to rest at one cut, at which each of the two has come to its end or
waits for something that the other, which has come to its end, never sends
(`Connection.exists_stands`). What that takes of the connection manager is that it reports
nothing out of place (`Connection.Plausible`).
-/

namespace Connection

/-- The party that a message is meant for. -/
def Message.meant : Message → MachineType
  | .listening | .accepted => .client
  | .request | .qpNumber => .server

/-- The place of a message in the handshake. -/
def Message.rank : Message → ℕ
  | .listening => 0
  | .request => 1
  | .accepted => 2
  | .qpNumber => 3

/-- **The monitor of a party** that waits in turn. -/
def turns (i : MachineType) : Monitor (List Act) Act :=
  Scripts.inTurn Act.sends Act.awaits MachineType.peer Message.meant Message.rank i

section Client

variable {numOfRetries k n : ℕ} {o : ClientOutcomes} {s s' : Conn} {ret : ℤ} {e : Stop}
  {t : List Act}

/-- A client that connects. -/
theorem ClientScript.inTurn {before after : List Act} {ask learn : Act}
    (h : ClientScript t before after ask learn) : (turns .client).Accepts [] t := by
  have htaken : Scripts.taken Act.awaits (before ++ [ask]) .accepted = 0 := by
    have hask : ask.awaits ≠ some .accepted := by
      rw [h.waits]
      decide
    rw [Scripts.taken_append, h.before.taken_eq_zero, Scripts.taken_singleton_of_ne hask]
  rw [h.eq, turns, Monitor.accepts_append, Scripts.inTurn_after, List.nil_append]
  refine ⟨h.before.inTurn [], Scripts.inTurn_cons h.waits rfl
    (h.before.taken_eq_zero _) (fun m _ hlt => absurd hlt (Nat.not_lt_zero m.rank)) ?_⟩
  refine Scripts.inTurn_cons h.learns rfl htaken (fun m hmeant hlt => ?_) (h.after.inTurn _)
  -- before the news comes the request
  cases m with
  | request => exact Scripts.sent_pos (List.mem_append_right _ List.mem_cons_self) h.asks
  | listening | accepted => cases hmeant
  | qpNumber => exact absurd hlt (by decide)

/-- A client that asks, and then waits for nothing. -/
theorem inTurn_connectActs {t' : List Act} {user : PerftestParameters}
    (h : Resolves n t) (hleads : LeadsOn t) (hquiet : Scripts.Quiet Act.awaits t') :
    (turns .client).Accepts [] (t ++ .ctxInit user ret :: (connectActs o s ++ t')) := by
  have hbefore : Scripts.Quiet Act.awaits (t ++ .ctxInit user ret :: recvActs o s.param) :=
    h.quiet_initialised hleads user s.param
  have hacts : t ++ .ctxInit user ret :: (connectActs o s ++ t') =
      (t ++ .ctxInit user ret :: recvActs o s.param) ++
        .rdmaConnect s.ctx.cmId (connParamOf s.param) o.rdmaConnect :: t' := by
    simp only [connectActs, List.append_assoc, List.cons_append, List.nil_append]
  rw [hacts, turns, Monitor.accepts_append, Scripts.inTurn_after, List.nil_append]
  refine ⟨hbefore.inTurn [], ?_⟩
  by_cases hok : o.rdmaConnect = 0
  · have hwaits : (Act.rdmaConnect s.ctx.cmId (connParamOf s.param) o.rdmaConnect).awaits =
        some .listening := by
      rw [Act.awaits, if_pos hok]
    exact Scripts.inTurn_cons hwaits rfl (hbefore.taken_eq_zero _)
      (fun m _ hlt => absurd hlt (Nat.not_lt_zero m.rank)) (hquiet.inTurn _)
  · refine Scripts.Quiet.inTurn (Scripts.Quiet.cons ?_ hquiet) _
    rw [Act.awaits, if_neg hok]

/-- **The client waits in turn**, on each of its ways out. -/
theorem ClientRan.inTurn (h : ClientRan numOfRetries o s ret s' t)
    (hrequest : ∀ k event, o.rdmaGetCmEvent k = some event → event.event ≠ .connectRequest)
    (hresolved : ∀ k event, o.rdmaGetCmEvent k = some event → event.event = .established →
      ∃ k', ResolvedAt numOfRetries o k') :
    (turns .client).Accepts [] t := by
  cases h with
  | unresolved h hno hdelivered =>
    refine Scripts.Quiet.inTurn (h.quiet_of fun channel event he => ?_) _
    rcases hdelivered channel event he with hkind | ⟨k, hgot⟩
    · exact ne_of_ofResolution hkind
    · refine ⟨hrequest k event hgot, fun hkind => ?_⟩
      obtain ⟨k', hat⟩ := hresolved k event hgot hkind
      exact hno k' hat
  | noInit h _ _ hleads =>
    exact ((h.quiet hleads).append (Scripts.Quiet.cons rfl Scripts.quiet_nil)).inTurn _
  | ran h _ hleads _ hran =>
    cases hran with
    | noRecv => exact (h.quiet_initialised hleads _ _).inTurn _
    | noConnect =>
      rw [← List.append_nil (connectActs _ _)]
      exact inTurn_connectActs h hleads Scripts.quiet_nil
    | noEvent =>
      exact inTurn_connectActs h hleads (Scripts.Quiet.cons rfl Scripts.quiet_nil)
    | @unexpected event _ _ hgot hkind =>
      refine inTurn_connectActs h hleads (Scripts.Quiet.cons ?_ (by
        simp [Scripts.Quiet, Act.awaits]))
      rw [Act.awaits, if_neg (hrequest _ event hgot), if_neg hkind]
    | done _ hok _ hkind =>
      exact (clientScript_of_pieces h hleads hok hkind
        (by simp [Scripts.Quiet, Act.awaits])).inTurn
    | doneUd _ hok _ hkind =>
      exact (clientScript_of_pieces h hleads hok hkind
        ((quiet_ahActs _ _).append (by simp [Scripts.Quiet, Act.awaits]))).inTurn

theorem ClientStuck.inTurn (h : ClientStuck numOfRetries o s e s' t) :
    (turns .client).Accepts [] t := by
  obtain ⟨-, _, _, _, _, hscript⟩ := h.script
  exact hscript.inTurn

end Client

/-! ### The server -/

section Server

variable {o : ServerOutcomes} {s s' : Conn} {res : AddrInfo} {event : CmEvent} {ret : ℤ}
  {t t₀ : List Act}

theorem quiet_listenActs (o : ServerOutcomes) (res : AddrInfo) (s : Conn) :
    Scripts.Quiet Act.awaits (listenActs o res s) := by
  simp [Scripts.Quiet, listenActs, bindActs, lookUpActs, Act.awaits]

theorem quiet_acceptActs (o : ServerOutcomes) (s : Conn) :
    Scripts.Quiet Act.awaits (acceptActs o s) :=
  Scripts.Quiet.cons rfl
    ((quiet_receiveActs o s.param).append (Scripts.Quiet.cons rfl Scripts.quiet_nil))

/-- The wait for a queue pair number, after `rdma_accept`. -/
theorem inTurn_acceptActs {t' : List Act} (hok : o.rdmaAccept = 0)
    (htaken : Scripts.taken Act.awaits t₀ .qpNumber = 0)
    (hlistens : 0 < Scripts.sent Act.sends t₀ .listening) (hquiet : Scripts.Quiet Act.awaits t') :
    (turns .server).Accepts t₀ (acceptActs o s ++ (awaitActs o s.param ++ t')) := by
  have haccept := quiet_acceptActs o s
  rw [turns, Monitor.accepts_append, Scripts.inTurn_after]
  refine ⟨haccept.inTurn t₀, ?_⟩
  by_cases hawaits : s.param.AwaitsAh
  swap
  · rw [awaitActs, if_neg hawaits]
    exact hquiet.inTurn _
  rw [awaitActs, if_pos hawaits]
  refine Scripts.inTurn_cons rfl rfl ?_ (fun m hmeant _ => ?_) (hquiet.inTurn _)
  · rw [Scripts.taken_append, htaken, haccept.taken_eq_zero]
  · rw [Scripts.sent_append]
    cases m with
    | listening => exact Nat.add_pos_left hlistens _
    | accepted =>
      refine Nat.add_pos_right _ (Scripts.sent_pos (List.mem_cons_of_mem _
        (List.mem_append_right _ List.mem_cons_self)) ?_)
      rw [Act.sends, if_pos hok]
      exact List.mem_cons_self
    | request | qpNumber => cases hmeant

theorem AcceptRan.inTurn (h : AcceptRan o res event s ret s' t)
    (htaken : Scripts.taken Act.awaits t₀ .qpNumber = 0)
    (hlistens : 0 < Scripts.sent Act.sends t₀ .listening) : (turns .server).Accepts t₀ t := by
  cases h with
  | noInit => exact (Scripts.Quiet.cons rfl Scripts.quiet_nil).inTurn _
  | noReceive => exact (Scripts.Quiet.cons rfl (quiet_receiveActs o s.param)).inTurn _
  | noAccept => exact (quiet_acceptActs o s).inTurn _
  | noAh _ _ hok =>
    rw [← List.append_nil (awaitActs _ _)]
    exact inTurn_acceptActs hok htaken hlistens Scripts.quiet_nil
  | done _ _ hok =>
    exact inTurn_acceptActs hok htaken hlistens (by simp [Scripts.Quiet, Act.awaits])

/-- **The server waits in turn**, on each of its ways out. -/
theorem ServerRan.inTurn (h : ServerRan o s ret s' t)
    (hserver : ∀ event, o.rdmaGetCmEvent = some event → event.event ≠ .established) :
    (turns .server).Accepts [] t := by
  cases h with
  | noAddress | noBind =>
    exact Scripts.Quiet.inTurn (by simp [Scripts.Quiet, bindActs, lookUpActs, Act.awaits]) _
  | noListen => exact (quiet_listenActs o _ s).inTurn _
  | noEvent =>
    exact ((quiet_listenActs o _ s).append (Scripts.Quiet.cons rfl Scripts.quiet_nil)).inTurn _
  | @badEvent _ event _ _ _ _ hgot hkind =>
    refine ((quiet_listenActs o _ s).append (Scripts.Quiet.cons ?_ (by
      simp [Scripts.Quiet, Act.awaits]))).inTurn _
    rw [Act.awaits, if_neg hkind, if_neg (hserver event hgot)]
  | @ran res event _ _ t _ _ _ hlisten _ hkind hran =>
    have hquiet := quiet_listenActs o res s
    -- it listens before it looks for a request
    have hlistens : 0 < Scripts.sent Act.sends (listenActs o res s) .listening := by
      refine Scripts.sent_pos (List.mem_append_right _ List.mem_cons_self) ?_
      rw [Act.sends, if_pos hlisten]
      exact List.mem_cons_self
    have hgets : (Act.rdmaGetCmEvent s.ctx.cmChannel (some event)).awaits = some .request := by
      rw [Act.awaits, if_pos hkind]
    have hmid : Scripts.Quiet Act.awaits
        (.readEvent event :: .readEvent event :: allocActs s.param) :=
      Scripts.Quiet.cons rfl (Scripts.Quiet.cons rfl (quiet_allocActs s.param))
    have hrest : (turns .server).Accepts (listenActs o res s ++
        [.rdmaGetCmEvent s.ctx.cmChannel (some event)] ++
          (.readEvent event :: .readEvent event :: allocActs s.param)) t := by
      refine hran.inTurn ?_ ?_
      · rw [Scripts.taken_append, Scripts.taken_append, hquiet.taken_eq_zero,
          hmid.taken_eq_zero, Scripts.taken_singleton_of_ne (by rw [hgets]; decide)]
      · rw [Scripts.sent_append, Scripts.sent_append]
        exact Nat.add_pos_left (Nat.add_pos_left hlistens _) _
    rw [turns, Monitor.accepts_append, Scripts.inTurn_after, List.nil_append]
    refine ⟨hquiet.inTurn [], Scripts.inTurn_cons hgets rfl (hquiet.taken_eq_zero _)
      (fun m hmeant hlt => ?_) ?_⟩
    · cases m with
      | listening => exact hlistens
      | accepted => exact absurd hlt (by decide)
      | request | qpNumber => cases hmeant
    · refine ((turns .server).accepts_append _
        (.readEvent event :: .readEvent event :: allocActs s.param) t).mpr ⟨hmid.inTurn _, ?_⟩
      rw [turns, Scripts.inTurn_after]
      exact hrest

end Server

/-! ### Where the two come to rest -/

section Runs

variable {numOfRetries : ℕ} {o : EstablishOutcomes} {s : MachineType → Conn}

end Runs

namespace Sample

end Sample

end Connection
