import RdmaCpp.Transport.Connected
import RdmaCpp.Transport.Handshake

/-!
# The flag is set too late

The flag of a party is set by an event that reports a connection, and in the handshake of
`RdmaCpp.Transport.Handshake` there is none before the server has accepted a request. But by
then the server has found the id of the request to be another one than its own, and has
disconnected. So in no interleaving there is a moment at which a party takes itself to be
connected and the server has **not yet given the connection up**
(`Transport.givenUp_of_connected`): not even the client, for which every call has succeeded.
-/

namespace Transport

/-- Nobody takes itself to be connected. -/
def Unflagged (net : Handshake) : Prop :=
  ∀ side c, (net.state side).ctx = some c → c.connected ≠ 1

/-- The handling of a resolution leaves the flag alone. -/
theorem Handled.connected_eq {config : RdmaParam} {o : HandlerOutcomes} {event : CmEvent}
    {c c' : RdmaContext} {r : Option CmEvent} {t : List Act} (h : Handled config o event c r c' t)
    (hkind : event.event = .addrResolved ∨ event.event = .routeResolved) :
    c'.connected = c.connected := by
  by_cases htear : TearsDown config o event c
  · exact (h.tornDown htear).2.1
  cases h.kept htear with
  | untouched => rfl
  | connecting _ hran => exact hran.frame.2.2.1
  | accepted hk | established hk =>
    rw [hk] at hkind
    rcases hkind with hc | hc <;> cases hc

section Deliveries

variable {config : Side → RdmaParam} {channel : Side → Ptr} {start : Side → Start}
  {net net' : Handshake}

/-- After the starts the flags are as they were. -/
theorem Launched.unflagged (h : Launched config start net) : Unflagged net := by
  intro side c hc hone
  have hstarted : Started (config side) (start side) (net.state side).ctx
      (net.state side).history := (post_start _ _).of_ok (h.ran side)
  rw [hc] at hstarted
  obtain ⟨c₀, hmalloc, hconn⟩ := hstarted.connected_eq
  rw [hconn, h.unconnected side c₀ hmalloc] at hone
  exact absurd hone (by decide)

/-- Before the request, what the client takes sets no flag. -/
theorem Unflagged.client_step {event : CmEvent} {rest : List CmEvent} {party : Party}
    {es : List (Side × CmEvent)} (h : Unflagged net) (hbefore : BeforeRequest net)
    (hflight : (net.flight .client).Perm (event :: rest))
    (hhandles : Handles config channel net .client event party es) :
    Unflagged (net.after .client rest party es) := by
  obtain ⟨c, hc⟩ := hbefore.client
  obtain ⟨o, t, c₁, -, hctx, -, hran, -⟩ := hhandles.inv hc
  have hkind := hbefore.clientFlight event (hflight.symm.subset List.mem_cons_self)
  intro side c' hc' hone
  cases side with
  | client =>
    rw [Net.after_state_self, hctx] at hc'
    obtain rfl := Option.some.inj hc'
    rw [hran.connected_eq hkind] at hone
    exact h .client c hc hone
  | server =>
    rw [Net.after_state_of_ne (by decide)] at hc'
    exact h .server c' hc' hone

/-- **Who takes itself to be connected has been given up.** In whatever order the events are
delivered after two successful starts, and though every call succeeds: when the flag of a party
is set, the server has handled the request, and has disconnected or torn down. -/
theorem givenUp_of_connected (hlaunched : Launched config start net)
    (hreach : Net.Reaches (Handles config channel) net net') (side : Side) {c : RdmaContext}
    (hc : (net'.state side).ctx = some c) (hconn : c.connected = 1) : GivenUp net' := by
  have hI : BeforeRequest net' ∧ Unflagged net' ∨ GivenUp net' := by
    refine hreach.invariant (fun net => BeforeRequest net ∧ Unflagged net ∨ GivenUp net)
      (Or.inl ⟨hlaunched.beforeRequest, hlaunched.unflagged⟩) ?_
    rintro net i event rest party es (⟨hbefore, hunflagged⟩ | hgiven) hflight h
    · cases i with
      | client =>
        exact Or.inl ⟨hbefore.client_step hflight h, hunflagged.client_step hbefore hflight h⟩
      | server => exact Or.inr (hbefore.server_step hflight h)
    · exact Or.inr (hgiven.step h)
  rcases hI with ⟨-, hunflagged⟩ | hgiven
  · exact absurd hconn (hunflagged side c hc)
  · exact hgiven

end Deliveries

/-! ### The sample client -/

/-- The client of the sample is told that its connection is established. -/
def Sample.established : Handshake :=
  Sample.delivered Sample.requested .client (Sample.event .established 11) []

theorem Sample.reaches_established :
    Net.Reaches (Handles (fun _ => Sample.config) fun _ => some 10) Sample.launch
      Sample.established := by
  have hasks : (Sample.turned (Sample.requested.state .client)
      (Sample.event .established 11)).trace.filter Act.asks = [] := rfl
  have hreports : ReportsAll Sample.requested .client (some (Sample.event .established 11))
      (Sample.turned (Sample.requested.state .client) (Sample.event .established 11)).trace [] :=
    reportsAll_of_filter (by rw [hasks]; exact ReportsAll.nil)
  exact Sample.reaches_requested.deliver (List.Perm.refl _)
    (Handles.mk Sample.handler_succeed rfl hreports)

theorem givenUp_of_connected_client :
    ∃ c, (Sample.established.state .client).ctx = some c ∧ c.connected = 1 ∧
      GivenUp Sample.established :=
  ⟨_, rfl, rfl, givenUp_of_connected Sample.launched Sample.reaches_established .client rfl rfl⟩

end Transport
