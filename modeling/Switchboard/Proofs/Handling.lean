import Switchboard.Proofs.Changes

/-! Handling connections. A `Move` is one thing that can be done with connections, or that the
radio can say about a leg; commands come down to what the radio then says, and to `disconnect`
where they end the call. `Move.outcome` is what a move does apart from the news, and a run of
moves goes from one system at rest to another. -/

namespace Switchboard

inductive Move
  | create (params : CallParameters)
  | createLeg (view : RadioSnapshot)
  | bind (id : ConnectionId) (leg : LegId)
  | unbind (id : ConnectionId)
  | report (leg : LegId) (event : RadioEvent)
  | reportLate (leg : LegId) (event : RadioEvent)
  | inform (id : ConnectionId) (event : RadioEvent)
  | disconnect (id : ConnectionId) (info : DisconnectInfo)
  | close (id : ConnectionId)
  | presentHolding (id : ConnectionId)
  | putExtras (id : ConnectionId) (extras : Extras)
  | removeExtras (id : ConnectionId) (keys : List String)
  | setRttStream (id : ConnectionId) (stream : Option String)
  | setRedialEnabled (id : ConnectionId) (enabled : Bool)
  | setSelectionActive (id : ConnectionId) (active : Bool)
  | reassign (id : ConnectionId) (phone : PhoneId) (subscription : Option SubscriptionId)
    (technology : Technology) (carrier : CarrierConfig)
  | setHoldAllowed (id : ConnectionId) (allowed : Bool)
  | setConference (id : ConnectionId) (conference : Option ConferenceId)
  | addListener (id : ConnectionId) (listener : Listener)
  | removeListener (id : ConnectionId) (listener : Listener)
  /-- From now on work can be started on its own, or cannot. -/
  | attend (on : Bool)

namespace Move

variable {ε κ : Type}

def act : Move → Act ε Unit
  | create params => do
    let _ ← Act.create params
    return
  | createLeg view => do
    let _ ← Act.createLeg view
    return
  | bind id leg => Act.bind id leg
  | unbind id => Act.unbind id
  | report leg event => Act.report leg event
  | reportLate leg event => do
    let _ ← Act.reportLate leg event
    return
  | inform id event => Act.currentLegEvent id event
  | disconnect id info => Act.setDisconnected id info
  | close id => Act.close id
  | presentHolding id => Act.presentHolding id
  | putExtras id extras => Act.putExtras id extras
  | removeExtras id keys => Act.removeExtras id keys
  | setRttStream id stream => Act.setRttStream id stream
  | setRedialEnabled id enabled => Act.setRedialEnabled id enabled
  | setSelectionActive id active => Act.setSelectionActive id active
  | reassign id phone subscription technology carrier =>
    Act.reassign id phone subscription technology carrier
  | setHoldAllowed id allowed => Act.setHoldAllowed id allowed
  | setConference id conference => Act.setConference id conference
  | addListener id listener => do
    let _ ← Act.addListener id listener
    return
  | removeListener id listener => do
    let _ ← Act.removeListener id listener
    return
  | attend on => modify fun system => { system with attended := on }

def outcome (system : System ε) : Move → System ε
  | create params => { system with connections := system.connections ++ [.create params] }
  | createLeg view => { system with legs := system.legs ++ [{ view }] }
  | bind id leg => system.bound id leg
  | unbind id => system.unbound id
  | report leg event => system.reported leg event
  | reportLate leg event => system.follows (system.leg leg).last event
  | inform id event =>
    system.follows (some { connection := id, generation := (system.connection id).generation })
      event
  | disconnect id info => system.ending id info
  | close id => system.closed id
  | presentHolding id =>
    if (system.connection id).ended.isSome then system
    else system.changed id ({ · with presented := some .holding })
  | putExtras id extras =>
    system.changed id fun call => { call with localExtras := call.localExtras.overlay extras }
  | removeExtras id keys =>
    system.changed id fun call =>
      { call with localExtras := keys.foldl Extras.erase call.localExtras }
  | setRttStream id stream => system.changed id ({ · with rttStream := stream })
  | setRedialEnabled id enabled => system.reviseConnection id ({ · with redialEnabled := enabled })
  | setSelectionActive id active =>
    system.reviseConnection id ({ · with selectionActive := active })
  | reassign id phone subscription technology carrier =>
    system.changed id ({ · with phone, subscription, technology, carrier })
  | setHoldAllowed _ _ | setConference _ _ => system
  | addListener id listener =>
    if (system.connection id).listeners.contains listener then system
    else system.reviseConnection id fun call =>
      { call with listeners := call.listeners ++ [listener] }
  | removeListener id listener =>
    system.reviseConnection id fun call =>
      { call with listeners := call.listeners.filter (· != listener) }
  | attend on => { system with attended := on }

end Move

namespace System

variable {ε : Type} (system : System ε)

theorem connection_append (call : Connection) (id : ConnectionId) :
    ({ system with connections := system.connections ++ [call] } : System ε).connection id =
      if id = .issued system.connections.length then call else system.connection id := by
  cases id with
  | outsider value => rfl
  | issued serial =>
    simp only [connection, List.getD_eq_getElem?_getD, ConnectionId.issued.injEq]
    rcases Nat.lt_trichotomy serial system.connections.length with inside | last | past
    · rw [List.getElem?_append_left inside, if_neg (Nat.ne_of_lt inside)]
    · subst last
      simp
    · rw [if_neg (Nat.ne_of_gt past), List.getElem?_eq_none (by simp; omega),
        List.getElem?_eq_none (Nat.le_of_lt past)]

theorem read_append {α : Type} (read : Connection → α) {call : Connection}
    (same : read call = read .absent) (id : ConnectionId) :
    read (({ system with connections := system.connections ++ [call] } : System ε).connection id) =
      read (system.connection id) := by
  rw [connection_append]
  split
  · rename_i here
    have strange : ¬ system.Known id := here ▸ Nat.lt_irrefl _
    rw [same, system.connection_of_not_known strange]
  · rfl

theorem AtRest.create {system : System ε} (rest : system.AtRest) (params : CallParameters) :
    ({ system with connections := system.connections ++ [.create params] } : System ε).AtRest := by
  refine ⟨fun id => ?_, fun id => ?_⟩
  · rw [connection_append]
    split
    · refine ⟨rfl, fun _ _ => ⟨rfl, ?_, rfl⟩⟩
      exact nofun
    · exact rest.steady id
  · rw [connection_append]
    split
    · rfl
    · exact rest.quiet id

end System

namespace Move

variable {ε κ : Type} {keep : ε → κ} {bystanders : Bystanders ε} {system : System ε}

theorem outcome_atRest (move : Move) (rest : system.AtRest) : (move.outcome system).AtRest := by
  cases move with
  | create params => exact rest.create params
  | createLeg view => exact rest.of_connections fun _ => rfl
  | bind id leg => exact rest.bound id leg
  | unbind id => exact rest.unbound id
  | report leg event => exact rest.reported leg event
  | reportLate leg event => exact rest.follows ..
  | inform id event => exact rest.follows (some _) event
  | disconnect id info => exact rest.ending id info
  | close id => exact rest.closed id
  | presentHolding id =>
    rw [outcome]
    split
    · exact rest
    · exact rest.changed id _ fun _ => rfl
  | setRedialEnabled id enabled => exact rest.reviseConnection id _ (fun _ => rfl) fun _ => rfl
  | setSelectionActive id active => exact rest.reviseConnection id _ (fun _ => rfl) fun _ => rfl
  | addListener id listener =>
    rw [outcome]
    split
    · exact rest
    · exact rest.reviseConnection id _ (fun _ => rfl) fun _ => rfl
  | removeListener id listener => exact rest.reviseConnection id _ (fun _ => rfl) fun _ => rfl
  | setHoldAllowed id allowed => exact rest
  | setConference id conference => exact rest
  | attend on => exact rest.of_connections fun _ => rfl
  | putExtras id extras => exact rest.changed id _ fun _ => rfl
  | removeExtras id keys => exact rest.changed id _ fun _ => rfl
  | setRttStream id stream => exact rest.changed id _ fun _ => rfl
  | reassign id phone subscription technology carrier => exact rest.changed id _ fun _ => rfl

theorem ripple_act (observe : bystanders.Observe keep) (rounds : Nat) (move : Move)
    (rest : system.AtRest) :
    move.act.Ensures (.level bystanders rounds) system fun _ after =>
      Ripple keep (move.outcome system) after := by
  have rippling := Wiring.ripples_level observe rounds
  cases move with
  | create params =>
    simp only [act, Act.create, Act.ensures_bind, Act.ensures_get, Act.ensures_modify,
      Act.ensures_pure]
    exact Ripple.refl _
  | createLeg view =>
    simp only [act, Act.createLeg, Act.ensures_bind, Act.ensures_get, Act.ensures_modify,
      Act.ensures_pure]
    exact Ripple.refl _
  | bind id leg => exact Act.ripple_bind rippling rest id leg
  | unbind id =>
    rw [act, Act.ensures_unbind]
    exact Ripple.refl _
  | report leg event => exact Act.ripple_report observe rounds rest leg event
  | reportLate leg event =>
    rw [act, Act.ensures_bind]
    refine (Act.ripple_reportLate observe rounds rest leg event).mono fun _ after ripple => ?_
    rw [Act.ensures_pure]
    exact ripple
  | inform id event =>
    rw [act, Act.currentLegEvent, Act.ensures_bind, Act.ensures_look]
    exact Act.ripple_legEvent observe rounds rest id _ event
  | disconnect id info => exact Act.ripple_setDisconnected rippling rest id info
  | close id => exact Act.ripple_close rippling rest id
  | presentHolding id =>
    rw [act, Act.presentHolding, Act.ensures_bind, Act.ensures_look, outcome]
    split
    · rw [Act.ensures_pure]
      exact Ripple.refl _
    · refine Act.ripple_change rippling rest id _ ?_
      exact fun _ => rfl
  | setRedialEnabled id enabled =>
    rw [act, Act.setRedialEnabled, Act.ensures_revise]
    exact Ripple.refl _
  | setSelectionActive id active =>
    rw [act, Act.setSelectionActive, Act.ensures_revise]
    exact Ripple.refl _
  | addListener id listener =>
    rw [act, Act.addListener, Act.ensures_bind, Act.ensures_bind, Act.ensures_look, outcome]
    split
    · simp only [Act.ensures_pure]
      exact Ripple.refl _
    · simp only [Act.ensures_bind, Act.ensures_revise, Act.ensures_pure]
      exact Ripple.refl _
  | removeListener id listener =>
    simp only [act, Act.removeListener, Act.ensures_bind, Act.ensures_look, Act.ensures_revise,
      Act.ensures_pure]
    exact Ripple.refl _
  | setHoldAllowed id allowed => exact Act.rippling_setHoldAllowed rippling id allowed _ rest.steady
  | setConference id conference =>
    exact Act.rippling_setConference rippling id conference _ rest.steady
  | attend on =>
    rw [act, Act.ensures_modify]
    exact Ripple.refl _
  | _ =>
    refine Act.ripple_change rippling rest _ _ ?_
    exact fun _ => rfl

/-- Moves one after the other. -/
def run (bystanders : Bystanders ε) (rounds : Nat) (moves : List Move) (start : System ε) :
    Option (System ε) :=
  moves.foldlM (fun system move => (move.act (.level bystanders rounds) system).map (·.2)) start

theorem run_cons (rounds : Nat) (move : Move) (moves : List Move) (start : System ε) :
    run bystanders rounds (move :: moves) start =
      (run bystanders rounds [move] start).bind (run bystanders rounds moves) := by
  simp [run]
  rfl

theorem run_append (rounds : Nat) (first rest : List Move) (start : System ε) :
    run bystanders rounds (first ++ rest) start =
      (run bystanders rounds first start).bind (run bystanders rounds rest) := by
  simp [run]
  rfl

theorem ripple_run (observe : bystanders.Observe keep) {rounds : Nat} {move : Move}
    {start after : System ε} (rest : start.AtRest)
    (runs : run bystanders rounds [move] start = some after) :
    Ripple keep (move.outcome start) after := by
  simp only [run, List.foldlM_cons, List.foldlM_nil, bind_pure] at runs
  obtain ⟨⟨⟨⟩, last⟩, ran, rfl⟩ := Option.map_eq_some_iff.mp runs
  exact ripple_act observe rounds move rest _ _ ran

theorem run_atRest (observe : bystanders.Observe keep) {rounds : Nat} {moves : List Move}
    {start after : System ε} (rest : start.AtRest)
    (runs : run bystanders rounds moves start = some after) : after.AtRest := by
  induction moves generalizing start with
  | nil =>
    cases runs
    exact rest
  | cons move moves ih =>
    rw [run_cons] at runs
    obtain ⟨next, first, others⟩ := Option.bind_eq_some_iff.mp runs
    exact ih ((ripple_run observe rest first).atRest (move.outcome_atRest rest)) others

end Move
end Switchboard
