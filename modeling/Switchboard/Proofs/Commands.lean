import Switchboard.Proofs.Safety

/-! What the commands of the exchange do to duties. Holding and the like do nothing; a hangup, a
reject and a refused answer end the call that they were asked for, and nothing comes between the
answer to them and the end. So all operations on calls that exist are harmless. -/

namespace Switchboard

variable {terms : Terms} {rounds : Nat} {α β : Type}

namespace Spot

variable {spot : Spot}

/-- Calls end when they have no leg, or when somebody has to end them. -/
theorem Sound.disconnect (sound : spot.Sound terms) {id : ConnectionId} (info : DisconnectInfo)
    (free : (spot.system.connection id).leg = none ∨ .ending id ∈ spot.own) :
    (Act.setDisconnected id info).Ensures (.level .silent rounds) spot.system fun _ after =>
      Effects terms (.task spot.subject) spot.own spot.system spot.own after ∧
        (after.connection id).destroyed = true := by
  obtain ⟨others, -, orderly⟩ := sound
  have rippling := Wiring.ripples_notes rounds
  refine (Act.ripple_setDisconnected rippling orderly.rest id info).mono fun _ after ripple => ?_
  have calm := (Calm.ending spot.system id info).trans (.of_ripple ripple)
  refine ⟨.single (.calm calm (ripple.atRest (orderly.rest.ending id info)) ?_), ?_⟩
  · intro other leg had none
    by_cases same : other = id
    · subst same
      rcases free with bare | ending
      · rw [bare] at had
        cases had
      · exact .inr ending
    · rw [ripple.leg, System.connection_ending_other same, had] at none
      cases none
  · rw [ripple.destroyed]
    exact orderly.rest.destroyed_ending id info

end Spot

namespace Program

theorem Safe.disconnect_ending {id : ConnectionId} {info : DisconnectInfo} {spot : Spot}
    {own : List Duty} {post : Unit → Spot → Prop} (duty : spot.own = .ending id :: own)
    (goes : ∀ after, spot.system.Later after → post () ⟨spot.subject, own, after⟩) :
    (Program.disconnect id info).Safe terms rounds spot post := by
  refine Safe.atOnce fun sound => ?_
  have ending : .ending id ∈ spot.own := by
    rw [duty]
    exact List.mem_cons_self
  refine (sound.disconnect info (.inr ending)).mono fun _ after ⟨effects, gone⟩ => ?_
  have later := effects.later
  rw [duty] at effects ⊢
  exact ⟨own, .step effects (.finish gone), goes after later⟩

theorem Harmless.disconnect_bare {id : ConnectionId} {info : DisconnectInfo}
    {system : System Chronicle} (bare : (system.connection id).leg = none) :
    (Program.disconnect id info).Harmless terms rounds system := by
  rintro spot post rfl resting goes
  refine Safe.atOnce fun sound => ?_
  refine (sound.disconnect info (.inl bare)).mono fun _ after ⟨effects, _⟩ => ?_
  exact ⟨spot.own, effects, goes () _ rfl effects.later⟩

theorem Safe.command_ending {id : ConnectionId} {leg : LegId} {command : RadioCommand}
    {spot : Spot} {post : Except RadioError Unit → Spot → Prop} (resting : Resting spot.own)
    (owns : spot.system.outside.Owns id leg) (ends : command = .hangup ∨ command = .reject)
    (goes : ∀ result (now : Spot), now.own = .ending id :: spot.own →
      spot.system.Later now.system → post result now) :
    (openWorld.command leg command).Safe terms rounds spot post := by
  have plain : (Call.command leg command).isDial = false := rfl
  refine Safe.bind (Safe.converse fun _ => ⟨spot.own, .single (.note plain), resting,
    fun answer after asked _ _ => ?_⟩)
  have later := (System.Later.noting _ _).trans asked
  have asks := (Chronicle.asks_now spot.system.outside (.command leg command)).later asked.notes
  have overtaken : after.outside.Ends spot.system.outside.length leg := by
    rcases ends with rfl | rfl
    · exact .inl asks
    · exact .inr (.inl asks)
  refine ⟨.ending id :: spot.own, .single (.overtake overtaken (owns.later later.notes)), ?_⟩
  have final := later.trans (.noting after (.taken spot.system.outside.length))
  split
  · exact goes _ _ rfl final
  · exact goes _ _ rfl final

theorem Safe.command_answer {id : ConnectionId} {leg : LegId} {video : VideoState}
    {spot : Spot} {post : Except RadioError Unit → Spot → Prop} (resting : Resting spot.own)
    (owns : spot.system.outside.Owns id leg)
    (accepted : ∀ now : Spot, now.own = spot.own → spot.system.Later now.system →
      post (.ok ()) now)
    (refused : ∀ error (now : Spot), now.own = .ending id :: spot.own →
      spot.system.Later now.system → post (.error error) now) :
    (openWorld.command leg (.answer video)).Safe terms rounds spot post := by
  have plain : (Call.command leg (.answer video)).isDial = false := rfl
  refine Safe.bind (Safe.converse fun _ => ⟨spot.own, .single (.note plain), resting,
    fun answer after asked answered sound => ?_⟩)
  have later := (System.Later.noting _ _).trans asked
  have asks :=
    (Chronicle.asks_now spot.system.outside (.command leg (.answer video))).later asked.notes
  have final := later.trans (.noting after (.taken spot.system.outside.length))
  obtain ⟨others, -, orderly⟩ := sound
  split
  · rename_i error
    refine ⟨.ending id :: spot.own, .single (.overtake ?_ (owns.later later.notes)), ?_⟩
    · exact .inr (.inr ⟨video, error, asks, answered⟩)
    · exact refused _ _ rfl final
  · rename_i other
    refine ⟨spot.own, .single (.note ⟨⟨_, asks, plain⟩, fun leg => ?_⟩), accepted _ rfl final⟩
    rintro (hangup | reject | ⟨video, error, answer, refusal⟩)
    · cases asks.unique hangup
    · cases asks.unique reject
    · exact other error (orderly.answers answered refusal)

namespace Harmless

variable {system : System Chronicle}

theorem hangup (id : ConnectionId) (cause : DisconnectCause) :
    (Program.hangup openWorld id cause).Harmless terms rounds system := by
  refine call_bind fun ⟨duties, orderly⟩ => ?_
  split
  · exact pure _
  cases held : (system.connection id).leg with
  | none => exact disconnect_bare held
  | some leg =>
    rintro spot post rfl resting goes
    refine Safe.bind (Safe.command_ending resting (orderly.owned held) (.inl rfl)
      fun result now own later => ?_)
    cases result with
    | ok value =>
      exact Safe.disconnect_ending own fun after more => goes _ _ rfl (later.trans more)
    | error error =>
      exact Safe.disconnect_ending own fun after more => goes _ _ rfl (later.trans more)

theorem requireLeg_bind {id : ConnectionId} {operation : String}
    {next : Except CallError LegId → Program Chronicle β}
    (absent : ∀ error, (next (.error error)).Harmless terms rounds system)
    (present : ∀ leg, system.outside.Owns id leg → (next (.ok leg)).Harmless terms rounds system) :
    (Program.requireLeg id operation >>= next).Harmless terms rounds system := by
  rintro spot post rfl resting goes
  refine Safe.bind (Safe.bind (Safe.call fun ⟨others, _, orderly⟩ => ?_))
  cases held : (spot.system.connection id).leg with
  | none => exact absent _ spot post rfl resting goes
  | some leg => exact present leg (orderly.owned held) spot post rfl resting goes

theorem reject (id : ConnectionId) :
    (Program.reject openWorld id).Harmless terms rounds system := by
  refine requireLeg_bind (fun error => pure _) fun leg owns => ?_
  rintro spot post rfl resting goes
  refine Safe.bind (Safe.command_ending resting owns (.inr rfl) fun result now own later => ?_)
  cases result with
  | ok value =>
    exact Safe.bind (Safe.disconnect_ending own fun after more => goes _ _ rfl (later.trans more))
  | error error =>
    exact Safe.bind (Safe.disconnect_ending own fun after more => goes _ _ rfl (later.trans more))

theorem answer (id : ConnectionId) (video : VideoState) :
    (Program.answer openWorld id video).Harmless terms rounds system := by
  refine call_bind fun _ => ?_
  dsimp only
  split
  · exact pure _
  refine requireLeg_bind (fun error => pure _) fun leg owns => ?_
  rintro spot post rfl resting goes
  refine Safe.bind (Safe.command_answer resting owns (fun now own later => ?_)
    fun error now own later => ?_)
  · exact goes _ _ own later
  · exact Safe.bind (Safe.disconnect_ending own fun after more => goes _ _ rfl (later.trans more))

theorem command {leg : LegId} {command : RadioCommand}
    (keepsClient : (Call.command leg command).isHarmless = true) :
    (openWorld.command leg command).Harmless terms rounds system := by
  refine bind (converse keepsClient) fun answer _ _ => ?_
  split <;> exact pure _

theorem attempt (id : ConnectionId) {command : RadioCommand}
    (keepsClient : ∀ leg, (Call.command leg command).isHarmless = true) :
    (Program.attempt openWorld id command).Harmless terms rounds system := by
  refine bind (call id) fun call _ _ => ?_
  cases call.leg with
  | none => exact pure _
  | some leg => exact bind (Harmless.command (keepsClient leg)) fun _ _ _ => pure _

theorem hold (id : ConnectionId) : (Program.hold openWorld id).Harmless terms rounds system :=
  attempt id fun _ => rfl

theorem unhold (id : ConnectionId) : (Program.unhold openWorld id).Harmless terms rounds system :=
  attempt id fun _ => rfl

theorem membersOf (conference : ConferenceId) :
    (Program.membersOf conference).Harmless terms rounds system :=
  bind get fun _ _ _ => pure _

theorem disconnectConference (conference : ConferenceId) :
    (Program.disconnectConference openWorld conference).Harmless terms rounds system :=
  bind (membersOf conference) fun _ _ _ => forEach _ fun id _ => hangup id _

theorem holdConference (conference : ConferenceId) :
    (Program.holdConference openWorld conference).Harmless terms rounds system :=
  bind (membersOf conference) fun _ _ _ => forEach _ fun id _ => hold id

theorem unholdConference (conference : ConferenceId) :
    (Program.unholdConference openWorld conference).Harmless terms rounds system :=
  bind (membersOf conference) fun _ _ _ => forEach _ fun id _ => unhold id

theorem hangupAll (others : List ConnectionId) :
    (Program.hangupAll openWorld others).Harmless terms rounds system :=
  forEach _ fun id _ => hangup id _

theorem holdEach (held others : List ConnectionId) :
    (Program.holdEach openWorld held others).Harmless terms rounds system := by
  induction others generalizing held system with
  | nil => exact pure _
  | cons id rest ih =>
    rw [Program.holdEach]
    split
    · exact ih held
    · refine bind get fun now _ _ => ?_
      cases now.conferenceOf? id with
      | none => exact bind (hold id) fun _ _ _ => ih held
      | some conference =>
        refine bind (membersOf conference) fun members _ _ => ?_
        exact bind (holdConference conference) fun _ _ _ => ih _

theorem confirmHold (id : ConnectionId) :
    (Program.confirmHold openWorld id).Harmless terms rounds system := by
  refine bind get fun _ _ _ => bind (waitForState id _ _) fun outcome _ _ => ?_
  split
  · exact hangup id _
  · exact pure _

theorem holdOrHangup (others : List ConnectionId) :
    (Program.holdOrHangup openWorld others).Harmless terms rounds system := by
  refine bind get fun _ _ _ => bind (holdEach _ _) fun _ _ _ => ?_
  exact forEach _ fun id _ => confirmHold id

theorem prepareToDial (id : ConnectionId) (phone : PhoneId) (emergency : Bool)
    (carrier : CarrierConfig) :
    (Program.prepareToDial openWorld id phone emergency carrier).Harmless terms rounds system := by
  refine bind get fun now _ _ => ?_
  dsimp only
  split
  · exact pure _
  split
  · exact hangupAll _
  split
  · exact holdOrHangup _
  · exact pure _

theorem prepareToAnswer (id : ConnectionId) :
    (Program.prepareToAnswer openWorld id).Harmless terms rounds system := by
  refine bind get fun now _ _ => ?_
  dsimp only
  split
  · exact pure _
  split
  · exact holdOrHangup _
  · exact hangupAll _

theorem requireConnection (id : ConnectionId) :
    (Program.requireConnection id).Harmless terms rounds system := by
  refine bind get fun now _ _ => ?_
  split <;> exact pure _

theorem requireConference (id : ConferenceId) :
    (Program.requireConference id).Harmless terms rounds system := by
  refine bind get fun now _ _ => ?_
  split <;> exact pure _

theorem acceptCall (id : ConnectionId) (video : VideoState) :
    (Program.acceptCall openWorld id video).Harmless terms rounds system := by
  refine bind (requireConnection id) fun required _ _ => ?_
  split
  · exact pure _
  refine bind (call id) fun _ _ _ => ?_
  dsimp only
  split
  · exact pure _
  refine bind (prepareToAnswer id) fun _ _ _ => bind (call id) fun _ _ _ => ?_
  split
  · exact pure _
  · exact answer id video

theorem rejectCall (id : ConnectionId) :
    (Program.rejectCall openWorld id).Harmless terms rounds system := by
  refine bind (requireConnection id) fun required _ _ => ?_
  split
  · exact pure _
  refine bind (call id) fun _ _ _ => ?_
  dsimp only
  split
  · exact pure _
  · exact reject id

theorem onCall {onConference : ConferenceId → Program Chronicle Unit}
    {onConnection : ConnectionId → Program Chronicle Unit} (id : ConnectionId)
    (conference : ∀ id system, (onConference id).Harmless terms rounds system)
    (connection : ∀ system, (onConnection id).Harmless terms rounds system) :
    (Program.onCall onConference onConnection id).Harmless terms rounds system := by
  refine bind (requireConnection id) fun required _ _ => ?_
  split
  · exact pure _
  refine bind get fun now _ _ => ?_
  cases now.conferenceOf? id with
  | none => exact bind (connection _) fun _ _ _ => pure _
  | some member => exact bind (conference member _) fun _ _ _ => pure _

theorem onConference {work : ConferenceId → Program Chronicle Unit} (id : ConferenceId)
    (conference : ∀ id system, (work id).Harmless terms rounds system) :
    (Program.onConference work id).Harmless terms rounds system := by
  refine bind (requireConference id) fun required _ _ => ?_
  split
  · exact pure _
  · exact bind (conference id _) fun _ _ _ => pure _

end Harmless
end Program

theorem Operation.harmless (operation : Operation) (placing : ∀ request, operation ≠ .place request)
    (system : System Chronicle) : operation.program.Harmless terms rounds system := by
  cases operation with
  | place request => exact absurd rfl (placing request)
  | accept id video => exact .bind (.acceptCall id video) fun _ _ _ => .pure _
  | reject id => exact .bind (.rejectCall id) fun _ _ _ => .pure _
  | hangup id =>
    refine .bind (.onCall id ?_ ?_) fun _ _ _ => .pure _
    · exact fun member _ => .disconnectConference member
    · exact fun _ => .hangup id _
  | hold id =>
    refine .bind (.onCall id ?_ ?_) fun _ _ _ => .pure _
    · exact fun member _ => .holdConference member
    · exact fun _ => .hold id
  | unhold id =>
    refine .bind (.onCall id ?_ ?_) fun _ _ _ => .pure _
    · exact fun member _ => .unholdConference member
    · exact fun _ => .unhold id
  | hangupConference id =>
    exact .bind (.onConference id fun member _ => .disconnectConference member) fun _ _ _ => .pure _
  | holdConference id =>
    exact .bind (.onConference id fun member _ => .holdConference member) fun _ _ _ => .pure _
  | unholdConference id =>
    exact .bind (.onConference id fun member _ => .unholdConference member) fun _ _ _ => .pure _

end Switchboard
