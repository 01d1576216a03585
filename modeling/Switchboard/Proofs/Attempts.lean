import Switchboard.Proofs.Commands

/-! Dialing, and dialing again, as what the agent of a connection does. An attempt ends with the
connection bound, with its end, or with a failure that is answered for: by another attempt or by
the end of the call. When the work is done nobody is the agent any more. -/

namespace Switchboard

variable {terms : Terms} {rounds : Nat} {α β : Type}

namespace Stage

def MayEnd (stage : Stage) : Prop :=
  stage.holdsLeg = false ∧ stage ≠ .finishing

theorem mayEnd_placing (slot : Slot) : (placing slot).MayEnd :=
  ⟨rfl, nofun⟩

end Stage

namespace Spot

variable {spot : Spot} {id : ConnectionId} {stage : Stage}

theorem Turns.now (duty : spot.own = [.agent id stage]) :
    spot.Turns terms [.agent id stage] := by
  rw [Spot.Turns, duty]
  exact .refl

theorem Turns.drop (turns : spot.Turns terms [.agent id stage]) (free : stage.MayEnd) :
    spot.Turns terms [] :=
  .step turns (.drop free.1 fun last => absurd last free.2)

theorem Sound.bare (sound : spot.Sound terms) (turns : spot.Turns terms [.agent id stage]) :
    (spot.system.connection id).leg = none := by
  obtain ⟨others, -, orderly⟩ := sound
  exact ((turns.frame others).orderly orderly).free List.mem_cons_self

end Spot

namespace Program

variable {id : ConnectionId}

/-- An agent ends the call, and is done. -/
theorem Safe.disconnect {info : DisconnectInfo} {spot : Spot} {stage : Stage}
    {post : Unit → Spot → Prop} (turns : spot.Turns terms [.agent id stage])
    (free : stage.holdsLeg = false)
    (goes : ∀ after, spot.system.Later after → post () ⟨spot.subject, [], after⟩) :
    (Program.disconnect id info).Safe terms rounds spot post := by
  refine Safe.atOnce fun sound => ?_
  have bare := sound.bare turns
  have turned : Spot.Sound terms ⟨spot.subject, [.agent id stage], spot.system⟩ := by
    obtain ⟨others, resting, orderly⟩ := sound
    exact ⟨others, resting, (turns.frame others).orderly orderly⟩
  refine (turned.disconnect info (.inl bare)).mono fun _ after ⟨effects, gone⟩ => ?_
  exact ⟨[], .step (turns.trans effects) (.drop free fun _ => gone), goes after effects.later⟩

theorem Safe.bindLeg {leg : LegId} {phone : PhoneId} {spot : Spot} {post : Unit → Spot → Prop}
    (duty : spot.own = [.agent id (.received phone leg)])
    (alive : (spot.system.connection id).destroyed = false)
    (goes : ∀ now : Spot, now.own = [] → spot.system.Later now.system → post () now) :
    (Program.atOnce (Act.bind id leg)).Safe terms rounds spot post := by
  refine Safe.atOnce fun ⟨others, _, orderly⟩ => ?_
  have rippling := Wiring.ripples_notes rounds
  refine (Act.ripple_bind rippling orderly.rest id leg).mono fun _ after ripple => ?_
  have effects : Effects terms (.task spot.subject) spot.own spot.system [] after := by
    rw [duty]
    exact .step (.single (.bind alive)) (.ripple ripple (orderly.rest.bound id leg))
  exact ⟨[], effects, goes _ rfl effects.later⟩

theorem Safe.hangupLeg {leg : LegId} {phone : PhoneId} {spot : Spot}
    {post : Except RadioError Unit → Spot → Prop}
    (duty : spot.own = [.agent id (.received phone leg)])
    (gone : (spot.system.connection id).destroyed = true)
    (goes : ∀ result (now : Spot), now.own = [] → spot.system.Later now.system → post result now) :
    (openWorld.command leg .hangup).Safe terms rounds spot post := by
  refine Safe.bind (Safe.converse fun ⟨others, _, orderly⟩ => ?_)
  have among : .agent id (.received phone leg) ∈ spot.own ++ others := by
    rw [duty]
    exact List.mem_cons_self
  have owns := orderly.received among
  have known := orderly.known among
  refine ⟨[], ?_, resting_nil, fun answer after asked _ _ => ?_⟩
  · rw [duty]
    exact .single .hangup
  have later := (System.Later.noting spot.system _).trans asked
  have asks := (Chronicle.asks_now spot.system.outside (.command leg .hangup)).later asked.notes
  have final := later.trans (.noting after (.taken spot.system.outside.length))
  have effects : Effects terms (.task (subjectOf [])) [] after []
      (after.noting (.taken spot.system.outside.length)) :=
    .step (.single (.overtake (.inl asks) (owns.later later.notes)))
      (.finish (final.gone known gone))
  refine ⟨[], effects, ?_⟩
  split
  · exact goes _ _ rfl final
  · exact goes _ _ rfl final

theorem Safe.dial {slot : Slot} {plan : DialPlan} {domain : Option Domain} {stage : Stage}
    {spot : Spot} {post : Except RadioError (Option LegId) → Spot → Prop}
    (duty : spot.own = [.agent id stage])
    (alive : (spot.system.connection id).destroyed = false)
    (held : spot.system.planOf? id = some plan)
    (dials : stage.Dials terms (spot.system.connection id) (terms.ident slot))
    (received : ∀ leg (now : Spot),
      now.own = [.agent id (.received (terms.ident slot) leg)] → now.subject = some id →
      spot.system.Later now.system → post (.ok (some leg)) now)
    (consumed : ∀ now : Spot, now.own = [.agent id .finishing] →
      spot.system.Later now.system → post (.ok none) now)
    (failed : ∀ error (now : Spot),
      now.own = [.agent id (.failing (terms.ident slot) error)] → now.subject = some id →
      spot.system.Later now.system → post (.error error) now) :
    (openWorld.dial slot id plan.dial (plan.args (spot.system.connection id) domain)).Safe terms
      rounds spot post := by
  refine Safe.bind (Safe.system fun ⟨others, _, orderly⟩ => ?_)
  dsimp only
  rw [orderly.ident]
  let dialing := Stage.dialing (terms.ident slot) spot.system.outside.length
  refine Safe.bind (Safe.converse fun _ => ⟨[.agent id dialing], ?_, resting_agent id dialing,
    fun answer after asked answered _ => ?_⟩)
  · rw [duty]
    exact .single (.dial domain alive held dials)
  have later := (System.Later.noting spot.system _).trans asked
  have final := later.trans (.noting after (.taken spot.system.outside.length))
  cases answer with
  | leg leg => exact ⟨_, .single (.receive answered), received leg _ rfl rfl final⟩
  | reply reply =>
    cases reply with
    | refused error => exact ⟨_, .single (.fail answered), failed error _ rfl rfl final⟩
    | _ => exact ⟨_, .single (.consume answered), consumed _ rfl final⟩

theorem Safe.dialAndBind {slot : Slot} {domain : Option Domain} {stage : Stage} {spot : Spot}
    {post : DialOutcome → Spot → Prop} (turns : spot.Turns terms [.agent id stage])
    (free : stage.MayEnd) (alive : (spot.system.connection id).destroyed = false)
    (dials : stage.Dials terms (spot.system.connection id) (terms.ident slot))
    (cancelled : ∀ now : Spot, now.own = [] → spot.system.Later now.system → post .cancelled now)
    (bound : ∀ now : Spot, now.own = [] → spot.system.Later now.system → post .bound now)
    (noCall : ∀ now : Spot, now.own = [.agent id .finishing] → spot.system.Later now.system →
      post .noCall now)
    (failed : ∀ error (now : Spot),
      now.own = [.agent id (.failing (terms.ident slot) error)] → now.subject = some id →
      spot.system.Later now.system → post (.failed error) now) :
    (Program.dialAndBind openWorld id slot domain).Safe terms rounds spot post := by
  refine Safe.bind (Safe.system_turning fun _ => ?_)
  cases held : spot.system.planOf? id with
  | none => exact ⟨[], turns.drop free, cancelled _ rfl (.refl _)⟩
  | some plan =>
    refine ⟨_, turns, Safe.bind (Safe.dial rfl alive held dials (fun leg now duty _ later => ?_)
      (fun now duty later => noCall now duty later)
      fun error now duty subject later => failed error now duty subject later)⟩
    refine Safe.bind (Safe.isLive (fun up => ⟨_, .refl, ?_⟩) fun gone => ⟨_, .refl, ?_⟩)
    · refine Safe.bind (Safe.bindLeg duty up fun last own more => ?_)
      exact bound last own (later.trans more)
    · refine Safe.bind (Safe.hangupLeg duty gone fun _ last own more => ?_)
      exact cancelled last own (later.trans more)

end Program

namespace Spot

variable {spot : Spot} {id : ConnectionId}

theorem Sound.nextPhone (sound : spot.Sound terms) (subject : spot.subject = some id)
    {failed : PhoneId} {permanent : Bool}
    (duty : spot.own = [.agent id (.redialing failed permanent)])
    (alive : (spot.system.connection id).destroyed = false) :
    (Act.nextPhone id failed permanent).Ensures (.level .silent rounds) spot.system
      fun next after => ∃ registry, after = { spot.system with registry } ∧
        Effects terms (.task spot.subject) spot.own spot.system
          [.agent id (next.elim .finishing .chosen)] after := by
  obtain ⟨others, -, orderly⟩ := sound
  simp only [Act.nextPhone, Act.ensures_bind, Act.ensures_get]
  generalize found : spot.system.registry.nextPhone id _ _ failed permanent = outcome
  obtain ⟨next, registry⟩ := outcome
  rw [orderly.settings] at found
  simp only [Act.ensures_set, Act.ensures_pure]
  refine ⟨registry, rfl, ?_⟩
  rw [duty, subject]
  cases next with
  | none => exact .single (.exhaust found)
  | some phone => exact .single (.pick alive found)

theorem Sound.reassign (sound : spot.Sound terms) {phone : PhoneId}
    (duty : spot.own = [.agent id (.chosen phone)])
    (alive : (spot.system.connection id).destroyed = false)
    (subscription : Option SubscriptionId) (technology : Technology) (carrier : CarrierConfig) :
    (Act.reassign id phone subscription technology carrier).Ensures (.level .silent rounds)
      spot.system fun _ after =>
        Effects terms (.task spot.subject) spot.own spot.system spot.own after ∧
          (after.connection id).destroyed = false ∧ (after.connection id).phone = phone := by
  obtain ⟨others, -, orderly⟩ := sound
  have rippling := Wiring.ripples_notes rounds
  have known := spot.system.known_of_alive alive
  have bare : (spot.system.connection id).leg = none := by
    have among : .agent id (.chosen phone) ∈ spot.own ++ others := by
      rw [duty]
      exact List.mem_cons_self
    exact orderly.free among
  let change (call : Connection) := { call with phone, subscription, technology, carrier }
  refine (Act.ripple_change rippling orderly.rest id change fun _ => rfl).mono
    fun _ after ripple => ?_
  have mine : (spot.system.changed id change).connection id =
      (change (spot.system.connection id)).settled := by
    rw [System.connection_changed, if_pos ⟨rfl, known⟩]
  have calm := (Calm.settle (spot.system.reviseConnection id change) id).trans (.of_ripple ripple)
  have rest := ripple.atRest (orderly.rest.changed id change fun _ => rfl)
  refine ⟨?_, ?_, ?_⟩
  · rw [duty]
    refine .step (.single (.reassign subscription technology carrier)) (.calm calm rest ?_)
    intro other leg had none
    rw [System.connection_reviseConnection] at had
    split at had
    · rw [show (change (spot.system.connection id)).leg = Option.none from bare] at had
      cases had
    · rename_i elsewhere
      rw [ripple.leg, System.connection_changed, if_neg elsewhere, had] at none
      cases none
  · have up := (orderly.rest.alive alive).2
    rw [ripple.destroyed, mine, Connection.settled_destroyed]
    have lasting : (change (spot.system.connection id)).isEnding = false := by
      have same : (change (spot.system.connection id)).visibleState =
          (spot.system.connection id).visibleState := rfl
      simp [Connection.isEnding, same, up]
    rw [lasting, Bool.or_false]
    exact alive
  · rw [ripple.reads (·.phone) (fun _ => rfl), mine]
    exact (Connection.onlyLoses_settled (change (spot.system.connection id))).phone

end Spot

namespace Program

variable {id : ConnectionId}

theorem Safe.redialFrom (patience : Nat) {failed : PhoneId} {permanent : Bool} {spot : Spot}
    {post : Unit → Spot → Prop} (subject : spot.subject = some id)
    (turns : spot.Turns terms [.agent id (.redialing failed permanent)])
    (goes : ∀ now : Spot, now.own = [] → spot.system.Later now.system → post () now) :
    (Program.redialFrom openWorld id patience failed permanent).Safe terms rounds spot post := by
  induction patience generalizing failed permanent spot with
  | zero =>
    refine Safe.atOnce fun _ => ?_
    exact Act.ensures_failure _
  | succ patience ih =>
    refine Safe.bind (Safe.isLive (fun alive => ⟨_, turns, ?_⟩)
      fun _ => ⟨_, turns.drop ⟨rfl, nofun⟩, goes _ rfl (.refl _)⟩)
    refine Safe.bind (Safe.atOnce fun sound => ?_)
    refine (sound.nextPhone subject rfl alive).mono fun next picked ⟨registry, same, effects⟩ => ?_
    refine ⟨_, effects, ?_⟩
    have later := effects.later
    cases next with
    | none =>
      refine Safe.disconnect (.now rfl) rfl fun after more => ?_
      exact goes _ rfl (later.trans more)
    | some next =>
      refine Safe.bind (Safe.system_turning fun sound => ?_)
      have up : (picked.connection id).destroyed = false := by
        rw [same]
        exact alive
      dsimp only
      cases found : picked.device.slotOf? next with
      | none =>
        refine ⟨_, .single .skip, ih subject .refl fun now own more => ?_⟩
        exact goes now own (later.trans more)
      | some slot =>
        refine ⟨_, .refl, Safe.bind (Safe.atOnce fun sound => ?_)⟩
        have ident : terms.ident slot = next := by
          obtain ⟨others, -, orderly⟩ := sound
          rw [← orderly.ident]
          exact Device.phone_id_of_slotOf? found
        refine (sound.reassign rfl up _ _ _).mono fun _ moved ⟨effects, alive, phone⟩ => ?_
        have later := later.trans effects.later
        refine ⟨_, effects, Safe.bind (Safe.dialAndBind .refl ⟨rfl, nofun⟩ alive
          ⟨ident, phone.trans ident.symm⟩ ?_ ?_ ?_ ?_)⟩
        · exact fun now own more => goes now own (later.trans more)
        · exact fun now own more => goes now own (later.trans more)
        · intro now own more
          exact Safe.disconnect (.now own) rfl fun after last =>
            goes _ rfl ((later.trans more).trans last)
        · intro error now own subject more
          have later := later.trans more
          dsimp only
          split
          · exact Safe.disconnect (.now own) rfl fun after last => goes _ rfl (later.trans last)
          · rw [ident] at own
            refine ih subject (.step (Spot.Turns.now own) .retry) fun last done more => ?_
            exact goes last done (later.trans more)

theorem Safe.redial {failed : PhoneId} {permanent : Bool} {spot : Spot} {post : Unit → Spot → Prop}
    (subject : spot.subject = some id)
    (turns : spot.Turns terms [.agent id (.redialing failed permanent)])
    (goes : ∀ now : Spot, now.own = [] → spot.system.Later now.system → post () now) :
    (Program.redial openWorld id failed permanent).Safe terms rounds spot post := by
  refine Safe.bind (Safe.atOnce fun _ => ?_)
  rw [Act.ensures_rounds]
  exact ⟨_, turns, Safe.redialFrom _ subject .refl goes⟩

theorem Harmless.select {system : System Chronicle} (id : ConnectionId)
    (request : SelectionRequest) : (openWorld.select id request).Harmless terms rounds system := by
  refine .bind (.converse rfl) fun answer _ _ => ?_
  split <;> exact .pure _

theorem Harmless.reselect {system : System Chronicle} (id : ConnectionId)
    (request : SelectionRequest) : (openWorld.reselect id request).Harmless terms rounds system :=
      by
  refine .bind (.converse rfl) fun answer _ _ => ?_
  split <;> exact .pure _

theorem Safe.reselectFrom (enabled : terms.settings.domainSelection = true) (left : Nat)
    {cause : DisconnectCause} {code : Int} {spot : Spot} {post : Unit → Spot → Prop}
    (turns : spot.Turns terms [.agent id .reselecting])
    (goes : ∀ now : Spot, now.own = [] → spot.system.Later now.system → post () now) :
    (Program.reselectFrom openWorld id left cause code).Safe terms rounds spot post := by
  induction left generalizing cause code spot with
  | zero => exact Safe.disconnect turns rfl fun after later => goes _ rfl later
  | succ left ih =>
    refine Safe.bind (Safe.isLive (fun alive => ⟨_, turns, ?_⟩)
      fun _ => ⟨_, turns.drop ⟨rfl, nofun⟩, goes _ rfl (.refl _)⟩)
    refine Safe.bind (Safe.system fun _ => ?_)
    dsimp only
    split
    · exact Safe.bind (Safe.disconnect .refl rfl fun after later => goes _ rfl later)
    split
    case h_2 => exact Safe.disconnect .refl rfl fun after later => goes _ rfl later
    rename_i slot found
    refine Safe.bind (Harmless.reselect _ _ _ _ rfl (resting_agent _ _)
      fun answer now own later => ?_)
    have ending {info : DisconnectInfo} :
        (Program.disconnect id info).Safe terms rounds now post :=
      Safe.disconnect (.now own) rfl fun after more => goes _ rfl (later.trans more)
    split
    · exact Safe.bind ending
    refine Safe.bind (Safe.isLive (fun alive => ⟨_, .now own, ?_⟩)
      fun _ => ⟨_, (Spot.Turns.now own).drop ⟨rfl, nofun⟩, goes _ rfl later⟩)
    refine Safe.bind (Safe.dialAndBind .refl ⟨rfl, nofun⟩ alive trivial ?_ ?_ ?_ ?_)
    · exact fun last done more => goes last done (later.trans more)
    · exact fun last done more => goes last done (later.trans more)
    · intro last own more
      exact Safe.disconnect (.now own) rfl fun after last =>
        goes _ rfl ((later.trans more).trans last)
    · intro error last own _ more
      have later := later.trans more
      dsimp only
      split
      · refine ih (.step (Spot.Turns.now own) (.redirect enabled)) fun final done more => ?_
        exact goes final done (later.trans more)
      · exact Safe.disconnect (.now own) rfl fun after more => goes _ rfl (later.trans more)

end Program
end Switchboard
