import Switchboard.Proofs.Attempts

/-! Placing a call, as what a task does. Once there is a connection the task is its agent, through
all that has to be prepared, up to the first dial and to what follows from its failure. -/

namespace Switchboard

variable {terms : Terms} {rounds : Nat} {α β : Type}

namespace Program

variable {id : ConnectionId}

theorem Safe.gone {spot : Spot} {stage : Stage} {post : Placed → Spot → Prop}
    (turns : spot.Turns terms [.agent id stage]) (free : stage.MayEnd)
    (goes : ∀ answer, post answer ⟨spot.subject, [], spot.system⟩) :
    (Program.gone id).Safe terms rounds spot post :=
  Safe.bind (Safe.call_turning fun _ => ⟨[], turns.drop free, goes _⟩)

theorem Safe.fail {info : DisconnectInfo} {spot : Spot} {stage : Stage}
    {post : Placed → Spot → Prop} (turns : spot.Turns terms [.agent id stage])
    (free : stage.holdsLeg = false)
    (goes : ∀ answer after, spot.system.Later after → post answer ⟨spot.subject, [], after⟩) :
    (Program.fail id info).Safe terms rounds spot post := by
  refine Safe.bind (Safe.disconnect turns free fun after later => ?_)
  exact Safe.bind (Safe.call fun _ => goes _ after later)

theorem Safe.optional {condition : Prop} [Decidable condition] {first : Program Chronicle Unit}
    {rest : Program Chronicle α} {spot : Spot} {post : α → Spot → Prop}
    (harmless : first.Harmless terms rounds spot.system) (resting : Resting spot.own)
    (goes : ∀ now : Spot, now.own = spot.own → spot.system.Later now.system →
      rest.Safe terms rounds now post) :
    (if condition then first >>= fun _ => rest else rest).Safe terms rounds spot post := by
  split
  · exact Safe.bind (harmless spot _ rfl resting fun _ now own later => goes now own later)
  · exact goes spot rfl (.refl _)

theorem Harmless.airplaneOff {system : System Chronicle} :
    openWorld.airplaneOff.Harmless terms rounds system :=
  .bind (.converse rfl) fun _ _ _ => .pure _

theorem Harmless.power {system : System Chronicle} (slot : Slot) (on emergency : Bool) :
    (openWorld.power slot on emergency).Harmless terms rounds system :=
  .bind .get fun _ _ _ => .bind (.converse rfl) fun _ _ _ => .pure _

theorem Safe.ensureRadio {slot : Slot} {emergency : Bool} {stage : Stage} {spot : Spot}
    {post : Option Placed → Spot → Prop} (duty : spot.own = [.agent id stage])
    (free : stage.MayEnd)
    (ready : ∀ now : Spot, now.own = [.agent id stage] → spot.system.Later now.system →
      post none now)
    (refused : ∀ answer (now : Spot), now.own = [] → spot.system.Later now.system →
      post (some answer) now) :
    (Program.ensureRadio openWorld id slot emergency).Safe terms rounds spot post := by
  have resting : Resting spot.own := duty ▸ resting_agent id stage
  have cancel {now : Spot} (turns : now.Turns terms [.agent id stage])
      (later : spot.system.Later now.system) :
      (do return some (← Program.gone id) : Program Chronicle (Option Placed)).Safe terms rounds
        now post :=
    Safe.bind (Safe.gone turns free fun _ => refused _ _ rfl later)
  have fail {now : Spot} (own : now.own = [.agent id stage]) (info : DisconnectInfo)
      (later : spot.system.Later now.system) :
      (do return some (← Program.fail id info) : Program Chronicle (Option Placed)).Safe terms
        rounds now post :=
    Safe.bind (Safe.fail (.now own) free.1 fun _ _ more => refused _ _ rfl (later.trans more))
  have look {now : Spot} (own : now.own = [.agent id stage])
      (later : spot.system.Later now.system) :
      (do
        if ← Program.isLive id then return none
        return some (← Program.gone id) : Program Chronicle (Option Placed)).Safe terms rounds now
          post := by
    refine Safe.bind (Safe.isLive (fun _ => ⟨_, .now own, ready _ rfl later⟩)
      fun _ => ⟨_, .now own, ?_⟩)
    exact cancel .refl later
  refine Safe.bind (Safe.system fun _ => ?_)
  dsimp only
  split
  · refine Safe.optional .airplaneOff resting fun now own later => ?_
    have resting : Resting now.own := own ▸ resting
    refine Safe.bind (Harmless.power slot _ _ now _ rfl resting fun _ up same more => ?_)
    have resting : Resting up.own := same ▸ resting
    refine Safe.bind (Safe.system fun _ => ?_)
    refine Safe.bind (Harmless.waitForService slot id _ _ up _ rfl resting
      fun outcome last kept after => ?_)
    have own := ((kept.trans same).trans own).trans duty
    have later := (later.trans more).trans after
    cases outcome with
    | reached => exact look own later
    | cancelled => exact cancel (.now own) later
    | timedOut => exact fail own _ later
  · split
    · exact fail duty _ (.refl _)
    · exact look duty (.refl _)

theorem Harmless.clock {system : System Chronicle} :
    Program.clock.Harmless terms rounds system :=
  .bind .get fun _ _ _ => .pure _

theorem Harmless.switchData {system : System Chronicle} (limit : Nat) (phone : PhoneId) :
    (Program.within limit (openWorld.switchData phone)).Harmless terms rounds system := by
  refine .bind .clock fun now _ _ => ?_
  rintro spot post rfl resting goes sound
  rw [Act.ensures_get]
  refine ⟨spot.own, .refl, fun _ => ?_⟩
  rw [Act.ensures_reviseOutside]
  have asking := System.Later.noting spot.system (.asked (.switchData phone))
  refine ⟨spot.own, .single (.note rfl), ?_⟩
  dsimp only [Program.bind, Program.expect]
  rw [Program.before, Program.Safe]
  refine ⟨resting, fun subject after resumes => ?_⟩
  have later := resumes.later
  have known : spot.system.Later after := asking.trans later
  refine ⟨fun value _ => ?_, fun _ => goes none ⟨_, _, after⟩ rfl known⟩
  cases value with
  | none => exact fun _ => Act.ensures_failure _
  | some answer =>
    intro sound
    rw [Act.ensures_reviseOutside]
    have asks := (Chronicle.asks_now spot.system.outside (.switchData phone)).later later.notes
    have taken : Note.IsPlain after.outside (.taken spot.system.outside.length) :=
      ⟨⟨_, asks, rfl⟩, Chronicle.not_ends_of_harmless asks rfl⟩
    refine ⟨spot.own, .single (.note taken), ?_⟩
    have final := known.trans (.noting after (.taken spot.system.outside.length))
    dsimp only [Program.bind]
    split <;> exact goes _ _ rfl final

theorem Harmless.prepareForEmergency {system : System Chronicle} (phone : PhoneId)
    (carrier : CarrierConfig) :
    (Program.prepareForEmergency openWorld id phone carrier).Harmless terms rounds system := by
  refine .bind .get fun now _ _ => ?_
  refine .bind (.forEach _ fun call _ => .bind (.reject call) fun _ _ _ => .pure _) fun _ _ _ => ?_
  refine .bind (.forEach _ fun call _ => ?_) fun _ _ _ => ?_
  · exact .bind .get fun _ _ _ => .bind (.waitForState call _ _) fun _ _ _ => .pure _
  · refine .bind .get fun now _ _ => ?_
    split
    · exact .bind (.switchData _ phone) fun _ _ _ => .pure _
    · exact .pure _

end Program

theorem Calm.of_session (system : System Chronicle) (session : SelectionSession)
    {journal : List Entry} (more : ∀ entry ∈ system.journal, entry ∈ journal) :
    Calm system { system with registry := { system.registry with session }, journal } :=
  { Calm.refl system with
    retry := .inl rfl
    heard := fun _ ⟨old, among⟩ => ⟨old, more _ among⟩ }

namespace Program

variable {id : ConnectionId}

theorem Harmless.atOnce {system : System Chronicle} {step : Act Chronicle α}
    (calmly : step.Ensures (.level .silent rounds) system fun _ after =>
      Calm system after ∧ after.connections = system.connections) :
    (Program.atOnce step).Harmless terms rounds system := by
  rintro spot post rfl _ goes
  refine Safe.atOnce fun sound => calmly.mono fun value after ⟨calm, connections⟩ => ?_
  have same (id : ConnectionId) : after.connection id = spot.system.connection id :=
    System.connection_congr connections id
  obtain ⟨others, -, orderly⟩ := sound
  have effects : Effects terms (.task spot.subject) spot.own spot.system spot.own after := by
    refine .single (.calm calm (orderly.rest.of_connections same) fun id leg had bare => ?_)
    rw [same, had] at bare
    cases bare
  exact ⟨_, effects, goes value _ rfl effects.later⟩

theorem Harmless.startSelection {system : System Chronicle} (id : ConnectionId) :
    (Program.atOnce (Act.startSelection id)).Harmless terms rounds system := by
  refine .atOnce ((Act.ensures_startSelection id _).mpr ⟨.of_session system _ fun _ old => ?_, rfl⟩)
  split
  · exact .tail _ old
  · exact old

theorem Harmless.finishSelection {system : System Chronicle} (id : ConnectionId) :
    (Program.atOnce (Act.finishSelection id)).Harmless terms rounds system := by
  refine .atOnce
    ((Act.ensures_finishSelection id _).mpr ⟨.of_session system _ fun _ old => ?_, rfl⟩)
  split
  · exact .tail _ old
  · exact old

theorem Harmless.endSelection {system : System Chronicle} :
    (Program.atOnce (Act.setSelectionActive id false)).Harmless terms rounds system := by
  rintro spot post rfl _ goes
  refine Safe.atOnce fun sound => ?_
  obtain ⟨others, _, orderly⟩ := sound
  rw [Act.setSelectionActive, Act.ensures_revise]
  have onlyLoses : (spot.system.connection id).OnlyLoses
      { spot.system.connection id with selectionActive := false } :=
    { Connection.OnlyLoses.refl _ with selection := by simp }
  have rest : (spot.system.reviseConnection id ({ · with selectionActive := false })).AtRest :=
    orderly.rest.reviseConnection _ _ (fun _ => rfl) fun _ => rfl
  have effects : Effects terms (.task spot.subject) spot.own spot.system spot.own
      (spot.system.reviseConnection id ({ · with selectionActive := false })) :=
    .single (.revise onlyLoses rfl rest)
  exact ⟨spot.own, effects, goes _ _ rfl effects.later⟩

theorem Safe.selectDomain {slot : Slot} {spot : Spot}
    {post : Except DisconnectCause (Option Domain) → Spot → Prop}
    (enabled : terms.settings.domainSelection = true)
    (duty : spot.own = [.agent id (.placing slot)])
    (goes : ∀ answer (now : Spot), now.own = [.agent id (.placing slot)] →
      spot.system.Later now.system → post answer now) :
    (Program.selectDomain openWorld id slot).Safe terms rounds spot post := by
  have resting : Resting spot.own := duty ▸ resting_agent id _
  refine Safe.bind (Harmless.startSelection id spot _ rfl resting fun _ now own later => ?_)
  refine Safe.bind (Safe.atOnce fun _ => ?_)
  rw [Act.setSelectionActive, Act.ensures_revise]
  have own := own.trans duty
  have effects : Effects terms (.task now.subject) now.own now.system [.agent id (.placing slot)]
      (now.system.reviseConnection id ({ · with selectionActive := true })) := by
    rw [own]
    exact .single (.select enabled)
  have later := later.trans effects.later
  refine ⟨_, effects, Safe.bind (Safe.system fun _ => ?_)⟩
  refine Safe.bind
    (Harmless.select id _ _ _ rfl (resting_agent id _) fun answer last own more => ?_)
  have later := later.trans more
  split
  · exact goes _ last own later
  · refine Safe.bind (Harmless.endSelection last _ rfl (own ▸ resting_agent id _)
      fun _ idle same more => ?_)
    have own := same.trans own
    refine Safe.bind (Harmless.finishSelection id idle _ rfl (own ▸ resting_agent id _)
      fun _ final same after => ?_)
    exact goes _ final (same.trans own) ((later.trans more).trans after)
  · exact goes _ last own later

def Leaves (terms : Terms) (id : ConnectionId) (slot : Slot) (spot : Spot) : DialOutcome → Prop
  | .bound | .cancelled => spot.own = []
  | .noCall => spot.own = [.agent id .finishing]
  | .failed error =>
    spot.own = [.agent id (.failing (terms.ident slot) error)] ∧ spot.subject = some id

theorem Safe.settle {slot : Slot} {outcome : DialOutcome} {spot : Spot}
    {post : Placed → Spot → Prop} (leaves : Leaves terms id slot spot outcome)
    (goes : ∀ answer (now : Spot), now.own = [] → post answer now) :
    (Program.settle openWorld id (terms.ident slot) outcome).Safe terms rounds spot post := by
  have leave {now : Spot} (own : now.own = []) :
      (Program.gone id).Safe terms rounds now post :=
    Safe.bind (Safe.call fun _ => goes _ now own)
  have look {now : Spot} (own : now.own = []) :
      (do
        if ← Program.isLive id then return .ok id
        Program.gone id : Program Chronicle Placed).Safe terms rounds now post :=
    Safe.bind (Safe.isLive (fun _ => ⟨_, .refl, goes _ _ own⟩) fun _ => ⟨_, .refl, leave own⟩)
  cases outcome with
  | bound => exact goes _ spot leaves
  | cancelled => exact leave leaves
  | noCall => exact Safe.fail (.now leaves) rfl fun _ _ _ => goes _ _ rfl
  | failed error =>
    obtain ⟨own, subject⟩ := leaves
    have turns : spot.Turns terms [.agent id (.failing (terms.ident slot) error)] := .now own
    refine Safe.bind (Safe.call fun sound => ?_)
    obtain ⟨others, _, orderly⟩ := sound
    refine Safe.bind (Safe.system fun _ => ?_)
    dsimp only
    split
    · exact Safe.bind (Safe.redial subject (.step turns .retry) fun now own _ => look own)
    split
    · rename_i wanted
      simp only [Bool.and_eq_true] at wanted
      have enabled := orderly.selection id wanted.1
      exact Safe.bind (Safe.reselectFrom enabled _ (.step turns (.redirect enabled))
        fun now own _ => look own)
    · exact Safe.bind (Safe.fail turns rfl fun _ _ _ => goes _ _ rfl)

theorem Harmless.clearSatellite {system : System Chronicle} (emergency : Bool) :
    (Program.clearSatellite openWorld emergency).Harmless terms rounds system := by
  have leave {system : System Chronicle} :
      openWorld.leaveSatellite.Harmless terms rounds system := by
    refine .bind (.converse rfl) fun answer _ _ => ?_
    split <;> exact .pure _
  refine .bind .get fun now _ _ => ?_
  dsimp only
  split
  · exact .pure _
  split
  · exact .pure _
  split
  · exact .pure _
  · refine .bind leave fun yes _ _ => ?_
    split <;> exact .pure _

theorem Safe.dialOut {placement : Placement} {spot : Spot} {post : Placed → Spot → Prop}
    (phone : placement.phone.id = terms.ident placement.slot)
    (duty : spot.own = [.agent id (.placing placement.slot)]) (domain : Option Domain)
    (goes : ∀ answer (now : Spot), now.own = [] → post answer now) :
    (Program.dialOut openWorld id placement domain).Safe terms rounds spot post := by
  refine Safe.bind (Safe.isLive (fun alive => ⟨_, .now duty, ?_⟩) fun _ => ⟨_, .now duty, ?_⟩)
  · rw [phone]
    refine Safe.bind (Safe.dialAndBind .refl (Stage.mayEnd_placing _) alive rfl ?_ ?_ ?_ ?_)
    · exact fun last own _ => Safe.settle own goes
    · exact fun last own _ => Safe.settle own goes
    · exact fun last own _ => Safe.settle own goes
    · exact fun error last own subject _ => Safe.settle ⟨own, subject⟩ goes
  · exact Safe.bind (Safe.gone .refl (Stage.mayEnd_placing _) fun _ => goes _ _ rfl)

theorem Safe.chooseAndDial {placement : Placement} {spot : Spot} {post : Placed → Spot → Prop}
    (phone : placement.phone.id = terms.ident placement.slot)
    (duty : spot.own = [.agent id (.placing placement.slot)])
    (goes : ∀ answer (now : Spot), now.own = [] → post answer now) :
    (Program.chooseAndDial openWorld id placement).Safe terms rounds spot post := by
  refine Safe.bind (Safe.system fun sound => ?_)
  obtain ⟨others, _, orderly⟩ := sound
  split
  · rename_i wanted
    simp only [Bool.and_eq_true] at wanted
    have enabled : terms.settings.domainSelection = true := by
      rw [← orderly.settings]
      exact wanted.1.2
    refine Safe.bind (Safe.selectDomain enabled duty fun answer last own _ => ?_)
    cases answer with
    | ok domain => exact Safe.dialOut phone own domain goes
    | error cause => exact Safe.bind (Safe.fail (.now own) rfl fun _ _ _ => goes _ _ rfl)
  · refine Safe.bind (Harmless.prepareToDial id _ _ _ spot _ rfl (duty ▸ resting_agent id _)
      fun _ last same _ => ?_)
    exact Safe.dialOut phone (same.trans duty) none goes

theorem Safe.complete {placement : Placement} {spot : Spot} {post : Placed → Spot → Prop}
    (phone : placement.phone.id = terms.ident placement.slot)
    (duty : spot.own = [.agent id (.placing placement.slot)])
    (goes : ∀ answer (now : Spot), now.own = [] → post answer now) :
    (Program.complete openWorld id placement).Safe terms rounds spot post := by
  rw [complete_eq]
  refine Safe.bind (Safe.ensureRadio duty (Stage.mayEnd_placing _) (fun now own _ => ?_)
    fun answer now own _ => goes answer now own)
  dsimp only
  split
  · refine Safe.bind (Harmless.prepareForEmergency placement.phone.id placement.carrier
      now _ rfl (own ▸ resting_agent id _) fun _ last same _ => ?_)
    refine Safe.bind (Safe.isLive (fun alive => ⟨_, .now (same.trans own), ?_⟩)
      fun _ => ⟨_, .now (same.trans own), ?_⟩)
    · exact Safe.chooseAndDial phone rfl goes
    · exact Safe.bind (Safe.gone .refl (Stage.mayEnd_placing _) fun _ => goes _ _ rfl)
  · exact Safe.chooseAndDial phone own goes

end Program
end Switchboard
