import Switchboard.Proofs.ConnectionLaws
import Switchboard.Proofs.Verdicts
import Mathlib.Data.List.DropRight

/-! Passing verdicts on while listeners interfere. Whoever hears of a verdict may end calls and have
entities tracked or not, and each time verdicts are taken anew and all given, before those that were
on their way go on to be given. A `Ledger` keeps what is on its way. What has been given since
verdicts were taken last is as it was given, whatever the listeners do: `Disturbance.obeys_act`. -/

namespace Switchboard

abbrev Award := Holdable × Bool

def Award.elsewhere (id : ConnectionId) (award : Award) : Bool :=
  award.1 != .connection id

/-- Verdicts on their way. -/
structure Ledger where
  /-- What is still to be given, by each that passes verdicts on, the innermost first. -/
  ahead : List (List Award) := []
  /-- What was to be given when verdicts had been taken last, in this order. -/
  due : List Award := []

namespace Ledger

def pastIn (id : ConnectionId) : List (List Award) → List (List Award)
  | [] => []
  | round :: rest => round.rtakeWhile (Award.elsewhere id) :: rest

def past (ledger : Ledger) (id : ConnectionId) : Ledger :=
  { ledger with ahead := pastIn id ledger.ahead }

def aside (ledger : Ledger) : Ledger :=
  { ledger with ahead := [] :: ledger.ahead }

/-- Verdicts have been taken. -/
def taken (ledger : Ledger) (awards : List Award) : Ledger :=
  { ahead := awards :: ledger.ahead, due := awards ++ ledger.ahead.flatten }

def back (ledger : Ledger) : Ledger :=
  { ledger with ahead := ledger.ahead.tail }

theorem pastIn_eq_cons {id : ConnectionId} {ahead rest : List (List Award)} {later : List Award}
    (past : pastIn id ahead = later :: rest) :
    ∃ round, ahead = round :: rest ∧ later <:+ round := by
  cases ahead with
  | nil => cases past
  | cons round others =>
    obtain ⟨rfl, rfl⟩ := List.cons.inj past
    exact ⟨round, rfl, List.rtakeWhile_suffix _ _⟩

theorem pastIn_pastIn (id : ConnectionId) (ahead : List (List Award)) :
    pastIn id (pastIn id ahead) = pastIn id ahead := by
  cases ahead with
  | nil => rfl
  | cons round rest => rw [pastIn, pastIn, List.rtakeWhile_idempotent]

end Ledger

def System.verdicts {ε : Type} (system : System ε) : List Award :=
  system.tracked.map fun entity => (entity, system.mayHold entity)

namespace Act

def giving (awards : List Award) (step : Act Ledger Unit) : Act Ledger Unit := do
  reviseOutside (·.taken awards)
  step
  reviseOutside Ledger.back

def meanwhile (step : Act Ledger Unit) : Act Ledger Unit := do
  reviseOutside Ledger.aside
  step
  reviseOutside Ledger.back

def recompute : Act Ledger Unit := do
  giving (← get).verdicts passVerdicts

end Act

/-- What may be done about verdicts, or else changes them. -/
inductive Disturbance
  | recompute
  | disconnect (id : ConnectionId) (info : DisconnectInfo)
  | close (id : ConnectionId)
  | track (entity : Holdable)
  | untrack (entity : Holdable)

/-- Verdicts are taken anew after every change. -/
def Disturbance.act : Disturbance → Act Ledger Unit
  | recompute => Act.recompute
  | disconnect id info => do
    Act.meanwhile (Act.setDisconnected id info)
    Act.recompute
  | close id => do
    Act.meanwhile (Act.close id)
    Act.recompute
  | track entity => do
    let system ← get
    unless system.tracked.contains entity do
      let larger := { system with tracked := system.tracked ++ [entity] }
      Act.giving larger.verdicts (Act.track entity)
  | untrack entity => do
    let system ← get
    if system.tracked.contains entity then
      let smaller := { system with tracked := system.tracked.filter (· != entity) }
      Act.giving smaller.verdicts (Act.untrack entity)

/-- What somebody who is told does at once, depending on what there is to see. -/
inductive Reaction
  | rest
  | look (next : System Ledger → Reaction)
  | make (disturbance : Disturbance) (next : Reaction)

def Reaction.act : Reaction → Act Ledger Unit
  | rest => pure ()
  | look next => do (next (← get)).act
  | make disturbance next => do
    disturbance.act
    next.act

def ConnectionEvent.isEnd : ConnectionEvent → Bool
  | .stateChanged _ .disconnected => true
  | _ => false

/-- Bystanders that react to what they hear, and recompute when a call has ended. -/
def Bystanders.meddling (react : String → ConnectionId → ConnectionEvent → Reaction) :
    Bystanders Ledger where
  hear name id event := do
    Act.reviseOutside (·.past id)
    (react name id event).act
    if event.isEnd then Act.recompute
  bridged := pure ()

namespace System

variable {system after : System Ledger} {given later : List Award}
  {rounds rest : List (List Award)}

/-- Of what was due, this has been given, and the rest is on its way. -/
structure Given (system : System Ledger) (given later : List Award) : Prop where
  due : system.outside.due = given ++ later
  sound (award : Award) : award ∈ system.outside.due → award.2 = true → system.Present award.1
  last (entity : Holdable) (verdict : Bool) : given.reverse.lookup entity = some verdict →
    system.verdict entity = verdict

theorem present_congr {ε : Type} {before after : System ε}
    (connections : after.connections = before.connections)
    (conferences : after.conferences = before.conferences) (entity : Holdable) :
    after.Present entity ↔ before.Present entity := by
  rcases entity with (_ | _) | (_ | _) <;> simp [Present, Known, connections, conferences]

/-- The books on verdicts are in order, and these are on their way. -/
structure Orderly (system : System Ledger) (rounds : List (List Award)) : Prop where
  alone (id : ConnectionId) : .exchange ∉ (system.connection id).listeners
  distinct : system.tracked.Nodup
  given : ∃ given, system.Given given rounds.flatten

structure Alone (before after : System Ledger) : Prop where
  listeners (id : ConnectionId) :
    (after.connection id).listeners.Sublist (before.connection id).listeners
  tracked : after.tracked = before.tracked
  present (entity : Holdable) : before.Present entity → after.Present entity
  due : after.outside.due = before.outside.due

theorem Orderly.flatten_eq (orderly : system.Orderly rounds) {others : List (List Award)}
    (same : others.flatten = rounds.flatten) : system.Orderly others :=
  { orderly with given := same ▸ orderly.given }

theorem Orderly.congr (orderly : system.Orderly rounds) (alone : system.Alone after)
    (verdict : ∀ entity, after.verdict entity = system.verdict entity) :
    after.Orderly rounds where
  alone id among := orderly.alone id ((alone.listeners id).subset among)
  distinct := by
    rw [alone.tracked]
    exact orderly.distinct
  given := by
    obtain ⟨given, books⟩ := orderly.given
    refine ⟨given, by rw [alone.due, books.due], fun award among allowed => ?_,
      fun entity allowed found => (verdict entity).trans (books.last entity allowed found)⟩
    rw [alone.due] at among
    exact alone.present award.1 (books.sound award among allowed)

theorem Orderly.reviseOutside (orderly : system.Orderly rounds) {ledger : Ledger}
    (due : ledger.due = system.outside.due) :
    System.Orderly { system with outside := ledger } rounds :=
  orderly.congr ⟨fun id => by cases id <;> exact .refl _, rfl,
    fun entity => (present_congr rfl rfl entity).mpr, due⟩
    fun entity => by rcases entity with (_ | _) | (_ | _) <;> rfl

theorem Orderly.give {entity : Holdable} {allowed : Bool}
    (orderly : system.Orderly (((entity, allowed) :: later) :: rest)) (alone : system.Alone after)
    (own : after.verdict entity = allowed)
    (others : ∀ other, other ≠ entity → after.verdict other = system.verdict other) :
    after.Orderly (later :: rest) where
  alone id among := orderly.alone id ((alone.listeners id).subset among)
  distinct := by
    rw [alone.tracked]
    exact orderly.distinct
  given := by
    obtain ⟨given, books⟩ := orderly.given
    refine ⟨given ++ [(entity, allowed)], ?_, fun award among allowed => ?_,
      fun other verdict found => ?_⟩
    · rw [alone.due, books.due]
      simp
    · rw [alone.due] at among
      exact alone.present award.1 (books.sound award among allowed)
    · rw [List.reverse_append, List.reverse_singleton, List.singleton_append,
        List.lookup_cons] at found
      by_cases same : other = entity
      · subst same
        rw [beq_self_eq_true] at found
        exact own.trans (Option.some.inj found)
      · rw [beq_false_of_ne same] at found
        exact (others other same).trans (books.last other verdict found)

theorem Orderly.verdict_of_not_present {entity : Holdable} {allowed : Bool}
    (orderly : system.Orderly (((entity, allowed) :: later) :: rest))
    (strange : ¬ system.Present entity) : system.verdict entity = allowed := by
  obtain ⟨given, books⟩ := orderly.given
  rw [(mayHold_of_not_present strange).2]
  refine (Bool.eq_false_iff.mpr fun yes => strange (books.sound (entity, allowed) ?_ yes)).symm
  rw [books.due]
  exact List.mem_append_right given List.mem_cons_self

theorem Orderly.taken (orderly : system.Orderly rounds) (awards : List Award)
    (due : after.outside.due = awards ++ rounds.flatten)
    (connections : after.connections = system.connections)
    (conferences : after.conferences = system.conferences) (distinct : after.tracked.Nodup)
    (sound : ∀ award ∈ awards, award.2 = true → system.Present award.1) :
    after.Orderly (awards :: rounds) where
  alone id := by
    have same : after.connection id = system.connection id :=
      System.connection_congr connections id
    rw [same]
    exact orderly.alone id
  distinct := distinct
  given := by
    obtain ⟨given, books⟩ := orderly.given
    have present := present_congr connections conferences
    refine ⟨[], by rw [due]; rfl, fun award among allowed => (present _).mpr ?_, nofun⟩
    rw [due] at among
    rcases List.mem_append.mp among with new | old
    · exact sound award new allowed
    · refine books.sound award ?_ allowed
      rw [books.due]
      exact List.mem_append_right given old

theorem verdicts_sound (system : System Ledger) (award : Award) :
    award ∈ system.verdicts → award.2 = true → system.Present award.1 := by
  intro among allowed
  obtain ⟨entity, -, rfl⟩ := List.mem_map.mp among
  refine Decidable.byContradiction fun strange => ?_
  cases allowed.symm.trans (mayHold_of_not_present strange).1

theorem Alone.of_revise (system : System Ledger) (id : ConnectionId)
    {change : Connection → Connection}
    (fewer : ∀ call, (change call).listeners.Sublist call.listeners) :
    system.Alone (system.reviseConnection id change) where
  listeners := system.kept_revise id (motive := fun old new => new.listeners.Sublist old.listeners)
    (fewer _) fun _ => .refl _
  tracked := by cases id <;> rfl
  present entity here := by
    rcases entity with other | (_ | _)
    · exact (system.known_reviseConnection id other change).mpr here
    · cases id <;> exact here
    · exact here
  due := by rw [reviseConnection_outside]

end System

def bookkeeping (view : List (List Award) → List (List Award)) : Law Ledger where
  holds system := system.Orderly (view system.outside.ahead)
  leads before after := view after.outside.ahead = view before.outside.ahead
  refl _ := rfl
  trans first second := second.trans first

def Wiring.Books (wiring : Wiring Ledger) : Prop :=
  ∀ (id : ConnectionId) (listeners : List Listener) (event : ConnectionEvent),
    .exchange ∉ listeners →
      (Act.tell listeners id event).Obeys (bookkeeping (Ledger.pastIn id)) wiring

namespace Act

variable {wiring : Wiring Ledger}

theorem bookkeeping_sameConferences {view : List (List Award) → List (List Award)}
    {before after : System Ledger} (sameConferences : before.SameConferences after)
    (holds : (bookkeeping view).holds before) :
    (bookkeeping view).holds after ∧ (bookkeeping view).leads before after := by
  have connection (id : ConnectionId) : after.connection id = before.connection id :=
    System.connection_congr sameConferences.connections id
  have present := System.present_congr sameConferences.connections sameConferences.conferences
  have same : view after.outside.ahead = view before.outside.ahead := by
    rw [sameConferences.outside]
  refine ⟨System.Orderly.congr (same.symm ▸ holds) ⟨fun id => ?_, sameConferences.tracked,
    fun entity => (present entity).mpr, congrArg (·.due) sameConferences.outside⟩
      fun entity => ?_, same⟩
  · rw [connection]
  · rcases entity with id | (_ | _) <;>
      simp only [System.verdict, connection, System.conference, sameConferences.conferences]

theorem bookkeeping_allowsTelling (books : wiring.Books) (id : ConnectionId) :
    (bookkeeping (Ledger.pastIn id)).AllowsTelling wiring id where
  sameConferences := bookkeeping_sameConferences
  revise {change} keepsVerdict := by
    intro system holds
    rw [ensures_revise]
    have same : Ledger.pastIn id (system.reviseConnection id change).outside.ahead =
        Ledger.pastIn id system.outside.ahead := by rw [system.reviseConnection_outside]
    refine ⟨System.Orderly.congr (same.symm ▸ holds) (.of_revise system id keepsVerdict.listeners)
      (system.verdict_reviseConnection (keepsVerdict.holdAllowed _)), same⟩
  notify event := by
    intro system holds
    rw [ensures_notify]
    exact books id _ event (holds.alone id) system holds

theorem pastIn_of_suffix {round later : List Award} {rest : List (List Award)}
    {id : ConnectionId} {allowed : Bool} (ends : ((.connection id, allowed) :: later) <:+ round)
    (apart : .connection id ∉ later.map Prod.fst) :
    Ledger.pastIn id (round :: rest) = later :: rest := by
  obtain ⟨earlier, rfl⟩ := ends
  have elsewhere (award : Award) (among : award ∈ later.reverse) :
      award.elsewhere id = true := by
    refine bne_iff_ne.mpr fun same => apart ?_
    exact List.mem_map.mpr ⟨award, List.mem_reverse.mp among, same⟩
  have own : Award.elsewhere id (.connection id, allowed) = false := by simp [Award.elsewhere]
  rw [Ledger.pastIn, List.rtakeWhile, List.reverse_append, List.reverse_cons, List.append_assoc,
    List.takeWhile_append_of_pos elsewhere, List.singleton_append, List.takeWhile_cons, own]
  simp

section

variable {system : System Ledger} {round later : List Award} {rest : List (List Award)}
  {allowed : Bool} (ahead : system.outside.ahead = round :: rest)
include ahead

theorem ensures_setVerdict_conference {id : ConferenceId}
    (ends : ((.conference id, allowed) :: later) <:+ round)
    (orderly : system.Orderly (((.conference id, allowed) :: later) :: rest)) :
    (setVerdict (.conference id) allowed).Ensures wiring system fun _ after =>
      (∃ round, after.outside.ahead = round :: rest ∧ later <:+ round) ∧
        after.Orderly (later :: rest) := by
  rw [setVerdict, ensures_modify]
  have outside : (system.reviseConference id ({ · with holdAllowed := allowed })).outside =
      system.outside := by cases id <;> rfl
  rw [outside]
  refine ⟨⟨round, ahead, (List.suffix_cons _ _).trans ends⟩, orderly.give ⟨fun other => ?_,
    system.tracked_reviseConference id _,
    fun entity => (system.present_reviseConference id _ entity).mpr,
    congrArg (·.due) outside⟩ ?_ fun other differ => ?_⟩
  · rw [System.connection_reviseConference]
  · rw [System.verdict, System.conference_reviseConference]
    split
    · rfl
    · rename_i apart
      exact orderly.verdict_of_not_present fun here => apart ⟨rfl, here⟩
  · cases other with
    | connection other => rw [System.verdict, System.connection_reviseConference, System.verdict]
    | conference other =>
      rw [System.verdict, System.conference_reviseConference,
        if_neg fun own => differ (congrArg _ own.1), System.verdict]

theorem ensures_setVerdict_connection (books : wiring.Books) {id : ConnectionId}
    (ends : ((.connection id, allowed) :: later) <:+ round)
    (apart : .connection id ∉ later.map Prod.fst)
    (orderly : system.Orderly (((.connection id, allowed) :: later) :: rest)) :
    (setVerdict (.connection id) allowed).Ensures wiring system fun _ after =>
      (∃ round, after.outside.ahead = round :: rest ∧ later <:+ round) ∧
        after.Orderly (later :: rest) := by
  rw [setVerdict, setHoldAllowed, ensures_bind, ensures_look]
  split
  · rename_i same
    rw [ensures_pure]
    refine ⟨⟨round, ahead, (List.suffix_cons _ _).trans ends⟩, ?_⟩
    exact orderly.give ⟨fun _ => .refl _, rfl, fun _ here => here, rfl⟩ (beq_iff_eq.mp same)
      fun _ _ => rfl
  · rename_i differ
    rw [ensures_bind, ensures_revise]
    let given := system.reviseConnection id ({ · with holdAllowed := allowed })
    have known : system.Known id := Decidable.byContradiction fun strange =>
      differ (beq_iff_eq.mpr (orderly.verdict_of_not_present strange))
    have next : given.Orderly (later :: rest) := by
      refine orderly.give (.of_revise system id fun _ => .refl _) ?_ fun other apart => ?_
      · rw [System.verdict, system.connection_reviseConnection_known known]
      · cases other with
        | connection other =>
          rw [System.verdict, system.connection_reviseConnection_other
            fun same => apart (congrArg _ same), System.verdict]
        | conference other => cases id <;> rfl
    have view : Ledger.pastIn id given.outside.ahead = later :: rest := by
      rw [system.reviseConnection_outside, ahead]
      exact pastIn_of_suffix ends apart
    have holds : given.Orderly (Ledger.pastIn id given.outside.ahead) := view.symm ▸ next
    have publishes := allowsTelling_publishes (bookkeeping_allowsTelling books id)
    refine (publishes.update given holds).mono ?_
    rintro _ after ⟨orderly, same⟩
    have view := same.trans view
    exact ⟨Ledger.pastIn_eq_cons view, view ▸ orderly⟩

theorem ensures_setVerdict (books : wiring.Books) {entity : Holdable}
    (ends : ((entity, allowed) :: later) <:+ round) (apart : entity ∉ later.map Prod.fst)
    (orderly : system.Orderly (((entity, allowed) :: later) :: rest)) :
    (setVerdict entity allowed).Ensures wiring system fun _ after =>
      (∃ round, after.outside.ahead = round :: rest ∧ later <:+ round) ∧
        after.Orderly (later :: rest) := by
  cases entity with
  | conference id => exact ensures_setVerdict_conference ahead ends orderly
  | connection id => exact ensures_setVerdict_connection ahead books ends apart orderly

end

theorem ensures_setVerdicts (books : wiring.Books) {system : System Ledger}
    {entities : List Holdable} (verdict : Holdable → Bool) {round : List Award}
    {rest : List (List Award)} (ahead : system.outside.ahead = round :: rest)
    (ends : entities.map (fun entity => (entity, verdict entity)) <:+ round)
    (distinct : entities.Nodup)
    (orderly : system.Orderly (entities.map (fun entity => (entity, verdict entity)) :: rest)) :
    (entities.forM fun entity => setVerdict entity (verdict entity)).Ensures wiring system
      fun _ after => (∃ round, after.outside.ahead = round :: rest) ∧ after.Orderly rest := by
  induction entities generalizing system round with
  | nil =>
    rw [List.forM, ensures_pure]
    exact ⟨⟨round, ahead⟩, orderly.flatten_eq rfl⟩
  | cons entity later ih =>
    have apart : entity ∉ (later.map fun entity => (entity, verdict entity)).map Prod.fst := by
      simpa [Function.comp_def] using (List.nodup_cons.mp distinct).1
    rw [List.forM, ensures_bind]
    refine (ensures_setVerdict ahead books ends apart orderly).mono ?_
    rintro _ after ⟨⟨next, ahead, ends⟩, orderly⟩
    exact ih ahead ends (List.nodup_cons.mp distinct).2 orderly

theorem ensures_passVerdicts (books : wiring.Books) {system : System Ledger}
    {rest : List (List Award)} (ahead : system.outside.ahead = system.verdicts :: rest)
    (orderly : system.Orderly (system.verdicts :: rest)) :
    passVerdicts.Ensures wiring system fun _ after =>
      (∃ round, after.outside.ahead = round :: rest) ∧ after.Orderly rest := by
  rw [passVerdicts, ensures_bind, ensures_get]
  exact ensures_setVerdicts books system.mayHold ahead (List.suffix_refl _) orderly.distinct orderly

theorem ensures_giving {system : System Ledger} {awards : List Award} {step : Act Ledger Unit}
    (gives : step.Ensures wiring { system with outside := system.outside.taken awards }
      fun _ after => (∃ round, after.outside.ahead = round :: system.outside.ahead) ∧
        after.Orderly system.outside.ahead) :
    (giving awards step).Ensures wiring system fun _ after =>
      after.Orderly after.outside.ahead ∧ after.outside.ahead = system.outside.ahead := by
  rw [giving, ensures_bind, ensures_reviseOutside, ensures_bind]
  refine gives.mono fun _ given ⟨⟨round, ahead⟩, orderly⟩ => ?_
  have same : given.outside.back.ahead = system.outside.ahead := by rw [Ledger.back, ahead]; rfl
  rw [ensures_reviseOutside, same]
  exact ⟨orderly.reviseOutside rfl, rfl⟩

theorem ensures_track {system : System Ledger} {entity : Holdable}
    (strange : ¬ system.tracked.contains entity = true) (outside : Ledger)
    (goal : Unit → System Ledger → Prop) :
    (track entity).Ensures wiring { system with outside } goal ↔
      passVerdicts.Ensures wiring { system with tracked := system.tracked ++ [entity], outside }
        goal := by
  rw [track, ensures_bind, ensures_get, if_neg strange, ensures_bind, ensures_modify]

theorem ensures_untrack {system : System Ledger} {entity : Holdable}
    (there : system.tracked.contains entity = true) (outside : Ledger)
    (goal : Unit → System Ledger → Prop) :
    (untrack entity).Ensures wiring { system with outside } goal ↔
      passVerdicts.Ensures wiring
        { system with tracked := system.tracked.filter (· != entity), outside } goal := by
  rw [untrack, ensures_bind, ensures_get, if_pos there, ensures_bind, ensures_modify]

theorem ensures_retrack (books : wiring.Books) {system : System Ledger}
    (orderly : system.Orderly system.outside.ahead) {tracked : List Holdable}
    (distinct : tracked.Nodup) {step : Act Ledger Unit}
    (steps : ∀ outside goal, step.Ensures wiring { system with outside } goal ↔
      passVerdicts.Ensures wiring { system with tracked, outside } goal) :
    (giving (System.verdicts { system with tracked }) step).Ensures wiring system fun _ after =>
      after.Orderly after.outside.ahead ∧ after.outside.ahead = system.outside.ahead := by
  refine ensures_giving ((steps _ _).mpr (ensures_passVerdicts books ?_ ?_))
  · rfl
  · exact orderly.taken _ rfl rfl rfl distinct
      fun award among allowed => (System.present_congr rfl rfl _).mp
        (System.verdicts_sound { system with tracked } award among allowed)

theorem obeys_recompute (books : wiring.Books) :
    recompute.Obeys (bookkeeping fun ahead => ahead) wiring := by
  intro system orderly
  rw [recompute, ensures_bind, ensures_get]
  exact ensures_retrack books orderly orderly.distinct fun _ _ => .rfl

theorem obeys_meanwhile {id : ConnectionId} {step : Act Ledger Unit}
    (obeys : step.Obeys (bookkeeping (Ledger.pastIn id)) wiring) :
    (meanwhile step).Obeys (bookkeeping fun ahead => ahead) wiring := by
  intro system orderly
  have orderly : system.Orderly ([] :: system.outside.ahead) := orderly.flatten_eq rfl
  have begun : System.Orderly { system with outside := system.outside.aside }
      ([] :: system.outside.ahead) := orderly.reviseOutside rfl
  rw [meanwhile, ensures_bind, ensures_reviseOutside, ensures_bind]
  refine (obeys _ begun).mono fun _ after ⟨orderly, same⟩ => ?_
  have view : Ledger.pastIn id after.outside.ahead = [] :: system.outside.ahead := same
  obtain ⟨round, ahead, -⟩ := Ledger.pastIn_eq_cons view
  have same : after.outside.back.ahead = system.outside.ahead := by rw [Ledger.back, ahead]; rfl
  have orderly : after.Orderly ([] :: system.outside.ahead) := view ▸ orderly
  have done : System.Orderly { after with outside := after.outside.back }
      ([] :: system.outside.ahead) := orderly.reviseOutside rfl
  rw [ensures_reviseOutside]
  refine ⟨?_, same⟩
  change System.Orderly _ after.outside.back.ahead
  rw [same]
  exact done.flatten_eq rfl

end Act

/-- The books on verdicts stay in order, whatever is done. -/
theorem Disturbance.obeys_act {wiring : Wiring Ledger} (books : wiring.Books)
    (disturbance : Disturbance) :
    disturbance.act.Obeys (bookkeeping fun ahead => ahead) wiring := by
  have allowsTelling (id : ConnectionId) := Act.bookkeeping_allowsTelling books id
  cases disturbance with
  | recompute => exact Act.obeys_recompute books
  | disconnect id info =>
    exact .bind
      (Act.obeys_meanwhile (Act.allowsTelling_setDisconnected (allowsTelling id) info)) fun _ =>
      Act.obeys_recompute books
  | close id =>
    exact .bind (Act.obeys_meanwhile (Act.allowsTelling_close (allowsTelling id))) fun _ =>
      Act.obeys_recompute books
  | track entity =>
    intro system orderly
    rw [act, Act.ensures_bind, Act.ensures_get]
    split
    · rw [Act.ensures_pure]
      exact ⟨orderly, rfl⟩
    · rename_i strange
      have stranger : entity ∉ system.tracked := by simpa using strange
      refine Act.ensures_retrack books orderly ?_ (Act.ensures_track strange)
      exact List.nodup_append.mpr ⟨orderly.distinct, by simp, fun one among other own => by
        rw [List.mem_singleton.mp own]
        exact fun same => stranger (same ▸ among)⟩
  | untrack entity =>
    intro system orderly
    rw [act, Act.ensures_bind, Act.ensures_get]
    split
    · rename_i there
      exact Act.ensures_retrack books orderly (orderly.distinct.filter _)
        (Act.ensures_untrack there)
    · rw [Act.ensures_pure]
      exact ⟨orderly, rfl⟩

theorem Reaction.obeys_act {wiring : Wiring Ledger} (books : wiring.Books) (reaction : Reaction) :
    reaction.act.Obeys (bookkeeping fun ahead => ahead) wiring := by
  induction reaction with
  | rest => exact .pure _
  | look next ih => exact .bind .get fun system => ih system
  | make disturbance next ih => exact .bind (disturbance.obeys_act books) fun _ => ih

namespace Wiring

variable {react : String → ConnectionId → ConnectionEvent → Reaction} {wiring : Wiring Ledger}

theorem books_hear (books : wiring.Books) (name : String) (id : ConnectionId)
    (event : ConnectionEvent) :
    ((Bystanders.meddling react).hear name id event).Obeys (bookkeeping (Ledger.pastIn id))
      wiring := by
  intro system orderly
  have rest : Act.Obeys (do (react name id event).act; if event.isEnd then Act.recompute)
      (bookkeeping fun ahead => ahead) wiring := by
    refine .bind ((react name id event).obeys_act books) fun _ => ?_
    split
    · exact Act.obeys_recompute books
    · exact .pure _
  rw [Bystanders.meddling, Act.ensures_bind, Act.ensures_reviseOutside]
  refine (rest _ ?_).mono fun _ after ⟨orderly, same⟩ => ?_
  · exact System.Orderly.reviseOutside orderly rfl
  · have same : after.outside.ahead = Ledger.pastIn id system.outside.ahead := same
    have view : Ledger.pastIn id after.outside.ahead = Ledger.pastIn id system.outside.ahead := by
      rw [same, Ledger.pastIn_pastIn]
    refine ⟨?_, view⟩
    change after.Orderly (Ledger.pastIn id after.outside.ahead)
    rw [view, ← same]
    exact orderly

theorem books_level (rounds : Nat) : (level (.meddling react) rounds).Books := by
  induction rounds with
  | zero => exact fun _ _ _ _ _ _ _ _ run => nomatch run
  | succ rounds books =>
    intro id listeners event alone system orderly
    rw [Act.ensures_tell]
    have one (listener : Listener) (among : listener ∈ listeners) :
        ((Bystanders.meddling react).tellOne id event listener).Obeys
          (bookkeeping (Ledger.pastIn id)) (level (.meddling react) rounds) := by
      refine .bind
        (.modify fun _ => Act.bookkeeping_sameConferences ⟨rfl, rfl, rfl, rfl, rfl⟩) fun _ => ?_
      cases listener with
      | recorder => exact .pure _
      | exchange => exact absurd among alone
      | observer name => exact books_hear books name id event
    exact Act.Obeys.forM listeners one system orderly ⟨⟩

end Wiring
end Switchboard
