import Switchboard.Proofs.Verdicts

/-! Recalculation of conferences. `System.gathered` says who belongs in the conference of a
technology, for connections of given technologies; recalculation brings the desk in line with it for
the technologies that connections have, whatever conferences were there before. While it takes the
technologies in turn, a connection that has changed its technology is a member of a conference whose
turn has not come (`System.Seated`). All this is for a wiring under which memberships can be entered
(`Wiring.Seats`). -/

namespace Switchboard

namespace System

variable {ε : Type}

def technologyOf (system : System ε) (id : ConnectionId) : Technology :=
  (system.connection id).technology

def group (system : System ε) (technologies : ConnectionId → Technology)
    (technology : Technology) : List ConnectionId :=
  system.registry.connections.filter fun id =>
    technologies id == technology && (system.connection id).isMultiparty &&
      (system.connection id).published.state.isConnected

/-- The members of the conference that there would be, if there would be one. -/
def gathered (system : System ε) (technologies : ConnectionId → Technology)
    (technology : Technology) : Option (List ConnectionId) :=
  let group := system.group technologies technology
  if technology.formsConference group.length then some group else none

/-- The members of the conference that there is, if there is one. -/
def seatedAt (system : System ε) (technology : Technology) : Option (List ConnectionId) :=
  (system.desk.get technology).map fun conference => (system.conference conference).members

def seats (system : System ε) (technology : Technology) : List ConnectionId :=
  (system.seatedAt technology).getD []

def Formed (system : System ε) (technologies : ConnectionId → Technology) : Prop :=
  ∀ technology ∈ conferencing, system.seatedAt technology = system.gathered technologies technology

def UpToDate (system : System ε) : Prop :=
  system.Formed system.technologyOf

structure DeskValid (system : System ε) : Prop where
  placed {technology : Technology} {conference : ConferenceId} :
    system.desk.get technology = some conference →
      system.Present (.conference conference) ∧
        (system.conference conference).technology = technology ∧
        (system.conference conference).removed = false
  grounded : system.desk.get .satellite = none

theorem DeskValid.unique {system : System ε} (deskValid : system.DeskValid)
    {technology other : Technology}
    {conference : ConferenceId} (here : system.desk.get technology = some conference)
    (there : system.desk.get other = some conference) : technology = other :=
  (deskValid.placed here).2.1.symm.trans (deskValid.placed there).2.1

/-- Whoever belongs to a conference is one of its members, and the other way round once its
technology has had its turn. -/
structure Seated (system : System ε) (turns : List Technology) : Prop where
  member {id : ConnectionId} {conference : ConferenceId} :
    (system.connection id).conference = some conference → ∃ technology,
      system.desk.get technology = some conference ∧ id ∈ (system.conference conference).members
  belongs {technology : Technology} {conference : ConferenceId} {id : ConnectionId} :
    system.desk.get technology = some conference → id ∈ (system.conference conference).members →
      (system.connection id).conference = some conference ∨
        technology ∉ turns ∧ system.mergeable technology id = false
  gathered {technology : Technology} {conference : ConferenceId} {id : ConnectionId} :
    technology ∈ turns → system.desk.get technology = some conference →
      id ∈ (system.conference conference).members → system.technologyOf id = technology

structure Aggregated (technology : Technology) (wanted : List ConnectionId)
    (before : System ε) (change : Option ConferenceChange) (after : System ε) : Prop where
  conferencesOnly : before.ConferencesOnly after
  renews : before.Renews after
  tracked : after.tracked = before.tracked
  others {other : Technology} : other ≠ technology → after.desk.get other = before.desk.get other
  present {conference : ConferenceId} : before.Present (.conference conference) →
    after.Present (.conference conference)
  apart {conference : ConferenceId} : before.Present (.conference conference) →
    before.desk.get technology ≠ some conference →
      (after.conference conference).core = (before.conference conference).core
  placed {conference : ConferenceId} : after.desk.get technology = some conference →
    after.Present (.conference conference) ∧
      (after.conference conference).technology = technology ∧
      (after.conference conference).removed = false
  seated : after.seatedAt technology =
    if technology.formsConference wanted.length then some wanted else none
  joined {id : ConnectionId} {conference : ConferenceId} :
    after.desk.get technology = some conference → id ∈ wanted →
      (after.connection id).conference = some conference
  left {id : ConnectionId} {conference : ConferenceId} :
    (after.connection id).conference = some conference →
      after.desk.get technology = some conference ∧ id ∈ wanted ∨
        (before.connection id).conference = some conference ∧
          before.desk.get technology ≠ some conference
  kept {id : ConnectionId} {conference : ConferenceId} :
    (before.connection id).conference = some conference →
      before.desk.get technology ≠ some conference → id ∉ wanted →
        (after.connection id).conference = some conference
  news : match change with
    | some (.created conference) => before.desk.get technology = none ∧
      after.desk.get technology = some conference ∧ ¬ before.Present (.conference conference)
    | some (.removed conference) => before.desk.get technology = some conference ∧
      after.desk.get technology = none
    | _ => after.desk.get technology = before.desk.get technology

theorem known_of_conference {system : System ε} {id : ConnectionId} {conference : ConferenceId}
    (member : (system.connection id).conference = some conference) : system.Known id := by
  refine Decidable.byContradiction fun strange => ?_
  rw [system.connection_of_not_known strange] at member
  cases member

end System

structure Wiring.Seats {ε : Type} (wiring : Wiring ε) (calm : System ε → Prop) : Prop where
  enter {system : System ε} (id : ConnectionId) (conference : Option ConferenceId) : calm system →
    (Act.setConference id conference).Ensures wiring system fun _ after => calm after ∧
      system.MembershipsOnly after ∧ system.Renews after ∧ ∀ other,
        (after.connection other).conference =
        if other = id ∧ system.Known id then conference else (system.connection other).conference
  beside {before after : System ε} : (∀ id, after.connection id = before.connection id) →
    calm before → calm after

theorem Wiring.seats_silent {ε : Type} (depth : Nat) :
    (Wiring.level (.silent : Bystanders ε) depth).Seats System.Near where
  enter id conference near :=
    (Act.membershipsOnly_setConference id conference near).mono fun _ _ done =>
      ⟨done.1.keeps near, done⟩
  beside same near := ⟨fun id => by rw [same]; exact near.steady id,
    fun id => by rw [same]; exact near.near id⟩

namespace Act

section
variable {ε : Type} {wiring : Wiring ε} {calm : System ε → Prop} (seats : wiring.Seats calm)
include seats

theorem membershipsOnly_leaving {system : System ε} (conference : ConferenceId)
    (left : List ConnectionId)
    (calms : calm system) :
    (left.forM fun id => do
      if (← look id).conference == some conference then
        setConference id none : Act ε Unit).Ensures wiring system
      fun _ after => calm after ∧ system.MembershipsOnly after ∧ system.Renews after ∧ ∀ id,
        (after.connection id).conference =
          if id ∈ left ∧ (system.connection id).conference = some conference then none
          else (system.connection id).conference := by
  induction left generalizing system with
  | nil =>
    rw [List.forM, ensures_pure]
    exact ⟨calms, .refl system, fun _ current => current, fun id => by simp⟩
  | cons first rest ih =>
    rw [List.forM, ensures_bind, ensures_bind, ensures_look]
    have onward {now : System ε} (calms : calm now) (membershipsOnly : system.MembershipsOnly now)
        (renews : system.Renews now) (seats : ∀ id, (now.connection id).conference =
          if id = first ∧ (system.connection id).conference = some conference then none
          else (system.connection id).conference) :
        (rest.forM fun id => do
          if (← look id).conference == some conference then
            setConference id none : Act ε Unit).Ensures wiring now
          fun _ after => calm after ∧ system.MembershipsOnly after ∧ system.Renews after ∧ ∀ id,
            (after.connection id).conference =
              if id ∈ first :: rest ∧ (system.connection id).conference = some conference then none
              else (system.connection id).conference := by
      refine (ih calms).mono fun _ after others => ?_
      obtain ⟨last, more, again, same⟩ := others
      refine ⟨last, membershipsOnly.trans more, fun id current =>
        again id (renews id current), fun id => ?_⟩
      rw [same, seats]
      by_cases own : id = first <;>
        by_cases mine : (system.connection id).conference = some conference <;>
        simp [own, mine]
    split
    · rename_i mine
      have mine := eq_of_beq mine
      refine (seats.enter first none calms).mono fun _ now stood => ?_
      obtain ⟨calms, membershipsOnly, renews, seats⟩ := stood
      refine onward calms membershipsOnly renews fun id => ?_
      rw [seats]
      by_cases own : id = first
      · subst own
        simp [System.known_of_conference mine, mine]
      · simp [own]
    · rename_i other
      rw [ensures_pure]
      refine onward calms (.refl system) (fun _ current => current) fun id => ?_
      by_cases own : id = first
      · subst own
        simp_all
      · simp [own]

theorem membershipsOnly_joining {system : System ε} (conference : ConferenceId)
    (joined : List ConnectionId)
    (calms : calm system) :
    (joined.forM fun id => (setConference id (some conference) : Act ε Unit)).Ensures
      wiring system fun _ after => calm after ∧
        system.MembershipsOnly after ∧ system.Renews after ∧ ∀ id,
          (after.connection id).conference =
          if id ∈ joined ∧ system.Known id then some conference
          else (system.connection id).conference := by
  induction joined generalizing system with
  | nil =>
    rw [List.forM, ensures_pure]
    exact ⟨calms, .refl system, fun _ current => current, fun id => by simp⟩
  | cons first rest ih =>
    rw [List.forM, ensures_bind]
    refine (seats.enter first _ calms).mono fun _ now sat => ?_
    obtain ⟨calms, membershipsOnly, renews, seats⟩ := sat
    refine (ih calms).mono fun _ after others => ?_
    obtain ⟨calms, more, again, last⟩ := others
    refine ⟨calms, membershipsOnly.trans more, fun id current =>
      again id (renews id current), fun id => ?_⟩
    have known : now.Known id ↔ system.Known id := System.known_congr membershipsOnly.count id
    simp only [last, seats, known]
    by_cases own : id = first <;> by_cases here : system.Known id <;> simp [own, here] <;> simp_all

theorem membershipsOnly_spreadMembership {system : System ε} (conference : ConferenceId)
    (left joined : List ConnectionId) (calms : calm system) :
    (spreadMembership conference left joined).Ensures wiring system fun _ after => calm after ∧
      system.MembershipsOnly after ∧ system.Renews after ∧ ∀ id, (after.connection id).conference =
        if id ∈ joined ∧ system.Known id then some conference
        else if id ∈ left ∧ (system.connection id).conference = some conference then none
        else (system.connection id).conference := by
  rw [spreadMembership, ensures_bind]
  refine (membershipsOnly_leaving seats conference left calms).mono fun _ now stood => ?_
  obtain ⟨calms, membershipsOnly, renews, stands⟩ := stood
  refine (membershipsOnly_joining seats conference joined calms).mono fun _ after sat => ?_
  obtain ⟨calms, more, again, last⟩ := sat
  refine ⟨calms, membershipsOnly.trans more, fun id current =>
    again id (renews id current), fun id => ?_⟩
  simp only [last, stands, System.known_congr membershipsOnly.count]

end
end Act

namespace System

variable {ε : Type} {system middle after : System ε} {technology : Technology}
  {wanted left joined : List ConnectionId} {conference : ConferenceId}
  {change : Option ConferenceChange}

theorem mem_seats {id : ConnectionId} :
    id ∈ system.seats technology ↔ ∃ conference, system.desk.get technology = some conference ∧
      id ∈ (system.conference conference).members := by
  rw [seats, seatedAt]
  cases system.desk.get technology <;> simp

structure Rearranged (technology : Technology) (wanted : List ConnectionId)
    (conference : ConferenceId) (change : Option ConferenceChange) (system middle : System ε) :
    Prop where
  conferencesOnly : system.ConferencesOnly middle
  same (id : ConnectionId) : middle.connection id = system.connection id
  tracked : middle.tracked = system.tracked
  others : ∀ other ≠ technology, middle.desk.get other = system.desk.get other
  slot : middle.desk.get technology =
    if technology.formsConference wanted.length then some conference else none
  own (other : ConferenceId) : system.desk.get technology = some other → other = conference
  present (other : ConferenceId) :
    system.Present (.conference other) → middle.Present (.conference other)
  apart (other : ConferenceId) : system.Present (.conference other) →
    system.desk.get technology ≠ some other → middle.conference other = system.conference other
  placed : technology.formsConference wanted.length = true →
    middle.Present (.conference conference) ∧
      (middle.conference conference).technology = technology ∧
      (middle.conference conference).removed = false ∧
      (middle.conference conference).members = wanted
  news : match change with
    | some (.created conference) => system.desk.get technology = none ∧
      middle.desk.get technology = some conference ∧ ¬ system.Present (.conference conference)
    | some (.removed conference) => system.desk.get technology = some conference ∧
      middle.desk.get technology = none
    | _ => middle.desk.get technology = system.desk.get technology

theorem Rearranged.seats
    (rearranged : system.Rearranged technology wanted conference change middle) :
    middle.seats technology =
      if technology.formsConference wanted.length then wanted else [] := by
  rw [System.seats, seatedAt, rearranged.slot]
  split
  · rename_i enough
    simp [(rearranged.placed enough).2.2.2]
  · rfl

theorem Rearranged.enough
    (rearranged : system.Rearranged technology wanted conference change middle)
    {other : ConferenceId} (here : middle.desk.get technology = some other) :
    technology.formsConference wanted.length = true ∧ other = conference := by
  rw [rearranged.slot] at here
  split at here
  · exact ⟨‹_›, (Option.some.inj here).symm⟩
  · cases here

theorem Rearranged.seats_of_enough
    (rearranged : system.Rearranged technology wanted conference change middle)
    (enough : technology.formsConference wanted.length = true) :
    middle.seats technology = wanted := by
  rw [rearranged.seats, if_pos enough]

theorem Rearranged.slot_of_seat
    (rearranged : system.Rearranged technology wanted conference change middle)
    {id : ConnectionId} (kept : id ∈ middle.seats technology) :
    middle.desk.get technology = some conference ∧ id ∈ wanted := by
  rw [rearranged.seats] at kept
  split at kept
  · rename_i enough
    exact ⟨by rw [rearranged.slot, if_pos enough], kept⟩
  · cases kept

structure Told (technology : Technology) (left joined : List ConnectionId)
    (conference : ConferenceId) (system middle after : System ε) : Prop where
  leaves (id : ConnectionId) :
    id ∈ left ↔ id ∈ system.seats technology ∧ id ∉ middle.seats technology
  joins (id : ConnectionId) :
    id ∈ joined ↔ id ∈ middle.seats technology ∧ id ∉ system.seats technology
  told (id : ConnectionId) : (after.connection id).conference =
    if id ∈ joined ∧ middle.Known id then some conference
    else if id ∈ left ∧ (middle.connection id).conference = some conference then none
    else (middle.connection id).conference

namespace Told

variable {turns : List Technology}
  (told : system.Told technology left joined conference middle after)
  (rearranged : system.Rearranged technology wanted conference change middle)
include told rearranged

theorem of_seated {id : ConnectionId} (before : id ∈ system.seats technology)
    (kept : id ∈ middle.seats technology) :
    (after.connection id).conference = (system.connection id).conference := by
  rw [told.told, if_neg fun here => ((told.joins id).mp here.1).2 before,
    if_neg fun here => ((told.leaves id).mp here.1).2 kept, rearranged.same]

theorem joined_wanted (seated : system.Seated turns)
    (fits : ∀ id ∈ wanted, system.mergeable technology id = true ∧ system.Known id)
    (enough : technology.formsConference wanted.length = true) {id : ConnectionId}
    (among : id ∈ wanted) : (after.connection id).conference = some conference := by
  have kept : id ∈ middle.seats technology := by
    rw [rearranged.seats_of_enough enough]
    exact among
  by_cases before : id ∈ system.seats technology
  · rw [told.of_seated rearranged before kept]
    obtain ⟨old, there, member⟩ := mem_seats.mp before
    obtain rfl := rearranged.own old there
    refine (seated.belongs there member).resolve_right fun moved => ?_
    exact Bool.noConfusion ((fits id among).1.symm.trans moved.2)
  · rw [told.told, if_pos ⟨(told.joins id).mpr ⟨kept, before⟩,
      (known_congr rearranged.conferencesOnly.count id).mpr (fits id among).2⟩]

theorem left_or_kept (seated : system.Seated turns) {id : ConnectionId} {other : ConferenceId}
    (member : (after.connection id).conference = some other) :
    middle.desk.get technology = some other ∧ id ∈ wanted ∨
      (system.connection id).conference = some other ∧
        system.desk.get technology ≠ some other := by
  rw [told.told] at member
  split at member
  · rename_i here
    obtain rfl := Option.some.inj member
    exact .inl (rearranged.slot_of_seat ((told.joins id).mp here.1).1)
  split at member
  · cases member
  · rename_i stays
    rw [rearranged.same] at member stays
    by_cases here : system.desk.get technology = some other
    · obtain rfl := rearranged.own other here
      obtain ⟨place, there, among⟩ := seated.member member
      by_cases kept : id ∈ middle.seats technology
      · exact .inl (rearranged.slot_of_seat kept)
      · exact absurd ⟨(told.leaves id).mpr ⟨mem_seats.mpr ⟨other, here, among⟩, kept⟩, member⟩ stays
    · exact .inr ⟨member, here⟩

theorem kept_elsewhere {id : ConnectionId} {other : ConferenceId}
    (member : (system.connection id).conference = some other)
    (elsewhere : system.desk.get technology ≠ some other) (unwanted : id ∉ wanted) :
    (after.connection id).conference = some other := by
  have unseated : id ∉ middle.seats technology := fun kept =>
    unwanted (rearranged.slot_of_seat kept).2
  rw [told.told, rearranged.same, if_neg fun here => unseated ((told.joins id).mp here.1).1,
    if_neg fun here => ?_]
  · exact member
  · obtain ⟨old, there, -⟩ := mem_seats.mp ((told.leaves id).mp here.1).1
    obtain rfl := rearranged.own old there
    exact elsewhere (there.trans (here.2.symm.trans member))

end Told

theorem Rearranged.aggregated {turns : List Technology}
    (rearranged : system.Rearranged technology wanted conference change middle)
    (seated : system.Seated turns)
    (fits : ∀ id ∈ wanted, system.mergeable technology id = true ∧ system.Known id)
    (membershipsOnly : middle.MembershipsOnly after) (renews : middle.Renews after)
    (told : system.Told technology left joined conference middle after) :
    system.Aggregated technology wanted change after := by
  have present (other : ConferenceId) : after.Present (.conference other) ↔
      middle.Present (.conference other) := by
    have count := congrArg List.length membershipsOnly.cores
    simp only [List.length_map] at count
    cases other <;> simp [Present, count]
  exact {
    conferencesOnly := rearranged.conferencesOnly.trans membershipsOnly.toConferencesOnly
    renews := fun id current => renews id (by rw [rearranged.same]; exact current)
    tracked := membershipsOnly.tracked.trans rearranged.tracked
    others := fun differ => by rw [membershipsOnly.desk]; exact rearranged.others _ differ
    present := fun here => (present _).mpr (rearranged.present _ here)
    apart := fun here elsewhere =>
      (membershipsOnly.core _).trans (congrArg Conference.core (rearranged.apart _ here elsewhere))
    placed := fun {other} here => by
      rw [membershipsOnly.desk] at here
      obtain ⟨enough, rfl⟩ := rearranged.enough here
      obtain ⟨there, kind, stands, -⟩ := rearranged.placed enough
      have kept := congrArg Conference.technology (membershipsOnly.core other)
      exact ⟨(present other).mpr there, kept.trans kind,
        (membershipsOnly.removed other).trans stands⟩
    seated := by
      rw [seatedAt, membershipsOnly.desk, rearranged.slot]
      split
      · rename_i enough
        simp [membershipsOnly.members, (rearranged.placed enough).2.2.2]
      · rfl
    joined := fun {id other} here among => by
      rw [membershipsOnly.desk] at here
      obtain ⟨enough, rfl⟩ := rearranged.enough here
      exact told.joined_wanted rearranged seated fits enough among
    left := fun {id other} member => by
      rw [membershipsOnly.desk]
      exact told.left_or_kept rearranged seated member
    kept := told.kept_elsewhere rearranged
    news := by
      rw [membershipsOnly.desk]
      exact rearranged.news }

theorem Rearranged.aggregated_refl {turns : List Technology}
    (rearranged : system.Rearranged technology wanted conference none system)
    (seated : system.Seated turns)
    (fits : ∀ id ∈ wanted, system.mergeable technology id = true ∧ system.Known id) :
    system.Aggregated technology wanted none system := by
  have nobody (id : ConnectionId) : id ∈ ([] : List ConnectionId) ↔
      id ∈ system.seats technology ∧ id ∉ system.seats technology := by simp
  exact rearranged.aggregated seated fits (.refl system) (fun _ current => current)
    { leaves := nobody, joins := nobody, told := fun id => by simp }

theorem rearranged_refl
    (slot : system.desk.get technology =
      if technology.formsConference wanted.length then some conference else none)
    (placed : technology.formsConference wanted.length = true →
      system.Present (.conference conference) ∧
        (system.conference conference).technology = technology ∧
        (system.conference conference).removed = false ∧
        (system.conference conference).members = wanted) :
    system.Rearranged technology wanted conference none system where
  conferencesOnly := .refl system
  same _ := rfl
  tracked := rfl
  others _ _ := rfl
  slot := slot
  own other there := by
    rw [there] at slot
    split at slot
    · exact Option.some.inj slot
    · cases slot
  present _ present := present
  apart _ _ _ := rfl
  placed := placed
  news := rfl

theorem rearranged_opened (here : system.desk.get technology = none)
    (enough : technology.formsConference wanted.length = true) :
    system.Rearranged technology wanted (.formed system.conferences.length)
      (some (.created (.formed system.conferences.length))) { system with
        conferences := system.conferences ++ [{ technology, members := wanted }]
        desk := system.desk.set technology (some (.formed system.conferences.length)) } := by
  let conference := ConferenceId.formed system.conferences.length
  let middle : System ε := { system with
    conferences := system.conferences ++ [{ technology, members := wanted }]
    desk := system.desk.set technology (some conference) }
  have fresh : middle.conference conference = { technology, members := wanted } := by
    simp [middle, conference, System.conference]
  have slot (other : Technology) : middle.desk.get other =
      if other = technology then some conference else system.desk.get other :=
    ConferenceSlots.get_set ..
  exact {
    conferencesOnly := .of_connections rfl rfl rfl
    same := fun id => by cases id <;> rfl
    tracked := rfl
    others := fun other differ => by rw [slot, if_neg differ]
    slot := by rw [slot, if_pos rfl, if_pos enough]
    own := fun other there => by
      rw [here] at there
      cases there
    present := fun other present => by
      cases other with
      | outsider value => exact present.elim
      | formed serial =>
        have inside : serial < system.conferences.length := present
        simp only [System.Present, List.length_append, List.length_singleton]
        omega
    apart := fun other present _ => by
      cases other with
      | outsider value => exact present.elim
      | formed serial =>
        have inside : serial < system.conferences.length := present
        simp [System.conference, List.getD_eq_getElem?_getD, List.getElem?_append_left inside]
    placed := fun _ => by
      refine ⟨by simp [System.Present], ?_, ?_, ?_⟩
      · rw [fresh]
      · rw [fresh]
      · rw [fresh]
    news := by
      refine ⟨here, by rw [slot, if_pos rfl], ?_⟩
      simp [System.Present] }

theorem rearranged_closed (here : system.desk.get technology = some conference)
    (few : technology.formsConference wanted.length = false) :
    let gone := system.reviseConference conference ({ · with members := [], removed := true })
    system.Rearranged technology wanted conference (some (.removed conference))
      { gone with desk := gone.desk.set technology none } := by
  intro gone
  have slot (other : Technology) : (gone.desk.set technology none).get other =
      if other = technology then none else system.desk.get other := by
    rw [← system.desk_reviseConference conference]
    exact ConferenceSlots.get_set ..
  exact {
    conferencesOnly := .of_revised ..
    same := system.connection_reviseConference conference _
    tracked := system.tracked_reviseConference ..
    others := fun other differ => by rw [slot, if_neg differ]
    slot := by rw [slot, if_pos rfl, few]; rfl
    own := fun other there => Option.some.inj (there.symm.trans here)
    present := fun other there => (system.present_reviseConference ..).mpr there
    apart := fun other there elsewhere => (system.conference_reviseConference ..).trans
      (if_neg fun own : other = conference ∧ _ => elsewhere (own.1 ▸ here))
    placed := fun enough => by
      rw [few] at enough
      cases enough
    news := ⟨here, by rw [slot, if_pos rfl]⟩ }

theorem rearranged_refilled (deskValid : system.DeskValid)
    (here : system.desk.get technology = some conference)
    (enough : technology.formsConference wanted.length = true) :
    system.Rearranged technology wanted conference (some (.membersChanged conference))
      (system.reviseConference conference ({ · with members := wanted })) := by
  obtain ⟨present, kind, stands⟩ := deskValid.placed here
  have fresh : (system.reviseConference conference ({ · with members := wanted })).conference
      conference = { system.conference conference with members := wanted } :=
    (system.conference_reviseConference ..).trans (if_pos ⟨rfl, present⟩)
  have slot := system.desk_reviseConference conference ({ · with members := wanted })
  exact {
    conferencesOnly := .of_revised ..
    same := system.connection_reviseConference conference _
    tracked := system.tracked_reviseConference ..
    others := fun other _ => by rw [slot]
    slot := by rw [slot, here, if_pos enough]
    own := fun other there => Option.some.inj (there.symm.trans here)
    present := fun other there => (system.present_reviseConference ..).mpr there
    apart := fun other there elsewhere => (system.conference_reviseConference ..).trans
      (if_neg fun own : other = conference ∧ _ => elsewhere (own.1 ▸ here))
    placed := fun _ => by
      refine ⟨(system.present_reviseConference ..).mpr present, ?_, ?_, ?_⟩
      · rw [fresh]
        exact kind
      · rw [fresh]
        exact stands
      · rw [fresh]
    news := by rw [slot] }

theorem mergeable_fits {id : ConnectionId} (apt : system.mergeable technology id = true) :
    system.technologyOf id = technology ∧ system.Known id := by
  simp only [mergeable, Bool.and_eq_true, beq_iff_eq] at apt
  refine ⟨apt.1.1, Decidable.byContradiction fun strange => ?_⟩
  rw [system.connection_of_not_known strange] at apt
  cases apt.1.2

end System

namespace Act

variable {ε : Type} {wiring : Wiring ε} {calm : System ε → Prop} {system : System ε}

theorem aggregated_spread (seats : wiring.Seats calm) {turns : List Technology}
    {technology : Technology} {wanted : List ConnectionId} {conference : ConferenceId}
    {change : Option ConferenceChange} {middle : System ε} (calms : calm system)
    (seated : system.Seated turns)
    (fits : ∀ id ∈ wanted, system.mergeable technology id = true ∧ system.Known id)
    (rearranged : system.Rearranged technology wanted conference change middle)
    (left joined : List ConnectionId)
    (leaves : ∀ id, id ∈ left ↔ id ∈ system.seats technology ∧ id ∉ middle.seats technology)
    (joins : ∀ id, id ∈ joined ↔ id ∈ middle.seats technology ∧ id ∉ system.seats technology) :
    (spreadMembership conference left joined).Ensures wiring middle
      fun _ after => calm after ∧ system.Aggregated technology wanted change after := by
  refine (membershipsOnly_spreadMembership seats conference left joined
    (seats.beside rearranged.same calms)).mono fun _ after told => ?_
  obtain ⟨calms, membershipsOnly, renews, told⟩ := told
  exact ⟨calms, rearranged.aggregated seated fits membershipsOnly renews
    { leaves := leaves, joins := joins, told := told }⟩

theorem aggregate_desk (seats : wiring.Seats calm) {turns : List Technology}
    (technology : Technology) (connections : List ConnectionId) (calms : calm system)
    (deskValid : system.DeskValid) (seated : system.Seated turns) :
    (aggregate .desk technology connections).Ensures wiring system fun change after =>
      calm after ∧ system.Aggregated technology
        (connections.filter (system.mergeable technology)) change after := by
  generalize worth : connections.filter (system.mergeable technology) = wanted
  have fits : ∀ id ∈ wanted, system.mergeable technology id = true ∧ system.Known id := by
    intro id among
    rw [← worth] at among
    have apt := (List.mem_filter.mp among).2
    exact ⟨apt, (System.mergeable_fits apt).2⟩
  simp only [aggregate, ensures_bind, ensures_get, worth, System.slots]
  cases here : system.desk.get technology with
  | none =>
    have unseated : system.seats technology = [] := by
      rw [System.seats, System.seatedAt, here]
      rfl
    dsimp only
    split
    · rename_i few
      rw [ensures_pure]
      have few : technology.formsConference wanted.length = false := by simpa using few
      have same : system.Rearranged technology wanted (.outsider 0) none system :=
        System.rearranged_refl (by rw [here, few]; rfl) (by simp [few])
      exact ⟨calms, same.aggregated_refl seated fits⟩
    · rename_i enough
      have enough : technology.formsConference wanted.length = true := by simpa using enough
      simp only [createConference, setSlot, ensures_bind, ensures_get, ensures_modify, ensures_pure]
      have opened := System.rearranged_opened here enough
      have now := opened.seats.trans (if_pos enough)
      exact aggregated_spread seats calms seated fits opened [] wanted
        (fun id => by rw [unseated]; simp) (fun id => by rw [now, unseated]; simp)
  | some conference =>
    obtain ⟨present, kind, stands⟩ := deskValid.placed here
    have held : system.seats technology = (system.conference conference).members := by
      rw [System.seats, System.seatedAt, here]
      rfl
    dsimp only
    split
    · rename_i few
      have few : technology.formsConference wanted.length = false := by simpa using few
      simp only [setSlot, ensures_bind, ensures_modify, ensures_pure]
      have closed := System.rearranged_closed here few
      have now := closed.seats.trans (if_neg (Bool.eq_false_iff.mp few))
      exact aggregated_spread seats calms seated fits closed _ []
        (fun id => by rw [now, held]; simp) (fun id => by rw [now]; simp)
    · rename_i enough
      have enough : technology.formsConference wanted.length = true := by simpa using enough
      split
      · rename_i same
        rw [ensures_pure]
        have right : system.Rearranged technology wanted conference none system :=
          System.rearranged_refl (by rw [here, if_pos enough])
            fun _ => ⟨present, kind, stands, eq_of_beq same⟩
        exact ⟨calms, right.aggregated_refl seated fits⟩
      · simp only [ensures_bind, ensures_modify, ensures_pure]
        have refilled := System.rearranged_refilled deskValid here enough
        have now := refilled.seats.trans (if_pos enough)
        exact aggregated_spread seats calms seated fits refilled _ _
          (fun id => by rw [now, held]; simp) (fun id => by rw [now, held]; simp)
end Act

namespace System

variable {ε : Type} {before after : System ε} {technology : Technology}
  {wanted : List ConnectionId} {change : Option ConferenceChange} {turns : List Technology}

theorem ConferencesOnly.technologyOf (conferencesOnly : before.ConferencesOnly after) :
    after.technologyOf = before.technologyOf :=
  funext (conferencesOnly.reads (·.technology) fun _ => rfl)

theorem ConferencesOnly.mergeable (conferencesOnly : before.ConferencesOnly after) :
    after.mergeable = before.mergeable := by
  funext technology id
  have same :=
    conferencesOnly.reads (fun call => call.technology == technology && call.isMultiparty &&
    call.published.state.isConnected) (fun _ => rfl) id
  exact same

namespace Aggregated

variable (done : before.Aggregated technology wanted change after)
include done

theorem elsewhere (deskValid : before.DeskValid) {other : Technology} (differ : other ≠ technology)
    {conference : ConferenceId} (here : after.desk.get other = some conference) :
    before.desk.get other = some conference ∧ after.Present (.conference conference) ∧
      (after.conference conference).core = (before.conference conference).core := by
  have there : before.desk.get other = some conference := by rwa [done.others differ] at here
  have present := (deskValid.placed there).1
  exact ⟨there, done.present present,
    done.apart present fun clash => differ (deskValid.unique there clash)⟩

theorem deskValid (deskValid : before.DeskValid) (earthly : technology ≠ .satellite) :
    after.DeskValid where
  placed {other conference} here := by
    by_cases own : other = technology
    · subst own
      exact done.placed here
    · obtain ⟨there, present, same⟩ := done.elsewhere deskValid own here
      obtain ⟨-, kind, stands⟩ := deskValid.placed there
      have technology := congrArg Conference.technology same
      have removed := congrArg Conference.removed same
      exact ⟨present, technology.trans kind, removed.trans stands⟩
  grounded := by rw [done.others earthly.symm, deskValid.grounded]

theorem mem_wanted {conference : ConferenceId} {id : ConnectionId}
    (here : after.desk.get technology = some conference) :
    id ∈ (after.conference conference).members ↔ id ∈ wanted := by
  have seated := done.seated
  rw [seatedAt, here] at seated
  split at seated
  · have members : (after.conference conference).members = wanted := Option.some.inj seated
    rw [members]
  · cases seated

theorem seats (deskValid : before.DeskValid) (seated : before.Seated turns)
    (fits : ∀ id ∈ wanted, before.technologyOf id = technology) :
    after.Seated (technology :: turns) where
  member {id conference} member := by
    rcases done.left member with ⟨here, among⟩ | ⟨member, apart⟩
    · exact ⟨technology, here, (done.mem_wanted here).mpr among⟩
    · obtain ⟨other, there, among⟩ := seated.member member
      have differ : other ≠ technology := fun own => apart (own ▸ there)
      have here : after.desk.get other = some conference := by rwa [done.others differ]
      have same := congrArg Conference.members (done.elsewhere deskValid differ here).2.2
      exact ⟨other, here, same ▸ among⟩
  belongs {other conference id} here among := by
    by_cases own : other = technology
    · subst own
      exact .inl (done.joined here ((done.mem_wanted here).mp among))
    · obtain ⟨there, -, same⟩ := done.elsewhere deskValid own here
      have same := congrArg Conference.members same
      have among : id ∈ (before.conference conference).members := same ▸ among
      rw [done.conferencesOnly.mergeable]
      by_cases moved : id ∈ wanted
      · have kind := fits id moved
        refine .inr ⟨fun turn => ?_, Bool.eq_false_iff.mpr fun apt =>
          own ((mergeable_fits apt).1.symm.trans kind)⟩
        rcases List.mem_cons.mp turn with same | earlier
        · exact own same
        · exact own ((seated.gathered earlier there among).symm.trans kind)
      · rcases seated.belongs there among with member | ⟨later, strange⟩
        · exact .inl (done.kept member (fun clash => own (deskValid.unique there clash)) moved)
        · exact .inr ⟨by simp [own, later], strange⟩
  gathered {other conference id} turn here among := by
    rw [done.conferencesOnly.technologyOf]
    by_cases own : other = technology
    · subst own
      exact fits id ((done.mem_wanted here).mp among)
    · obtain ⟨there, -, same⟩ := done.elsewhere deskValid own here
      have same := congrArg Conference.members same
      have earlier := (List.mem_cons.mp turn).resolve_left own
      exact seated.gathered earlier there (same ▸ among)

theorem seatedAt_other (deskValid : before.DeskValid) {other : Technology}
    (differ : other ≠ technology) :
    after.seatedAt other = before.seatedAt other := by
  have same := done.others differ
  simp only [seatedAt, same]
  cases there : before.desk.get other with
  | none => rfl
  | some conference =>
    have core := (done.elsewhere deskValid differ (same.trans there)).2.2
    have members := congrArg Conference.members core
    exact congrArg some members

theorem current_same (same : after.desk.get technology = before.desk.get technology)
    (conference : ConferenceId) : (∃ other, after.desk.get other = some conference) ↔
      ∃ other, before.desk.get other = some conference := by
  have slot (other : Technology) : after.desk.get other = before.desk.get other := by
    by_cases own : other = technology
    · rw [own, same]
    · exact done.others own
  simp only [slot]

theorem current_created {fresh : ConferenceId} (free : before.desk.get technology = none)
    (here : after.desk.get technology = some fresh) (conference : ConferenceId) :
    (∃ other, after.desk.get other = some conference) ↔
      (∃ other, before.desk.get other = some conference) ∨ conference = fresh := by
  constructor
  · rintro ⟨other, there⟩
    by_cases own : other = technology
    · exact .inr (Option.some.inj (there.symm.trans (own ▸ here)))
    · exact .inl ⟨other, by rwa [← done.others own]⟩
  · rintro (⟨other, there⟩ | rfl)
    · refine ⟨other, ?_⟩
      rwa [done.others fun own => ?_]
      rw [own, free] at there
      cases there
    · exact ⟨technology, here⟩

theorem current_removed (deskValid : before.DeskValid) {old : ConferenceId}
    (here : before.desk.get technology = some old) (free : after.desk.get technology = none)
    (conference : ConferenceId) : (∃ other, after.desk.get other = some conference) ↔
      (∃ other, before.desk.get other = some conference) ∧ conference ≠ old := by
  constructor
  · rintro ⟨other, there⟩
    have differ : other ≠ technology := fun own => by
      rw [own, free] at there
      cases there
    have there := done.others differ ▸ there
    exact ⟨⟨other, there⟩, fun own => differ (deskValid.unique there (own ▸ here))⟩
  · rintro ⟨⟨other, there⟩, apart⟩
    refine ⟨other, ?_⟩
    rwa [done.others fun own => ?_]
    exact apart (Option.some.inj (there.symm.trans (own ▸ here)))

end Aggregated

/-- Who wants to be together in the conference of a technology. -/
def wants (system : System ε) (connections : List ConnectionId) (technology : Technology) :
    Option (List ConnectionId) :=
  let wanted := connections.filter (system.mergeable technology)
  if technology.formsConference wanted.length then some wanted else none

structure Arranged (turns : List Technology) (connections : List ConnectionId) (before : System ε)
    (changes : List ConferenceChange) (after : System ε) : Prop where
  conferencesOnly : before.ConferencesOnly after
  renews : before.Renews after
  tracked : after.tracked = before.tracked
  deskValid : after.DeskValid
  seated : after.Seated turns
  present {conference : ConferenceId} : before.Present (.conference conference) →
    after.Present (.conference conference)
  arranged {technology : Technology} : technology ∈ turns →
    after.seatedAt technology = before.wants connections technology
  current (conference : ConferenceId) :
    (∃ technology, after.desk.get technology = some conference) ↔
    (∃ technology, before.desk.get technology = some conference) ∧ .removed conference ∉ changes ∨
      .created conference ∈ changes
  waiting {technology : Technology} : technology ∉ turns →
    after.desk.get technology = before.desk.get technology
  created {conference : ConferenceId} : .created conference ∈ changes →
    ¬ before.Present (.conference conference) ∧
      ∃ technology ∈ turns, after.desk.get technology = some conference
  removed {conference : ConferenceId} : .removed conference ∈ changes →
    before.Present (.conference conference)

theorem Arranged.refl (deskValid : before.DeskValid) (seated : before.Seated [])
    (connections : List ConnectionId) : before.Arranged [] connections [] before where
  conferencesOnly := .refl before
  renews _ current := current
  tracked := rfl
  deskValid := deskValid
  seated := seated
  present here := here
  arranged := nofun
  current conference := by simp
  waiting _ := rfl
  created := nofun
  removed := nofun

theorem Arranged.next {connections : List ConnectionId} {changes : List ConferenceChange}
    {middle : System ε} (first : before.DeskValid)
    (sofar : before.Arranged turns connections changes middle)
    (untaken : technology ∉ turns) (earthly : technology ≠ .satellite)
    (done : middle.Aggregated technology (connections.filter (middle.mergeable technology))
      change after) :
    before.Arranged (technology :: turns) connections (changes ++ change.toList) after where
  conferencesOnly := sofar.conferencesOnly.trans done.conferencesOnly
  renews id current := done.renews id (sofar.renews id current)
  tracked := done.tracked.trans sofar.tracked
  deskValid := done.deskValid sofar.deskValid earthly
  seated := done.seats sofar.deskValid sofar.seated fun id among =>
    (mergeable_fits (List.mem_filter.mp among).2).1
  present here := done.present (sofar.present here)
  arranged {other} turn := by
    rcases List.mem_cons.mp turn with rfl | earlier
    · rw [done.seated, sofar.conferencesOnly.mergeable, wants]
    · have differ : other ≠ technology := fun own => untaken (own ▸ earlier)
      rw [done.seatedAt_other sofar.deskValid differ, sofar.arranged earlier]
  current conference := by
    have sofar' := sofar.current conference
    have news := done.news
    rcases change with _ | old | old | old
    · simpa using (done.current_same news conference).trans sofar'
    · obtain ⟨free, here, -⟩ := news
      rw [done.current_created free here conference, sofar']
      simp [or_assoc]
    · simpa using (done.current_same news conference).trans sofar'
    · obtain ⟨here, free⟩ := news
      have unmade : conference = old → .created conference ∉ changes := by
        rintro rfl made
        obtain ⟨-, other, turn, there⟩ := sofar.created made
        exact untaken (sofar.deskValid.unique there here ▸ turn)
      rw [done.current_removed sofar.deskValid here free conference, sofar']
      by_cases own : conference = old
      · simp [own, own ▸ unmade own]
      · simp [own]
  waiting {other} later := by
    have differ : other ≠ technology := fun own => later (own ▸ List.mem_cons_self)
    rw [done.others differ, sofar.waiting fun turn => later (.tail _ turn)]
  removed {conference} among := by
    rcases List.mem_append.mp among with earlier | now
    · exact sofar.removed earlier
    · obtain rfl : change = some (.removed conference) := by simpa using now
      exact (first.placed ((sofar.waiting untaken).symm.trans done.news.1)).1
  created {conference} among := by
    rcases List.mem_append.mp among with earlier | now
    · obtain ⟨fresh, other, turn, here⟩ := sofar.created earlier
      have differ : other ≠ technology := fun own => untaken (own ▸ turn)
      exact ⟨fresh, other, .tail _ turn, by rwa [done.others differ]⟩
    · obtain rfl : change = some (.created conference) := by simpa using now
      obtain ⟨-, here, fresh⟩ := done.news
      exact ⟨fun there => fresh (sofar.present there), technology, List.mem_cons_self, here⟩

end System

namespace Act

variable {ε : Type} {wiring : Wiring ε} {calm : System ε → Prop} {system : System ε}

theorem arranged_mapM (seats : wiring.Seats calm) (connections : List ConnectionId)
    (deskValid : system.DeskValid) (technologies : List Technology) :
    ∀ (turns : List Technology) (changes : List ConferenceChange) (now : System ε),
      calm now → system.Arranged turns connections changes now →
      (technologies ++ turns).Nodup → .satellite ∉ technologies →
      (technologies.mapM fun technology => aggregate .desk technology connections).Ensures
        wiring now fun found after => calm after ∧ system.Arranged
          (technologies.reverse ++ turns) connections (changes ++ found.filterMap id) after := by
  induction technologies with
  | nil =>
    intro turns changes now calms sofar _ _
    rw [List.mapM_nil, ensures_pure]
    exact ⟨calms, by simpa using sofar⟩
  | cons technology rest ih =>
    intro turns changes now calms sofar distinct earthly
    rw [List.mapM_cons, ensures_bind]
    refine (aggregate_desk seats technology connections calms sofar.deskValid
      sofar.seated).mono fun change next done => ?_
    obtain ⟨calms, done⟩ := done
    have fresh : technology ∉ rest ++ turns := (List.nodup_cons.mp distinct).1
    have more := sofar.next deskValid (fun turn => fresh (List.mem_append_right _ turn))
      (fun own => earthly (own ▸ List.mem_cons_self)) done
    rw [ensures_bind]
    refine (ih _ _ next calms more ?_ fun among => earthly (.tail _ among)).mono
      fun found after last => ?_
    · exact (List.perm_middle.nodup_iff).mpr distinct
    · rw [ensures_pure]
      refine ⟨last.1, ?_⟩
      cases change <;> simpa using last.2

theorem arranged_aggregateAll (seats : wiring.Seats calm) (connections : List ConnectionId)
    (calms : calm system) (deskValid : system.DeskValid) (seated : system.Seated []) :
    (aggregateAll connections).Ensures wiring system fun changes after =>
      calm after ∧ system.Arranged [.gsm, .cdma, .ims] connections changes after := by
  rw [aggregateAll, ensures_bind]
  refine (arranged_mapM seats connections deskValid System.conferencing [] [] system calms
    (.refl deskValid seated connections) (by decide) (by decide)).mono fun found after last => ?_
  rw [ensures_pure]
  exact last

end Act

namespace ConferenceChange

def retrack (tracked : List Holdable) : ConferenceChange → List Holdable
  | created conference =>
    if tracked.contains (.conference conference) then tracked
    else tracked ++ [.conference conference]
  | removed conference => tracked.filter (· != .conference conference)
  | membersChanged _ => tracked

theorem nodup_retrack {tracked : List Holdable} (change : ConferenceChange)
    (distinct : tracked.Nodup) : (change.retrack tracked).Nodup := by
  cases change with
  | created conference =>
    rw [retrack]
    split
    · exact distinct
    · rename_i apart
      refine List.nodup_append.mpr ⟨distinct, by simp, fun entity among last other => ?_⟩
      obtain rfl := List.mem_singleton.mp other
      rintro rfl
      exact apart (by simpa using among)
  | removed conference => exact distinct.filter _
  | membersChanged conference => exact distinct

theorem mem_retrack_connection {tracked : List Holdable} {id : ConnectionId}
    (change : ConferenceChange) :
    .connection id ∈ change.retrack tracked ↔ .connection id ∈ tracked := by
  cases change with
  | created conference =>
    rw [retrack]
    split <;> simp
  | removed conference => simp [retrack]
  | membersChanged conference => rfl

theorem mem_retrack_conference {tracked : List Holdable} {conference : ConferenceId}
    (change : ConferenceChange) :
    .conference conference ∈ change.retrack tracked ↔
      .conference conference ∈ tracked ∧ change ≠ .removed conference ∨
        change = .created conference := by
  cases change with
  | created other =>
    by_cases here : .conference other ∈ tracked <;> by_cases own : other = conference <;>
      simp_all [retrack, eq_comm]
  | removed other =>
    simp only [retrack, List.mem_filter, bne_iff_ne, ne_eq, Holdable.conference.injEq,
      ConferenceChange.removed.injEq, reduceCtorEq, or_false]
    rw [eq_comm]
  | membersChanged other => simp [retrack]

theorem mem_foldl_retrack {changes : List ConferenceChange} {tracked : List Holdable}
    {conference : ConferenceId}
    (final : .created conference ∈ changes → .removed conference ∉ changes) :
    .conference conference ∈ changes.foldl retrack tracked ↔
      .conference conference ∈ tracked ∧ .removed conference ∉ changes ∨
        .created conference ∈ changes := by
  induction changes generalizing tracked with
  | nil => simp
  | cons change rest ih =>
    rw [List.foldl_cons, ih fun made gone => final (.tail _ made) (.tail _ gone),
      mem_retrack_conference]
    simp only [List.mem_cons] at final ⊢
    grind

theorem mem_foldl_retrack_connection (changes : List ConferenceChange) (tracked : List Holdable)
    (id : ConnectionId) :
    .connection id ∈ changes.foldl retrack tracked ↔ .connection id ∈ tracked := by
  induction changes generalizing tracked with
  | nil => rfl
  | cons change rest ih => rw [List.foldl_cons, ih, mem_retrack_connection]

theorem nodup_foldl_retrack (changes : List ConferenceChange) {tracked : List Holdable}
    (distinct : tracked.Nodup) : (changes.foldl retrack tracked).Nodup := by
  induction changes generalizing tracked with
  | nil => exact distinct
  | cons change rest ih => exact ih (change.nodup_retrack distinct)

end ConferenceChange

theorem System.VerdictsOnly.retrack {ε : Type} {before after : System ε}
    (verdictsOnly : before.VerdictsOnly after)
    (tracked : List Holdable) :
    ({ before with tracked } : System ε).VerdictsOnly { after with tracked } := by
  have first (id : ConnectionId) :
      ({ before with tracked } : System ε).connection id = before.connection id := by
    cases id <;> rfl
  have second (id : ConnectionId) :
      ({ after with tracked } : System ε).connection id = after.connection id := by
    cases id <;> rfl
  exact { verdictsOnly with
    essence := fun id => by rw [first, second]; exact verdictsOnly.essence id
    near := fun id => by rw [first, second]; exact verdictsOnly.near id
    tracked := rfl
    renews := fun id => by rw [first, second]; exact verdictsOnly.renews id
    conference := fun id => by rw [first, second]; exact verdictsOnly.conference id }

namespace System

variable {ε : Type}

structure ConferencesAgree (system : System ε) : Prop extends system.DeskValid where
  member {id : ConnectionId} {conference : ConferenceId} :
    (system.connection id).conference = some conference → ∃ technology,
      system.desk.get technology = some conference ∧ id ∈ (system.conference conference).members
  belongs {technology : Technology} {conference : ConferenceId} {id : ConnectionId} :
    system.desk.get technology = some conference → id ∈ (system.conference conference).members →
      (system.connection id).conference = some conference
  conferences (conference : ConferenceId) : .conference conference ∈ system.tracked ↔
    ∃ technology, system.desk.get technology = some conference
  distinct : system.tracked.Nodup

theorem ConferencesAgree.seated {system : System ε} (conferencesAgree : system.ConferencesAgree) :
    system.Seated [] where
  member := conferencesAgree.member
  belongs here among := .inl (conferencesAgree.belongs here among)
  gathered := nofun

theorem ConferencesAgree.congr {before after : System ε}
    (conferencesAgree : before.ConferencesAgree)
    (conference : ∀ id, (after.connection id).conference = (before.connection id).conference)
    (desk : after.desk = before.desk) (tracked : after.tracked = before.tracked)
    (cores : after.conferences.map Conference.core = before.conferences.map Conference.core) :
    after.ConferencesAgree := by
  have core := core_of_cores cores
  have members (id : ConferenceId) :
      (after.conference id).members = (before.conference id).members := by
    have same := congrArg Conference.members (core id)
    exact same
  have count := congrArg List.length cores
  simp only [List.length_map] at count
  exact {
    placed := fun {technology id} here => by
      rw [desk] at here
      obtain ⟨present, kind, stands⟩ := conferencesAgree.placed here
      refine ⟨?_, (congrArg Conference.technology (core id)).trans kind,
        (congrArg Conference.removed (core id)).trans stands⟩
      cases id with
      | formed serial => simpa only [Present, count] using present
      | outsider value => exact present
    grounded := by rw [desk, conferencesAgree.grounded]
    member := fun {id other} member => by
      rw [conference] at member
      obtain ⟨technology, here, among⟩ := conferencesAgree.member member
      exact ⟨technology, by rw [desk, here], (members other) ▸ among⟩
    belongs := fun {technology other id} here among => by
      rw [desk] at here
      rw [conference]
      exact conferencesAgree.belongs here ((members other) ▸ among)
    conferences := fun id => by rw [tracked, desk]; exact conferencesAgree.conferences id
    distinct := tracked ▸ conferencesAgree.distinct }

theorem ConferencesAgree.untracked {system : System ε} (conferencesAgree : system.ConferencesAgree)
    (id : ConnectionId) :
    ({ system with tracked := system.tracked.filter (· != .connection id) } :
      System ε).ConferencesAgree where
  placed here := conferencesAgree.placed here
  grounded := conferencesAgree.grounded
  member member := conferencesAgree.member member
  belongs here among := conferencesAgree.belongs here among
  conferences conference := by
    rw [← conferencesAgree.conferences conference]
    simp
  distinct := conferencesAgree.distinct.filter _

theorem Alike.conferencesAgree {before after : System ε} (alike : before.Alike after)
    (conferencesAgree : before.ConferencesAgree) : after.ConferencesAgree :=
  conferencesAgree.congr alike.conference alike.desk alike.tracked alike.cores

theorem Alike.group {before after : System ε} (alike : before.Alike after) :
    after.group = before.group := by
  funext technologies technology
  simp only [System.group, alike.listed, alike.shown]
  exact List.filter_congr fun id among => by rw [alike.several among]

theorem Alike.formed {before after : System ε} (alike : before.Alike after)
    {technologies : ConnectionId → Technology} (formed : before.Formed technologies) :
    after.Formed technologies := by
  intro technology turn
  have same := formed technology turn
  simp only [System.seatedAt, System.gathered, alike.desk, alike.members, alike.group] at same ⊢
  exact same

theorem MembershipsOnly.seatedAt {before after : System ε}
    (membershipsOnly : before.MembershipsOnly after) :
    after.seatedAt = before.seatedAt := by
  funext technology
  simp only [System.seatedAt, membershipsOnly.desk, membershipsOnly.members]

theorem ConferencesOnly.group {before after : System ε}
    (conferencesOnly : before.ConferencesOnly after) :
    after.group = before.group := by
  have shown (id : ConnectionId) := conferencesOnly.reads (·.published.state) (fun _ => rfl) id
  have several (id : ConnectionId) := conferencesOnly.reads (·.isMultiparty) (fun _ => rfl) id
  funext technologies technology
  simp only [System.group, conferencesOnly.listed, shown, several]

theorem ConferencesOnly.gathered {before after : System ε}
    (conferencesOnly : before.ConferencesOnly after) :
    after.gathered = before.gathered := by
  funext technologies technology
  simp only [System.gathered, conferencesOnly.group]

theorem Arranged.belongs {before after : System ε} {connections : List ConnectionId}
    {changes : List ConferenceChange} {technology : Technology} {conference : ConferenceId}
    {id : ConnectionId}
    (done : before.Arranged [.gsm, .cdma, .ims] connections changes after)
    (here : after.desk.get technology = some conference)
    (among : id ∈ (after.conference conference).members) :
    (after.connection id).conference = some conference := by
  refine (done.seated.belongs here among).resolve_right fun waits => ?_
  have earth : technology = .satellite := by
    cases technology <;> first | rfl | exact absurd waits.1 (by decide)
  subst earth
  have none := done.deskValid.grounded
  exact absurd (none.symm.trans here) (by simp)

theorem Arranged.conferencesAgree {before after : System ε} {connections : List ConnectionId}
    {changes : List ConferenceChange} (conferencesAgree : before.ConferencesAgree)
    (done : before.Arranged [.gsm, .cdma, .ims] connections changes after) :
    ({ after with tracked := changes.foldl ConferenceChange.retrack after.tracked } :
      System ε).ConferencesAgree where
  placed here := done.deskValid.placed here
  grounded := done.deskValid.grounded
  member member := done.seated.member member
  belongs here among := done.belongs here among
  conferences conference := by
    have current := done.current conference
    rw [ConferenceChange.mem_foldl_retrack fun made gone =>
      (done.created made).1 (done.removed gone), done.tracked, conferencesAgree.conferences]
    exact current.symm
  distinct :=
    ConferenceChange.nodup_foldl_retrack changes (done.tracked ▸ conferencesAgree.distinct)

/-- The conferences have been brought up to date. -/
structure Recalculated (before after : System ε) : Prop where
  conferencesOnly : before.ConferencesOnly after
  renews : before.Renews after
  conferencesAgree : after.ConferencesAgree
  connections (id : ConnectionId) :
    .connection id ∈ after.tracked ↔ .connection id ∈ before.tracked
  upToDate : after.UpToDate
  judged : after.Judged

end System

namespace Act

variable {ε : Type} {depth : Nat} {system : System ε}

theorem verdictsOnly_track (conference : ConferenceId) (near : system.Near) :
    (track (.conference conference)).Ensures (.level .silent depth) system fun _ after =>
      ({ system with tracked := (ConferenceChange.created conference).retrack system.tracked } :
        System ε).VerdictsOnly after := by
  simp only [track, ensures_bind, ensures_get, ConferenceChange.retrack]
  split
  · rw [ensures_pure]
    exact .refl system
  · rw [ensures_bind, ensures_modify]
    have near : System.Near { system with tracked := system.tracked ++ [.conference conference] } :=
      near.of_connections rfl
    exact (verdictsOnly_passVerdicts near).mono fun _ _ done => done.1

theorem verdictsOnly_untrack (entity : Holdable) (near : system.Near) :
    (untrack entity).Ensures (.level .silent depth) system fun _ after =>
      ({ system with tracked := system.tracked.filter (· != entity) } : System ε).VerdictsOnly
        after := by
  simp only [untrack, ensures_bind, ensures_get]
  split
  · rw [ensures_bind, ensures_modify]
    have near : System.Near { system with tracked := system.tracked.filter (· != entity) } :=
      near.of_connections rfl
    exact (verdictsOnly_passVerdicts near).mono fun _ _ done => done.1
  · rename_i apart
    have same : system.tracked.filter (· != entity) = system.tracked :=
      List.filter_eq_self.mpr fun other among => by
        rw [bne_iff_ne]
        rintro rfl
        exact apart (by simpa using among)
    rw [ensures_pure, same]
    exact .refl system

theorem verdictsOnly_changes (changes : List ConferenceChange) (near : system.Near) :
    (changes.forM fun change => do
      match change with
      | .created conference =>
        track (.conference conference)
        announce (.conferenceCreated conference)
      | .removed conference =>
        untrack (.conference conference)
        announce (.conferenceRemoved conference)
      | .membersChanged _ => pure () : Act ε Unit).Ensures (.level .silent depth) system
      fun _ after => ({ system with
        tracked := changes.foldl ConferenceChange.retrack system.tracked } : System ε).VerdictsOnly
          after := by
  induction changes generalizing system with
  | nil =>
    rw [List.forM, ensures_pure]
    exact .refl system
  | cons change rest ih =>
    rw [List.forM, ensures_bind]
    have onward {now : System ε}
        (verdictsOnly :
          ({ system with tracked := change.retrack system.tracked } : System ε).VerdictsOnly now) :=
      (ih (verdictsOnly.keeps (near.of_connections rfl))).mono fun _ after more => by
        rw [verdictsOnly.tracked] at more
        exact (verdictsOnly.retrack (rest.foldl ConferenceChange.retrack _)).trans more
    have announced {now : System ε} (notice : Notice)
        (verdictsOnly :
          ({ system with tracked := change.retrack system.tracked } : System ε).VerdictsOnly now) :
        ({ system with tracked := change.retrack system.tracked } : System ε).VerdictsOnly
          { now with notices := notice :: now.notices } :=
      verdictsOnly.trans (.of_aside rfl rfl rfl rfl rfl rfl)
    cases change with
    | created conference =>
      rw [ensures_bind]
      refine (verdictsOnly_track conference near).mono fun _ now verdictsOnly => ?_
      rw [ensures_announce]
      exact onward (announced _ verdictsOnly)
    | removed conference =>
      rw [ensures_bind]
      refine (verdictsOnly_untrack _ near).mono fun _ now verdictsOnly => ?_
      rw [ensures_announce]
      exact onward (announced _ verdictsOnly)
    | membersChanged conference =>
      rw [ensures_pure]
      exact onward (.refl system)

theorem recalculates (near : system.Near) (conferencesAgree : system.ConferencesAgree) :
    recalculate.Ensures (.level .silent depth) system fun _ after => system.Recalculated after := by
  rw [recalculate, ensures_bind, ensures_get, ensures_bind]
  refine (arranged_aggregateAll (Wiring.seats_silent depth) system.registry.connections near
    conferencesAgree.toDeskValid conferencesAgree.seated).mono fun changes arranged ⟨_, done⟩ => ?_
  rw [ensures_bind]
  refine (verdictsOnly_changes changes (done.conferencesOnly.keeps near)).mono
    fun _ next tracks => ?_
  have near' := tracks.keeps ((done.conferencesOnly.keeps near).of_connections rfl)
  refine (verdictsOnly_passVerdicts near').mono fun _ after ⟨verdictsOnly, judged⟩ => ?_
  have whole := tracks.trans verdictsOnly
  have aside : arranged.ConferencesOnly { arranged with
      tracked := changes.foldl ConferenceChange.retrack arranged.tracked } :=
    .of_connections rfl rfl rfl
  have conferencesOnly := done.conferencesOnly.trans (aside.trans whole.toConferencesOnly)
  refine {
    conferencesOnly
    renews := fun id current => whole.renews id (done.renews id current)
    conferencesAgree := whole.alike.conferencesAgree (done.conferencesAgree conferencesAgree)
    connections := fun id => ?_
    upToDate := fun technology turn => ?_
    judged := fun entity among => judged entity (verdictsOnly.tracked ▸ among) }
  · rw [whole.tracked, ConferenceChange.mem_foldl_retrack_connection, done.tracked]
  · rw [whole.seatedAt, conferencesOnly.gathered, conferencesOnly.technologyOf]
    have turn : technology ∈ [Technology.gsm, .cdma, .ims] := by
      simpa [System.conferencing, or_comm, or_left_comm, or_assoc] using turn
    exact done.arranged turn

end Act
end Switchboard
