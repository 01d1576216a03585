import Switchboard.Proofs.Accounts
import Switchboard.Proofs.ConnectedCalls
import Switchboard.Proofs.Rounds
import Mathlib.Logic.Relation

/-! How often an office redials a call. Each step of a run is a number of turns of the course of
every call, unless it takes the queue away from a call that is still there: there is one queue for
all calls, and whoever is redialed last has it. While a call keeps its queue, the rounds bound the
dials on each phone, and a phone on which it has failed for good is not dialed again. -/

namespace Switchboard

variable {terms : Terms} {rounds : Nat} {id : ConnectionId}

namespace Course

variable {old new : Course} {queue start : Option RetryQueue} {own : Prop}

def recalling (course : Course) (queue : Option RetryQueue) : Course :=
  { course with sequence := queue }

inductive Recalls (own : Prop) (start : Option RetryQueue) (course : Course) :
    Option RetryQueue → Prop
  | mine (mine : own) : Recalls own start course course.sequence
  | start (foreign : ¬ own) (left : course.sequence = start ∨ course.sequence = none) :
    Recalls own start course start

theorem Turn.of_own (turn : Turn terms id own old new) (mine : own) : Turn terms id True old new :=
  eq_true mine ▸ turn

theorem Since.recalling {dialed : Option PhoneId} (since : Since id dialed old new)
    (queue next : Option RetryQueue) :
    Since id dialed (old.recalling queue) (new.recalling next) :=
  { since with }

theorem Turn.foreign (turn : Turn terms id own old new) (foreign : ¬ own)
    (left : old.sequence = start ∨ old.sequence = none) :
    (new.sequence = start ∨ new.sequence = none) ∧
      Turn terms id True (old.recalling start) (new.recalling start) := by
  have kept (keeps : old.Keeps new) : new.sequence = start ∨ new.sequence = none := by
    rcases keeps with same | ⟨none, -⟩
    · rwa [same]
    · exact .inr none
  have same : (old.recalling start).Keeps (new.recalling start) := .inl rfl
  cases turn with
  | appears strange known active still undialed now place =>
    refine ⟨?_, .appears strange known active rfl undialed now place⟩
    rwa [still]
  | stays since keeps phone stage =>
    exact ⟨kept keeps, .stays (since.recalling _ _) same phone stage⟩
  | follows since keeps phone was now follows =>
    exact ⟨kept keeps, .follows (since.recalling _ _) same phone was now follows⟩
  | leaves since keeps was now bare =>
    exact ⟨kept keeps, .leaves (since.recalling _ _) same was now bare⟩
  | binds since keeps phone was now =>
    exact ⟨kept keeps, .binds (since.recalling _ _) same phone was now⟩
  | falls since keeps phone known was held now =>
    exact ⟨kept keeps, .falls (since.recalling _ _) same phone known was held now⟩
  | dials since keeps phone alive was due now =>
    exact ⟨kept keeps, .dials (since.recalling _ _) same phone alive was due now⟩
  | picks mine => exact absurd mine foreign
  | exhausts mine => exact absurd mine foreign
  | yields _ since phone stage none =>
    exact ⟨.inr none, .stays (since.recalling _ _) same (.inl phone) stage⟩

theorem Turn.recalled (turn : Turn terms id own old new) (recalls : Recalls own start old queue) :
    ∃ next, Recalls own start new next ∧
      Turn terms id True (old.recalling queue) (new.recalling next) := by
  cases recalls with
  | mine mine => exact ⟨_, .mine mine, turn.of_own mine⟩
  | start foreign left =>
    obtain ⟨still, turn⟩ := turn.foreign foreign left
    exact ⟨_, .start foreign still, turn⟩

abbrev Turns (terms : Terms) (id : ConnectionId) : Course → Course → Prop :=
  Relation.ReflTransGen (Turn terms id True)

end Course

def System.displaces (before after : System Chronicle) (id : ConnectionId) : Bool :=
  (before.sequence? id).isSome && (after.sequence? id).isNone && !(after.connection id).destroyed

theorem System.course_signals (system : System Chronicle) (signals : List Signal)
    (duties : List Duty) (id : ConnectionId) :
    System.course { system with signals } duties id = system.course duties id := by
  cases id <;> rfl

theorem Effects.turns {actor : Actor} {duties others : List Duty} {before after : System Chronicle}
    (effects : Effects terms actor duties before others after)
    (orderly : Orderly terms duties before) (plain : terms.settings.domainSelection = false)
    (id : ConnectionId) :
    ∃ queue,
      (after.course others id).Recalls (actor = .task (some id)) (before.sequence? id) queue ∧
      Course.Turns terms id (before.course duties id) ((after.course others id).recalling queue) :=
        by
  induction effects with
  | refl =>
    by_cases mine : actor = .task (some id)
    · exact ⟨_, .mine mine, .refl⟩
    · exact ⟨_, .start mine (.inl rfl), .refl⟩
  | step sofar effect ih =>
    obtain ⟨queue, recalls, turns⟩ := ih
    obtain ⟨next, recalls, turn⟩ := (effect.turn (sofar.orderly orderly) plain id).recalled recalls
    exact ⟨next, recalls, turns.tail turn⟩

theorem Effects.turns_of_step {actor : Actor} {duties others : List Duty}
    {before after : System Chronicle} (effects : Effects terms actor duties before others after)
    (orderly : Orderly terms duties before) (plain : terms.settings.domainSelection = false)
    (held : before.displaces after id = false) :
    Course.Turns terms id (before.course duties id) (after.course others id) := by
  obtain ⟨queue, recalls, turns⟩ := effects.turns orderly plain id
  cases recalls with
  | mine mine => exact turns
  | start foreign left =>
    rcases left with same | none
    · rw [← same] at turns
      exact turns
    · refine turns.tail (.stays ?_ ?_ (.inl rfl) rfl)
      · exact {
          known := Iff.rfl
          gone := fun gone => gone
          bare := fun _ bare => bare
          active := fun active => active
          notes := List.suffix_refl _
          dials := fun _ => rfl }
      · cases had : before.sequence? id with
        | none => exact .inl none
        | some retry =>
          have lost : after.sequence? id = Option.none := none
          simp only [System.displaces, had, lost, Option.isSome_some, Option.isNone_none,
            Bool.true_and, Bool.not_eq_eq_eq_not, Bool.not_false] at held
          exact .inr ⟨none, .inl held⟩

/-- No step of the run takes the queue away from the call. -/
def Office.keepsQueue (rounds : Nat) (id : ConnectionId) : List Occasion → Office → Bool
  | [], _ => true
  | occasion :: rest, office =>
    match office.step rounds occasion with
    | none => true
    | some next => !office.system.displaces next.system id && next.keepsQueue rounds id rest

namespace AllAtPosts

variable {posts : List Post} {office after : Office}

theorem turns (allAtPosts : AllAtPosts terms rounds posts office)
    (accounted : Accounted (Post.duties posts) office.system) (unknown : terms.numbers = none)
    (plain : terms.settings.domainSelection = false) {occasions : List Occasion}
    (reached : office.run rounds occasions = some after)
    (kept : office.keepsQueue rounds id occasions = true) :
    ∃ others, AllAtPosts terms rounds others after ∧ Accounted (Post.duties others) after.system ∧
      Course.Turns terms id (office.system.course (Post.duties posts) id)
        (after.system.course (Post.duties others) id) := by
  induction occasions generalizing posts office with
  | nil =>
    cases reached
    exact ⟨posts, allAtPosts, accounted, .refl⟩
  | cons occasion rest ih =>
    rw [Office.run_cons] at reached
    obtain ⟨next, stepped, reached⟩ := Option.bind_eq_some_iff.mp reached
    simp only [Office.keepsQueue, stepped, Bool.and_eq_true, Bool.not_eq_eq_eq_not, Bool.not_true]
      at kept
    obtain ⟨held, kept⟩ := kept
    obtain ⟨actor, now, middle, effects, last, allAtPosts'⟩ :=
      allAtPosts.step (fun known => by rw [unknown] at known; cases known) stepped
    have held : office.system.displaces now id = false := by
      rw [last] at held
      cases id <;> exact held
    have turns := effects.turns_of_step allAtPosts.orderly plain held
    rw [← now.course_signals [], ← last] at turns
    have sofar := effects.keep_orderly allAtPosts.orderly
      (fun effect orderly accounted => effect.accounted orderly accounted) accounted
    have accounted : Accounted (Post.duties middle) next.system := by
      rw [last]
      exact (Effect.signal []).accounted (effects.orderly allAtPosts.orderly) sofar
    obtain ⟨others, allAtPosts, accounted, more⟩ := ih allAtPosts' accounted reached kept
    exact ⟨others, allAtPosts, accounted, turns.trans more⟩

end AllAtPosts

theorem Connection.endOfLeg_of_unselected {call : Connection}
    (unselected : call.selectionActive = false) (failure : RadioFailure) :
    call.endOfLeg failure = .redial call.phone (failure.retryClass == .permanent) ∨
      call.endOfLeg failure = .terminal := by
  rw [endOfLeg, unselected, Bool.false_and]
  split
  · exact .inl rfl
  · exact .inr rfl

namespace System

variable {system : System Chronicle} {leg : LegId}

theorem left_ask_givenUp (attended : system.attended = true)
    (distinct : (system.connection id).listeners.Nodup) (works : system.works = [])
    (held : (system.connection id).leg = some leg) (event : ConnectionEvent) (work : FollowUp) :
    (((system.givenUp id).ask id event work).works = [] ∨
        ((system.givenUp id).ask id event work).works = [work]) ∧
      ((system.givenUp id).ask id event work).outside = system.outside ∧
      (((system.givenUp id).ask id event work).connection id).leg = none := by
  have calm := Calm.givenUp system id
  obtain ⟨journal, -, asked⟩ := @hear_foldl id event work _ ((calm.onlyLoses id).listeners distinct)
    (system.givenUp id) (calm.attended.trans attended)
  rw [ask, asked]
  refine ⟨?_, calm.outside, ?_⟩
  · have silent : (system.givenUp id).works = [] := calm.works.trans works
    rw [System.works, List.filterMap_append]
    refine (Decidable.em (.exchange ∈ ((system.givenUp id).connection id).listeners)).symm.imp
      (fun deaf => ?_) fun heard => ?_
    · rw [if_neg deaf]
      exact congrArg (· ++ []) silent
    · rw [if_pos heard]
      exact congrArg (· ++ [work]) silent
  · have bare : ((system.givenUp id).connection id).leg = none := by
      rw [givenUp, connection_release, connection_reviseConnection,
        if_pos ⟨rfl, system.known_of_leg held⟩]
      rfl
    rw [← bare]
    cases id <;> rfl

theorem AtRest.left_legEnded (rest : system.AtRest) (attended : system.attended = true)
    (distinct : (system.connection id).listeners.Nodup)
    (unselected : (system.connection id).selectionActive = false) (works : system.works = [])
    (held : (system.connection id).leg = some leg) (failure : RadioFailure) (code : Int)
    (message : String) :
    ((system.legEnded id failure code message).works = [] ∨
        (system.legEnded id failure code message).works =
          [.redial id (system.connection id).phone (failure.retryClass == .permanent)]) ∧
      (system.legEnded id failure code message).outside = system.outside ∧
      (((system.legEnded id failure code message).connection id).destroyed = true ∨
        ((system.legEnded id failure code message).connection id).leg = none) := by
  rcases Connection.endOfLeg_of_unselected unselected failure with plan | plan
  · obtain ⟨left, outside, bare⟩ := left_ask_givenUp attended distinct works held
      (.redialRequested (system.connection id).phone (failure.retryClass == .permanent))
      (.redial id (system.connection id).phone (failure.retryClass == .permanent))
    rw [System.legEnded, plan]
    exact ⟨left, outside, .inr bare⟩
  · have calm := Calm.ending system id
      (if message.isEmpty then DisconnectInfo.ofFailure failure code
        else (DisconnectInfo.ofFailure failure code).withReason message)
    rw [System.legEnded, plan]
    exact ⟨.inl (calm.works.trans works), calm.outside, .inl (rest.destroyed_ending id _)⟩

theorem held_of_delivery {follower : Option Bridge} (heeds : system.delivery follower = some id) :
    ∃ leg, (system.connection id).leg = some leg := by
  obtain ⟨bridge, -, heeds⟩ := Option.bind_eq_some_iff.mp heeds
  split at heeds
  · rename_i listens
    cases heeds
    simp only [Connection.heeds, Bool.and_eq_true] at listens
    exact Option.isSome_iff_exists.mp listens.2
  · cases heeds

theorem delivery_congr {other : System Chronicle}
    (same : ∀ id, other.connection id = system.connection id) (follower : Option Bridge) :
    other.delivery follower = system.delivery follower := by
  simp only [delivery, same]

theorem AtRest.left_followed {now : System Chronicle} (rest : system.AtRest)
    (attended : system.attended = true) (distinct : (system.connection id).listeners.Nodup)
    (unselected : (system.connection id).selectionActive = false) (works : system.works = [])
    {follower : Option Bridge} (heeds : system.delivery follower = some id) {failure : RadioFailure}
    {code : Int} {message : String}
    (ripple : Ripple (fun notes : Chronicle => notes)
      (system.follows follower (.disconnected failure code message)) now) :
    (now.works = [] ∨ now.works =
        [.redial id (system.connection id).phone (failure.retryClass == .permanent)]) ∧
      now.outside = system.outside ∧
      ((now.connection id).destroyed = true ∨ (now.connection id).leg = none) := by
  obtain ⟨leg, held⟩ := held_of_delivery heeds
  have ripple : Ripple (fun notes : Chronicle => notes)
      (system.legEnded id failure code message) now := by
    rw [follows_eq, heeds] at ripple
    exact ripple
  obtain ⟨left, outside, gone⟩ :=
    rest.left_legEnded attended distinct unselected works held failure code message
  rw [ripple.works, ripple.destroyed, ripple.leg]
  exact ⟨left, ripple.outside.trans outside, gone⟩

end System

namespace Occasion

/-- The connection that heeds what the radio says, and what that is. -/
def heard (system : System Chronicle) : Occasion → Option (ConnectionId × RadioEvent)
  | report leg event => (system.delivery (system.leg leg).attached).map (·, event)
  | reportLate leg event => (system.delivery (system.leg leg).last).map (·, event)
  | _ => none

/-- An attempt at the call fails for good on the phone: the dial is refused, or the leg ends. -/
inductive FailsForGood (system : System Chronicle) (id : ConnectionId) (phone : PhoneId) :
    Occasion → Prop
  | refused {ticket : Nat} {number : String} {args : DialArgs} {error : RadioError}
    (asks : system.outside.Asks ticket (.dial id phone number args))
    (opened : system.outside.isOpen ticket = true)
    (permanent : error.failure.retryClass = .permanent) :
    FailsForGood system id phone (.reply ticket (.refused error))
  | dropped {occasion : Occasion} {failure : RadioFailure} {code : Int} {message : String}
    (heard : occasion.heard system = some (id, .disconnected failure code message))
    (here : (system.connection id).phone = phone) (permanent : failure.retryClass = .permanent) :
    FailsForGood system id phone occasion

end Occasion

namespace Occasion

variable {office after : Office} {occasion : Occasion} {event : RadioEvent}

theorem held_of_heard {system : System Chronicle}
    (heard : occasion.heard system = some (id, event)) :
    ∃ leg, (system.connection id).leg = some leg := by
  cases occasion with
  | report leg _ | reportLate leg _ =>
    obtain ⟨_, heeds, same⟩ := Option.map_eq_some_iff.mp heard
    cases same
    exact System.held_of_delivery heeds
  | _ => cases heard

theorem run_of_heard (heard : occasion.heard office.system = some (id, event))
    (stepped : office.step rounds occasion = some after) :
    ∃ now, occasion.act (.level .silent rounds) office.system = some ((), now) ∧
      after = Office.absorb { office with system := now } := by
  cases occasion with
  | report leg _ | reportLate leg _ =>
    obtain ⟨next, acted, rfl⟩ := Option.map_eq_some_iff.mp stepped
    obtain ⟨⟨⟨⟩, now⟩, run, rfl⟩ := Option.map_eq_some_iff.mp acted
    exact ⟨now, run, rfl⟩
  | _ => cases heard

end Occasion

theorem Occasion.left_heard {duties : List Duty} {system : System Chronicle}
    (orderly : Orderly terms duties system) (works : system.works = [])
    (plain : terms.settings.domainSelection = false) {occasion : Occasion} {failure : RadioFailure}
    {code : Int} {message : String}
    (heard : occasion.heard system = some (id, .disconnected failure code message)) :
    occasion.act.Ensures (.level .silent rounds) system fun _ now =>
      (now.works = [] ∨ now.works =
          [.redial id (system.connection id).phone (failure.retryClass == .permanent)]) ∧
        (∃ leg event, now.outside = .reported leg event :: system.outside) ∧
        ((now.connection id).destroyed = true ∨ (now.connection id).leg = none) := by
  have unselected : (system.connection id).selectionActive = false := by
    refine Bool.eq_false_iff.mpr fun on => ?_
    rw [orderly.selection id on] at plain
    cases plain
  have followed {shown now : System Chronicle} {leg : LegId} {event : RadioEvent}
      {follower : Option Bridge}
      (ripple : Ripple (fun notes : Chronicle => notes)
        (shown.follows follower (.disconnected failure code message)) now)
      (heeds : system.delivery follower = some id)
      (same : ∀ id, shown.connection id = system.connection id)
      (attended : shown.attended = true) (silent : shown.works = [])
      (outside : shown.outside = .reported leg event :: system.outside) :
      (now.works = [] ∨ now.works =
          [.redial id (system.connection id).phone (failure.retryClass == .permanent)]) ∧
        (∃ leg event, now.outside = .reported leg event :: system.outside) ∧
        ((now.connection id).destroyed = true ∨ (now.connection id).leg = none) := by
    have rest : shown.AtRest := orderly.rest.of_connections same
    obtain ⟨left, kept, gone⟩ := rest.left_followed attended
      (by rw [same]; exact orderly.listeners id) (by rw [same]; exact unselected) silent
      ((System.delivery_congr same follower).trans heeds) ripple
    rw [same] at left
    exact ⟨left, ⟨leg, event, kept.trans outside⟩, gone⟩
  cases occasion with
  | report leg event =>
    obtain ⟨_, heeds, same⟩ := Option.map_eq_some_iff.mp heard
    cases same
    have rest : (system.noting (.reported leg (.disconnected failure code message))).AtRest :=
      orderly.rest.of_connections fun _ => by simp
    simp only [act, Act.ensures_bind, Act.ensures_reviseOutside]
    refine (Act.ripple_report Bystanders.observe_notes rounds rest leg _).mono
      fun _ now ripple => ?_
    rw [System.reported_eq] at ripple
    exact followed ripple heeds (fun _ => by simp) orderly.attended works rfl
  | reportLate leg event =>
    obtain ⟨_, heeds, same⟩ := Option.map_eq_some_iff.mp heard
    cases same
    have rest : (system.noting (.reported leg (.disconnected failure code message))).AtRest :=
      orderly.rest.of_connections fun _ => by simp
    simp only [act, Act.ensures_bind, Act.ensures_reviseOutside, Act.ensures_pure]
    refine (Act.ripple_reportLate Bystanders.observe_notes rounds rest leg _).mono
      fun _ now ripple => ?_
    exact followed ripple heeds (fun _ => by simp) orderly.attended works rfl
  | _ => cases heard

namespace AllAtPosts

variable {posts : List Post} {office after : Office} {phone : PhoneId}

theorem accounted_acted (allAtPosts : AllAtPosts terms rounds posts office)
    (accounted : Accounted (Post.duties posts) office.system) (unknown : terms.numbers = none)
    {occasion : Occasion} {now : System Chronicle}
    (run : occasion.act (.level .silent rounds) office.system = some ((), now)) :
    AllAtPosts terms rounds (posts ++ now.works.map FollowUp.post)
        (Office.absorb { office with system := now }) ∧
      Accounted (Post.duties (posts ++ now.works.map FollowUp.post)) { now with signals := [] } ∧
      ∀ id, office.system.Known id → now.Known id := by
  obtain ⟨effects, acted⟩ :=
    allAtPosts.acted (fun known => by rw [unknown] at known; cases known) run
  have sofar := effects.keep_orderly allAtPosts.orderly
    (fun effect orderly accounted => effect.accounted orderly accounted) accounted
  exact ⟨acted, (Effect.signal []).accounted (effects.orderly allAtPosts.orderly) sofar,
    fun _ => effects.later.known⟩

theorem barred_of_refusal (allAtPosts : AllAtPosts terms rounds posts office)
    (accounted : Accounted (Post.duties posts) office.system) (unknown : terms.numbers = none)
    {ticket : Nat} {number : String} {args : DialArgs} {error : RadioError}
    (asks : office.system.outside.Asks ticket (.dial id phone number args))
    (opened : office.system.outside.isOpen ticket = true)
    (permanent : error.failure.retryClass = .permanent)
    (stepped : office.step rounds (.reply ticket (.refused error)) = some after) :
    ∃ others, AllAtPosts terms rounds others after ∧ Accounted (Post.duties others) after.system ∧
      after.system.Known id ∧ Course.Barred phone (after.system.course (Post.duties others) id) ∧
      after.system.outside.dials id phone = office.system.outside.dials id phone := by
  obtain ⟨next, acted, rfl⟩ := Option.map_eq_some_iff.mp stepped
  obtain ⟨⟨⟨⟩, now⟩, run, rfl⟩ := Option.map_eq_some_iff.mp acted
  have same : now = office.system.noting (.replied ticket (.refused error)) := by
    have ensures : (Occasion.reply ticket (.refused error)).act.Ensures (.level .silent rounds)
        office.system fun _ now => now = office.system.noting (.replied ticket (.refused error)) :=
          by
      simp only [Occasion.act, Act.ensures_bind, Act.ensures_get, opened, if_true,
        Act.ensures_reviseOutside]
      rfl
    exact ensures () now run
  obtain ⟨allAtPosts', accounted', known⟩ := allAtPosts.accounted_acted accounted unknown run
  have among := (accounted.awaited asks).resolve_left (Chronicle.not_taken_of_isOpen opened)
  have works : now.works = [] := by
    rw [same]
    exact allAtPosts.works
  have duties : Post.duties (posts ++ now.works.map FollowUp.post) = Post.duties posts := by
    rw [works, List.map_nil, List.append_nil]
  have stage := Duty.stage?_of_mem (allAtPosts.orderly.single id) among
  have said : now.outside.Answered ticket (.reply (.refused error)) := by
    rw [same]
    exact Chronicle.answered_cons.mpr (.inl (if_pos rfl))
  refine ⟨_, allAtPosts', accounted', ?_, ?_, ?_⟩
  · have here := known id (allAtPosts.orderly.known among)
    cases id <;> exact here
  · change Course.Barred phone (System.course { now with signals := [] } _ id)
    rw [System.course_signals, duties]
    exact .refused stage said permanent
  · change now.outside.dials id phone = _
    rw [same]
    exact Chronicle.dials_apart rfl _ _

theorem barred_of_drop (allAtPosts : AllAtPosts terms rounds posts office)
    (accounted : Accounted (Post.duties posts) office.system) (unknown : terms.numbers = none)
    (plain : terms.settings.domainSelection = false) {occasion : Occasion} {failure : RadioFailure}
    {code : Int} {message : String}
    (heard : occasion.heard office.system = some (id, .disconnected failure code message))
    (permanent : failure.retryClass = .permanent)
    (stepped : office.step rounds occasion = some after) :
    ∃ others, AllAtPosts terms rounds others after ∧ Accounted (Post.duties others) after.system ∧
      after.system.Known id ∧
      Course.Barred (office.system.connection id).phone
        (after.system.course (Post.duties others) id) ∧
      ∀ phone, after.system.outside.dials id phone = office.system.outside.dials id phone := by
  obtain ⟨now, run, rfl⟩ := Occasion.run_of_heard heard stepped
  obtain ⟨left, ⟨leg, event, outside⟩, gone⟩ :=
    Occasion.left_heard allAtPosts.orderly allAtPosts.works plain heard () now run
  obtain ⟨allAtPosts', accounted', known⟩ := allAtPosts.accounted_acted accounted unknown run
  obtain ⟨held, has⟩ := Occasion.held_of_heard heard
  have alone (stage : Stage) : .agent id stage ∉ Post.duties posts := fun among => by
    rw [allAtPosts.orderly.free among] at has
    cases has
  refine ⟨_, allAtPosts', accounted', ?_, ?_, fun phone => ?_⟩
  · have here := known id (office.system.known_of_leg has)
    cases id <;> exact here
  · change Course.Barred _ (System.course { now with signals := [] } _ id)
    rw [System.course_signals]
    rcases left with none | work
    · have duties : Post.duties (posts ++ now.works.map FollowUp.post) = Post.duties posts := by
        rw [none, List.map_nil, List.append_nil]
      rw [duties]
      rcases gone with gone | bare
      · exact .settled (.gone gone)
      · exact .settled (.idle (Duty.stage?_eq_none alone) (by simp [System.course, bare]))
    · refine .redialing (Duty.stage?_of_mem (allAtPosts'.orderly.single id) ?_)
      rw [Post.duties_append, FollowUp.duties_post, work, permanent]
      simp [FollowUp.duties]
  · change now.outside.dials id phone = _
    rw [outside]
    exact Chronicle.dials_apart rfl _ _

theorem barred (allAtPosts : AllAtPosts terms rounds posts office)
    (accounted : Accounted (Post.duties posts) office.system) (unknown : terms.numbers = none)
    (plain : terms.settings.domainSelection = false) {occasion : Occasion}
    (fails : occasion.FailsForGood office.system id phone)
    (stepped : office.step rounds occasion = some after) :
    ∃ others, AllAtPosts terms rounds others after ∧ Accounted (Post.duties others) after.system ∧
      after.system.Known id ∧ Course.Barred phone (after.system.course (Post.duties others) id) ∧
      after.system.outside.dials id phone = office.system.outside.dials id phone := by
  cases fails with
  | refused asks opened permanent =>
    exact allAtPosts.barred_of_refusal accounted unknown asks opened permanent stepped
  | dropped heard here permanent =>
    obtain ⟨others, allAtPosts, accounted, known, barred, same⟩ :=
      allAtPosts.barred_of_drop accounted unknown plain heard permanent stepped
    exact ⟨others, allAtPosts, accounted, known, here ▸ barred, same phone⟩

end AllAtPosts

namespace Course

variable {old new : Course} {phone : PhoneId}

theorem Turns.measured {limit : Nat} (turns : Turns terms id old new)
    (limited : limit = max terms.settings.emergencyRetryRounds 1)
    (measured : Measured terms id limit phone old) : Measured terms id limit phone new := by
  induction turns with
  | refl => exact measured
  | tail _ turn ih => exact turn.measured limited ih

theorem Turns.barred (turns : Turns terms id old new) (known : old.known)
    (barred : Barred phone old) (inactive : ¬ new.active) :
    new.known ∧ Barred phone new ∧ new.notes.dials id phone = old.notes.dials id phone := by
  induction turns with
  | refl => exact ⟨known, barred, rfl⟩
  | tail _ turn ih =>
    obtain ⟨known, barred, same⟩ := ih fun active => inactive (turn.active active)
    obtain ⟨barred, still⟩ := turn.barred known barred inactive
    exact ⟨turn.known known, barred, still.trans same⟩

end Course

namespace Office

variable {settings : Settings} {device : Device} {occasions : List Occasion} {office : Office}

end Office

end Switchboard
