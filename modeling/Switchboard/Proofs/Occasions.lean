import Switchboard.Proofs.TaskDuties

/-! Each occasion, as a list of effects. When a leg says that it is at its end, its connection ends
with it, or gives it up; then the exchange leaves the next attempt for later, as a duty. -/

namespace Switchboard

variable {terms : Terms} {rounds : Nat}

theorem Calm.of_journal (system : System Chronicle) {journal : List Entry}
    (more : ∀ entry ∈ system.journal, entry ∈ journal) :
    Calm system { system with journal } :=
  { Calm.refl system with
    retry := .inl rfl
    heard := fun _ ⟨old, among⟩ => ⟨old, more _ among⟩ }

namespace System

theorem hear_foldl {id : ConnectionId} {event : ConnectionEvent} {work : FollowUp}
    {listeners : List Listener} (distinct : listeners.Nodup) (system : System Chronicle)
    (attended : system.attended = true) :
    ∃ journal, (∀ entry ∈ system.journal, entry ∈ journal) ∧
      listeners.foldl (hear id event work) system =
        { system with
          journal
          signals := system.signals ++ if .exchange ∈ listeners then [.follow work] else [] } := by
  induction listeners generalizing system with
  | nil => exact ⟨system.journal, fun _ among => among, by simp⟩
  | cons listener rest ih =>
    obtain ⟨apart, others⟩ := List.nodup_cons.mp distinct
    rw [List.foldl_cons, hear]
    split
    · rename_i exchange
      subst exchange
      rw [pursue, if_pos attended]
      obtain ⟨journal, more, same⟩ := ih others
        { system with
          journal := .heard .exchange id event :: system.journal
          signals := system.signals ++ [.follow work] } attended
      refine ⟨journal, fun entry among => more entry (.tail _ among), ?_⟩
      rw [same]
      simp [apart]
    · rename_i other
      obtain ⟨journal, more, same⟩ := ih others
        { system with journal := .heard listener id event :: system.journal } attended
      refine ⟨journal, fun entry among => more entry (.tail _ among), ?_⟩
      rw [same]
      simp [Ne.symm other]

end System

namespace Orderly

variable {duties : List Duty} {system : System Chronicle} {id : ConnectionId} {leg : LegId}

theorem giveUp (orderly : Orderly terms duties system) {stage : Stage} {event : ConnectionEvent}
    {work : FollowUp} (had : (system.connection id).leg = some leg)
    (ended : system.outside.HasEnded leg) (comes : stage.ComesUp (system.connection id))
    (duty : work.duties = [.agent id stage]) (works : system.works = []) :
    Effects terms .world duties system
      (((system.givenUp id).ask id event work).works.flatMap FollowUp.duties ++ duties)
      ((system.givenUp id).ask id event work) := by
  have calm := Calm.givenUp system id
  have distinct := (calm.onlyLoses id).listeners (orderly.listeners id)
  obtain ⟨journal, more, asked⟩ := @System.hear_foldl id event work _ distinct (system.givenUp id)
    (calm.attended.trans orderly.attended)
  have silent : (system.givenUp id).works = [] := calm.works.trans works
  have told : Calm system { system.givenUp id with journal } :=
    calm.trans (.of_journal (system.givenUp id) more)
  have rest : System.AtRest { system.givenUp id with journal } :=
    (orderly.rest.givenUp id).of_connections fun _ => rfl
  have lost (other : ConnectionId) (held : LegId)
      (before : (system.connection other).leg = some held)
      (after : ((system.givenUp id).connection other).leg = none) :
      system.outside.HasEnded held ∨ .ending other ∈ duties := by
    rw [System.givenUp, System.connection_release, System.connection_reviseConnection] at after
    split at after
    · rename_i here
      rw [here.1, had] at before
      cases before
      exact .inl ended
    · rw [before] at after
      cases after
  have bare : ((system.givenUp id).connection id).leg = none := by
    rw [System.givenUp, System.connection_release, System.connection_reviseConnection]
    split
    · rfl
    · rename_i strange
      exact absurd ⟨rfl, system.known_of_leg had⟩ strange
  rw [System.ask, asked]
  split
  · have left : System.works { system.givenUp id with
        journal
        signals := (system.givenUp id).signals ++ [.follow work] } = [work] := by
      rw [System.works, List.filterMap_append]
      exact congrArg (· ++ [work]) silent
    rw [left, List.flatMap_singleton, duty]
    exact .step (.single (.giveUp told rest lost had bare comes)) (.signal _)
  · have left : System.works { system.givenUp id with
        journal
        signals := (system.givenUp id).signals ++ [] } = [] := by
      rw [List.append_nil]
      exact silent
    rw [left]
    exact .step (.single (.calm told rest lost)) (.signal _)

theorem changed (orderly : Orderly terms duties system) {change : Connection → Connection}
    (same : ∀ call, (change call).publicity = call.publicity)
    (onlyLoses : (system.connection id).OnlyLoses (change (system.connection id)))
    (held : (system.connection id).leg = some leg)
    (keeps : (change (system.connection id)).leg = (system.connection id).leg)
    (lasts : (change (system.connection id)).visibleState = .disconnected →
      system.outside.HasEnded leg) :
    Effect terms .world duties system duties (system.changed id change) := by
  refine .calm (.changed system id onlyLoses) (orderly.rest.changed id change same) ?_
  intro other lost before after
  rw [System.connection_changed] at after
  split at after
  · rename_i here
    rw [here.1, held] at before
    cases before
    refine .inl (lasts ?_)
    have alive : (change (system.connection id)).destroyed = false := by
      have gone := congrArg (·.2.2.2.1) (same (system.connection id))
      refine gone.trans (Bool.eq_false_iff.mpr fun dead => ?_)
      rw [orderly.bare id dead] at held
      cases held
    refine Decidable.byContradiction fun shown => ?_
    rw [Connection.settled_of_lasting alive (by simp [Connection.isEnding, shown])] at after
    have kept : (change (system.connection id)).leg = none := after
    rw [keeps, held] at kept
    cases kept
  · rw [before] at after
    cases after

theorem alive_of_leg (orderly : Orderly terms duties system)
    (held : (system.connection id).leg = some leg) :
    (system.connection id).destroyed = false := by
  refine Bool.eq_false_iff.mpr fun gone => ?_
  rw [orderly.bare id gone] at held
  cases held

theorem ended (orderly : Orderly terms duties system) (info : DisconnectInfo)
    (held : (system.connection id).leg = some leg) (atEnd : system.outside.HasEnded leg) :
    Effect terms .world duties system duties (system.ending id info) := by
  rw [System.ending, orderly.rest.not_ended (orderly.alive_of_leg held), if_neg (by simp)]
  exact orderly.changed (fun _ => rfl) (Connection.onlyLoses_finished info _) held rfl
    fun _ => atEnd

theorem legEnded (orderly : Orderly terms duties system) {failure : RadioFailure} {code : Int}
    {message : String} (held : (system.connection id).leg = some leg)
    (atEnd : system.outside.HasEnded leg) (works : system.works = []) :
    Effects terms .world duties system
      ((system.legEnded id failure code message).works.flatMap FollowUp.duties ++ duties)
      (system.legEnded id failure code message) := by
  rw [System.legEnded]
  cases outcome : (system.connection id).endOfLeg failure with
  | redial phone permanent =>
    refine orderly.giveUp held atEnd ?_ rfl works
    unfold Connection.endOfLeg at outcome
    split at outcome
    · rename_i asks
      simp only [Bool.and_eq_true] at asks
      cases outcome
      exact ⟨rfl, asks.1.1.2⟩
    · split at outcome <;> cases outcome
  | reselect =>
    refine orderly.giveUp held atEnd ?_ rfl works
    unfold Connection.endOfLeg at outcome
    split at outcome
    · cases outcome
    · split at outcome
      · rename_i asks
        simp only [Bool.and_eq_true] at asks
        exact asks.1
      · cases outcome
  | terminal =>
    have silent := (Calm.ending system id
      (if message.isEmpty then DisconnectInfo.ofFailure failure code
        else (DisconnectInfo.ofFailure failure code).withReason message)).works.trans works
    dsimp only
    rw [silent]
    exact .single (orderly.ended _ held atEnd)

/-- What an event of its leg brings a connection. -/
theorem heed (orderly : Orderly terms duties system) {event : RadioEvent}
    (held : (system.connection id).leg = some leg)
    (atEnd : event.isEnd = true → system.outside.HasEnded leg) (works : system.works = []) :
    Effects terms .world duties system
      ((system.heed id event).works.flatMap FollowUp.duties ++ duties) (system.heed id event) := by
  have quiet {change : Connection → Connection}
      (onlyLoses : (system.connection id).OnlyLoses (change (system.connection id)))
      (effect : Effect terms .world duties system duties (system.changed id change)) :
      Effects terms .world duties system
        ((system.changed id change).works.flatMap FollowUp.duties ++ duties)
        (system.changed id change) := by
    rw [(Calm.changed system id onlyLoses).works, works]
    exact .single effect
  have lasting {change : Connection → Connection}
      (shown : (change (system.connection id)).visibleState =
        (system.connection id).visibleState)
      (atEnd : (change (system.connection id)).visibleState = .disconnected) :
      system.outside.HasEnded leg :=
    absurd (shown.symm.trans atEnd) (orderly.rest.alive (orderly.alive_of_leg held)).2
  have onlyLoses := Connection.OnlyLoses.refl (system.connection id)
  cases event with
  | disconnected failure code message => exact orderly.legEnded held (atEnd rfl) works
  | stateChanged next =>
    rw [System.heed]
    split
    · rename_i can
      refine quiet (Connection.onlyLoses_becoming can)
        (orderly.changed (fun _ => rfl) (Connection.onlyLoses_becoming can) held rfl
          fun shown => atEnd ?_)
      have unended := orderly.rest.not_ended (orderly.alive_of_leg held)
      cases view : (system.connection id).view <;>
        simp_all [Connection.visibleState, Connection.follow, RadioSnapshot.apply, RadioEvent.isEnd]
    · rw [works]
      exact .refl
  | technologyChanged technology =>
    have shown : ((system.connection id).follow (.technologyChanged technology)).visibleState =
        (system.connection id).visibleState := Connection.follow_visibleState _ fun _ => rfl
    exact quiet { onlyLoses with leads := fun _ => Connection.leads_of_shown rfl shown }
      (orderly.changed (fun _ => rfl)
        { onlyLoses with leads := fun _ => Connection.leads_of_shown rfl shown } held rfl
          (lasting shown))
  | _ =>
    refine quiet { onlyLoses with leads := fun _ => Connection.leads_of_shown rfl ?_ }
      (orderly.changed (fun _ => rfl)
        { onlyLoses with leads := fun _ => Connection.leads_of_shown rfl ?_ } held rfl (lasting ?_))
    all_goals exact Connection.follow_visibleState _ fun _ => rfl

theorem legEvent (orderly : Orderly terms duties system) {bridge : Bridge} {event : RadioEvent}
    (tied : (system.leg leg).last = some bridge)
    (atEnd : event.isEnd = true → system.outside.HasEnded leg) (works : system.works = []) :
    Effects terms .world duties system
      ((system.legEvent bridge.connection bridge.generation event).works.flatMap FollowUp.duties ++
        duties)
      (system.legEvent bridge.connection bridge.generation event) := by
  rw [System.legEvent]
  split
  · rename_i heeds
    simp only [Connection.heeds, Bool.and_eq_true, beq_iff_eq] at heeds
    obtain ⟨other, held⟩ := Option.isSome_iff_exists.mp heeds.2
    obtain rfl := (orderly.last tied).2 heeds.1.symm other held
    exact orderly.heed held atEnd works
  · rw [works]
    exact .refl

theorem follows (orderly : Orderly terms duties system) {follower : Option Bridge}
    {event : RadioEvent} (tied : ∀ bridge, follower = some bridge →
      (system.leg leg).last = some bridge)
    (atEnd : event.isEnd = true → system.outside.HasEnded leg) (works : system.works = []) :
    Effects terms .world duties system
      ((system.follows follower event).works.flatMap FollowUp.duties ++ duties)
      (system.follows follower event) := by
  cases follower with
  | none =>
    rw [System.follows, works]
    exact .refl
  | some bridge => exact orderly.legEvent (tied bridge rfl) atEnd works

end Orderly

theorem RadioSnapshot.apply_disconnected {view : RadioSnapshot} {event : RadioEvent}
    (atEnd : (view.apply event).state = .disconnected) :
    view.state = .disconnected ∨ event.isEnd = true := by
  cases event with
  | stateChanged state =>
    obtain rfl : state = .disconnected := atEnd
    exact .inr rfl
  | disconnected failure code message => exact .inr rfl
  | _ => exact .inl atEnd

namespace Occasion

variable {duties : List Duty} {system : System Chronicle}

theorem idle {after : System Chronicle} (works : system.works = [])
    (effect : Effect terms .world duties system duties after)
    (same : after.works = system.works) :
    Effects terms .world duties system (after.works.flatMap FollowUp.duties ++ duties) after := by
  rw [same, works]
  exact .single effect

theorem rippled {middle after : System Chronicle}
    (effects : Effects terms .world duties system
      (middle.works.flatMap FollowUp.duties ++ duties) middle)
    (ripple : Ripple (fun notes : Chronicle => notes) middle after) (rest : middle.AtRest) :
    Effects terms .world duties system (after.works.flatMap FollowUp.duties ++ duties) after := by
  rw [ripple.works]
  exact .step effects (.ripple ripple rest)

theorem report_effects (orderly : Orderly terms duties system) (works : system.works = [])
    (leg : LegId) (event : RadioEvent) :
    (report leg event).act.Ensures (.level .silent rounds) system fun _ after =>
      Effects terms .world duties system (after.works.flatMap FollowUp.duties ++ duties)
        after := by
  simp only [act, Act.ensures_bind, Act.ensures_reviseOutside]
  let noted := system.noting (.reported leg event)
  have note : Effect terms .world duties system duties noted := .note trivial
  have orderly := note.orderly orderly
  have atEnd (isEnd : event.isEnd = true) : noted.outside.HasEnded leg :=
    .inr ⟨event, List.mem_cons_self, isEnd⟩
  let shown := noted.reviseLeg leg fun leg => { leg with view := leg.view.apply event }
  have calm : Calm noted shown :=
    .reviseLeg noted leg rfl (.inl rfl) fun state =>
      (RadioSnapshot.apply_disconnected state).imp_right atEnd
  have seen : Effect terms .world duties noted duties shown := by
    refine .calm calm (orderly.rest.reviseLeg leg _) fun id held had none => ?_
    rw [System.connection_reviseLeg, had] at none
    cases none
  have orderly' := seen.orderly orderly
  refine (Act.ripple_report (Bystanders.observe_notes) rounds orderly.rest leg event).mono
    fun _ after ripple => ?_
  have follows := orderly'.follows (fun bridge => orderly'.attached)
    (fun isEnd => calm.outside ▸ atEnd isEnd) (calm.works.trans works)
  exact rippled ((Effects.single note).trans ((Effects.single seen).trans follows)) ripple
    (orderly.rest.reported leg event)

theorem reportLate_effects (orderly : Orderly terms duties system) (works : system.works = [])
    (leg : LegId) (event : RadioEvent) :
    (reportLate leg event).act.Ensures (.level .silent rounds) system fun _ after =>
      Effects terms .world duties system (after.works.flatMap FollowUp.duties ++ duties)
        after := by
  simp only [act, Act.ensures_bind, Act.ensures_reviseOutside, Act.ensures_pure]
  let noted := system.noting (.reported leg event)
  have note : Effect terms .world duties system duties noted := .note trivial
  have orderly := note.orderly orderly
  have atEnd (isEnd : event.isEnd = true) : noted.outside.HasEnded leg :=
    .inr ⟨event, List.mem_cons_self, isEnd⟩
  refine (Act.ripple_reportLate Bystanders.observe_notes rounds orderly.rest leg event).mono
    fun _ after ripple => ?_
  have follows := orderly.follows (fun _ => id) atEnd works
  exact rippled ((Effects.single note).trans follows) ripple (orderly.rest.follows _ event)

theorem ring_effects (orderly : Orderly terms duties system) (works : system.works = [])
    (phone : PhoneId) (view : RadioSnapshot) :
    (ring phone view).act.Ensures (.level .silent rounds) system fun _ after =>
      Effects terms .world duties system (after.works.flatMap FollowUp.duties ++ duties)
        after := by
  have rippling := Wiring.ripples_notes rounds
  have unchanged : Effects terms .world duties system
      (system.works.flatMap FollowUp.duties ++ duties) system := by
    rw [works]
    exact .refl
  refine ensures_ring unchanged fun slot => ?_
  let id := ConnectionId.issued system.connections.length
  let leg : LegId := ⟨system.legs.length⟩
  let gained := system.gained view (.rang id leg)
  let params := system.callIn slot view
  let joined := gained.joined (.enlisted params false) []
  have ring : Effects terms .world duties system
      (.agent id (.received params.phone leg) :: duties) joined := .single (.ring params view)
  have settled := ring.orderly orderly
  have alive : (joined.connection id).destroyed = false :=
    congrArg (·.destroyed) (gained.connection_joined_newest (.enlisted params false) [])
  rw [Act.ensures_bind]
  refine (@Act.ripple_register rounds gained (.create params) [] rfl settled.rest.steady).mono
    fun _ now registered => ?_
  have rest := registered.atRest settled.rest
  refine (Act.ripple_bind rippling rest id leg).mono fun _ after ripple => ?_
  have up : (now.connection id).destroyed = false := (registered.destroyed id).trans alive
  have bound : Effects terms .world duties system duties (now.bound id leg) :=
    (ring.step (.ripple registered settled.rest)).step (.bind up)
  have silent : (now.bound id leg).works = [] := by
    have same : (now.bound id leg).signals = now.signals :=
      (now.sameBooks_bound id leg).read (·.signals) fun _ _ _ => rfl
    rw [System.works, same]
    exact registered.works.trans works
  refine rippled ?_ ripple (rest.bound id leg)
  rw [silent]
  exact bound

theorem grant_effects (resting : Resting duties) (works : system.works = []) (ticket : Nat)
    (view : RadioSnapshot) :
    (grant ticket view).act.Ensures (.level .silent rounds) system fun _ after =>
      Effects terms .world duties system (after.works.flatMap FollowUp.duties ++ duties)
        after := by
  refine ensures_grant ?_ fun opened dial => idle works (.grant view resting opened dial) rfl
  rw [works]
  exact .refl

theorem reply_effects (works : system.works = []) (ticket : Nat) (content : Reply) :
    (reply ticket content).act.Ensures (.level .silent rounds) system fun _ after =>
      Effects terms .world duties system (after.works.flatMap FollowUp.duties ++ duties)
        after := by
  refine ensures_reply ?_ fun opened => idle works (.note opened) rfl
  rw [works]
  exact .refl

end Occasion

theorem Alteration.ident (change : Alteration) (device : Device) (slot : Slot) :
    ((change.apply device).phone slot).id = (device.phone slot).id := by
  have names := congrArg (·[slot.position]?) (change.phones device)
  simp only [List.getElem?_map] at names
  simp only [Device.phone, List.getD_eq_getElem?_getD]
  cases new : (change.apply device).phones[slot.position]? <;>
    cases old : device.phones[slot.position]? <;> simp_all

namespace Occasion

variable {duties : List Duty} {system : System Chronicle}

/-- The emergency numbers stay as they are. -/
def KeepsNumbers : Occasion → Prop
  | alter change => ∀ device, (change.apply device).emergencyNumbers = device.emergencyNumbers
  | _ => True

theorem alter_effects (works : system.works = []) (change : Alteration)
    (agreed : terms.numbers.isSome = true → (alter change).KeepsNumbers) :
    (alter change).act.Ensures (.level .silent rounds) system fun _ after =>
      Effects terms .world duties system (after.works.flatMap FollowUp.duties ++ duties)
        after := by
  rw [act, Act.ensures_reviseDevice]
  refine idle works (.move system.clock _ (change.ident system.device) fun known => ?_) rfl
  exact agreed known system.device

theorem pass_effects (works : system.works = []) (milliseconds : Nat) :
    (pass milliseconds).act.Ensures (.level .silent rounds) system fun _ after =>
      Effects terms .world duties system (after.works.flatMap FollowUp.duties ++ duties)
        after := by
  rw [act, Act.ensures_modify]
  exact idle works (.move _ system.device (fun _ => rfl) fun _ => rfl) rfl

theorem watch_effects (orderly : Orderly terms duties system) (works : system.works = [])
    (id : ConnectionId) (name : String) :
    (watch id name).act.Ensures (.level .silent rounds) system fun _ after =>
      Effects terms .world duties system (after.works.flatMap FollowUp.duties ++ duties)
        after := by
  simp only [act, Act.addListener, Act.ensures_bind, Act.ensures_look]
  split
  · simp only [Act.ensures_pure]
    rw [works]
    exact .refl
  · rename_i new
    simp only [Act.ensures_bind, Act.ensures_revise, Act.ensures_pure]
    let change (call : Connection) : Connection :=
      { call with listeners := call.listeners ++ [.observer name] }
    have onlyLoses : (system.connection id).OnlyLoses (change (system.connection id)) :=
      { Connection.OnlyLoses.refl _ with
        listeners := fun distinct => by
          have apart : .observer name ∉ (system.connection id).listeners := by simpa using new
          refine List.nodup_append.mpr ⟨distinct, by simp, fun other among last new => ?_⟩
          obtain rfl := List.mem_singleton.mp new
          rintro rfl
          exact apart among }
    have rest : (system.reviseConnection id change).AtRest :=
      orderly.rest.reviseConnection _ _ (fun _ => rfl) fun _ => rfl
    exact idle works (.revise onlyLoses rfl rest) (Calm.reviseConnection system id onlyLoses).works

theorem effects (occasion : Occasion) (orderly : Orderly terms duties system)
    (resting : Resting duties) (works : system.works = [])
    (agreed : terms.numbers.isSome = true → occasion.KeepsNumbers) :
    occasion.act.Ensures (.level .silent rounds) system fun _ after =>
      Effects terms .world duties system (after.works.flatMap FollowUp.duties ++ duties)
        after := by
  cases occasion with
  | start operation =>
    rw [act, Act.ensures_pure, works]
    exact .refl
  | resume position =>
    rw [act, Act.ensures_pure, works]
    exact .refl
  | ring phone view => exact ring_effects orderly works phone view
  | report leg event => exact report_effects orderly works leg event
  | reportLate leg event => exact reportLate_effects orderly works leg event
  | grant ticket view => exact grant_effects resting works ticket view
  | reply ticket content => exact reply_effects works ticket content
  | alter change => exact alter_effects works change agreed
  | pass milliseconds => exact pass_effects works milliseconds
  | watch id name => exact watch_effects orderly works id name

end Occasion

def Shift (terms : Terms) (rounds : Nat) (posts : List Post) (before after : Office) : Prop :=
  ∃ actor now others, Effects terms actor (Post.duties posts) before.system
      (Post.duties others) now ∧
    after.system = { now with signals := [] } ∧ AllAtPosts terms rounds others after

namespace AllAtPosts

variable {posts : List Post} {office after : Office}

theorem posted (allAtPosts : AllAtPosts terms rounds posts office) {actor : Actor}
    {middle : List Post}
    {now : Office} (tasks : middle.map (·.work) = now.tasks)
    (ready : ∀ post ∈ middle, post.Ready terms rounds now.system)
    (effects : Effects terms actor (Post.duties posts) office.system
      (now.system.works.flatMap FollowUp.duties ++ Post.duties middle) now.system) :
    Effects terms actor (Post.duties posts) office.system
        (Post.duties (middle ++ now.system.works.map FollowUp.post)) now.system ∧
      AllAtPosts terms rounds (middle ++ now.system.works.map FollowUp.post) now.absorb := by
  have placed : Effects terms actor (Post.duties posts) office.system
      (Post.duties (middle ++ now.system.works.map FollowUp.post)) now.system := by
    rw [Post.duties_append, FollowUp.duties_post]
    exact effects.step (.shuffle List.perm_append_comm)
  exact ⟨placed, absorb tasks ready (placed.orderly allAtPosts.orderly)⟩

theorem shift (allAtPosts : AllAtPosts terms rounds posts office) {actor : Actor}
    {middle : List Post}
    {now : Office} (tasks : middle.map (·.work) = now.tasks)
    (ready : ∀ post ∈ middle, post.Ready terms rounds now.system)
    (effects : Effects terms actor (Post.duties posts) office.system
      (now.system.works.flatMap FollowUp.duties ++ Post.duties middle) now.system) :
    Shift terms rounds posts office now.absorb := by
  obtain ⟨placed, allAtPosts⟩ := allAtPosts.posted tasks ready effects
  exact ⟨actor, now.system, _, placed, rfl, allAtPosts⟩

theorem acted (allAtPosts : AllAtPosts terms rounds posts office) {occasion : Occasion}
    (agreed : terms.numbers.isSome = true → occasion.KeepsNumbers) {value : Unit × System Chronicle}
    (run : occasion.act (.level .silent rounds) office.system = some value) :
    Effects terms .world (Post.duties posts) office.system
        (Post.duties (posts ++ value.2.works.map FollowUp.post)) value.2 ∧
      AllAtPosts terms rounds (posts ++ value.2.works.map FollowUp.post)
        (Office.absorb { office with system := value.2 }) := by
  have effects := occasion.effects allAtPosts.orderly allAtPosts.resting allAtPosts.works agreed
    value.1 value.2 run
  exact @posted _ _ _ _ allAtPosts _ posts { office with system := value.2 } allAtPosts.tasks
    (fun post among => (allAtPosts.ready among).later effects.later) effects

theorem step (allAtPosts : AllAtPosts terms rounds posts office) {occasion : Occasion}
    (agreed : terms.numbers.isSome = true → occasion.KeepsNumbers)
    (moved : office.step rounds occasion = some after) :
    Shift terms rounds posts office after := by
  have acted {value : Unit × System Chronicle}
      (run : occasion.act (.level .silent rounds) office.system = some value) :
      Shift terms rounds posts office (Office.absorb { office with system := value.2 }) := by
    obtain ⟨effects, allAtPosts⟩ := allAtPosts.acted agreed run
    exact ⟨.world, value.2, _, effects, rfl, allAtPosts⟩
  unfold Office.step at moved
  cases occasion with
  | start operation =>
    cases moved
    refine @shift _ _ _ _ allAtPosts .world (posts ++ [⟨[], operation.program⟩])
      { office with tasks := office.tasks ++ [operation.program] } ?_ (fun post among => ?_) ?_
    · rw [List.map_append, allAtPosts.tasks]
      rfl
    · rcases List.mem_append.mp among with old | new
      · exact allAtPosts.ready old
      · obtain rfl := List.mem_singleton.mp new
        exact ⟨resting_nil, fun _ _ => operation.safe rfl⟩
    · rw [allAtPosts.works, Post.duties_append]
      exact .single (.shuffle (by simp [Post.duties]))
  | resume position =>
    obtain ⟨now, resumed, rfl⟩ := Option.map_eq_some_iff.mp moved
    obtain ⟨subject, others, effects, tasks, ready⟩ := allAtPosts.resume resumed
    refine @shift _ _ _ _ allAtPosts (.task subject) others now tasks ready ?_
    rw [effects.works.trans allAtPosts.works]
    exact effects
  | _ =>
    obtain ⟨now, mapped, rfl⟩ := Option.map_eq_some_iff.mp moved
    obtain ⟨value, run, rfl⟩ := Option.map_eq_some_iff.mp mapped
    exact acted run

end AllAtPosts

theorem Effects.keep_orderly {actor : Actor} {duties others : List Duty}
    {before after : System Chronicle} (effects : Effects terms actor duties before others after)
    (orderly : Orderly terms duties before) {keeps : List Duty → System Chronicle → Prop}
    (each : ∀ {actor duties others before after}, Effect terms actor duties before others after →
      Orderly terms duties before → keeps duties before → keeps others after)
    (holds : keeps duties before) : keeps others after := by
  let both (duties : List Duty) (system : System Chronicle) : Prop :=
    Orderly terms duties system ∧ keeps duties system
  have kept : both others after := by
    refine @Effects.keep _ _ _ _ _ _ both effects (fun effect sofar => ?_) ⟨orderly, holds⟩
    exact ⟨effect.orderly sofar.1, each effect sofar.1 sofar.2⟩
  exact kept.2

theorem Shift.keep {posts : List Post} {office after : Office}
    (shift : Shift terms rounds posts office after)
    (orderly : Orderly terms (Post.duties posts) office.system)
    {keeps : List Duty → System Chronicle → Prop}
    (each : ∀ {actor duties others before after}, Effect terms actor duties before others after →
      Orderly terms duties before → keeps duties before → keeps others after)
    (holds : keeps (Post.duties posts) office.system) :
    ∃ others, AllAtPosts terms rounds others after ∧ keeps (Post.duties others) after.system := by
  obtain ⟨actor, now, others, effects, last, allAtPosts⟩ := shift
  have kept := effects.keep_orderly orderly each holds
  refine ⟨others, allAtPosts, ?_⟩
  rw [last]
  exact each (.signal []) (effects.orderly orderly) kept

/-- What each effect keeps holds at every occasion of a run. -/
theorem AllAtPosts.run {posts : List Post} {office after : Office}
    (allAtPosts : AllAtPosts terms rounds posts office) {occasions : List Occasion}
    (agreed : terms.numbers.isSome = true → ∀ occasion ∈ occasions, occasion.KeepsNumbers)
    (moved : office.run rounds occasions = some after)
    {keeps : List Duty → System Chronicle → Prop}
    (each : ∀ {actor duties others before after}, Effect terms actor duties before others after →
      Orderly terms duties before → keeps duties before → keeps others after)
    (holds : keeps (Post.duties posts) office.system) :
    ∃ others, AllAtPosts terms rounds others after ∧ keeps (Post.duties others) after.system := by
  induction occasions generalizing posts office with
  | nil =>
    cases moved
    exact ⟨posts, allAtPosts, holds⟩
  | cons occasion rest ih =>
    rw [Office.run_cons] at moved
    obtain ⟨next, stepped, moved⟩ := Option.bind_eq_some_iff.mp moved
    have shift := allAtPosts.step (fun known => agreed known occasion List.mem_cons_self) stepped
    obtain ⟨others, allAtPosts, holds⟩ := shift.keep allAtPosts.orderly each holds
    exact ih allAtPosts (fun known other among => agreed known other (.tail _ among)) moved holds

def Terms.ofOpening (settings : Settings) (device : Device) (fixed : Bool) : Terms where
  settings
  ident slot := (device.phone slot).id
  numbers := if fixed then some device.emergencyNumbers else none

theorem AllAtPosts.opening (settings : Settings) (device : Device) (fixed : Bool) :
    AllAtPosts (.ofOpening settings device fixed) rounds [] (.opening settings device) where
  tasks := rfl
  ready := nofun
  works := rfl
  orderly := by
    have absent (id : ConnectionId) :
        (Office.opening settings device).system.connection id = .absent := by
      cases id <;> rfl
    exact {
      rest := by
        refine ⟨fun id => ?_, fun id => ?_⟩
        · rw [absent]
          exact Connection.steady_absent
        · rw [absent]
          rfl
      attended := rfl
      settings := rfl
      ident := fun _ => rfl
      numbers := fun agreed => by
        simp only [Terms.ofOpening] at agreed
        split at agreed
        · exact Option.some.inj agreed
        · cases agreed
      listeners := fun id => by rw [absent]; exact List.nodup_nil
      bare := fun id _ => by rw [absent]; rfl
      shown := fun id _ => by rw [absent]; rfl
      known := nofun
      single := fun _ => Nat.zero_le _
      free := nofun
      selection := fun id on => by rw [absent] at on; cases on
      reselection := nofun
      answers := fun ⟨_, among, _⟩ => by cases among
      early := fun ⟨_, among, _⟩ => by cases among
      asked := nofun
      received := nofun
      owned := fun held => by rw [absent] at held; cases held
      last := fun tied => by cases tied
      attached := fun tied => by cases tied }

end Switchboard
