import Mathlib.Data.List.GetD
import Switchboard.Proofs.TaskNotes

/-! Rejecting calls that ring. Whoever rejects a call has looked at it before, and it was ringing. A
caller in an emergency looks once, and then rejects the calls one after the other; in between
anything may happen. So a call is ringing when it is rejected exactly if it has been ringing all the
time since it was looked at (`Office.reject_rings_iff`). -/

namespace Switchboard

variable {rounds : Nat} {id : ConnectionId} {start before after last looked now : System Chronicle}
  {trace : Trace} {calls : ConnectionId → Prop}

/-- The call is ringing, on the same binding as when it was looked at. -/
def System.StillRings (looked now : System Chronicle) (id : ConnectionId) : Prop :=
  (now.connection id).generation = (looked.connection id).generation ∧
    (now.connection id).published.state = .ringing

/-- With this step somebody asks that a call be rejected. -/
def Rejects (step : System Chronicle × System Chronicle) : Prop :=
  ∃ leg, step.2.outside = .asked (.command leg .reject) :: step.1.outside

namespace System

theorem Balanced.standing (balanced : now.Balanced) (id : ConnectionId) :
    (now.connection id).standing = (now.connection id).published.state := by
  rw [Connection.standing]
  cases gone : (now.connection id).destroyed with
  | true => exact (balanced.shown id gone).symm
  | false => exact (balanced.rest.alive gone).1.symm

theorem StillRings.between {middle : System Chronicle} (rings : looked.StillRings last id)
    (balanced : looked.Balanced) (halfway : middle.Balanced) (final : last.Balanced)
    (rang : (looked.connection id).published.state = .ringing)
    (first : (looked.connection id).Persists (middle.connection id))
    (rest : (middle.connection id).Persists (last.connection id)) : looked.StillRings middle id :=
      by
  have early := first.generation
  have late := rest.generation
  have same := rings.1
  have leads := first.leads (by omega) (balanced.plain id)
  have onward := rest.leads (by omega) (halfway.plain id)
  rw [balanced.standing, halfway.standing] at leads
  rw [halfway.standing, final.standing, rings.2] at onward
  refine ⟨by omega, (leads.ringing rang).resolve_right fun past => ?_⟩
  cases onward.past past

end System

namespace Reaches

theorem persists (reaches : Reaches rounds start trace last) (balanced : start.Balanced)
    (known : start.Known id) :
    (start.connection id).Persists (last.connection id) ∧ ∀ step ∈ trace, step.2.Balanced ∧
      (start.connection id).Persists (step.2.connection id) ∧
        (step.2.connection id).Persists (last.connection id) := by
  induction reaches with
  | refl => exact ⟨.refl _, fun _ among => absurd among List.not_mem_nil⟩
  | @absorb past before reaches ih =>
    have same : System.connection { before with signals := [] } id = before.connection id := by
      cases id <;> rfl
    rw [same]
    exact ih
  | step reaches happens ih =>
    obtain ⟨sofar, steps⟩ := ih
    have standing := balanced.reaches reaches
    have known := (reaches.since balanced).known known
    have here := ((happens.stepOutcome standing.rest).calls id).resolve_right fun new => new.1 known
    refine ⟨sofar.trans here, fun step among => ?_⟩
    rcases List.mem_append.mp among with old | new
    · obtain ⟨balanced, early, late⟩ := steps step old
      exact ⟨balanced, early, late.trans here⟩
    · rw [List.mem_singleton.mp new]
      exact ⟨standing.happens happens, sofar.trans here, .refl _⟩

theorem arrives (reaches : Reaches rounds start trace last) (id : ConnectionId) :
    last.connection id = start.connection id ∨
      ∃ step ∈ trace, last.connection id = step.2.connection id := by
  induction reaches with
  | refl => exact .inl rfl
  | @absorb past before _ ih =>
    have same : System.connection { before with signals := [] } id = before.connection id := by
      cases id <;> rfl
    rw [same]
    exact ih
  | step _ _ _ => exact .inr ⟨_, List.mem_append_right _ (List.mem_singleton_self _), rfl⟩

theorem stillRings_iff (reaches : Reaches rounds start trace last) (balanced : start.Balanced)
    (rang : (start.connection id).published.state = .ringing) :
    start.StillRings last id ↔ ∀ step ∈ trace, start.StillRings step.2 id := by
  have known : start.Known id := by
    by_contra strange
    rw [start.connection_of_not_known strange] at rang
    cases rang
  have final := balanced.reaches reaches
  constructor
  · intro rings step among
    obtain ⟨halfway, early, late⟩ := (reaches.persists balanced known).2 step among
    exact rings.between balanced halfway final rang early late
  · intro rings
    rcases reaches.arrives id with same | ⟨step, among, same⟩
    · exact ⟨by rw [same], by rw [same, rang]⟩
    · rw [System.StillRings, same]
      exact rings step among

theorem onward {past rest : Trace} (reaches : Reaches rounds start trace last)
    (split : trace = past ++ (before, after) :: rest) : Reaches rounds after rest last := by
  induction reaches generalizing rest with
  | refl => exact absurd split.symm (by simp)
  | absorb _ ih => exact (ih split).absorb
  | @step sofar here next _ happens ih =>
    rcases List.eq_nil_or_concat rest with rfl | ⟨rest, final, rfl⟩
    · obtain ⟨-, same⟩ := List.append_inj' split rfl
      cases same
      exact .refl
    · have longer : sofar ++ [(here, next)] = (past ++ (before, after) :: rest) ++ [final] := by
        simpa using split
      obtain ⟨earlier, same⟩ := List.append_inj' longer rfl
      cases same
      rw [List.concat_eq_append]
      exact (ih earlier).step happens

end Reaches

def Considered (past : History) (before after : System Chronicle) : Prop :=
  ∀ leg, after.outside = .asked (.command leg .reject) :: before.outside →
    ∃ id early looked late, past.steps = early ++ (looked, looked) :: late ∧
      (before.connection id).leg = some leg ∧ (looked.connection id).published.state = .ringing ∧
        ((before.connection id).published.state = .ringing ∨ ∃ step ∈ late, Rejects step)

def Note.IsNoReject (note : Note) : Prop :=
  ∀ leg, note ≠ .asked (.command leg .reject)

theorem Note.isNoReject_of_isRoutine (note : Note) (routine : note.isRoutine = true) :
    note.IsNoReject := by
  rintro leg rfl
  cases routine

theorem TellsAllowed.chooses_isNoReject (id : ConnectionId) :
    Act.Chooses id (TellsAllowed rounds Note.IsNoReject) :=
  chooses Note.isNoReject_of_isRoutine (fun _ _ _ _ => nofun) (fun _ _ => nofun) fun _ _ => nofun

theorem considered_of_isNoReject {past : History} {before after : System Chronicle}
    (noReject : ∀ note, after.outside = note :: before.outside → note.IsNoReject) :
    Considered past before after :=
  fun leg asked => absurd rfl (noReject _ asked leg)

namespace ProgramPoint

def HasLooked (calls : ConnectionId → Prop) (now : ProgramPoint Unit) : Prop :=
  ∃ early looked late, now.history.steps = early ++ (looked, looked) :: late ∧
    (∀ id, calls id → (looked.connection id).published.state = .ringing) ∧
      (now.system = looked ∨ ∃ step ∈ late, Rejects step)

def HasRejected (calls : ConnectionId → Prop) (now : ProgramPoint Unit) : Prop :=
  ∃ early looked late, now.history.steps = early ++ (looked, looked) :: late ∧
    (∀ id, calls id → (looked.connection id).published.state = .ringing) ∧
      ∃ step ∈ late, Rejects step

variable {point : ProgramPoint Unit}

theorem HasRejected.hasLooked (rejected : point.HasRejected calls) : point.HasLooked calls := by
  obtain ⟨early, looked, late, split, rang, rejects⟩ := rejected
  exact ⟨early, looked, late, split, rang, .inr rejects⟩

theorem hasLooked_own (rings : ∀ id, calls id →
      (point.system.connection id).published.state = .ringing) :
    (point.own point.system).HasLooked calls :=
  ⟨point.history.steps, point.system, [], ProgramPoint.steps_own _ _, rings, .inl rfl⟩

theorem HasLooked.own (looks : point.HasLooked calls) :
    (point.own point.system).HasLooked calls := by
  obtain ⟨early, looked, late, split, rang, since⟩ := looks
  refine ⟨early, looked, late ++ [(point.system, point.system)], by simp [split], rang, ?_⟩
  exact since.imp_right fun ⟨step, among, rejects⟩ => ⟨step, List.mem_append_left _ among, rejects⟩

theorem HasLooked.rejects (looks : point.HasLooked calls) (asks : Rejects (point.system, after)) :
    (point.own after).HasRejected calls := by
  obtain ⟨early, looked, late, split, rang, since⟩ := looks
  exact ⟨early, looked, late ++ [(point.system, after)], by simp [split], rang, _,
    List.mem_append_right _ (List.mem_singleton_self _), asks⟩

theorem HasLooked.considered (looks : point.HasLooked calls) (mine : calls id) {leg : LegId}
    (bound : (point.system.connection id).leg = some leg) :
    Considered point.history point.system
      (point.system.noting (.asked (.command leg .reject))) := by
  intro other asked
  cases List.head_eq_of_cons_eq asked
  obtain ⟨early, looked, late, split, rang, since⟩ := looks
  refine ⟨id, early, looked, late, split, bound, rang id mine, since.imp_left fun same => ?_⟩
  rw [same]
  exact rang id mine

theorem Lasting.hasRejected {allowed : Note → Prop} (calls : ConnectionId → Prop) :
    Lasting rounds allowed (HasRejected calls) where
  own {now after} holds _ _ _ := by
    obtain ⟨early, looked, late, split, rang, step, among, rejects⟩ := holds
    exact ⟨early, looked, late ++ [(now.system, after)], by simp [split], rang, step,
      List.mem_append_left _ among, rejects⟩
  meanwhile {now more later} holds _ _ := by
    obtain ⟨early, looked, late, split, rang, step, among, rejects⟩ := holds
    exact ⟨early, looked, late ++ more, by simp [split], rang, step,
      List.mem_append_left _ among, rejects⟩

end ProgramPoint

namespace Program.Guarantees

variable {point : ProgramPoint Unit}

theorem reject (looks : point.HasLooked calls) (mine : calls id) :
    (Program.reject openWorld id).Guarantees rounds HoldsNothing Considered
      (fun _ now => now.HasLooked calls) point := by
  refine bind (call considered_of_isNoReject fun _ => ?_)
  cases bound : (point.system.connection id).leg with
  | none => exact looks.own
  | some leg =>
    have rejected : ProgramPoint.Lasting rounds Note.IsNoReject (ProgramPoint.HasRejected calls) :=
      .hasRejected calls
    refine bind (mono (command considered_of_isNoReject rejected Note.isNoReject_of_isRoutine
      fun _ => ⟨looks.own.own.considered mine bound, looks.own.own.rejects ⟨leg, rfl⟩⟩)
      fun answer now here => ?_)
    have ends (info : DisconnectInfo) :
        (Program.disconnect id info).Guarantees rounds HoldsNothing Considered
          (fun _ => ProgramPoint.HasRejected calls) now :=
      quietly considered_of_isNoReject rejected
        (.of_uses (Uses.disconnect (TellsAllowed.permits Note.isNoReject_of_isRoutine) id info) _)
        here
    cases answer <;> exact bind (mono (ends _) fun _ _ here => here.hasLooked)

theorem rejectCall : (Program.rejectCall openWorld id).Guarantees rounds HoldsNothing Considered
    (fun _ _ => True) point := by
  refine bind (look considered_of_isNoReject fun _ => ?_)
  dsimp only
  split
  case isFalse => trivial
  change (Program.call id >>= _).Guarantees _ _ _ _ _
  refine call considered_of_isNoReject fun _ => ?_
  split
  · trivial
  rename_i ringing
  refine mono (@reject rounds id (· = id) _ (ProgramPoint.hasLooked_own ?_) rfl)
    fun _ _ _ => trivial
  rintro other rfl
  simpa using ringing

theorem prepareForEmergency (phone : PhoneId) (carrier : CarrierConfig) :
    (Program.prepareForEmergency openWorld id phone carrier).Guarantees rounds
      HoldsNothing Considered (fun _ _ => True) point := by
  refine look considered_of_isNoReject fun _ => ?_
  let ringing := point.system.ringing id
  have row (items : List ConnectionId) (listed : ∀ call ∈ items, call ∈ ringing)
      {now : ProgramPoint Unit} (looks : now.HasLooked (· ∈ ringing)) :
      (Program.forEach (fun call => do let _ ← Program.reject openWorld call) items).Guarantees
        rounds HoldsNothing Considered (fun _ _ => True) now := by
    induction items generalizing now with
    | nil => trivial
    | cons call rest ih =>
      refine bind
        (bind (mono (reject looks (listed call List.mem_cons_self)) fun _ now looks => ?_))
      exact ih (fun call among => listed call (.tail _ among)) looks
  have permits : Act.Permits fun step => ∀ system,
      TellsAllowed rounds Note.IsNoReject system step :=
    TellsAllowed.permits Note.isNoReject_of_isRoutine
  have looked : (point.own point.system).HasLooked (· ∈ ringing) :=
    ProgramPoint.hasLooked_own fun call among => by
      have shown := (List.mem_filter.mp among).2
      simp only [Bool.and_eq_true, beq_iff_eq] at shown
      exact shown.2
  refine bind (mono (row ringing (fun _ among => among) looked) fun _ now _ => ?_)
  refine quietly considered_of_isNoReject .always (.of_uses ?_ _) trivial
  refine .bind (.forEach _ fun call => ?_) fun _ => .bind (.system permits) fun now => ?_
  · exact .bind (.system permits) fun _ => .bind (.waitForState permits call _ _) fun _ => .pure _
  · split
    · exact .bind (.switchData permits _ phone) fun _ => .pure _
    · exact .pure _

theorem complete (placement : Placement) :
    (Program.complete openWorld id placement).Guarantees rounds HoldsNothing Considered
      (fun _ _ => True) point := by
  have permits : Act.Permits fun step => ∀ system,
      TellsAllowed rounds Note.IsNoReject system step :=
    TellsAllowed.permits Note.isNoReject_of_isRoutine
  have chooses : Act.Chooses id (TellsAllowed rounds Note.IsNoReject) :=
    TellsAllowed.chooses_isNoReject id
  have goes {now : ProgramPoint Unit} :
      (Program.chooseAndDial openWorld id placement).Guarantees rounds HoldsNothing Considered
        (fun _ _ => True) now :=
    quietly considered_of_isNoReject .always (.chooseAndDial chooses placement) trivial
  rw [complete_eq]
  have radio := Uses.ensureRadio permits id placement.slot placement.number.emergency
  refine bind (mono (quietly considered_of_isNoReject .always (.of_uses radio _) trivial)
    fun answer now _ => ?_)
  cases answer with
  | some answer => trivial
  | none =>
    dsimp only
    split
    · refine bind (mono (prepareForEmergency _ _) fun _ now _ => bind ?_)
      refine mono
        (quietly considered_of_isNoReject .always (.of_uses (Uses.isLive permits id) _) trivial)
        fun live now _ => ?_
      cases live with
      | true => exact goes
      | false =>
        have gone := Uses.gone permits id
        exact bind (quietly considered_of_isNoReject .always (.of_uses gone _) trivial)
    · exact goes

theorem place (request : CallRequest) :
    (Program.place openWorld request).Guarantees rounds HoldsNothing Considered
      (fun _ _ => True) point := by
  have permits : Act.Permits fun step => ∀ system,
      TellsAllowed rounds Note.IsNoReject system step :=
    TellsAllowed.permits Note.isNoReject_of_isRoutine
  have quiet {α : Type} {program : Program Chronicle α} {now : ProgramPoint Unit}
      (uses : program.Uses fun step => ∀ system, TellsAllowed rounds Note.IsNoReject system step)
      (_ : True) : program.Guarantees rounds HoldsNothing Considered (fun _ _ => True) now :=
    quietly considered_of_isNoReject .always (.of_uses uses _) trivial
  refine placing permits quiet (fun _ _ => trivial) (fun _ _ => ?_) trivial
  refine bind fun balanced value after run => ⟨considered_of_isNoReject fun note told => ?_, ?_⟩
  · obtain ⟨-, stays⟩ := @Act.enroll_stays (fun _ => False) _ _ balanced.rest _ _ _ _ run
    exact absurd (stays.outside.symm.trans told).symm (List.cons_ne_self _ _)
  · exact complete _

end Program.Guarantees

theorem Operation.considered (operation : Operation) {point : ProgramPoint Unit} :
    operation.program.Guarantees rounds HoldsNothing Considered (fun _ _ => True) point := by
  have permits : Act.Permits fun step => ∀ system,
      TellsAllowed rounds Note.IsNoReject system step :=
    TellsAllowed.permits Note.isNoReject_of_isRoutine
  by_cases placing : ∃ request, operation = .place request
  · obtain ⟨request, rfl⟩ := placing
    exact .bind (.mono (.place request) fun _ _ _ => trivial)
  by_cases rejecting : ∃ id, operation = .reject id
  · obtain ⟨id, rfl⟩ := rejecting
    exact .bind (.mono .rejectCall fun _ _ _ => trivial)
  · refine .quietly considered_of_isNoReject .always (.of_uses ?_ _) trivial
    refine .operation permits (fun request same => placing ⟨request, same⟩) (fun leg video _ => ?_)
      fun {id} same => absurd ⟨id, same⟩ rejecting
    exact .of_note (.note rfl) fun _ => nofun

theorem FollowUp.considered (work : FollowUp) {point : ProgramPoint Unit} :
    work.program.Guarantees rounds HoldsNothing Considered (fun _ _ => True) point := by
  have chooses (id : ConnectionId) : Act.Chooses id (TellsAllowed rounds Note.IsNoReject) :=
    TellsAllowed.chooses_isNoReject id
  refine .quietly considered_of_isNoReject .always ?_ trivial
  cases work with
  | redial id failed permanent =>
    exact .bind (.atOnce ((chooses id).rounds _)) fun patience _ =>
      .redialFrom (chooses id).toSeeks patience failed permanent
  | reselect id cause code => exact .reselectFrom (chooses id) _ cause code
  | errand number => trivial

theorem OfficeContract.considered (rounds : Nat) :
    OfficeContract rounds HoldsNothing Considered (fun _ => ()) where
  absorb _ := trivial
  occasion _ _ _ _ _ _ _ _ := trivial
  operation operation _ _ := operation.considered.mono fun _ _ _ => trivial
  followUp work _ _ := work.considered.mono fun _ _ _ => trivial

namespace Office

variable {settings : Settings} {device : Device} {occasions : List Occasion} {office : Office}
  {past rest : Trace} {leg : LegId}

/-- A call that is rejected was looked at before, when it was ringing. If no call has been rejected
since, it is ringing still; in any case it is, on the binding that was looked at, exactly if it has
been after every step since. -/
theorem reject_rings_iff
    (reached : (opening settings device).run rounds occasions = some office)
    (split : (opening settings device).trace rounds occasions = past ++ (before, after) :: rest)
    (rejects : after.outside = .asked (.command leg .reject) :: before.outside) :
    ∃ id early looked late, past = early ++ (looked, looked) :: late ∧
      (before.connection id).leg = some leg ∧ (looked.connection id).published.state = .ringing ∧
      ((∀ step ∈ late, ¬ Rejects step) → (before.connection id).published.state = .ringing) ∧
      (looked.StillRings before id ↔ ∀ step ∈ late, looked.StillRings step.2 id) := by
  have balanced := System.Balanced.opening settings device
  have reaches := ((reaches_trace reached).sofar split).1
  rcases (allGuarantee (OfficeContract.considered rounds) trivial reached).1 split with
    ⟨occasion, run⟩ | ⟨history, ⟨more, sofar⟩, considered⟩
  · exact absurd rejects (occasion.unasked (balanced.reaches reaches).rest _ _ run _)
  obtain ⟨id, early, looked, late, looks, bound, rang, rings⟩ := considered leg rejects
  rw [looks, ← List.append_assoc] at sofar
  have standing := balanced.reaches (reaches.sofar sofar.symm).1
  refine ⟨id, more ++ early, looked, late, sofar.symm, bound, rang, fun none => ?_,
    (reaches.onward sofar.symm).stillRings_iff standing rang⟩
  exact rings.resolve_right fun ⟨step, among, rejects⟩ => none step among rejects

/-- Two calls are ringing when there is an emergency. The second is answered while the first is
being rejected, and is rejected after it. -/
def pickedUp : List Occasion := [
  .ring ⟨0⟩ { state := .ringing, technology := .gsm },
  .ring ⟨0⟩ { state := .ringing, technology := .gsm },
  .start (.place { address := "911" }),
  .resume 0,
  .report ⟨1⟩ (.stateChanged .active),
  .reply 2 .done,
  .resume 0,
  .reply 6 .done,
  .resume 0]

theorem pickedUp_rejects : ∃ office past before after rest,
    (opening {} Roster.lonePhone).run 20 pickedUp = some office ∧
      (opening {} Roster.lonePhone).trace 20 pickedUp = past ++ (before, after) :: rest ∧
      after.outside = .asked (.command ⟨1⟩ .reject) :: before.outside ∧
      (∀ id, (before.connection id).leg = some ⟨1⟩ ↔ id = .issued 1) ∧
      (before.connection (.issued 1)).published.state = .active ∧
      (office.system.connection (.issued 1)).ended = some (.ofCause .incomingRejected) := by
  have runs : ((opening {} Roster.lonePhone).run 20 pickedUp).any (fun office =>
      (office.system.connection (.issued 1)).ended ==
        some (.ofCause .incomingRejected)) = true := by
    decide +kernel
  have rejects : ((opening {} Roster.lonePhone).trace 20 pickedUp).any (fun step => decide (
      step.2.outside = .asked (.command ⟨1⟩ .reject) :: step.1.outside ∧
        (step.1.connection (.issued 1)).published.state = .active ∧
        step.1.connections.map (·.leg) = [none, some ⟨1⟩, none])) = true := by decide +kernel
  obtain ⟨office, reached, ended⟩ := (Option.any_eq_true _ _).mp runs
  obtain ⟨⟨before, after⟩, among, shown⟩ := List.any_eq_true.mp rejects
  obtain ⟨past, rest, split⟩ := List.append_of_mem among
  obtain ⟨rejects, active, legs⟩ := of_decide_eq_true shown
  refine ⟨office, past, before, after, rest, reached, split, rejects, fun id => ?_, active,
    eq_of_beq ended⟩
  cases id with
  | outsider value => exact iff_of_false nofun nofun
  | issued serial =>
    have held : (before.connection (.issued serial)).leg =
        (before.connections.map (·.leg)).getD serial none :=
      (List.getD_map _ Connection.absent (·.leg)).symm
    rw [held, legs]
    rcases serial with - | - | - | serial <;> simp

/-- The call that is rejected was ringing when it was looked at, and has stopped ringing since. -/
theorem pickedUp_stops_ringing : ∃ office past before after rest early looked late,
    (opening {} Roster.lonePhone).run 20 pickedUp = some office ∧
      (opening {} Roster.lonePhone).trace 20 pickedUp = past ++ (before, after) :: rest ∧
      after.outside = .asked (.command ⟨1⟩ .reject) :: before.outside ∧
      past = early ++ (looked, looked) :: late ∧
      (looked.connection (.issued 1)).published.state = .ringing ∧
      ¬ ∀ step ∈ late, looked.StillRings step.2 (.issued 1) := by
  obtain ⟨office, past, before, after, rest, reached, split, rejects, holder, active, -⟩ :=
    pickedUp_rejects
  obtain ⟨id, early, looked, late, sofar, bound, rang, -, iff⟩ :=
    reject_rings_iff reached split rejects
  obtain rfl := (holder id).mp bound
  refine ⟨office, past, before, after, rest, early, looked, late, reached, split,
    rejects, sofar, rang,
    fun rings => ?_⟩
  have rings := (iff.mpr rings).2
  rw [active] at rings
  cases rings

/-- A call that is up is rejected for an emergency, and ends as if it had never been answered. -/
theorem pickedUp_cut_short : ∃ office past before after rest,
    (opening {} Roster.lonePhone).run 20 pickedUp = some office ∧
      (opening {} Roster.lonePhone).trace 20 pickedUp = past ++ (before, after) :: rest ∧
      after.outside = .asked (.command ⟨1⟩ .reject) :: before.outside ∧
      (before.connection (.issued 1)).leg = some ⟨1⟩ ∧
      (before.connection (.issued 1)).published.state = .active ∧
      (office.system.connection (.issued 1)).ended = some (.ofCause .incomingRejected) := by
  obtain ⟨office, past, before, after, rest, reached, split, rejects, holder, active, ended⟩ :=
    pickedUp_rejects
  exact ⟨office, past, before, after, rest, reached, split, rejects, (holder _).mpr rfl,
    active, ended⟩

end Office
end Switchboard
