import Switchboard.Proofs.CrossSubscription
import Switchboard.Proofs.TaskNotes

/-! Room for an answer. Before a ringing call is answered, the calls on other phones are hung up, or
held, one after the other; each of these takes time, in which anything may happen. The call is
answered only while it is still ringing, and by then each of the others has ended, or has been held
since. -/

namespace Switchboard

variable {rounds : Nat} {id : ConnectionId} {video : VideoState} {start last : System Chronicle}
  {allowed : Note → Prop} {good : History → System Chronicle → System Chronicle → Prop}
  {now : ProgramPoint Unit}

/-- The others that were up on other phones have ended; where calls on several subscriptions can be
up together, only those that were active have to, unless they have been held since. -/
def ProgramPoint.HasRoom (start : System Chronicle) (id : ConnectionId) (now : ProgramPoint Unit) :
    Prop :=
  ∀ other, start.Up other → (start.connection other).phone ≠ (start.connection id).phone →
    if start.device.isConcurrent then
      (start.connection other).published.state = .active →
        now.HasEnded other ∨ now.HasShown other .holding
    else now.HasEnded other

theorem ProgramPoint.Lasting.hasRoom (start : System Chronicle) (id : ConnectionId) :
    Lasting rounds allowed (HasRoom start id) := by
  refine .every fun other => .every fun _ => .every fun _ => ?_
  by_cases concurrent : start.device.isConcurrent = true
  · simp only [concurrent, if_true]
    exact .every fun _ => (Lasting.hasEnded other).or (.hasShown other .holding)
  · simp only [concurrent]
    exact .hasEnded other

/-- The program asks that a call be answered. -/
def HistoryStep.Answers (entry : HistoryStep) : Prop :=
  entry.own = true ∧ ∃ leg video, entry.after.outside =
    .asked (.command leg (.answer video)) :: entry.before.outside

namespace Program.Guarantees

section
variable (free : ∀ {past : History} {before after : System Chronicle},
  (∀ note, after.outside = note :: before.outside → allowed note) → good past before after)
include free

theorem waitForState (wanted : CallState → Bool) (limit : Nat) (known : now.system.Known id) :
    (Program.waitForState id wanted limit).Guarantees rounds HoldsNothing good (fun outcome now =>
      now.system.Known id ∧ match outcome with
        | .reached => wanted (now.system.connection id).published.state = true
        | .cancelled => (now.system.connection id).published.state = .disconnected
        | .timedOut => True) now := by
  refine bind (bind (bind (look free fun balanced => ?_)))
  refine fun _ => ⟨(), trivial, fun _ more later reaches _ => ?_⟩
  have known : later.Known id := (reaches.since balanced).known known
  refine ⟨fun outcome ready => ⟨known, ?_⟩, fun _ => ⟨known, trivial⟩⟩
  have watched := ((balanced.reaches reaches).rest.steady id).watched
  change WaitOutcome.ofState? wanted (later.connection id).watched = some outcome at ready
  rw [WaitOutcome.ofState?, watched] at ready
  split at ready
  · rename_i yes
    cases ready
    exact yes
  split at ready
  · rename_i ended
    cases ready
    exact eq_of_beq ended
  · cases ready

variable (routine : ∀ note : Note, note.isRoutine = true → allowed note)
include routine

theorem disconnect (known : now.system.Known id) (info : DisconnectInfo) :
    (Program.disconnect id info).Guarantees rounds HoldsNothing good
      (fun _ now => now.HasEnded id) now := by
  refine atOnce fun balanced value after run => ?_
  have tellsAllowed : TellsAllowed rounds allowed now.system (Act.setDisconnected id info) :=
    (TellsAllowed.permits routine).disconnect id info now.system
  have happens : Happens rounds now.system after := .taskStep tellsAllowed.taskStep run
  have ripple :=
    Act.ripple_setDisconnected (Wiring.ripples_notes rounds) balanced.rest id info value
    after run
  have gone : (after.connection id).destroyed = true :=
    (ripple.destroyed id).trans (balanced.rest.destroyed_ending id info)
  exact ⟨free (tellsAllowed.tells balanced.rest value after run),
    (happens.stepOutcome balanced.rest).lasts.known known, (balanced.happens happens).shown id gone⟩

theorem hangup (known : now.system.Known id) (cause : DisconnectCause) :
    (Program.hangup openWorld id cause).Guarantees rounds HoldsNothing good
      (fun _ now => now.HasEnded id) now := by
  refine call free fun balanced => ?_
  split
  · rename_i finished
    have gone : (now.system.connection id).destroyed = true :=
      balanced.rest.destroyed_of_not_live (by simpa using finished)
    exact ⟨known, balanced.shown id gone⟩
  split
  · exact disconnect free routine known _
  · rename_i leg _
    have command : (openWorld.command leg .hangup).Uses fun step =>
        ∀ system, TellsAllowed rounds allowed system step :=
          .hangupLeg (TellsAllowed.permits routine) leg
    refine bind
      (mono (quietly free (.known id) (.of_uses command _) known) fun answer now known => ?_)
    cases answer <;> exact disconnect free routine known _

theorem confirmHold (known : now.system.Known id) :
    (Program.confirmHold openWorld id).Guarantees rounds HoldsNothing good
      (fun _ now => now.HasEnded id ∨ now.HasShown id .holding) now := by
  refine look free fun _ => bind (mono (waitForState free _ _ known) fun outcome now waited => ?_)
  obtain ⟨known, how⟩ := waited
  cases outcome with
  | reached => exact .inr (.inr (eq_of_beq how))
  | cancelled => exact .inl ⟨known, how⟩
  | timedOut => exact (hangup free routine known _).mono fun _ _ ended => .inl ended

theorem hangupAll (others : List ConnectionId) (known : ∀ other ∈ others, now.system.Known other) :
    (Program.hangupAll openWorld others).Guarantees rounds HoldsNothing good
      (fun _ now => ∀ other ∈ others, now.HasEnded other) now :=
  forEach free others (fun _ => .hangup (TellsAllowed.permits routine) _ _)
    (.all others fun other => .known other) (fun other => .hasEnded other)
    (fun other among _ known => hangup free routine (known other among) _) known

theorem holdOrHangup (others : List ConnectionId)
    (known : ∀ other ∈ others, now.system.Known other) :
    (Program.holdOrHangup openWorld others).Guarantees rounds HoldsNothing good
      (fun _ after => ∀ other ∈ others, (now.system.connection other).published.state = .active →
        after.HasEnded other ∨ after.HasShown other .holding) now := by
  have permits : Act.Permits fun step => ∀ system, TellsAllowed rounds allowed system step :=
    TellsAllowed.permits routine
  refine look free fun _ => ?_
  let active := others.filter fun other => (now.system.connection other).published.state == .active
  have known : ∀ other ∈ active, now.system.Known other :=
    fun other among => known other (List.mem_of_mem_filter among)
  have asks : (Program.holdEach openWorld [] active).Uses fun step =>
      ∀ system, TellsAllowed rounds allowed system step := .holdEach permits [] active
  refine bind (mono (quietly free (.all active fun other => .known other) (.of_uses asks _) known)
    fun _ now known => ?_)
  have each (other : ConnectionId) : (Program.confirmHold openWorld other).Uses fun step =>
      ∀ system, TellsAllowed rounds allowed system step := .confirmHold permits other
  refine (forEach free active each (.all active fun other => .known other)
    (fun other => (ProgramPoint.Lasting.hasEnded other).or (.hasShown other .holding))
    (fun other among _ known => confirmHold free routine (known other among)) known).mono
    fun _ after held other among active => ?_
  exact held other (List.mem_filter.mpr ⟨among, beq_iff_eq.mpr active⟩)

theorem prepareToAnswer : (Program.prepareToAnswer openWorld id).Guarantees rounds HoldsNothing good
    (fun _ after => after.HasRoom now.system id) now := by
  refine look free fun balanced => ?_
  let phone := (now.system.connection id).phone
  have elsewhere {other : ConnectionId} (up : now.system.Up other)
      (apart : (now.system.connection other).phone ≠ phone) :
      other ∈ now.system.liveElsewhere phone id :=
    System.mem_liveElsewhere.mpr ⟨up, fun same => apart (same ▸ rfl), apart⟩
  have known : ∀ other ∈ now.system.liveElsewhere phone id, now.system.Known other := by
    intro other among
    by_contra strange
    have alive := (balanced.up_iff other).mp (System.mem_liveElsewhere.mp among).1
    rw [now.system.connection_of_not_known strange] at alive
    cases alive
  dsimp only
  split
  · rename_i nobody
    intro other up apart
    have among := elsewhere up apart
    rw [List.isEmpty_iff.mp nobody] at among
    cases among
  split
  · rename_i concurrent
    refine mono (holdOrHangup free routine _ known) fun _ after held other up apart => ?_
    rw [if_pos concurrent]
    exact held other (elsewhere up apart)
  · rename_i single
    refine mono (hangupAll free routine _ known) fun _ after ended other up apart => ?_
    rw [if_neg single]
    exact ended other (elsewhere up apart)

end

/-- Whatever is answered in the history is the call, with this video; it is ringing, and there is
room for it. -/
def Proper (start : System Chronicle) (id : ConnectionId) (video : VideoState) (past : History)
    (before after : System Chronicle) : Prop :=
  ∀ leg shown, after.outside = .asked (.command leg (.answer shown)) :: before.outside →
    shown = video ∧ (before.connection id).leg = some leg ∧
      (before.connection id).published.state = .ringing ∧
        ProgramPoint.HasRoom start id ⟨(), past, before⟩

def Told (id : ConnectionId) (result : Except CallError Unit) (now : ProgramPoint Unit) : Prop :=
  (∃ entry ∈ now.history, entry.Answers) ∧ result = .ok () ∨
    now.history.Tells (·.isRoutine = true) ∧ (result = .error (.connectionNotFound id) ∨
      ∃ operation state, result = .error (.invalidState operation state))

theorem proper_of_routine {past : History} {before after : System Chronicle}
    (routine : ∀ note, after.outside = note :: before.outside → note.isRoutine = true) :
    Proper start id video past before after := by
  intro leg shown asked
  cases routine _ asked

theorem answer (told : now.history.Tells (·.isRoutine = true)) (room : now.HasRoom start id) :
    (Program.answer openWorld id video).Guarantees rounds HoldsNothing (Proper start id video)
      (Told id) now := by
  have lasting : ProgramPoint.Lasting rounds (·.isRoutine = true) fun now =>
      now.history.Tells (·.isRoutine = true) ∧ now.HasRoom start id :=
    ProgramPoint.Lasting.told.and (.hasRoom start id)
  refine call proper_of_routine fun balanced => ?_
  have first := lasting.looked ⟨told, room⟩ balanced
  dsimp only
  split
  · exact .inr ⟨first.1, .inr ⟨_, _, rfl⟩⟩
  rename_i ringing
  have ringing : (now.system.connection id).published.state = .ringing := by simpa using ringing
  refine bind (call proper_of_routine fun balanced => ?_)
  have second := lasting.looked first balanced
  cases bound : ((now.own now.system).system.connection id).leg with
  | none => exact .inr ⟨second.1, .inr ⟨_, _, rfl⟩⟩
  | some leg =>
    have answered : ProgramPoint.Lasting rounds (·.isRoutine = true) fun now =>
        ∃ entry ∈ now.history, entry.Answers := .happened _
    refine bind (mono (command proper_of_routine answered (fun _ routine => routine)
      fun balanced => ?_) fun answer now here => ?_)
    · have third := lasting.looked second balanced
      refine ⟨fun other shown asked => ?_, _,
        List.mem_append_right _ (List.mem_singleton_self _), rfl,
        leg, video, rfl⟩
      cases List.head_eq_of_cons_eq asked
      exact ⟨rfl, bound, ringing, third.2⟩
    · cases answer with
      | ok value => exact .inl ⟨here, rfl⟩
      | error error =>
        have ends : (Program.disconnect id error.disconnectInfo).Uses fun step =>
            ∀ system, TellsAllowed rounds (·.isRoutine = true) system step :=
          .disconnect (TellsAllowed.permits fun _ routine => routine) id _
        refine bind (mono (quietly proper_of_routine answered (.of_uses ends _) here)
          fun _ _ here => ?_)
        exact .inl ⟨here, rfl⟩

theorem acceptCall : (Program.acceptCall openWorld id video).Guarantees rounds HoldsNothing
    (Proper start id video) (Told id) ⟨(), [], start⟩ := by
  have lasting : ProgramPoint.Lasting rounds (·.isRoutine = true) fun now =>
      now.history.Tells (·.isRoutine = true) := .told
  have untold : History.Tells (·.isRoutine = true) [] :=
    fun _ among => absurd among List.not_mem_nil
  refine bind (look proper_of_routine fun balanced => ?_)
  have first := lasting.looked untold balanced
  dsimp only
  split
  case isFalse => exact .inr ⟨first, .inl rfl⟩
  change (Program.call id >>= _).Guarantees _ _ _ _ _
  refine call proper_of_routine fun balanced => ?_
  have second := lasting.looked first balanced
  split
  · exact .inr ⟨second, .inr ⟨_, _, rfl⟩⟩
  have prepares : (Program.prepareToAnswer openWorld id).Uses fun step =>
      ∀ system, TellsAllowed rounds (·.isRoutine = true) system step :=
    .prepareToAnswer (TellsAllowed.permits fun _ routine => routine) id
  refine bind (mono (frame proper_of_routine lasting (.of_uses prepares _) second
    (prepareToAnswer proper_of_routine fun _ routine => routine)) fun _ now ⟨room, told⟩ => ?_)
  refine call proper_of_routine fun balanced => ?_
  have third := (lasting.and (.hasRoom start id)).looked ⟨told, room⟩ balanced
  split
  · exact .inr ⟨third.1, .inr ⟨_, _, rfl⟩⟩
  · exact answer third.1 third.2

end Program.Guarantees

namespace Office

variable {settings : Settings} {device : Device} {occasions : List Occasion} {office : Office}
  {history : History} {left : Program Chronicle (Except CallError Unit)}

/-- Somebody wants to answer a call, and anything happens meanwhile. The answer is given while the
call is ringing, and there is room for it; whoever gets another result than success hears that there
is no such call, or that its state is wrong, and has given no answer. -/
theorem answer_has_room
    (reached : (opening settings device).run rounds occasions = some office)
    (proceeds : (Program.acceptCall openWorld id video).Proceeds rounds office.system
      history left last) :
    (∀ {past rest : History} {entry : HistoryStep} {leg : LegId} {shown : VideoState},
      history = past ++ entry :: rest → entry.own = true →
        entry.after.outside = .asked (.command leg (.answer shown)) :: entry.before.outside →
          shown = video ∧ (entry.before.connection id).leg = some leg ∧
            (entry.before.connection id).published.state = .ringing ∧
            ProgramPoint.HasRoom office.system id ⟨(), past, entry.before⟩) ∧
      ∀ result, left = .done result →
        (∃ entry ∈ history, entry.Answers) ∧ result = .ok () ∨
          (∀ entry ∈ history, ¬ entry.Answers) ∧ (result = .error (.connectionNotFound id) ∨
            ∃ operation state, result = .error (.invalidState operation state)) := by
  have balanced : office.system.Balanced :=
    (System.Balanced.opening settings device).reaches (reaches_trace reached)
  have takesOnly : (Program.acceptCall openWorld id video).TakesOnly (.level .silent rounds)
      (TaskStep fun _ => True) office.system :=
    .of_uses (.acceptCall (TaskStep.permits _) id fun _ _ => .note rfl) _
  obtain ⟨proper, goes⟩ := proceeds.guarantees takesOnly balanced Program.Guarantees.acceptCall
  refine ⟨fun split own asked => proper split own _ _ asked, fun result ended => ?_⟩
  subst ended
  refine goes.imp_right fun ⟨told, why⟩ => ⟨fun entry among ⟨own, leg, shown, asked⟩ => ?_, why⟩
  cases told entry among own _ asked

/-- A call is up on the first of two phones, and another comes in on the second. -/
def secondCall : List Occasion := [
  .ring ⟨0⟩ { state := .active, technology := .gsm },
  .ring ⟨1⟩ { state := .ringing, technology := .gsm }]

def roomReplies : List (List Occasion) := [[.reply 2 .done], [.reply 5 .done]]

/-- The first call has ended by the time at which the second is answered. -/
theorem secondCall_has_room : ∃ office history past rest entry leg,
    (opening {} exclusivePhones).run 20 secondCall = some office ∧
      (∃ last,
        (Program.acceptCall openWorld (.issued 1) .audioOnly).Proceeds 20 office.system history
        (.done (.ok ())) last) ∧
      history = past ++ entry :: rest ∧
      entry.after.outside = .asked (.command leg (.answer .audioOnly)) :: entry.before.outside ∧
      (entry.before.connection (.issued 1)).published.state = .ringing ∧
      office.system.Up (.issued 0) ∧
      (entry.before.connection (.issued 0)).published.state = .disconnected := by
  have shown : ((opening {} exclusivePhones).run 20 secondCall).any (fun office =>
      !office.system.device.isConcurrent &&
        ((Program.acceptCall openWorld (.issued 1) .audioOnly).played 20 office.system
          roomReplies).any
          fun outcome => outcome.2.1.toBool && outcome.1.any fun entry => entry.own && decide (
            entry.after.outside =
              .asked (.command ⟨1⟩ (.answer .audioOnly)) :: entry.before.outside ∧
              office.system.Up (.issued 0) ∧ (office.system.connection (.issued 0)).phone ≠
                (office.system.connection (.issued 1)).phone)) = true := by
    decide +kernel
  obtain ⟨office, reached, shown⟩ := (Option.any_eq_true _ _).mp shown
  rw [Bool.and_eq_true, Bool.not_eq_true'] at shown
  obtain ⟨single, shown⟩ := shown
  obtain ⟨⟨history, result, last⟩, ends, shown⟩ := (Option.any_eq_true _ _).mp shown
  rw [Bool.and_eq_true, List.any_eq_true] at shown
  obtain ⟨fine, entry, among, shown⟩ := shown
  rw [Bool.and_eq_true] at shown
  obtain ⟨own, shown⟩ := shown
  obtain ⟨asked, up, apart⟩ := of_decide_eq_true shown
  obtain ⟨past, rest, rfl⟩ := List.append_of_mem among
  cases result with
  | error error => cases fine
  | ok value =>
    have proceeds := Program.Proceeds.begin.played ends
    obtain ⟨-, -, ringing, room⟩ := (answer_has_room reached proceeds).1 rfl own asked
    have ended := room _ up apart
    rw [if_neg (by simp [single])] at ended
    exact ⟨office, _, past, rest, entry, ⟨1⟩, reached, ⟨last, proceeds⟩, rfl, asked,
      ringing, up, ended.2⟩

end Office
end Switchboard
