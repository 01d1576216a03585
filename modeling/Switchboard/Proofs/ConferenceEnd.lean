import Switchboard.Proofs.MakingRoom

/-! Ending a conference. The members that it has at first are hung up one after the other, and each
of these takes time, in which members may end on their own, leave or join, and the conference may
shrink or be dissolved. The list is not read again, so whoever is on it has ended when the operation
returns; and as nobody who has ended is in the books, the conference goes on only for those who have
joined since: `Office.conference_adjourns`. -/

namespace Switchboard

variable {rounds : Nat} {id member : ConnectionId} {conference other : ConferenceId}
  {system start last : System Chronicle} {allowed : Note → Prop}
  {good : History → System Chronicle → System Chronicle → Prop} {now : ProgramPoint Unit}

namespace System

theorem Balanced.assembled (balanced : system.Balanced)
    (current : conference ∈ system.currentConferences) :
    (system.conference conference).members ≠ [] ∧
      ∀ member ∈ (system.conference conference).members, member ∈ system.registry.connections := by
  obtain ⟨technologies, books⟩ := balanced.books
  obtain ⟨technology, turn, here⟩ := List.mem_filterMap.mp current
  have seated : system.gathered technologies technology =
      some (system.conference conference).members := by
    rw [← books.formed technology turn, seatedAt, here, Option.map_some]
  rw [gathered] at seated
  split at seated
  case isFalse => cases seated
  rename_i enough
  rw [← Option.some.inj seated]
  refine ⟨fun empty => ?_, fun member among => List.mem_of_mem_filter among⟩
  rw [empty, List.length_nil, Technology.formsConference_zero] at enough
  cases enough

theorem Balanced.listed_iff (balanced : system.Balanced) (id : ConnectionId) :
    id ∈ system.registry.connections ↔ (system.connection id).destroyed = false :=
  balanced.books.choose_spec.alive_iff id

theorem Balanced.member_known (balanced : system.Balanced)
    (current : conference ∈ system.currentConferences)
    (among : member ∈ (system.conference conference).members) : system.Known member :=
  system.known_of_alive ((balanced.listed_iff member).mp ((balanced.assembled current).2 _ among))

theorem Balanced.conferenceOf?_member (balanced : system.Balanced)
    (current : conference ∈ system.currentConferences)
    (among : member ∈ (system.conference conference).members) :
    system.conferenceOf? member = some conference := by
  obtain ⟨technologies, books⟩ := balanced.books
  have linked {group : ConferenceId} (current : group ∈ system.currentConferences)
      (among : member ∈ (system.conference group).members) :
      (system.connection member).conference = some group := by
    obtain ⟨technology, -, here⟩ := List.mem_filterMap.mp current
    exact books.belongs here among
  cases found : system.conferenceOf? member with
  | none => exact absurd (List.contains_iff_mem.mpr among) (List.find?_eq_none.mp found _ current)
  | some group =>
    have inside := List.find?_some found
    rw [← linked (List.mem_of_find?_eq_some found) (List.contains_iff_mem.mp inside),
      linked current among]

end System

namespace Program

/-- What somebody asks for who wants the conference to end: the conference, or one of its members,
is hung up. -/
inductive Adjourns (system : System Chronicle) (conference : ConferenceId) :
    Program Chronicle (Except CallError Unit) → Prop
  | whole : Adjourns system conference (onConference (disconnectConference openWorld) conference)
  | member {id : ConnectionId} (among : id ∈ (system.conference conference).members) :
    Adjourns system conference (hangupCall openWorld id)

theorem Adjourns.uses {program : Program Chronicle (Except CallError Unit)}
    {good : {β : Type} → Act Chronicle β → Prop} (permits : Act.Permits good)
    (adjourns : program.Adjourns system conference) : program.Uses good := by
  cases adjourns with
  | whole => exact .onConference permits conference (.disconnectConference permits conference)
  | member _ => exact .onCall permits _ (.disconnectConference permits) (.hangup permits _ _)

namespace Guarantees

variable (free : ∀ {past : History} {before after : System Chronicle},
  (∀ note, after.outside = note :: before.outside → allowed note) → good past before after)
  (routine : ∀ note : Note, note.isRoutine = true → allowed note)
include free routine

theorem disconnectConference
    (known : ∀ member ∈ (now.system.conference conference).members, now.system.Known member) :
    (Program.disconnectConference openWorld conference).Guarantees rounds HoldsNothing good
      (fun _ after =>
        ∀ member ∈ (now.system.conference conference).members, after.HasEnded member) now :=
  bind (look free fun _ => hangupAll free routine _ known)

theorem adjourns {program : Program Chronicle (Except CallError Unit)}
    (adjourns : program.Adjourns now.system conference)
    (current : conference ∈ now.system.currentConferences) (balanced : now.system.Balanced) :
    program.Guarantees rounds HoldsNothing good (fun result after => result = .ok () →
      ∀ member ∈ (now.system.conference conference).members, after.HasEnded member) now := by
  have known : ∀ member ∈ (now.system.conference conference).members, now.system.Known member :=
    fun _ => balanced.member_known current
  have ends {later : ProgramPoint Unit} (same : later.system = now.system) :
      (do Program.disconnectConference openWorld conference; return .ok () :
        Program Chronicle (Except CallError Unit)).Guarantees rounds HoldsNothing good
          (fun result after =>
          result = .ok () →
            ∀ member ∈ (now.system.conference conference).members,
              after.HasEnded member) later := by
    rw [← same] at known ⊢
    exact bind ((disconnectConference free routine known).mono fun _ _ ended _ => ended)
  cases adjourns with
  | whole =>
    refine bind (look free fun _ => ?_)
    split
    · exact ends rfl
    · exact nofun
  | @member id among =>
    refine bind (look free fun _ => ?_)
    split
    · change (Program.system >>= _).Guarantees _ _ _ _ _
      refine look free fun _ => ?_
      have mine : (now.own now.system).system.conferenceOf? id = some conference :=
        balanced.conferenceOf?_member current among
      dsimp only
      rw [mine]
      exact ends rfl
    · exact nofun

end Guarantees
end Program

namespace Office

variable {settings : Settings} {device : Device} {occasions : List Occasion} {office : Office}
  {history : History} {program : Program Chronicle (Except CallError Unit)}

/-- Somebody ends a conference, or hangs up one of its members, and anything happens meanwhile. When
that has succeeded all who were members then have ended, and are in the books no more; if there
still is a conference, then for somebody who was none of them. -/
theorem conference_adjourns
    (reached : (opening settings device).run rounds occasions = some office)
    (current : conference ∈ office.system.currentConferences)
    (adjourns : program.Adjourns office.system conference)
    (proceeds : program.Proceeds rounds office.system history (.done (.ok ())) last) :
    (∀ member ∈ (office.system.conference conference).members,
        (last.connection member).published.state = .disconnected ∧
          (last.connection member).destroyed = true ∧ last.isRegistered member = false) ∧
      (conference ∈ last.currentConferences → ∃ joined ∈ (last.conference conference).members,
        joined ∉ (office.system.conference conference).members) := by
  have balanced : office.system.Balanced :=
    (System.Balanced.opening settings device).reaches (reaches_trace reached)
  have takesOnly :
      program.TakesOnly (.level .silent rounds) (TaskStep fun _ => True) office.system :=
    .of_uses (adjourns.uses (TaskStep.permits _)) _
  have guarantees :
      program.Guarantees rounds HoldsNothing (fun _ _ _ => True) _ ⟨(), [], office.system⟩ :=
    .adjourns (fun _ => trivial) (fun _ routine => routine) adjourns current balanced
  have ended := (proceeds.guarantees takesOnly balanced guarantees).2 rfl
  have kept : last.Balanced := balanced.reaches (proceeds.reaches takesOnly).1
  have gone (member : ConnectionId)
      (among : member ∈ (office.system.conference conference).members) :
      (last.connection member).destroyed = true ∧ member ∉ last.registry.connections := by
    have destroyed := (ended member among).destroyed kept
    exact ⟨destroyed, fun listed => by simp [(kept.listed_iff member).mp listed] at destroyed⟩
  refine ⟨fun member among => ⟨(ended member among).2, (gone member among).1, ?_⟩,
    fun remains => ?_⟩
  · simpa [System.isRegistered] using (gone member among).2
  · obtain ⟨some, listed⟩ := kept.assembled remains
    obtain ⟨joined, among⟩ := List.exists_mem_of_ne_nil _ some
    exact ⟨joined, among, fun early => (gone joined early).2 (listed joined among)⟩

def participant : RadioSnapshot := { state := .active, technology := .ims, multiparty := true }

/-- Two calls come in that are a conference. -/
def party : List Occasion := [.ring ⟨0⟩ participant, .ring ⟨0⟩ participant]

def partyReplies : List (List Occasion) :=
  [[.ring ⟨0⟩ participant, .reply 2 (.refused .gone)], [.reply 6 .done]]

/-- One member is hung up, both end, and the conference goes on with the third call. -/
theorem party_adjourns : ∃ office history last,
    (opening {} Roster.lonePhone).run 20 party = some office ∧
      .formed 0 ∈ office.system.currentConferences ∧
      (Program.hangupCall openWorld (.issued 1)).Proceeds 20 office.system history
        (.done (.ok ())) last ∧
      (office.system.conference (.formed 0)).members = [.issued 0, .issued 1] ∧
      (last.connection (.issued 0)).destroyed = true ∧ last.isRegistered (.issued 1) = false ∧
      .formed 0 ∈ last.currentConferences ∧
      ∃ joined ∈ (last.conference (.formed 0)).members, joined ∉ [.issued 0, .issued 1] := by
  have shown : ((opening {} Roster.lonePhone).run 20 party).any (fun office => decide (
      .formed 0 ∈ office.system.currentConferences ∧
        (office.system.conference (.formed 0)).members = [.issued 0, .issued 1]) &&
      ((Program.hangupCall openWorld (.issued 1)).played 20 office.system partyReplies).any
        fun outcome => outcome.2.1.toBool &&
          decide (.formed 0 ∈ outcome.2.2.currentConferences)) = true := by
    decide +kernel
  obtain ⟨office, reached, shown⟩ := (Option.any_eq_true _ _).mp shown
  obtain ⟨formed, shown⟩ := (Bool.and_eq_true_iff).mp shown
  obtain ⟨current, members⟩ := of_decide_eq_true formed
  obtain ⟨⟨history, result, last⟩, ends, shown⟩ := (Option.any_eq_true _ _).mp shown
  obtain ⟨fine, shown⟩ := (Bool.and_eq_true_iff).mp shown
  have remains : .formed 0 ∈ last.currentConferences := of_decide_eq_true shown
  cases result with
  | error error => cases fine
  | ok value =>
    have proceeds := Program.Proceeds.begin.played ends
    have adjourns : (Program.hangupCall openWorld (.issued 1)).Adjourns office.system (.formed 0) :=
      .member (by simp [members])
    obtain ⟨ended, onward⟩ := conference_adjourns reached current adjourns proceeds
    rw [members] at ended onward
    exact ⟨office, _, last, reached, current, proceeds, members, (ended _ (by decide)).2.1,
      (ended _ (by decide)).2.2, remains, onward remains⟩

end Office
end Switchboard
