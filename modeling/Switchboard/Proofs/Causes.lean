import Switchboard.Proofs.OutsideSteps
import Switchboard.Proofs.InvariantLevels

/-! Why a call ended, as everybody gets to know it. The connection tells its listeners the cause
that was stored, or that it was ended by request where none was; whoever asks for the cause is
given the stored one; and the answer to a placed call has the stored one, or that it was canceled.
So they agree exactly as far as a cause was stored in time. -/

namespace Switchboard

theorem Dossier.Recorded.found_iff {dossier : Dossier} (recorded : dossier.Recorded)
    {late early : Annals} {info : DisconnectInfo} {listeners : List Listener} {teller : Connection}
    (split : dossier.annals = late ++ .told (.disconnected info) listeners teller :: early) :
    (∀ look ∈ dossier.call :: (late.sights ++ [teller]), look.ended = some info) ↔
      teller.ended.isSome = true := by
  constructor
  · intro found
    rw [found teller (by simp)]
    rfl
  · intro stored
    obtain ⟨cause, given⟩ := Option.isSome_iff_exists.mp stored
    have among : .told (.disconnected info) listeners teller ∈ dossier.annals := by
      rw [split]
      exact List.mem_append_right _ List.mem_cons_self
    have same : info = cause := by
      rw [recorded.causes among, given]
      rfl
    have sights : dossier.annals.sights = late.sights ++ teller :: early.sights := by
      rw [split, Annals.sights, List.filterMap_append]
      rfl
    have keeps := recorded.sights
    rw [sights, ← List.cons_append] at keeps
    intro look there
    rw [← List.cons_append] at there
    rcases List.mem_append.mp there with later | now
    · exact same ▸
        ((List.pairwise_append.mp keeps).2.2 look later teller List.mem_cons_self).ended given
    · rw [List.mem_singleton.mp now, given, same]

theorem System.CallInOrder.recorded {serial : Nat} {system : System Diary}
    (callInOrder : system.CallInOrder serial) {info : DisconnectInfo} {listeners : List Listener}
    {teller : Connection}
    (told : .told (.disconnected info) listeners teller ∈ system.annals serial) :
    (system.dossier serial).Recorded := by
  by_cases known : system.Known (.issued serial)
  · exact (callInOrder.order known).toRecorded
  · exact absurd (callInOrder.blank known _ told).1 (by simp [ConnectionEvent.isFinal,
      ConnectionEvent.isDisconnected])

def System.Explains (system : System Diary) (id : ConnectionId) (answer : Program.Placed) : Prop :=
  ∀ cause, answer = .error cause →
    cause = (system.connection id).ended.getD (.ofCause .canceled)

namespace Program

variable {law : Law Diary} {wiring : Wiring Diary} {α β : Type}

def Upholds (law : Law Diary) (wiring : Wiring Diary) (program : Program Diary α)
    (goal : α → System Diary → Prop) : Prop :=
  ∀ system, law.holds system →
    program.Secures wiring system fun value last => law.holds last ∧ goal value last

namespace Upholds

theorem pure {goal : α → System Diary → Prop} {value : α} (reached : ∀ last, goal value last) :
    Upholds law wiring (pure value) goal :=
  fun system holds => ⟨holds, reached system⟩

theorem bind {program : Program Diary α} {next : α → Program Diary β}
    {between : α → System Diary → Prop} {goal : β → System Diary → Prop}
    (first : program.Upholds law wiring between)
    (rest : ∀ value system, law.holds system → between value system →
      (next value).Secures wiring system fun value last => law.holds last ∧ goal value last) :
    (program >>= next).Upholds law wiring goal := by
  intro system holds
  rw [secures_bind]
  exact (first system holds).mono fun value last reached => rest value last reached.1 reached.2

section
variable (governs : law.Governs wiring)
include governs

theorem outward {program : Program Diary α} (outward : program.Outward wiring) :
    program.Upholds law wiring fun _ _ => True := by
  intro system holds
  exact (outward.goes system).mono fun _ _ goes => ⟨(governs.goes goes holds).1, trivial⟩

theorem after {program : Program Diary α} {next : α → Program Diary β}
    {goal : β → System Diary → Prop} (first : program.Outward wiring)
    (rest : ∀ value, (next value).Upholds law wiring goal) :
    (program >>= next).Upholds law wiring goal :=
  bind (outward governs first) fun value system holds _ => rest value system holds

theorem optional {condition : Prop} [Decidable condition] {first : Program Diary Unit}
    {rest : Program Diary α} {goal : α → System Diary → Prop} (outward : first.Outward wiring)
    (goes : rest.Upholds law wiring goal) :
    (if condition then first >>= fun _ => rest else rest).Upholds law wiring goal := by
  split
  · exact after governs outward fun _ => goes
  · exact goes

theorem gone (id : ConnectionId) :
    (Program.gone id).Upholds law wiring fun answer last => last.Explains id answer := by
  intro system holds
  rw [Program.gone, secures_bind, Program.call, Program.atOnce, Secures, Act.ensures_bind,
    Act.ensures_glance, Act.ensures_look]
  have looked := governs.glance system holds
  rw [Act.ensures_glance] at looked
  refine ⟨looked.1, fun cause answer => ?_⟩
  cases answer
  rfl

end

section
variable {serial : Nat} {world : Collaborators Diary} (heeds : wiring.Heeds serial)
include heeds

theorem fail (info : DisconnectInfo) : (Program.fail (.issued serial) info).Upholds
    (connectionInOrder serial) wiring fun answer last => last.Explains (.issued serial) answer := by
  have stored : (Program.disconnect (.issued serial) info).Upholds (connectionInOrder serial) wiring
      fun _ last => (last.connection (.issued serial)).ended.isSome = true := by
    intro system holds
    rw [Program.disconnect, Program.atOnce, Secures, Act.ensures_bind, Act.ensures_glance]
    have looked := heeds.governs.glance system holds
    rw [Act.ensures_glance] at looked
    by_cases known : (system.withEntry (.view system.connections)).Known (.issued serial)
    · refine (Act.reached_setDisconnected heeds info known (looked.1.order known)).mono ?_
      rintro _ after ⟨reached, -, ended⟩
      refine ⟨⟨fun _ => reached.order, ?_⟩, ended⟩
      exact fun strange => absurd reached.known strange
    · refine Act.ensures_setDisconnected_strange known ⟨looked.1, ?_⟩
      exact congrArg (·.ended.isSome) (System.connection_of_not_known _ known)
  refine stored.bind fun _ system holds ended => ?_
  rw [secures_bind, Program.call, Program.atOnce, Secures, Act.ensures_bind,
    Act.ensures_glance, Act.ensures_look]
  have looked := heeds.governs.glance system holds
  rw [Act.ensures_glance] at looked
  refine ⟨looked.1, fun cause answer => ?_⟩
  obtain ⟨given, known⟩ := Option.isSome_iff_exists.mp ended
  cases answer
  have same : ((system.withEntry (.view system.connections)).connection (.issued serial)).ended =
      some given := known
  rw [same]
  rfl

variable (outward : world.Outward wiring)
include outward

theorem ensureRadio (slot : Slot) (emergency : Bool) :
    (Program.ensureRadio world (.issued serial) slot emergency).Upholds
      (connectionInOrder serial) wiring
      fun answer last => ∀ given ∈ answer, last.Explains (.issued serial) given := by
  have governs := heeds.governs
  have gives {program : Program Diary Placed}
      (upholds : program.Upholds (connectionInOrder serial) wiring fun answer last =>
        last.Explains (.issued serial) answer) :
      (do return some (← program) : Program Diary (Option Placed)).Upholds
        (connectionInOrder serial) wiring
        fun answer last => ∀ given ∈ answer, last.Explains (.issued serial) given :=
    upholds.bind fun answer last holds explains =>
      ⟨holds, fun given same => Option.mem_some.mp same ▸ explains⟩
  have ends : (do
      if ← Program.isLive (.issued serial) then return none
      return some (← Program.gone (.issued serial)) : Program Diary (Option Placed)).Upholds
        (connectionInOrder serial) wiring fun answer last =>
          ∀ given ∈ answer, last.Explains (.issued serial) given := by
    refine after governs (.isLive _) fun live => ?_
    split
    · exact pure fun last given none => by cases none
    · exact gives (gone governs _)
  refine after governs .system fun now => ?_
  dsimp only
  split
  · refine optional governs outward.airplaneOff ?_
    refine after governs (outward.power slot true emergency) fun _ =>
      after governs .system fun now =>
        after governs (.waitForService slot _ emergency _) fun outcome => ?_
    cases outcome with
    | reached => exact ends
    | cancelled => exact gives (gone governs _)
    | timedOut => exact gives (fail heeds _)
  · split
    · exact gives (fail heeds _)
    · exact ends

theorem settle (phone : PhoneId) (outcome : DialOutcome) :
    (Program.settle world (.issued serial) phone outcome).Upholds (connectionInOrder serial) wiring
      fun answer last => last.Explains (.issued serial) answer := by
  have governs := heeds.governs
  have taken :
      (Pure.pure (.ok (.issued serial)) : Program Diary Placed).Upholds (connectionInOrder serial)
        wiring fun answer last => last.Explains (.issued serial) answer :=
    pure fun last cause error => by cases error
  have ends : (do
      if ← Program.isLive (.issued serial) then return .ok (.issued serial)
      Program.gone (.issued serial) : Program Diary Placed).Upholds
        (connectionInOrder serial) wiring
        fun answer last => last.Explains (.issued serial) answer := by
    refine after governs (.isLive _) fun live => ?_
    split
    · exact taken
    · exact gone governs _
  cases outcome with
  | bound => exact taken
  | noCall => exact fail heeds _
  | cancelled => exact gone governs _
  | failed error =>
    refine after governs (.call _) fun call => after governs .system fun now => ?_
    dsimp only
    split
    · exact after governs (.redial outward _ _ _) fun _ => ends
    · split
      · exact after governs (.reselectFrom outward _ _ _ _) fun _ => ends
      · exact fail heeds _

theorem dialOut (placement : Placement) (domain : Option Domain) :
    (Program.dialOut world (.issued serial) placement domain).Upholds
      (connectionInOrder serial) wiring
      fun answer last => last.Explains (.issued serial) answer := by
  have governs := heeds.governs
  refine after governs (.isLive _) fun live => ?_
  cases live with
  | true => exact after governs (.dialAndBind outward _ _ _) fun outcome =>
      settle heeds outward _ outcome
  | false => exact gone governs _

theorem chooseAndDial (placement : Placement) :
    (Program.chooseAndDial world (.issued serial) placement).Upholds
      (connectionInOrder serial) wiring
      fun answer last => last.Explains (.issued serial) answer := by
  have governs := heeds.governs
  refine after governs .system fun now => ?_
  split
  · refine after governs (.selectDomain outward _ _) fun selected => ?_
    cases selected with
    | ok domain => exact dialOut heeds outward placement domain
    | error cause => exact fail heeds _
  · exact after governs (.prepareToDial outward _ _ _ _) fun _ =>
      dialOut heeds outward placement none

theorem complete (placement : Placement) :
    (Program.complete world (.issued serial) placement).Upholds (connectionInOrder serial) wiring
      fun answer last => last.Explains (.issued serial) answer := by
  have governs := heeds.governs
  rw [complete_eq]
  refine (ensureRadio heeds outward placement.slot placement.number.emergency).bind
    fun answer system holds explains => ?_
  cases answer with
  | some answer => exact ⟨holds, explains answer rfl⟩
  | none =>
    dsimp only
    split
    · refine after governs (.prepareForEmergency outward _ _ _) (fun _ =>
        after governs (.isLive _) fun live => ?_) system holds
      cases live with
      | true => exact chooseAndDial heeds outward placement
      | false => exact gone governs _
    · exact chooseAndDial heeds outward placement system holds

end
end Upholds
end Program

/-- From an empty start, whatever goes on: from the moment on that the end of a connection was told,
everybody finds the cause that was told exactly when it had been stored by then. Where placing the
call ends in an error, that is the cause that was told exactly when it is stored by then. -/
theorem System.Goes.cause_iff {serial : Nat}
    {hear : String → ConnectionId → ConnectionEvent → Habit Diary} {bridged : Habit Diary}
    {rounds : Nat} {start after : System Diary} (fresh : start.connections = [])
    (unwritten : start.outside = [])
    (goes : start.Goes (.kept (.diarists hear bridged) rounds) after) :
    (∀ {late early : Annals} {info : DisconnectInfo} {listeners : List Listener}
      {teller : Connection},
      after.annals serial = late ++ .told (.disconnected info) listeners teller :: early →
        ((∀ look ∈ after.connection (.issued serial) :: (late.sights ++ [teller]),
          look.ended = some info) ↔ teller.ended.isSome = true)) ∧
      ∀ (world : Collaborators Diary) (placement : Placement),
        world.Outward (.kept (.diarists hear bridged) rounds) →
          (Program.complete world (.issued serial) placement).Secures
            (.kept (.diarists hear bridged) rounds) after fun answer last =>
              ∀ cause, answer = .error cause →
                ∀ {info : DisconnectInfo} {listeners : List Listener} {teller : Connection},
                  .told (.disconnected info) listeners teller ∈ last.annals serial →
                    (teller.ended.isSome = true → cause = info) ∧
                      (cause = info ↔ (last.connection (.issued serial)).ended = some info) := by
  have heeds : (Wiring.kept (.diarists hear bridged) rounds).Heeds serial :=
    Wiring.heeds_kept rounds
  have holds : (connectionInOrder serial).holds after := by
    refine (heeds.governs.goes goes ⟨fun known => ?_, fun _ => ?_⟩).1
    · simp [System.Known, fresh] at known
    · rw [System.annals, unwritten]
      exact Annals.blank_nil
  refine ⟨fun {late early info listeners teller} split => ?_, fun world placement outward =>
    (Program.Upholds.complete heeds outward placement after holds).mono
      fun answer last upheld cause error info listeners teller told => ?_⟩
  · have told : .told (.disconnected info) listeners teller ∈ after.annals serial := by
      rw [split]
      exact List.mem_append_right _ List.mem_cons_self
    exact (holds.recorded told).found_iff split
  · obtain ⟨callInOrder, explains⟩ := upheld
    have recorded := callInOrder.recorded told
    obtain ⟨late, early, split⟩ := List.append_of_mem told
    have found (stored : teller.ended.isSome = true) :
        (last.connection (.issued serial)).ended = some info :=
      (recorded.found_iff split).mpr stored _ List.mem_cons_self
    have given := explains cause error
    have same (now : (last.connection (.issued serial)).ended = some info) : cause = info := by
      rw [given, now]
      rfl
    refine ⟨fun stored => same (found stored), fun agree => ?_, same⟩
    cases now : (last.connection (.issued serial)).ended with
    | some stored =>
      rw [← agree, given, now]
      rfl
    | none =>
      -- nothing was stored at all, and the two defaults differ
      have unstored : teller.ended = none := by
        refine Option.not_isSome_iff_eq_none.mp fun stored => ?_
        rw [found stored] at now
        cases now
      have told := recorded.causes told
      rw [unstored] at told
      rw [given, now, told] at agree
      exact absurd agree (by decide)

def Collaborators.quiet : Collaborators Diary where
  dial _ _ _ _ := return .ok none
  power _ _ _ := return
  airplaneOff := return
  leaveSatellite := return true
  switchData _ := return true
  select _ _ := return .error .unavailable
  reselect _ _ := return .error .unavailable
  command _ _ := return .ok ()

def Moment.tellsStored : Moment → Bool
  | .told (.disconnected _) _ teller => teller.ended.isSome
  | _ => false

namespace Move

/-- A call is active, and then something more happens. -/
def activeCall (next : Move) : List Move := [
  .create { phone := ⟨0⟩, technology := .ims },
  .createLeg { state := .active, technology := .ims },
  .bind (.issued 0) ⟨0⟩,
  next]

/-- The call that is disconnected with a cause is found with that cause, also by whoever placed
it. -/
theorem disconnected_found : ∃ after,
    keptRun (.diarists (fun _ _ _ => .rest) .rest) 4
      (activeCall (.disconnect (.issued 0) (.ofCause .remote))) { outside := [] } = some after ∧
    (∃ info listeners teller, .told (.disconnected info) listeners teller ∈ after.annals 0 ∧
      (after.connection (.issued 0)).ended = some info) ∧
    (Program.complete .quiet (.issued 0)
      { number := { address := .tel "1", dial := "1", emergency := false, test := false }
        slot := ⟨0⟩, phone := default, carrier := {}, routing := none }).Secures
      (.kept (.diarists (fun _ _ _ => .rest) .rest) 4) after fun answer last =>
        ∀ cause, answer = .error cause →
          ∀ {info : DisconnectInfo} {listeners : List Listener} {teller : Connection},
            .told (.disconnected info) listeners teller ∈ last.annals 0 →
              (teller.ended.isSome = true → cause = info) ∧
                (cause = info ↔ (last.connection (.issued 0)).ended = some info) := by
  have whole : (keptRun (.diarists (fun _ _ _ => .rest) .rest) 4
      (activeCall (.disconnect (.issued 0) (.ofCause .remote))) { outside := [] }).any
      (fun after => (after.annals 0).any Moment.tellsStored) = true := by decide +kernel
  obtain ⟨after, runs, shows⟩ := (Option.any_eq_true _ _).mp whole
  obtain ⟨moment, there, stored⟩ := List.any_eq_true.mp shows
  obtain ⟨found, placed⟩ := System.Goes.cause_iff rfl rfl (.of_keptRun runs)
  refine ⟨after, runs, ?_, placed .quiet _
    ⟨fun _ _ _ _ => trivial, fun _ _ _ => trivial, trivial, trivial, fun _ => trivial,
      fun _ _ => trivial, fun _ _ => trivial, fun _ _ => trivial⟩⟩
  unfold Moment.tellsStored at stored
  split at stored
  · rename_i info listeners teller
    obtain ⟨late, early, split⟩ := List.append_of_mem there
    exact ⟨info, listeners, teller, there, (found split).mpr stored _ List.mem_cons_self⟩
  · cases stored

/-- The call whose leg reports that it is disconnected, and no cause, tells of a cause that nobody
finds. -/
theorem reported_not_found : ∃ after info,
    keptRun (.diarists (fun _ _ _ => .rest) .rest) 4
      (activeCall (.report ⟨0⟩ (.stateChanged .disconnected))) { outside := [] } = some after ∧
    .disconnected info ∈ (after.annals 0).tellings ∧
      (after.connection (.issued 0)).ended ≠ some info := by
  have whole : (keptRun (.diarists (fun _ _ _ => .rest) .rest) 4
      (activeCall (.report ⟨0⟩ (.stateChanged .disconnected))) { outside := [] }).any
      (fun after => decide (.disconnected .byRequest ∈ (after.annals 0).tellings) &&
        (after.connection (.issued 0)).ended.isNone) = true := by decide +kernel
  obtain ⟨after, runs, shows⟩ := (Option.any_eq_true _ _).mp whole
  simp only [Bool.and_eq_true, decide_eq_true_eq, Option.isNone_iff_eq_none] at shows
  refine ⟨after, .byRequest, runs, shows.1, ?_⟩
  rw [shows.2]
  nofun

end Move
end Switchboard
