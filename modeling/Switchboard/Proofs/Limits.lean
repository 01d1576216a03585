import Switchboard.Proofs.Failures
import Switchboard.Proofs.SelectorRequests

/-! How often another domain is asked for. One sequence may ask three times, but a call may have
several: the failure of a dial goes on with the sequence that dialed, and the failure of a leg
starts another. So the number of times grows with the number of legs that the network wanted
elsewhere (`Office.reselections_bounded`). -/

namespace Switchboard.Office

variable {settings : Settings} {device : Device} {rounds : Nat} {occasions : List Occasion}
  {office : Office}

theorem reselections_le (reached : (opening settings device).run rounds occasions = some office)
    (id : ConnectionId) :
    office.system.outside.reselections id ≤ maxReselections * (1 + office.system.setbacks id) := by
  obtain ⟨-, licences, honours⟩ :=
    allGuarantee (OfficeContract.onLicence rounds) (.opening settings device) reached
  have allowance := honours.allowance id
  have known : (if office.system.Known id then 1 else 0) ≤ 1 := by split <;> simp
  have total := Nat.mul_le_mul_left maxReselections
    (Nat.add_le_add_right known (office.system.setbacks id))
  omega

section
variable {id : ConnectionId} {position : Nat} {attempt : Attempt} {phone : PhoneId}
  {failure : RadioFailure} {code : Int} {before : System Chronicle} {next : Office}
  (reached : (opening settings device).run rounds occasions = some office)
  (faces : office.Faces position id (some attempt) phone failure code before)
  (other : failure.wantsOtherDomain = true)
  (live : (office.system.connection id).published.state.isLive = true)
  (can : office.system.CanReselect id)
  (stepped : office.step rounds (.resume position) = some next)
include reached faces other live can stepped

theorem Faces.ends_or_reselects :
    (∃ info, (next.system.connection id).ended = some info ∧ info.cause = failure.cause ∧
      info.code = code) ∨
    0 < Attempt.left (some attempt) ∧
      next.system.outside.reselections id = office.system.outside.reselections id + 1 ∧
      next.system.setbacks id = office.system.setbacks id := by
  cases faces with | refused waits refused
  rename_i placing ticket error
  obtain ⟨-, duties, -, -, orderly⟩ := in_order reached
  let ended (after : System Chronicle) : Prop := ∃ info, (after.connection id).ended = some info ∧
    info.cause = error.failure.cause ∧ info.code = error.code
  let more (after : System Chronicle) : Prop := 0 < Attempt.left (some attempt) ∧
    after.outside.reselections id = office.system.outside.reselections id + 1 ∧
      after.setbacks id = office.system.setbacks id
  have leads : (attempt.awaiting placing id phone ticket).Leads (.level .silent rounds)
      office.system (fun _ after => ended after ∨ more after)
        fun after => ended after ∨ more after := by
    refine attempt.leads_awaiting refused (fun answer said => orderly.answers said refused) ?_
    refine attempt.leads_elsewhere
      ((liveUnserved_of_live reached live).noting fun _ => rfl) other ?_
      (fun left request _ => .inr ⟨left, ?_, rfl⟩)
      fun after info ended cause code => .inl ⟨info, ended, cause, code⟩
    · refine ⟨can.1, ?_⟩
      rw [System.connection_noting]
      exact can.2
    · exact Chronicle.reselections_cons.trans (by simp [Note.reselects, System.noting,
        Chronicle.reselections_cons])
  obtain ⟨after, outcome, last⟩ := resume_leads waits leads stepped
  rw [last]
  refine outcome.imp_left ?_
  rintro ⟨info, ended, why⟩
  refine ⟨info, Eq.trans ?_ ended, why⟩
  cases id <;> rfl

theorem Faces.ends (used : Attempt.left (some attempt) = 0 ∨
      office.system.outside.reselections id = maxReselections * (1 + office.system.setbacks id)) :
    ∃ info, (next.system.connection id).ended = some info ∧ info.cause = failure.cause ∧
      info.code = code := by
  refine (faces.ends_or_reselects reached other live can stepped).resolve_right
    fun ⟨left, asked, heard⟩ => ?_
  have again :
      (opening settings device).run rounds (occasions ++ [.resume position]) = some next := by
    rw [run_append, reached, Option.bind_some, run_cons, stepped]
    rfl
  have bound := reselections_le again id
  rw [asked, heard] at bound
  omega

end

/-- A call asks for other domains at most three times, and three times more for each time that the
network wanted it elsewhere after it had a leg. Once a sequence has asked three times, or the call
as often as it can, a dial that fails so ends the call with the cause and the code of the
failure. -/
theorem reselections_bounded
    (reached : (opening settings device).run rounds occasions = some office) (id : ConnectionId) :
    office.system.outside.reselections id ≤ maxReselections * (1 + office.system.setbacks id) ∧
    (∀ {phone number args ticket error},
      office.system.outside.Asks ticket (.dial id phone number args) →
      .taken ticket ∉ office.system.outside →
      office.system.outside.Answered ticket (.reply (.refused error)) →
      ∃ position attempt, office.Faces position id (some attempt) phone error.failure error.code
        (office.system.noting (.taken ticket))) ∧
    (∀ {position attempt phone failure code before next},
      office.Faces position id (some attempt) phone failure code before →
      failure.wantsOtherDomain = true →
      (office.system.connection id).published.state.isLive = true → office.system.CanReselect id →
      (Attempt.left (some attempt) = 0 ∨
        office.system.outside.reselections id = maxReselections * (1 + office.system.setbacks id)) →
      office.step rounds (.resume position) = some next →
      ∃ info, (next.system.connection id).ended = some info ∧ info.cause = failure.cause ∧
        info.code = code) :=
  ⟨reselections_le reached id,
    fun asks untaken refused => faces_of_refusal reached asks untaken refused,
    fun faces other live can used stepped => faces.ends reached other live can stepped used⟩

def sentOn (leg : Nat) : List Occasion := [
  .report ⟨leg⟩ (.disconnected .retryRequired 0 ""),
  .resume 0,
  .reply (7 * leg + 7) (.domain .circuit),
  .resume 0,
  .grant (7 * leg + 10) { state := .dialing, technology := .gsm },
  .resume 0]

/-- An emergency call that loses four legs because the network wants it in another domain. -/
def restless : List Occasion :=
  dialedOnce ++ [0, 1, 2, 3].flatMap sentOn

/-- An emergency call that is refused in each domain because the network wants it in another. -/
def wornOut : List Occasion := [
  .start (.place { address := "911" }),
  .resume 0,
  .reply 0 (.domain .packet),
  .resume 0,
  .reply 3 (.refused (.rejected .retryRequired 0 "")),
  .resume 0,
  .reply 6 (.domain .circuit),
  .resume 0,
  .reply 9 (.refused (.rejected .retryRequired 0 "")),
  .resume 0,
  .reply 12 (.domain .packet),
  .resume 0,
  .reply 15 (.refused (.rejected .retryRequired 0 "")),
  .resume 0,
  .reply 18 (.domain .circuit),
  .resume 0,
  .reply 21 (.refused (.rejected .retryRequired 77 ""))]

/-- The refusal of the fourth dial ends the call. -/
theorem wornOut_ends : ∃ office next info,
    (opening {} twoPhones).run 20 wornOut = some office ∧
      office.system.outside.reselections (.issued 0) = maxReselections ∧
      office.step 20 (.resume 0) = some next ∧
      (next.system.connection (.issued 0)).ended = some info ∧
      info.cause = .retryRequired ∧ info.code = 77 := by
  have runs : ((opening {} twoPhones).run 20 wornOut).any (fun office =>
      (office.step 20 (.resume 0)).isSome && decide (office.tasks.length = 1 ∧
        office.system.outside.reselections (.issued 0) = 3 ∧
        office.system.setbacks (.issued 0) = 0 ∧
        office.system.outside.Asks 21 (.dial (.issued 0) ⟨0⟩ "911" inCircuit) ∧
        .taken 21 ∉ office.system.outside ∧
        office.system.outside.head? =
          some (.replied 21 (.refused (.rejected .retryRequired 77 ""))) ∧
        (office.system.connection (.issued 0)).published.state.isLive = true ∧
        office.system.device.hasSelector = true ∧
        (office.system.device.slotOf? (office.system.connection (.issued 0)).phone).isSome =
          true)) = true := by decide +kernel
  obtain ⟨office, reached, shown⟩ := (Option.any_eq_true _ _).mp runs
  obtain ⟨stepped, shown⟩ := Bool.and_eq_true_iff.mp shown
  obtain ⟨next, stepped⟩ := Option.isSome_iff_exists.mp stepped
  obtain ⟨one, asked, unheard, asks, untaken, latest, live, selector, there⟩ :=
    of_decide_eq_true shown
  have used : office.system.outside.reselections (.issued 0) =
      maxReselections * (1 + office.system.setbacks (.issued 0)) := by rw [asked, unheard]; rfl
  obtain ⟨-, facing, ends⟩ := reselections_bounded reached (.issued 0)
  obtain ⟨position, attempt, faces⟩ := facing asks untaken ⟨_, List.mem_of_head? latest, rfl⟩
  obtain rfl : position = 0 := by
    have inside := faces.position_lt
    omega
  obtain ⟨info, ended, cause, code⟩ := ends faces rfl live ⟨selector, there⟩ (.inr used) stepped
  exact ⟨office, next, info, reached, asked, stepped, ended, cause, code⟩

/-- Another domain is asked for four times for a call that loses four legs. -/
theorem restless_reselects : ∃ office, (opening {} twoPhones).run 20 restless = some office ∧
    maxReselections < office.system.outside.reselections (.issued 0) := by
  have runs : ((opening {} twoPhones).run 20 restless).any (fun office =>
      decide (maxReselections < office.system.outside.reselections (.issued 0))) = true := by
    decide +kernel
  obtain ⟨office, reached, more⟩ := (Option.any_eq_true _ _).mp runs
  exact ⟨office, reached, of_decide_eq_true more⟩

end Switchboard.Office
