import Switchboard.Proofs.Effects

/-! What a task may do. `Program.Safe` follows a program from one spot to another: what it does at
once are effects on its own duties, and at a wait it is prepared for any later system, of which it
knows that no note has been taken back. A `Harmless` program leaves its duties as they were. -/

namespace Switchboard

namespace Duty

def subject? : Duty → Option ConnectionId
  | agent id _ => some id
  | ending _ => none

end Duty

def subjectOf (duties : List Duty) : Option ConnectionId :=
  duties.findSome? Duty.subject?

/-- Where a task is: for whom it has been dialing since its last wait, and its duties. -/
structure Spot where
  subject : Option ConnectionId
  own : List Duty
  system : System Chronicle

def Spot.Sound (terms : Terms) (spot : Spot) : Prop :=
  ∃ others, Resting others ∧ Orderly terms (spot.own ++ others) spot.system

def Spot.Turns (terms : Terms) (spot : Spot) (own : List Duty) : Prop :=
  Effects terms (.task spot.subject) spot.own spot.system own spot.system

def Spot.Resumes (terms : Terms) (spot : Spot) (subject : Option ConnectionId)
    (after : System Chronicle) : Prop :=
  subject = spot.subject ∧ after = spot.system ∧ spot.Sound terms ∨
    subject = subjectOf spot.own ∧ spot.system.Later after

theorem Spot.Resumes.later {terms : Terms} {spot : Spot} {subject : Option ConnectionId}
    {after : System Chronicle} (resumes : spot.Resumes terms subject after) :
    spot.system.Later after := by
  rcases resumes with ⟨-, rfl, -⟩ | ⟨-, later⟩
  · exact .refl _
  · exact later

theorem resting_nil : Resting [] := nofun

theorem resting_agent (id : ConnectionId) (stage : Stage) : Resting [.agent id stage] := by
  intro other among
  simp at among

namespace Program

variable {terms : Terms} {rounds : Nat} {α β κ : Type}

def Safe (terms : Terms) (rounds : Nat) {α : Type} :
    Program Chronicle α → Spot → (α → Spot → Prop) → Prop
  | .done value, spot, post => post value spot
  | .act step next, spot, post => spot.Sound terms →
    step.Ensures (.level .silent rounds) spot.system fun value after => ∃ own,
      Effects terms (.task spot.subject) spot.own spot.system own after ∧
        (next value).Safe terms rounds ⟨spot.subject, own, after⟩ post
  | .wait pause next, spot, post => Resting spot.own ∧
    ∀ subject after, spot.Resumes terms subject after →
      (∀ value, pause.ready after = some value →
        (next (some value)).Safe terms rounds ⟨subject, spot.own, after⟩ post) ∧
      (pause.deadline.any (· ≤ after.clock) = true →
        (next none).Safe terms rounds ⟨subject, spot.own, after⟩ post)

theorem safe_pure (value : α) (spot : Spot) (post : α → Spot → Prop) :
    Safe terms rounds (pure value : Program Chronicle α) spot post ↔ post value spot :=
  Iff.rfl

theorem safe_bind (program : Program Chronicle α) (next : α → Program Chronicle β) (spot : Spot)
    (post : β → Spot → Prop) :
    (program.bind next).Safe terms rounds spot post ↔
      program.Safe terms rounds spot fun value now => (next value).Safe terms rounds now post := by
  induction program generalizing spot with
  | done value => exact Iff.rfl
  | act step rest ih =>
    simp only [bind, Safe]
    simp only [ih]
  | wait pause rest ih =>
    simp only [bind, Safe]
    simp only [ih]

theorem Safe.bind {program : Program Chronicle α} {next : α → Program Chronicle β} {spot : Spot}
    {post : β → Spot → Prop}
    (safe : program.Safe terms rounds spot fun value now =>
      (next value).Safe terms rounds now post) :
    (program >>= next).Safe terms rounds spot post :=
  (safe_bind program next spot post).mpr safe

theorem Safe.atOnce {step : Act Chronicle α} {spot : Spot} {post : α → Spot → Prop}
    (effects : spot.Sound terms → step.Ensures (.level .silent rounds) spot.system
      fun value after => ∃ own, Effects terms (.task spot.subject) spot.own spot.system own after ∧
        post value ⟨spot.subject, own, after⟩) :
    (Program.atOnce step).Safe terms rounds spot post :=
  effects

theorem Safe.system_turning {spot : Spot} {post : System Chronicle → Spot → Prop}
    (goes : spot.Sound terms → ∃ own, spot.Turns terms own ∧
      post spot.system ⟨spot.subject, own, spot.system⟩) :
    Program.system.Safe terms rounds spot post := by
  intro sound
  rw [Act.ensures_get]
  exact goes sound

theorem Safe.call_turning {id : ConnectionId} {spot : Spot} {post : Connection → Spot → Prop}
    (goes : spot.Sound terms → ∃ own, spot.Turns terms own ∧
      post (spot.system.connection id) ⟨spot.subject, own, spot.system⟩) :
    (Program.call id).Safe terms rounds spot post := by
  intro sound
  rw [Act.ensures_look]
  exact goes sound

theorem Safe.system {spot : Spot} {post : System Chronicle → Spot → Prop}
    (goes : spot.Sound terms → post spot.system spot) :
    Program.system.Safe terms rounds spot post :=
  Safe.system_turning fun sound => ⟨spot.own, .refl, goes sound⟩

theorem Safe.call {id : ConnectionId} {spot : Spot} {post : Connection → Spot → Prop}
    (goes : spot.Sound terms → post (spot.system.connection id) spot) :
    (Program.call id).Safe terms rounds spot post :=
  Safe.call_turning fun sound => ⟨spot.own, .refl, goes sound⟩

theorem Safe.isLive {id : ConnectionId} {spot : Spot} {post : Bool → Spot → Prop}
    (alive : (spot.system.connection id).destroyed = false → ∃ own, spot.Turns terms own ∧
      post true ⟨spot.subject, own, spot.system⟩)
    (gone : (spot.system.connection id).destroyed = true → ∃ own, spot.Turns terms own ∧
      post false ⟨spot.subject, own, spot.system⟩) :
    (Program.isLive id).Safe terms rounds spot post := by
  refine Safe.bind (Safe.call_turning fun sound => ?_)
  obtain ⟨others, -, orderly⟩ := sound
  have live := orderly.isLive_iff id
  cases dead : (spot.system.connection id).destroyed with
  | false =>
    obtain ⟨own, turns, goes⟩ := alive dead
    refine ⟨own, turns, ?_⟩
    rw [safe_pure, live.mpr dead]
    exact goes
  | true =>
    obtain ⟨own, turns, goes⟩ := gone dead
    have ended : (spot.system.connection id).published.state.isLive = false := by
      rw [Bool.eq_false_iff, Ne, live, dead]
      exact nofun
    refine ⟨own, turns, ?_⟩
    rw [safe_pure, ended]
    exact goes

theorem Safe.await {ready : System Chronicle → Option α} {channels : List Channel} {limit : Nat}
    {spot : Spot} {post : Option α → Spot → Prop} (rest : Resting spot.own)
    (goes : ∀ value subject after, spot.system.Later after →
      post value ⟨subject, spot.own, after⟩) :
    (Program.await ready channels limit).Safe terms rounds spot post := by
  refine Safe.bind (Safe.bind (Safe.system fun _ => ?_))
  rw [safe_pure]
  refine ⟨rest, fun subject after resumes => ⟨fun value _ => ?_, fun _ => ?_⟩⟩
  · exact goes (some value) subject after resumes.later
  · exact goes none subject after resumes.later

theorem Safe.converse {call : Call} {spot : Spot} {post : Answer → Spot → Prop}
    (asks : spot.Sound terms → ∃ now,
      Effects terms (.task spot.subject) spot.own spot.system now
        (spot.system.noting (.asked call)) ∧
      Resting now ∧ ∀ (answer : Answer) (after : System Chronicle),
        (spot.system.noting (.asked call)).Later after →
        after.outside.Answered spot.system.outside.length answer →
        Spot.Sound terms ⟨subjectOf now, now, after⟩ →
        ∃ later, Effects terms (.task (subjectOf now)) now after later
            (after.noting (.taken spot.system.outside.length)) ∧
          post answer
            ⟨subjectOf now, later, after.noting (.taken spot.system.outside.length)⟩) :
    (Program.converse call).Safe terms rounds spot post := by
  rw [Program.converse, safe_bind, Program.ask]
  intro sound
  rw [Act.ensures_get]
  refine ⟨spot.own, .refl, fun _ => ?_⟩
  rw [Act.ensures_reviseOutside]
  obtain ⟨now, effects, rest, goes⟩ := asks sound
  refine ⟨now, effects, rest, fun subject after resumes => ⟨fun answer ready again => ?_, nofun⟩⟩
  have answered := Chronicle.answered_of_findSome ready
  rw [Act.ensures_reviseOutside]
  rcases resumes with ⟨-, rfl, -⟩ | ⟨rfl, later⟩
  · obtain ⟨others, -, orderly⟩ := sound
    rcases Chronicle.answered_cons.mp answered with new | old
    · cases new
    · obtain ⟨call, asks⟩ := orderly.early old
      exact absurd asks.lt_length (Nat.lt_irrefl _)
  · exact goes answer after later answered again

end Program

def Call.isHarmless : Call → Bool
  | dial .. | command _ .hangup | command _ .reject | command _ (.answer _) => false
  | _ => true

namespace Chronicle

theorem not_ends_of_harmless {notes : Chronicle} {ticket : Nat} {call : Call}
    (asks : notes.Asks ticket call) (harmless : call.isHarmless = true) (leg : LegId) :
    ¬ notes.Ends ticket leg := by
  rintro (hangup | reject | ⟨video, error, answer, -⟩)
  · rw [asks.unique hangup] at harmless
    cases harmless
  · rw [asks.unique reject] at harmless
    cases harmless
  · rw [asks.unique answer] at harmless
    cases harmless

end Chronicle

namespace Program

variable {terms : Terms} {rounds : Nat} {α β κ : Type}

def Harmless (terms : Terms) (rounds : Nat) (program : Program Chronicle α)
    (system : System Chronicle) : Prop :=
  ∀ (spot : Spot) (post : α → Spot → Prop), spot.system = system → Resting spot.own →
    (∀ value (now : Spot), now.own = spot.own → system.Later now.system → post value now) →
    program.Safe terms rounds spot post

namespace Harmless

variable {system : System Chronicle}

theorem pure (value : α) : Harmless terms rounds (pure value) system := by
  rintro spot post rfl _ goes
  exact goes value spot rfl (.refl _)

theorem bind {program : Program Chronicle α} {next : α → Program Chronicle β}
    (first : program.Harmless terms rounds system)
    (rest : ∀ value after, system.Later after → (next value).Harmless terms rounds after) :
    (program >>= next).Harmless terms rounds system := by
  rintro spot post rfl resting goes
  refine Safe.bind (first spot _ rfl resting fun value now own later => ?_)
  refine rest value now.system later now post rfl (own ▸ resting) fun value last same more => ?_
  exact goes value last (same.trans own) (later.trans more)

theorem call_bind {id : ConnectionId} {next : Connection → Program Chronicle β}
    (rest : (∃ duties, Orderly terms duties system) →
      (next (system.connection id)).Harmless terms rounds system) :
    (Program.call id >>= next).Harmless terms rounds system := by
  rintro spot post rfl resting goes
  refine Safe.bind (Safe.call fun ⟨others, _, orderly⟩ => ?_)
  exact rest ⟨_, orderly⟩ spot post rfl resting goes

theorem get : Program.system.Harmless terms rounds system := by
  rintro spot post rfl _ goes
  exact Safe.system fun _ => goes _ spot rfl (.refl _)

theorem call (id : ConnectionId) : (Program.call id).Harmless terms rounds system := by
  rintro spot post rfl _ goes
  exact Safe.call fun _ => goes _ spot rfl (.refl _)

theorem await (ready : System Chronicle → Option α) (channels : List Channel) (limit : Nat) :
    (Program.await ready channels limit).Harmless terms rounds system := by
  rintro spot post rfl resting goes
  exact Safe.await resting fun value subject after later => goes value _ rfl later

theorem forEach {work : κ → Program Chronicle Unit} (items : List κ)
    (each : ∀ item (system : System Chronicle), (work item).Harmless terms rounds system) :
    (Program.forEach work items).Harmless terms rounds system := by
  induction items generalizing system with
  | nil => exact pure _
  | cons item rest ih => exact bind (each item system) fun _ _ _ => ih

theorem converse {call : Call} (harmless : call.isHarmless = true) :
    (Program.converse call).Harmless terms rounds system := by
  rintro spot post rfl resting goes
  have plain : call.isDial = false := by
    cases call <;> first | rfl | cases harmless
  refine Safe.converse fun _ => ⟨spot.own, .single (.note plain), resting,
    fun answer after later _ _ => ⟨spot.own, .single (.note ?_), goes answer _ rfl ?_⟩⟩
  · have asks := (Chronicle.asks_now spot.system.outside call).later later.notes
    exact ⟨⟨call, asks, plain⟩, Chronicle.not_ends_of_harmless asks harmless⟩
  · exact (System.Later.noting _ _).trans (later.trans (.noting _ _))

theorem waitForState (id : ConnectionId) (wanted : CallState → Bool) (limit : Nat) :
    (Program.waitForState id wanted limit).Harmless terms rounds system :=
  bind (await _ _ _) fun _ _ _ => pure _

theorem waitForService (slot : Slot) (id : ConnectionId) (emergency : Bool) (limit : Nat) :
    (Program.waitForService slot id emergency limit).Harmless terms rounds system :=
  bind (await _ _ _) fun _ _ _ => pure _

end Harmless
end Program
end Switchboard
