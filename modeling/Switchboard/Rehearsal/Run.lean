import Switchboard.Rehearsal.Cast
import Switchboard.Rehearsal.Report

/-! Running a rehearsal: the steps one after the other, each followed by a report. -/

namespace Switchboard.Rehearsal

/-- How deep listeners and steps may call each other, and how many turns a step may take. -/
structure Limits where
  listeners : Nat := 1000
  steps : Nat := 100
  turns : Nat := 100000

/-- A rehearsal that is going on. -/
structure Session : Type 1 where
  schedule : Schedule Stage
  shown : Shown := {}

/-- Runs the step, with everything that follows without time passing. -/
def Session.runStep (limits : Limits) (session : Session) (step : Step) :
    Option (Report × Session) :=
  let wiring := Wiring.level bystanders limits.listeners
  let program : Play Unit := do
    let outcome ← rehearse limits.steps step
    Program.atOnce do
      Act.reviseOutside ({ · with outcome })
      Doing.meet
  match session.schedule.run wiring (followUp limits.steps) limits.turns program with
  | none => none
  | some schedule =>
    match (Doing.meet *> Doing.meetConferences).run wiring schedule.system with
    | none => none
    | some ((), world) =>
      some (report session.shown world world.outside.outcome,
        { schedule := { schedule with system := settleAccounts world }
          shown := .ofWorld world })

def Session.run (limits : Limits) : Session → List Step → Option (List Report)
  | _, [] => some []
  | session, step :: rest =>
    match session.runStep limits step with
    | none => none
    | some (report, session) => (session.run limits rest).map (report :: ·)

def open? (settings : Settings) (device : Device) (stage : Stage) :
    Except CallError Session :=
  match if stage.hasExchange then settings.validate else .ok () with
  | .error error => .error error
  | .ok () => .ok { schedule := { system := { settings, device, outside := stage } } }

end Switchboard.Rehearsal
