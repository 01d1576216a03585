import Switchboard.Proofs.Closing
import Switchboard.Proofs.InvariantLevels

/-! What everybody can rely on about a connection, whatever its listeners do while they are told of
it: its end is final and comes once, and between moves it is published as it is. -/

namespace Switchboard

theorem Connection.commit_of_fresh {call : Connection} (alive : call.destroyed = false)
    (fresh : call.published = call.derived)
    (shown : call.published.state = .disconnected → call.teardownStarted = true) :
    call.commit = (none, call.rested) := by
  have lasting : (call.published.state == .disconnected && !call.teardownStarted) = false := by
    rw [Bool.eq_false_iff]
    simpa using shown
  simp [commit, alive, ← fresh, Published.changes_self, lasting, rested]

theorem Connection.rested_of_idle {call : Connection} (idle : call.publishing = false)
    (calm : call.republish = false) : call.rested = call := by
  cases call
  cases idle
  cases calm
  rfl

theorem Act.update_of_fresh {wiring : Wiring Diary} {system : System Diary} {id : ConnectionId}
    (rounds : 0 < wiring.rounds) (idle : (system.connection id).publishing = false)
    (calm : (system.connection id).republish = false)
    (fresh : (system.connection id).published = (system.connection id).derived)
    (shown : (system.connection id).published.state = .disconnected →
      (system.connection id).teardownStarted = true)
    (alive : (system.connection id).destroyed = false) :
    update id wiring system = some ((), system) := by
  obtain ⟨left, more⟩ := Nat.exists_eq_succ_of_ne_zero (Nat.ne_of_gt rounds)
  let begun := system.reviseConnection id ({ · with publishing := true })
  have call : begun.connection id = { system.connection id with publishing := true } :=
    system.connection_reviseConnection_known (system.known_of_alive alive) _
  have quiet : ({ system.connection id with publishing := true } : Connection).commit =
      (none, (system.connection id).rested) := Connection.commit_of_fresh alive fresh shown
  have same : begun.reviseConnection id (fun _ => (system.connection id).rested) = system := by
    rw [System.reviseConnection_reviseConnection]
    exact (system.reviseConnection_congr (Connection.rested_of_idle idle calm)).trans
      (system.reviseConnection_self id)
  have committed : (commit id : Act Diary _) wiring begun = some (none, system) := by
    have runs : (commit id : Act Diary _) wiring begun = some ((begun.connection id).commit.1,
        begun.reviseConnection id fun _ => (begun.connection id).commit.2) := rfl
    rw [runs, call, quiet, same]
  have looked : (look id : Act Diary Connection) wiring system =
      some (system.connection id, system) := rfl
  have published : (do revise id ({ · with publishing := true }); publish id (← Act.rounds) :
      Act Diary Unit) wiring system = some ((), system) := by
    have starts : (do revise id ({ · with publishing := true }); publish id (← Act.rounds) :
        Act Diary Unit) wiring system = publish id wiring.rounds wiring begun := rfl
    rw [starts, more, publish_succ, bind_run, committed]
    rfl
  rw [update, bind_run, looked, Option.bind_some, idle]
  exact published

namespace Move

variable {serial : Nat} {hear : String → ConnectionId → ConnectionEvent → Habit Diary}
  {bridged : Habit Diary} {rounds : Nat} {moves : List Move} {start after : System Diary}

/-- Once somebody could see that a connection is disconnected it stays so, and so does the cause of
its end; its end is told once at most, and so is that it is destroyed, and both are told of a
connection that is destroyed. -/
theorem end_is_final (fresh : start.connections = []) (unwritten : start.outside = [])
    (runs : keptRun (.diarists hear bridged) rounds moves start = some after)
    (known : after.Known (.issued serial)) :
    (after.connection (.issued serial) :: (after.annals serial).sights).Pairwise
        (fun later earlier => earlier.Keeps later) ∧
      (after.annals serial).disconnections ≤ 1 ∧ (after.annals serial).destructions ≤ 1 ∧
      ((after.connection (.issued serial)).destroyed = true →
        (after.annals serial).disconnections = 1 ∧ (after.annals serial).destructions = 1) := by
  obtain ⟨order, done, -, -⟩ := inOrder_run fresh unwritten runs known
  have told : (after.annals serial).destructions =
      if (after.connection (.issued serial)).destroyed then 1 else 0 := order.destroyed
  refine ⟨order.sights, order.once, ?_, fun gone => ⟨(done (order.gone gone)).2, ?_⟩⟩
  · rw [told]
    split <;> decide
  · rw [told, gone]
    rfl

/-- Somebody closes each call as soon as they hear that it is active. -/
def hangsUp : String → ConnectionId → ConnectionEvent → Habit Diary
  | _, id, .stateChanged _ .active => .make (.close id) .rest
  | _, _, _ => .rest

theorem hungUp_ends_once : ∃ after,
    keptRun (.diarists hangsUp .rest) 4 connectedCall { outside := [] } = some after ∧
      (after.annals 0).disconnections = 1 ∧ (after.annals 0).destructions = 1 := by
  have whole : (keptRun (.diarists hangsUp .rest) 4 connectedCall { outside := [] }).any
      (fun after => decide (0 < after.connections.length) &&
        (after.connection (.issued 0)).destroyed) = true := by decide +kernel
  obtain ⟨after, runs, shows⟩ := (Option.any_eq_true _ _).mp whole
  simp only [Bool.and_eq_true, decide_eq_true_eq] at shows
  exact ⟨after, runs, (end_is_final rfl rfl runs shows.1).2.2.2 shows.2⟩

/-- Between moves, a connection that is not destroyed is published as it is: those who wait see the
published state, another update tells nothing, and whoever listens and has entered every change
they heard of has the whole of it in their record. -/
theorem published_is_derived (fresh : start.connections = []) (unwritten : start.outside = [])
    (runs : keptRun (.diarists hear bridged) rounds moves start = some after)
    (alive : (after.connection (.issued serial)).destroyed = false) :
    (after.connection (.issued serial)).published = (after.connection (.issued serial)).derived ∧
      (after.connection (.issued serial)).watched =
        (after.connection (.issued serial)).published.state ∧
      (∀ wiring : Wiring Diary, 0 < wiring.rounds →
        Act.update (.issued serial) wiring after = some ((), after)) ∧
      ∀ listener ∈ (after.connection (.issued serial)).listeners,
        (after.annals serial).notebook listener =
          some (after.connection (.issued serial)).published := by
  obtain ⟨order, -, settled, idle⟩ := inOrder_run fresh unwritten runs (after.known_of_alive alive)
  have whole : (after.connection (.issued serial)).published =
      (after.connection (.issued serial)).derived := by
    rcases settled with gone | same | ⟨busy, -⟩
    · rw [gone] at alive
      cases alive
    · exact same
    · rw [idle] at busy
      cases busy
  exact ⟨whole, order.watched, fun wiring rounds =>
    Act.update_of_fresh rounds idle (order.idle idle) whole order.shown alive, order.noted idle⟩

/-- Somebody lets each call be held as soon as they hear that it is active. -/
def letsHold : String → ConnectionId → ConnectionEvent → Habit Diary
  | _, id, .stateChanged _ .active => .make (.setHoldAllowed id true) .rest
  | _, _, _ => .rest

theorem heldUp_published : ∃ after,
    keptRun (.diarists letsHold .rest) 4 connectedCall { outside := [] } = some after ∧
      (after.connection (.issued 0)).published = (after.connection (.issued 0)).derived ∧
      (after.annals 0).notebook (.observer "closer") =
        some (after.connection (.issued 0)).published := by
  have whole : (keptRun (.diarists letsHold .rest) 4 connectedCall { outside := [] }).any
      (fun after => !(after.connection (.issued 0)).destroyed &&
        (after.connection (.issued 0)).listeners == [.observer "closer"]) = true := by
    decide +kernel
  obtain ⟨after, runs, shows⟩ := (Option.any_eq_true _ _).mp whole
  simp only [Bool.and_eq_true, Bool.not_eq_true', beq_iff_eq] at shows
  obtain ⟨same, -, -, noted⟩ := published_is_derived rfl rfl runs shows.1
  exact ⟨after, runs, same, noted _ (by rw [shows.2]; exact List.mem_cons_self)⟩

end Move
end Switchboard
