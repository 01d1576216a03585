import Switchboard.Proofs.Effects

/-! Legs and their owners. Each leg has an owner, the only connection that it is ever bound to. It
is written down which bridges were made, and who was unbound (`Ties`). Then a bound connection has
the bridge of its latest binding, and a leg has that bridge attached exactly as long as its owner is
bound to it (`System.LegsOwned`). Only `LegsOwned.bind` binds a connection, and a connection drops
its leg together with the bridge (`LegsOwned.unbind`). -/

namespace Switchboard

/-- A connection got a bridge, which was late if it had been destroyed by then, or it was
unbound. -/
inductive Tie
  | made (bridge : Bridge) (late : Bool)
  | cut (id : ConnectionId)
  deriving DecidableEq, Repr

namespace Tie

def connection : Tie → ConnectionId
  | made bridge _ => bridge.connection
  | cut id => id

def bridge? : Tie → Option Bridge
  | made bridge _ => some bridge
  | cut _ => none

def isLate : Tie → Bool
  | made _ late => late
  | cut _ => false

end Tie

abbrev Ties := List Tie

namespace Ties

def latest? (ties : Ties) (id : ConnectionId) : Option Tie :=
  ties.find? (·.connection == id)

def bridge? (ties : Ties) (id : ConnectionId) : Option Bridge :=
  (ties.latest? id).bind Tie.bridge?

def isLate (ties : Ties) (id : ConnectionId) : Bool :=
  (ties.latest? id).any Tie.isLate

/-- All bridges that were ever made. -/
def bridges (ties : Ties) : List Bridge :=
  ties.filterMap Tie.bridge?

theorem latest?_cons (tie : Tie) (ties : Ties) (id : ConnectionId) :
    Ties.latest? (tie :: ties) id = if tie.connection = id then some tie else ties.latest? id := by
  by_cases same : tie.connection = id <;> simp [latest?, same]

end Ties

namespace System

variable {owner : LegId → ConnectionId} {before after system : System Ties} {id : ConnectionId}

/-- The connection has given up its leg, or it came to its end after it was bound. -/
def IsLoose (system : System Ties) (id : ConnectionId) : Prop :=
  (system.connection id).awaitingRedial = true ∨
    (system.connection id).destroyed = true ∧ system.outside.isLate id = false

/-- Legs are bound to their owners only, and have the bridges of the latest bindings. -/
structure LegsOwned (owner : LegId → ConnectionId) (system : System Ties) : Prop where
  owned {id : ConnectionId} {leg : LegId} : (system.connection id).leg = some leg →
    owner leg = id ∧ leg.serial < system.legs.length
  latest {id : ConnectionId} {leg : LegId} : (system.connection id).leg = some leg →
    system.outside.bridge? id = some ⟨id, (system.connection id).generation⟩
  attached (leg : LegId) : (system.leg leg).attached =
    if (system.connection (owner leg)).leg = some leg then
      some ⟨owner leg, (system.connection (owner leg)).generation⟩
    else none
  past {bridge : Bridge} : bridge ∈ system.outside.bridges →
    bridge.generation ≤ (system.connection bridge.connection).generation
  distinct : system.outside.bridges.Nodup
  loose {id : ConnectionId} : system.IsLoose id → (system.connection id).leg = none

theorem attached_release (system : System Ties) (held : Option LegId) (leg : LegId) :
    ((system.release held).leg leg).attached =
      if held = some leg then none else (system.leg leg).attached := by
  cases held with
  | none => rfl
  | some other =>
    rw [release, leg_reviseLeg]
    by_cases same : leg = other
    · subst same
      rw [if_pos rfl]
      split
      · rfl
      · rename_i absent
        have outside : system.legs[leg.serial]? = none :=
          List.getElem?_eq_none (Nat.not_lt.mp fun there => absent ⟨rfl, there⟩)
        rw [System.leg, List.getD_eq_getElem?_getD, outside]
        rfl
    · rw [if_neg fun both => same both.1, if_neg fun both => same (Option.some.inj both).symm]

theorem release_legs_length (system : System Ties) (held : Option LegId) :
    (system.release held).legs.length = system.legs.length := by
  cases held <;> simp [release, reviseLeg]

theorem release_outside (system : System Ties) (held : Option LegId) :
    (system.release held).outside = system.outside := by
  cases held <;> rfl

def recording (system : System Ties) (tie : Tie) : System Ties :=
  { system with outside := tie :: system.outside }

@[simp] theorem connection_recording (system : System Ties) (tie : Tie) (id : ConnectionId) :
    (system.recording tie).connection id = system.connection id := by
  cases id <;> rfl

namespace LegsOwned

theorem of_bonds (legsOwned : before.LegsOwned owner)
    (legs : ∀ id, (after.connection id).leg = (before.connection id).leg)
    (generations : ∀ id, (after.connection id).generation = (before.connection id).generation)
    (attached : ∀ leg, (after.leg leg).attached = (before.leg leg).attached)
    (count : before.legs.length ≤ after.legs.length) (outside : after.outside = before.outside)
    (loose : ∀ id, after.IsLoose id → (after.connection id).leg = none) :
      after.LegsOwned owner where
  owned held := by
    rw [legs] at held
    exact ⟨(legsOwned.owned held).1, Nat.lt_of_lt_of_le (legsOwned.owned held).2 count⟩
  latest held := by
    rw [legs] at held
    rw [outside, generations]
    exact legsOwned.latest held
  attached leg := by
    rw [attached, legs, generations]
    exact legsOwned.attached leg
  past among := by
    rw [outside] at among
    rw [generations]
    exact legsOwned.past among
  distinct := outside ▸ legsOwned.distinct
  loose := loose _

end LegsOwned
end System

namespace Connection

def bond (call : Connection) : Option LegId × Nat × Bool × Bool :=
  (call.leg, call.generation, call.awaitingRedial, call.destroyed)

theorem commit_bond (call : Connection) : call.commit.2.bond = call.bond := by
  unfold commit
  split <;> rfl

end Connection

namespace System.LegsOwned

variable {owner : LegId → ConnectionId} {before after system : System Ties} {id : ConnectionId}

theorem congr (legsOwned : before.LegsOwned owner)
    (bonds : ∀ id, (after.connection id).bond = (before.connection id).bond)
    (attached : ∀ leg, (after.leg leg).attached = (before.leg leg).attached)
    (count : before.legs.length ≤ after.legs.length) (outside : after.outside = before.outside) :
    after.LegsOwned owner := by
  refine legsOwned.of_bonds (fun id => congrArg (·.1) (bonds id))
    (fun id => congrArg (·.2.1) (bonds id))
    attached count outside fun id loose => ?_
  have awaiting := congrArg (·.2.2.1) (bonds id)
  have destroyed := congrArg (·.2.2.2) (bonds id)
  dsimp only [Connection.bond] at awaiting destroyed
  rw [IsLoose, awaiting, destroyed, outside] at loose
  exact (congrArg (·.1) (bonds id)).trans (legsOwned.loose loose)

theorem aside (legsOwned : before.LegsOwned owner)
    (connections : after.connections = before.connections)
    (legs : after.legs = before.legs) (outside : after.outside = before.outside) :
    after.LegsOwned owner :=
  legsOwned.congr (fun id => by rw [connection_congr connections])
    (fun leg => by rw [System.leg, legs]; rfl)
    (Nat.le_of_eq (congrArg List.length legs).symm) outside

theorem revise (legsOwned : system.LegsOwned owner) (id : ConnectionId)
    {change : Connection → Connection}
    (same : (change (system.connection id)).bond = (system.connection id).bond) :
    (system.reviseConnection id change).LegsOwned owner :=
  legsOwned.congr (system.read_reviseConnection (·.bond) same)
    (fun leg => by rw [leg_reviseConnection]) (by simp) (by simp)

theorem reviseLeg (legsOwned : system.LegsOwned owner) (leg : LegId) {change : Leg → Leg}
    (same : ∀ leg, (change leg).attached = leg.attached) :
    (system.reviseLeg leg change).LegsOwned owner := by
  refine legsOwned.congr (fun id => by rw [connection_reviseLeg]) (fun other => ?_)
    (by simp [System.reviseLeg]) rfl
  rw [leg_reviseLeg]
  split
  · rename_i here
    rw [same, here.1]
  · rfl

theorem createLeg (legsOwned : system.LegsOwned owner) (view : RadioSnapshot) :
    ({ system with legs := system.legs ++ [{ view }] } : System Ties).LegsOwned owner := by
  refine legsOwned.congr (fun id => by cases id <;> rfl) (fun leg => ?_) (by simp) rfl
  obtain ⟨serial⟩ := leg
  simp only [System.leg, List.getD_eq_getElem?_getD]
  rcases Nat.lt_trichotomy serial system.legs.length with inside | rfl | past
  · rw [List.getElem?_append_left inside]
  · simp
    rfl
  · rw [List.getElem?_eq_none (by simp; omega), List.getElem?_eq_none (Nat.le_of_lt past)]

theorem create (legsOwned : system.LegsOwned owner) (params : CallParameters) :
    ({ system with connections := system.connections ++ [.create params] } : System Ties).LegsOwned
      owner := by
  refine legsOwned.of_bonds (system.read_append (·.leg) rfl) (system.read_append (·.generation) rfl)
    (fun _ => rfl) (Nat.le_refl _) rfl fun id loose => ?_
  rw [IsLoose, connection_append] at loose
  rw [connection_append]
  split at loose
  · rename_i here
    rw [if_pos here]
    rfl
  · rename_i elsewhere
    rw [if_neg elsewhere]
    exact legsOwned.loose loose

theorem rebound (legsOwned : before.LegsOwned owner) {next : Option LegId} {late : Bool}
    (own : ∀ leg, next = some leg → owner leg = id ∧ leg.serial < before.legs.length)
    (others : ∀ other, other ≠ id → after.connection other = before.connection other)
    (holds : (after.connection id).leg = next)
    (generation : (after.connection id).generation = (before.connection id).generation + 1)
    (loose : (after.connection id).awaitingRedial = true ∨
      (after.connection id).destroyed = true ∧ late = false → next = none)
    (attached : ∀ leg, (after.leg leg).attached =
      if next = some leg then some ⟨id, (before.connection id).generation + 1⟩
      else if (before.connection id).leg = some leg then none
      else (before.leg leg).attached)
    (count : after.legs.length = before.legs.length)
    (outside : after.outside = (next.toList.map fun _ =>
      .made ⟨id, (before.connection id).generation + 1⟩ late) ++ before.outside) :
    after.LegsOwned owner where
  owned {other leg} held := by
    rw [count]
    by_cases same : other = id
    · rw [same, holds] at held
      exact same ▸ own leg held
    · rw [others other same] at held
      exact legsOwned.owned held
  latest {other leg} held := by
    by_cases same : other = id
    · rw [same, holds] at held
      rw [same, outside, generation, held]
      simp [Ties.bridge?, Ties.latest?, Tie.connection, Tie.bridge?]
    · rw [others other same] at held ⊢
      rw [← legsOwned.latest held, outside]
      cases next <;> simp [Ties.bridge?, Ties.latest?, Tie.connection, Ne.symm same]
  attached leg := by
    rw [attached]
    by_cases same : owner leg = id
    · rw [same, holds, generation]
      split
      · rfl
      · split
        · rfl
        · rename_i elsewhere
          rw [legsOwned.attached, same, if_neg elsewhere]
    · rw [others _ same, ← legsOwned.attached]
      have foreign : next ≠ some leg := fun held => same (own leg held).1
      have apart : (before.connection id).leg ≠ some leg :=
        fun held => same (legsOwned.owned held).1
      rw [if_neg foreign, if_neg apart]
  past {bridge} among := by
    have old {bridge : Bridge} (among : bridge ∈ before.outside.bridges) :
        bridge.generation ≤ (after.connection bridge.connection).generation := by
      have past := legsOwned.past among
      by_cases same : bridge.connection = id
      · rw [same] at past ⊢
        omega
      · rwa [others _ same]
    rw [outside] at among
    cases next with
    | none => exact old among
    | some leg =>
      rcases List.mem_cons.mp among with rfl | among
      · exact Nat.le_of_eq generation.symm
      · exact old among
  distinct := by
    rw [outside]
    cases next with
    | none => exact legsOwned.distinct
    | some leg =>
      refine List.nodup_cons.mpr ⟨fun among => ?_, legsOwned.distinct⟩
      have past : (before.connection id).generation + 1 ≤ (before.connection id).generation :=
        legsOwned.past among
      omega
  loose {other} free := by
    by_cases same : other = id
    · subst same
      rw [holds]
      cases next with
      | none => rfl
      | some leg =>
        refine loose (free.imp_right (And.imp_right fun early => ?_))
        rw [outside] at early
        simpa [Ties.isLate, Ties.latest?, Tie.connection, Tie.isLate] using early
    · rw [others _ same]
      refine legsOwned.loose ?_
      rw [IsLoose, others _ same, outside] at free
      cases next with
      | none => exact free
      | some leg =>
        simpa [IsLoose, Ties.isLate, Ties.latest?, Tie.connection, Ne.symm same] using free

/-- The connection loses its leg, and nobody is attached to that any more. -/
theorem unbind (legsOwned : system.LegsOwned owner) (id : ConnectionId)
    {change : Connection → Connection}
    (bare : (change (system.connection id)).leg = none)
    (generation : (change (system.connection id)).generation =
      (system.connection id).generation + 1) :
    ((system.reviseConnection id change).release (system.connection id).leg).LegsOwned owner := by
  by_cases known : system.Known id
  · refine @rebound owner system _ id legsOwned none false (fun _ held => by cases held)
      (fun other differ => ?_) ?_ ?_ (fun _ => rfl) (fun leg => ?_) ?_ ?_
    · rw [connection_release, connection_reviseConnection_other _ differ]
    · rw [connection_release, connection_reviseConnection_known _ known, bare]
    · rw [connection_release, connection_reviseConnection_known _ known, generation]
    · rw [attached_release, leg_reviseConnection]
      rfl
    · rw [release_legs_length, reviseConnection_legs]
    · rw [release_outside, reviseConnection_outside]
      rfl
  · rw [reviseConnection_of_not_known _ known, system.connection_of_not_known known]
    exact legsOwned

/-- A leg is bound to its owner. -/
theorem bind (legsOwned : system.LegsOwned owner) {leg : LegId} (known : system.Known id)
    (own : owner leg = id) (there : leg.serial < system.legs.length) :
    ((system.recording (.made ⟨id, (system.connection id).generation + 1⟩
      (system.connection id).destroyed)).tied id leg).LegsOwned owner := by
  generalize noted : system.recording _ = next
  have same (other : ConnectionId) : next.connection other = system.connection other := by
    rw [← noted, connection_recording]
  have known : next.Known id := by
    subst noted
    cases id <;> exact known
  have bound : (next.tied id leg).connection id =
      .bound leg (next.leg leg).view (system.connection id) := by
    rw [connection_tied, connection_reviseConnection_known _ known, same]
  refine @rebound owner system _ id legsOwned (some leg) (system.connection id).destroyed ?_
    (fun other differ => ?_) ?_ ?_ (fun loose => ?_) (fun other => ?_) ?_ ?_
  · rintro _ ⟨⟩
    exact ⟨own, there⟩
  · rw [connection_tied, connection_reviseConnection_other _ differ, same]
  · rw [bound]
    rfl
  · rw [bound]
    rfl
  · rw [bound] at loose
    rcases loose with awaiting | ⟨gone, early⟩
    · cases awaiting
    · have alive : (system.connection id).destroyed = true := gone
      rw [early] at alive
      cases alive
  · have here : leg.serial < ((next.reviseConnection id (.bound leg (next.leg leg).view)).release
        (next.connection id).leg).legs.length := by
      rw [release_legs_length, reviseConnection_legs, ← noted]
      exact there
    rw [System.tied, System.attached, leg_reviseLeg]
    by_cases mine : other = leg
    · rw [if_pos ⟨mine, here⟩, if_pos (congrArg some mine.symm), same]
    · rw [if_neg fun both => mine both.1, if_neg fun both => mine (Option.some.inj both).symm,
        attached_release, leg_reviseConnection, same, ← noted]
      rfl
  · rw [System.tied, System.attached, System.reviseLeg, List.length_modify, release_legs_length,
      reviseConnection_legs, ← noted]
    rfl
  · rw [System.tied, System.attached, System.reviseLeg, release_outside, reviseConnection_outside,
      ← noted]
    rfl

theorem cut (legsOwned : system.LegsOwned owner) (bare : (system.connection id).leg = none) :
    (system.recording (.cut id)).LegsOwned owner := by
  have kept {other : ConnectionId} (differ : other ≠ id) :
      Ties.latest? (.cut id :: system.outside) other = system.outside.latest? other := by
    rw [Ties.latest?_cons]
    exact if_neg differ.symm
  refine ⟨fun {other leg} held => ?_, fun {other leg} held => ?_, fun leg => ?_,
    fun {bridge} among => ?_, legsOwned.distinct, fun {other} loose => ?_⟩
  all_goals simp only [connection_recording] at *
  · exact legsOwned.owned held
  · have differ : other ≠ id := fun same => by
      rw [same, bare] at held
      cases held
    rw [← legsOwned.latest held, recording, Ties.bridge?, kept differ]
    rfl
  · exact legsOwned.attached leg
  · exact legsOwned.past among
  · by_cases same : other = id
    · exact same ▸ bare
    · refine legsOwned.loose ?_
      rw [IsLoose, connection_recording, recording, Ties.isLate, kept same] at loose
      exact loose

theorem loosen (legsOwned : system.LegsOwned owner) (bare : (system.connection id).leg = none)
    {change : Connection → Connection}
    (leg : (change (system.connection id)).leg = (system.connection id).leg)
    (generation : (change (system.connection id)).generation = (system.connection id).generation) :
    (system.reviseConnection id change).LegsOwned owner := by
  have legs := system.read_reviseConnection (·.leg) leg
  refine legsOwned.of_bonds legs (system.read_reviseConnection (·.generation) generation)
    (fun _ => by rw [leg_reviseConnection]) (by simp) (by simp) fun other loose => ?_
  by_cases same : other = id
  · subst same
    exact (legs _).trans bare
  · rw [IsLoose, connection_reviseConnection_other _ same, reviseConnection_outside] at loose
    exact (legs _).trans (legsOwned.loose loose)

end System.LegsOwned
end Switchboard
