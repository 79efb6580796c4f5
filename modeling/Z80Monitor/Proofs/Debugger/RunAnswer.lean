import Z80Monitor.Debugger.Run
import Z80Monitor.Proofs.Debugger.Stepping

/-!
# Answers of runs

A run under any policy makes single steps. It gives their snapshots, or it fails behind the first
step of which the policy makes a failure, and then gives what this one step did and no snapshot.
Only a run that has made all steps that its limit admits ends by its limit.
-/

namespace Z80Monitor.Session

variable (session : Session)

/-- The policy makes a failure of none of the first steps. -/
def Passes (made : Nat) : Prop := ∀ step < made, session.fails (session.snapshotAt step) = false

/-- What a run may give that makes at most `limit` steps, and the session that it leaves. -/
inductive Answers (limit : Nat) : Except UnimplementedOpcode RunResult × Session → Prop where
  /-- The run ends behind steps that all pass. -/
  | ended {total : Nat} {reason : StopReason} (within : total ≤ limit)
      (passed : session.Passes total) (full : reason = .stepLimit → total = limit) :
      Answers limit (.ok ⟨reason, session.snapshots total⟩, session.after total)
  /-- The run fails at the first step that does not pass. -/
  | failed {total : Nat} (within : total < limit) (passed : session.Passes total)
      (fails : session.fails (session.snapshotAt total) = true) :
      Answers limit (.error ⟨(session.snapshotAt total).result⟩, session.after (total + 1))

/-- Steps keep what the policy makes a failure of. -/
theorem fails_after (made : Nat) (snapshot : Snapshot) :
    (session.after made).fails snapshot = session.fails snapshot := by
  unfold fails
  rw [configuration_after]

/-- A step that passes is answered by its snapshot. -/
theorem stepInstruction_of_passes {made : Nat}
    (passes : session.fails (session.snapshotAt made) = false) :
    (session.after made).stepInstruction =
      (.ok (session.snapshotAt made), session.after (made + 1)) := by
  have kept : (session.after made).fails (session.after made).advance.1 = false := by
    rw [fails_after]
    exact passes
  have step := stepInstruction_of_fails kept
  rw [after, step]
  rfl

/-- A step that does not pass is made, and answered by a failure. -/
theorem stepInstruction_of_not_passes {made : Nat}
    (fails : session.fails (session.snapshotAt made) = true) :
    (session.after made).stepInstruction =
      (.error ⟨(session.snapshotAt made).result⟩, session.after (made + 1)) := by
  have kept : (session.after made).fails (session.after made).advance.1 = true := by
    rw [fails_after]
    exact fails
  have step := stepInstruction_of_failing kept
  rw [after, step]
  rfl

variable {session}

section Round

variable {after : Session} {stopDuring : Option Nat} {made : Array Snapshot}

/-- A run that ends in front of a step makes no more steps. -/
theorem runFrom_of_endsBefore {reason : StopReason}
    (ended : session.endsBefore made.size stopDuring = some reason) (remaining : Nat) :
    session.runFrom stopDuring (remaining + 1) made = (.ok ⟨reason, made.toList⟩, session) := by
  rw [Session.runFrom, ended]

/-- A run whose step fails does so as well. -/
theorem runFrom_of_error {failure : UnimplementedOpcode}
    (going : session.endsBefore made.size stopDuring = none)
    (step : session.stepInstruction = (.error failure, after)) (remaining : Nat) :
    session.runFrom stopDuring (remaining + 1) made = (.error failure, after) := by
  rw [Session.runFrom, going, step]

/-- A run whose step is answered ends behind it or goes on from there. -/
theorem runFrom_of_ok {snapshot : Snapshot}
    (going : session.endsBefore made.size stopDuring = none)
    (step : session.stepInstruction = (.ok snapshot, after)) (remaining : Nat) :
    session.runFrom stopDuring (remaining + 1) made =
      match after.endsAfter snapshot session.cpu.state.registers.display with
      | some reason => (.ok ⟨reason, (made.push snapshot).toList⟩, after)
      | none => after.runFrom stopDuring remaining (made.push snapshot) := by
  cases behind : after.endsAfter snapshot session.cpu.state.registers.display with
  | some reason => simp only [Session.runFrom, going, step, behind]
  | none => simp only [Session.runFrom, going, step, behind]

end Round

/-- In front of a step a run ends only by a request, halted or at a breakpoint. -/
theorem mem_of_endsBefore {made : Nat} {stopDuring : Option Nat} {reason : StopReason}
    (ended : session.endsBefore made stopDuring = some reason) :
    reason ∈ [StopReason.stopped, .halted, .breakpoint] := by
  unfold endsBefore at ended
  split at ended
  · obtain rfl := Option.some.inj ended
    decide
  · split at ended
    · obtain rfl := Option.some.inj ended
      decide
    · split at ended
      · obtain rfl := Option.some.inj ended
        decide
      · cases ended

/-- A step itself ends a run only as unimplemented, by halting or at a breakpoint. -/
theorem mem_of_endsAfter {snapshot : Snapshot} {before : RegisterMap} {reason : StopReason}
    (ended : session.endsAfter snapshot before = some reason) :
    reason ∈ [StopReason.unimplemented, .halted, .breakpoint] := by
  unfold endsAfter at ended
  split at ended
  · obtain rfl := Option.some.inj ended
    decide
  · split at ended
    · obtain rfl := Option.some.inj ended
      decide
    · split at ended
      · obtain rfl := Option.some.inj ended
        decide
      · cases ended

/-- One more step passes where it does and those in front of it do. -/
theorem Passes.succ {made : Nat} (passed : session.Passes made)
    (passes : session.fails (session.snapshotAt made) = false) : session.Passes (made + 1) := by
  intro step inside
  rcases Nat.lt_succ_iff_lt_or_eq.mp inside with before | same
  · exact passed step before
  · rw [same]
    exact passes

/-- Steps pass where those in front of a step and those behind it do. -/
theorem Passes.add {first second : Nat} (passed : session.Passes first)
    (behind : (session.after first).Passes second) : session.Passes (first + second) := by
  intro step inside
  rcases Nat.lt_or_ge step first with before | later
  · exact passed step before
  · obtain ⟨more, rfl⟩ := Nat.exists_eq_add_of_le later
    rw [snapshotAt_add, ← fails_after session first]
    exact behind more (by omega)

/-- A run that has made steps that pass goes on to one of its answers. -/
theorem Passes.runFrom {made : Nat} (passed : session.Passes made) (stopDuring : Option Nat)
    (remaining : Nat) :
    session.Answers (made + remaining)
      ((session.after made).runFrom stopDuring remaining (session.snapshots made).toArray) := by
  -- The steps made so far pass, which the next step has to keep for the run to go on.
  induction remaining generalizing made with
  | zero => exact .ended (Nat.le_refl made) passed fun _ => rfl
  | succ remaining ih =>
    cases front : (session.after made).endsBefore (session.snapshots made).toArray.size
        stopDuring with
    | some reason =>
      have unlimited : reason ≠ .stepLimit :=
        fun limited => absurd (limited ▸ mem_of_endsBefore front) (by decide)
      rw [runFrom_of_endsBefore front]
      exact .ended (Nat.le_add_right made _) passed fun limited => absurd limited unlimited
    | none =>
      cases fails : session.fails (session.snapshotAt made) with
      | true =>
        rw [runFrom_of_error front (session.stepInstruction_of_not_passes fails)]
        exact .failed (by omega) passed fails
      | false =>
        have pushed : (session.snapshots made).toArray.push (session.snapshotAt made) =
            (session.snapshots (made + 1)).toArray := by
          rw [List.push_toArray, snapshots_succ]
        rw [runFrom_of_ok front (session.stepInstruction_of_passes fails), pushed]
        cases behind : (session.after (made + 1)).endsAfter (session.snapshotAt made)
            (session.after made).cpu.state.registers.display with
        | some reason =>
          have unlimited : reason ≠ .stepLimit :=
            fun limited => absurd (limited ▸ mem_of_endsAfter behind) (by decide)
          exact .ended (by omega) (passed.succ fails) fun limited => absurd limited unlimited
        | none =>
          have further := ih (passed.succ fails)
          rwa [show made + 1 + remaining = made + (remaining + 1) by omega] at further

/-- Every run gives one of its answers. -/
theorem run_answers (session : Session) (limit : Option Int) (stopDuring : Option Nat) :
    session.Answers (limit.getD session.configuration.stepsPerTick).toNat
      (session.run limit stopDuring) := by
  have start : session.Passes 0 := fun _ inside => absurd inside (Nat.not_lt_zero _)
  have ran := start.runFrom stopDuring (limit.getD session.configuration.stepsPerTick).toNat
  rwa [Nat.zero_add] at ran

/-- Every run makes some number of single steps, whose snapshots it gives unless it fails. -/
theorem exists_run_eq_after (session : Session) (limit : Option Int) (stopDuring : Option Nat) :
    ∃ total, (session.run limit stopDuring).2 = session.after total ∧
      ∀ result, (session.run limit stopDuring).1 = .ok result →
        result.snapshots = session.snapshots total := by
  generalize ran : session.run limit stopDuring = answer
  cases ran ▸ session.run_answers limit stopDuring with
  | @ended total reason within passed full =>
    refine ⟨total, rfl, ?_⟩
    rintro _ ⟨⟩
    rfl
  | @failed total within passed fails => exact ⟨total + 1, rfl, fun _ given => nomatch given⟩

/-- Runs look at nothing that a change of sessions concerns, and keep it. -/
structure Unnoticed (change : Session → Session) : Prop where
  /-- Steps do not look at it. -/
  unseen : Unseen change
  /-- The state of the processor is the same. -/
  state (session : Session) : (change session).cpu.state = session.cpu.state
  /-- The same addresses are those of breakpoints. -/
  holdAt (session : Session) (pc : UInt16) :
    (change session).breakpoints.holdAt pc.toNat = session.breakpoints.holdAt pc.toNat
  /-- The same steps meet breakpoints. -/
  holdAfter (session : Session) (snapshot : Snapshot) (before after : RegisterMap) :
    (change session).breakpoints.holdAfter snapshot.touched before after =
      session.breakpoints.holdAfter snapshot.touched before after
  /-- The policy is the same. -/
  policy (session : Session) :
    (change session).configuration.onUnimplemented = session.configuration.onUnimplemented

namespace Unnoticed

variable {change : Session → Session} (unnoticed : Unnoticed change)

include unnoticed

/-- A step behind a change that runs do not look at is answered likewise. -/
theorem stepInstruction (session : Session) :
    (change session).stepInstruction = session.stepInstruction.map id change := by
  unfold Session.stepInstruction fails
  rw [unnoticed.unseen, unnoticed.policy]
  rfl

/-- A run behind a change that it does not look at goes on as it does without. -/
theorem runFrom (session : Session) (stopDuring : Option Nat) (remaining : Nat)
    (made : Array Snapshot) :
    (change session).runFrom stopDuring remaining made =
      (session.runFrom stopDuring remaining made).map id change := by
  induction remaining generalizing session made with
  | zero => rfl
  | succ remaining ih =>
    have front : (change session).endsBefore made.size stopDuring =
        session.endsBefore made.size stopDuring := by
      unfold endsBefore Cpu.pc
      rw [unnoticed.state, unnoticed.holdAt]
    cases before : session.endsBefore made.size stopDuring with
    | some reason =>
      rw [runFrom_of_endsBefore before, runFrom_of_endsBefore (front.trans before)]
      rfl
    | none =>
      have same := unnoticed.stepInstruction session
      rcases step : session.stepInstruction with ⟨failure | snapshot, after⟩
      · rw [step] at same
        rw [runFrom_of_error before step, runFrom_of_error (front.trans before) same]
        rfl
      · rw [step] at same
        have behind (registers : RegisterMap) :
            (change after).endsAfter snapshot registers = after.endsAfter snapshot registers := by
          unfold endsAfter
          rw [unnoticed.state, unnoticed.holdAfter, unnoticed.policy]
        rw [runFrom_of_ok before step, runFrom_of_ok (front.trans before) same, unnoticed.state,
          behind]
        cases after.endsAfter snapshot session.cpu.state.registers.display with
        | some reason => rfl
        | none => exact ih after (made.push snapshot)

/-- A run that is admitted as many steps behind a change that it does not look at is answered as it
is without. -/
theorem run (session : Session) (limit : Option Int) (stopDuring : Option Nat)
    (admitted : limit.getD (change session).configuration.stepsPerTick =
      limit.getD session.configuration.stepsPerTick) :
    (change session).run limit stopDuring = (session.run limit stopDuring).map id change := by
  unfold Session.run
  rw [admitted]
  exact unnoticed.runFrom session stopDuring _ #[]

end Unnoticed

end Z80Monitor.Session
