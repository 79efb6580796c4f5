import Z80Monitor.Proofs.Debugger.RunAnswer

/-!
# Where runs end

Counted in steps, a run ends at the first number of steps at which something ends it. What ends
it there is said by `Session.ending`, in the order in which the causes count, and looks only at
the sessions that single steps lead to. The main statement says that a run is these single steps
up to its first ending.
-/

namespace Z80Monitor

/-- An access of a kind at the breakpoint's address is among those of the step. -/
def Breakpoint.Touched (breakpoint : Breakpoint) (kind : AccessKind) (snapshot : Snapshot) : Prop :=
  ∃ access ∈ snapshot.bus,
    access.kind = kind ∧ breakpoint.address = some (access.address.toNat : Int)

/-- A condition other than on the program counter holds for a step that started with the
registers `before`. -/
def Breakpoint.MetBy (breakpoint : Breakpoint) (before : Registers) (snapshot : Snapshot) : Prop :=
  match breakpoint.kind with
  | .pcMatch => False
  | .memoryRead => breakpoint.Touched .read snapshot
  | .memoryWrite => breakpoint.Touched .write snapshot
  | .registerValue =>
    ∃ value, breakpoint.registerIn snapshot.state.registers.display = some value ∧
      breakpoint.value = some value
  | .registerChange =>
    ∃ value, breakpoint.registerIn snapshot.state.registers.display = some value ∧
      breakpoint.registerIn before.display ≠ some value

/-- A condition on the program counter holds at `pc`. -/
def Breakpoint.MetAt (breakpoint : Breakpoint) (pc : UInt16) : Prop :=
  breakpoint.kind = .pcMatch ∧ breakpoint.value = some (pc.toNat : Int)

namespace Breakpoints

variable (breakpoints : Breakpoints)

/-- An enabled condition other than on the program counter holds for a step. -/
def SomeMetBy (before : Registers) (snapshot : Snapshot) : Prop :=
  ∃ breakpoint ∈ breakpoints, breakpoint.enabled = true ∧ breakpoint.MetBy before snapshot

/-- An enabled condition on the program counter holds at `pc`. -/
def SomeMetAt (pc : UInt16) : Prop :=
  ∃ breakpoint ∈ breakpoints, breakpoint.enabled = true ∧ breakpoint.MetAt pc

end Breakpoints

/-- The accesses of a step have the breakpoint's address among them where the step touched it. -/
theorem Breakpoint.touches_iff (breakpoint : Breakpoint) (kind : AccessKind)
    (snapshot : Snapshot) :
    breakpoint.touches kind snapshot.touched = true ↔ breakpoint.Touched kind snapshot := by
  unfold touches Touched Snapshot.touched
  cases breakpoint.address with
  | none =>
    constructor
    · intro found
      cases found
    · rintro ⟨access, _, _, absent⟩
      cases absent
  | some address =>
    rw [List.contains_iff_mem, List.mem_map]
    constructor
    · rintro ⟨access, listed, same⟩
      rw [Prod.mk.injEq] at same
      exact ⟨access, listed, same.1, congrArg some same.2.symm⟩
    · rintro ⟨access, listed, sameKind, sameAddress⟩
      exact ⟨access, listed, Prod.ext sameKind (Option.some.inj sameAddress).symm⟩

/-- A breakpoint is found to hold behind a step where it is enabled and met by the step. -/
theorem Breakpoint.holdsAfter_iff (breakpoint : Breakpoint) (before : Registers)
    (snapshot : Snapshot) :
    breakpoint.holdsAfter snapshot.touched before.display snapshot.state.registers.display = true ↔
      breakpoint.enabled = true ∧ breakpoint.MetBy before snapshot := by
  unfold holdsAfter MetBy
  rw [Bool.and_eq_true]
  cases breakpoint.kind with
  | pcMatch => simp
  | memoryRead => rw [touches_iff]
  | memoryWrite => rw [touches_iff]
  | registerValue =>
    cases breakpoint.registerIn snapshot.state.registers.display with
    | none => simp
    | some value => simp
  | registerChange =>
    cases breakpoint.registerIn snapshot.state.registers.display with
    | none => simp
    | some value => simp

namespace Breakpoints

/-- A breakpoint is found to hold behind a step where one is met by it. -/
theorem holdAfter_iff (breakpoints : Breakpoints) (before : Registers) (snapshot : Snapshot) :
    breakpoints.holdAfter snapshot.touched before.display snapshot.state.registers.display = true ↔
      breakpoints.SomeMetBy before snapshot := by
  unfold holdAfter SomeMetBy
  rw [List.any_eq_true]
  simp only [Breakpoint.holdsAfter_iff]

/-- A breakpoint is found to hold at an address where one is met there. -/
theorem holdAt_iff (breakpoints : Breakpoints) (pc : UInt16) :
    breakpoints.holdAt pc.toNat = true ↔ breakpoints.SomeMetAt pc := by
  unfold holdAt SomeMetAt
  rw [List.any_eq_true]
  simp only [Breakpoint.holdsAt, Breakpoint.MetAt, Bool.and_eq_true, beq_iff_eq, and_assoc]

instance (breakpoints : Breakpoints) (before : Registers) (snapshot : Snapshot) :
    Decidable (breakpoints.SomeMetBy before snapshot) :=
  decidable_of_iff _ (breakpoints.holdAfter_iff before snapshot)

instance (breakpoints : Breakpoints) (pc : UInt16) : Decidable (breakpoints.SomeMetAt pc) :=
  decidable_of_iff _ (breakpoints.holdAt_iff pc)

end Breakpoints

namespace Session

/-- What a number of steps ends a run by, if they do: the first of the causes that holds. In
front of the first step breakpoints do not count. -/
def ending (session : Session) (limit : Int) (stopDuring : Option Nat) :
    (made : Nat) → Option StopReason
  | 0 =>
    if limit ≤ 0 then some .stepLimit
    else if session.cpu.state.halted = true then some .halted
    else none
  | made + 1 =>
    let before := session.after made
    let snapshot := session.snapshotAt made
    let now := session.after (made + 1)
    if session.configuration.onUnimplemented = .stop ∧ snapshot.result.status = .unimplemented then
      some .unimplemented
    else if now.cpu.state.halted = true then some .halted
    else if session.breakpoints.SomeMetBy before.cpu.state.registers snapshot then some .breakpoint
    else if (made + 1 : Nat) = limit then some .stepLimit
    else if stopDuring = some (made + 1) then some .stopped
    else if session.breakpoints.SomeMetAt now.cpu.pc then some .breakpoint
    else none

/-- A number of steps is the first to end a run, and ends it for the reason. -/
def EndsAt (session : Session) (limit : Int) (stopDuring : Option Nat) (made : Nat)
    (reason : StopReason) : Prop :=
  session.ending limit stopDuring made = some reason ∧
    ∀ earlier < made, session.ending limit stopDuring earlier = none

variable (session : Session)

/-- What ends a run in front of its first step is only that the processor is halted. -/
theorem endsBefore_zero (stopDuring : Option Nat) :
    session.endsBefore 0 stopDuring =
      if session.cpu.state.halted = true then some .halted else none := by
  unfold endsBefore
  simp

/-- What ends a run in front of a later step. -/
theorem endsBefore_succ (made : Nat) (stopDuring : Option Nat) :
    session.endsBefore (made + 1) stopDuring =
      if stopDuring = some (made + 1) then some .stopped
      else if session.cpu.state.halted = true then some .halted
      else if session.breakpoints.SomeMetAt session.cpu.pc then some .breakpoint
      else none := by
  unfold endsBefore
  simp only [Nat.zero_lt_succ, decide_true, Bool.true_and, beq_iff_eq, Breakpoints.holdAt_iff]

/-- What ends a run behind the step after `made` steps. -/
theorem endsAfter_snapshotAt (made : Nat) :
    (session.after (made + 1)).endsAfter (session.snapshotAt made)
        (session.after made).cpu.state.registers.display =
      if session.configuration.onUnimplemented = .stop ∧
          (session.snapshotAt made).result.status = .unimplemented then some .unimplemented
      else if (session.after (made + 1)).cpu.state.halted = true then some .halted
      else if session.breakpoints.SomeMetBy (session.after made).cpu.state.registers
          (session.snapshotAt made) then some .breakpoint
      else none := by
  unfold endsAfter
  rw [← state_snapshotAt]
  simp only [StepResult.unimplemented, Bool.and_eq_true, beq_iff_eq, configuration_after,
    breakpoints_after, Breakpoints.holdAfter_iff, and_comm]

/-- What ends a run behind the latest of `made` steps, if there is one. -/
def endsBehind (session : Session) : (made : Nat) → Option StopReason
  | 0 => none
  | made + 1 =>
    (session.after (made + 1)).endsAfter (session.snapshotAt made)
      (session.after made).cpu.state.registers.display

/-- What ends a run behind its latest step, by the check that the run makes. -/
theorem endsBehind_succ (made : Nat) :
    session.endsBehind (made + 1) =
      (session.after (made + 1)).endsAfter (session.snapshotAt made)
        (session.after made).cpu.state.registers.display := rfl

variable {session} in
/-- The latest step itself ends a run only as unimplemented, by halting or at a breakpoint. -/
theorem mem_of_endsBehind {made : Nat} {reason : StopReason}
    (ended : session.endsBehind made = some reason) :
    reason ∈ [StopReason.unimplemented, .halted, .breakpoint] := by
  cases made with
  | zero => cases ended
  | succ made => exact mem_of_endsAfter ended

/-- A limit is not what ends a run behind a step. -/
theorem endsBehind_ne_stepLimit (made : Nat) : session.endsBehind made ≠ some .stepLimit :=
  fun limited => absurd (mem_of_endsBehind limited) (by decide)

/-- Where nothing ends a run behind a step, the step has not halted the processor. -/
theorem running_of_endsBehind {made : Nat} (past : session.endsBehind (made + 1) = none) :
    (session.after (made + 1)).cpu.state.halted = false := by
  rw [endsBehind_succ, endsAfter_snapshotAt] at past
  split at past
  · cases past
  · split at past
    · cases past
    · rename_i running
      exact Bool.eq_false_iff.mpr running

/-- What ends a run behind a step counts before everything else. -/
theorem ending_succ (limit : Int) (stopDuring : Option Nat) (made : Nat) :
    session.ending limit stopDuring (made + 1) =
      (session.endsBehind (made + 1)).or
        (if (made + 1 : Nat) = limit then some .stepLimit
        else if stopDuring = some (made + 1) then some .stopped
        else if session.breakpoints.SomeMetAt (session.after (made + 1)).cpu.pc then
          some .breakpoint
        else none) := by
  rw [ending, endsBehind_succ, endsAfter_snapshotAt]
  by_cases unknown : session.configuration.onUnimplemented = .stop ∧
      (session.snapshotAt made).result.status = .unimplemented
  · rw [if_pos unknown, if_pos unknown, Option.some_or]
  rw [if_neg unknown, if_neg unknown]
  by_cases halted : (session.after (made + 1)).cpu.state.halted = true
  · rw [if_pos halted, if_pos halted, Option.some_or]
  rw [if_neg halted, if_neg halted]
  by_cases met : session.breakpoints.SomeMetBy (session.after made).cpu.state.registers
      (session.snapshotAt made)
  · rw [if_pos met, if_pos met, Option.some_or]
  rw [if_neg met, if_neg met, Option.none_or]

/-- As long as the limit is not passed, what ends a run is found behind its latest step, or else
in its limit, or else in front of its next step. -/
theorem ending_eq (limit : Int) (stopDuring : Option Nat) (made : Nat)
    (within : made ≤ limit.toNat) :
    session.ending limit stopDuring made =
      (session.endsBehind made).or
        (if limit.toNat = made then some .stepLimit
        else (session.after made).endsBefore made stopDuring) := by
  cases made with
  | zero =>
    have reached : limit.toNat = 0 ↔ limit ≤ 0 := by omega
    rw [ending, endsBehind, after, endsBefore_zero, Option.none_or]
    simp only [reached]
  | succ made =>
    have reached : limit.toNat = made + 1 ↔ (made + 1 : Nat) = limit := by omega
    rw [ending_succ]
    cases past : session.endsBehind (made + 1) with
    | some reason => rw [Option.some_or, Option.some_or]
    | none =>
      have running := session.running_of_endsBehind past
      rw [endsBefore_succ, running]
      simp only [reached, breakpoints_after, Bool.false_eq_true, if_false]

/-- A run has one first ending. -/
theorem EndsAt.unique {session : Session} {limit : Int} {stopDuring : Option Nat}
    {made other : Nat} {reason otherReason : StopReason}
    (ends : session.EndsAt limit stopDuring made reason)
    (otherEnds : session.EndsAt limit stopDuring other otherReason) :
    made = other ∧ reason = otherReason := by
  have same : made = other := by
    rcases Nat.lt_trichotomy made other with before | same | behind
    · have none := otherEnds.2 made before
      rw [ends.1] at none
      cases none
    · exact same
    · have none := ends.2 other behind
      rw [otherEnds.1] at none
      cases none
  subst same
  exact ⟨rfl, Option.some.inj (ends.1.symm.trans otherEnds.1)⟩

/-- A run that is admitted a step makes one, unless the processor is halted. -/
theorem EndsAt.pos {session : Session} {limit : Int} {stopDuring : Option Nat} {total : Nat}
    {reason : StopReason} (ends : session.EndsAt limit stopDuring total reason)
    (admitted : 1 ≤ limit) (running : session.cpu.state.halted = false) : 1 ≤ total := by
  rcases Nat.eq_zero_or_pos total with zero | positive
  · subst zero
    have first := ends.1
    rw [ending, if_neg (show ¬limit ≤ 0 by omega), running] at first
    cases first
  · exact positive

/-- A run that has come past `made` steps goes on to its first ending. -/
theorem exists_runFrom_eq {session : Session}
    (tolerant : session.configuration.onUnimplemented ≠ .fail) (limit : Int)
    (stopDuring : Option Nat) (remaining made : Nat) (budget : limit.toNat = made + remaining)
    (past : session.endsBehind made = none)
    (quiet : ∀ earlier < made, session.ending limit stopDuring earlier = none) :
    ∃ total reason, session.EndsAt limit stopDuring total reason ∧
      (session.after made).runFrom stopDuring remaining (session.snapshots made).toArray =
        (.ok ⟨reason, session.snapshots total⟩, session.after total) := by
  -- Each round keeps that no number of steps so far has ended the run, and that the check behind
  -- the latest step has been passed.
  induction remaining generalizing made with
  | zero =>
    have ends : session.ending limit stopDuring made = some .stepLimit := by
      rw [session.ending_eq limit stopDuring made (by omega), past, Option.none_or,
        if_pos (by omega)]
    exact ⟨made, .stepLimit, ⟨ends, quiet⟩, rfl⟩
  | succ remaining ih =>
    have size : (session.snapshots made).toArray.size = made := session.length_snapshots made
    have front : session.ending limit stopDuring made =
        (session.after made).endsBefore (session.snapshots made).toArray.size stopDuring := by
      rw [session.ending_eq limit stopDuring made (by omega), past, Option.none_or,
        if_neg (by omega), size]
    cases before : (session.after made).endsBefore (session.snapshots made).toArray.size
        stopDuring with
    | some reason =>
      rw [before] at front
      exact ⟨made, reason, ⟨front, quiet⟩, runFrom_of_endsBefore before remaining⟩
    | none =>
      rw [before] at front
      have quieter : ∀ earlier < made + 1, session.ending limit stopDuring earlier = none := by
        intro earlier inside
        rcases Nat.lt_succ_iff_lt_or_eq.mp inside with earlierStill | same
        · exact quiet earlier earlierStill
        · rw [same, front]
      have behind := session.ending_eq limit stopDuring (made + 1) (by omega)
      have pushed : (session.snapshots made).toArray.push (session.snapshotAt made) =
          (session.snapshots (made + 1)).toArray := by
        rw [List.push_toArray, snapshots_succ]
      rw [runFrom_of_ok before (stepInstruction_after tolerant made), pushed, ← endsBehind_succ]
      cases after : session.endsBehind (made + 1) with
      | some reason =>
        rw [after, Option.some_or] at behind
        exact ⟨made + 1, reason, ⟨behind, quieter⟩, rfl⟩
      | none => exact ih (made + 1) (by omega) after quieter

/-- A run makes single steps up to its first ending. -/
theorem exists_run_eq {session : Session}
    (tolerant : session.configuration.onUnimplemented ≠ .fail) (limit : Option Int)
    (stopDuring : Option Nat) :
    ∃ total reason,
      session.EndsAt (limit.getD session.configuration.stepsPerTick) stopDuring total reason ∧
        session.run limit stopDuring =
          (.ok ⟨reason, session.snapshots total⟩, session.after total) :=
  exists_runFrom_eq tolerant _ stopDuring _ 0 (Nat.zero_add _).symm rfl
    fun _ inside => absurd inside (Nat.not_lt_zero _)

/-- A run is known by its first ending. -/
theorem run_eq_of_endsAt {session : Session}
    (tolerant : session.configuration.onUnimplemented ≠ .fail) {limit : Int}
    {stopDuring : Option Nat} {total : Nat} {reason : StopReason}
    (ends : session.EndsAt limit stopDuring total reason) :
    session.run (some limit) stopDuring =
      (.ok ⟨reason, session.snapshots total⟩, session.after total) := by
  obtain ⟨found, foundReason, foundEnds, ran⟩ :=
    session.exists_run_eq tolerant (some limit) stopDuring
  obtain ⟨rfl, rfl⟩ := foundEnds.unique ends
  exact ran

/-- Under a policy other than to fail, a run is the single steps up to the first number of steps
that ends it, and gives the cause that counts first there. Where a step is admitted and the
processor is not halted, there is at least one. -/
theorem run_ends_at_first_ending (session : Session) (limit : Option Int)
    (stopDuring : Option Nat) (tolerant : session.configuration.onUnimplemented ≠ .fail) :
    let steps : Int := limit.getD session.configuration.stepsPerTick
    ∃ total result,
      session.run limit stopDuring = (.ok result, session.after total) ∧
      result.snapshots.map .ok = session.answers total ∧
      session.ending steps stopDuring total = some result.reason ∧
      (∀ earlier < total, session.ending steps stopDuring earlier = none) ∧
      (1 ≤ steps → session.cpu.state.halted = false → 1 ≤ total) := by
  intro steps
  obtain ⟨total, reason, ends, ran⟩ := exists_run_eq tolerant limit stopDuring
  refine ⟨total, _, ran, (answers_eq tolerant total).symm, ends.1, ends.2, ?_⟩
  exact fun admitted running => ends.pos admitted running

/-- Nothing ends a run over a blank memory until the second step has led it to a breakpoint. -/
theorem endsAt_of_blank :
    EndsAt { cpu := .powerOn, configuration := {}, breakpoints := [.atAddress 2] } 5 none 2
      .breakpoint := by
  constructor
  · decide +kernel
  · decide +kernel

/-- So this run is two steps. -/
theorem run_ends_at_breakpoint :
    let session : Session :=
      { cpu := .powerOn, configuration := {}, breakpoints := [.atAddress 2] }
    session.configuration.onUnimplemented ≠ .fail ∧
      ∃ result, session.run (some 5) none = (.ok result, session.after 2) ∧
        result.snapshots.map .ok = session.answers 2 ∧ result.reason = .breakpoint := by
  intro session
  have tolerant : session.configuration.onUnimplemented ≠ .fail := by decide
  obtain ⟨total, result, ran, answered, ends, quiet, _⟩ :=
    run_ends_at_first_ending session (some 5) none tolerant
  obtain ⟨rfl, reason⟩ := EndsAt.unique ⟨ends, quiet⟩ endsAt_of_blank
  exact ⟨tolerant, result, ran, answered, reason⟩

end Session

end Z80Monitor
