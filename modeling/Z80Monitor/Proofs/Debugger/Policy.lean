import Mathlib.Data.Nat.Find
import Z80Monitor.Proofs.Debugger.RunEnding

/-!
# Policies for unknown opcodes

The same run under the three policies. Steps do not look at the policy, so that all three runs make
the same steps for as long as they go on. Under the policy to stop, the run ends behind the first
step that meets an opcode which stands for no instruction. Under the policy to fail it fails there,
with what this step did, and leaves the session as the other run does. Where no step meets such an
opcode the three runs are the same.
-/

namespace Z80Monitor.Session

/-- A session under another policy. -/
def withPolicy (session : Session) (policy : UnimplementedPolicy) : Session :=
  { session with configuration := { session.configuration with onUnimplemented := policy } }

variable (session : Session) (policy : UnimplementedPolicy)

variable {policy} in
/-- A policy other than to fail is tolerant in every session. -/
theorem tolerant_withPolicy (tolerant : policy ≠ .fail) :
    (session.withPolicy policy).configuration.onUnimplemented ≠ .fail := tolerant

/-- Steps do not look at the policy. -/
theorem unseen_withPolicy : Unseen (·.withPolicy policy) := fun _ => rfl

/-- Steps lead to the same sessions under every policy, apart from the policy itself. -/
theorem after_withPolicy (made : Nat) :
    (session.withPolicy policy).after made = (session.after made).withPolicy policy :=
  (unseen_withPolicy policy).after session made

/-- A step leaves the same to be seen under every policy. -/
theorem snapshotAt_withPolicy (made : Nat) :
    (session.withPolicy policy).snapshotAt made = session.snapshotAt made :=
  (unseen_withPolicy policy).snapshotAt session made

/-- Steps leave the same to be seen under every policy. -/
theorem snapshots_withPolicy (made : Nat) :
    (session.withPolicy policy).snapshots made = session.snapshots made :=
  (unseen_withPolicy policy).snapshots session made

/-- The step after `made` steps meets an opcode that stands for no instruction. -/
def MeetsUnknown (session : Session) (made : Nat) : Prop :=
  (session.snapshotAt made).result.unimplemented = true

instance (session : Session) (made : Nat) : Decidable (session.MeetsUnknown made) :=
  inferInstanceAs (Decidable (_ = true))

section Stopping

variable (limit : Int) (stopDuring : Option Nat)

/-- Under the policy to stop, a run ends where it ends under the policy to go on, and behind each
step that meets an unknown opcode. -/
theorem ending_stop_succ (made : Nat) :
    (session.withPolicy .stop).ending limit stopDuring (made + 1) =
      if session.MeetsUnknown made then some .unimplemented
      else (session.withPolicy .proceed).ending limit stopDuring (made + 1) := by
  have stops : (session.withPolicy .stop).configuration.onUnimplemented = .stop := rfl
  have proceeds : ¬(session.withPolicy .proceed).configuration.onUnimplemented = .stop :=
    show UnimplementedPolicy.proceed ≠ .stop by decide
  have meets : (session.snapshotAt made).result.status = .unimplemented ↔
      session.MeetsUnknown made := beq_iff_eq.symm
  simp only [ending, snapshotAt_withPolicy, after_withPolicy, stops, proceeds, meets, true_and,
    false_and, if_false]
  rfl

variable {session limit stopDuring} {total : Nat} {reason : StopReason}

/-- A number of steps none of which meets an unknown opcode ends a run under the policy to stop
by what it ends it by under the policy to go on. -/
theorem ending_stop_of_known {made : Nat}
    (known : ∀ step < made, ¬session.MeetsUnknown step) :
    (session.withPolicy .stop).ending limit stopDuring made =
      (session.withPolicy .proceed).ending limit stopDuring made := by
  cases made with
  | zero => rfl
  | succ made => rw [ending_stop_succ, if_neg (known made (Nat.lt_succ_self made))]

/-- A run none of whose steps meets an unknown opcode ends in the same way under the policy to
stop. -/
theorem EndsAt.stop_of_known
    (ends : (session.withPolicy .proceed).EndsAt limit stopDuring total reason)
    (known : ∀ step < total, ¬session.MeetsUnknown step) :
    (session.withPolicy .stop).EndsAt limit stopDuring total reason := by
  constructor
  · rw [ending_stop_of_known known]
    exact ends.1
  · intro earlier before
    rw [ending_stop_of_known fun step inside => known step (Nat.lt_trans inside before)]
    exact ends.2 earlier before

/-- Under the policy to stop, a run ends behind the first step that meets an unknown opcode. -/
theorem EndsAt.stop_of_unknown
    (ends : (session.withPolicy .proceed).EndsAt limit stopDuring total reason) {first : Nat}
    (inside : first < total) (unknown : session.MeetsUnknown first)
    (known : ∀ step < first, ¬session.MeetsUnknown step) :
    (session.withPolicy .stop).EndsAt limit stopDuring (first + 1) .unimplemented := by
  constructor
  · rw [ending_stop_succ, if_pos unknown]
  · intro earlier before
    rw [ending_stop_of_known fun step within => known step (by omega)]
    exact ends.2 earlier (by omega)

/-- A run under the policy to go on does not end by an unknown opcode. -/
theorem EndsAt.ne_unimplemented
    (ends : (session.withPolicy .proceed).EndsAt limit stopDuring total reason) :
    reason ≠ .unimplemented := by
  rintro rfl
  have found := ends.1
  have proceeds : ¬(session.withPolicy .proceed).configuration.onUnimplemented = .stop :=
    show UnimplementedPolicy.proceed ≠ .stop by decide
  cases total with
  | zero =>
    rw [ending] at found
    split at found
    · cases found
    · split at found <;> cases found
  | succ made =>
    simp only [ending, proceeds, false_and, if_false] at found
    repeat' split at found
    all_goals cases found

end Stopping

section Failing

/-- How a run that gives a result under the policy to stop is answered under the policy to fail. -/
def failing (result : RunResult) : Except UnimplementedOpcode RunResult :=
  match result.snapshots.getLast? with
  | some last => if result.reason = .unimplemented then .error ⟨last.result⟩ else .ok result
  | none => .ok result

/-- A run that does not end by an unknown opcode is answered by its result. -/
theorem failing_of_ne {result : RunResult} (known : result.reason ≠ .unimplemented) :
    failing result = .ok result := by
  unfold failing
  split
  · exact if_neg known
  · rfl

/-- A run that ends by an unknown opcode is answered by a failure with what its last step did. -/
theorem failing_concat (made : List Snapshot) (last : Snapshot) :
    failing ⟨.unimplemented, made ++ [last]⟩ = .error ⟨last.result⟩ := by
  rw [failing, List.getLast?_concat]
  rfl

variable {session : Session} {snapshot : Snapshot} {before : RegisterMap}

/-- Behind a step that does not meet an unknown opcode, the policy does not count. -/
theorem endsAfter_withPolicy (known : snapshot.result.unimplemented = false)
    (policy : UnimplementedPolicy) :
    (session.withPolicy policy).endsAfter snapshot before = session.endsAfter snapshot before := by
  unfold endsAfter
  rw [known, Bool.false_and, Bool.false_and]
  rfl

/-- Behind a step that does not meet an unknown opcode, a run does not end by one. -/
theorem ne_unimplemented_of_endsAfter (known : snapshot.result.unimplemented = false)
    {reason : StopReason} (ended : session.endsAfter snapshot before = some reason) :
    reason ≠ .unimplemented := by
  rintro rfl
  unfold endsAfter at ended
  rw [known, Bool.false_and, if_neg Bool.false_ne_true] at ended
  split at ended
  · cases ended
  · split at ended <;> cases ended

/-- Behind a step that meets an unknown opcode, a run under the policy to stop ends. -/
theorem endsAfter_of_unknown (unknown : snapshot.result.unimplemented = true) :
    (session.withPolicy .stop).endsAfter snapshot before = some .unimplemented := by
  unfold endsAfter
  rw [unknown]
  rfl

/-- Under the policy to fail, a step fails where it meets an unknown opcode. -/
theorem fails_withPolicy (session : Session) (snapshot : Snapshot) :
    (session.withPolicy .fail).fails snapshot = snapshot.result.unimplemented := Bool.and_true _

/-- The run under the policy to fail makes the steps of the run under the policy to stop, and fails
where that one ends by an unknown opcode. -/
theorem runFrom_fail (session : Session) (stopDuring : Option Nat) (remaining : Nat)
    (made : Array Snapshot) :
    (session.withPolicy .fail).runFrom stopDuring remaining made =
      ((session.withPolicy .stop).runFrom stopDuring remaining made).map
        (fun answer => answer.bind failing) (·.withPolicy .fail) := by
  -- Both runs come to each of their checks with the same steps made, in sessions that differ in
  -- the policy only.
  induction remaining generalizing session made with
  | zero =>
    have known : StopReason.stepLimit ≠ .unimplemented := by decide
    rw [runFrom, runFrom]
    exact Prod.ext (failing_of_ne known).symm rfl
  | succ remaining ih =>
    have front (policy : UnimplementedPolicy) :
        (session.withPolicy policy).endsBefore made.size stopDuring =
          session.endsBefore made.size stopDuring := rfl
    cases ended : session.endsBefore made.size stopDuring with
    | some reason =>
      rw [ended] at front
      have known : reason ≠ .unimplemented :=
        fun same => absurd (same ▸ mem_of_endsBefore ended) (by decide)
      rw [runFrom_of_endsBefore (front .fail), runFrom_of_endsBefore (front .stop)]
      exact Prod.ext (failing_of_ne known).symm rfl
    | none =>
      rw [ended] at front
      have stops : (session.withPolicy .stop).stepInstruction =
          (.ok session.advance.1, session.advance.2.withPolicy .stop) :=
        stepInstruction_eq (session.tolerant_withPolicy (by decide))
      have fails := session.fails_withPolicy session.advance.1
      rw [runFrom_of_ok (front .stop) stops]
      cases unknown : session.advance.1.result.unimplemented with
      | true =>
        rw [unknown] at fails
        have failed : (session.withPolicy .fail).stepInstruction =
            (.error ⟨session.advance.1.result⟩, session.advance.2.withPolicy .fail) :=
          stepInstruction_of_failing fails
        rw [runFrom_of_error (front .fail) failed, endsAfter_of_unknown unknown,
          Array.toList_push]
        exact Prod.ext (failing_concat made.toList session.advance.1).symm rfl
      | false =>
        rw [unknown] at fails
        have passed : (session.withPolicy .fail).stepInstruction =
            (.ok session.advance.1, session.advance.2.withPolicy .fail) :=
          stepInstruction_of_fails fails
        have behind (policy : UnimplementedPolicy) :
            (session.advance.2.withPolicy policy).endsAfter session.advance.1
                (session.withPolicy policy).cpu.state.registers.display =
              session.advance.2.endsAfter session.advance.1 session.cpu.state.registers.display :=
          endsAfter_withPolicy unknown policy
        rw [runFrom_of_ok (front .fail) passed, behind .fail, behind .stop]
        cases ended : session.advance.2.endsAfter session.advance.1
            session.cpu.state.registers.display with
        | some reason =>
          have known := ne_unimplemented_of_endsAfter unknown ended
          exact Prod.ext (failing_of_ne known).symm rfl
        | none => exact ih session.advance.2 (made.push session.advance.1)

end Failing

variable {session}

/-- The first step that meets an unknown opcode is found among the snapshots. -/
theorem findIdx_snapshots {first total : Nat} (inside : first < total)
    (unknown : session.MeetsUnknown first) (known : ∀ step < first, ¬session.MeetsUnknown step) :
    (session.snapshots total).findIdx (·.result.unimplemented) = first :=
  session.findIdx_snapshots_eq _ inside unknown fun step before =>
    Bool.eq_false_iff.mpr (known step before)

/-- Where no step meets an unknown opcode, no snapshot tells of one. -/
theorem known_of_mem_snapshots {total : Nat} (known : ∀ step < total, ¬session.MeetsUnknown step) :
    ∀ snapshot ∈ session.snapshots total, snapshot.result.unimplemented = false := by
  intro snapshot listed
  obtain ⟨step, inside, rfl⟩ := session.mem_snapshots.mp listed
  exact Bool.eq_false_iff.mpr (known step inside)

/-- Under a policy other than to fail, a run makes the steps up to its first ending. -/
theorem EndsAt.run_under {policy : UnimplementedPolicy} {limit : Option Int}
    {stopDuring : Option Nat} {total : Nat} {reason : StopReason}
    (ends : (session.withPolicy policy).EndsAt
      (limit.getD session.configuration.stepsPerTick) stopDuring total reason)
    (tolerant : policy ≠ .fail) :
    let result : RunResult := ⟨reason, session.snapshots total⟩
    (session.withPolicy policy).run limit stopDuring =
      (.ok result, (session.after result.steps).withPolicy policy) := by
  have ran := run_eq_of_endsAt (session.tolerant_withPolicy tolerant) ends
  have counted : RunResult.steps ⟨reason, session.snapshots total⟩ = total :=
    session.length_snapshots total
  rw [snapshots_withPolicy, after_withPolicy] at ran
  intro result
  rw [counted]
  exact ran

/-- Where a run under the policy to go on ends, and where the same run under the policy to stop
does. -/
theorem EndsAt.stop_cases {limit : Int} {stopDuring : Option Nat} {total : Nat}
    {reason : StopReason}
    (ends : (session.withPolicy .proceed).EndsAt limit stopDuring total reason) :
    ((∀ step < total, ¬session.MeetsUnknown step) ∧
        (session.withPolicy .stop).EndsAt limit stopDuring total reason) ∨
      ∃ first < total, session.MeetsUnknown first ∧ (∀ step < first, ¬session.MeetsUnknown step) ∧
        (session.withPolicy .stop).EndsAt limit stopDuring (first + 1) .unimplemented := by
  by_cases met : ∃ step, step < total ∧ session.MeetsUnknown step
  · obtain ⟨inside, unknown⟩ := Nat.find_spec met
    have known : ∀ step < Nat.find met, ¬session.MeetsUnknown step := by
      intro step before unknown
      exact Nat.find_min met before ⟨Nat.lt_trans before inside, unknown⟩
    exact .inr ⟨Nat.find met, inside, unknown, known, ends.stop_of_unknown inside unknown known⟩
  · have known : ∀ step < total, ¬session.MeetsUnknown step :=
      fun step inside unknown => met ⟨step, inside, unknown⟩
    exact .inl ⟨known, ends.stop_of_known known⟩

/-- The run under the policy to fail is answered as the one under the policy to stop tells, and
leaves the session as that one does. -/
theorem run_fail (session : Session) (limit : Option Int) (stopDuring : Option Nat) :
    (session.withPolicy .fail).run limit stopDuring =
      ((session.withPolicy .stop).run limit stopDuring).map
        (fun answer => answer.bind failing) (·.withPolicy .fail) :=
  session.runFrom_fail stopDuring _ #[]

/-- The three policies differ only in how a run ends. To stop makes the steps that going on makes,
up to the first that meets an opcode which stands for no instruction; where none does, the two
runs end for the same reason. To fail does so exactly where to stop ends by such an opcode, and
tells what that last step did; else it gives the same result. Either way it leaves the session of
the run that stops, apart from the policy itself. -/
theorem run_withPolicy (session : Session) (limit : Option Int) (stopDuring : Option Nat) :
    let under (policy : UnimplementedPolicy) := (session.withPolicy policy).run limit stopDuring
    ∃ continued stopped : RunResult,
      under .proceed = (.ok continued, (session.after continued.steps).withPolicy .proceed) ∧
      under .stop = (.ok stopped, (session.after stopped.steps).withPolicy .stop) ∧
      (under .fail).2 = (session.after stopped.steps).withPolicy .fail ∧
      stopped.snapshots = continued.snapshots.take
        (continued.snapshots.findIdx (·.result.unimplemented) + 1) ∧
      (stopped.reason = .unimplemented ↔
        ∃ snapshot ∈ continued.snapshots, snapshot.result.unimplemented = true) ∧
      (stopped.reason = .unimplemented → ∃ last, stopped.snapshots.getLast? = some last ∧
        last.result.unimplemented = true ∧ (under .fail).1 = .error ⟨last.result⟩) ∧
      (stopped.reason ≠ .unimplemented →
        stopped.reason = continued.reason ∧ (under .fail).1 = .ok stopped) := by
  intro under
  have proceeds := session.tolerant_withPolicy (show UnimplementedPolicy.proceed ≠ .fail by decide)
  obtain ⟨total, reason, ends, _⟩ := exists_run_eq proceeds limit stopDuring
  have continued := ends.run_under (by decide)
  have fails : under .fail = (under .stop).map _ _ := session.run_fail limit stopDuring
  rcases ends.stop_cases with ⟨known, stopEnds⟩ | ⟨first, inside, unknown, known, stopEnds⟩
  · have stopped : under .stop = _ := stopEnds.run_under (by decide)
    have different := ends.ne_unimplemented
    have quiet := known_of_mem_snapshots known
    rw [stopped] at fails
    refine ⟨_, _, continued, stopped, congrArg Prod.snd fails, ?_, ?_, ?_, ?_⟩
    · rw [List.findIdx_eq_length_of_false quiet]
      exact (List.take_of_length_le (Nat.le_succ _)).symm
    · constructor
      · exact fun ended => absurd ended different
      · rintro ⟨snapshot, listed, unknown⟩
        exact absurd unknown (Bool.eq_false_iff.mp (quiet snapshot listed))
    · exact fun ended => absurd ended different
    · intro _
      exact ⟨rfl, (congrArg Prod.fst fails).trans (failing_of_ne different)⟩
  · have stopped : under .stop = _ := stopEnds.run_under (by decide)
    rw [stopped] at fails
    refine ⟨_, _, continued, stopped, congrArg Prod.snd fails, ?_, ?_, ?_, ?_⟩
    · rw [findIdx_snapshots inside unknown known, take_snapshots session inside]
    · constructor
      · exact fun _ => ⟨_, session.mem_snapshots.mpr ⟨first, inside, rfl⟩, unknown⟩
      · exact fun _ => rfl
    · intro _
      have split := session.snapshots_succ first
      refine ⟨session.snapshotAt first, ?_, unknown, (congrArg Prod.fst fails).trans ?_⟩
      · rw [split, List.getLast?_concat]
      · rw [split]
        exact failing_concat _ _
    · exact fun other => absurd rfl other

end Z80Monitor.Session
