import Z80Monitor.Proofs.Debugger.RunEnding

/-!
# Requests to stop

A run that is asked to stop while it makes a step makes no further step. What the run then gives
as its reason is what the step itself ends it by, if it does, and otherwise the request, unless
the step is the last that the limit admits. There the limit counts first, and the request leaves
no trace.
-/

namespace Z80Monitor.Session

variable {session : Session} {limit : Int} {step : Nat}

/-- Behind the step during which the request comes, a run ends in any case. -/
theorem ending_at_request (during : 1 ≤ step) :
    session.ending limit (some step) step =
      some ((session.endsBehind step).getD
        (if (step : Int) = limit then .stepLimit else .stopped)) := by
  obtain ⟨before, rfl⟩ : ∃ before, step = before + 1 := ⟨step - 1, by omega⟩
  rw [ending_succ, if_pos rfl]
  cases session.endsBehind (before + 1) with
  | some reason => rfl
  | none =>
    by_cases reached : ((before + 1 : Nat) : Int) = limit
    · rw [if_pos reached, if_pos reached]
      rfl
    · rw [if_neg reached, if_neg reached]
      rfl

/-- In front of the step during which the request comes, the request does not count. -/
theorem ending_before_request {made : Nat} (before : made < step) :
    session.ending limit (some step) made = session.ending limit none made := by
  cases made with
  | zero => rfl
  | succ made =>
    have later : ¬some step = some (made + 1) := by
      intro same
      have := Option.some.inj same
      omega
    rw [ending_succ, ending_succ, if_neg later, if_neg (Option.some_ne_none _).symm]

/-- A run ends no later than behind the step during which the request comes. -/
theorem EndsAt.le_of_request {total : Nat} {reason : StopReason} (during : 1 ≤ step)
    (ends : session.EndsAt limit (some step) total reason) : total ≤ step := by
  rcases Nat.lt_or_ge step total with passed | within
  · have quiet := ends.2 step passed
    rw [ending_at_request during] at quiet
    cases quiet
  · exact within

/-- A run that ends in front of the step during which the request would have come is the run
without the request. -/
theorem EndsAt.without_request {total : Nat} {reason : StopReason} (before : total < step)
    (ends : session.EndsAt limit (some step) total reason) :
    session.EndsAt limit none total reason := by
  constructor
  · rw [← ending_before_request before]
    exact ends.1
  · intro earlier inside
    rw [← ending_before_request (Nat.lt_trans inside before)]
    exact ends.2 earlier inside

/-- A run that is asked to stop during a step makes no step behind it. Where it comes to this step,
its reason is what the step itself ends it by, or else the request; only behind the last step
that the limit admits it is the limit. Where it does not come to the step, it is the run without
the request. -/
theorem run_of_stop_request (session : Session) (limit : Option Int) (step : Nat)
    (tolerant : session.configuration.onUnimplemented ≠ .fail) (during : 1 ≤ step) :
    let steps : Int := limit.getD session.configuration.stepsPerTick
    ∃ result,
      session.run limit (some step) = (.ok result, session.after result.steps) ∧
      result.snapshots = session.snapshots result.steps ∧
      result.steps ≤ step ∧
      (result.steps = step →
        session.endsBehind step = some result.reason ∧
            result.reason ∈ [StopReason.unimplemented, .halted, .breakpoint] ∨
          session.endsBehind step = none ∧
            result.reason = if step = steps then .stepLimit else .stopped) ∧
      (result.steps < step → session.run limit none = session.run limit (some step)) := by
  intro steps
  obtain ⟨total, reason, ends, ran⟩ := exists_run_eq tolerant limit (some step)
  have size : (session.snapshots total).length = total := session.length_snapshots total
  refine ⟨⟨reason, session.snapshots total⟩, ?_, ?_, ?_, ?_, ?_⟩
  all_goals simp only [RunResult.steps, size]
  · exact ran
  · exact ends.le_of_request during
  · intro same
    have found := ends.1
    rw [same, ending_at_request during] at found
    have given := Option.some.inj found
    cases ended : session.endsBehind step with
    | some behind =>
      rw [ended, Option.getD_some] at given
      left
      exact ⟨congrArg some given, given ▸ mem_of_endsBehind ended⟩
    | none =>
      rw [ended, Option.getD_none] at given
      right
      exact ⟨rfl, given.symm⟩
  · intro before
    obtain ⟨other, otherReason, otherEnds, otherRan⟩ := exists_run_eq tolerant limit none
    obtain ⟨rfl, rfl⟩ := otherEnds.unique (ends.without_request before)
    rw [ran, otherRan]

/-- A request that comes during the second of at most five steps over a blank memory ends the
run there. -/
theorem run_of_stop_request_second :
    let session : Session := { cpu := .powerOn, configuration := {} }
    session.configuration.onUnimplemented ≠ .fail ∧ 1 ≤ 2 ∧
      ∃ result, session.run (some 5) (some 2) = (.ok result, session.after 2) ∧
        result.steps = 2 ∧ result.reason = .stopped := by
  intro session
  have tolerant : session.configuration.onUnimplemented ≠ .fail := by decide
  have ends : session.EndsAt 5 (some 2) 2 .stopped := by
    constructor
    · decide +kernel
    · decide +kernel
  obtain ⟨result, ran, _, _, reached, _⟩ :=
    run_of_stop_request session (some 5) 2 tolerant (by decide)
  have made : result.steps = 2 := by
    have same := (run_eq_of_endsAt tolerant ends).symm.trans ran
    have given := Except.ok.inj (congrArg Prod.fst same)
    rw [← given]
    exact session.length_snapshots 2
  refine ⟨tolerant, by decide, result, made ▸ ran, made, ?_⟩
  rcases reached made with ⟨ended, _⟩ | ⟨_, given⟩
  · have quiet : session.endsBehind 2 = none := by decide +kernel
    rw [quiet] at ended
    cases ended
  · exact given

/-- A request that comes during the last step that the limit admits is lost: the step does not
end the run itself, and yet the reason is the limit, so that a run which goes on behind it makes
another step. -/
theorem stop_request_lost_at_limit :
    let session : Session := { cpu := .powerOn, configuration := {} }
    session.endsBehind 1 = none ∧
      ∃ result, session.run (some 1) (some 1) = (.ok result, session.after 1) ∧
        result.steps = 1 ∧ result.reason = .stepLimit ∧
        ∃ further, (session.after 1).run (some 1) none = (.ok further, session.after 2) ∧
          further.steps = 1 := by
  intro session
  have tolerant : session.configuration.onUnimplemented ≠ .fail := by decide
  have ends : session.EndsAt 1 (some 1) 1 .stepLimit := by
    constructor
    · decide +kernel
    · decide +kernel
  have laterEnds : (session.after 1).EndsAt 1 none 1 .stepLimit := by
    constructor
    · decide +kernel
    · decide +kernel
  refine ⟨by decide +kernel, _, run_eq_of_endsAt tolerant ends, session.length_snapshots 1, rfl, _,
    run_eq_of_endsAt ?_ laterEnds, length_snapshots _ 1⟩
  rw [configuration_after]
  exact tolerant

end Z80Monitor.Session
