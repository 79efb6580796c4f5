import Z80Monitor.Debugger.Trace
import Z80Monitor.Proofs.Debugger.Resumption

/-!
# Traces as runs

A trace is made in runs of so many steps each, the last of which may be shorter. Where the policy
is not to fail and there are no breakpoints, the runs make the steps of the one run whose limit is
that of the trace, and the trace ends as this run does. So the length of its runs leaves no mark on
a trace, wherever the processor halts or meets an opcode that stands for no instruction.
-/

namespace Z80Monitor

/-- How a trace ends that makes the steps of a run which ended for the reason. -/
def StopReason.traceEnd (reason : StopReason) : TraceEnd :=
  if reason = .stepLimit then .complete else .stopped reason

namespace Session

variable {session : Session} {limit more : Int} {stopDuring : Option Nat} {made total : Nat}
  {reason : StopReason}

/-- A run that is admitted no step makes none. -/
theorem endsAt_zero (session : Session) (stopDuring : Option Nat) :
    session.EndsAt 0 stopDuring 0 .stepLimit := by
  constructor
  · rw [ending, if_pos (Int.le_refl 0)]
  · intro earlier before
    exact absurd before (Nat.not_lt_zero earlier)

/-- What ends a run otherwise than by its limit ends it under a greater limit as well. -/
theorem ending_of_le (other : reason ≠ .stepLimit) (within : made ≤ limit.toNat)
    (greater : limit ≤ more) (ended : session.ending limit stopDuring made = some reason) :
    session.ending more stopDuring made = some reason := by
  rw [session.ending_eq limit stopDuring made within] at ended
  rw [session.ending_eq more stopDuring made (by omega)]
  cases behind : session.endsBehind made with
  | some found =>
    rw [behind, Option.some_or] at ended
    rw [Option.some_or, ended]
  | none =>
    rw [behind, Option.none_or] at ended
    by_cases reached : limit.toNat = made
    · rw [if_pos reached] at ended
      exact absurd (Option.some.inj ended).symm other
    · rw [if_neg reached] at ended
      rw [Option.none_or, if_neg (by omega), ended]

/-- A run that ends otherwise than by its limit ends there under a greater limit as well. -/
theorem EndsAt.of_le (ends : session.EndsAt limit stopDuring total reason)
    (other : reason ≠ .stepLimit) (greater : limit ≤ more) :
    session.EndsAt more stopDuring total reason := by
  have within := ends.le_limit
  constructor
  · exact ending_of_le other within greater ends.1
  · intro earlier before
    have quiet := ends.2 earlier before
    rw [ending_eq_of_lt (by omega)] at quiet ⊢
    exact quiet

/-- Without breakpoints, a run that ended by its limit would have gone on to where the run from
there ends, if it had been admitted the steps of both. -/
theorem EndsAt.add_unwatched (unwatched : session.breakpoints = []) (admitted : 1 ≤ limit)
    (further : 0 ≤ more) (ends : session.EndsAt limit none made .stepLimit)
    (later : (session.after made).EndsAt more none total reason) :
    session.EndsAt (limit + more) none (made + total) reason := by
  rcases Int.le_iff_lt_or_eq.mp further with positive | rfl
  · have free : ¬session.breakpoints.SomeMetAt (session.after made).cpu.pc := by
      rw [unwatched]
      exact Breakpoints.not_someMetAt_nil
    exact ends.add admitted positive free later
  · obtain ⟨rfl, rfl⟩ := later.unique ((session.after made).endsAt_zero none)
    rw [Int.add_zero]
    exact ends

/-- A trace goes on with the steps of the run that is admitted as many, and ends as it does. -/
theorem exists_traceFrom_eq (tolerant : session.configuration.onUnimplemented ≠ .fail)
    (unwatched : session.breakpoints = []) (earlier : Array Snapshot) (remaining : Nat) :
    ∃ total reason, session.EndsAt remaining none total reason ∧
      session.traceFrom earlier remaining =
        ⟨earlier.toList ++ session.snapshots total, reason.traceEnd, session.after total⟩ := by
  -- Each run that uses up its limit leaves fewer steps; the one from its end is known by induction.
  induction remaining using Nat.strongRecOn generalizing session earlier with
  | ind remaining ih =>
    rw [traceFrom]
    by_cases spent : remaining = 0
    · subst spent
      refine ⟨0, .stepLimit, session.endsAt_zero none, ?_⟩
      rw [if_pos rfl, show session.snapshots 0 = [] from rfl, List.append_nil]
      rfl
    · have positive := session.configuration.stepsPerTick_pos
      obtain ⟨tick, shown⟩ : ∃ tick, tick = min session.configuration.stepsPerTick remaining :=
        ⟨_, rfl⟩
      have admitted : (1 : Int) ≤ tick := by omega
      obtain ⟨made, reason, ends, ran⟩ := exists_run_eq tolerant (some (tick : Int)) none
      rw [Option.getD_some] at ends
      rw [if_neg spent, ← shown]
      dsimp only
      rw [ran]
      simp only [RunResult.steps, length_snapshots]
      by_cases again : reason = .stepLimit ∧ 0 < made
      · obtain ⟨rfl, moved⟩ := again
        have within := ends.le_limit
        have reached := (ending_of_stepLimit admitted ends.1).1
        have kept : (session.after made).configuration.onUnimplemented ≠ .fail := by
          rwa [configuration_after]
        have bare : (session.after made).breakpoints = [] := by rwa [breakpoints_after]
        obtain ⟨further, last, laterEnds, traced⟩ :=
          ih (remaining - made) (by omega) kept bare (earlier ++ session.snapshots made)
        have whole := ends.add_unwatched unwatched admitted (by omega) laterEnds
        rw [show (tick : Int) + ((remaining - made : Nat) : Int) = remaining by omega] at whole
        refine ⟨made + further, last, whole, ?_⟩
        rw [if_pos ⟨rfl, moved⟩, traced, Array.toList_appendList, List.append_assoc,
          ← snapshots_add, ← after_add]
      · have other : reason ≠ .stepLimit := by
          rintro rfl
          have reached := (ending_of_stepLimit admitted ends.1).1
          exact again ⟨rfl, by omega⟩
        refine ⟨made, reason, ends.of_le other (by omega), ?_⟩
        rw [if_neg again, Array.toList_appendList, StopReason.traceEnd, if_neg other]

/-- Where the policy is not to fail and there are no breakpoints, a trace is the one run with the
limit of the trace. -/
theorem exists_trace_eq (tolerant : session.configuration.onUnimplemented ≠ .fail)
    (unwatched : session.breakpoints = []) (limit : Nat) :
    ∃ result last, session.run (some limit) none = (.ok result, last) ∧
      session.trace limit = ⟨result.snapshots, result.reason.traceEnd, last⟩ := by
  obtain ⟨total, reason, ends, traced⟩ := exists_traceFrom_eq tolerant unwatched #[] limit
  exact ⟨_, _, run_eq_of_endsAt tolerant ends, traced⟩

end Session

end Z80Monitor
