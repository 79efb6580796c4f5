import Z80Monitor.Debugger.Run

/-!
# Traces

A trace follows a session over several runs, each as long as the configuration says, until a
number of steps is made or a run ends for another reason. The steps of a run that fails are not
part of the trace.
-/

namespace Z80Monitor

/-- How a trace ended. -/
inductive TraceEnd where
  /-- The number of steps was made. -/
  | complete
  /-- A run ended for another reason than its limit. -/
  | stopped (reason : StopReason)
  /-- A run failed. -/
  | failed (failure : UnimplementedOpcode)
  deriving DecidableEq, Repr

/-- The steps of some runs in order. -/
structure Trace where
  /-- The steps of the runs that did not fail. -/
  snapshots : List Snapshot
  /-- How the trace ended. -/
  ending : TraceEnd
  /-- The session behind the last step. -/
  session : Session
  deriving DecidableEq

namespace Session

/-- Go on with a trace that holds the steps `made` and may have `remaining` more. -/
def traceFrom (made : Array Snapshot) (remaining : Nat) (session : Session) : Trace :=
  if remaining = 0 then ⟨made.toList, .complete, session⟩
  else
    let limit := min session.configuration.stepsPerTick remaining
    match session.run (some limit) none with
    | (.error failure, after) => ⟨made.toList, .failed failure, after⟩
    | (.ok result, after) =>
      let made := made ++ result.snapshots
      if result.reason = .stepLimit ∧ 0 < result.steps then
        traceFrom made (remaining - result.steps) after
      else ⟨made.toList, .stopped result.reason, after⟩
termination_by remaining

/-- Trace a session for at most `limit` steps. -/
def trace (session : Session) (limit : Nat) : Trace := session.traceFrom #[] limit

end Session

end Z80Monitor
