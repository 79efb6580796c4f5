import Z80Monitor.Proofs.Debugger.Requests

/-!
# The record of accesses between steps

The memory of the processor keeps a record of the accesses made to it. Each step discards the record
before it begins and takes it in the end, so that no step leaves anything on record, and nothing
else makes accesses that are recorded. What is on record when work begins, with a processor as it
stands, does not show in any answer.
-/

namespace Z80Monitor.Session

variable (session : Session)

/-- The session with nothing on record in the memory of its processor. -/
def unrecorded (session : Session) : Session := session.onCpu fun cpu => { cpu with log := [] }

/-- The processor makes the same step with nothing on record, and leaves nothing on record. -/
theorem step_unrecorded :
    session.unrecorded.cpu.step =
      (session.cpu.step.1, { session.cpu.step.2 with log := [] }) := by
  have same : session.unrecorded.cpu.step = session.cpu.step := session.cpu.step_with_log []
  rw [same, ← session.cpu.log_step]

/-- Runs do not look at what is on record. -/
theorem unnoticed_unrecorded : Unnoticed unrecorded where
  unseen session := by
    unfold advance
    rw [session.step_unrecorded]
    rfl
  state _ := rfl
  holdAt _ _ := rfl
  holdAfter _ _ _ _ := rfl
  policy _ := rfl

/-- A request is answered as with nothing on record. -/
theorem respond_unrecorded (request : Request) :
    (session.respond request).map id unrecorded = session.unrecorded.respond request := by
  cases request with
  | writeRegister name value =>
    have written : session.unrecorded.cpu.writeNamed name value =
        (session.cpu.writeNamed name value).map fun cpu => { cpu with log := [] } := by
      have same : session.unrecorded.cpu.state = session.cpu.state := rfl
      simp only [Cpu.writeNamed, same]
      cases session.cpu.state.registers.writeNamed name value with
      | ok registers => rfl
      | error refusal => rfl
    rw [respond, respond, written]
    cases session.cpu.writeNamed name value with
    | ok cpu => rfl
    | error refusal => rfl
  | step =>
    rw [respond, respond, onCpu, onCpu, session.step_unrecorded]
    rfl
  | stepInstruction =>
    rw [respond, respond, unnoticed_unrecorded.stepInstruction]
    rfl
  | run limit stopDuring =>
    rw [respond, respond, unnoticed_unrecorded.run session limit stopDuring rfl]
    rfl
  | _ => rfl

/-- What is on record does not show in any answer. -/
theorem responses_unrecorded (requests : List Request) :
    session.responses requests = session.unrecorded.responses requests :=
  responsesFrom_part respond_unrecorded session requests

end Z80Monitor.Session
