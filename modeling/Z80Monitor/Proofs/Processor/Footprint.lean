import Z80Monitor.Proofs.Processor.Step

/-!
# The footprint of a step

The accesses of a step are the fetching of its instruction: every byte of it is read once, in the
order of the addresses, and nothing else is accessed. What was accessed in front of the step does
not count, and a step that is refused accesses nothing.
-/

namespace Z80Monitor

namespace Memory

variable {memory : Memory} {address : Int} {bytes : List UInt8}

/-- The accesses of fetching as many bytes as `length` says from `start` on. -/
def fetches (memory : Memory) (start : Int) (length : Nat) : List Access :=
  (List.range length).map fun (offset : Nat) =>
    ⟨.read, word (start + offset), memory.peek (start + offset)⟩

/-- One more byte is fetched in front of those behind it. -/
theorem fetches_succ (memory : Memory) (start : Int) (length : Nat) :
    memory.fetches start (length + 1) =
      ⟨.read, word start, memory.peek start⟩ :: memory.fetches (start + 1) length := by
  have behind (offset : Nat) : start + ((offset + 1 : Nat) : Int) = start + 1 + offset := by omega
  unfold fetches
  rw [List.range_succ_eq_map, List.map_cons, List.map_map, Int.natCast_zero, Int.add_zero]
  congr 1
  apply List.map_congr_left
  intro offset _
  rw [Function.comp_apply, behind]

/-- Reading bytes that stand in memory is fetching them. -/
theorem Holds.readsFrom_eq (held : memory.Holds address bytes) :
    readsFrom address bytes = memory.fetches address bytes.length := by
  induction bytes generalizing address with
  | nil => rfl
  | cons value rest ih =>
    obtain ⟨first, behind⟩ := held
    rw [readsFrom, ih behind, List.length_cons, fetches_succ, first]

end Memory

/-- Reading bytes gives them. -/
theorem data_readsFrom (address : Int) (bytes : List UInt8) :
    (readsFrom address bytes).map (·.data) = bytes := by
  induction bytes generalizing address with
  | nil => rfl
  | cons value rest ih => rw [readsFrom, List.map_cons, ih]

/-- The bytes of a described instruction as numbers, the opcode first. -/
def Operation.values (operation : Operation) : List Int :=
  operation.opcode :: operation.operandBytes.map fun value => (value.toNat : Int)

/-- The accesses are the fetching of the instruction that a step tells of, and nothing where it
tells of none. -/
def StepResult.Fetched (result : StepResult) (memory : Memory) (accesses : List Access) : Prop :=
  match result.operation with
  | none => accesses = []
  | some operation =>
    accesses = memory.fetches result.pc operation.length ∧
      accesses.map (fun access => (access.data.toNat : Int)) = operation.values

/-- A described instruction whose bytes stand in memory is fetched by reading them. -/
theorem StepResult.fetched_of_holds {result : StepResult} {operation : Operation} {memory : Memory}
    {bytes : List UInt8} (told : result.operation = some operation)
    (held : memory.Holds result.pc bytes) (length : operation.length = bytes.length)
    (values : operation.values = bytes.map fun value => (value.toNat : Int)) :
    result.Fetched memory (readsFrom result.pc bytes) := by
  unfold Fetched
  rw [told]
  refine ⟨?_, ?_⟩
  · rw [length, held.readsFrom_eq]
  · have read := congrArg (List.map fun value : UInt8 => (value.toNat : Int))
      (data_readsFrom result.pc bytes)
    rw [List.map_map] at read
    rw [values]
    exact read

namespace Cpu

variable (cpu : Cpu)

/-- A step starts at the program counter. -/
theorem pc_step : cpu.step.1.pc = cpu.pc.toNat := by
  rcases cpu.next_cases with halted | ⟨running, absent⟩ | ⟨running, instruction, listed, held⟩
  · rw [cpu.step_of_halted halted]
  · rw [cpu.step_of_unlisted running absent]
  · rw [cpu.step_of_listed running listed held]

/-- Only a step of a halted processor tells of no instruction. -/
theorem operation_step_eq_none_iff :
    cpu.step.1.operation = none ↔ cpu.state.halted = true := by
  rcases cpu.next_cases with halted | ⟨running, absent⟩ | ⟨running, instruction, listed, held⟩
  · rw [cpu.step_of_halted halted]
    exact iff_of_true rfl halted
  · rw [cpu.step_of_unlisted running absent, running]
    exact iff_of_false (Option.some_ne_none _) Bool.false_ne_true
  · rw [cpu.step_of_listed running listed held, running]
    exact iff_of_false (Option.some_ne_none _) Bool.false_ne_true

/-- Whatever was accessed before, the accesses of a step are the fetching of its instruction. -/
theorem fetched_step : cpu.step.1.Fetched cpu.state.memory cpu.step.2.lastBus := by
  rcases cpu.next_cases with halted | ⟨running, absent⟩ | ⟨running, instruction, listed, held⟩
  · rw [cpu.step_of_halted halted]
    exact rfl
  · rw [cpu.step_of_unlisted running absent]
    exact StepResult.fetched_of_holds rfl ⟨rfl, trivial⟩ rfl rfl
  · rw [cpu.step_of_listed running listed held]
    exact StepResult.fetched_of_holds rfl held instruction.length_encode.symm rfl

end Cpu

end Z80Monitor
