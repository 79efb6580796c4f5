import Z80Monitor.Proofs.Debugger.RunEnding
import Z80Monitor.Proofs.Processor.Footprint

/-!
# Breakpoints on accesses

What the breakpoints on reading and on writing find in the steps of a run. Since a step reads the
bytes of its instruction and accesses nothing else, a breakpoint on the reading of an address holds
for the steps whose instruction has a byte there, and a breakpoint on writing never holds.
-/

namespace Z80Monitor

/-- An address is that of a byte of the instruction that a step tells of. -/
def StepResult.Covers (result : StepResult) (address : Int) : Prop :=
  ∃ operation, result.operation = some operation ∧
    ∃ offset < operation.length, ((word (result.pc + (offset : Nat))).toNat : Int) = address

namespace StepResult.Fetched

variable {result : StepResult} {memory : Memory} {accesses : List Access}

/-- Fetching an instruction only reads. -/
theorem kind_eq (fetched : result.Fetched memory accesses) {access : Access}
    (listed : access ∈ accesses) : access.kind = .read := by
  unfold Fetched at fetched
  split at fetched
  · rw [fetched] at listed
    cases listed
  · rw [fetched.1] at listed
    obtain ⟨offset, _, rfl⟩ := List.mem_map.mp listed
    rfl

/-- The addresses of the accesses are those of the bytes of the instruction. -/
theorem exists_address_iff (fetched : result.Fetched memory accesses) (address : Int) :
    (∃ access ∈ accesses, (access.address.toNat : Int) = address) ↔ result.Covers address := by
  unfold Fetched at fetched
  unfold Covers
  split at fetched
  · rename_i absent
    rw [fetched, absent]
    refine iff_of_false ?_ ?_
    · rintro ⟨access, listed, _⟩
      cases listed
    · rintro ⟨operation, told, _⟩
      cases told
  · rename_i operation told
    rw [fetched.1, told]
    constructor
    · rintro ⟨access, listed, same⟩
      obtain ⟨offset, inside, rfl⟩ := List.mem_map.mp listed
      exact ⟨operation, rfl, offset, List.mem_range.mp inside, same⟩
    · rintro ⟨found, shown, offset, inside, same⟩
      obtain rfl := Option.some.inj shown
      exact ⟨_, List.mem_map.mpr ⟨offset, List.mem_range.mpr inside, rfl⟩, same⟩

end StepResult.Fetched

namespace Breakpoint

variable {breakpoint : Breakpoint} {snapshot : Snapshot} {memory : Memory}

/-- A step that only fetched its instruction touched for reading the addresses of its bytes. -/
theorem touched_read_iff (fetched : snapshot.result.Fetched memory snapshot.bus) :
    breakpoint.Touched .read snapshot ↔
      ∃ address, breakpoint.address = some address ∧ snapshot.result.Covers address := by
  constructor
  · rintro ⟨access, listed, _, same⟩
    exact ⟨_, same, (fetched.exists_address_iff _).mp ⟨access, listed, rfl⟩⟩
  · rintro ⟨address, same, covered⟩
    obtain ⟨access, listed, reached⟩ := (fetched.exists_address_iff address).mpr covered
    exact ⟨access, listed, fetched.kind_eq listed, same.trans (congrArg some reached.symm)⟩

/-- A step that only fetched its instruction touched nothing for writing. -/
theorem not_touched_write (fetched : snapshot.result.Fetched memory snapshot.bus) :
    ¬breakpoint.Touched .write snapshot := by
  rintro ⟨access, listed, written, _⟩
  rw [fetched.kind_eq listed] at written
  cases written

/-- A breakpoint on reading holds for the steps whose instruction has a byte at its address. -/
theorem holdsAfter_read_iff (fetched : snapshot.result.Fetched memory snapshot.bus)
    (kind : breakpoint.kind = .memoryRead) (before : Registers) :
    breakpoint.holdsAfter snapshot.touched before.display snapshot.state.registers.display = true ↔
      breakpoint.enabled = true ∧
        ∃ address, breakpoint.address = some address ∧ snapshot.result.Covers address := by
  rw [holdsAfter_iff, MetBy, kind]
  dsimp only
  rw [touched_read_iff fetched]

/-- A breakpoint on writing holds for no step. -/
theorem holdsAfter_write (fetched : snapshot.result.Fetched memory snapshot.bus)
    (kind : breakpoint.kind = .memoryWrite) (before : Registers) :
    breakpoint.holdsAfter snapshot.touched before.display snapshot.state.registers.display =
      false := by
  rw [Bool.eq_false_iff, ne_eq, holdsAfter_iff, MetBy, kind]
  rintro ⟨_, touched⟩
  exact not_touched_write fetched touched

end Breakpoint

namespace Session

/-- A step of a session shows the fetching of its instruction. -/
theorem fetched_snapshotAt (session : Session) (made : Nat) :
    (session.snapshotAt made).result.Fetched session.cpu.state.memory
      (session.snapshotAt made).bus := by
  rw [← session.memory_after made]
  exact (session.after made).cpu.fetched_step

/-- The accesses of a step are its instruction and nothing else. Whatever was accessed before, a
step of a halted processor accesses nothing, and any other step reads the bytes of the instruction
at the program counter, the opcode first, each once and in the order of the addresses. So in every
run a breakpoint on reading holds for exactly the steps whose instruction has a byte at its
address, and a breakpoint on writing holds for none. -/
theorem run_fetches (session : Session) (limit : Option Int) (stopDuring : Option Nat) :
    (∀ cpu : Cpu,
      (cpu.state.halted = true → cpu.step.2.lastBus = []) ∧
      (cpu.state.halted = false → ∃ operation, cpu.step.1.operation = some operation ∧
        cpu.step.2.lastBus = cpu.state.memory.fetches cpu.pc.toNat operation.length ∧
        cpu.step.2.lastBus.map (fun access => (access.data.toNat : Int)) =
          operation.opcode :: operation.operandBytes.map fun value => (value.toNat : Int))) ∧
    ∃ total, (session.run limit stopDuring).2 = session.after total ∧
      (∀ result, (session.run limit stopDuring).1 = .ok result →
        result.snapshots = session.snapshots total) ∧
      ∀ made < total, ∀ breakpoint : Breakpoint,
        let snapshot := session.snapshotAt made
        let holds := breakpoint.holdsAfter snapshot.touched
          (session.after made).cpu.state.registers.display snapshot.state.registers.display
        (breakpoint.kind = .memoryRead → (holds = true ↔ breakpoint.enabled = true ∧
          ∃ address, breakpoint.address = some address ∧ snapshot.result.Covers address)) ∧
        (breakpoint.kind = .memoryWrite → holds = false) := by
  constructor
  · intro cpu
    have fetched := cpu.fetched_step
    have start := cpu.pc_step
    have refused := cpu.operation_step_eq_none_iff
    unfold StepResult.Fetched at fetched
    cases told : cpu.step.1.operation with
    | none =>
      rw [told] at fetched
      have halted := refused.mp told
      refine ⟨fun _ => fetched, fun running => ?_⟩
      rw [halted] at running
      cases running
    | some operation =>
      rw [told] at fetched
      dsimp only at fetched
      rw [start] at fetched
      refine ⟨fun halted => ?_, fun _ => ⟨operation, rfl, fetched.1, fetched.2⟩⟩
      rw [refused.mpr halted] at told
      cases told
  · obtain ⟨total, left, given⟩ := session.exists_run_eq_after limit stopDuring
    refine ⟨total, left, given, ?_⟩
    intro made _ breakpoint snapshot holds
    have fetched := session.fetched_snapshotAt made
    exact ⟨fun kind => Breakpoint.holdsAfter_read_iff fetched kind _,
      fun kind => Breakpoint.holdsAfter_write fetched kind _⟩

end Session

end Z80Monitor
