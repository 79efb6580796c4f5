import Z80Monitor.Proofs.Assembly.Layout
import Z80Monitor.Proofs.Memory.Rotation
import Z80Monitor.Proofs.Processor.Stepping

/-!
# Relocation

A processor whose memory is rotated by a distance, with the program counter moved along, takes the
same steps at the places moved along, also where an instruction or a relative jump goes over the
end of the address space. Only a jump to an address, which the rotation does not change, leads
elsewhere. Assembling for a place further on gives the same program with its line map moved along.
-/

namespace Z80Monitor

/-- An access a distance further on. -/
def Access.relocated (access : Access) (distance : Int) : Access :=
  { access with address := word (access.address.toNat + distance) }

/-- A state with the memory rotated by a distance and the program counter moved along. -/
def State.relocated (state : State) (distance : Int) : State :=
  { state with
    registers := { state.registers with pc := word (state.pc.toNat + distance) }
    memory := state.memory.rotate distance }

/-- A description without the spelling of the operands, which for a relative jump is the address
that it leads to. -/
def Operation.unplaced (operation : Operation) : Operation := { operation with operands := [] }

/-- Two results tell of the same step, the one at a distance behind the other. -/
structure StepResult.Relocates (result moved : StepResult) (distance : Int) : Prop where
  /-- The steps cost the same. -/
  cycles : moved.cycles = result.cycles
  /-- They end in the same way. -/
  status : moved.status = result.status
  /-- The instructions stand at the distance from each other. -/
  pc : moved.pc = (result.pc + distance) % 65536
  /-- The instructions have the same opcode, operand bytes, length and cost. -/
  operation : moved.operation.map Operation.unplaced = result.operation.map Operation.unplaced

/-- The accesses of reading bytes a distance further on are those of reading them, relocated. -/
theorem readsFrom_relocated {address moved distance : Int}
    (same : word moved = word (address + distance)) (bytes : List UInt8) :
    readsFrom moved bytes = (readsFrom address bytes).map (·.relocated distance) := by
  induction bytes generalizing address moved with
  | nil => rfl
  | cons value rest ih =>
    have reached : word moved = word ((word address).toNat + distance) := by
      rw [same, word_eq_word_iff, toNat_word]
      omega
    have behind : word (moved + 1) = word (address + 1 + distance) := by
      rw [word_eq_word_iff] at same ⊢
      omega
    rw [readsFrom, readsFrom, List.map_cons, ih behind, reached]
    rfl

namespace Instruction

variable {instruction : Instruction}

/-- Without the spelling of its operands a description does not tell the place. -/
theorem unplaced_describe (instruction : Instruction) (opcode pc other : Int) :
    (instruction.describe opcode pc).unplaced = (instruction.describe opcode other).unplaced := by
  unfold Operation.unplaced describe
  rfl

/-- An instruction other than a jump to an address goes on a distance further on where it stands
so. -/
theorem word_next_add (apart : ∀ target, instruction ≠ .jump target) (pc distance : Int) :
    word (instruction.next (word (pc + distance)).toNat) =
      word ((word (instruction.next pc)).toNat + distance) := by
  cases instruction with
  | jump target => exact absurd rfl (apart target)
  | _ =>
    simp only [next, word_eq_word_iff, toNat_word]
    omega

/-- The registers behind an instruction that stands a distance further on are those behind the
instruction, with the program counter moved along. -/
theorem resultAt_add (apart : ∀ target, instruction ≠ .jump target) (registers : Registers)
    (pc distance : Int) :
    instruction.resultAt (word (pc + distance)).toNat
        { registers with pc := word (pc + distance) } =
      { instruction.resultAt pc registers with
        pc := word ((instruction.resultAt pc registers).pc.toNat + distance) } := by
  unfold resultAt
  rw [effect_with_pc, word_next_add apart]

end Instruction

namespace Cpu

/-- The next step reads an opcode. -/
def Fetches (cpu : Cpu) (opcode : UInt8) : Prop :=
  cpu.state.halted = false ∧ cpu.state.memory.peek cpu.pc.toNat = opcode

instance (cpu : Cpu) (opcode : UInt8) : Decidable (cpu.Fetches opcode) :=
  inferInstanceAs (Decidable (_ ∧ _))

variable {cpu moved : Cpu} {distance : Int}

/-- A relocated processor that does not read the opcode of a jump to an address takes the step of
the other, relocated. -/
theorem step_relocated (same : moved.state = cpu.state.relocated distance)
    (stays : ¬cpu.Fetches 0xC3) :
    moved.step.2.state = cpu.step.2.state.relocated distance ∧
      moved.step.2.lastBus = cpu.step.2.lastBus.map (·.relocated distance) ∧
      cpu.step.1.Relocates moved.step.1 distance := by
  obtain ⟨state, lastBus, log⟩ := moved
  subst same
  let moved : Cpu := { state := cpu.state.relocated distance, lastBus, log }
  change moved.step.2.state = _ ∧ moved.step.2.lastBus = _ ∧ cpu.step.1.Relocates moved.step.1 _
  have place : moved.pc = word (cpu.pc.toNat + distance) := rfl
  have standing : (moved.pc.toNat : Int) = (cpu.pc.toNat + distance) % 65536 := toNat_word _
  have reached : word moved.pc.toNat = word (cpu.pc.toNat + distance) := word_toNat _
  rcases cpu.next_cases with halted | ⟨running, absent⟩ | ⟨running, instruction, listed, held⟩
  · rw [cpu.step_of_halted halted, moved.step_of_halted halted]
    exact ⟨rfl, rfl, rfl, rfl, standing, rfl⟩
  · have read : moved.state.memory.peek moved.pc.toNat = cpu.state.memory.peek cpu.pc.toNat :=
      (Memory.peek_congr _ reached).trans (cpu.state.memory.peek_rotate distance _)
    have unknown := absent
    rw [← read] at unknown
    have next : word ((moved.pc.toNat : Int) + 1) =
        word ((word (cpu.pc.toNat + 1)).toNat + distance) := by
      rw [word_eq_word_iff, toNat_word, standing]
      omega
    rw [cpu.step_of_unlisted running absent, moved.step_of_unlisted running unknown, read, next]
    exact ⟨rfl, readsFrom_relocated reached _, rfl, rfl, standing, rfl⟩
  · have there : moved.state.memory.Holds moved.pc.toNat instruction.encode :=
      (held.rotate distance).congr reached.symm
    have apart : ∀ target, instruction ≠ .jump target := by
      rintro target rfl
      exact stays ⟨running, held.1⟩
    rw [cpu.step_of_listed running listed held, moved.step_of_listed running listed there]
    have described := instruction.unplaced_describe instruction.opcode.toNat moved.pc.toNat
      cpu.pc.toNat
    refine ⟨?_, readsFrom_relocated reached _, rfl, rfl, standing, congrArg some described⟩
    exact congrArg (State.mk · _ _ _)
      (instruction.resultAt_add apart cpu.state.registers cpu.pc.toNat distance)

/-- A relocated processor stays the other one relocated for as long as that one does not read the
opcode of a jump to an address. -/
theorem after_relocated (same : moved.state = cpu.state.relocated distance) {made : Nat}
    (stays : ∀ step < made, ¬(cpu.after step).Fetches 0xC3) :
    ∀ step ≤ made, (moved.after step).state = (cpu.after step).state.relocated distance := by
  apply related_after (fun cpu moved => moved.state = cpu.state.relocated distance) same
  intro step inside before
  exact (step_relocated before (stays step inside)).1

end Cpu

/-- The line map of lines that are assembled for a place further on is moved along. -/
theorem Assembly.lineMap_ofLines_add (lines : List (List Char)) (origin distance : Int) :
    (ofLines lines (origin + distance)).lineMap =
      AddressSpace.rotate (ofLines lines origin).lineMap distance := by
  rw [lineMap_ofLines, lineMap_ofLines, ← AddressSpace.place_rotate, LineMap.empty,
    AddressSpace.rotate_filled]

/-- Nothing depends on the place but where a jump to an address leads. For as long as no such jump
is read, the steps of a relocated processor lead to the states of the other, relocated, do the same
a distance further on and make the same accesses there. A source text that is assembled for a place
further on gives the same bytes and diagnostics, and every line the addresses moved along. -/
theorem relocation (distance : Int) :
    (∀ (cpu moved : Cpu) (made : Nat), moved.state = cpu.state.relocated distance →
      (∀ step < made, ¬(cpu.after step).Fetches 0xC3) →
        (moved.after made).state = (cpu.after made).state.relocated distance ∧
        ∀ step < made, (cpu.resultAt step).Relocates (moved.resultAt step) distance ∧
          moved.accessesAt step = (cpu.accessesAt step).map (·.relocated distance)) ∧
    ∀ (source : String) (origin : Int),
      let program : Assembly := assemble source origin
      let moved : Assembly := assemble source (origin + distance)
      moved.data = program.data ∧ moved.diagnostics = program.diagnostics ∧
        ∀ address, moved.lineMap.lineAt (address + distance) = program.lineMap.lineAt address := by
  constructor
  · intro cpu moved made same stays
    have relocated := Cpu.after_relocated same stays
    refine ⟨relocated made (Nat.le_refl made), ?_⟩
    intro step inside
    have before := relocated step (Nat.le_of_lt inside)
    obtain ⟨_, accesses, result⟩ := Cpu.step_relocated before (stays step inside)
    exact ⟨result, accesses⟩
  · intro source origin program moved
    have here : program = Assembly.ofLines (sourceLines source) origin :=
      assemble_eq_ofLines source origin
    have there : moved = Assembly.ofLines (sourceLines source) (origin + distance) :=
      assemble_eq_ofLines source (origin + distance)
    rw [here, there]
    refine ⟨rfl, rfl, ?_⟩
    intro address
    rw [Assembly.lineMap_ofLines_add]
    exact AddressSpace.valueAt_rotate _ distance address

/-- A loop that is relocated over the end of the address space: the relative jump has its opcode at
the last address and its operand at the first. -/
theorem relocation_over_end :
    let cpu : Cpu := Cpu.powerOn.loadProgram 0 [0x3C, 0x18, 0xFD]
    let moved : Cpu := { state := cpu.state.relocated 0xFFFE }
    (∀ step < 3, ¬(cpu.after step).Fetches 0xC3) ∧
      (moved.after 3).state.registers.a = 2 ∧ (moved.after 3).pc = 0xFFFF ∧
      (moved.resultAt 1).pc = 0xFFFF ∧
      (moved.accessesAt 1).map (·.address) = [0xFFFF, 0] := by
  intro cpu moved
  have stays : ∀ step < 3, ¬(cpu.after step).Fetches 0xC3 := by decide +kernel
  obtain ⟨state, steps⟩ := (relocation 0xFFFE).1 cpu moved 3 rfl stays
  obtain ⟨result, accesses⟩ := steps 1 (by decide)
  refine ⟨stays, ?_, ?_, ?_, ?_⟩
  · rw [state]
    decide +kernel
  · rw [Cpu.pc, state]
    decide +kernel
  · rw [result.pc]
    decide +kernel
  · rw [accesses]
    decide +kernel

end Z80Monitor
