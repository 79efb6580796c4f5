import Z80Monitor.Proofs.Processor.Stepping

/-!
# What execution depends on

Steps look at the registers, at whether the processor is halted, and at the bytes whose reading
they record. Processors that have these in common, whatever else their memories hold, take the
same steps, and go on having them in common.
-/

namespace Z80Monitor

/-- Two states have everything in common but what the memories hold. -/
structure State.Alike (left right : State) : Prop where
  /-- The registers are the same. -/
  registers : right.registers = left.registers
  /-- Both are halted or neither is. -/
  halted : right.halted = left.halted
  /-- The same clock cycles are spent. -/
  cycles : right.cycles = left.cycles

/-- A state like another is this other one with the memory of its own. -/
theorem State.Alike.eq {left right : State} (alike : left.Alike right) :
    right = { left with memory := right.memory } := by
  obtain ⟨registers, halted, cycles⟩ := alike
  obtain ⟨_, memory, _, _⟩ := right
  subst registers halted cycles
  rfl

/-- Two memories hold the same bytes where the accesses went. -/
def Memory.AgreeOn (left right : Memory) (accesses : List Access) : Prop :=
  ∀ access ∈ accesses, right.peek access.address.toNat = left.peek access.address.toNat

instance (left right : Memory) (accesses : List Access) :
    Decidable (left.AgreeOn right accesses) :=
  inferInstanceAs (Decidable (∀ access ∈ accesses, _ = _))

/-- Bytes that stand in one memory stand in another one that agrees with it where they are read. -/
theorem Memory.Holds.of_agreeOn {left right : Memory} {address : Int} {bytes : List UInt8}
    (held : left.Holds address bytes) (agree : left.AgreeOn right (readsFrom address bytes)) :
    right.Holds address bytes := by
  induction bytes generalizing address with
  | nil => exact trivial
  | cons value rest ih =>
    obtain ⟨first, behind⟩ := held
    obtain ⟨here, further⟩ := List.forall_mem_cons.mp agree
    have reached : word (word address).toNat = word address := word_toNat (word address)
    rw [right.peek_congr reached, left.peek_congr reached] at here
    exact ⟨here.trans first, ih behind further⟩

namespace Cpu

/-- Storing a value in memory from outside leaves everything else alike. -/
theorem alike_writeMemory (cpu : Cpu) (address value : Int) :
    cpu.state.Alike (cpu.writeMemory address value).state := ⟨rfl, rfl, rfl⟩

/-- A processor with another memory takes the same step where the memories agree on the bytes
that the step reads. -/
theorem step_of_agreeOn (cpu : Cpu) (memory : Memory) (lastBus log : List Access)
    (agree : cpu.state.memory.AgreeOn memory cpu.step.2.lastBus) :
    step { state := { cpu.state with memory }, lastBus, log } =
      (cpu.step.1, { cpu.step.2 with state := { cpu.step.2.state with memory } }) := by
  let other : Cpu := { state := { cpu.state with memory }, lastBus, log }
  change other.step = _
  rcases cpu.next_cases with halted | ⟨running, absent⟩ | ⟨running, instruction, listed, held⟩
  · rw [cpu.step_of_halted halted, other.step_of_halted halted]
    rfl
  · rw [cpu.step_of_unlisted running absent] at agree ⊢
    have read : memory.Holds cpu.pc.toNat [cpu.state.memory.peek cpu.pc.toNat] :=
      Memory.Holds.of_agreeOn ⟨rfl, trivial⟩ agree
    have same : memory.peek cpu.pc.toNat = cpu.state.memory.peek cpu.pc.toNat := read.1
    rw [← same] at absent ⊢
    rw [other.step_of_unlisted running absent]
    rfl
  · rw [cpu.step_of_listed running listed held] at agree ⊢
    rw [other.step_of_listed running listed (held.of_agreeOn agree)]
    rfl

variable {cpu other : Cpu}

/-- Like processors take the same step where their memories agree on the bytes that the step of
the one reads. -/
theorem step_of_alike (alike : cpu.state.Alike other.state)
    (agree : cpu.state.memory.AgreeOn other.state.memory cpu.step.2.lastBus) :
    other.step.1 = cpu.step.1 ∧ other.step.2.lastBus = cpu.step.2.lastBus ∧
      cpu.step.2.state.Alike other.step.2.state := by
  have shape : other =
      { other with state := { cpu.state with memory := other.state.memory } } :=
    congrArg (Cpu.mk · other.lastBus other.log) alike.eq
  have stepped := cpu.step_of_agreeOn other.state.memory other.lastBus other.log agree
  rw [← shape] at stepped
  rw [stepped]
  exact ⟨rfl, rfl, rfl, rfl, rfl⟩

/-- Memories that agree where accesses went still do so behind steps. -/
theorem agreeOn_after {accesses : List Access}
    (agree : cpu.state.memory.AgreeOn other.state.memory accesses) (made : Nat) :
    (cpu.after made).state.memory.AgreeOn (other.after made).state.memory accesses := by
  rw [cpu.memory_after, other.memory_after]
  exact agree

/-- Like processors stay alike for as long as their memories agree on the bytes that the one
reads. -/
theorem alike_after (alike : cpu.state.Alike other.state) {made : Nat}
    (agree : ∀ step < made,
      cpu.state.memory.AgreeOn other.state.memory (cpu.accessesAt step)) :
    ∀ step ≤ made, (cpu.after step).state.Alike (other.after step).state := by
  apply related_after (fun cpu other => cpu.state.Alike other.state) alike
  intro step inside before
  have here := agreeOn_after (agree step inside) step
  exact (step_of_alike before here).2.2

/-- What a processor does depends only on the bytes that it reads. Where another processor has the
same registers, halted flag and cycles, and memory that agrees with that of the first on every
address which the first accesses in a number of steps, the steps of both do the same and make the
same accesses, and the two have the same registers, halted flag and cycles behind each. Neither
memory changes. -/
theorem steps_of_agreeOn (cpu other : Cpu) (made : Nat) (alike : cpu.state.Alike other.state)
    (agree : ∀ step < made,
      cpu.state.memory.AgreeOn other.state.memory (cpu.accessesAt step)) :
    ∀ step < made,
      other.resultAt step = cpu.resultAt step ∧
      other.accessesAt step = cpu.accessesAt step ∧
      (cpu.after (step + 1)).state.Alike (other.after (step + 1)).state ∧
      (cpu.after (step + 1)).state.memory = cpu.state.memory ∧
      (other.after (step + 1)).state.memory = other.state.memory := by
  intro step inside
  have before := alike_after alike agree step (Nat.le_of_lt inside)
  have here := agreeOn_after (agree step inside) step
  obtain ⟨result, accesses, behind⟩ := step_of_alike before here
  exact ⟨result, accesses, behind, cpu.memory_after (step + 1), other.memory_after (step + 1)⟩

/-- A jump to itself over the end of the address space never reads address 1, so what stands there
does not matter for its second step. -/
theorem steps_of_agreeOn_loop :
    let cpu : Cpu := powerOn.loadProgram 0xFFFE [0xC3, 0xFE, 0xFF]
    let other : Cpu := cpu.writeMemory 1 0x76
    cpu.state.Alike other.state ∧
      (∀ step < 2, cpu.state.memory.AgreeOn other.state.memory (cpu.accessesAt step)) ∧
      other.state.memory ≠ cpu.state.memory ∧
      (cpu.accessesAt 1).map (·.address) = [0xFFFE, 0xFFFF, 0] ∧
      other.resultAt 1 = cpu.resultAt 1 := by
  intro cpu other
  have alike : cpu.state.Alike other.state := cpu.alike_writeMemory 1 0x76
  have agree : ∀ step < 2,
      cpu.state.memory.AgreeOn other.state.memory (cpu.accessesAt step) := by decide +kernel
  refine ⟨alike, agree, ?_, by decide +kernel, ?_⟩
  · intro same
    have found : (other.state.memory.peek 1).toNat = 0x76 := by decide +kernel
    rw [same] at found
    revert found
    decide +kernel
  · exact (steps_of_agreeOn cpu other 2 alike agree 1 (by decide)).1

end Cpu

end Z80Monitor
