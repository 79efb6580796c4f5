import Z80Monitor.Proofs.Processor.Footprint
import Z80Monitor.Proofs.Processor.Listing

/-!
# Listing the next instruction

A listing looks at memory from outside, and a step reads it over the bus. The main statement says
that they tell the same: the only line of the listing that starts at the program counter shows the
bytes that the next step reads and spells the instruction that the step carries out, or shows the
opcode as data where the step finds that it stands for no instruction. The target that the line of
a jump spells is where the jump leads, also where operands or targets go round the address space.
-/

namespace Z80Monitor

/-- The bytes that were read or written by the last step, in order. -/
def Cpu.accessed (cpu : Cpu) : List UInt8 := cpu.lastBus.map (·.data)

/-- A line shows what a step did that ended with `result` and left the processor as `after`. -/
structure ListingLine.ShowsStep (line : ListingLine) (result : StepResult) (after : Cpu) :
    Prop where
  /-- The step found an instruction, or an opcode that stands for none. -/
  status : result.status = .executed ∨ result.status = .unimplemented
  /-- An instruction that was carried out is spelled, behind its opcode and its operand bytes as
  the step read them. -/
  executed : result.status = .executed → ∃ operation, result.operation = some operation ∧
    line.text = operation.text ∧ line.bytes = String.ofList (Text.hexBytes after.accessed) ∧
    after.accessed.map (fun value => (value.toNat : Int)) = operation.values
  /-- An opcode that stands for no instruction is shown as data. -/
  unimplemented : result.status = .unimplemented → ∃ opcode, after.accessed = [opcode] ∧
    line.bytes = String.ofList (Text.hexByte opcode) ∧
    line.text = String.ofList ("DB $".toList ++ Text.hexByte opcode)
  /-- The only operand of a jump is the address at which the processor goes on. -/
  jump : result.status = .executed → ∀ operation, result.operation = some operation →
    operation.mnemonic = "JP" ∨ operation.mnemonic = "JR" →
    operation.operands = [String.ofList ('$' :: Text.hexWord after.pc)]

namespace ListingLine

variable (address : UInt16)

/-- The line of a byte of data spells the byte behind `DB`. -/
theorem text_ofData (value : UInt8) :
    (ofData address value).text = String.ofList ("DB $".toList ++ Text.hexByte value) :=
  congrArg String.ofList (Statement.spelling_ofData value)

/-- The line of a byte of data shows the byte. -/
theorem bytes_ofData (value : UInt8) :
    (ofData address value).bytes = String.ofList (Text.hexByte value) := by
  rw [ofData, Text.hexBytes, List.map_singleton, List.intercalate_singleton]

/-- The line of an instruction has the text of the instruction's description. -/
theorem text_ofInstruction (instruction : Instruction) (opcode : Int) :
    (ofInstruction address instruction).text =
      (instruction.describe opcode address.toNat).text := by
  rw [ofInstruction, ← instruction.toList_text_describe opcode, String.ofList_toList]

end ListingLine

/-- The operand of a jump that stands at an address is where the processor goes on behind it. -/
theorem Instruction.operands_of_jump {instruction : Instruction} (pc : UInt16)
    (registers : Registers) (jumps : instruction.mnemonic = "JP" ∨ instruction.mnemonic = "JR") :
    instruction.operands pc.toNat =
      [String.ofList ('$' :: Text.hexWord (instruction.resultAt pc.toNat registers).pc)] := by
  cases instruction with
  | jump target => rw [resultAt, next, word_toNat, operands]
  | jumpRelative offset => rfl
  | _ => simp [mnemonic] at jumps

/-- A single byte is listed in the line that starts with it. -/
theorem Memory.listing_one (memory : Memory) (address : UInt16) :
    memory.listing address.toNat 1 = [(memory.listingLine address).1] := by
  have covered := memory.listingLine_length_pos address
  have nothing : 1 - (memory.listingLine address).2 = 0 := by omega
  change memory.listingFrom address.toNat 1 = _
  rw [listingFrom, dif_pos Nat.one_pos]
  dsimp only
  rw [word_toNat, nothing, listingFrom_zero]

namespace Cpu

variable {cpu : Cpu}

/-- The line of an opcode that stands for no instruction shows the step that finds it. -/
theorem showsStep_of_unlisted (running : cpu.state.halted = false)
    (absent : Family.ofOpcode? (cpu.state.memory.peek cpu.pc.toNat).toNat = none) :
    (cpu.state.memory.listingLine cpu.pc).1.ShowsStep cpu.step.1 cpu.step.2 := by
  rw [Memory.listingLine_of_unlisted absent, cpu.step_of_unlisted running absent]
  exact {
    status := .inr rfl
    executed := fun other => nomatch other
    unimplemented := fun _ => ⟨cpu.state.memory.peek cpu.pc.toNat, rfl,
      ListingLine.bytes_ofData _ _, ListingLine.text_ofData _ _⟩
    jump := fun other => nomatch other }

/-- The line of a listed instruction shows the step that carries it out. -/
theorem showsStep_of_listed (running : cpu.state.halted = false) {instruction : Instruction}
    (listed : instruction.Listed)
    (held : cpu.state.memory.Holds cpu.pc.toNat instruction.encode) :
    (cpu.state.memory.listingLine cpu.pc).1.ShowsStep cpu.step.1 cpu.step.2 := by
  have read := data_readsFrom cpu.pc.toNat instruction.encode
  rw [Memory.listingLine_of_holds listed held, cpu.step_of_listed running listed held]
  exact {
    status := .inl rfl
    executed := fun _ => by
      refine ⟨_, rfl, ListingLine.text_ofInstruction _ _ _, ?_, ?_⟩
      · rw [accessed, read]
        rfl
      · rw [accessed, read]
        rfl
    unimplemented := fun other => nomatch other
    jump := fun _ operation told jumps => by
      obtain rfl := Option.some.inj told
      exact Instruction.operands_of_jump cpu.pc cpu.state.registers jumps }

/-- Unless the processor is halted, the listing of one byte at the program counter is a single line
that stands there and shows what the next step does. -/
theorem listing_showsStep (running : cpu.state.halted = false) :
    ∃ line, cpu.state.memory.listing cpu.pc.toNat 1 = [line] ∧ line.address = cpu.pc ∧
      line.ShowsStep cpu.step.1 cpu.step.2 := by
  refine ⟨_, cpu.state.memory.listing_one cpu.pc, Memory.address_listingLine _ _, ?_⟩
  rcases cpu.next_cases with halted | ⟨_, absent⟩ | ⟨_, instruction, listed, held⟩
  · rw [running] at halted
    cases halted
  · exact showsStep_of_unlisted running absent
  · exact showsStep_of_listed running listed held

/-- A relative jump at the end of memory, whose operand stands at its start and which leads back
below the address 0. -/
theorem listing_showsStep_around :
    let registers : Registers := { pc := 0xFFFF }
    let cpu : Cpu := { state := { registers, memory := Memory.blank.load 0xFFFF [0x18, 0xFC] } }
    cpu.state.halted = false ∧ cpu.step.1.status = .executed ∧ cpu.step.2.pc = 0xFFFD ∧
      ∃ line, cpu.state.memory.listing cpu.pc.toNat 1 = [line] ∧ line.address = cpu.pc ∧
        line.ShowsStep cpu.step.1 cpu.step.2 := by
  intro registers cpu
  have running : cpu.state.halted = false := rfl
  refine ⟨running, ?_, ?_, listing_showsStep running⟩
  · decide +kernel
  · decide +kernel

end Cpu

end Z80Monitor
