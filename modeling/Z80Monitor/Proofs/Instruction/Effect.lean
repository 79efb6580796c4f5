import Z80Monitor.Instruction.Encoding
import Z80Monitor.Proofs.Register.Arithmetic

/-!
# Effects of instructions

What an instruction makes of the registers and where the processor goes on behind it, said
without the steps of carrying it out. The main statement says that carrying out an instruction
past which the program counter has moved already has exactly this effect.
-/

namespace Z80Monitor

/-- No operand is the flag register. -/
theorem Operand.ne_f_of_register? {operand : Operand} {register : ByteRegister}
    (named : operand.register? = some register) : register ≠ .f := by
  cases operand <;> cases named <;> decide

/-- Only the byte at the address in HL is no register. -/
theorem Operand.exists_register? {operand : Operand} (named : operand ≠ .atHL) :
    ∃ register, operand.register? = some register := by
  cases operand with
  | atHL => exact absurd rfl named
  | _ => exact ⟨_, rfl⟩

namespace Instruction

/-- What an instruction makes of the registers, the program counter apart. -/
def effect (instruction : Instruction) (registers : Registers) : Registers :=
  match instruction with
  | .increment target => target.register?.elim registers registers.incremented
  | .decrement target => target.register?.elim registers registers.decremented
  | .add source => source.register?.elim registers registers.added
  | .xor source => source.register?.elim registers registers.xored
  | .load target value =>
    target.register?.elim registers fun register => registers.setByte register value
  | _ => registers

/-- Where the processor goes on behind an instruction that stands at `pc`. -/
def next (instruction : Instruction) (pc : Int) : Int :=
  match instruction with
  | .jump target => target.toNat
  | .jumpRelative offset => pc + 2 + signed offset
  | instruction => pc + instruction.length

/-- The registers behind an instruction that stands at `pc`. -/
def resultAt (instruction : Instruction) (pc : Int) (registers : Registers) : Registers :=
  { instruction.effect registers with pc := word (instruction.next pc) }

/-- The effect neither looks at the program counter nor changes it. -/
theorem effect_with_pc (instruction : Instruction) (registers : Registers) (pc : UInt16) :
    instruction.effect { registers with pc := pc } =
      { instruction.effect registers with pc := pc } := by
  cases instruction with
  | increment target => cases target <;> rfl
  | decrement target => cases target <;> rfl
  | add source => cases source <;> rfl
  | xor source => cases source <;> rfl
  | load target value => cases target <;> rfl
  | _ => rfl

/-- Carrying out an instruction other than a jump or a halt changes the registers by its effect. -/
theorem execute_eq_effect {instruction : Instruction} {operand : Operand}
    (holds : instruction.operand? = some operand) (named : operand ≠ .atHL) (state : State) :
    instruction.execute state =
      .ok { state with registers := instruction.effect state.registers } := by
  obtain ⟨register, found⟩ := Operand.exists_register? named
  have other := Operand.ne_f_of_register? found
  cases instruction with
  | increment target =>
    obtain rfl := Option.some.inj holds
    have meaning := state.registers.flagsAfterIncrement_setByte other
    simp only [execute, effect, Operand.read, Operand.write, found, bind, Except.bind,
      Option.elim]
    rw [meaning]
  | decrement target =>
    obtain rfl := Option.some.inj holds
    have meaning := state.registers.flagsAfterDecrement_setByte other
    simp only [execute, effect, Operand.read, Operand.write, found, bind, Except.bind,
      Option.elim]
    rw [meaning]
  | add source =>
    obtain rfl := Option.some.inj holds
    have meaning := state.registers.flagsAfterAdd_setByte register
    simp only [execute, effect, Operand.read, found, bind, Except.bind, Option.elim]
    rw [meaning]
  | xor source =>
    obtain rfl := Option.some.inj holds
    have meaning := state.registers.flagsAfterLogic_setByte register
    simp only [execute, effect, Operand.read, found, bind, Except.bind, Option.elim]
    rw [meaning]
  | load target value =>
    obtain rfl := Option.some.inj holds
    simp only [execute, effect, Operand.write, found, bind, Except.bind, Option.elim, byte_toNat]
  | _ => cases holds

/-- Only jumps go on elsewhere than right behind themselves. -/
theorem next_of_operand? {instruction : Instruction} {operand : Operand}
    (holds : instruction.operand? = some operand) (pc : Int) :
    instruction.next pc = pc + instruction.length := by
  cases instruction <;> first | rfl | cases holds

/-- An instruction that has moved the program counter past itself sends it where the instruction
goes on, has its effect on the other registers and halts the processor if it is a halt. Memory
and cycles stay. -/
theorem execute_setPc {instruction : Instruction} (named : instruction.operand? ≠ some .atHL)
    (state : State) (pc : Int) :
    instruction.execute (state.setPc (pc + instruction.length)) =
      .ok { state with
        registers := instruction.resultAt pc state.registers
        halted := instruction == .halt || state.halted } := by
  cases holds : instruction.operand? with
  | some operand =>
    have register : operand ≠ .atHL := fun same => named (holds.trans (congrArg some same))
    have moving : instruction ≠ .halt := fun same => by
      rw [same] at holds
      cases holds
    rw [execute_eq_effect holds register, resultAt, next_of_operand? holds,
      beq_eq_false_iff_ne.mpr moving, Bool.false_or]
    exact congrArg (fun registers => Except.ok { state with registers })
      (instruction.effect_with_pc state.registers (word (pc + instruction.length)))
  | none =>
    cases instruction with
    | nop => rfl
    | halt => rfl
    | jump target => rfl
    | jumpRelative offset =>
      have arrived : word (((word (pc + 2)).toNat : Int) + signed offset) =
          word (pc + 2 + signed offset) := by
        rw [word_eq_word_iff, toNat_word]
        omega
      exact congrArg (fun target => Except.ok
        { state with registers := { state.registers with pc := target } }) arrived
    | _ => cases holds

end Instruction

end Z80Monitor
