import Z80Monitor.Register.Basic

/-!
# Writing to registers

A register that was written to shows the residue of the number, and every other register shows what
it showed before. So several registers can be written to in any order: each shows the number that
was written to it, as long as none of them is written to twice.
-/

namespace Z80Monitor

/-- What a register shows behind a write of a number. -/
def Register.held : Register → Int → RegisterValue
  | .byte _, value => .number (value % 256)
  | .word _, value => .number (value % 65536)
  | .flipFlop _, value => .truth (value != 0)

/-- A register is found under its name. -/
theorem Register.ofName?_name (register : Register) :
    Register.ofName? register.name = some register := by
  rcases register with register | register | register <;> cases register <;> rfl

/-- A register is the one that is found under a name exactly where it has the name. -/
theorem Register.ofName?_eq_some_iff {name : String} {register : Register} :
    Register.ofName? name = some register ↔ register.name = name := by
  constructor
  · intro found
    have named := List.find?_some found
    exact beq_iff_eq.mp named
  · rintro rfl
    exact register.ofName?_name

/-- No two registers have one name. -/
theorem Register.name_injective {first second : Register} (same : first.name = second.name) :
    first = second :=
  Option.some.inj (first.ofName?_name.symm.trans (Register.ofName?_eq_some_iff.mpr same.symm))

namespace Registers

variable (registers : Registers)

section Kinds

variable (byteRegister : ByteRegister) (wordRegister : WordRegister) (flipFlop : FlipFlop)

/-- Writing a word register leaves the byte registers as they are. -/
theorem getByte_setWord (value : UInt16) :
    (registers.setWord wordRegister value).getByte byteRegister =
      registers.getByte byteRegister := by
  cases wordRegister <;> rfl

/-- Writing a flip-flop leaves the byte registers as they are. -/
theorem getByte_setFlipFlop (value : Bool) :
    (registers.setFlipFlop flipFlop value).getByte byteRegister =
      registers.getByte byteRegister := by
  cases flipFlop <;> rfl

/-- Writing a byte register leaves the word registers as they are. -/
theorem getWord_setByte (value : UInt8) :
    (registers.setByte byteRegister value).getWord wordRegister =
      registers.getWord wordRegister := by
  cases byteRegister <;> rfl

/-- Writing a flip-flop leaves the word registers as they are. -/
theorem getWord_setFlipFlop (value : Bool) :
    (registers.setFlipFlop flipFlop value).getWord wordRegister =
      registers.getWord wordRegister := by
  cases flipFlop <;> rfl

/-- Writing a byte register leaves the flip-flops as they are. -/
theorem getFlipFlop_setByte (value : UInt8) :
    (registers.setByte byteRegister value).getFlipFlop flipFlop =
      registers.getFlipFlop flipFlop := by
  cases byteRegister <;> rfl

/-- Writing a word register leaves the flip-flops as they are. -/
theorem getFlipFlop_setWord (value : UInt16) :
    (registers.setWord wordRegister value).getFlipFlop flipFlop =
      registers.getFlipFlop flipFlop := by
  cases wordRegister <;> rfl

/-- Reading the flip-flop just written gives the state written. -/
theorem getFlipFlop_setFlipFlop_self (value : Bool) :
    (registers.setFlipFlop flipFlop value).getFlipFlop flipFlop = value := by
  cases flipFlop <;> rfl

/-- Writing a flip-flop leaves the other one as it is. -/
theorem getFlipFlop_setFlipFlop_of_ne {flipFlop other : FlipFlop} (differ : other ≠ flipFlop)
    (value : Bool) :
    (registers.setFlipFlop flipFlop value).getFlipFlop other = registers.getFlipFlop other := by
  cases flipFlop <;> cases other <;> first | rfl | exact absurd rfl differ

end Kinds

/-- A register shows the residue of the number just written to it. -/
theorem read_write_self (register : Register) (value : Int) :
    (registers.write register value).read register = register.held value := by
  cases register with
  | byte register => rw [write, read, getByte_setByte_self, toNat_byte, Register.held]
  | word register => rw [write, read, getWord_setWord_self, toNat_word, Register.held]
  | flipFlop register => rw [write, read, getFlipFlop_setFlipFlop_self, Register.held]

/-- Writing to a register leaves the other registers as they are. -/
theorem read_write_of_ne {register other : Register} (differ : other ≠ register) (value : Int) :
    (registers.write register value).read other = registers.read other := by
  cases register with
  | byte register =>
    cases other with
    | byte other =>
      have apart : other ≠ register := fun same => differ (congrArg Register.byte same)
      rw [write, read, read, getByte_setByte_of_ne registers apart]
    | word other => rw [write, read, read, getWord_setByte]
    | flipFlop other => rw [write, read, read, getFlipFlop_setByte]
  | word register =>
    cases other with
    | byte other => rw [write, read, read, getByte_setWord]
    | word other =>
      have apart : other ≠ register := fun same => differ (congrArg Register.word same)
      rw [write, read, read, getWord_setWord_of_ne registers apart]
    | flipFlop other => rw [write, read, read, getFlipFlop_setWord]
  | flipFlop register =>
    cases other with
    | byte other => rw [write, read, read, getByte_setFlipFlop]
    | word other => rw [write, read, read, getWord_setFlipFlop]
    | flipFlop other =>
      have apart : other ≠ register := fun same => differ (congrArg Register.flipFlop same)
      rw [write, read, read, getFlipFlop_setFlipFlop_of_ne registers apart]

/-- Putting a byte into a register leaves the other registers as they are. -/
theorem read_setByte_of_ne {target : ByteRegister} {register : Register}
    (differ : register ≠ .byte target) (value : UInt8) :
    (registers.setByte target value).read register = registers.read register := by
  have same := registers.read_write_of_ne differ value.toNat
  rwa [write, byte_toNat] at same

/-- Write values to registers, one after the other. -/
def writeAll : Registers → List (Register × RegisterValue) → Registers
  | registers, [] => registers
  | registers, (register, value) :: rest => writeAll (registers.write register value.toInt) rest

variable {entries : List (Register × RegisterValue)} {register : Register}

/-- A register that is not written to stays as it is. -/
theorem read_writeAll_of_not_mem (absent : register ∉ entries.map Prod.fst) :
    (registers.writeAll entries).read register = registers.read register := by
  induction entries generalizing registers with
  | nil => rfl
  | cons entry rest ih =>
    obtain ⟨front, behind⟩ := not_or.mp (fun present => absent (List.mem_cons.mpr present))
    rw [writeAll, ih _ behind, read_write_of_ne registers front]

/-- Where no register is written to twice, each shows the value that was written to it. -/
theorem read_writeAll_of_mem (distinct : (entries.map Prod.fst).Nodup) {value : RegisterValue}
    (listed : (register, value) ∈ entries) :
    (registers.writeAll entries).read register = register.held value.toInt := by
  induction entries generalizing registers with
  | nil => cases listed
  | cons entry rest ih =>
    obtain ⟨once, behind⟩ := List.nodup_cons.mp distinct
    rcases List.mem_cons.mp listed with rfl | later
    · rw [writeAll, read_writeAll_of_not_mem _ once, read_write_self]
    · exact ih _ behind later

end Registers

end Z80Monitor
