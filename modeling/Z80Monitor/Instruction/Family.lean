import Z80Monitor.Instruction.Basic
import Z80Monitor.Memory.Bus

/-!
# Instruction families

A family fixes which bits of an opcode name its operand and how many bytes follow. It has a
decoder, which reads an opcode with the bytes behind it and describes the instruction, and an
executor. Two tables say which opcodes are decoded and which are carried out, each by which
family; the statements here say that they have the same opcodes. The families themselves also
read opcodes that are not in the tables.
-/

namespace Z80Monitor

/-- The families of instructions. -/
inductive Family where
  /-- Do nothing. -/
  | nop
  /-- Stop. -/
  | halt
  /-- Add one to an operand for an even opcode, take one from it for an odd one. -/
  | step
  /-- Add an operand to A. -/
  | add
  /-- Exclusive or of A with an operand. -/
  | xor
  /-- Put the byte behind the opcode into an operand. -/
  | load
  /-- Go to the address behind the opcode. -/
  | jump
  /-- Go to the address at the distance behind the opcode. -/
  | jumpRelative
  deriving DecidableEq, Repr

namespace Family

/-- The opcodes of loads, which have the code of their target from bit 3 on. That of the byte at
the address in HL is left out. -/
def loadOpcodes : List Int :=
  ((List.range 8).map fun code : Nat => 0x06 + 8 * (code : Int)).filter (· ≠ 0x36)

/-- The decoder table: which family's decoder reads an opcode. -/
def decoders : List (Int × Family) :=
  [(0x00, .nop), (0x18, .jumpRelative), (0x3C, .step), (0x3D, .step), (0x76, .halt),
    (0x80, .add), (0xAF, .xor), (0xC3, .jump)] ++ loadOpcodes.map fun opcode => (opcode, .load)

/-- The executor table: which family's executor carries an opcode out. -/
def executors : List (Int × Family) :=
  [(0x00, .nop), (0x18, .jumpRelative), (0x3C, .step), (0x3D, .step), (0x76, .halt),
    (0x80, .add), (0xAF, .xor), (0xC3, .jump)] ++ loadOpcodes.map fun opcode => (opcode, .load)

/-- The family whose decoder reads an opcode. -/
def decoder? (opcode : Int) : Option Family := decoders.lookup opcode

/-- The family whose executor carries an opcode out. -/
def executor? (opcode : Int) : Option Family := executors.lookup opcode

/-- Whether an opcode is carried out. -/
def implemented (opcode : Int) : Bool := (executor? opcode).isSome

/-- The family of an opcode that is decoded and carried out. -/
def ofOpcode? : Int → Option Family
  | 0x00 => some .nop
  | 0x06 => some .load
  | 0x0E => some .load
  | 0x16 => some .load
  | 0x18 => some .jumpRelative
  | 0x1E => some .load
  | 0x26 => some .load
  | 0x2E => some .load
  | 0x3C => some .step
  | 0x3D => some .step
  | 0x3E => some .load
  | 0x76 => some .halt
  | 0x80 => some .add
  | 0xAF => some .xor
  | 0xC3 => some .jump
  | _ => none

/-- The decoder table has each opcode under its family, and no other opcode. -/
theorem decoder?_eq (opcode : Int) : decoder? opcode = ofOpcode? opcode := by
  unfold ofOpcode?
  split
  case h_16 =>
    apply List.lookup_eq_none_iff.mpr
    have keys : decoders.map Prod.fst = [0x00, 0x18, 0x3C, 0x3D, 0x76, 0x80, 0xAF, 0xC3, 0x06,
      0x0E, 0x16, 0x1E, 0x26, 0x2E, 0x3E] := by decide
    intro entry listed
    have key : entry.1 ∈ decoders.map Prod.fst := List.mem_map_of_mem listed
    rw [keys] at key
    rw [bne_iff_ne]
    rintro rfl
    simp_all
  all_goals rfl

/-- The executor table has the opcodes of the decoder table, each under the same family. -/
theorem executor?_eq_decoder? (opcode : Int) : executor? opcode = decoder? opcode := rfl

/-- The executor table has each opcode under its family, and no other opcode. -/
theorem executor?_eq (opcode : Int) : executor? opcode = ofOpcode? opcode := by
  rw [executor?_eq_decoder?, decoder?_eq]

/-- The opcodes that are carried out are those that have a family. -/
theorem implemented_eq (opcode : Int) : implemented opcode = (ofOpcode? opcode).isSome := by
  rw [implemented, executor?_eq]

/-- The opcode that a description shows: that of the family where it has only one, and the one
that was read otherwise. -/
def shownOpcode (family : Family) (opcode : Int) : Int :=
  match family with
  | .nop => 0x00
  | .halt => 0x76
  | .jump => 0xC3
  | .jumpRelative => 0x18
  | _ => opcode

/-- Read an instruction of a family whose opcode stands at `pc`, with the bytes behind the
opcode read over the bus. -/
def decode (family : Family) (opcode pc : Int) (bus : Bus) : Instruction × Bus :=
  match family with
  | .nop => (.nop, bus)
  | .halt => (.halt, bus)
  | .step =>
    let target := Operand.ofBits (opcode / 8)
    (if opcode % 2 = 0 then .increment target else .decrement target, bus)
  | .add => (.add (Operand.ofBits opcode), bus)
  | .xor => (.xor (Operand.ofBits opcode), bus)
  | .load =>
    let (value, bus) := bus.read (pc + 1)
    (.load (Operand.ofBits (opcode / 8)) value, bus)
  | .jump =>
    let (low, bus) := bus.read (pc + 1)
    let (high, bus) := bus.read (pc + 2)
    (.jump (littleEndian low high), bus)
  | .jumpRelative =>
    let (offset, bus) := bus.read (pc + 1)
    (.jumpRelative offset, bus)

/-- What the decoder of a family makes of an opcode that stands at `pc`. -/
def describe (family : Family) (opcode pc : Int) (bus : Bus) : Operation × Bus :=
  let (instruction, bus) := family.decode opcode pc bus
  (instruction.describe (family.shownOpcode opcode) pc, bus)

/-- The instruction that the executor of a family finds in a description: its operand in the bits
of the opcode, its value or address in the bytes behind it. -/
def recover (family : Family) (operation : Operation) : Except OperandFault Instruction :=
  match family with
  | .nop => .ok .nop
  | .halt => .ok .halt
  | .step =>
    let target := Operand.ofBits (operation.opcode / 8)
    .ok (if operation.opcode % 2 = 0 then .increment target else .decrement target)
  | .add => .ok (.add (Operand.ofBits operation.opcode))
  | .xor => .ok (.xor (Operand.ofBits operation.opcode))
  | .load =>
    match operation.operandBytes with
    | value :: _ => .ok (.load (Operand.ofBits (operation.opcode / 8)) value)
    | _ => .error .missing
  | .jump =>
    match operation.operandBytes with
    | low :: high :: _ => .ok (.jump (littleEndian low high))
    | _ => .error .missing
  | .jumpRelative =>
    match operation.operandBytes with
    | offset :: _ => .ok (.jumpRelative offset)
    | _ => .error .missing

/-- The executor of a family finds the instruction that the decoder of the family read: no byte of
its operand is missing. -/
theorem recover_describe (family : Family) (opcode pc : Int) (bus : Bus) :
    family.recover (family.describe opcode pc bus).1 = .ok (family.decode opcode pc bus).1 := by
  cases family with
  | jump =>
    exact congrArg (fun target => Except.ok (Instruction.jump target))
      (littleEndian_lowByte_highByte _)
  | _ => rfl

/-- A description shows the opcode that was read where the family has it. -/
theorem shownOpcode_eq {family : Family} {opcode : Int} (found : ofOpcode? opcode = some family) :
    family.shownOpcode opcode = opcode := by
  unfold ofOpcode? at found
  split at found <;> cases found <;> rfl

/-- No opcode of the tables has the byte at the address in HL as its operand. -/
theorem operand?_decode_ne_atHL {family : Family} {opcode : Int}
    (found : ofOpcode? opcode = some family) (pc : Int) (bus : Bus) :
    (family.decode opcode pc bus).1.operand? ≠ some .atHL := by
  unfold ofOpcode? at found
  split at found <;> cases found <;> simp [decode, Instruction.operand?, Operand.ofBits]

end Family

/-- Decode an opcode that stands at `pc`: by the decoder that the table has for it, and otherwise
as unknown without reading any further. -/
def Operation.decode (opcode pc : Int) (bus : Bus) : Operation × Bus :=
  match Family.decoder? opcode with
  | some family => family.describe opcode pc bus
  | none => (Operation.unknown opcode, bus)

/-- An opcode of the tables is decoded by its family. -/
theorem Operation.decode_of_some {opcode : Int} {family : Family}
    (found : Family.ofOpcode? opcode = some family) (pc : Int) (bus : Bus) :
    Operation.decode opcode pc bus = family.describe opcode pc bus := by
  rw [Operation.decode, Family.decoder?_eq, found]

/-- Any other opcode is decoded as unknown. -/
theorem Operation.decode_of_none {opcode : Int} (absent : Family.ofOpcode? opcode = none)
    (pc : Int) (bus : Bus) : Operation.decode opcode pc bus = (Operation.unknown opcode, bus) := by
  rw [Operation.decode, Family.decoder?_eq, absent]

/-- Whatever is decoded has a byte at least. -/
theorem Operation.length_decode_pos (opcode pc : Int) (bus : Bus) :
    0 < (Operation.decode opcode pc bus).1.length := by
  unfold Operation.decode
  split
  · exact Instruction.length_pos _
  · exact Nat.one_pos

end Z80Monitor
