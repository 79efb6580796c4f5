import Z80Monitor.Processor.State
import Z80Monitor.Proofs.Memory.Extent

/-!
# Widths

What a register shows is a number with as many bits as the register has, whatever was written to
it. Displays show the registers and the pairs under their names, and the groups that displays are
laid out in give each name the width of its register. A memory holds a byte at each of its 65536
addresses, and reading it at any number shows one of these.
-/

namespace Z80Monitor

/-- A number that `width` bits have room for. -/
def Fits (width : Nat) (value : Int) : Prop := 0 ≤ value ∧ value < Nat.pow 2 width

/-- Eight bits have room for a byte. -/
theorem fits_byte (value : UInt8) : Fits 8 value.toNat :=
  ⟨Int.natCast_nonneg _, Int.ofNat_lt.mpr value.toNat_lt⟩

/-- Sixteen bits have room for a word. -/
theorem fits_word (value : UInt16) : Fits 16 value.toNat :=
  ⟨Int.natCast_nonneg _, Int.ofNat_lt.mpr value.toNat_lt⟩

/-- A single bit has room for a truth value. -/
theorem fits_truth (value : Bool) : Fits 1 (RegisterValue.truth value).toInt := by
  unfold Fits
  cases value with
  | false => decide
  | true => decide

/-- A joined word is its high byte times 256 plus its low byte. -/
theorem toNat_littleEndian (low high : UInt8) :
    (littleEndian low high).toNat = 256 * high.toNat + low.toNat := by
  have bound := low.toNat_lt
  have bound' := high.toNat_lt
  rw [littleEndian, UInt16.toNat_ofNat']
  omega

/-- The width of a register in bits. -/
def Register.width : Register → Nat
  | .byte _ => 8
  | .word _ => 16
  | .flipFlop _ => 1

/-- The name of a register in displays. -/
def Register.displayName (register : Register) : String := Text.upperString register.name

/-- The name of a pair in displays. -/
def Pair.displayName (pair : Pair) : String := Text.upperString pair.name

namespace Registers

variable (registers : Registers)

/-- A register shows a number of its width. -/
theorem fits_read (register : Register) :
    Fits register.width (registers.read register).toInt := by
  cases register with
  | byte register => exact fits_byte (registers.getByte register)
  | word register => exact fits_word (registers.getWord register)
  | flipFlop register => exact fits_truth (registers.getFlipFlop register)

/-- Displays show a register under its name. -/
theorem lookup_display (register : Register) :
    registers.display.lookup register.displayName = some (registers.read register).toInt := by
  rcases register with register | register | register <;> cases register <;> rfl

/-- Displays show a pair under its name. -/
theorem lookup_display_pair (pair : Pair) :
    registers.display.lookup pair.displayName = some ((registers.getPair pair).toNat : Int) := by
  cases pair <;> rfl

/-- Displays show a pair as its upper register times 256 plus its lower one. -/
theorem lookup_display_pair_eq (pair : Pair) :
    registers.display.lookup pair.displayName =
      some (256 * (registers.read (.byte pair.high)).toInt +
        (registers.read (.byte pair.low)).toInt) := by
  rw [lookup_display_pair, getPair, toNat_littleEndian]
  rfl

end Registers

/-- A name in a group is that of a register, and is given with the width of the register. -/
theorem exists_register_of_mem {group : RegisterGroup} (grouped : group ∈ registerLayout)
    {member : String × Nat} (listed : member ∈ group.members) :
    ∃ register : Register, (register.displayName, register.width) = member := by
  have found : ∀ group ∈ registerLayout, ∀ member ∈ group.members,
      ∃ register ∈ Register.all, (register.displayName, register.width) = member := by
    decide +kernel
  obtain ⟨register, _, same⟩ := found group grouped member listed
  exact ⟨register, same⟩

/-- A state in which every number has the width that displays give it. -/
structure State.Bounded (state : State) : Prop where
  /-- A register shows a number of its width. -/
  registers (register : Register) : Fits register.width (state.registers.read register).toInt
  /-- A display shows that number under the name of the register. -/
  displayed (register : Register) :
    state.registers.display.lookup register.displayName =
      some (state.registers.read register).toInt
  /-- A display shows a pair as its upper register times 256 plus its lower one. -/
  pairs (pair : Pair) :
    state.registers.display.lookup pair.displayName =
      some (256 * (state.registers.read (.byte pair.high)).toInt +
        (state.registers.read (.byte pair.low)).toInt)
  /-- A display shows a number under each name of a group, and the width given there is enough
  for it. -/
  layout (group : RegisterGroup) (grouped : group ∈ registerLayout) (name : String) (width : Nat)
    (listed : (name, width) ∈ group.members) :
    ∃ value, state.registers.display.lookup name = some value ∧ Fits width value
  /-- The memory holds 65536 bytes. -/
  size : state.memory.bytes.toList.length = 65536
  /-- Each of them has eight bits. -/
  bytes (value : UInt8) (held : value ∈ state.memory.bytes.toList) : Fits 8 value.toNat
  /-- Reading at a number shows the byte at its residue. -/
  peek (address : Int) :
    state.memory.bytes.toList[(address % 65536).toNat]? = some (state.memory.peek address)

/-- Every state keeps to the widths. -/
theorem State.bounded (state : State) : state.Bounded where
  registers := state.registers.fits_read
  displayed := state.registers.lookup_display
  pairs := state.registers.lookup_display_pair_eq
  layout := by
    intro group grouped name width listed
    obtain ⟨register, same⟩ := exists_register_of_mem grouped listed
    obtain ⟨rfl, rfl⟩ := Prod.mk.inj same
    exact ⟨_, state.registers.lookup_display register, state.registers.fits_read register⟩
  size := AddressSpace.length_toList _
  bytes := fun value _ => fits_byte value
  peek := state.memory.getElem?_bytes

end Z80Monitor
