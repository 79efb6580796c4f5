import Z80Monitor.Processor.Execution
import Z80Monitor.Proofs.Instruction.Effect
import Z80Monitor.Proofs.Register.Writing

/-!
# Meaning of the arithmetic instructions

What the instructions that add one, take one, add a register to A and combine A with a register
mean in the arithmetic of integers: the byte that they leave as a residue, and each flag by the
carry, the borrow or the overflow that it stands for. The main statement says this of every opcode
that names a register in the bits of its family, whether or not the opcode table has it.
-/

namespace Z80Monitor

/-- The operand that the lowest three bits of a number name has these bits as its code. -/
theorem Operand.ofBits_of_emod {bits : Int} {operand : Operand}
    (code : bits % 8 = operand.code) : ofBits bits = operand := by
  have low : (bits % 8).toNat = operand.code := by omega
  unfold ofBits
  rw [low]
  cases operand <;> rfl

/-- A byte is negative in two's complement where its most significant bit is set. -/
theorem signed_neg_iff (value : UInt8) : signed value < 0 ↔ 128 ≤ value.toNat := by
  have bound := value.toNat_lt
  unfold signed
  split <;> omega

/-- What the executor of a family makes of a state, given what the decoder of the family makes of an
opcode at `pc`, and the bus that decoding leaves. -/
def Family.carryOut (family : Family) (opcode pc : Int) (bus : Bus) (state : State) :
    Except OperandFault State × Bus :=
  let (operation, read) := family.describe opcode pc bus
  (family.execute operation state, read)

/-- Wherever an opcode stands and on whatever state, its instruction turns registers into others and
changes nothing else. -/
def Family.Turns (family : Family) (opcode : Int) (before after : Registers) : Prop :=
  ∀ (state : State) (pc : Int) (bus : Bus), state.registers = before →
    family.carryOut opcode pc bus state = (.ok { state with registers := after }, bus)

namespace Registers

/-- What all the arithmetic instructions have in common that put a byte into `target`. -/
structure Delivers (before after : Registers) (target : ByteRegister) : Prop where
  /-- Sign is set where the byte is negative. -/
  sign : after.getFlag .s = true ↔ signed (after.getByte target) < 0
  /-- Zero is set where the byte is zero. -/
  zero : after.getFlag .z = true ↔ (after.getByte target).toNat = 0
  /-- Bits 3 and 5 of the flags stay. -/
  unused : after.getFlag .x = before.getFlag .x ∧ after.getFlag .y = before.getFlag .y
  /-- All registers stay but the one with the byte and the flags. -/
  others : ∀ register, register ≠ .byte target → register ≠ .byte .f →
    after.read register = before.read register

/-- What adding and subtracting have in common, where `result` is the result for the bytes as they
are, `exact` the one for the bytes in two's complement, and `half` says that there is a carry out of
bit 3 or a borrow into it. -/
structure Computes (before after : Registers) (target : ByteRegister) (result exact : Int)
    (half : Prop) : Prop extends Delivers before after target where
  /-- The byte is the residue of the result. -/
  value : ((after.getByte target).toNat : Int) = result % 256
  /-- Half carry is set for a carry or a borrow at bit 3. -/
  halfCarry : after.getFlag .h = true ↔ half
  /-- Overflow is set where the result in two's complement does not fit into a byte. -/
  overflow : after.getFlag .pv = true ↔ exact < -128 ∨ 127 < exact

/-- One is added to `target`. -/
structure Increments (before after : Registers) (target : ByteRegister) : Prop where
  /-- The byte and the flags that describe it. -/
  computes : before.Computes after target ((before.getByte target).toNat + 1)
    (signed (before.getByte target) + 1) (15 < (before.getByte target).toNat % 16 + 1)
  /-- Nothing is subtracted. -/
  subtraction : after.getFlag .n = false
  /-- The carry stays. -/
  carry : after.getFlag .c = before.getFlag .c

/-- One is taken from `target`. -/
structure Decrements (before after : Registers) (target : ByteRegister) : Prop where
  /-- The byte and the flags that describe it. -/
  computes : before.Computes after target ((before.getByte target).toNat - 1)
    (signed (before.getByte target) - 1) ((before.getByte target).toNat % 16 < 1)
  /-- Something is subtracted. -/
  subtraction : after.getFlag .n = true
  /-- The carry stays. -/
  carry : after.getFlag .c = before.getFlag .c

/-- A register is added to A. -/
structure Adds (before after : Registers) (source : ByteRegister) : Prop where
  /-- The byte and the flags that describe it. -/
  computes : before.Computes after .a (before.a.toNat + (before.getByte source).toNat)
    (signed before.a + signed (before.getByte source))
    (15 < before.a.toNat % 16 + (before.getByte source).toNat % 16)
  /-- Nothing is subtracted. -/
  subtraction : after.getFlag .n = false
  /-- Carry is set where the sum does not fit into a byte. -/
  carry : after.getFlag .c = true ↔ 255 < before.a.toNat + (before.getByte source).toNat

/-- A is combined with a register by exclusive or. -/
structure Combines (before after : Registers) (source : ByteRegister) : Prop where
  /-- The flags that describe the byte. -/
  delivers : before.Delivers after .a
  /-- The byte has the bits in which the two differ. -/
  value : after.a = before.a ^^^ before.getByte source
  /-- Parity is set where the byte has an even number of one bits. -/
  parity : after.getFlag .pv = true ↔ onesOf after.a % 2 = 0
  /-- There is no carry, and nothing is subtracted. -/
  clear : after.getFlag .h = false ∧ after.getFlag .n = false ∧ after.getFlag .c = false

variable (before : Registers)

/-- The flags of registers whose flags were replaced. -/
theorem getFlag_with_flagByte (flags : Flag → Bool) (flag : Flag) :
    ({ before with f := flagByte flags } : Registers).getFlag flag = flags flag := by
  rw [getFlag_eq_testBit]
  exact testBit_flagByte flags flag

/-- Replacing the flags leaves the other byte registers as they are. -/
theorem getByte_with_f {register : ByteRegister} (other : register ≠ .f) (flags : UInt8) :
    ({ before with f := flags } : Registers).getByte register = before.getByte register :=
  before.getByte_setByte_of_ne other flags

/-- A byte that is put into a register with flags that describe it. -/
theorem delivers_setByte {target : ByteRegister} (other : target ≠ .f) (result : UInt8)
    {flags : Flag → Bool} (sign : flags .s = decide (128 ≤ result.toNat))
    (zero : flags .z = decide (result.toNat = 0))
    (unused : flags .x = before.getFlag .x ∧ flags .y = before.getFlag .y) :
    before.Delivers { before.setByte target result with f := flagByte flags } target := by
  have held : ({ before.setByte target result with f := flagByte flags } : Registers).getByte
      target = result := by
    rw [getByte_with_f _ other, getByte_setByte_self]
  refine ⟨?_, ?_, ?_, ?_⟩
  · rw [getFlag_with_flagByte, held, sign, decide_eq_true_iff, signed_neg_iff]
  · rw [getFlag_with_flagByte, held, zero, decide_eq_true_iff]
  · rw [getFlag_with_flagByte, getFlag_with_flagByte]
    exact unused
  · intro register written flag
    exact ((before.setByte target result).read_setByte_of_ne flag (flagByte flags)).trans
      (before.read_setByte_of_ne written result)

/-- The residue of a result that is put into a register with flags that describe the result. -/
theorem computes_setByte {target : ByteRegister} (other : target ≠ .f) {low : Nat}
    {result exact : Int} {half : Prop} {flags : Flag → Bool} (residue : (low : Int) = result % 256)
    (sign : flags .s = decide (128 ≤ low)) (zero : flags .z = decide (low = 0))
    (unused : flags .x = before.getFlag .x ∧ flags .y = before.getFlag .y)
    (halfCarry : flags .h = true ↔ half)
    (overflow : flags .pv = true ↔ exact < -128 ∨ 127 < exact) :
    before.Computes { before.setByte target (UInt8.ofNat low) with f := flagByte flags } target
      result exact half := by
  have small : low < 256 := by omega
  have shown : (UInt8.ofNat low).toNat = low := UInt8.toNat_ofNat_of_lt small
  refine ⟨before.delivers_setByte other _ ?_ ?_ unused, ?_, ?_, ?_⟩
  · rw [shown, sign]
  · rw [shown, zero]
  · rw [getByte_with_f _ other, getByte_setByte_self, shown, residue]
  · rw [getFlag_with_flagByte, halfCarry]
  · rw [getFlag_with_flagByte, overflow]

/-- One is added. The flag at 127 alone is overflow, since no other sum with one is above 127 in
two's complement. -/
theorem increments_incremented {target : ByteRegister} (other : target ≠ .f) :
    before.Increments (before.incremented target) target := by
  have bound := (before.getByte target).toNat_lt
  refine ⟨before.computes_setByte other ?_ rfl rfl ⟨rfl, rfl⟩ ?_ ?_, ?_, ?_⟩
  · omega
  · rw [decide_eq_true_iff]
    omega
  · rw [decide_eq_true_iff]
    unfold signed
    split <;> omega
  · exact getFlag_with_flagByte _ _ .n
  · exact getFlag_with_flagByte _ _ .c

/-- One is taken. The flag at -128 alone is overflow, since no other difference with one is below
-128 in two's complement. -/
theorem decrements_decremented {target : ByteRegister} (other : target ≠ .f) :
    before.Decrements (before.decremented target) target := by
  have bound := (before.getByte target).toNat_lt
  refine ⟨before.computes_setByte other ?_ rfl rfl ⟨rfl, rfl⟩ ?_ ?_, ?_, ?_⟩
  · omega
  · rw [decide_eq_true_iff]
    omega
  · rw [decide_eq_true_iff]
    unfold signed
    split <;> omega
  · exact getFlag_with_flagByte _ _ .n
  · exact getFlag_with_flagByte _ _ .c

/-- A register is added to A. Operands of one sign whose residue has the other sign are those whose
sum in two's complement does not fit into a byte. -/
theorem adds_added (source : ByteRegister) : before.Adds (before.added source) source := by
  have left := before.a.toNat_lt
  have right := (before.getByte source).toNat_lt
  refine ⟨before.computes_setByte (by decide) ?_ rfl rfl ⟨rfl, rfl⟩ ?_ ?_, ?_, ?_⟩
  · omega
  · rw [decide_eq_true_iff]
  · rw [decide_eq_true_iff]
    unfold signed
    split <;> split <;> omega
  · exact getFlag_with_flagByte _ _ .n
  · exact (getFlag_with_flagByte _ _ .c).symm ▸ decide_eq_true_iff

/-- The exclusive or of A with a register, with the flags that describe it. -/
theorem combines_xored (source : ByteRegister) : before.Combines (before.xored source) source := by
  refine ⟨before.delivers_setByte (by decide) _ rfl rfl ⟨rfl, rfl⟩, rfl, ?_, ?_, ?_, ?_⟩
  · exact (getFlag_with_flagByte _ _ .pv).symm ▸ decide_eq_true_iff
  · exact getFlag_with_flagByte _ _ .h
  · exact getFlag_with_flagByte _ _ .n
  · exact getFlag_with_flagByte _ _ .c

variable {before} {middle after sum : Registers} {target source : ByteRegister}

/-- Taking one from a register that one was added to brings its byte back. -/
theorem Increments.getByte_of_decrements (up : before.Increments middle target)
    (down : middle.Decrements after target) : after.getByte target = before.getByte target := by
  have raised := up.computes.value
  have lowered := down.computes.value
  have bound := (before.getByte target).toNat_lt
  apply UInt8.toNat_inj.mp
  omega

/-- Adding one to a register and taking one from it changes no other register than the flags. -/
theorem Increments.read_of_decrements (up : before.Increments middle target)
    (down : middle.Decrements after target) {register : Register} (kept : register ≠ .byte .f) :
    after.read register = before.read register := by
  by_cases same : register = .byte target
  · rw [same, read, read, up.getByte_of_decrements down]
  · exact (down.computes.others register same kept).trans (up.computes.others register same kept)

/-- Adding one to a register makes of its byte what adding a register that holds one to A makes of
the same byte in A. -/
theorem Increments.a_of_adds {left : Registers} (up : before.Increments after target)
    (adding : left.Adds sum source) (same : left.a = before.getByte target)
    (one : left.getByte source = 1) : sum.a = after.getByte target := by
  have raised := up.computes.value
  have added := adding.computes.value
  rw [same, one] at added
  apply UInt8.toNat_inj.mp
  have shown : (sum.getByte .a).toNat = sum.a.toNat := rfl
  have unit : (1 : UInt8).toNat = 1 := rfl
  omega

/-- Adding one to a register sets all flags but the carry as adding a register that holds one to A
sets them for the same byte in A. -/
theorem Increments.getFlag_of_adds {left : Registers} (up : before.Increments after target)
    (adding : left.Adds sum source) (same : left.a = before.getByte target)
    (one : left.getByte source = 1) {flag : Flag} (arithmetic : flag ∈ [Flag.s, .z, .h, .pv, .n]) :
    sum.getFlag flag = after.getFlag flag := by
  have value : sum.getByte .a = after.getByte target := up.a_of_adds adding same one
  have unit : (1 : UInt8).toNat = 1 := rfl
  have signedUnit : signed 1 = 1 := rfl
  cases flag with
  | s => rw [Bool.eq_iff_iff, adding.computes.sign, up.computes.sign, value]
  | z => rw [Bool.eq_iff_iff, adding.computes.zero, up.computes.zero, value]
  | h =>
    rw [Bool.eq_iff_iff, adding.computes.halfCarry, up.computes.halfCarry, same, one, unit]
  | pv =>
    rw [Bool.eq_iff_iff, adding.computes.overflow, up.computes.overflow, same, one, signedUnit]
  | n => rw [adding.subtraction, up.subtraction]
  | _ => simp at arithmetic

end Registers

namespace Family

variable {operand : Operand} {register : ByteRegister} {opcode : Int}

/-- What an instruction turns registers into is one thing. -/
theorem Turns.unique {family : Family} {before after other : Registers}
    (one : family.Turns opcode before after) (two : family.Turns opcode before other) :
    after = other := by
  have first := one { registers := before } 0 (Bus.attach .blank) rfl
  have second := two { registers := before } 0 (Bus.attach .blank) rfl
  cases first.symm.trans second
  rfl

/-- An instruction that has a register as its operand and is all that an opcode is read as turns
registers into those behind the instruction's effect. -/
theorem turns_of_decode {family : Family} {instruction : Instruction}
    (read : ∀ pc bus, family.decode opcode pc bus = (instruction, bus))
    (holds : instruction.operand? = some operand) (named : operand.register? = some register)
    (before : Registers) : family.Turns opcode before (instruction.effect before) := by
  have other : operand ≠ .atHL := by
    rintro rfl
    cases named
  intro state pc bus held
  have carried := family.execute_describe opcode pc bus state
  rw [read, Instruction.execute_eq_effect holds other, held] at carried
  have left : (family.describe opcode pc bus).2 = bus := by rw [describe, read]
  exact Prod.ext carried left

/-- An even opcode adds one to the register that its middle bits name. -/
theorem turns_incremented (named : operand.register? = some register)
    (middle : opcode / 8 % 8 = operand.code) (even : opcode % 2 = 0) (before : Registers) :
    Family.step.Turns opcode before (before.incremented register) := by
  have read (pc : Int) (bus : Bus) :
      Family.step.decode opcode pc bus = (.increment operand, bus) := by
    rw [decode, if_pos even, Operand.ofBits_of_emod middle]
  have turned := turns_of_decode read rfl named before
  rwa [Instruction.effect, named] at turned

/-- An odd opcode takes one from the register that its middle bits name. -/
theorem turns_decremented (named : operand.register? = some register)
    (middle : opcode / 8 % 8 = operand.code) (odd : opcode % 2 = 1) (before : Registers) :
    Family.step.Turns opcode before (before.decremented register) := by
  have read (pc : Int) (bus : Bus) :
      Family.step.decode opcode pc bus = (.decrement operand, bus) := by
    rw [decode, if_neg (by omega), Operand.ofBits_of_emod middle]
  have turned := turns_of_decode read rfl named before
  rwa [Instruction.effect, named] at turned

/-- An opcode adds the register that its lowest bits name to A. -/
theorem turns_added (named : operand.register? = some register)
    (lowest : opcode % 8 = operand.code) (before : Registers) :
    Family.add.Turns opcode before (before.added register) := by
  have read (pc : Int) (bus : Bus) : Family.add.decode opcode pc bus = (.add operand, bus) := by
    rw [decode, Operand.ofBits_of_emod lowest]
  have turned := turns_of_decode read rfl named before
  rwa [Instruction.effect, named] at turned

/-- An opcode combines A with the register that its lowest bits name. -/
theorem turns_xored (named : operand.register? = some register)
    (lowest : opcode % 8 = operand.code) (before : Registers) :
    Family.xor.Turns opcode before (before.xored register) := by
  have read (pc : Int) (bus : Bus) : Family.xor.decode opcode pc bus = (.xor operand, bus) := by
    rw [decode, Operand.ofBits_of_emod lowest]
  have turned := turns_of_decode read rfl named before
  rwa [Instruction.effect, named] at turned

end Family

namespace Operand

/-- The opcodes that add one to an operand are even and have its code from bit 3 on. -/
def RaisedBy (operand : Operand) (opcode : Int) : Prop :=
  opcode / 8 % 8 = operand.code ∧ opcode % 2 = 0

/-- The opcodes that take one from an operand are odd and have its code from bit 3 on. -/
def LoweredBy (operand : Operand) (opcode : Int) : Prop :=
  opcode / 8 % 8 = operand.code ∧ opcode % 2 = 1

/-- The opcodes that have A and an operand as their operands have its code from bit 0 on. -/
def CombinedBy (operand : Operand) (opcode : Int) : Prop := opcode % 8 = operand.code

/-- What all opcodes of the arithmetic instructions with an operand mean, where the operand is a
register. -/
structure Arithmetic (operand : Operand) (register : ByteRegister) : Prop where
  /-- One is added to the register. -/
  increment : ∀ opcode, operand.RaisedBy opcode → ∀ before, ∃ after,
    Family.step.Turns opcode before after ∧ before.Increments after register
  /-- One is taken from the register. -/
  decrement : ∀ opcode, operand.LoweredBy opcode → ∀ before, ∃ after,
    Family.step.Turns opcode before after ∧ before.Decrements after register
  /-- The register is added to A, which may be the register itself. -/
  add : ∀ opcode, operand.CombinedBy opcode → ∀ before, ∃ after,
    Family.add.Turns opcode before after ∧ before.Adds after register
  /-- A is combined with the register, which may be A itself. -/
  xor : ∀ opcode, operand.CombinedBy opcode → ∀ before, ∃ after,
    Family.xor.Turns opcode before after ∧ before.Combines after register
  /-- Adding one comes to the same as adding another operand that holds one to A, where A holds
  what the register does: in the byte, and in all flags but the carry. -/
  increment_eq_add : ∀ raising, operand.RaisedBy raising → ∀ before after,
    Family.step.Turns raising before after → ∀ (unit : Operand) source, unit.register? = some source →
    ∀ adding, unit.CombinedBy adding → ∀ left sum, Family.add.Turns adding left sum →
    left.a = before.getByte register → left.getByte source = 1 →
    sum.a = after.getByte register ∧
      ∀ flag ∈ [Flag.s, .z, .h, .pv, .n], sum.getFlag flag = after.getFlag flag
  /-- Taking one behind adding one restores the register, and leaves all others but the flags as
  they were. -/
  decrement_increment : ∀ raising, operand.RaisedBy raising → ∀ lowering,
    operand.LoweredBy lowering → ∀ before middle after, Family.step.Turns raising before middle →
    Family.step.Turns lowering middle after →
    after.getByte register = before.getByte register ∧
      ∀ other, other ≠ .byte .f → after.read other = before.read other

/-- The arithmetic instructions of every opcode that names a register mean integer arithmetic, on
whatever state they are carried out. -/
theorem arithmetic_of_register {operand : Operand} {register : ByteRegister}
    (named : operand.register? = some register) : operand.Arithmetic register where
  increment opcode raised before :=
    ⟨_, Family.turns_incremented named raised.1 raised.2 before,
      before.increments_incremented (ne_f_of_register? named)⟩
  decrement opcode lowered before :=
    ⟨_, Family.turns_decremented named lowered.1 lowered.2 before,
      before.decrements_decremented (ne_f_of_register? named)⟩
  add opcode combined before :=
    ⟨_, Family.turns_added named combined before, before.adds_added register⟩
  xor opcode combined before :=
    ⟨_, Family.turns_xored named combined before, before.combines_xored register⟩
  increment_eq_add raising raised before after turned unit source unitNamed adding combined left sum
      summed same one := by
    -- Both opcodes are known from what they turn registers into, so the meanings are compared.
    obtain rfl := turned.unique (Family.turns_incremented named raised.1 raised.2 before)
    obtain rfl := summed.unique (Family.turns_added unitNamed combined left)
    have up := before.increments_incremented (ne_f_of_register? named)
    have plus := left.adds_added source
    exact ⟨up.a_of_adds plus same one, fun _ => up.getFlag_of_adds plus same one⟩
  decrement_increment raising raised lowering lowered before middle after turned returned := by
    obtain rfl := turned.unique (Family.turns_incremented named raised.1 raised.2 before)
    obtain rfl := returned.unique (Family.turns_decremented named lowered.1 lowered.2 _)
    have up := before.increments_incremented (ne_f_of_register? named)
    have down := (before.incremented register).decrements_decremented (ne_f_of_register? named)
    exact ⟨up.getByte_of_decrements down, fun _ => up.read_of_decrements down⟩

/-- Opcode 0x87 is not in the opcode table, and adds A to itself. Where A holds -128, the byte
becomes zero, with a carry and an overflow but no carry at bit 3. -/
theorem arithmetic_of_register_doubled : Operand.register? .a = some .a ∧
    Family.ofOpcode? 0x87 = none ∧ ∃ after, Family.add.Turns 0x87 { a := 0x80 } after ∧
      after.a.toNat = 0 ∧ after.getFlag .z = true ∧ after.getFlag .c = true ∧
      after.getFlag .pv = true ∧ after.getFlag .h ≠ true := by
  have named : Operand.register? .a = some .a := rfl
  obtain ⟨after, turned, sum⟩ := (arithmetic_of_register named).add 0x87 rfl { a := 0x80 }
  have value : (after.getByte .a).toNat = 0 := Int.ofNat.inj sum.computes.value
  exact ⟨named, rfl, after, turned, value, sum.computes.zero.mpr value, sum.carry.mpr (by decide),
    sum.computes.overflow.mpr (by decide), fun half =>
      absurd (sum.computes.halfCarry.mp half) (by decide)⟩

end Operand

end Z80Monitor
