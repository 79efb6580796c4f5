import Mathlib.Data.Int.ModEq
import Z80Monitor.Assembly.Program
import Z80Monitor.Processor.Listing
import Z80Monitor.Processor.Step
import Z80Monitor.Proofs.Memory.Placement

/-!
# Congruent numbers

Addresses, values and contents of registers are given as numbers of any size and sign. Numbers that
are congruent modulo the size of what they stand for, which is 65536 for an address or a word and
256 for a byte, do the same wherever they are given to the memory, the registers, the processor or
the assembler.
-/

namespace Z80Monitor

variable {left right origin other address start : Int}

/-- Congruent numbers stand for the same byte. -/
theorem byte_congr (alike : left ≡ right [ZMOD 256]) : byte left = byte right :=
  (byte_eq_byte_iff left right).mpr alike

/-- Congruent numbers stand for the same word. -/
theorem word_congr (alike : left ≡ right [ZMOD 65536]) : word left = word right :=
  (word_eq_word_iff left right).mpr alike

/-- Congruent numbers stand for the same bytes. -/
theorem map_byte_congr {data others : List Int}
    (alike : List.Forall₂ (Int.ModEq 256) data others) : data.map byte = others.map byte := by
  induction alike with
  | nil => rfl
  | cons head _ ih => rw [List.map_cons, List.map_cons, byte_congr head, ih]

/-- From congruent origins on, values are placed at the same addresses. -/
theorem AddressSpace.place_congr {α : Type} (space : AddressSpace α)
    (alike : origin ≡ other [ZMOD 65536]) (values : List α) :
    space.place origin values = space.place other values :=
  space.place_of_word_eq (word_congr alike) values

namespace Memory

variable (memory : Memory)

/-- Congruent values are stored alike at congruent addresses. -/
theorem poke_congr (addresses : address ≡ other [ZMOD 65536]) (values : left ≡ right [ZMOD 256]) :
    memory.poke address left = memory.poke other right := by
  unfold poke
  rw [word_congr addresses, byte_congr values]

/-- Congruent values are loaded alike from congruent origins on. -/
theorem load_congr (origins : origin ≡ other [ZMOD 65536]) {data others : List Int}
    (values : List.Forall₂ (Int.ModEq 256) data others) :
    memory.load origin data = memory.load other others := by
  unfold load
  rw [map_byte_congr values, memory.bytes.place_congr origins]

/-- From congruent addresses on, the same bytes are found. -/
theorem dump_congr (starts : start ≡ other [ZMOD 65536]) (length : Int) :
    memory.dump start length = memory.dump other length := by
  unfold dump
  apply List.map_congr_left
  intro offset _
  exact memory.peek_congr (word_congr (starts.add_right offset))

/-- From congruent addresses on, the same lines cover a number of bytes. -/
theorem listingFrom_congr (starts : start ≡ other [ZMOD 65536]) (length : Nat) :
    memory.listingFrom start length = memory.listingFrom other length := by
  induction length using Nat.strongRecOn generalizing start other with
  | ind length ih =>
    rw [listingFrom, listingFrom]
    by_cases positive : 0 < length
    · have covered := memory.listingLine_length_pos (word other)
      rw [dif_pos positive, dif_pos positive, word_congr starts]
      dsimp only
      rw [ih _ (by omega) (starts.add_right _)]
    · rw [dif_neg positive, dif_neg positive]

/-- From congruent addresses on, memory is listed alike. -/
theorem listing_congr (starts : start ≡ other [ZMOD 65536]) (length : Int) :
    memory.listing start length = memory.listing other length :=
  memory.listingFrom_congr starts length.toNat

end Memory

/-- A register does not tell two numbers apart: they are congruent modulo the size of the register,
or equal for a flip-flop. -/
def Register.Congruent : Register → Int → Int → Prop
  | .byte _, left, right => left ≡ right [ZMOD 256]
  | .word _, left, right => left ≡ right [ZMOD 65536]
  | .flipFlop _, left, right => left = right

/-- Numbers that a register does not tell apart are written to it alike. -/
theorem Registers.write_congr (registers : Registers) (register : Register)
    (alike : register.Congruent left right) :
    registers.write register left = registers.write register right := by
  unfold write
  cases register with
  | byte register => rw [byte_congr alike]
  | word register => rw [word_congr alike]
  | flipFlop register => rw [show left = right from alike]

/-- The program counter is moved alike to congruent addresses. -/
theorem State.setPc_congr (state : State) (addresses : address ≡ other [ZMOD 65536]) :
    state.setPc address = state.setPc other := by
  unfold setPc
  rw [state.registers.write_congr (.word .pc) addresses]

/-- The program counter is moved alike to congruent addresses. -/
theorem Cpu.setPc_congr (cpu : Cpu) (addresses : address ≡ other [ZMOD 65536]) :
    cpu.setPc address = cpu.setPc other := by
  unfold setPc
  rw [cpu.state.setPc_congr addresses]

/-- A program of congruent values is put alike at congruent origins. -/
theorem Cpu.loadProgram_congr (cpu : Cpu) (origins : origin ≡ other [ZMOD 65536])
    {data others : List Int} (values : List.Forall₂ (Int.ModEq 256) data others) :
    cpu.loadProgram origin data = cpu.loadProgram other others := by
  unfold loadProgram
  rw [cpu.state.memory.load_congr origins values]
  exact setPc_congr _ origins

/-- A source text is assembled alike for congruent origins. -/
theorem assemble_congr (source : String) (origins : origin ≡ other [ZMOD 65536]) :
    assemble source origin = assemble source other := by
  simp only [assemble, word_congr origins]

/-- Congruent addresses have the same source line. -/
theorem LineMap.lineAt_congr (map : LineMap) (addresses : address ≡ other [ZMOD 65536]) :
    map.lineAt address = map.lineAt other := by
  unfold lineAt
  rw [word_congr addresses]

end Z80Monitor
