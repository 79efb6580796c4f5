import Mathlib.Data.List.Chain
import Z80Monitor.Proofs.Assembly.LineAccount
import Z80Monitor.Proofs.Assembly.Reassembly
import Z80Monitor.Proofs.Memory.Loading

/-!
# Listings cover memory

A listing is made line by line, each line behind the bytes of the one before it, until as many
bytes are covered as were asked for. The main statement says that this comes to an end, with memory
and the record of its accesses as they were, and that the lines cover memory from the start of the
range on without a gap: together they show what a dump of the same bytes shows, with at most two
bytes behind the end of the range, and the lines behind any of them are the listing of the rest.
-/

namespace Z80Monitor

namespace ListingLine

/-- How many bytes a line shows. -/
def size (line : ListingLine) : Nat := line.shownBytes.length

/-- How many bytes lines show together. -/
def totalSize (lines : List ListingLine) : Nat := (lines.map size).sum

/-- No lines show no bytes. -/
@[simp] theorem totalSize_nil : totalSize [] = 0 := rfl

/-- A line adds its own bytes. -/
theorem totalSize_cons (line : ListingLine) (rest : List ListingLine) :
    totalSize (line :: rest) = line.size + totalSize rest := by
  rw [totalSize, List.map_cons, List.sum_cons, totalSize]

/-- The bytes of lines are counted line by line. -/
theorem length_flatMap_shownBytes (lines : List ListingLine) :
    (lines.flatMap shownBytes).length = totalSize lines := List.length_flatMap

end ListingLine

/-- A listing under way. -/
structure Lister where
  /-- The bus whose memory is listed. -/
  bus : Bus
  /-- How many bytes the lines cover. -/
  covered : Int
  /-- The lines so far. -/
  lines : List ListingLine

namespace Lister

/-- One more line, as long as fewer than `length` bytes from `start` on are covered. Operands are
read over a bus of their own, of which the memory is kept and the record is not. -/
def next? (start length : Int) (lister : Lister) : Option Lister :=
  if lister.covered < length then
    let address := word (start + lister.covered)
    let opcode := lister.bus.memory.peek address.toNat
    if Family.implemented opcode.toNat then
      let (operation, read) :=
        Operation.decode opcode.toNat address.toNat (Bus.attach lister.bus.memory)
      some {
        bus := lister.bus.edit fun _ => read.memory
        covered := lister.covered + operation.length
        lines := lister.lines ++ [⟨address, String.ofList operation.bytesText, operation.text⟩] }
    else
      some { lister with
        covered := lister.covered + 1
        lines := lister.lines ++ [.ofData address opcode] }
  else none

/-- A listing of `length` bytes from `start` on comes to an end. -/
inductive Ends (start length : Int) : Lister → Lister → Prop where
  /-- The range is covered. -/
  | covered {lister : Lister} (done : lister.next? start length = none) :
      Ends start length lister lister
  /-- It ends behind one more line. -/
  | line {lister next last : Lister} (made : lister.next? start length = some next)
      (rest : Ends start length next last) : Ends start length lister last

end Lister

/-- Decoding leaves the memory as it is. -/
theorem Operation.memory_decode (opcode pc : Int) (bus : Bus) :
    (decode opcode pc bus).2.memory = bus.memory := by
  unfold decode
  cases Family.decoder? opcode with
  | none => rfl
  | some family => cases family <;> rfl

namespace Memory

variable (memory : Memory)

/-- The line of the byte or instruction at a number. -/
def line (start : Int) : ListingLine := (memory.listingLine (word start)).1

/-- A line stands at the address that it is made for. -/
theorem address_line (start : Int) : (memory.line start).address = word start :=
  memory.address_listingLine (word start)

/-- A line covers the bytes that it shows. -/
theorem size_line (start : Int) :
    (memory.line start).size = (memory.listingLine (word start)).2 := by
  unfold line
  rcases memory.listingLine_cases (word start) with shown | ⟨instruction, _, _, shown⟩
  · rw [shown, ListingLine.size, ListingLine.shownBytes_ofData]
    rfl
  · rw [shown, ListingLine.size, ListingLine.shownBytes_ofInstruction, Instruction.length_encode]

/-- A line shows at least one byte. -/
theorem size_line_pos (start : Int) : 1 ≤ (memory.line start).size := by
  rw [size_line]
  exact memory.listingLine_length_pos (word start)

/-- A line shows at most three bytes. -/
theorem size_line_le (start : Int) : (memory.line start).size ≤ 3 := by
  unfold line
  rcases memory.listingLine_cases (word start) with shown | ⟨instruction, _, _, shown⟩
  · rw [shown, ListingLine.size, ListingLine.shownBytes_ofData, List.length_singleton]
    exact Nat.le_add_left 1 2
  · rw [shown, ListingLine.size, ListingLine.shownBytes_ofInstruction]
    exact instruction.length_encode_bounds.2

/-- A line shows the bytes that stand where it does. -/
theorem holds_shownBytes_line (start : Int) :
    memory.Holds start (memory.line start).shownBytes := by
  have same : word (word start).toNat = word start := word_toNat (word start)
  unfold line
  rcases memory.listingLine_cases (word start) with shown | ⟨instruction, _, held, shown⟩
  · rw [shown, ListingLine.shownBytes_ofData]
    exact ⟨(memory.peek_congr same).symm, trivial⟩
  · rw [shown, ListingLine.shownBytes_ofInstruction]
    exact held.congr same

/-- The listing of a range that is not empty is its first line and the listing of what the line
leaves. -/
theorem listingFrom_of_pos (start : Int) {length : Nat} (positive : 0 < length) :
    memory.listingFrom start length = memory.line start ::
      memory.listingFrom (start + (memory.line start).size)
        (length - (memory.line start).size) := by
  rw [listingFrom, dif_pos positive, size_line]
  rfl

/-- Bytes stand one list behind the other. -/
theorem Holds.append {memory : Memory} {address : Int} {first second : List UInt8}
    (front : memory.Holds address first)
    (behind : memory.Holds (address + first.length) second) :
    memory.Holds address (first ++ second) := by
  induction first generalizing address with
  | nil => rwa [List.length_nil, Int.natCast_zero, Int.add_zero] at behind
  | cons value rest ih =>
    have further : address + ((rest.length + 1 : Nat) : Int) = address + 1 + rest.length := by
      omega
    rw [List.length_cons, further] at behind
    exact ⟨front.1, ih front.2 behind⟩

/-- What holds of the listing of an empty range, and of a line with a listing behind it of which it
holds, holds of every listing. -/
theorem listingFrom_induction {motive : Int → Nat → List ListingLine → Prop}
    (nil : ∀ start, motive start 0 [])
    (cons : ∀ start length, 0 < length →
      let line := memory.line start
      let rest := memory.listingFrom (start + line.size) (length - line.size)
      motive (start + line.size) (length - line.size) rest → motive start length (line :: rest))
    (start : Int) (length : Nat) : motive start length (memory.listingFrom start length) := by
  induction length using Nat.strongRecOn generalizing start with
  | ind length ih =>
    rcases Nat.eq_zero_or_pos length with rfl | positive
    · rw [listingFrom_zero]
      exact nil start
    · have size := memory.size_line_pos start
      rw [memory.listingFrom_of_pos start positive]
      exact cons start length positive (ih _ (by omega) _)

/-- The lines of a listing show bytes that stand one behind the other. -/
theorem holds_shownBytes_listingFrom (start : Int) (length : Nat) :
    memory.Holds start ((memory.listingFrom start length).flatMap ListingLine.shownBytes) := by
  apply memory.listingFrom_induction
    (motive := fun start _ lines => memory.Holds start (lines.flatMap ListingLine.shownBytes))
  · intro start
    exact trivial
  · intro start length _ line rest behind
    rw [List.flatMap_cons]
    exact (memory.holds_shownBytes_line start).append behind

/-- A listing covers the range. -/
theorem le_totalSize_listingFrom (start : Int) (length : Nat) :
    length ≤ ListingLine.totalSize (memory.listingFrom start length) := by
  apply memory.listingFrom_induction
    (motive := fun _ length lines => length ≤ ListingLine.totalSize lines)
  · intro start
    exact Nat.zero_le _
  · intro start length positive line rest behind
    rw [ListingLine.totalSize_cons]
    omega

/-- A listing covers at most two bytes behind the range. -/
theorem totalSize_listingFrom_le (start : Int) {length : Nat} (positive : 0 < length) :
    ListingLine.totalSize (memory.listingFrom start length) ≤ length + 2 := by
  -- Only a line that starts inside the range is listed, so an empty rest has no line at all.
  revert positive
  apply memory.listingFrom_induction
    (motive := fun _ length lines => 0 < length → ListingLine.totalSize lines ≤ length + 2)
  · intro start empty
    exact absurd empty (Nat.lt_irrefl 0)
  · intro start length _ line rest behind positive
    have small : line.size ≤ 3 := memory.size_line_le start
    rw [ListingLine.totalSize_cons]
    rcases Nat.eq_zero_or_pos (length - line.size) with covered | left
    · have nothing : rest = [] := by
        change memory.listingFrom _ (length - line.size) = []
        rw [covered, listingFrom_zero]
      rw [nothing, ListingLine.totalSize_nil]
      omega
    · have bound := behind left
      omega

/-- The first line of a listing stands at its start. -/
theorem address_of_mem_head? {start : Int} {length : Nat} {line : ListingLine}
    (first : line ∈ (memory.listingFrom start length).head?) : line.address = word start := by
  rcases Nat.eq_zero_or_pos length with rfl | positive
  · rw [listingFrom_zero] at first
    cases first
  · rw [memory.listingFrom_of_pos start positive] at first
    obtain rfl := Option.some.inj first
    exact memory.address_line start

/-- Each line of a listing stands behind the bytes of the line in front of it. -/
theorem isChain_listingFrom (start : Int) (length : Nat) :
    (memory.listingFrom start length).IsChain fun line next =>
      next.address = word (line.address.toNat + line.size) := by
  apply memory.listingFrom_induction
    (motive := fun _ _ lines => lines.IsChain fun line next =>
      next.address = word (line.address.toNat + line.size))
  · intro start
    exact .nil
  · intro start length _ line rest behind
    refine List.isChain_cons.mpr ⟨fun next first => ?_, behind⟩
    rw [memory.address_of_mem_head? first, memory.address_line, word_eq_word_iff, toNat_word]
    omega

/-- Behind some lines of a listing comes the listing of the rest of the range. -/
theorem drop_listingFrom (start : Int) (length index : Nat) :
    let size := ListingLine.totalSize ((memory.listingFrom start length).take index)
    (memory.listingFrom start length).drop index =
      memory.listingFrom (start + size) (length - size) := by
  induction index generalizing start length with
  | zero =>
    change memory.listingFrom start length = memory.listingFrom (start + (0 : Nat)) (length - 0)
    rw [Int.natCast_zero, Int.add_zero, Nat.sub_zero]
  | succ index ih =>
    rcases Nat.eq_zero_or_pos length with rfl | positive
    · intro size
      rw [Nat.zero_sub, listingFrom_zero, listingFrom_zero, List.drop_nil]
    · rw [memory.listingFrom_of_pos start positive]
      dsimp only
      rw [List.drop_succ_cons, List.take_succ_cons, ListingLine.totalSize_cons, ih,
        Int.natCast_add, Int.add_assoc, Nat.sub_sub]

end Memory

namespace Lister

variable (start : Int) {length : Int} (lister : Lister)

/-- Nothing more is listed behind the end of the range. -/
theorem next?_of_le (done : length ≤ lister.covered) : lister.next? start length = none :=
  if_neg (Int.not_lt.mpr done)

/-- In front of the end of the range, the line of the next address is added. -/
theorem next?_of_lt (inside : lister.covered < length) :
    let line := lister.bus.memory.line (start + lister.covered)
    lister.next? start length =
      some ⟨lister.bus, lister.covered + line.size, lister.lines ++ [line]⟩ := by
  intro line
  have size : line.size = _ := lister.bus.memory.size_line (start + lister.covered)
  rw [size]
  unfold next? line Memory.line Memory.listingLine
  rw [if_pos inside]
  dsimp only
  cases Family.implemented
      (lister.bus.memory.peek (word (start + lister.covered)).toNat).toNat with
  | false =>
    simp only [Bool.false_eq_true, if_false]
    rw [ListingLine.ofData, Text.hexBytes, List.map_singleton, List.intercalate_singleton,
      Statement.spelling_ofData]
    rfl
  | true =>
    simp only [if_true]
    rw [Operation.memory_decode]
    rfl

/-- A listing under way ends behind the lines of the rest of the range. -/
theorem ends (start length covered : Int) (bus : Bus) (lines : List ListingLine) :
    Ends start length ⟨bus, covered, lines⟩
      ⟨bus, covered + ListingLine.totalSize
          (bus.memory.listingFrom (start + covered) (length - covered).toNat),
        lines ++ bus.memory.listingFrom (start + covered) (length - covered).toNat⟩ := by
  obtain ⟨left, size⟩ : ∃ left, (length - covered).toNat = left := ⟨_, rfl⟩
  induction left using Nat.strongRecOn generalizing covered lines with
  | ind left ih =>
    rw [size]
    rcases Nat.eq_zero_or_pos left with rfl | positive
    · have done : length ≤ covered := by omega
      rw [Memory.listingFrom_zero, List.append_nil, ListingLine.totalSize_nil, Int.natCast_zero,
        Int.add_zero]
      exact .covered (next?_of_le start ⟨bus, covered, lines⟩ done)
    · rw [bus.memory.listingFrom_of_pos (start + covered) positive]
      generalize same : bus.memory.line (start + covered) = line
      have shown : 1 ≤ line.size := same ▸ bus.memory.size_line_pos (start + covered)
      have rest : (length - (covered + line.size)).toNat = left - line.size := by omega
      have behind := ih (left - line.size) (by omega) (covered + line.size) (lines ++ [line]) rest
      have inside : covered < length := by omega
      have made := next?_of_lt start ⟨bus, covered, lines⟩ inside
      rw [rest, ← Int.add_assoc] at behind
      dsimp only at made
      rw [same] at made
      rw [ListingLine.totalSize_cons, Int.natCast_add, ← Int.add_assoc, List.append_cons]
      exact .line made behind

end Lister

namespace Memory

/-- Lines cover `length` bytes of memory from `start` on without a gap. -/
structure Tiles (memory : Memory) (start length : Int) (lines : List ListingLine) : Prop where
  /-- Each line shows up to three bytes. -/
  sizes : ∀ line ∈ lines, 1 ≤ line.size ∧ line.size ≤ 3
  /-- The second column of a line has these bytes and nothing else. -/
  columns : ∀ line ∈ lines, line.bytes = String.ofList (Text.hexBytes line.shownBytes)
  /-- The first line stands at the start. -/
  first : ∃ line rest, lines = line :: rest ∧ (line.address.toNat : Int) = start % 65536
  /-- Each other line stands behind the bytes of the line in front of it. -/
  next : lines.IsChain fun line next =>
    (next.address.toNat : Int) = (line.address.toNat + line.size) % 65536
  /-- The range is covered, with at most two bytes behind it. -/
  total : length ≤ ListingLine.totalSize lines ∧ ListingLine.totalSize lines ≤ length + 2
  /-- Together the lines show the bytes of memory. -/
  bytes : lines.flatMap ListingLine.shownBytes = memory.dump start (ListingLine.totalSize lines)

variable {memory : Memory}

/-- Each line of a listing shows one to three bytes. -/
theorem size_of_mem_listingFrom {start : Int} {length : Nat} {line : ListingLine}
    (member : line ∈ memory.listingFrom start length) : 1 ≤ line.size ∧ line.size ≤ 3 := by
  have same : line = memory.line line.address.toNat := by
    rw [Memory.line, word_toNat]
    exact eq_of_mem_listingFrom member
  rw [same]
  exact ⟨memory.size_line_pos _, memory.size_line_le _⟩

/-- The lines of a range that is not empty cover it. -/
theorem tiles_listing (start : Int) {length : Int} (positive : 0 < length) :
    memory.Tiles start length (memory.listing start length) := by
  have some : 0 < length.toNat := by omega
  unfold listing
  exact {
    sizes := fun _ member => size_of_mem_listingFrom member
    columns := fun _ member => (holds_shownBytes_of_mem member).2
    first := by
      refine ⟨_, _, memory.listingFrom_of_pos start some, ?_⟩
      rw [memory.address_line, toNat_word]
    next := by
      refine (memory.isChain_listingFrom start length.toNat).imp fun line next behind => ?_
      rw [behind, toNat_word]
    total := by
      have lower := memory.le_totalSize_listingFrom start length.toNat
      have upper := memory.totalSize_listingFrom_le start some
      omega
    bytes := by
      rw [← ListingLine.length_flatMap_shownBytes]
      exact (memory.holds_shownBytes_listingFrom start length.toNat).dump_eq.symm }

end Memory

namespace Bus

/-- Listing a range comes to an end and leaves the bus as it is, and its lines cover the range. -/
theorem listing_tiles (bus : Bus) (start length : Int) :
    let memory := bus.memory
    let lines := memory.listing start length
    Lister.Ends start length ⟨bus, 0, []⟩ ⟨bus, ListingLine.totalSize lines, lines⟩ ∧
    (length ≤ 0 → lines = []) ∧
    (0 < length → memory.Tiles start length lines) ∧
    ∀ index,
      let size := ListingLine.totalSize (lines.take index)
      lines.drop index = memory.listing (start + size) (length - size) := by
  intro memory lines
  refine ⟨?_, ?_, Memory.tiles_listing start, ?_⟩
  · have ended := Lister.ends start length 0 bus []
    rw [Int.add_zero, Int.sub_zero, List.nil_append, Int.zero_add] at ended
    exact ended
  · intro empty
    have nothing : length.toNat = 0 := by omega
    change memory.listingFrom start length.toNat = []
    rw [nothing, Memory.listingFrom_zero]
  · intro index size
    have rest : (length - size).toNat = length.toNat - size := by omega
    change _ = memory.listingFrom (start + size) (length - size).toNat
    rw [rest]
    exact memory.drop_listingFrom start length.toNat index

/-- A listing from behind the end of memory on that shows a relative jump over the last address and
a jump over the end of the range. -/
theorem listing_tiles_around :
    let bus := attach (Memory.blank.load (-1) [0x18, 0xFE, 0xC3, 0x34])
    let lines := bus.memory.listing 131071 3
    lines.map (fun line => (line.address, line.text)) = [(0xFFFF, "JR $FFFF"), (1, "JP $0034")] ∧
    (0 : Int) < 3 ∧ bus.memory.Tiles 131071 3 lines := by
  intro bus lines
  have positive : (0 : Int) < 3 := by decide
  obtain ⟨_, _, tiles, _⟩ := listing_tiles bus 131071 3
  exact ⟨by decide +kernel, positive, tiles positive⟩

end Bus

end Z80Monitor
