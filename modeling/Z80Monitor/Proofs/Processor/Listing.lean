import Z80Monitor.Processor.Listing
import Z80Monitor.Proofs.Assembly.Spelling

/-!
# What a listing shows

A line of a listing shows a byte of data or a listed instruction. Its bytes can be read off its
second column, they stand in memory at its address, and its text is the spelling of a statement,
whose mnemonic is what stands in front of the first space.
-/

namespace Z80Monitor

namespace ListingLine

/-- The bytes that the second column of a line shows. -/
def shownBytes (line : ListingLine) : List UInt8 :=
  (Text.words line.bytes.toList).filterMap fun digits =>
    (Statement.hexValue? digits).map UInt8.ofNat

/-- The mnemonic of a line: what stands in front of the first space. -/
def mnemonic (line : ListingLine) : List Char := line.text.toList.takeWhile (· != ' ')

/-- Whether a line shows a byte of data or a relative jump: what the assembler has no mnemonic
for. -/
def isUnassembled (line : ListingLine) : Bool :=
  line.mnemonic == "DB".toList || line.mnemonic == "JR".toList

/-- The mnemonics of the lines that the assembler can read. -/
theorem isUnassembled_eq_false_iff (line : ListingLine) :
    line.isUnassembled = false ↔ line.mnemonic ≠ "DB".toList ∧ line.mnemonic ≠ "JR".toList := by
  rw [isUnassembled, Bool.or_eq_false_iff, beq_eq_false_iff_ne, beq_eq_false_iff_ne]

/-- The line of a byte of data. -/
def ofData (address : UInt16) (value : UInt8) : ListingLine where
  address := address
  bytes := String.ofList (Text.hexBytes [value])
  text := String.ofList (Statement.ofData value).spelling

/-- The line of an instruction. -/
def ofInstruction (address : UInt16) (instruction : Instruction) : ListingLine where
  address := address
  bytes := String.ofList (Text.hexBytes instruction.encode)
  text := String.ofList (instruction.statement address.toNat).spelling

/-- The digits of a byte are a word. -/
theorem solid_hexByte (value : UInt8) :
    Text.hexByte value ≠ [] ∧ Text.Solid (Text.hexByte value) := by
  have digits (digit : Nat) (small : digit < 16) :
      Text.isBlank (Text.upperDigit digit) = false := by
    revert digit
    decide
  refine ⟨Text.hex_ne_nil 2 value.toNat, fun char inside => ?_⟩
  obtain ⟨digit, small, rfl⟩ := Text.exists_of_mem_hex inside
  exact digits digit small

/-- The words of a row of bytes are the bytes. -/
theorem words_hexBytes (bytes : List UInt8) :
    Text.words (Text.hexBytes bytes) = bytes.map Text.hexByte := by
  apply Text.words_intercalate
  intro digits inside
  obtain ⟨value, _, rfl⟩ := List.mem_map.mp inside
  exact solid_hexByte value

/-- Bytes are read off the column that shows them. -/
theorem shownBytes_of_bytes {line : ListingLine} {bytes : List UInt8}
    (shown : line.bytes = String.ofList (Text.hexBytes bytes)) : line.shownBytes = bytes := by
  have read : (fun digits => (Statement.hexValue? digits).map UInt8.ofNat) ∘ Text.hexByte =
      some := by
    funext value
    rw [Function.comp_apply, Text.hexByte, Statement.hexValue?_hex, Option.map_some,
      UInt8.ofNat_toNat]
  rw [shownBytes, shown, String.toList_ofList, words_hexBytes, List.filterMap_map, read,
    List.filterMap_some]

/-- The mnemonic of a line is that of the statement it spells. -/
theorem mnemonic_of_text {line : ListingLine} {statement : Statement}
    (spelled : statement.WellSpelled) (text : line.text = String.ofList statement.spelling) :
    line.mnemonic = statement.mnemonic := by
  rw [mnemonic, text, String.toList_ofList, spelled.takeWhile_spelling]

end ListingLine

namespace Memory

/-- A byte that starts no instruction is listed as data. -/
theorem listingLine_of_unlisted {memory : Memory} {address : UInt16}
    (unlisted : Family.ofOpcode? (memory.peek address.toNat).toNat = none) :
    memory.listingLine address = (.ofData address (memory.peek address.toNat), 1) := by
  unfold listingLine
  simp only [Family.implemented_eq, unlisted, Option.isSome_none, Bool.false_eq_true, if_false]
  rw [ListingLine.ofData, Text.hexBytes, List.map_singleton, List.intercalate_singleton,
    Statement.spelling_ofData]
  rfl

/-- A listed instruction is listed where it stands. -/
theorem listingLine_of_holds {memory : Memory} {address : UInt16} {instruction : Instruction}
    (listed : instruction.Listed) (held : memory.Holds address.toNat instruction.encode) :
    memory.listingLine address = (.ofInstruction address instruction, instruction.length) := by
  have opcode : memory.peek address.toNat = instruction.opcode := held.1
  have decoded := listed.describe_opcode held []
  have text := instruction.toList_text_describe instruction.opcode.toNat address.toNat
  unfold listingLine
  simp only [opcode, Family.implemented_eq, listed.ofOpcode?_opcode, Option.isSome_some, if_true,
    Bus.attach, decoded]
  rw [← String.ofList_toList (s := Operation.text _), text]
  rfl

/-- Whatever stands at an address, its line shows a byte of data or a listed instruction. -/
theorem listingLine_cases (memory : Memory) (address : UInt16) :
    memory.listingLine address = (.ofData address (memory.peek address.toNat), 1) ∨
      ∃ instruction : Instruction, instruction.Listed ∧
        memory.Holds address.toNat instruction.encode ∧
        memory.listingLine address = (.ofInstruction address instruction, instruction.length) := by
  cases found : Family.ofOpcode? (memory.peek address.toNat).toNat with
  | none => exact .inl (listingLine_of_unlisted found)
  | some family =>
    obtain ⟨instruction, listed, held⟩ := memory.exists_listed_holds address.toNat found
    exact .inr ⟨instruction, listed, held, listingLine_of_holds listed held⟩

/-- A line carries the address it was made for. -/
theorem address_listingLine (memory : Memory) (address : UInt16) :
    (memory.listingLine address).1.address = address := by
  rcases memory.listingLine_cases address with shown | ⟨instruction, _, _, shown⟩
  · exact congrArg (fun line => line.1.address) shown
  · exact congrArg (fun line => line.1.address) shown

/-- No bytes are listed in no line. -/
theorem listingFrom_zero (memory : Memory) (start : Int) : memory.listingFrom start 0 = [] := by
  rw [listingFrom, dif_neg (Nat.lt_irrefl 0)]

/-- Each line of a listing is the line of its address. -/
theorem eq_of_mem_listingFrom {memory : Memory} {start : Int} {length : Nat} {line : ListingLine}
    (member : line ∈ memory.listingFrom start length) :
    line = (memory.listingLine line.address).1 := by
  induction start, length using Memory.listingFrom.induct memory with
  | case1 start length positive first ih =>
    rw [listingFrom, dif_pos positive] at member
    rcases List.mem_cons.mp member with rfl | behind
    · rw [address_listingLine]
    · exact ih behind
  | case2 start length empty =>
    rw [listingFrom, dif_neg empty] at member
    cases member

/-- What the lines of a listing have in common with what stands at their addresses. -/
theorem mem_listingFrom_cases {memory : Memory} {start : Int} {length : Nat} {line : ListingLine}
    (member : line ∈ memory.listingFrom start length) :
    line = .ofData line.address (memory.peek line.address.toNat) ∨
      ∃ instruction : Instruction, instruction.Listed ∧
        memory.Holds line.address.toNat instruction.encode ∧
        line = .ofInstruction line.address instruction := by
  have same := eq_of_mem_listingFrom member
  rcases memory.listingLine_cases line.address with shown | ⟨instruction, listed, held, shown⟩
  · left
    exact same.trans (congrArg Prod.fst shown)
  · right
    exact ⟨instruction, listed, held, same.trans (congrArg Prod.fst shown)⟩

end Memory

end Z80Monitor
