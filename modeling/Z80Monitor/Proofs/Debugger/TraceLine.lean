import Z80Monitor.Debugger.TraceLine
import Z80Monitor.Proofs.Debugger.Width
import Z80Monitor.Proofs.Processor.Listing
import Z80Monitor.Proofs.Text.Numeral
import Z80Monitor.Proofs.Text.Trimming

/-!
# What a trace line shows

A trace line begins with columns of fixed widths, and every step has room in them: an instruction
has at most three bytes and is spelled with at most twelve characters. Behind the columns stand
words, of which the first is the number of clock cycles and the others tell each by its first
character what it is. So all that a line shows can be read off it, with cycles and line numbers of
any size.
-/

namespace Z80Monitor

section Padded

variable {width : Nat} {text : List Char}

/-- A text that has room is filled up to the width. -/
theorem length_padded (room : text.length ≤ width) : (padded width text).length = width := by
  rw [padded, List.length_append, List.length_replicate]
  omega

/-- Filling a text up adds no words. -/
theorem words_padded (width : Nat) (text : List Char) :
    Text.words (padded width text) = Text.words text :=
  Text.wordsAfter_append_blank [] text (Text.blank_replicate _)

/-- A text that does not end in white space is found again. -/
theorem trimEndBy_padded (solid : Text.EndsSolid text) (width : Nat) :
    Text.trimEndBy Text.isBlank (padded width text) = text :=
  solid.trimEndBy_append (Text.blank_replicate _)

/-- A word that is filled up is the first one, and what stands behind a space adds its words. -/
theorem words_padded_append_space (occupied : text ≠ []) (solid : Text.Solid text)
    (rest : List Char) :
    Text.words (padded width text ++ ' ' :: rest) = text :: Text.words rest := by
  have moved (count : Nat) :
      List.replicate count ' ' ++ ' ' :: rest = ' ' :: (List.replicate count ' ' ++ rest) := by
    rw [← List.singleton_append, ← List.append_assoc, ← List.replicate_succ', List.replicate_succ,
      List.cons_append]
  rw [padded, List.append_assoc, moved, Text.words_append_space occupied solid,
    Text.words_blank_append (Text.blank_replicate _)]

end Padded

/-! ## Rows of bytes -/

/-- Each byte takes three characters of a row, less the space behind the last. -/
theorem Text.length_hexBytes_le (bytes : List UInt8) :
    (hexBytes bytes).length ≤ 3 * bytes.length - 1 := by
  induction bytes with
  | nil => exact Nat.le_refl 0
  | cons value rest ih =>
    cases rest with
    | nil =>
      rw [hexBytes, List.map_singleton, List.intercalate_singleton, length_hexByte]
      exact Nat.le_refl 2
    | cons next rest =>
      rw [hexBytes, List.map_cons, List.map_cons, List.intercalate_cons_cons, ← List.map_cons,
        ← hexBytes, List.length_append, List.length_append, length_hexByte, List.length_singleton]
      simp only [List.length_cons] at ih ⊢
      omega

/-- The digits of a byte tell the byte. -/
theorem Text.hexByte_injective : Function.Injective hexByte := by
  intro first second same
  exact UInt8.toNat_inj.mp (Statement.eq_of_hex_eq same)

/-! ## Room in the columns -/

/-- The spelling of a statement does not end in white space. -/
theorem Statement.WellSpelled.endsSolid {statement : Statement}
    (spelled : statement.WellSpelled) : Text.EndsSolid statement.spelling := by
  by_cases bare : statement.operands = []
  · rw [spelling_of_nil bare]
    exact Text.endsSolid_append [] spelled.mnemonic.1 spelled.mnemonic.solid
  · have kept := spelled.kept_operands bare
    rw [spelling_of_ne_nil bare, List.append_cons]
    exact Text.endsSolid_append _ kept.1 kept.solid

/-- A description that has room in the columns of a trace line. -/
structure Operation.FitsColumns (operation : Operation) : Prop where
  /-- The opcode is a byte. -/
  opcode : ∃ value : UInt8, operation.opcode = value.toNat
  /-- There are at most two bytes behind it. -/
  operandBytes : operation.operandBytes.length ≤ 2
  /-- The assembly text is at most as long as its column is wide. -/
  text : operation.text.toList.length ≤ 12
  /-- It does not end in white space. -/
  solid : Text.EndsSolid operation.text.toList

/-- A listed instruction is spelled with at most twelve characters. -/
theorem Instruction.Listed.length_spelling_le {instruction : Instruction}
    (listed : instruction.Listed) (pc : Int) :
    (instruction.statement pc).spelling.length ≤ 12 := by
  cases listed with
  | @load target named value =>
    have letter : target.name.toList.length = 1 := by
      cases target with
      | atHL => exact absurd rfl named
      | _ => rfl
    have digits := Text.length_hexByte value
    rw [statement_load, Statement.spelling_of_ne_nil (List.cons_ne_nil _ _)]
    simp only [List.intercalate_cons_cons, List.intercalate_singleton, List.length_append,
      List.length_cons, List.length_nil, letter, digits]
    decide
  | jump target =>
    have digits := Text.length_hexWord target
    rw [statement_jump, Statement.spelling_of_ne_nil (List.cons_ne_nil _ _)]
    simp only [List.intercalate_singleton, List.length_append, List.length_cons, digits]
    decide
  | jumpRelative offset =>
    have digits := Text.length_hexWord (relativeTarget pc offset)
    rw [statement_jumpRelative, Statement.spelling_of_ne_nil (List.cons_ne_nil _ _)]
    simp only [List.intercalate_singleton, List.length_append, List.length_cons, digits]
    decide
  | _ => exact Nat.le_of_ble_eq_true rfl

/-- The description of a listed instruction has room. -/
theorem Instruction.Listed.fitsColumns {instruction : Instruction} (listed : instruction.Listed)
    (pc : Int) : (instruction.describe instruction.opcode.toNat pc).FitsColumns where
  opcode := ⟨instruction.opcode, rfl⟩
  operandBytes := by
    cases instruction with
    | jump target => exact Nat.le_refl 2
    | load target value => exact Nat.le_succ 1
    | jumpRelative offset => exact Nat.le_succ 1
    | _ => exact Nat.zero_le 2
  text := by
    rw [instruction.toList_text_describe]
    exact listed.length_spelling_le pc
  solid := by
    rw [instruction.toList_text_describe]
    exact (instruction.wellSpelled_statement pc).endsSolid

/-- The text of an opcode that stands for no instruction. -/
theorem Operation.toList_text_unknown (opcode : UInt8) :
    (Operation.unknown opcode.toNat).text.toList = "UNKNOWN $".toList ++ Text.hexByte opcode := by
  rw [text, if_neg (by exact Bool.false_ne_true), unknown]
  simp only [String.toList_append, String.toList_intercalate, List.map_singleton,
    String.toList_ofList, List.intercalate_singleton]
  rfl

/-- The description of an opcode that stands for no instruction has room. -/
theorem Operation.fitsColumns_unknown (opcode : UInt8) :
    (Operation.unknown opcode.toNat).FitsColumns where
  opcode := ⟨opcode, rfl⟩
  operandBytes := Nat.zero_le 2
  text := by
    rw [toList_text_unknown, List.length_append, Text.length_hexByte]
    decide
  solid := by
    rw [toList_text_unknown]
    obtain ⟨occupied, solid⟩ := ListingLine.solid_hexByte opcode
    exact Text.endsSolid_append _ occupied solid

/-! ## Reading a line -/

namespace Snapshot

/-- A snapshot that has room in the columns of a trace line. -/
structure FitsColumns (snapshot : Snapshot) : Prop where
  /-- The instruction stands at an address. -/
  pc : Fits 16 snapshot.result.pc
  /-- Its description has room. -/
  operation : ∀ operation ∈ snapshot.result.operation, operation.FitsColumns

/-- The opcode of the instruction and the bytes behind it, if there is an instruction. -/
def bytes? (snapshot : Snapshot) : Option (Int × List UInt8) :=
  snapshot.result.operation.map fun operation => (operation.opcode, operation.operandBytes)

/-- The assembly text of the instruction, if there is one. -/
def text? (snapshot : Snapshot) : Option String := snapshot.result.operation.map Operation.text

/-- The bytes of the instruction, as a trace line shows them. -/
def bytesColumn (snapshot : Snapshot) : List Char :=
  match snapshot.bytes? with
  | some (opcode, rest) => [' '].intercalate (Text.hex 2 opcode :: rest.map Text.hexByte)
  | none => []

/-- The text of the instruction, as a trace line shows it. -/
def textColumn (snapshot : Snapshot) : List Char :=
  match snapshot.text? with
  | some text => text.toList
  | none => ['-']

/-- The part of a trace line in which everything stands at a place of its own. -/
def cells (snapshot : Snapshot) : List (List Char) :=
  let registers := snapshot.state.registers
  [Text.hex 4 snapshot.result.pc, [' ', ' '], padded 9 snapshot.bytesColumn, [' '],
    padded 12 snapshot.textColumn, " A=".toList, Text.hexByte registers.a, " F=".toList,
    Text.hexByte registers.f, " B=".toList, Text.hexByte registers.b, "  cyc=".toList]

/-- The widths of these columns. -/
def cellWidths : List Nat := [4, 2, 9, 1, 12, 3, 2, 3, 2, 3, 2, 6]

/-- The words behind the number of clock cycles. -/
def notes (snapshot : Snapshot) : List (List Char) :=
  let line := match snapshot.sourceLine with
    | some line => ['L' :: Text.decimal (line + 1)]
    | none => []
  line ++ if snapshot.result.unimplemented then [['!']] else []

/-- The part of a trace line behind its columns. -/
def rear (snapshot : Snapshot) : List Char :=
  let line := match snapshot.sourceLine with
    | some line => 'L' :: Text.decimal (line + 1)
    | none => []
  let marker := if snapshot.result.unimplemented then [' ', '!'] else []
  padded 6 (Text.decimal snapshot.cycleCount) ++ ' ' :: (line ++ marker)

/-- A trace line is its columns and what stands behind them. -/
theorem traceColumns_eq (snapshot : Snapshot) :
    snapshot.traceColumns = snapshot.cells.flatten ++ snapshot.rear := by
  unfold traceColumns cells rear bytesColumn textColumn bytes? text?
  cases told : snapshot.result.operation <;> cases snapshot.sourceLine <;>
    simp only [told, Option.map_some, Option.map_none, Operation.bytesText, List.flatten_cons,
      List.flatten_nil, List.append_assoc, List.cons_append, List.nil_append, List.append_nil]

/-- Behind the columns stand the number of clock cycles and the notes. -/
theorem words_rear (snapshot : Snapshot) :
    Text.words snapshot.rear = Text.decimal snapshot.cycleCount :: snapshot.notes := by
  obtain ⟨occupied, solid⟩ := Text.solid_decimal snapshot.cycleCount
  rw [rear, words_padded_append_space occupied solid, notes]
  congr 1
  cases snapshot.sourceLine with
  | none => cases snapshot.result.unimplemented <;> rfl
  | some line =>
    have numbered : Text.Solid ('L' :: Text.decimal (line + 1)) := by
      intro char inside
      rcases List.mem_cons.mp inside with rfl | behind
      · decide
      · exact (Text.solid_decimal (line + 1)).2 char behind
    cases snapshot.result.unimplemented with
    | false =>
      rw [if_neg Bool.false_ne_true, if_neg Bool.false_ne_true, List.append_nil, List.append_nil]
      exact Text.words_of_solid (List.cons_ne_nil _ _) numbered
    | true => exact Text.words_append_space (List.cons_ne_nil _ _) numbered ['!']

/-- A word with the letter L in front is the note of the source line. -/
theorem line_mem_notes_iff (snapshot : Snapshot) (line : Nat) :
    'L' :: Text.decimal (line + 1) ∈ snapshot.notes ↔ snapshot.sourceLine = some line := by
  have same (other : Nat) :
      Text.decimal (line + 1) = Text.decimal (other + 1) ↔ other = line := by
    rw [Text.decimal_injective.eq_iff]
    omega
  unfold notes
  cases snapshot.sourceLine <;> cases snapshot.result.unimplemented <;> simp [same]

/-- An exclamation mark is the note of an opcode that stands for no instruction. -/
theorem mark_mem_notes_iff (snapshot : Snapshot) :
    ['!'] ∈ snapshot.notes ↔ snapshot.result.unimplemented = true := by
  unfold notes
  cases snapshot.sourceLine <;> cases snapshot.result.unimplemented <;> simp

/-- The notes tell the source line, and whether the opcode stands for an instruction. -/
theorem of_notes_eq {first second : Snapshot} (same : first.notes = second.notes) :
    first.sourceLine = second.sourceLine ∧
      first.result.unimplemented = second.result.unimplemented := by
  constructor
  · apply Option.ext
    intro line
    rw [← line_mem_notes_iff, same, line_mem_notes_iff]
  · rw [Bool.eq_iff_iff, ← mark_mem_notes_iff, same, mark_mem_notes_iff]

/-- Two snapshots of which a trace line shows the same. -/
structure ShowsAlike (first second : Snapshot) : Prop where
  /-- The instruction stands at the same address. -/
  pc : first.result.pc = second.result.pc
  /-- There is none in either, or the opcode and the bytes behind it are the same. -/
  bytes : first.bytes? = second.bytes?
  /-- So is the assembly text. -/
  text : first.text? = second.text?
  /-- Register A is the same. -/
  a : first.state.registers.a = second.state.registers.a
  /-- Register F is. -/
  f : first.state.registers.f = second.state.registers.f
  /-- Register B is. -/
  b : first.state.registers.b = second.state.registers.b
  /-- As many clock cycles are spent. -/
  cycleCount : first.cycleCount = second.cycleCount
  /-- The source line is the same. -/
  sourceLine : first.sourceLine = second.sourceLine
  /-- The opcode stands for an instruction in both or in neither. -/
  unimplemented : first.result.unimplemented = second.result.unimplemented

/-- Snapshots of which a trace line shows the same have the same line. -/
theorem ShowsAlike.traceLine_eq {first second : Snapshot} (alike : first.ShowsAlike second) :
    first.traceLine = second.traceLine := by
  have columns : first.cells = second.cells := by
    rw [cells, cells, alike.pc, bytesColumn, bytesColumn, alike.bytes, textColumn, textColumn,
      alike.text, alike.a, alike.f, alike.b]
  have behind : first.rear = second.rear := by
    rw [rear, rear, alike.cycleCount, alike.sourceLine, alike.unimplemented]
  rw [traceLine, traceLine, traceColumns_eq, traceColumns_eq, columns, behind]

namespace FitsColumns

variable {snapshot first second : Snapshot}

/-- The column of bytes is a row of at most three, the opcode and those behind it. -/
theorem exists_bytes (fits : snapshot.FitsColumns) :
    ∃ bytes : List UInt8, snapshot.bytesColumn = Text.hexBytes bytes ∧ bytes.length ≤ 3 ∧
      snapshot.bytes? = bytes.head?.map fun opcode => ((opcode.toNat : Int), bytes.tail) := by
  unfold bytesColumn bytes?
  cases told : snapshot.result.operation with
  | none => exact ⟨[], rfl, Nat.zero_le 3, rfl⟩
  | some operation =>
    have room := fits.operation operation told
    obtain ⟨opcode, value⟩ := room.opcode
    refine ⟨opcode :: operation.operandBytes, ?_, Nat.succ_le_succ room.operandBytes, ?_⟩
    · rw [Option.map_some, value]
      rfl
    · rw [Option.map_some, value]
      rfl

/-- The column of text has room for the text, which does not end in white space. -/
theorem solid_textColumn (fits : snapshot.FitsColumns) :
    snapshot.textColumn.length ≤ 12 ∧ Text.EndsSolid snapshot.textColumn := by
  unfold textColumn text?
  cases told : snapshot.result.operation with
  | none => exact ⟨by decide, by rintro _ ⟨⟩; decide⟩
  | some operation =>
    have room := fits.operation operation told
    exact ⟨room.text, room.solid⟩

/-- The columns have their widths. -/
theorem length_cells (fits : snapshot.FitsColumns) :
    snapshot.cells.map List.length = cellWidths := by
  obtain ⟨bytes, shown, few, _⟩ := fits.exists_bytes
  have room : snapshot.bytesColumn.length ≤ 9 := by
    have long := Text.length_hexBytes_le bytes
    rw [shown]
    omega
  have pc : (Text.hex 4 snapshot.result.pc).length = 4 := by
    obtain ⟨least, greatest⟩ := fits.pc
    rw [← Int.toNat_of_nonneg least]
    exact Text.length_hex (by decide) ((Int.toNat_lt least).mpr greatest)
  simp only [cells, List.map_cons, List.map_nil, pc, length_padded room,
    length_padded fits.solid_textColumn.1, Text.length_hexByte]
  rfl

/-- The columns tell the address. -/
theorem pc_of_column_eq (fits : first.FitsColumns) (fits' : second.FitsColumns)
    (same : Text.hex 4 first.result.pc = Text.hex 4 second.result.pc) :
    first.result.pc = second.result.pc := by
  rw [← Int.toNat_of_nonneg fits.pc.1, ← Int.toNat_of_nonneg fits'.pc.1] at same ⊢
  exact congrArg Int.ofNat (Statement.eq_of_hex_eq same)

/-- They tell the bytes. -/
theorem bytes_of_column_eq (fits : first.FitsColumns) (fits' : second.FitsColumns)
    (same : padded 9 first.bytesColumn = padded 9 second.bytesColumn) :
    first.bytes? = second.bytes? := by
  obtain ⟨bytes, shown, _, told⟩ := fits.exists_bytes
  obtain ⟨others, shown', _, told'⟩ := fits'.exists_bytes
  have words : bytes.map Text.hexByte = others.map Text.hexByte := by
    rw [← ListingLine.words_hexBytes, ← ListingLine.words_hexBytes, ← shown, ← shown',
      ← words_padded 9, same, words_padded]
  have alike : bytes = others := (List.map_inj_right Text.hexByte_injective).mp words
  rw [told, told', alike]

/-- Where the bytes are the same, they tell the assembly text. -/
theorem text_of_column_eq (fits : first.FitsColumns) (fits' : second.FitsColumns)
    (bytes : first.bytes? = second.bytes?)
    (same : padded 12 first.textColumn = padded 12 second.textColumn) :
    first.text? = second.text? := by
  have columns : first.textColumn = second.textColumn := by
    rw [← trimEndBy_padded fits.solid_textColumn.2 12, same,
      trimEndBy_padded fits'.solid_textColumn.2]
  -- A hyphen alone may be a text: only the bytes tell that there is no instruction.
  unfold textColumn at columns
  unfold bytes? at bytes
  unfold text? at columns ⊢
  cases told : first.result.operation with
  | none =>
    rw [told, Option.map_none, eq_comm, Option.map_eq_none_iff] at bytes
    rw [bytes]
  | some operation =>
    rw [told, Option.map_some, eq_comm, Option.map_eq_some_iff] at bytes
    obtain ⟨other, told', _⟩ := bytes
    rw [told, told', Option.map_some, Option.map_some] at columns
    rw [told', Option.map_some, Option.map_some, String.toList_inj.mp columns]

/-- A line is taken apart where its columns end. -/
theorem parts_of_traceLine_eq (fits : first.FitsColumns) (fits' : second.FitsColumns)
    (same : first.traceLine = second.traceLine) :
    first.cells = second.cells ∧ Text.words first.rear = Text.words second.rear := by
  have written (snapshot : Snapshot) : ¬Text.Blank snapshot.rear := by
    rw [← Text.words_eq_nil_iff, snapshot.words_rear]
    exact List.cons_ne_nil _ _
  have parts : first.cells.flatten ++ Text.trimEndBy Text.isBlank first.rear =
      second.cells.flatten ++ Text.trimEndBy Text.isBlank second.rear := by
    rw [← Text.trimEndBy_append _ (written first), ← Text.trimEndBy_append _ (written second),
      ← traceColumns_eq, ← traceColumns_eq]
    exact String.ofList_inj.mp same
  have widths : first.cells.map List.length = second.cells.map List.length :=
    fits.length_cells.trans fits'.length_cells.symm
  have together : first.cells.flatten.length = second.cells.flatten.length := by
    rw [List.length_flatten, List.length_flatten, widths]
  obtain ⟨front, behind⟩ := List.append_inj parts together
  refine ⟨List.eq_iff_flatten_eq.mpr ⟨front, widths⟩, ?_⟩
  rw [← Text.words_trimEndBy, behind, Text.words_trimEndBy]

/-- Snapshots that have room are shown alike where they have the same line. -/
theorem showsAlike (fits : first.FitsColumns) (fits' : second.FitsColumns)
    (same : first.traceLine = second.traceLine) : first.ShowsAlike second := by
  obtain ⟨columns, behind⟩ := fits.parts_of_traceLine_eq fits' same
  simp only [cells, List.cons.injEq, true_and, and_true] at columns
  obtain ⟨pc, bytes, text, a, f, b⟩ := columns
  have bytes := fits.bytes_of_column_eq fits' bytes
  rw [words_rear, words_rear] at behind
  obtain ⟨cycles, notes⟩ := List.cons.inj behind
  obtain ⟨line, mark⟩ := of_notes_eq notes
  exact {
    pc := fits.pc_of_column_eq fits' pc
    bytes := bytes
    text := fits.text_of_column_eq fits' bytes text
    a := Text.hexByte_injective a
    f := Text.hexByte_injective f
    b := Text.hexByte_injective b
    cycleCount := Text.decimal_injective cycles
    sourceLine := line
    unimplemented := mark }

end FitsColumns

end Snapshot

/-- A step tells of an instruction whose description has room. -/
theorem Cpu.fitsColumns_step (cpu : Cpu) :
    ∀ operation ∈ cpu.step.1.operation, operation.FitsColumns := by
  rcases cpu.next_cases with halted | ⟨running, absent⟩ | ⟨running, instruction, listed, held⟩
  · rw [cpu.step_of_halted halted]
    rintro _ ⟨⟩
  · rw [cpu.step_of_unlisted running absent]
    rintro _ ⟨⟩
    exact Operation.fitsColumns_unknown _
  · rw [cpu.step_of_listed running listed held]
    rintro _ ⟨⟩
    exact listed.fitsColumns cpu.pc.toNat

/-- A step leaves a snapshot that has room in the columns of a trace line. -/
theorem Session.fitsColumns_advance (session : Session) : session.advance.1.FitsColumns :=
  ⟨session.bounded_advance.pc, session.cpu.fitsColumns_step⟩

/-- A trace line loses nothing that it shows. The snapshots that two steps leave, in whatever
sessions, with whatever numbers of cycles and lines and whether or not the policy makes a failure of
the steps, have the same line exactly where the instructions stand at the same address and have the
same bytes and the same text, or there is none, and where registers A, F and B, the number of clock
cycles, the source line and the mark of an opcode that stands for no instruction are the same. -/
theorem Session.traceLine_advance_eq_iff (session other : Session) :
    session.advance.1.traceLine = other.advance.1.traceLine ↔
      session.advance.1.ShowsAlike other.advance.1 :=
  ⟨session.fitsColumns_advance.showsAlike other.fitsColumns_advance,
    Snapshot.ShowsAlike.traceLine_eq⟩

end Z80Monitor
