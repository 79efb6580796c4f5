import Z80Monitor.Proofs.Assembly.LineAccount
import Z80Monitor.Proofs.Assembly.LineFields
import Z80Monitor.Proofs.Assembly.Numeral
import Z80Monitor.Proofs.Assembly.ProgramListing

/-!
# The grammar of a line

The grammar of the language relates a word and a field to bytes. It says all that a line does: a
line adds the bytes that the grammar has for its word and its field, a line without a word adds
nothing, and every other line is reported once. A change of style changes no bytes.
-/

namespace Z80Monitor

namespace Statement

/-- The grammar: the bytes for a word and the field behind it. -/
inductive Encodes : List Char → List Char → List UInt8 → Prop where
  /-- Do nothing. -/
  | nop : Encodes "NOP".toList [] [0x00]
  /-- Stop. -/
  | halt : Encodes "HALT".toList [] [0x76]
  /-- Clear A. -/
  | xor : Encodes "XOR".toList "A".toList [0xAF]
  /-- Add one to A. -/
  | increment : Encodes "INC".toList "A".toList [0x3C]
  /-- Take one from A. -/
  | decrement : Encodes "DEC".toList "A".toList [0x3D]
  /-- Add B to A. -/
  | add : Encodes "ADD".toList "A,B".toList [0x80]
  /-- Put a value into a register. -/
  | load {target : Operand} (named : target ≠ .atHL) {numeral : List Char} {value : Nat}
      (denoted : Numeral numeral value) :
      Encodes "LD".toList (target.name.toList ++ ',' :: numeral)
        [UInt8.ofNat (0x06 + 8 * target.code), UInt8.ofNat (value % 256)]
  /-- Go to an address. -/
  | jump {numeral : List Char} {value : Nat} (denoted : Numeral numeral value) :
      Encodes "JP".toList numeral
        [0xC3, UInt8.ofNat (value % 65536 % 256), UInt8.ofNat (value % 65536 / 256)]

/-- The bytes of a load. -/
theorem encode_load (target : Operand) (value : Nat) :
    (Instruction.load target (byte value)).encode =
      [UInt8.ofNat (0x06 + 8 * target.code), UInt8.ofNat (value % 256)] := rfl

/-- The bytes of a jump. -/
theorem encode_jump (value : Nat) :
    (Instruction.jump (word value)).encode =
      [0xC3, UInt8.ofNat (value % 65536 % 256), UInt8.ofNat (value % 65536 / 256)] := by
  have address : (word value).toNat = value % 65536 := by
    have residue := toNat_word value
    omega
  rw [← address]
  rfl

/-- The bytes of a statement that denotes an instruction are those that the grammar has for its
mnemonic and its operands. -/
theorem Canonical.encodes {statement : Statement} {instruction : Instruction} {text : List Char}
    (canonical : Canonical statement instruction text) :
    Encodes statement.mnemonic ([','].intercalate statement.operands) instruction.encode := by
  cases canonical with
  | nop => exact .nop
  | halt => exact .halt
  | xor => exact .xor
  | increment => exact .increment
  | decrement => exact .decrement
  | add => exact .add
  | @load target named numeral value read =>
    rw [encode_load, List.intercalate_cons_cons, List.intercalate_singleton, List.append_assoc,
      List.singleton_append]
    exact .load named ((readNumeral_eq_ok_iff numeral value).mp read)
  | @jump numeral value read =>
    rw [encode_jump, List.intercalate_singleton]
    exact .jump ((readNumeral_eq_ok_iff numeral value).mp read)

/-- A numeral is one operand. -/
theorem Numeral.single_operand {numeral : List Char} {value : Nat}
    (denoted : Numeral numeral value) : numeral ≠ [] ∧ ',' ∉ numeral := by
  have apart {digits : List Char} (hex : IsHex digits) : ',' ∉ digits := by
    intro inside
    have listed := hex.2 ',' inside
    revert listed
    decide
  cases denoted with
  | bare hex => exact ⟨hex.1, apart hex⟩
  | dollar hex => exact ⟨List.cons_ne_nil _ _, by simp [apart hex]⟩
  | marked hex => exact ⟨List.cons_ne_nil _ _, by simp [apart hex]⟩
  | suffixed hex => exact ⟨by simp, by simp [apart hex]⟩

/-- The operands of a load. -/
theorem fieldOperands_load (target : Operand) {numeral : List Char} (plain : ',' ∉ numeral) :
    fieldOperands (target.name.toList ++ ',' :: numeral) = [target.name.toList, numeral] := by
  have single : ',' ∉ target.name.toList := by cases target <;> decide
  rw [fieldOperands, if_neg (by simp), Text.splitOn_append_mark, Text.splitOn_of_not_mem single,
    Text.splitOn_of_not_mem plain]
  rfl

/-- What the grammar has bytes for denotes an instruction with these bytes. -/
theorem Encodes.exists_instruction {mnemonic field : List Char} {code : List UInt8}
    (encodes : Encodes mnemonic field code) :
    ∃ instruction, (⟨mnemonic, fieldOperands field⟩ : Statement).instruction = .ok instruction ∧
      instruction.encode = code := by
  cases encodes with
  | nop => exact ⟨.nop, rfl, rfl⟩
  | halt => exact ⟨.halt, rfl, rfl⟩
  | xor => exact ⟨.xor .a, rfl, rfl⟩
  | increment => exact ⟨.increment .a, rfl, rfl⟩
  | decrement => exact ⟨.decrement .a, rfl, rfl⟩
  | add => exact ⟨.add .b, rfl, rfl⟩
  | @load target named numeral value denoted =>
    have read := (readNumeral_eq_ok_iff numeral value).mpr denoted
    refine ⟨.load target (byte value), ?_, encode_load target value⟩
    rw [fieldOperands_load target denoted.single_operand.2, instruction_load, readLoad]
    simp only [loadTarget?_name named, read]
    rfl
  | @jump numeral value denoted =>
    have read := (readNumeral_eq_ok_iff field value).mpr denoted
    refine ⟨.jump (word value), ?_, encode_jump value⟩
    obtain ⟨occupied, plain⟩ := denoted.single_operand
    rw [fieldOperands, if_neg occupied, Text.splitOn_of_not_mem plain, instruction_jump, readJump]
    simp only [read]
    rfl

/-- A word and a field denote an instruction with the bytes that the grammar has for them. -/
theorem encodes_iff (mnemonic field : List Char) (code : List UInt8) :
    Encodes mnemonic field code ↔
      ∃ instruction, (⟨mnemonic, fieldOperands field⟩ : Statement).instruction = .ok instruction ∧
        instruction.encode = code := by
  constructor
  · exact Encodes.exists_instruction
  · rintro ⟨instruction, denoted, rfl⟩
    have encodes := (canonical_of_instruction denoted 0).encodes
    rwa [intercalate_fieldOperands] at encodes

/-- The grammar has no bytes for a line without a word. -/
theorem Encodes.ne_nil {mnemonic field : List Char} {code : List UInt8}
    (encodes : Encodes mnemonic field code) : mnemonic ≠ [] ∧ code ≠ [] := by
  cases encodes <;> exact ⟨by decide, List.cons_ne_nil _ _⟩

end Statement

open Statement (lineWord lineField Encodes Restyled)

namespace LineOutcome

variable {line : List Char}

/-- A line without a word holds no statement. -/
theorem ofLine_of_lineWord_eq_nil (empty : lineWord line = []) : ofLine line = .blank := by
  rw [ofLine, Statement.ofLine?_eq, if_pos empty]

/-- A line that the grammar has bytes for denotes an instruction with these bytes. -/
theorem ofLine_of_encodes {code : List UInt8}
    (encodes : Encodes (lineWord line) (lineField line) code) :
    ∃ instruction, ofLine line = .emitted instruction ∧ instruction.encode = code := by
  obtain ⟨instruction, denoted, bytes⟩ := encodes.exists_instruction
  refine ⟨instruction, ?_, bytes⟩
  rw [ofLine, Statement.ofLine?_eq, if_neg encodes.ne_nil.1]
  simp only [denoted]

/-- A line with a word that the grammar has no bytes for is refused. -/
theorem ofLine_of_not_encodes (written : lineWord line ≠ [])
    (absent : ∀ code, ¬Encodes (lineWord line) (lineField line) code) :
    ∃ reason, ofLine line = .rejected reason := by
  rw [ofLine, Statement.ofLine?_eq, if_neg written]
  dsimp only
  split
  · rename_i instruction denoted
    exact absurd ((Statement.encodes_iff _ _ _).mpr ⟨instruction, denoted, rfl⟩) (absent _)
  · rename_i reason _
    exact ⟨reason, rfl⟩

/-- Lines that differ in style only come to the same. -/
theorem ofLine_eq_of_restyled {other : List Char}
    (restyled : Relation.EqvGen Restyled line other) : ofLine other = ofLine line := by
  obtain ⟨word, field⟩ := Statement.fields_eq_of_restyled restyled
  rw [ofLine, ofLine, Statement.ofLine?_eq, Statement.ofLine?_eq, word, field]

end LineOutcome

/-- What the grammar says about a line of a program that adds `bytes`. -/
structure Assembly.FollowsGrammar (program : Assembly) (index : Nat) (line : List Char)
    (bytes : List UInt8) : Prop where
  /-- The line adds bytes where the grammar has some for it. -/
  emits : bytes ≠ [] ↔ ∃ code, Encodes (lineWord line) (lineField line) code
  /-- These are the bytes, and the line is not reported. -/
  encoded (code : List UInt8) (encodes : Encodes (lineWord line) (lineField line) code) :
    bytes = code ∧ program.diagnosticsAt index = []
  /-- A line without a word adds nothing and is not reported. -/
  blank (empty : lineWord line = []) : bytes = [] ∧ program.diagnosticsAt index = []
  /-- Every other line adds nothing and is reported once. -/
  refused (written : lineWord line ≠ [])
    (absent : ∀ code, ¬Encodes (lineWord line) (lineField line) code) :
    bytes = [] ∧ ∃ reason, program.diagnosticsAt index = [⟨index, line, reason⟩]

/-- Every line of a program does what the grammar says. -/
theorem Assembly.followsGrammar_ofLines {lines : List (List Char)} (origin : Int) {index : Nat}
    {line : List Char} (found : lines[index]? = some line) :
    (ofLines lines origin).FollowsGrammar index line (LineOutcome.ofLine line).bytes := by
  have reported := diagnosticsAt_ofLines lines origin found
  rw [diagnosticOf] at reported
  have encoded (code : List UInt8) (encodes : Encodes (lineWord line) (lineField line) code) :
      (LineOutcome.ofLine line).bytes = code ∧ (ofLines lines origin).diagnosticsAt index = [] := by
    obtain ⟨instruction, outcome, bytes⟩ := LineOutcome.ofLine_of_encodes encodes
    rw [outcome] at reported ⊢
    exact ⟨bytes, reported⟩
  have blank (empty : lineWord line = []) :
      (LineOutcome.ofLine line).bytes = [] ∧ (ofLines lines origin).diagnosticsAt index = [] := by
    rw [LineOutcome.ofLine_of_lineWord_eq_nil empty] at reported ⊢
    exact ⟨rfl, reported⟩
  have refused (written : lineWord line ≠ [])
      (absent : ∀ code, ¬Encodes (lineWord line) (lineField line) code) :
      (LineOutcome.ofLine line).bytes = [] ∧
        ∃ reason, (ofLines lines origin).diagnosticsAt index = [⟨index, line, reason⟩] := by
    obtain ⟨reason, outcome⟩ := LineOutcome.ofLine_of_not_encodes written absent
    rw [outcome] at reported ⊢
    exact ⟨rfl, reason, reported⟩
  refine ⟨⟨fun occupied => ?_, ?_⟩, encoded, blank, refused⟩
  · by_contra absent
    rw [not_exists] at absent
    by_cases empty : lineWord line = []
    · exact occupied (blank empty).1
    · exact occupied (refused empty absent).1
  · rintro ⟨code, encodes⟩
    rw [(encoded code encodes).1]
    exact encodes.ne_nil.2

/-- Every line of a source text adds to the program the bytes that the grammar has for its word and
its field, or none: then it has no word, or it is reported once. Letter case, comments and white
space do not change what lines add. -/
theorem assemble_followsGrammar (source : String) (origin : Int) :
    let program := assemble source origin
    program.data = (lineBytes source).flatten ∧
    (∀ (index : Nat) (line : List Char), (sourceLines source)[index]? = some line →
      ∃ bytes, (lineBytes source)[index]? = some bytes ∧
        program.FollowsGrammar index line bytes) ∧
    ∀ other : String,
      List.Forall₂ (Relation.EqvGen Restyled) (sourceLines source) (sourceLines other) →
        lineBytes other = lineBytes source ∧ (assemble other origin).data = program.data := by
  intro program
  have assembled : program = Assembly.ofLines (sourceLines source) origin :=
    assemble_eq_ofLines source origin
  refine ⟨data_eq_flatten_lineBytes source origin, ?_, ?_⟩
  · intro index line found
    refine ⟨_, ?_, assembled ▸ Assembly.followsGrammar_ofLines origin found⟩
    rw [lineBytes, List.getElem?_map, found]
    rfl
  · intro other restyled
    have same : lineBytes other = lineBytes source := by
      unfold lineBytes
      generalize sourceLines source = lines at restyled
      generalize sourceLines other = others at restyled
      induction restyled with
      | nil => rfl
      | cons first _ ih =>
        rw [List.map_cons, List.map_cons, LineOutcome.ofLine_eq_of_restyled first, ih]
    refine ⟨same, ?_⟩
    rw [data_eq_flatten_lineBytes other origin, same, ← data_eq_flatten_lineBytes source origin]

/-- A load among refused and blank lines, and the same lines in another style. -/
theorem assemble_followsGrammar_restyled :
    let source := "ld b,0fh
NOP A"
    let other := "  LD	B , 0 F H; fifteen
nop a"
    List.Forall₂ (Relation.EqvGen Restyled) (sourceLines source) (sourceLines other) ∧
    (∃ bytes, (lineBytes source)[0]? = some bytes ∧
      (assemble source 0).FollowsGrammar 0 "ld b,0fh".toList bytes) ∧
    (assemble other 0).data = [0x06, 0x0F] := by
  intro source other
  have recased : Restyled "ld b,0fh".toList "LD B,0FH".toList :=
    .recased (by decide)
  have spaced : Restyled ("LD".toList ++ " B,0FH".toList) ("LD".toList ++ "	B , 0 F H".toList) :=
    .spaced (by decide) (by decide) (by decide) (by decide) (by decide) (by decide)
  have commented : Restyled "LD	B , 0 F H".toList "LD	B , 0 F H; fifteen".toList :=
    .commented _ " fifteen".toList
  have indented : Restyled "LD	B , 0 F H; fifteen".toList "  LD	B , 0 F H; fifteen".toList :=
    .indented (show Text.Blank [' ', ' '] by decide) _
  have load := ((Relation.EqvGen.rel _ _ recased).trans _ _ _ (.rel _ _ spaced)).trans _ _ _
    ((Relation.EqvGen.rel _ _ commented).trans _ _ _ (.rel _ _ indented))
  have refused : Restyled "NOP A".toList "nop a".toList := .recased (by decide)
  have cut : sourceLines source = ["ld b,0fh".toList, "NOP A".toList] ∧
      sourceLines other = ["  LD\tB , 0 F H; fifteen".toList, "nop a".toList] := by decide
  have restyled : List.Forall₂ (Relation.EqvGen Restyled) (sourceLines source)
      (sourceLines other) := by
    rw [cut.1, cut.2]
    exact .cons load (.cons (.rel _ _ refused) .nil)
  obtain ⟨_, lines, same⟩ := assemble_followsGrammar source 0
  have data : (assemble source 0).data = [0x06, 0x0F] := by decide
  exact ⟨restyled, lines 0 _ (by decide), (same other restyled).2.trans data⟩

end Z80Monitor
