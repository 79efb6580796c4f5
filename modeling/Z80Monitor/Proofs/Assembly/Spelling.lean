import Z80Monitor.Proofs.Assembly.Layout
import Z80Monitor.Proofs.Text.Hexadecimal
import Z80Monitor.Proofs.Text.Words

/-!
# Spelling of statements

A statement is spelled as its mnemonic, a space and its operands with commas between them. Read as
a line of source text, the spelling is the statement again. The description of a listed
instruction is the spelling of a statement that denotes the instruction, unless the assembler does
not know its mnemonic: no relative jump is assembled.
-/

namespace Z80Monitor

namespace Statement

/-- Whether a character of a line is kept as it is: no blank, no start of a comment and no letter
in lower case. -/
def isKept (char : Char) : Bool :=
  !Text.isBlank char && char != ';' && Text.upperChar char == [char]

/-- A text that stands for itself as a word of a line. -/
def Kept (text : List Char) : Prop := text ≠ [] ∧ ∀ char ∈ text, isKept char = true

instance (text : List Char) : Decidable (Kept text) :=
  haveI := List.decidableBAll (fun char => isKept char = true) text
  inferInstanceAs (Decidable (text ≠ [] ∧ ∀ char ∈ text, isKept char = true))

/-- What it means for a character to be kept. -/
theorem isKept_iff {char : Char} :
    isKept char = true ↔
      (Text.isBlank char = false ∧ char ≠ ';') ∧ Text.upperChar char = [char] := by
  simp only [isKept, Bool.and_eq_true, Bool.not_eq_true', bne_iff_ne, beq_iff_eq]

/-- A kept text has no blanks. -/
theorem Kept.solid {text : List Char} (kept : Kept text) : Text.Solid text :=
  fun char inside => (isKept_iff.mp (kept.2 char inside)).1.1

/-- Between kept characters and spaces nothing is cut off, and no letter changes. -/
theorem significant_eq_self {line : List Char}
    (spelled : ∀ char ∈ line, isKept char = true ∨ char = ' ')
    (front : ∀ char ∈ line.head?, isKept char = true)
    (back : ∀ char ∈ line.getLast?, isKept char = true) : significant line = line := by
  have uncommented (char : Char) (inside : char ∈ line) : (char != ';') = true := by
    rcases spelled char inside with kept | rfl
    · exact bne_iff_ne.mpr (isKept_iff.mp kept).1.2
    · decide
  have trimmed : Text.trim line = line :=
    Text.trimBy_eq_self (fun char first => (isKept_iff.mp (front char first)).1.1)
      fun char last => (isKept_iff.mp (back char last)).1.1
  have upper (char : Char) (inside : char ∈ line) : Text.upperChar char = [char] := by
    rcases spelled char inside with kept | rfl
    · exact (isKept_iff.mp kept).2
    · decide
  rw [significant, Text.takeWhile_eq_self uncommented, trimmed, Text.upper, List.flatMap_def,
    List.map_congr_left upper, ← List.flatMap_def, List.flatMap_singleton']

/-- A kept text is the only word of its line. -/
theorem words_significant_kept {word : List Char} (kept : Kept word) :
    Text.words (significant word) = [word] := by
  have same : significant word = word :=
    significant_eq_self (fun char inside => .inl (kept.2 char inside))
      (fun char first => kept.2 char (List.mem_of_head? first))
      fun char last => kept.2 char (List.mem_of_getLast? last)
  rw [same, Text.words_of_solid kept.1 kept.solid]

/-- Kept texts with a space between them hold nothing else. -/
theorem kept_of_mem {first second : List Char} (front : Kept first) (back : Kept second)
    {char : Char} (inside : char ∈ first ++ ' ' :: second) : isKept char = true ∨ char = ' ' := by
  rw [List.mem_append, List.mem_cons] at inside
  rcases inside with inside | rfl | inside
  · exact .inl (front.2 char inside)
  · exact .inr rfl
  · exact .inl (back.2 char inside)

/-- Kept texts with a space between them are the words of their line. -/
theorem words_significant_space {first second : List Char} (front : Kept first)
    (back : Kept second) :
    Text.words (significant (first ++ ' ' :: second)) = [first, second] := by
  have same : significant (first ++ ' ' :: second) = first ++ ' ' :: second := by
    apply significant_eq_self
    · exact fun char inside => kept_of_mem front back inside
    · intro char inside
      rw [List.head?_append, List.head?_eq_some_head front.1, Option.some_or] at inside
      obtain rfl := Option.some.inj inside
      exact front.2 _ (List.head_mem front.1)
    · intro char inside
      rw [List.getLast?_append, List.getLast?_cons_of_ne_nil back.1,
        List.getLast?_eq_some_getLast back.1, Option.some_or] at inside
      obtain rfl := Option.some.inj inside
      exact back.2 _ (List.getLast_mem back.1)
  rw [same, Text.words_append_space front.1 front.solid,
    Text.words_of_solid back.1 back.solid]

/-- A statement as a line of source text. -/
def spelling (statement : Statement) : List Char :=
  if statement.operands.isEmpty then statement.mnemonic
  else statement.mnemonic ++ ' ' :: [','].intercalate statement.operands

/-- A statement whose mnemonic and operands are found again in its spelling. -/
structure WellSpelled (statement : Statement) : Prop where
  /-- The mnemonic stands for itself. -/
  mnemonic : Kept statement.mnemonic
  /-- Each operand stands for itself and holds no comma. -/
  operands : ∀ operand ∈ statement.operands, Kept operand ∧ ',' ∉ operand

/-- Kept texts with commas between them are a kept text. -/
theorem kept_intercalate {operands : List (List Char)} (occupied : operands ≠ [])
    (kept : ∀ operand ∈ operands, Kept operand) : Kept ([','].intercalate operands) := by
  induction operands with
  | nil => exact absurd rfl occupied
  | cons operand rest ih =>
    have first := kept operand List.mem_cons_self
    cases rest with
    | nil => rwa [List.intercalate_singleton]
    | cons next rest =>
      have behind := ih (List.cons_ne_nil next rest)
        fun other inside => kept other (List.mem_cons_of_mem operand inside)
      have comma : isKept ',' = true := by decide
      rw [List.intercalate_cons_cons, List.append_assoc, List.singleton_append]
      refine ⟨List.append_ne_nil_of_left_ne_nil first.1 _, fun char inside => ?_⟩
      rw [List.mem_append, List.mem_cons] at inside
      rcases inside with inside | rfl | inside
      · exact first.2 char inside
      · exact comma
      · exact behind.2 char inside

section Spelled

variable {statement : Statement}

/-- A statement without operands is spelled as its mnemonic. -/
theorem spelling_of_nil (bare : statement.operands = []) :
    statement.spelling = statement.mnemonic := by
  rw [spelling, bare, if_pos List.isEmpty_nil]

/-- Any other statement is spelled with its operands behind a space. -/
theorem spelling_of_ne_nil (occupied : statement.operands ≠ []) :
    statement.spelling = statement.mnemonic ++ ' ' :: [','].intercalate statement.operands := by
  rw [spelling, if_neg (by rwa [List.isEmpty_iff])]

/-- The operands of a statement are kept together. -/
theorem WellSpelled.kept_operands (spelled : statement.WellSpelled)
    (occupied : statement.operands ≠ []) : Kept ([','].intercalate statement.operands) :=
  kept_intercalate occupied fun operand inside => (spelled.operands operand inside).1

/-- The spelling of a statement is one line. -/
theorem WellSpelled.lineFeed_not_mem (spelled : statement.WellSpelled) :
    '\n' ∉ statement.spelling := by
  have lost : ¬(isKept '\n' = true ∨ '\n' = ' ') := by decide
  intro inside
  by_cases bare : statement.operands = []
  · rw [spelling_of_nil bare] at inside
    exact lost (.inl (spelled.mnemonic.2 _ inside))
  · rw [spelling_of_ne_nil bare] at inside
    exact lost (kept_of_mem spelled.mnemonic (spelled.kept_operands bare) inside)

/-- The mnemonic reaches up to the first space. -/
theorem WellSpelled.takeWhile_spelling (spelled : statement.WellSpelled) :
    statement.spelling.takeWhile (· != ' ') = statement.mnemonic := by
  have blank : isKept ' ' = false := by decide
  have apart (char : Char) (inside : char ∈ statement.mnemonic) : (char != ' ') = true := by
    rw [bne_iff_ne]
    intro same
    have kept := spelled.mnemonic.2 char inside
    rw [same, blank] at kept
    cases kept
  by_cases bare : statement.operands = []
  · rw [spelling_of_nil bare, Text.takeWhile_eq_self apart]
  · rw [spelling_of_ne_nil bare, List.takeWhile_append_of_pos apart,
      List.takeWhile_cons_of_neg (by decide), List.append_nil]

/-- The spelling of a statement is read as the statement. -/
theorem WellSpelled.ofLine?_spelling (spelled : statement.WellSpelled) :
    ofLine? statement.spelling = some statement := by
  by_cases bare : statement.operands = []
  · rw [spelling_of_nil bare, ofLine?, words_significant_kept spelled.mnemonic]
    exact congrArg (fun operands => some (Statement.mk statement.mnemonic operands)) bare.symm
  · have field := spelled.kept_operands bare
    have pieces := Text.splitOn_intercalate bare
      fun operand inside => (spelled.operands operand inside).2
    rw [spelling_of_ne_nil bare, ofLine?, words_significant_space spelled.mnemonic field]
    simp only [List.flatten_singleton, List.isEmpty_iff, field.1, if_false, pieces]

/-- A line that spells a statement amounts to what the statement denotes. -/
theorem WellSpelled.ofLine_spelling (spelled : statement.WellSpelled) :
    LineOutcome.ofLine statement.spelling =
      match statement.instruction with
      | .ok instruction => .emitted instruction
      | .error reason => .rejected reason := by
  cases denoted : statement.instruction with
  | ok instruction => simp only [LineOutcome.ofLine, spelled.ofLine?_spelling, denoted]
  | error reason => simp only [LineOutcome.ofLine, spelled.ofLine?_spelling, denoted]

end Spelled

/-- The name of an operand stands for itself. -/
theorem kept_name (operand : Operand) :
    Kept operand.name.toList ∧ ',' ∉ operand.name.toList := by
  cases operand <;> decide

/-- A number in base 16 behind a dollar sign stands for itself. -/
theorem kept_numeral (width value : Nat) :
    Kept ('$' :: Text.hex width value) ∧ ',' ∉ '$' :: Text.hex width value := by
  have digits (digit : Nat) (small : digit < 16) :
      isKept (Text.upperDigit digit) = true ∧ ',' ≠ Text.upperDigit digit := by
    revert digit
    decide
  refine ⟨⟨List.cons_ne_nil _ _, fun char inside => ?_⟩, fun inside => ?_⟩
  · rcases List.mem_cons.mp inside with rfl | behind
    · decide
    · obtain ⟨digit, small, rfl⟩ := Text.exists_of_mem_hex behind
      exact (digits digit small).1
  · rcases List.mem_cons.mp inside with same | behind
    · cases same
    · obtain ⟨digit, small, same⟩ := Text.exists_of_mem_hex behind
      exact (digits digit small).2 same

/-- The statement of a byte that is listed as data. -/
def ofData (value : UInt8) : Statement := ⟨"DB".toList, ['$' :: Text.hexByte value]⟩

/-- The statement of a byte of data is found again in its spelling. -/
theorem wellSpelled_ofData (value : UInt8) : (ofData value).WellSpelled where
  mnemonic := show Kept "DB".toList by decide
  operands operand inside := by
    obtain rfl := List.mem_singleton.mp inside
    exact kept_numeral 2 value.toNat

/-- The spelling of a byte of data. -/
theorem spelling_ofData (value : UInt8) :
    (ofData value).spelling = "DB $".toList ++ Text.hexByte value := by
  rw [spelling_of_ne_nil (List.cons_ne_nil _ _), ofData, List.intercalate_singleton]
  rfl

/-- The mnemonics of the statements that can denote an instruction. -/
def knownMnemonics : List (List Char) :=
  "LD".toList :: "JP".toList :: fixedForms.map (·.1.mnemonic)

/-- A statement whose mnemonic is not known denotes nothing. -/
theorem instruction_of_unknown {statement : Statement}
    (unknown : statement.mnemonic ∉ knownMnemonics) :
    statement.instruction = .error (.unknownMnemonic statement.mnemonic) := by
  simp only [knownMnemonics, List.mem_cons, List.mem_map, not_or, not_exists, not_and] at unknown
  obtain ⟨notLoad, notJump, notFixed⟩ := unknown
  have unfixed : fixedForms.find? (·.1 == statement) = none := by
    rw [List.find?_eq_none]
    exact fun form member same => notFixed form member (by rw [eq_of_beq same])
  have unlisted : ¬fixedForms.any (·.1.mnemonic == statement.mnemonic) = true := by
    rw [List.any_eq_true]
    exact fun ⟨form, member, same⟩ => notFixed form member (eq_of_beq same)
  rw [Statement.instruction, unfixed]
  simp only [if_neg notLoad, if_neg notJump, if_neg unlisted]

/-- No fixed form is a load. -/
theorem instruction_load (operands : List (List Char)) :
    (⟨"LD".toList, operands⟩ : Statement).instruction = readLoad ⟨"LD".toList, operands⟩ := rfl

/-- No fixed form is a jump. -/
theorem instruction_jump (operands : List (List Char)) :
    (⟨"JP".toList, operands⟩ : Statement).instruction = readJump ⟨"JP".toList, operands⟩ := rfl

/-- A register is found under its name. -/
theorem loadTarget?_name {target : Operand} (named : target ≠ .atHL) :
    loadTarget? target.name.toList = some target := by
  cases target with
  | atHL => exact absurd rfl named
  | _ => rfl

/-- The operand that is found has the name. -/
theorem name_of_loadTarget? {name : List Char} {target : Operand}
    (found : loadTarget? name = some target) : target.name.toList = name := by
  have same := List.find?_some found
  exact eq_of_beq same

end Statement

namespace Instruction

/-- The statement that describes an instruction at `pc`. -/
def statement (instruction : Instruction) (pc : Int) : Statement :=
  ⟨instruction.mnemonic.toList, (instruction.operands pc).map String.toList⟩

/-- The statement that describes a load. -/
theorem statement_load (target : Operand) (value : UInt8) (pc : Int) :
    (load target value).statement pc =
      ⟨"LD".toList, [target.name.toList, '$' :: Text.hexByte value]⟩ := by
  rw [statement, operands, List.map_cons, List.map_singleton, String.toList_ofList, mnemonic]

/-- The statement that describes a jump. -/
theorem statement_jump (target : UInt16) (pc : Int) :
    (jump target).statement pc = ⟨"JP".toList, ['$' :: Text.hexWord target]⟩ := by
  rw [statement, operands, List.map_singleton, String.toList_ofList, mnemonic]

/-- The statement that describes a relative jump. -/
theorem statement_jumpRelative (offset : UInt8) (pc : Int) :
    (jumpRelative offset).statement pc =
      ⟨"JR".toList, ['$' :: Text.hexWord (relativeTarget pc offset)]⟩ := by
  rw [statement, operands, List.map_singleton, String.toList_ofList, mnemonic]

/-- The text of a description is the spelling of the statement. -/
theorem toList_text_describe (instruction : Instruction) (opcode pc : Int) :
    (instruction.describe opcode pc).text.toList = (instruction.statement pc).spelling := by
  unfold Operation.text Statement.spelling statement describe
  simp only [List.isEmpty_map]
  split
  · rfl
  · rw [String.toList_append, String.toList_append, String.toList_intercalate, List.append_assoc]
    rfl

/-- The statement that describes an instruction is found again in its spelling. -/
theorem wellSpelled_statement (instruction : Instruction) (pc : Int) :
    (instruction.statement pc).WellSpelled where
  mnemonic := by
    cases instruction <;> simp only [statement, mnemonic] <;> decide
  operands operand inside := by
    cases instruction with
    | nop => cases inside
    | halt => cases inside
    | increment target =>
      obtain rfl := List.mem_singleton.mp inside
      exact Statement.kept_name target
    | decrement target =>
      obtain rfl := List.mem_singleton.mp inside
      exact Statement.kept_name target
    | add source =>
      rcases List.mem_cons.mp inside with rfl | inside
      · exact Statement.kept_name .a
      · obtain rfl := List.mem_singleton.mp inside
        exact Statement.kept_name source
    | xor source =>
      obtain rfl := List.mem_singleton.mp inside
      exact Statement.kept_name source
    | load target value =>
      rcases List.mem_cons.mp inside with rfl | inside
      · exact Statement.kept_name target
      · obtain rfl := List.mem_singleton.mp inside
        rw [String.toList_ofList]
        exact Statement.kept_numeral 2 value.toNat
    | jump target =>
      obtain rfl := List.mem_singleton.mp inside
      rw [String.toList_ofList]
      exact Statement.kept_numeral 4 target.toNat
    | jumpRelative offset =>
      obtain rfl := List.mem_singleton.mp inside
      rw [String.toList_ofList]
      exact Statement.kept_numeral 4 (relativeTarget pc offset).toNat

/-- The statement that describes a listed instruction denotes the instruction, unless it is a
relative jump. -/
theorem Listed.instruction_statement {instruction : Instruction} (listed : instruction.Listed)
    (pc : Int) (assembled : instruction.mnemonic ≠ "JR") :
    (instruction.statement pc).instruction = .ok instruction := by
  cases listed with
  | @load target named value =>
    have read : Statement.readNumeral ('$' :: Text.hexByte value) = .ok value.toNat :=
      Statement.readNumeral_dollar (Text.hex_ne_nil 2 value.toNat)
        (Statement.hexValue?_hex 2 value.toNat)
    rw [statement_load, Statement.instruction_load, Statement.readLoad]
    simp only [Statement.loadTarget?_name named, read]
    exact congrArg (fun value => Except.ok (Instruction.load target value)) (byte_toNat value)
  | jump target =>
    have read : Statement.readNumeral ('$' :: Text.hexWord target) = .ok target.toNat :=
      Statement.readNumeral_dollar (Text.hex_ne_nil 4 target.toNat)
        (Statement.hexValue?_hex 4 target.toNat)
    rw [statement_jump, Statement.instruction_jump, Statement.readJump]
    simp only [read]
    exact congrArg (fun target => Except.ok (Instruction.jump target)) (word_toNat target)
  | jumpRelative offset => exact absurd rfl assembled
  | _ => rfl

end Instruction

end Z80Monitor
