import Z80Monitor.Proofs.Assembly.Reassembly

/-!
# Listing a program

An assembled program that is loaded is listed line by line: one line for each line of source text
that denotes an instruction, with the instruction in its canonical spelling. The listing assembles
to the program again.
-/

namespace Z80Monitor

/-- How the instruction of a statement is spelled: mnemonics and registers as in the statement,
the value of a load with the two digits and the address of a jump with the four digits of what
remains of the number. -/
inductive Statement.Canonical : Statement → Instruction → List Char → Prop where
  /-- Do nothing. -/
  | nop : Canonical ⟨"NOP".toList, []⟩ .nop "NOP".toList
  /-- Stop. -/
  | halt : Canonical ⟨"HALT".toList, []⟩ .halt "HALT".toList
  /-- Clear A. -/
  | xor : Canonical ⟨"XOR".toList, [['A']]⟩ (.xor .a) "XOR A".toList
  /-- Add one to A. -/
  | increment : Canonical ⟨"INC".toList, [['A']]⟩ (.increment .a) "INC A".toList
  /-- Take one from A. -/
  | decrement : Canonical ⟨"DEC".toList, [['A']]⟩ (.decrement .a) "DEC A".toList
  /-- Add B to A. -/
  | add : Canonical ⟨"ADD".toList, [['A'], ['B']]⟩ (.add .b) "ADD A,B".toList
  /-- Put a value into a register. -/
  | load {target : Operand} (named : target ≠ .atHL) {numeral : List Char} {value : Nat}
      (read : readNumeral numeral = .ok value) :
      Canonical ⟨"LD".toList, [target.name.toList, numeral]⟩ (.load target (byte value))
        ("LD ".toList ++ target.name.toList ++ ",$".toList ++ Text.hex 2 (value % 256 : Nat))
  /-- Go to an address. -/
  | jump {numeral : List Char} {value : Nat} (read : readNumeral numeral = .ok value) :
      Canonical ⟨"JP".toList, [numeral]⟩ (.jump (word value))
        ("JP $".toList ++ Text.hex 4 (value % 65536 : Nat))

namespace Statement

variable {statement : Statement} {instruction : Instruction}

/-- No relative jump has a canonical spelling. -/
theorem Canonical.mnemonic_ne {text : List Char}
    (canonical : Canonical statement instruction text) : instruction.mnemonic ≠ "JR" := by
  cases canonical <;> simp [Instruction.mnemonic]

/-- A fixed form has its canonical spelling. -/
theorem canonical_of_mem_fixedForms {form : Statement × Instruction} (member : form ∈ fixedForms)
    (pc : Int) : Canonical form.1 form.2 (form.2.statement pc).spelling := by
  simp only [fixedForms, List.mem_cons, List.not_mem_nil, or_false] at member
  rcases member with rfl | rfl | rfl | rfl | rfl | rfl
  · exact .nop
  · exact .halt
  · exact .xor
  · exact .increment
  · exact .decrement
  · exact .add

/-- An instruction that is made of the number of a numeral. -/
theorem exists_readNumeral_eq {text : List Char} {make : Int → Instruction}
    (denoted : ((readNumeral text).map fun value => make value) = .ok instruction) :
    ∃ value : Nat, readNumeral text = .ok value ∧ make value = instruction := by
  cases read : readNumeral text with
  | error fault =>
    rw [read] at denoted
    cases denoted
  | ok value =>
    rw [read] at denoted
    exact ⟨value, rfl, Except.ok.inj denoted⟩

/-- A load has its canonical spelling. -/
theorem canonical_of_readLoad (loads : statement.mnemonic = "LD".toList)
    (denoted : statement.readLoad = .ok instruction) (pc : Int) :
    Canonical statement instruction (instruction.statement pc).spelling := by
  obtain ⟨mnemonic, operands⟩ := statement
  obtain rfl : mnemonic = "LD".toList := loads
  unfold readLoad at denoted
  split at denoted
  · rename_i name numeral shape
    obtain rfl : operands = [name, numeral] := shape
    split at denoted
    · rename_i target found
      obtain ⟨value, read, rfl⟩ := exists_readNumeral_eq denoted
      obtain rfl := name_of_loadTarget? found
      have text : ((Instruction.load target (byte value)).statement pc).spelling =
          "LD ".toList ++ target.name.toList ++ ",$".toList ++
            Text.hex 2 (value % 256 : Nat) := by
        rw [Instruction.statement_load, Text.hexByte, toNat_byte, spelling,
          List.intercalate_cons_cons, List.intercalate_singleton, List.append_assoc,
          List.append_assoc]
        rfl
      rw [text]
      exact .load (ne_atHL_of_loadTarget? found) read
    · cases denoted
  · cases denoted

/-- A jump has its canonical spelling. -/
theorem canonical_of_readJump (jumps : statement.mnemonic = "JP".toList)
    (denoted : statement.readJump = .ok instruction) (pc : Int) :
    Canonical statement instruction (instruction.statement pc).spelling := by
  obtain ⟨mnemonic, operands⟩ := statement
  obtain rfl : mnemonic = "JP".toList := jumps
  unfold readJump at denoted
  split at denoted
  · rename_i numeral shape
    obtain rfl : operands = [numeral] := shape
    obtain ⟨value, read, rfl⟩ := exists_readNumeral_eq denoted
    have text : ((Instruction.jump (word value)).statement pc).spelling =
        "JP $".toList ++ Text.hex 4 (value % 65536 : Nat) := by
      rw [Instruction.statement_jump, Text.hexWord, toNat_word, spelling,
        List.intercalate_singleton]
      rfl
    rw [text]
    exact .jump read
  · cases denoted

/-- The instruction that a statement denotes has a canonical spelling. -/
theorem canonical_of_instruction (denoted : statement.instruction = .ok instruction) (pc : Int) :
    Canonical statement instruction (instruction.statement pc).spelling := by
  unfold Statement.instruction at denoted
  split at denoted
  · rename_i found
    obtain rfl := Except.ok.inj denoted
    have same := List.find?_some found
    obtain rfl := eq_of_beq same
    exact canonical_of_mem_fixedForms (List.mem_of_find?_eq_some found) pc
  · split at denoted
    · rename_i loads
      exact canonical_of_readLoad loads denoted pc
    · split at denoted
      · rename_i jumps
        exact canonical_of_readJump jumps denoted pc
      · split at denoted <;> cases denoted

end Statement

/-- The statement on a line that denotes an instruction. -/
theorem LineOutcome.exists_statement {text : List Char} {instruction : Instruction}
    (outcome : ofLine text = .emitted instruction) :
    ∃ statement, Statement.ofLine? text = some statement ∧
      statement.instruction = .ok instruction := by
  unfold ofLine at outcome
  split at outcome
  · cases outcome
  · rename_i statement found
    split at outcome
    · rename_i denoted
      obtain rfl := LineOutcome.emitted.inj outcome
      exact ⟨statement, found, denoted⟩
    · cases outcome

/-- A line that denotes an instruction is one of the texts. -/
theorem exists_text_of_mem_emittedFrom {address : Int} {first : Nat} {texts : List (List Char)}
    {emitted : EmittedLine} (member : emitted ∈ emittedFrom address first texts) :
    ∃ offset text, emitted.line = first + offset ∧ texts[offset]? = some text ∧
      LineOutcome.ofLine text = .emitted emitted.instruction := by
  induction texts generalizing address first with
  | nil => cases member
  | cons text rest ih =>
    have deeper {address : Int} (behind : emitted ∈ emittedFrom address (first + 1) rest) :
        ∃ offset other, emitted.line = first + offset ∧ (text :: rest)[offset]? = some other ∧
          LineOutcome.ofLine other = .emitted emitted.instruction := by
      obtain ⟨offset, other, line, found, outcome⟩ := ih behind
      exact ⟨offset + 1, other, by omega, by rwa [List.getElem?_cons_succ], outcome⟩
    rw [emittedFrom] at member
    cases outcome : LineOutcome.ofLine text with
    | emitted instruction =>
      rw [outcome] at member
      rcases List.mem_cons.mp member with rfl | behind
      · exact ⟨0, text, rfl, rfl, outcome⟩
      · exact deeper behind
    | blank =>
      rw [outcome] at member
      exact deeper member
    | rejected reason =>
      rw [outcome] at member
      exact deeper member

/-- A program that stands in memory is listed line by line. -/
theorem Memory.listingFrom_emittedFrom {memory : Memory} {address : Int} {first : Nat}
    {texts : List (List Char)}
    (held : ∀ emitted ∈ emittedFrom address first texts,
      memory.Holds emitted.address.toNat emitted.instruction.encode) :
    memory.listingFrom address (EmittedLine.bytesOf (emittedFrom address first texts)).length =
      (emittedFrom address first texts).map fun emitted =>
        .ofInstruction emitted.address emitted.instruction := by
  -- The listing and the lines both go on at `address + instruction.length` as a number that is
  -- not cut off, so the boundaries stay in step where the addresses go round.
  induction texts generalizing address first with
  | nil => exact memory.listingFrom_zero address
  | cons text rest ih =>
    rw [emittedFrom] at held ⊢
    cases outcome : LineOutcome.ofLine text with
    | emitted instruction =>
      simp only [outcome] at held ⊢
      have listed := LineOutcome.listed_of_ofLine outcome
      have line := listingLine_of_holds listed (held _ List.mem_cons_self)
      have behind := ih fun emitted inside => held emitted (List.mem_cons_of_mem _ inside)
      have positive := instruction.length_pos
      rw [EmittedLine.bytesOf_cons, List.length_append, Instruction.length_encode, listingFrom,
        dif_pos (Nat.add_pos_left positive _)]
      simp only [line, Nat.add_sub_cancel_left, behind, List.map_cons]
    | blank =>
      simp only [outcome] at held ⊢
      exact ih held
    | rejected reason =>
      simp only [outcome] at held ⊢
      exact ih held

/-- How a line of a program that starts at `origin` is listed: where its bytes start, from where
the line map leads back to it, with its bytes and with the canonical spelling of the instruction
that it denotes. -/
structure EmittedLine.IsListed (emitted : EmittedLine) (source : String) (origin : Int)
    (line : ListingLine) : Prop where
  /-- The line stands where the bytes start. -/
  address : line.address = emitted.address
  /-- The line map leads back. -/
  mapped : (assemble source origin).lineMap.lineAt line.address.toNat = some emitted.line
  /-- The line shows the bytes. -/
  bytes : line.bytes = String.ofList (Text.hexBytes emitted.instruction.encode)
  /-- The line shows no data. -/
  notData : line.mnemonic ≠ "DB".toList
  /-- The line spells the instruction that the line of source text denotes. -/
  spelled : ∃ text statement, (sourceLines source)[emitted.line]? = some text ∧
    LineOutcome.ofLine text = .emitted emitted.instruction ∧
    Statement.ofLine? text = some statement ∧
    Statement.Canonical statement emitted.instruction line.text.toList

section Program

variable {source : String} {origin : Int}

/-- A line of a program that fits is listed as it should be. -/
theorem EmittedLine.isListed_ofInstruction
    (fits : (assemble source origin).data.length ≤ 65536) {emitted : EmittedLine}
    (member : emitted ∈ emittedLines source origin) :
    emitted.IsListed source origin (.ofInstruction emitted.address emitted.instruction) where
  address := rfl
  mapped := lineAt_assemble fits member
  bytes := rfl
  notData := by
    rw [ListingLine.mnemonic_ofInstruction]
    exact fun same => emitted.instruction.mnemonic_ne (String.toList_inj.mp same)
  spelled := by
    obtain ⟨offset, text, line, found, outcome⟩ := exists_text_of_mem_emittedFrom member
    obtain ⟨statement, read, denoted⟩ := LineOutcome.exists_statement outcome
    rw [Nat.zero_add] at line
    refine ⟨text, statement, by rwa [line], outcome, read, ?_⟩
    rw [ListingLine.ofInstruction, String.toList_ofList]
    exact Statement.canonical_of_instruction denoted _

/-- A line of a program is read back from its listing. -/
theorem EmittedLine.ofLine_ofInstruction {emitted : EmittedLine}
    (member : emitted ∈ emittedLines source origin) :
    LineOutcome.ofLine
        (ListingLine.ofInstruction emitted.address emitted.instruction).text.toList =
      .emitted emitted.instruction := by
  obtain ⟨_, _, _, _, outcome⟩ := exists_text_of_mem_emittedFrom member
  obtain ⟨_, _, denoted⟩ := LineOutcome.exists_statement outcome
  exact ListingLine.ofLine_ofInstruction _ (listed_of_mem_emittedFrom member)
    (Statement.canonical_of_instruction denoted 0).mnemonic_ne

/-- Where a program that fits is loaded, the listing of its bytes has one line for each line of
source text that denotes an instruction, in their order, and assembles to the same data, whatever
memory held before. -/
theorem Memory.listing_load_assemble (source : String) (origin : Int) (memory : Memory)
    (fits : (assemble source origin).data.length ≤ 65536) :
    let data := (assemble source origin).data
    let loaded := memory.load origin (data.map fun value => (value.toNat : Int))
    let listing := loaded.listing origin data.length
    listing.length = (emittedLines source origin).length ∧
    (∀ (index : Nat) (emitted : EmittedLine), (emittedLines source origin)[index]? = some emitted →
      ∃ line, listing[index]? = some line ∧ emitted.IsListed source origin line) ∧
    (assemble (ListingLine.source listing) origin).data = data := by
  intro data loaded listing
  have held : ∀ emitted ∈ emittedLines source origin,
      loaded.Holds emitted.address.toNat emitted.instruction.encode :=
    fun emitted member => holds_load_assemble fits member memory
  have lines : listing = (emittedLines source origin).map fun emitted =>
      .ofInstruction emitted.address emitted.instruction := by
    have size : ((data.length : Nat) : Int).toNat =
        (EmittedLine.bytesOf (emittedLines source origin)).length := by
      rw [Int.toNat_natCast, ← data_assemble]
    change loaded.listingFrom origin ((data.length : Nat) : Int).toNat = _
    rw [size]
    exact listingFrom_emittedFrom held
  refine ⟨?_, ?_, ?_⟩
  · rw [lines, List.length_map]
  · intro index emitted found
    refine ⟨_, ?_, EmittedLine.isListed_ofInstruction fits (List.mem_of_getElem? found)⟩
    rw [lines, List.getElem?_map, found]
    rfl
  · have single : ∀ line ∈ listing, '\n' ∉ line.text.toList :=
      fun line member => lineFeed_not_mem_of_mem member
    have read : ∀ emitted ∈ emittedLines source origin,
        (LineOutcome.ofLine
          (ListingLine.ofInstruction emitted.address emitted.instruction).text.toList).bytes =
        emitted.instruction.encode :=
      fun emitted member => congrArg LineOutcome.bytes (EmittedLine.ofLine_ofInstruction member)
    rw [ListingLine.data_assemble_source single, lines, List.flatMap_map, List.flatMap_def,
      List.map_congr_left read, ← List.flatMap_def]
    exact (data_assemble source origin).symm

/-- A program that goes round the end of memory, with comments, a refused line and numbers that
are cut off. -/
theorem Memory.listing_load_assemble_wrapping :
    let source := "; start\nld a, 1FF\n\nLD A\njp $1FFFE ; again\nXOR A"
    let loaded := blank.load 65534 [0x3E, 0xFF, 0xC3, 0xFE, 0xFF, 0xAF]
    (assemble source 65534).data.length ≤ 65536 ∧
    (loaded.listing 65534 6).length = 3 ∧
    (assemble (ListingLine.source (loaded.listing 65534 6)) 65534).data =
      [0x3E, 0xFF, 0xC3, 0xFE, 0xFF, 0xAF] := by
  intro source loaded
  have data : (assemble source 65534).data = [0x3E, 0xFF, 0xC3, 0xFE, 0xFF, 0xAF] := by decide
  have fits : (assemble source 65534).data.length ≤ 65536 := by
    rw [data]
    decide
  have listed := listing_load_assemble source 65534 blank fits
  rw [data] at listed
  have lines : (emittedLines source 65534).length = 3 := by decide
  exact ⟨fits, listed.1.trans lines, listed.2.2⟩

end Program

end Z80Monitor
