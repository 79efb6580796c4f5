import Z80Monitor.Proofs.Processor.Listing

/-!
# Assembling a listing

The texts of a listing are lines of source text. Assembled, each of them gives the bytes that its
line shows, and only the bytes of data and the relative jumps are refused. This holds of whatever
stands in memory: bytes that were never meant as instructions are listed as some, and a line may
reach past the end of the range or past the last address.
-/

namespace Z80Monitor

/-- No instruction has the mnemonic of data. -/
theorem Instruction.mnemonic_ne (instruction : Instruction) : instruction.mnemonic ≠ "DB" := by
  cases instruction <;> simp [mnemonic]

namespace ListingLine

/-- The texts of lines as a source text. -/
def source (lines : List ListingLine) : String := "\n".intercalate (lines.map (·.text))

/-- How a line is read as a line of source text: refused for its mnemonic where the assembler has
none, and otherwise as an instruction with the bytes that the line shows. -/
inductive Reassembles (line : ListingLine) : Prop where
  /-- The line is refused. -/
  | refused (unassembled : line.isUnassembled = true)
      (outcome : LineOutcome.ofLine line.text.toList =
        .rejected (.unknownMnemonic line.mnemonic))
  /-- The line denotes an instruction. -/
  | emitted {instruction : Instruction} (assembled : line.isUnassembled = false)
      (outcome : LineOutcome.ofLine line.text.toList = .emitted instruction)
      (shown : instruction.encode = line.shownBytes)

/-- The line of a byte of data shows the byte. -/
theorem shownBytes_ofData (address : UInt16) (value : UInt8) :
    (ofData address value).shownBytes = [value] := shownBytes_of_bytes rfl

/-- The line of an instruction shows its bytes. -/
theorem shownBytes_ofInstruction (address : UInt16) (instruction : Instruction) :
    (ofInstruction address instruction).shownBytes = instruction.encode := shownBytes_of_bytes rfl

/-- The mnemonic of the line of an instruction is that of the instruction. -/
theorem mnemonic_ofInstruction (address : UInt16) (instruction : Instruction) :
    (ofInstruction address instruction).mnemonic = instruction.mnemonic.toList :=
  mnemonic_of_text (instruction.wellSpelled_statement address.toNat) rfl

/-- A byte of data is refused. -/
theorem reassembles_ofData (address : UInt16) (value : UInt8) :
    (ofData address value).Reassembles := by
  have spelled := Statement.wellSpelled_ofData value
  have mnemonic : (ofData address value).mnemonic = "DB".toList := mnemonic_of_text spelled rfl
  have unknown : (Statement.ofData value).mnemonic ∉ Statement.knownMnemonics :=
    show "DB".toList ∉ Statement.knownMnemonics by decide
  apply Reassembles.refused
  · rw [isUnassembled, mnemonic]
    rfl
  · rw [mnemonic, ofData, String.toList_ofList, spelled.ofLine_spelling,
      Statement.instruction_of_unknown unknown]
    rfl

/-- The text of the line of a listed instruction denotes the instruction, unless it is a relative
jump. -/
theorem ofLine_ofInstruction (address : UInt16) {instruction : Instruction}
    (listed : instruction.Listed) (assembled : instruction.mnemonic ≠ "JR") :
    LineOutcome.ofLine (ofInstruction address instruction).text.toList = .emitted instruction := by
  have spelled := instruction.wellSpelled_statement address.toNat
  rw [ofInstruction, String.toList_ofList, spelled.ofLine_spelling,
    listed.instruction_statement address.toNat assembled]

/-- A listed instruction is read back, unless it is a relative jump, which is refused. -/
theorem reassembles_ofInstruction (address : UInt16) {instruction : Instruction}
    (listed : instruction.Listed) : (ofInstruction address instruction).Reassembles := by
  have mnemonic := mnemonic_ofInstruction address instruction
  -- A relative jump is the one listed instruction that no statement denotes.
  by_cases relative : instruction.mnemonic = "JR"
  · have spelled := instruction.wellSpelled_statement address.toNat
    have unknown : (instruction.statement address.toNat).mnemonic ∉ Statement.knownMnemonics := by
      rw [Instruction.statement, relative]
      exact show "JR".toList ∉ Statement.knownMnemonics by decide
    apply Reassembles.refused
    · rw [isUnassembled, mnemonic, relative]
      rfl
    · rw [mnemonic, ofInstruction, String.toList_ofList, spelled.ofLine_spelling,
        Statement.instruction_of_unknown unknown]
      rfl
  · apply Reassembles.emitted
    · rw [isUnassembled_eq_false_iff, mnemonic]
      exact ⟨fun same => instruction.mnemonic_ne (String.toList_inj.mp same),
        fun same => relative (String.toList_inj.mp same)⟩
    · exact ofLine_ofInstruction address listed relative
    · rw [shownBytes_ofInstruction]

section Source

variable {lines : List ListingLine}

/-- The lines of the source text are the texts. -/
theorem sourceLines_source (occupied : lines ≠ [])
    (single : ∀ line ∈ lines, '\n' ∉ line.text.toList) :
    sourceLines (source lines) = lines.map (·.text.toList) := by
  rw [sourceLines, source, String.toList_intercalate, List.map_map]
  apply Text.splitOn_intercalate
  · rwa [ne_eq, List.map_eq_nil_iff]
  · intro text inside
    obtain ⟨line, member, rfl⟩ := List.mem_map.mp inside
    exact single line member

/-- The texts of no line are one blank line. -/
theorem sourceLines_source_nil : sourceLines (source []) = [[]] := rfl

/-- The lines that denote instructions are among the texts. -/
theorem emittedLines_source (single : ∀ line ∈ lines, '\n' ∉ line.text.toList) (origin : Int) :
    emittedLines (source lines) origin = emittedFrom origin 0 (lines.map (·.text.toList)) := by
  cases lines with
  | nil =>
    rw [emittedLines, sourceLines_source_nil]
    rfl
  | cons line rest =>
    rw [emittedLines, sourceLines_source (List.cons_ne_nil line rest) single]

/-- The data of the source text are what the texts contribute. -/
theorem data_assemble_source (single : ∀ line ∈ lines, '\n' ∉ line.text.toList) (origin : Int) :
    (assemble (source lines) origin).data =
      lines.flatMap fun line => (LineOutcome.ofLine line.text.toList).bytes := by
  rw [data_assemble, emittedLines_source single, bytesOf_emittedFrom, List.map_map,
    List.flatMap_map]
  rfl

/-- The diagnostics of the source text are those of the texts. -/
theorem diagnostics_assemble_source (single : ∀ line ∈ lines, '\n' ∉ line.text.toList)
    (origin : Int) :
    (assemble (source lines) origin).diagnostics =
      lines.zipIdx.filterMap fun (line, index) =>
        Assembly.diagnosticOf line.text.toList index := by
  cases lines with
  | nil =>
    rw [assemble_eq_ofLines, sourceLines_source_nil]
    rfl
  | cons line rest =>
    rw [assemble_eq_ofLines, sourceLines_source (List.cons_ne_nil line rest) single,
      Assembly.ofLines, List.zipIdx_map, List.filterMap_map]
    rfl

end Source

section Reading

variable {lines : List ListingLine}

/-- The lines that are not refused give the bytes that they show. -/
theorem bytes_emittedFrom (reads : ∀ line ∈ lines, line.Reassembles) (address : Int)
    (first : Nat) :
    (emittedFrom address first (lines.map (·.text.toList))).map
        (fun emitted => (emitted.line, emitted.instruction.encode)) =
      (lines.zipIdx first).filterMap fun (line, index) =>
        if line.isUnassembled then none else some (index, line.shownBytes) := by
  induction lines generalizing address first with
  | nil => rfl
  | cons line rest ih =>
    have behind (address : Int) :=
      ih (fun other inside => reads other (List.mem_cons_of_mem line inside)) address (first + 1)
    rw [List.map_cons, emittedFrom, List.zipIdx_cons, List.filterMap_cons]
    cases reads line List.mem_cons_self with
    | refused unassembled outcome =>
      simp only [outcome, unassembled, if_true, behind]
    | emitted assembled outcome shown =>
      simp only [outcome, assembled, Bool.false_eq_true, if_false, List.map_cons, shown, behind]

/-- The bytes of the lines that are not refused are those that they show. -/
theorem bytes_eq (reads : ∀ line ∈ lines, line.Reassembles) :
    (lines.flatMap fun line => (LineOutcome.ofLine line.text.toList).bytes) =
      (lines.filter fun line => !line.isUnassembled).flatMap shownBytes := by
  induction lines with
  | nil => rfl
  | cons line rest ih =>
    have behind := ih fun other inside => reads other (List.mem_cons_of_mem line inside)
    rw [List.flatMap_cons, behind, List.filter_cons]
    cases reads line List.mem_cons_self with
    | refused unassembled outcome =>
      simp only [outcome, unassembled, LineOutcome.bytes, Bool.not_true, Bool.false_eq_true,
        if_false, List.nil_append]
    | emitted assembled outcome shown =>
      simp only [outcome, assembled, LineOutcome.bytes, Bool.not_false, if_true,
        List.flatMap_cons, shown]

/-- The diagnostics of lines that are read are those of the lines that are refused. -/
theorem diagnostics_eq (reads : ∀ line ∈ lines, line.Reassembles) (first : Nat) :
    ((lines.zipIdx first).filterMap fun (line, index) =>
        Assembly.diagnosticOf line.text.toList index) =
      (lines.zipIdx first).filterMap fun (line, index) =>
        if line.isUnassembled then
          some ⟨index, line.text.toList, .unknownMnemonic line.mnemonic⟩
        else none := by
  induction lines generalizing first with
  | nil => rfl
  | cons line rest ih =>
    have behind :=
      ih (fun other inside => reads other (List.mem_cons_of_mem line inside)) (first + 1)
    rw [List.zipIdx_cons, List.filterMap_cons, List.filterMap_cons, behind]
    cases reads line List.mem_cons_self with
    | refused unassembled outcome =>
      simp only [Assembly.diagnosticOf, outcome, unassembled, if_true]
    | emitted assembled outcome shown =>
      simp only [Assembly.diagnosticOf, outcome, assembled, Bool.false_eq_true, if_false]

end Reading

end ListingLine

namespace Memory

section Listing

variable {memory : Memory} {start : Int} {length : Nat} {line : ListingLine}

/-- Each line of a listing is read back. -/
theorem reassembles_of_mem (member : line ∈ memory.listingFrom start length) :
    line.Reassembles := by
  rcases mem_listingFrom_cases member with shown | ⟨instruction, listed, _, shown⟩
  · rw [shown]
    exact ListingLine.reassembles_ofData _ _
  · rw [shown]
    exact ListingLine.reassembles_ofInstruction _ listed

/-- The text of each line of a listing is one line. -/
theorem lineFeed_not_mem_of_mem (member : line ∈ memory.listingFrom start length) :
    '\n' ∉ line.text.toList := by
  rcases mem_listingFrom_cases member with shown | ⟨instruction, _, _, shown⟩
  · rw [shown, ListingLine.ofData, String.toList_ofList]
    exact (Statement.wellSpelled_ofData _).lineFeed_not_mem
  · rw [shown, ListingLine.ofInstruction, String.toList_ofList]
    exact (instruction.wellSpelled_statement _).lineFeed_not_mem

/-- The bytes that a line of a listing shows stand at its address, and it shows them all. -/
theorem holds_shownBytes_of_mem (member : line ∈ memory.listingFrom start length) :
    memory.Holds line.address.toNat line.shownBytes ∧
      line.bytes = String.ofList (Text.hexBytes line.shownBytes) := by
  rcases mem_listingFrom_cases member with shown | ⟨instruction, _, held, shown⟩
  · have bytes : line.shownBytes = [memory.peek line.address.toNat] := by
      rw [shown]
      exact ListingLine.shownBytes_ofData _ _
    refine ⟨?_, ?_⟩
    · rw [bytes]
      exact ⟨rfl, trivial⟩
    · rw [bytes]
      exact congrArg ListingLine.bytes shown
  · have bytes : line.shownBytes = instruction.encode := by
      rw [shown]
      exact ListingLine.shownBytes_ofInstruction _ _
    refine ⟨?_, ?_⟩
    · rwa [bytes]
    · rw [bytes]
      exact congrArg ListingLine.bytes shown

end Listing

/-- A listing is assembled again, whatever memory holds: each line that shows neither a byte of
data nor a relative jump gives the bytes that it shows, which are those of memory at its address,
these bytes are all the data, and each of the other lines is refused. -/
theorem assemble_listing (memory : Memory) (start length origin : Int) :
    let listing := memory.listing start length
    let source := ListingLine.source listing
    (∀ line ∈ listing, memory.Holds line.address.toNat line.shownBytes ∧
      line.bytes = String.ofList (Text.hexBytes line.shownBytes)) ∧
    (assemble source origin).data =
      (listing.filter fun line => !line.isUnassembled).flatMap ListingLine.shownBytes ∧
    (emittedLines source origin).map
        (fun emitted => (emitted.line, emitted.instruction.encode)) =
      (listing.zipIdx.filterMap fun (line, index) =>
        if line.isUnassembled then none else some (index, line.shownBytes)) ∧
    (assemble source origin).diagnostics =
      listing.zipIdx.filterMap fun (line, index) =>
        if line.isUnassembled then
          some ⟨index, line.text.toList, .unknownMnemonic line.mnemonic⟩
        else none := by
  intro listing source
  have reads : ∀ line ∈ listing, line.Reassembles := fun line member => reassembles_of_mem member
  have single : ∀ line ∈ listing, '\n' ∉ line.text.toList :=
    fun line member => lineFeed_not_mem_of_mem member
  refine ⟨fun line member => holds_shownBytes_of_mem member, ?_, ?_, ?_⟩
  · rw [ListingLine.data_assemble_source single]
    exact ListingLine.bytes_eq reads
  · rw [ListingLine.emittedLines_source single]
    exact ListingLine.bytes_emittedFrom reads origin 0
  · rw [ListingLine.diagnostics_assemble_source single]
    exact ListingLine.diagnostics_eq reads 0

end Memory

end Z80Monitor
