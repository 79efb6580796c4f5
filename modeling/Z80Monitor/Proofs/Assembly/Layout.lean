import Z80Monitor.Proofs.Assembly.ClosedForm
import Z80Monitor.Proofs.Memory.Placement
import Z80Monitor.Proofs.Processor.Step

/-!
# Layout of assembled programs

The lines of a source text that denote instructions, each with the address that its instruction
gets. The bytes of the assembled program are theirs in order, so where a program fits into the
address space each line has an address of its own, at which its instruction stands once the
program is loaded and which the line map leads back to the line.
-/

namespace Z80Monitor

namespace Statement

variable {statement : Statement} {instruction : Instruction}

/-- No value is loaded into the byte at the address in HL. -/
theorem ne_atHL_of_loadTarget? {name : List Char} {target : Operand}
    (found : loadTarget? name = some target) : target ≠ .atHL := by
  have member := List.mem_of_find?_eq_some found
  intro same
  rw [same] at member
  revert member
  decide

/-- An instruction that is made of what was read is made of some value. -/
theorem exists_eq_of_map {α : Type} {read : Except LineError α} {make : α → Instruction}
    (denoted : read.map make = .ok instruction) : ∃ value, make value = instruction := by
  cases read with
  | error fault => cases denoted
  | ok value => exact ⟨value, Except.ok.inj denoted⟩

/-- A load denotes a listed instruction or none. -/
theorem listed_of_readLoad (denoted : statement.readLoad = .ok instruction) :
    instruction.Listed := by
  unfold readLoad at denoted
  split at denoted
  · split at denoted
    · rename_i found
      obtain ⟨number, rfl⟩ := exists_eq_of_map denoted
      exact .load (ne_atHL_of_loadTarget? found) _
    · cases denoted
  · cases denoted

/-- A jump denotes a listed instruction or none. -/
theorem listed_of_readJump (denoted : statement.readJump = .ok instruction) :
    instruction.Listed := by
  unfold readJump at denoted
  split at denoted
  · obtain ⟨number, rfl⟩ := exists_eq_of_map denoted
    exact .jump _
  · cases denoted

/-- Each fixed form is that of a listed instruction. -/
theorem listed_of_mem_fixedForms {form : Statement × Instruction} (member : form ∈ fixedForms) :
    form.2.Listed := by
  simp only [fixedForms, List.mem_cons, List.not_mem_nil, or_false] at member
  rcases member with rfl | rfl | rfl | rfl | rfl | rfl
  · exact .nop
  · exact .halt
  · exact .xor
  · exact .increment
  · exact .decrement
  · exact .add

/-- A statement denotes a listed instruction or none. -/
theorem listed_of_instruction (denoted : statement.instruction = .ok instruction) :
    instruction.Listed := by
  unfold Statement.instruction at denoted
  split at denoted
  · rename_i found
    obtain rfl := Except.ok.inj denoted
    exact listed_of_mem_fixedForms (List.mem_of_find?_eq_some found)
  · split at denoted
    · exact listed_of_readLoad denoted
    · split at denoted
      · exact listed_of_readJump denoted
      · split at denoted <;> cases denoted

end Statement

/-- A line denotes a listed instruction or none. -/
theorem LineOutcome.listed_of_ofLine {line : List Char} {instruction : Instruction}
    (emitted : ofLine line = .emitted instruction) : instruction.Listed := by
  unfold ofLine at emitted
  split at emitted
  · cases emitted
  · split at emitted
    · rename_i denoted
      obtain rfl := LineOutcome.emitted.inj emitted
      exact Statement.listed_of_instruction denoted
    · cases emitted

/-- A line of source text that denotes an instruction, with the address of its first byte. -/
structure EmittedLine where
  /-- Which line, counted from 0. -/
  line : Nat
  /-- Where the instruction starts. -/
  address : UInt16
  /-- The instruction that the line denotes. -/
  instruction : Instruction
  deriving DecidableEq, Repr

/-- The lines that denote instructions, in order, where the first line has the number `line` and
the first instruction starts at `address`. -/
def emittedFrom (address : Int) (line : Nat) : List (List Char) → List EmittedLine
  | [] => []
  | text :: rest =>
    match LineOutcome.ofLine text with
    | .emitted instruction =>
      ⟨line, word address, instruction⟩ ::
        emittedFrom (address + instruction.length) (line + 1) rest
    | _ => emittedFrom address (line + 1) rest

/-- The lines of a source text that denote instructions, for a program that starts at `origin`. -/
def emittedLines (source : String) (origin : Int) : List EmittedLine :=
  emittedFrom origin 0 (sourceLines source)

namespace EmittedLine

/-- The bytes of lines, in order. -/
def bytesOf (program : List EmittedLine) : List UInt8 :=
  program.flatMap fun emitted => emitted.instruction.encode

/-- For every byte of lines, the line it comes from. -/
def linesOf (program : List EmittedLine) : List Nat :=
  program.flatMap fun emitted => emitted.instruction.encode.map fun _ => emitted.line

/-- The bytes of lines behind each other are those of the one and then those of the other. -/
theorem bytesOf_append (left right : List EmittedLine) :
    bytesOf (left ++ right) = bytesOf left ++ bytesOf right := List.flatMap_append

/-- The bytes of lines are those of the first one and then those of the others. -/
theorem bytesOf_cons (emitted : EmittedLine) (rest : List EmittedLine) :
    bytesOf (emitted :: rest) = emitted.instruction.encode ++ bytesOf rest := rfl

/-- As many lines are given as there are bytes. -/
theorem length_linesOf (program : List EmittedLine) :
    (linesOf program).length = (bytesOf program).length := by
  unfold linesOf bytesOf
  rw [List.length_flatMap, List.length_flatMap]
  simp only [List.length_map]

/-- Behind the bytes of the lines in front, the first byte comes from the line itself. -/
theorem getElem?_linesOf (left right : List EmittedLine) (emitted : EmittedLine) :
    (linesOf (left ++ emitted :: right))[(bytesOf left).length]? = some emitted.line := by
  unfold linesOf
  rw [List.flatMap_append, List.flatMap_cons]
  change (linesOf left ++ _)[_]? = _
  rw [← length_linesOf, List.getElem?_append_right (Nat.le_refl _), Nat.sub_self]
  rfl

end EmittedLine

/-- The bytes of the assembled lines are those of the lines that denote instructions. -/
theorem bytesOf_emittedFrom (address : Int) (line : Nat) (texts : List (List Char)) :
    EmittedLine.bytesOf (emittedFrom address line texts) =
      (texts.map LineOutcome.ofLine).flatMap LineOutcome.bytes := by
  induction texts generalizing address line with
  | nil => rfl
  | cons text rest ih =>
    rw [List.map_cons, List.flatMap_cons, emittedFrom]
    cases LineOutcome.ofLine text with
    | emitted instruction => exact congrArg (instruction.encode ++ ·) (ih _ _)
    | _ => exact ih _ _

/-- The bytes of the assembled lines come from the lines that denote instructions. -/
theorem linesOf_emittedFrom (address : Int) (line : Nat) (texts : List (List Char)) :
    EmittedLine.linesOf (emittedFrom address line texts) =
      ((texts.map LineOutcome.ofLine).zipIdx line).flatMap fun (outcome, line) =>
        outcome.bytes.map fun _ => line := by
  induction texts generalizing address line with
  | nil => rfl
  | cons text rest ih =>
    rw [List.map_cons, List.zipIdx_cons, List.flatMap_cons, emittedFrom]
    cases LineOutcome.ofLine text with
    | emitted instruction => exact congrArg (_ ++ ·) (ih _ _)
    | _ => exact ih _ _

/-- The data of lines are the bytes that their outcomes add. -/
theorem Assembly.data_ofLines (lines : List (List Char)) (origin : Int) :
    (ofLines lines origin).data =
      (lines.map LineOutcome.ofLine).flatMap LineOutcome.bytes := rfl

/-- The line map of lines places the line of every byte. -/
theorem Assembly.lineMap_ofLines (lines : List (List Char)) (origin : Int) :
    (ofLines lines origin).lineMap =
      LineMap.empty.place origin ((byteLines (lines.map LineOutcome.ofLine)).map some) := rfl

/-- The diagnostics of lines are those that their texts call for, in order. -/
theorem Assembly.diagnostics_ofLines (lines : List (List Char)) (origin : Int) :
    (ofLines lines origin).diagnostics =
      lines.zipIdx.filterMap fun numbered => diagnosticOf numbered.1 numbered.2 := rfl

/-- For every byte of an assembled program there is a line that it comes from. -/
theorem Assembly.length_byteLines (lines : List (List Char)) (origin : Int) :
    (byteLines (lines.map LineOutcome.ofLine)).length = (ofLines lines origin).data.length := by
  rw [data_ofLines, ← bytesOf_emittedFrom origin 0, ← EmittedLine.length_linesOf, linesOf_emittedFrom]
  rfl

/-- A line starts behind the bytes of the lines in front. -/
theorem address_of_emittedFrom_eq {address : Int} {line : Nat} {texts : List (List Char)}
    {left right : List EmittedLine} {emitted : EmittedLine}
    (parts : emittedFrom address line texts = left ++ emitted :: right) :
    emitted.address = word (address + (EmittedLine.bytesOf left).length) := by
  induction texts generalizing address line left with
  | nil =>
    have empty := congrArg List.length parts
    simp [emittedFrom] at empty
  | cons text rest ih =>
    rw [emittedFrom] at parts
    cases outcome : LineOutcome.ofLine text with
    | emitted instruction =>
      rw [outcome] at parts
      cases left with
      | nil =>
        obtain ⟨rfl, _⟩ := List.cons.inj parts
        exact congrArg word (Int.add_zero address).symm
      | cons first left =>
        obtain ⟨rfl, behind⟩ := List.cons.inj parts
        rw [ih behind, EmittedLine.bytesOf_cons, List.length_append, Instruction.length_encode,
          Int.natCast_add, Int.add_assoc]
    | blank =>
      rw [outcome] at parts
      exact ih parts
    | rejected reason =>
      rw [outcome] at parts
      exact ih parts

/-- Lines denote listed instructions. -/
theorem listed_of_mem_emittedFrom {address : Int} {line : Nat} {texts : List (List Char)}
    {emitted : EmittedLine} (member : emitted ∈ emittedFrom address line texts) :
    emitted.instruction.Listed := by
  induction texts generalizing address line with
  | nil => cases member
  | cons text rest ih =>
    rw [emittedFrom] at member
    cases outcome : LineOutcome.ofLine text with
    | emitted instruction =>
      rw [outcome] at member
      rcases List.mem_cons.mp member with rfl | behind
      · exact LineOutcome.listed_of_ofLine outcome
      · exact ih behind
    | blank =>
      rw [outcome] at member
      exact ih member
    | rejected reason =>
      rw [outcome] at member
      exact ih member

/-- The data of an assembled program are the bytes of its lines. -/
theorem data_assemble (source : String) (origin : Int) :
    (assemble source origin).data = EmittedLine.bytesOf (emittedLines source origin) := by
  rw [assemble_eq_ofLines]
  exact (bytesOf_emittedFrom origin 0 (sourceLines source)).symm

/-- The line map of an assembled program places the line of every byte. -/
theorem lineMap_assemble (source : String) (origin : Int) :
    (assemble source origin).lineMap =
      LineMap.empty.place origin ((EmittedLine.linesOf (emittedLines source origin)).map some) := by
  rw [assemble_eq_ofLines, Assembly.lineMap_ofLines, emittedLines, linesOf_emittedFrom]
  rfl

/-- The line map of a program that fits leads the address of a line back to the line. -/
theorem lineAt_assemble {source : String} {origin : Int} {emitted : EmittedLine}
    (fits : (assemble source origin).data.length ≤ 65536)
    (member : emitted ∈ emittedLines source origin) :
    (assemble source origin).lineMap.lineAt emitted.address.toNat = some emitted.line := by
  obtain ⟨left, right, parts⟩ := List.append_of_mem member
  rw [data_assemble, ← EmittedLine.length_linesOf, ← List.length_map some] at fits
  have position := EmittedLine.getElem?_linesOf left right emitted
  rw [← parts] at position
  rw [lineMap_assemble, LineMap.lineAt, word_toNat, address_of_emittedFrom_eq parts]
  apply AddressSpace.valueAt_place _ _ fits
  rw [List.getElem?_map, position]
  rfl

/-- The instruction of a line stands at the line's address where a program that fits is loaded. -/
theorem holds_load_assemble {source : String} {origin : Int} {emitted : EmittedLine}
    (fits : (assemble source origin).data.length ≤ 65536)
    (member : emitted ∈ emittedLines source origin) (memory : Memory) :
    (memory.load origin
        ((assemble source origin).data.map fun value => (value.toNat : Int))).Holds
      emitted.address.toNat emitted.instruction.encode := by
  obtain ⟨left, right, parts⟩ := List.append_of_mem member
  have bytes : (assemble source origin).data =
      EmittedLine.bytesOf left ++ emitted.instruction.encode ++ EmittedLine.bytesOf right := by
    rw [data_assemble, parts, EmittedLine.bytesOf_append, EmittedLine.bytesOf_cons,
      List.append_assoc]
  rw [bytes] at fits ⊢
  have held := memory.holds_load origin fits
  apply held.congr
  rw [word_toNat, address_of_emittedFrom_eq parts]

/-- A list falls into what stands in front of an index, the element there and what stands
behind. -/
theorem eq_take_append_cons_drop {program : List EmittedLine} {index : Nat}
    {emitted : EmittedLine} (found : program[index]? = some emitted) :
    program = program.take index ++ emitted :: program.drop (index + 1) := by
  obtain ⟨inside, rfl⟩ := List.getElem?_eq_some_iff.mp found
  rw [← List.drop_eq_getElem_cons inside, List.take_append_drop]

/-- How many bytes stand in front of the line with an index. -/
def offsetOf (program : List EmittedLine) (index : Nat) : Nat :=
  (EmittedLine.bytesOf (program.take index)).length

/-- Behind a line stand the bytes of its instruction as well. -/
theorem offsetOf_succ {program : List EmittedLine} {index : Nat} {emitted : EmittedLine}
    (found : program[index]? = some emitted) :
    offsetOf program (index + 1) = offsetOf program index + emitted.instruction.length := by
  unfold offsetOf
  rw [List.take_add_one, found, EmittedLine.bytesOf_append, List.length_append,
    ← Instruction.length_encode]
  simp [EmittedLine.bytesOf]

/-- In front of a later line stand at least as many bytes. -/
theorem offsetOf_mono (program : List EmittedLine) {index other : Nat} (before : index ≤ other) :
    offsetOf program index ≤ offsetOf program other := by
  obtain ⟨more, rfl⟩ := Nat.exists_eq_add_of_le before
  unfold offsetOf
  rw [List.take_add, EmittedLine.bytesOf_append, List.length_append]
  exact Nat.le_add_right _ _

/-- In front of no line stand more bytes than there are. -/
theorem offsetOf_le (program : List EmittedLine) (index : Nat) :
    offsetOf program index ≤ (EmittedLine.bytesOf program).length := by
  have whole := offsetOf_mono program (Nat.le_add_right index program.length)
  unfold offsetOf at whole ⊢
  rwa [List.take_of_length_le (Nat.le_add_left _ _)] at whole

section Addresses

variable {source : String} {origin : Int} {index other : Nat} {emitted following : EmittedLine}

/-- A line starts behind the bytes in front of it. -/
theorem address_eq_word (found : (emittedLines source origin)[index]? = some emitted) :
    emitted.address = word (origin + offsetOf (emittedLines source origin) index) :=
  address_of_emittedFrom_eq (eq_take_append_cons_drop found)

/-- The next line starts behind the instruction of a line. -/
theorem address_succ (found : (emittedLines source origin)[index]? = some emitted)
    (next : (emittedLines source origin)[index + 1]? = some following) :
    following.address = word (emitted.address.toNat + emitted.instruction.length) := by
  rw [address_eq_word next, address_eq_word found, offsetOf_succ found, word_eq_word_iff,
    toNat_word]
  omega

/-- The lines of a program that fits have different addresses. -/
theorem index_eq_of_address_eq (fits : (assemble source origin).data.length ≤ 65536)
    (found : (emittedLines source origin)[index]? = some emitted)
    (otherFound : (emittedLines source origin)[other]? = some following)
    (same : emitted.address = following.address) : index = other := by
  have below {index : Nat} {emitted : EmittedLine}
      (found : (emittedLines source origin)[index]? = some emitted) :
      offsetOf (emittedLines source origin) index < 65536 := by
    have within := offsetOf_le (emittedLines source origin) (index + 1)
    rw [offsetOf_succ found, ← data_assemble, Instruction.length_eq] at within
    omega
  rw [address_eq_word found, address_eq_word otherFound] at same
  have equal := word_add_inj (below found) (below otherFound) same
  rcases Nat.lt_trichotomy index other with before | reached | behind
  · have grown := offsetOf_mono (emittedLines source origin) (Nat.succ_le_of_lt before)
    rw [offsetOf_succ found, Instruction.length_eq] at grown
    omega
  · exact reached
  · have grown := offsetOf_mono (emittedLines source origin) (Nat.succ_le_of_lt behind)
    rw [offsetOf_succ otherFound, Instruction.length_eq] at grown
    omega

end Addresses

end Z80Monitor
