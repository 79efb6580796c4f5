import Mathlib.Data.List.Nodup
import Z80Monitor.Proofs.Assembly.Layout
import Z80Monitor.Proofs.Text.Blank

/-!
# Accounting for the lines of a source text

Every line of a source text is of one kind: it is blank but for a comment, or it is rejected with a
diagnostic of its own, or it adds one to three bytes to the program. The bytes of the program are
those that the lines add, in order, so every byte comes from one line, which is the line that the
program notes for it.
-/

namespace Z80Monitor

/-- A line that holds nothing in front of a comment but white space. -/
def IsBlankLine (text : List Char) : Prop := Text.Blank (text.takeWhile (· != ';'))

/-- A line is found to hold no statement where it is blank but for a comment. -/
theorem Statement.ofLine?_eq_none_iff (text : List Char) :
    Statement.ofLine? text = none ↔ IsBlankLine text := by
  have words := Text.words_eq_nil_iff (significant text)
  rw [significant, Text.blank_upper_iff, Text.blank_trim_iff] at words
  rw [IsBlankLine, ← words, ← significant, ofLine?]
  split
  · rename_i absent
    exact iff_of_true rfl absent
  · rename_i mnemonic rest found
    refine iff_of_false (Option.some_ne_none _) fun absent => ?_
    rw [absent] at found
    cases found

/-- A line comes to nothing where it is blank but for a comment. -/
theorem LineOutcome.ofLine_eq_blank_iff (text : List Char) :
    ofLine text = .blank ↔ IsBlankLine text := by
  rw [← Statement.ofLine?_eq_none_iff, ofLine]
  cases Statement.ofLine? text with
  | none => exact iff_of_true rfl rfl
  | some statement =>
    refine iff_of_false (fun same => ?_) (Option.some_ne_none _)
    dsimp only at same
    split at same <;> cases same

/-- An instruction has one to three bytes. -/
theorem Instruction.length_encode_bounds (instruction : Instruction) :
    1 ≤ instruction.encode.length ∧ instruction.encode.length ≤ 3 := by
  rw [length_encode]
  cases instruction <;> simp [length]

/-- What a line of source text can be to the program. -/
inductive LineKind where
  /-- The line holds white space and a comment at most. -/
  | blank
  /-- The line is reported. -/
  | rejected
  /-- The line adds bytes. -/
  | emitting
  deriving DecidableEq, Repr

/-- The kind of a line that comes to an outcome. -/
def LineOutcome.kind : LineOutcome → LineKind
  | .blank => .blank
  | .rejected _ => .rejected
  | .emitted _ => .emitting

namespace Assembly

/-- The diagnostics of a line. -/
def diagnosticsAt (program : Assembly) (line : Nat) : List Diagnostic :=
  program.diagnostics.filter (·.line = line)

/-- What a program has from a line that adds `bytes`, where the line is of a kind. -/
def Accounts (program : Assembly) (line : Nat) (text : List Char) (bytes : List UInt8) :
    LineKind → Prop
  | .blank => IsBlankLine text ∧ bytes = [] ∧ program.diagnosticsAt line = []
  | .rejected =>
    ¬IsBlankLine text ∧ bytes = [] ∧ ∃ reason, program.diagnosticsAt line = [⟨line, text, reason⟩]
  | .emitting =>
    ¬IsBlankLine text ∧ 1 ≤ bytes.length ∧ bytes.length ≤ 3 ∧ program.diagnosticsAt line = []

/-- A line is of no two kinds. -/
theorem Accounts.unique {program : Assembly} {line : Nat} {text : List Char} {bytes : List UInt8}
    {kind other : LineKind} (accounts : program.Accounts line text bytes kind)
    (otherAccounts : program.Accounts line text bytes other) : kind = other := by
  cases kind <;> cases other
  case blank.blank | rejected.rejected | emitting.emitting => rfl
  case blank.rejected | blank.emitting => exact absurd accounts.1 otherAccounts.1
  case rejected.blank | emitting.blank => exact absurd otherAccounts.1 accounts.1
  case rejected.emitting =>
    have positive := otherAccounts.2.1
    rw [accounts.2.1] at positive
    cases positive
  case emitting.rejected =>
    have positive := accounts.2.1
    rw [otherAccounts.2.1] at positive
    cases positive

variable (lines : List (List Char)) (origin : Int)

/-- A diagnostic is the one of its line. -/
theorem mem_diagnostics_iff (diagnostic : Diagnostic) :
    diagnostic ∈ (ofLines lines origin).diagnostics ↔
      ∃ text line, lines[line]? = some text ∧ diagnosticOf text line = some diagnostic := by
  rw [diagnostics_ofLines, List.mem_filterMap]
  constructor
  · rintro ⟨⟨text, line⟩, listed, refused⟩
    exact ⟨text, line, List.mem_zipIdx_iff_getElem?.mp listed, refused⟩
  · rintro ⟨text, line, found, refused⟩
    exact ⟨(text, line), List.mem_zipIdx_iff_getElem?.mpr found, refused⟩

/-- A diagnostic names its line and has the line's text. -/
theorem eq_of_diagnosticOf {text : List Char} {line : Nat} {diagnostic : Diagnostic}
    (refused : diagnosticOf text line = some diagnostic) :
    diagnostic.line = line ∧ diagnostic.text = text := by
  unfold diagnosticOf at refused
  split at refused
  · obtain rfl := Option.some.inj refused
    exact ⟨rfl, rfl⟩
  · cases refused

/-- Diagnostics are in the order of their lines, and no line has two. -/
theorem pairwise_diagnostics :
    (ofLines lines origin).diagnostics.Pairwise (·.line < ·.line) := by
  rw [diagnostics_ofLines, List.pairwise_filterMap]
  have increasing : (lines.zipIdx.map Prod.snd).Pairwise (· < ·) := by
    rw [List.zipIdx_map_snd]
    exact List.pairwise_lt_range' 1
  apply (List.pairwise_map.mp increasing).imp
  intro first second before diagnostic refused other otherRefused
  rw [(eq_of_diagnosticOf refused).1, (eq_of_diagnosticOf otherRefused).1]
  exact before

/-- The diagnostics of a line are the one that its text calls for, if it does. -/
theorem diagnosticsAt_ofLines {line : Nat} {text : List Char} (found : lines[line]? = some text) :
    (ofLines lines origin).diagnosticsAt line = (diagnosticOf text line).toList := by
  have distinct : ((ofLines lines origin).diagnosticsAt line).Nodup := by
    apply List.Nodup.filter
    apply (pairwise_diagnostics lines origin).imp
    intro diagnostic other before same
    rw [same] at before
    exact Nat.lt_irrefl _ before
  have listed (diagnostic : Diagnostic) :
      diagnostic ∈ (ofLines lines origin).diagnosticsAt line ↔
        diagnosticOf text line = some diagnostic := by
    rw [diagnosticsAt, List.mem_filter, mem_diagnostics_iff, decide_eq_true_eq]
    constructor
    · rintro ⟨⟨other, index, otherFound, refused⟩, same⟩
      rw [(eq_of_diagnosticOf refused).1] at same
      subst same
      obtain rfl := Option.some.inj (found.symm.trans otherFound)
      exact refused
    · intro refused
      exact ⟨⟨text, line, found, refused⟩, (eq_of_diagnosticOf refused).1⟩
  cases refused : diagnosticOf text line with
  | none =>
    apply List.eq_nil_iff_forall_not_mem.mpr
    intro diagnostic member
    rw [listed, refused] at member
    cases member
  | some diagnostic =>
    apply List.perm_singleton.mp
    rw [List.perm_ext_iff_of_nodup distinct (List.nodup_singleton diagnostic)]
    intro other
    rw [listed, refused, List.mem_singleton, Option.some_inj]
    exact eq_comm

/-- A line is of the kind that its outcome says, and of no other. -/
theorem existsUnique_kind {line : Nat} {text : List Char} (found : lines[line]? = some text) :
    ∃! kind, (ofLines lines origin).Accounts line text (LineOutcome.ofLine text).bytes kind := by
  have blank := LineOutcome.ofLine_eq_blank_iff text
  have reported := diagnosticsAt_ofLines lines origin found
  rw [diagnosticOf] at reported
  have accounts : (ofLines lines origin).Accounts line text (LineOutcome.ofLine text).bytes
      (LineOutcome.ofLine text).kind := by
    cases outcome : LineOutcome.ofLine text with
    | blank =>
      rw [outcome] at blank reported
      exact ⟨blank.mp rfl, rfl, reported⟩
    | rejected reason =>
      rw [outcome] at blank reported
      have written : ¬IsBlankLine text := fun empty => nomatch blank.mpr empty
      exact ⟨written, rfl, reason, reported⟩
    | emitted instruction =>
      rw [outcome] at blank reported
      have written : ¬IsBlankLine text := fun empty => nomatch blank.mpr empty
      have size := instruction.length_encode_bounds
      exact ⟨written, size.1, size.2, reported⟩
  exact ⟨_, accounts, fun other otherAccounts => otherAccounts.unique accounts⟩

end Assembly

/-- The bytes that the lines of a source text add to a program, line by line. -/
def lineBytes (source : String) : List (List UInt8) :=
  (sourceLines source).map fun text => (LineOutcome.ofLine text).bytes

/-- Among the bytes of all the parts, the one with an index is one of those of the part with a
number. -/
def LiesIn (parts : List (List UInt8)) (index number : Nat) : Prop :=
  ∃ part position, parts[number]? = some part ∧ position < part.length ∧
    index = (parts.take number).flatten.length + position

/-- The program is made of the bytes that the lines add, in order. -/
theorem data_eq_flatten_lineBytes (source : String) (origin : Int) :
    (assemble source origin).data = (lineBytes source).flatten := by
  rw [assemble_eq_ofLines, Assembly.data_ofLines, List.flatMap_def, List.map_map]
  rfl

/-- The parts that bytes come from, where the first part has the number `first`, are those in which
they lie. -/
theorem liesIn_of_getElem? {parts : List (List UInt8)} {first index line : Nat}
    (found : ((parts.zipIdx first).flatMap fun (part, number) =>
      part.map fun _ => number)[index]? = some line) :
    ∃ number, line = first + number ∧ LiesIn parts index number := by
  induction parts generalizing first index with
  | nil => cases found
  | cons part rest ih =>
    rw [List.zipIdx_cons, List.flatMap_cons] at found
    by_cases inside : index < part.length
    · rw [List.getElem?_append_left (by rwa [List.length_map]), List.getElem?_map,
        List.getElem?_eq_getElem inside] at found
      obtain rfl := Option.some.inj found
      exact ⟨0, rfl, part, index, rfl, inside, (Nat.zero_add index).symm⟩
    · have behind : part.length ≤ index := Nat.le_of_not_lt inside
      rw [List.getElem?_append_right (by rwa [List.length_map]), List.length_map] at found
      obtain ⟨number, counted, other, position, listed, within, placed⟩ := ih found
      refine ⟨number + 1, by omega, other, position, listed, within, ?_⟩
      rw [List.take_succ_cons, List.flatten_cons, List.length_append]
      omega

/-- The line that a program notes for a byte is the one that adds it. -/
theorem liesIn_of_byteLines {source : String} {index line : Nat}
    (found : (Assembly.byteLines ((sourceLines source).map LineOutcome.ofLine))[index]? =
      some line) : LiesIn (lineBytes source) index line := by
  have parts : lineBytes source =
      ((sourceLines source).map LineOutcome.ofLine).map LineOutcome.bytes := by
    rw [List.map_map]
    rfl
  rw [parts]
  generalize (sourceLines source).map LineOutcome.ofLine = outcomes at found
  have noted : ((outcomes.map LineOutcome.bytes).zipIdx.flatMap fun (part, number) =>
      part.map fun _ => number)[index]? = some line := by
    rwa [List.zipIdx_map, List.flatMap_map]
  obtain ⟨number, rfl, lies⟩ := liesIn_of_getElem? noted
  rwa [Nat.zero_add]

end Z80Monitor
