import Z80Monitor.Assembly.Program

/-!
# Closed form of assembled programs

The pass over the lines keeps an account of bytes, addresses and diagnostics as it goes. What it
ends with can be said of the lines at once: the bytes of all of them in order, their numbers
placed from the origin on, and the diagnostic of each line that is refused. Nothing else needs
to look at the pass.
-/

namespace Z80Monitor

namespace Assembly

/-- For every byte of the program, the line it comes from. -/
def byteLines (outcomes : List LineOutcome) : List Nat :=
  outcomes.zipIdx.flatMap fun (outcome, line) => outcome.bytes.map fun _ => line

/-- The diagnostic of a line, when it is refused. -/
def diagnosticOf (text : List Char) (line : Nat) : Option Diagnostic :=
  match LineOutcome.ofLine text with
  | .rejected reason => some ⟨line, text, reason⟩
  | _ => none

/-- The program of lines for a place in the address space. -/
def ofLines (lines : List (List Char)) (origin : Int) : Assembly :=
  let outcomes := lines.map LineOutcome.ofLine
  { origin := word origin
    data := outcomes.flatMap LineOutcome.bytes
    lineMap := LineMap.empty.place origin ((byteLines outcomes).map some)
    diagnostics := lines.zipIdx.filterMap fun (text, line) => diagnosticOf text line }

namespace Draft

/-- A line adds its bytes, its number at their addresses, and its diagnostic if it has one. -/
theorem addLine_eq (draft : Draft) (line : Nat) (text : List Char) :
    draft.addLine line text =
      { data := draft.data ++ (LineOutcome.ofLine text).bytes
        lineMap := draft.lineMap.place draft.current.toNat
          ((LineOutcome.ofLine text).bytes.map fun _ => some line)
        diagnostics := draft.diagnostics ++ (diagnosticOf text line).toList
        current := word (draft.current.toNat + (LineOutcome.ofLine text).bytes.length) } := by
  unfold addLine diagnosticOf
  cases LineOutcome.ofLine text with
  | blank => simp [LineOutcome.bytes, AddressSpace.place, word_toNat]
  | rejected reason => simp [LineOutcome.bytes, AddressSpace.place, word_toNat]
  | emitted instruction => simp [LineOutcome.bytes]

/-- What lines add to a program of which some lines are assembled already. -/
theorem addLines_eq (draft : Draft) (line : Nat) (texts : List (List Char)) :
    let bytes := (texts.map LineOutcome.ofLine).flatMap LineOutcome.bytes
    draft.addLines line texts =
      { data := draft.data ++ bytes
        lineMap := draft.lineMap.place draft.current.toNat
          ((((texts.map LineOutcome.ofLine).zipIdx line).flatMap fun (outcome, line) =>
            outcome.bytes.map fun _ => line).map some)
        diagnostics := draft.diagnostics ++
          (texts.zipIdx line).filterMap fun (text, line) => diagnosticOf text line
        current := word (draft.current.toNat + bytes.length) } := by
  induction texts generalizing draft line with
  | nil => simp [addLines, AddressSpace.place, word_toNat]
  | cons text rest ih =>
    rw [addLines, ih, addLine_eq]
    simp only [List.map_cons, List.zipIdx_cons, List.flatMap_cons, List.map_append,
      List.length_append, AddressSpace.place_append, List.length_map]
    congr 1
    case e_data => exact Array.ext' (by simp)
    case e_lineMap =>
      -- The next byte goes to an address that has wrapped already.
      rw [List.map_map]
      exact AddressSpace.place_of_word_eq _ (word_toNat _) _
    case e_diagnostics =>
      cases refused : diagnosticOf text line with
      | none => simp [refused]
      | some diagnostic => simp [refused]
    case e_current =>
      rw [word_eq_word_iff, toNat_word]
      omega

end Draft

end Assembly

/-- The pass over a source text comes to the program of its lines. -/
theorem assemble_eq_ofLines (source : String) (origin : Int) :
    assemble source origin = Assembly.ofLines (sourceLines source) origin := by
  have start (values : List (Option Nat)) :
      LineMap.empty.place (word origin).toNat values = LineMap.empty.place origin values :=
    AddressSpace.place_of_word_eq _ (word_toNat _) values
  rw [assemble, Assembly.Draft.addLines_eq]
  simp [Assembly.ofLines, Assembly.byteLines, start]

end Z80Monitor
