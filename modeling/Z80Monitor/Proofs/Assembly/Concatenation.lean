import Z80Monitor.Proofs.Assembly.Layout

/-!
# Joined source texts

Two source texts with a line feed between them assemble to the program of the first and, right
behind its bytes, the program of the second, whose lines are counted on from those of the first.
Where both programs put a byte at one address, as they do when together they go round the address
space, the address belongs to the second.
-/

namespace Z80Monitor

/-- A text has one line more than it has line feeds. -/
theorem length_sourceLines (source : String) :
    (sourceLines source).length = source.toList.count '\n' + 1 := by
  unfold sourceLines
  generalize source.toList = text
  induction text with
  | nil => rfl
  | cons char rest ih =>
    rw [Text.splitOn_cons, List.count_cons]
    by_cases ends : char = '\n'
    · rw [if_pos ends, List.length_cons, ih, ends]
      rfl
    · have apart : (char == '\n') = false := beq_eq_false_iff_ne.mpr ends
      rw [if_neg ends, apart, if_neg Bool.false_ne_true, Nat.add_zero, ← ih]
      cases pieces : Text.splitOn '\n' rest with
      | nil => exact absurd pieces (Text.splitOn_ne_nil '\n' rest)
      | cons piece behind => rfl

/-- The lines of two texts with a line feed between them are those of the one and then those of
the other. -/
theorem sourceLines_append (first second : String) :
    sourceLines (first ++ "\n" ++ second) = sourceLines first ++ sourceLines second := by
  unfold sourceLines
  rw [String.toList_append, String.toList_append, List.append_assoc]
  exact Text.splitOn_append_mark '\n' first.toList second.toList

namespace LineMap

variable (map : LineMap) (origin : Int) (lines : List Nat) (address : Int)

/-- An address has the line that was placed there last, or else the one it had before. -/
theorem lineAt_place :
    LineMap.lineAt (map.place origin (lines.map some)) address =
      (LineMap.lineAt (empty.place origin (lines.map some)) address).or (map.lineAt address) := by
  unfold lineAt
  rcases AddressSpace.exists_lastAt origin (lines.map some).length (word address) with
    absent | ⟨index, last⟩
  · rw [AddressSpace.valueAt_place_of_ne map _ _ _ absent,
      AddressSpace.valueAt_place_of_ne empty _ _ _ absent, empty, AddressSpace.valueAt_filled,
      Option.none_or]
  · have found := List.getElem?_eq_getElem last.inside
    rw [AddressSpace.valueAt_place_of_lastAt map last found,
      AddressSpace.valueAt_place_of_lastAt empty last found, List.getElem_map, Option.some_or]

/-- Lines that are counted on are the lines of the addresses, counted on. -/
theorem lineAt_place_add (count : Nat) :
    LineMap.lineAt (empty.place origin ((lines.map (· + count)).map some)) address =
      (LineMap.lineAt (empty.place origin (lines.map some)) address).map (· + count) := by
  unfold lineAt
  have size : ((lines.map (· + count)).map some).length = (lines.map some).length := by
    simp only [List.length_map]
  rcases AddressSpace.exists_lastAt origin (lines.map some).length (word address) with
    absent | ⟨index, last⟩
  · rw [AddressSpace.valueAt_place_of_ne empty origin (lines.map some) _ absent,
      AddressSpace.valueAt_place_of_ne empty _ _ _ (size ▸ absent), empty,
      AddressSpace.valueAt_filled, Option.map_none]
  · have found := List.getElem?_eq_getElem last.inside
    have raised := List.getElem?_eq_getElem (size ▸ last).inside
    rw [AddressSpace.valueAt_place_of_lastAt empty last found,
      AddressSpace.valueAt_place_of_lastAt empty (size ▸ last) raised]
    simp only [List.getElem_map, Option.map_some]

end LineMap

/-- A diagnostic of a text in front of which some lines are put. -/
def Diagnostic.raised (diagnostic : Diagnostic) (count : Nat) : Diagnostic :=
  { diagnostic with line := diagnostic.line + count }

namespace Assembly

/-- The bytes of lines behind others come from the same lines, counted on from the others. -/
theorem byteLines_append (first second : List LineOutcome) :
    byteLines (first ++ second) =
      byteLines first ++ (byteLines second).map (· + first.length) := by
  unfold byteLines
  rw [List.zipIdx_append, Nat.zero_add, List.flatMap_append,
    List.zipIdx_eq_map_add (i := first.length), List.flatMap_map, List.map_flatMap]
  simp only [List.map_map, Nat.add_comm first.length]
  rfl

/-- A line behind others is refused with the same text and for the same reason. -/
theorem diagnosticOf_add (text : List Char) (line count : Nat) :
    diagnosticOf text (line + count) = (diagnosticOf text line).map (·.raised count) := by
  unfold diagnosticOf
  cases LineOutcome.ofLine text with
  | rejected reason => rfl
  | _ => rfl

variable (first second : List (List Char)) (origin : Int)

/-- The bytes of lines behind others follow the bytes of the others. -/
theorem data_ofLines_append :
    (ofLines (first ++ second) origin).data =
      (ofLines first origin).data ++ (ofLines second origin).data := by
  rw [data_ofLines, data_ofLines, data_ofLines, List.map_append, List.flatMap_append]

/-- The diagnostics of lines behind others follow those of the others, counted on. -/
theorem diagnostics_ofLines_append :
    (ofLines (first ++ second) origin).diagnostics =
      (ofLines first origin).diagnostics ++
        (ofLines second origin).diagnostics.map (·.raised first.length) := by
  simp only [diagnostics_ofLines]
  rw [List.zipIdx_append, Nat.zero_add, List.filterMap_append,
    List.zipIdx_eq_map_add (i := first.length), List.filterMap_map, List.map_filterMap]
  simp only [Function.comp_def, Nat.add_comm first.length, diagnosticOf_add]

/-- An address belongs to the line of the second text that placed a byte there last, or else to
its line in the first text. -/
theorem lineAt_ofLines_append (address : Int) :
    (ofLines (first ++ second) origin).lineMap.lineAt address =
      (((ofLines second (origin + (ofLines first origin).data.length)).lineMap.lineAt address).map
        (· + first.length)).or ((ofLines first origin).lineMap.lineAt address) := by
  rw [← length_byteLines, lineMap_ofLines, lineMap_ofLines, lineMap_ofLines, List.map_append,
    byteLines_append, List.map_append, AddressSpace.place_append, LineMap.lineAt_place,
    List.length_map, List.length_map, LineMap.lineAt_place_add]

end Assembly

/-- The program of two texts with a line feed between them has the bytes of the first and then
those of the second, assembled for the place behind the first. An address has its line in the
second text, if it has one there, counted on from the lines of the first, and otherwise its line
in the first. The diagnostics are those of the first and then those of the second, of the same
texts and for the same reasons, counted on. -/
theorem assemble_append (first second : String) (origin : Int) :
    let front : Assembly := assemble first origin
    let back : Assembly := assemble second (origin + front.data.length)
    let lines := first.toList.count '\n' + 1
    let whole : Assembly := assemble (first ++ "\n" ++ second) origin
    whole.data = front.data ++ back.data ∧
      (∀ address, whole.lineMap.lineAt address =
        ((back.lineMap.lineAt address).map (· + lines)).or (front.lineMap.lineAt address)) ∧
      whole.diagnostics = front.diagnostics ++ back.diagnostics.map (·.raised lines) ∧
      (whole.origin.toNat : Int) = origin % 65536 := by
  intro front back lines whole
  have joined : whole = Assembly.ofLines (sourceLines first ++ sourceLines second) origin := by
    rw [← sourceLines_append]
    exact assemble_eq_ofLines _ origin
  have inFront : front = Assembly.ofLines (sourceLines first) origin :=
    assemble_eq_ofLines first origin
  have behind : back = Assembly.ofLines (sourceLines second) (origin + front.data.length) :=
    assemble_eq_ofLines second _
  have counted : (sourceLines first).length = lines := length_sourceLines first
  refine ⟨?_, ?_, ?_, toNat_word origin⟩
  · rw [joined, behind, inFront]
    exact Assembly.data_ofLines_append _ _ origin
  · intro address
    rw [joined, behind, inFront, ← counted]
    exact Assembly.lineAt_ofLines_append _ _ origin address
  · rw [joined, behind, inFront, ← counted]
    exact Assembly.diagnostics_ofLines_append _ _ origin

end Z80Monitor
