import Mathlib.Algebra.Group.Int.Defs
import Mathlib.Algebra.Group.Nat.Defs
import Z80Monitor.Proofs.Configuration.Acceptance
import Z80Monitor.Proofs.Register.Writing

/-!
# Configuration data as descriptions

What single values of configuration data stand for, said without reading them: a value spells a name
in any case, and at most one, or it denotes an integer or the value of a register. A value whose
integers are short enough to be written has a text, by itself and inside another value, and this
text is what a refusal of the value reports.
-/

namespace Z80Monitor

/-! ## What a value stands for -/

namespace Value

/-- A value is a tree of nothing, truth values, numbers, texts, lists and mappings, and its integers
are admitted. -/
inductive IsTree (admitted : Int → Prop) : Value → Prop where
  /-- Nothing. -/
  | null : IsTree admitted .null
  /-- A truth value. -/
  | truth (value : Bool) : IsTree admitted (.truth value)
  /-- An integer that is admitted. -/
  | integer (value : Int) (inside : admitted value) : IsTree admitted (.integer value)
  /-- A floating-point number. -/
  | real (value : Binary64) : IsTree admitted (.real value)
  /-- A text. -/
  | text (value : String) : IsTree admitted (.text value)
  /-- A list of such values. -/
  | list (values : List Value) (members : ∀ value ∈ values, IsTree admitted value) :
    IsTree admitted (.list values)
  /-- A mapping of such keys to such values. -/
  | mapping (entries : List (Value × Value)) (keys : ∀ entry ∈ entries, IsTree admitted entry.1)
    (values : ∀ entry ∈ entries, IsTree admitted entry.2) : IsTree admitted (.mapping entries)

/-- A value of plain data, with integers of any size. -/
def Plain (value : Value) : Prop := value.IsTree fun _ => True

/-- A value of plain data, each of whose integers has no more digits than can be written. -/
def Short (value : Value) : Prop :=
  value.IsTree fun number => number.natAbs < 10 ^ Text.decimalDigitLimit

/-- The text of a value is a name, in any case. -/
def Spells (value : Value) (name : String) : Prop :=
  ∃ text, value.display = some text ∧ Text.lowerPoints text = Text.points name.toList

/-- A value stands for an integer: it is the integer, or a text that denotes it, in base 16 behind
the mark `0x` and in base 10 without it. -/
inductive Denotes : Value → Int → Prop where
  /-- An integer stands for itself. -/
  | integer (number : Int) : Denotes (.integer number) number
  /-- A numeral in base 16. -/
  | hexadecimal {text : String} {number : Int}
    (marked : ['0', 'x'] <+: text.toList ∨ ['0', 'X'] <+: text.toList)
    (read : Text.readInteger .hexadecimal text.toList = some number) : Denotes (.text text) number
  /-- A numeral in base 10. -/
  | decimal {text : String} {number : Int}
    (unmarked : ¬(['0', 'x'] <+: text.toList ∨ ['0', 'X'] <+: text.toList))
    (read : Text.readInteger .decimal text.toList = some number) : Denotes (.text text) number

/-- A value stands for the value of a register: a truth value, or an integer. -/
inductive Holds : Value → RegisterValue → Prop where
  /-- A truth value stands for itself. -/
  | truth (value : Bool) : Holds (.truth value) (.truth value)
  /-- An integer, or a text that denotes it. -/
  | number {value : Value} {number : Int} (denotes : value.Denotes number) :
    Holds value (.number number)

end Value

/-- A text begins with the mark `0x` in either case. -/
theorem Text.startsWithMark_iff {text : List Char} :
    Text.startsWithMark text = true ↔ ['0', 'x'] <+: text ∨ ['0', 'X'] <+: text := by
  unfold Text.startsWithMark
  split
  · rename_i mark rest
    rw [Bool.or_eq_true, beq_iff_eq, beq_iff_eq]
    simp [List.cons_prefix_cons, eq_comm]
  · rename_i other
    refine iff_of_false Bool.false_ne_true ?_
    rintro (⟨rest, rfl⟩ | ⟨rest, rfl⟩)
    · exact other 'x' rest rfl
    · exact other 'X' rest rfl

/-- A text without surrogates is made of its characters. -/
theorem Text.characters?_eq_some_iff {text : List Text.CodePoint} {characters : List Char} :
    Text.characters? text = some characters ↔ text = Text.points characters := by
  constructor
  · intro read
    induction text generalizing characters with
    | nil =>
      obtain rfl := Option.some.inj read
      rfl
    | cons point rest ih =>
      rw [Text.characters?, List.mapM_cons] at read
      obtain ⟨first, same, read⟩ := Option.bind_eq_some_iff.mp read
      obtain ⟨others, restRead, made⟩ := Option.bind_eq_some_iff.mp read
      obtain rfl := Option.some.inj made
      cases point with
      | char value =>
        obtain rfl := Option.some.inj same
        rw [ih restRead]
        rfl
      | surrogate index => cases same
  · rintro rfl
    exact Text.characters?_points characters

/-- A text is looked up among names exactly where it is the name. -/
theorem Text.bind_characters?_eq_some_iff {Item : Type} {find : String → Option Item}
    {name : Item → String} (found : ∀ {text item}, find text = some item ↔ name item = text)
    {text : List Text.CodePoint} {item : Item} :
    ((Text.characters? text).bind fun characters => find (String.ofList characters)) = some item ↔
      text = Text.points (name item).toList := by
  rw [Option.bind_eq_some_iff]
  constructor
  · rintro ⟨characters, read, same⟩
    rw [found.mp same, String.toList_ofList]
    exact Text.characters?_eq_some_iff.mp read
  · rintro rfl
    exact ⟨_, Text.characters?_points _, found.mpr String.ofList_toList.symm⟩

/-- A policy is the one that is found under a name exactly where it has the name. -/
theorem UnimplementedPolicy.ofName?_eq_some_iff {name : String} {policy : UnimplementedPolicy} :
    UnimplementedPolicy.ofName? name = some policy ↔ policy.name = name := by
  constructor
  · intro found
    have named := List.find?_some found
    exact beq_iff_eq.mp named
  · rintro rfl
    cases policy <;> rfl

namespace Value

/-- A value does not spell two names. -/
theorem Spells.unique {value : Value} {first second : String} (spells : value.Spells first)
    (other : value.Spells second) : first = second := by
  obtain ⟨text, shown, lower⟩ := spells
  obtain ⟨_, shownAgain, lowerAgain⟩ := other
  obtain rfl := Option.some.inj (shown.symm.trans shownAgain)
  have same := congrArg Text.characters? (lower.symm.trans lowerAgain)
  rw [Text.characters?_points, Text.characters?_points, Option.some.injEq] at same
  exact String.toList_inj.mp same

/-- The texts of members are written where each member's text is. -/
theorem isSome_literals {values : List Value} (written : ∀ value ∈ values, value.literal.isSome) :
    (literals values).isSome := by
  induction values with
  | nil => rfl
  | cons value rest ih =>
    obtain ⟨first, others⟩ := List.forall_mem_cons.mp written
    obtain ⟨text, shown⟩ := Option.isSome_iff_exists.mp first
    obtain ⟨behind, shownBehind⟩ := Option.isSome_iff_exists.mp (ih others)
    cases rest with
    | nil => exact first
    | cons next rest => simp [literals, shown, shownBehind]

/-- The texts of entries are written where the text of each key and of each value is. -/
theorem isSome_entryLiterals {entries : List (Value × Value)}
    (keys : ∀ entry ∈ entries, entry.1.literal.isSome)
    (values : ∀ entry ∈ entries, entry.2.literal.isSome) : (entryLiterals entries).isSome := by
  induction entries with
  | nil => rfl
  | cons entry rest ih =>
    obtain ⟨key, value⟩ := entry
    obtain ⟨firstKey, otherKeys⟩ := List.forall_mem_cons.mp keys
    obtain ⟨firstValue, otherValues⟩ := List.forall_mem_cons.mp values
    obtain ⟨keyText, keyShown⟩ := Option.isSome_iff_exists.mp firstKey
    obtain ⟨valueText, valueShown⟩ := Option.isSome_iff_exists.mp firstValue
    obtain ⟨behind, shownBehind⟩ := Option.isSome_iff_exists.mp (ih otherKeys otherValues)
    cases rest with
    | nil => simp [entryLiterals, keyShown, valueShown]
    | cons next rest => simp [entryLiterals, keyShown, valueShown, shownBehind]

/-- An integer has a text exactly where it has no more digits than can be written. -/
theorem integerText?_eq_none_iff {number : Int} :
    integerText? number = none ↔ 10 ^ Text.decimalDigitLimit ≤ number.natAbs := by
  have counted : (Nat.toDigits 10 number.natAbs).length ≤ Text.decimalDigitLimit ↔
      number.natAbs < 10 ^ Text.decimalDigitLimit :=
    Nat.length_toDigits_le_iff (by decide) (by decide)
  rw [← Nat.not_lt, ← counted, Nat.not_le]
  unfold integerText?
  dsimp only
  split
  · rename_i long
    exact iff_of_true rfl long
  · rename_i short
    exact iff_of_false nofun short

/-- A value of plain data with short integers has a text inside another one. -/
theorem Short.isSome_literal {value : Value} (short : value.Short) : value.literal.isSome := by
  induction short with
  | null => rfl
  | truth value => rfl
  | integer value inside =>
    rw [literal, Option.isSome_iff_ne_none, ne_eq, integerText?_eq_none_iff]
    exact Nat.not_le.mpr inside
  | real value => rfl
  | text value => rfl
  | list values members ih =>
    obtain ⟨text, shown⟩ := Option.isSome_iff_exists.mp (isSome_literals ih)
    simp [literal, shown]
  | mapping entries keys values keyTexts valueTexts =>
    obtain ⟨text, shown⟩ := Option.isSome_iff_exists.mp (isSome_entryLiterals keyTexts valueTexts)
    simp [literal, shown]

/-- A value of plain data that has a text by itself has one inside another value. -/
theorem Plain.isSome_literal_of_display {value : Value} (plain : value.Plain)
    (shown : value.display.isSome) : value.literal.isSome := by
  cases plain with
  | text value => rfl
  | _ => exact (Option.isSome_map ..).symm.trans shown

/-- A value of plain data with short integers has a text. -/
theorem Short.isSome_display {value : Value} (short : value.Short) : value.display.isSome := by
  have written := short.isSome_literal
  cases short with
  | text value => rfl
  | _ => exact (Option.isSome_map ..).trans written

/-- A mapping of plain data has plain keys and values. -/
theorem IsTree.entries {admitted : Int → Prop} {value : Value} (tree : value.IsTree admitted)
    {entries : List (Value × Value)} (mapping : value.entries? = some entries) :
    value = .mapping entries ∧ (∀ entry ∈ entries, entry.1.IsTree admitted) ∧
      ∀ entry ∈ entries, entry.2.IsTree admitted := by
  cases tree with
  | mapping entries keys values =>
    obtain rfl := Option.some.inj mapping
    exact ⟨rfl, keys, values⟩
  | _ => cases mapping

/-- What is found under a name is the value of an entry. -/
theorem exists_mem_of_lookup {entries : List (Value × Value)} {name : String} {value : Value}
    (found : lookup entries name = some value) : ∃ key, (key, value) ∈ entries := by
  obtain ⟨⟨key, _⟩, first, rfl⟩ := Option.map_eq_some_iff.mp found
  exact ⟨key, List.mem_of_find?_eq_some first⟩

end Value

end Z80Monitor
