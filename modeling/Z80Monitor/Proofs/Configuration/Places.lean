import Z80Monitor.Configuration.Document
import Z80Monitor.Proofs.Configuration.Refusal

/-!
# Places of mappings

Configuration data is a mapping, with a mapping for the initial state inside it and one for the
registers inside that. At each of the three places a value that is no mapping is refused where it
counts as present, and the report is that of the place unless something before it is wrong. A value
that does not count as present is not told from an empty mapping: not only nothing, but also false,
zero and the empty text and list are read as if the mapping stood there with no entries.
-/

namespace Z80Monitor

namespace Value

/-- The value at a path of names through nested mappings. -/
def at? (value : Value) : List String → Option Value
  | [] => some value
  | name :: path =>
    value.entries?.bind fun entries => (lookup entries name).bind fun held => held.at? path

/-- Change the value under a name. -/
def changeEntry (name : String) (change : Value → Value) (entries : List (Value × Value)) :
    List (Value × Value) :=
  entries.map fun (key, held) => (key, if key.isText name then change held else held)

/-- Put a value in the place of the one at a path. -/
def put (value : Value) : List String → Value → Value
  | [], new => new
  | name :: path, new =>
    match value.entries? with
    | some entries => .mapping (changeEntry name (fun held => held.put path new) entries)
    | none => value

/-- The first entry with a name counts. -/
theorem lookup_cons (key held : Value) (rest : List (Value × Value)) (name : String) :
    lookup ((key, held) :: rest) name =
      if key.isText name then some held else lookup rest name := by
  cases named : key.isText name with
  | true => simp [lookup, named]
  | false => simp [lookup, named]

/-- The value under the name is changed. -/
theorem lookup_changeEntry_self (name : String) (change : Value → Value)
    (entries : List (Value × Value)) :
    lookup (changeEntry name change entries) name = (lookup entries name).map change := by
  induction entries with
  | nil => rfl
  | cons entry rest ih =>
    obtain ⟨key, held⟩ := entry
    rw [changeEntry, List.map_cons, lookup_cons, lookup_cons]
    split
    · rfl
    · exact ih

/-- A text is no other text. -/
theorem not_isText_of_isText {key : Value} {name other : String} (apart : other ≠ name)
    (named : key.isText other = true) : ¬key.isText name = true := by
  cases key with
  | text text =>
    rw [isText, beq_iff_eq] at named ⊢
    rw [named]
    exact apart
  | _ => cases named

/-- The values under the other names stay. -/
theorem lookup_changeEntry_of_ne {name other : String} (apart : other ≠ name)
    (change : Value → Value) (entries : List (Value × Value)) :
    lookup (changeEntry name change entries) other = lookup entries other := by
  induction entries with
  | nil => rfl
  | cons entry rest ih =>
    obtain ⟨key, held⟩ := entry
    rw [changeEntry, List.map_cons, lookup_cons, lookup_cons]
    split
    · rename_i named
      rw [if_neg (not_isText_of_isText apart named)]
    · exact ih

end Value

namespace Configuration

/-- A place of configuration data where a mapping is expected. -/
inductive Place where
  /-- The data as a whole. -/
  | whole
  /-- The initial state. -/
  | state
  /-- The registers of the initial state. -/
  | registers

/-- The names that lead to a place. -/
def Place.path : Place → List String
  | .whole => []
  | .state => ["initial_state"]
  | .registers => ["initial_state", "registers"]

/-- The report of a value that stands at a place and is no mapping. -/
def Place.refusal : Place → ConfigurationError
  | .whole => .notMapping
  | .state => .stateNotMapping
  | .registers => .registersNotMapping

/-- A document is answered with a result, as data and as a text, whichever reader of YAML the text
is given to. -/
structure Answered (document : Value) (result : Except ConfigurationError Configuration) :
    Prop where
  /-- The contents of a document. -/
  contents : ofDocument document = result
  /-- A text with the contents. -/
  text : ∀ {Fault : Type} (load : String → Except Fault Value) (text : String),
    load text = .ok document → ofTextBy load text = result.mapError .notConfiguration
  /-- The contents as data, if there are any. -/
  value : document.isPresent = true → ofValue document = result

/-- The contents of a document decide how it is answered. -/
theorem answered_of_contents {document : Value} {result : Except ConfigurationError Configuration}
    (contents : ofDocument document = result) : Answered document result where
  contents := contents
  text := by
    intro Fault load text loaded
    rw [ofTextBy, loaded, ← contents]
  value := by
    intro present
    rw [← contents, ofDocument, if_pos present]

/-- Data that is a mapping is read from its entries. -/
theorem ofValue_of_entries {value : Value} {entries : List (Value × Value)}
    (mapping : value.entries? = some entries) : ofValue value = ofEntries entries := by
  rw [ofValue, mapping]

/-- A document that is a mapping is read from its entries. -/
theorem ofDocument_of_entries {document : Value} {entries : List (Value × Value)}
    (mapping : document.entries? = some entries) : ofDocument document = ofEntries entries := by
  rw [ofDocument, ofValue_of_entries mapping]
  split
  · rfl
  · rename_i absent
    cases document with
    | mapping found =>
      obtain rfl := Option.some.inj mapping
      rw [Value.isPresent, Bool.not_eq_true, Bool.not_eq_false', List.isEmpty_iff] at absent
      rw [absent]
    | knot found inside => exact absurd rfl absent
    | _ => cases mapping

/-- Two lists of entries have the same values except for the initial state. -/
def AgreeOutsideState (entries others : List (Value × Value)) : Prop :=
  ∀ name, name ≠ "initial_state" → Value.lookup others name = Value.lookup entries name

/-- A reading of entries is decided by the initial state, unless what stands beside it is wrong
whatever the initial state is. -/
def StateDecides (entries : List (Value × Value))
    (read : List (Value × Value) → Except ConfigurationError Configuration) : Prop :=
  (∃ fault, ∀ others, AgreeOutsideState entries others → read others = .error fault) ∨
    ∃ finish : InitialState → Except ConfigurationError Configuration,
      ∀ others, AgreeOutsideState entries others → read others = readInitialState others >>= finish

/-- A step that does not look at the initial state leaves the decision to the steps behind it. -/
theorem StateDecides.bind {First : Type} {entries : List (Value × Value)}
    {first : List (Value × Value) → Except ConfigurationError First}
    {next : First → List (Value × Value) → Except ConfigurationError Configuration}
    (same : ∀ others, AgreeOutsideState entries others → first others = first entries)
    (decides : ∀ value, StateDecides entries (next value)) :
    StateDecides entries fun others => first others >>= fun value => next value others := by
  cases given : first entries with
  | error fault =>
    refine .inl ⟨fault, fun others agree => ?_⟩
    dsimp only
    rw [same others agree, given]
    rfl
  | ok value =>
    have continued (others : List (Value × Value)) (agree : AgreeOutsideState entries others) :
        (first others >>= fun value => next value others) = next value others := by
      rw [same others agree, given]
      rfl
    obtain ⟨fault, wrong⟩ | ⟨finish, goesOn⟩ := decides value
    · exact .inl ⟨fault, fun others agree => (continued others agree).trans (wrong others agree)⟩
    · exact .inr ⟨finish, fun others agree => (continued others agree).trans (goesOn others agree)⟩

/-- The initial state decides where the steps behind it do not look at it. -/
theorem StateDecides.of_state {entries : List (Value × Value)}
    {finish : List (Value × Value) → InitialState → Except ConfigurationError Configuration}
    (same : ∀ others, AgreeOutsideState entries others → finish others = finish entries) :
    StateDecides entries fun others => readInitialState others >>= finish others :=
  .inr ⟨finish entries, fun others agree => congrArg (readInitialState others >>= ·)
    (same others agree)⟩

/-- A policy is read beside the initial state. -/
theorem readPolicy_congr {entries others : List (Value × Value)}
    (agree : AgreeOutsideState entries others) : readPolicy others = readPolicy entries := by
  rw [readPolicy, agree _ (by decide), readPolicy]

/-- A field is read beside the initial state. -/
theorem readField_congr {entries others : List (Value × Value)} {name : String}
    (same : Value.lookup others name = Value.lookup entries name) (default : Int) :
    readField others name default = readField entries name default := by
  rw [readField, same, readField]

/-- A configuration is decided by the initial state, unless what stands beside it is wrong. -/
theorem stateDecides_ofEntries (entries : List (Value × Value)) :
    StateDecides entries ofEntries := by
  unfold ofEntries
  refine .bind (fun others agree => readPolicy_congr agree) fun policy => ?_
  refine .bind (fun others agree => readField_congr (agree _ (by decide)) 50) fun steps => ?_
  by_cases positive : 0 < steps
  · simp only [dif_pos positive]
    refine .bind (fun others agree => readField_congr (agree _ (by decide)) 64) fun history => ?_
    by_cases negative : history < 0
    · simp only [if_pos negative]
      exact .inl ⟨.historyNegative, fun _ _ => rfl⟩
    · simp only [if_neg negative]
      refine .of_state fun others agree => ?_
      rw [readField_congr (agree "origin" (by decide))]
  · simp only [dif_neg positive]
    exact .inl ⟨.stepsNotPositive, fun _ _ => rfl⟩

section Mapping

variable {entries : List (Value × Value)} {name : String} {held : Value}
  (found : Value.lookup entries name = some held)

include found

/-- A mapping is read as its entries. -/
theorem readMapping_of_entries {inside : List (Value × Value)}
    (mapping : held.entries? = some inside) (wrong : ConfigurationError) :
    readMapping entries name wrong = .ok inside := by
  simp only [readMapping, found, mapping]

/-- A value that is no mapping and counts as present is reported. -/
theorem readMapping_of_present (other : held.entries? = none) (present : held.isPresent = true)
    (wrong : ConfigurationError) : readMapping entries name wrong = .error wrong := by
  simp only [readMapping, found, other, present, if_true]

/-- A value that is no mapping and does not count as present is read as an empty mapping. -/
theorem readMapping_of_absent (other : held.entries? = none) (absent : held.isPresent = false)
    (wrong : ConfigurationError) : readMapping entries name wrong = .ok [] := by
  simp only [readMapping, found, other, absent, Bool.false_eq_true, if_false]

end Mapping

/-- A change of the initial state is one. -/
theorem agreeOutsideState_changeEntry (change : Value → Value) (entries : List (Value × Value)) :
    AgreeOutsideState entries (Value.changeEntry "initial_state" change entries) :=
  fun _ apart => Value.lookup_changeEntry_of_ne apart change entries

/-- An initial state is read from its mapping, and its registers from theirs. -/
theorem readInitialState_congr {entries others : List (Value × Value)}
    {state otherState : List (Value × Value)}
    (stateRead : readMapping entries "initial_state" .stateNotMapping = .ok state)
    (otherRead : readMapping others "initial_state" .stateNotMapping = .ok otherState)
    (registers : readMapping otherState "registers" .registersNotMapping =
      readMapping state "registers" .registersNotMapping)
    (counters : ∀ name, name ≠ "registers" →
      Value.lookup otherState name = Value.lookup state name) :
    readInitialState others = readInitialState entries := by
  rw [readInitialState, readInitialState, stateRead, otherRead]
  change (readMapping otherState "registers" _ >>= _) = readMapping state "registers" _ >>= _
  rw [registers, readField_congr (counters "pc" (by decide)),
    readField_congr (counters "sp" (by decide))]

/-- A document whose initial state is refused is refused with the same report, unless something
beside the initial state is wrong, whatever the initial state is. -/
theorem refused_of_state {document : Value} {entries : List (Value × Value)}
    (mapping : document.entries? = some entries) {refusal : ConfigurationError}
    (refused : readInitialState entries = .error refusal) :
    ∃ fault, ofDocument document = .error fault ∧ (fault = refusal ∨ ∀ change,
      ofDocument (.mapping (Value.changeEntry "initial_state" change entries)) =
        .error fault) := by
  have unchanged : AgreeOutsideState entries entries := fun _ _ => rfl
  rw [ofDocument_of_entries mapping]
  obtain ⟨fault, wrong⟩ | ⟨finish, goesOn⟩ := stateDecides_ofEntries entries
  · refine ⟨fault, wrong entries unchanged, .inr fun change => ?_⟩
    rw [ofDocument_of_entries rfl]
    exact wrong _ (agreeOutsideState_changeEntry change entries)
  · refine ⟨refusal, ?_, .inl rfl⟩
    rw [goesOn entries unchanged, refused]
    rfl

/-- A document is read as another one where only the initial states differ and both are read as
the same. -/
theorem ofDocument_changeEntry {document : Value} {entries : List (Value × Value)}
    (mapping : document.entries? = some entries) {change : Value → Value}
    (same : readInitialState (Value.changeEntry "initial_state" change entries) =
      readInitialState entries) :
    ofDocument document =
      ofDocument (.mapping (Value.changeEntry "initial_state" change entries)) := by
  have unchanged : AgreeOutsideState entries entries := fun _ _ => rfl
  have changed := agreeOutsideState_changeEntry change entries
  rw [ofDocument_of_entries mapping, ofDocument_of_entries rfl]
  obtain ⟨fault, wrong⟩ | ⟨finish, goesOn⟩ := stateDecides_ofEntries entries
  · rw [wrong entries unchanged, wrong _ changed]
  · rw [goesOn entries unchanged, goesOn _ changed, same]

/-- An initial state that is no mapping is refused, or read as an empty mapping. -/
theorem readInitialState_of_state {entries : List (Value × Value)} {value : Value}
    (found : Value.lookup entries "initial_state" = some value) (other : value.entries? = none) :
    (value.isPresent = true → readInitialState entries = .error .stateNotMapping) ∧
    (value.isPresent = false →
      readInitialState (Value.changeEntry "initial_state" (fun _ => .mapping []) entries) =
        readInitialState entries) := by
  constructor
  · intro present
    rw [readInitialState, readMapping_of_present found other present]
    rfl
  · intro absent
    have changed : Value.lookup (Value.changeEntry "initial_state" (fun _ => .mapping []) entries)
        "initial_state" = some (.mapping []) := by
      rw [Value.lookup_changeEntry_self, found]
      rfl
    exact readInitialState_congr (readMapping_of_absent found other absent _)
      (readMapping_of_entries changed rfl _) rfl fun _ _ => rfl

/-- Registers that are no mapping are refused, or read as an empty mapping. -/
theorem readInitialState_of_registers {entries state : List (Value × Value)} {held value : Value}
    (found : Value.lookup entries "initial_state" = some held)
    (mapping : held.entries? = some state) (inside : Value.lookup state "registers" = some value)
    (other : value.entries? = none) :
    (value.isPresent = true → readInitialState entries = .error .registersNotMapping) ∧
    (value.isPresent = false →
      readInitialState (Value.changeEntry "initial_state"
        (fun held => held.put ["registers"] (.mapping [])) entries) =
        readInitialState entries) := by
  have stateRead := readMapping_of_entries found mapping .stateNotMapping
  constructor
  · intro present
    rw [readInitialState, stateRead]
    change (readMapping state "registers" _ >>= _) = _
    rw [readMapping_of_present inside other present]
    rfl
  · intro absent
    let emptied := Value.changeEntry "registers" (fun _ => .mapping []) state
    have changed : Value.lookup (Value.changeEntry "initial_state"
        (fun held => held.put ["registers"] (.mapping [])) entries) "initial_state" =
          some (.mapping emptied) := by
      rw [Value.lookup_changeEntry_self, found, Option.map_some, Value.put, mapping]
      rfl
    have emptiedInside : Value.lookup emptied "registers" = some (.mapping []) := by
      rw [Value.lookup_changeEntry_self, inside]
      rfl
    refine readInitialState_congr stateRead (readMapping_of_entries changed rfl _) ?_ ?_
    · rw [readMapping_of_absent inside other absent, readMapping_of_entries emptiedInside rfl]
    · exact fun _ apart => Value.lookup_changeEntry_of_ne apart _ state

/-- How a document is answered that has a value at a path where a mapping is expected. -/
structure RefusedOrEmptied (document value : Value) (path : List String)
    (refusal : ConfigurationError) : Prop where
  /-- A value that counts as present is refused. The report is that of the place, or one that does
  not depend on what stands at the place inside the document. In plain data the report is missing
  only because of a misfit with an integer that is too long. -/
  refused : value.isPresent = true → ∃ fault, Answered document (.error fault) ∧
    (fault = refusal ∨ path ≠ [] ∧ ∀ new, Answered (document.put path new) (.error fault)) ∧
    (document.Plain → fault = .integerTooLong →
      ∃ entries part, document = .mapping entries ∧ Misfit entries part ∧ ¬part.Short)
  /-- A value that does not count as present is read as an empty mapping. -/
  emptied : value.isPresent = false →
    Answered document (ofDocument (document.put path (.mapping [])))

/-- What a value is taken for in an initial state, it is taken for in the document. -/
theorem refusedOrEmptied_of_state {document value : Value} {entries : List (Value × Value)}
    {path : List String} {refusal : ConfigurationError}
    (mapping : document.entries? = some entries)
    (refused : value.isPresent = true → readInitialState entries = .error refusal)
    (emptied : value.isPresent = false →
      readInitialState (Value.changeEntry "initial_state"
        (fun held => held.put path (.mapping [])) entries) = readInitialState entries) :
    RefusedOrEmptied document value ("initial_state" :: path) refusal := by
  have changed (new : Value) : document.put ("initial_state" :: path) new =
      .mapping (Value.changeEntry "initial_state" (fun held => held.put path new) entries) := by
    rw [Value.put, mapping]
  constructor
  · intro present
    obtain ⟨fault, read, reported⟩ := refused_of_state mapping (refused present)
    refine ⟨fault, answered_of_contents read, reported.imp_right fun wrong => ⟨?_, ?_⟩, ?_⟩
    · exact List.cons_ne_nil _ _
    · intro new
      rw [changed]
      exact answered_of_contents (wrong _)
    · rintro plain rfl
      rw [ofDocument_of_entries mapping, ← ofValue_of_entries mapping] at read
      exact untold_ofValue plain read
  · intro absent
    rw [changed]
    exact answered_of_contents (ofDocument_changeEntry mapping (emptied absent))

/-- Where a mapping is expected, at any of the three places, a value that is no mapping is refused
if it counts as present, and is read as an empty mapping if it does not. -/
theorem answered_of_no_mapping {place : Place} {document value : Value}
    (found : document.at? place.path = some value) (other : value.entries? = none) :
    RefusedOrEmptied document value place.path place.refusal := by
  cases place with
  | whole =>
    obtain rfl := Option.some.inj found
    constructor
    · intro present
      have read : ofDocument document = .error .notMapping := by
        rw [ofDocument, if_pos present, ofValue, other]
      exact ⟨_, answered_of_contents read, .inl rfl, fun _ untold => by cases untold⟩
    · intro absent
      refine answered_of_contents ?_
      rw [ofDocument, if_neg (Bool.eq_false_iff.mp absent)]
      rfl
  | state =>
    obtain ⟨entries, mapping, listed⟩ := Option.bind_eq_some_iff.mp found
    obtain ⟨_, present, same⟩ := Option.bind_eq_some_iff.mp listed
    obtain rfl := Option.some.inj same
    obtain ⟨refused, emptied⟩ := readInitialState_of_state present other
    exact refusedOrEmptied_of_state mapping refused emptied
  | registers =>
    obtain ⟨entries, mapping, listed⟩ := Option.bind_eq_some_iff.mp found
    obtain ⟨held, stateFound, inside⟩ := Option.bind_eq_some_iff.mp listed
    obtain ⟨state, stateMapping, listedInside⟩ := Option.bind_eq_some_iff.mp inside
    obtain ⟨_, present, same⟩ := Option.bind_eq_some_iff.mp listedInside
    obtain rfl := Option.some.inj same
    obtain ⟨refused, emptied⟩ :=
      readInitialState_of_registers stateFound stateMapping present other
    exact refusedOrEmptied_of_state mapping refused emptied

/-- A list in the place of the registers is refused. -/
theorem answered_of_no_mapping_list :
    let value : Value := .list [.text "a"]
    let document : Value :=
      .mapping [(.text "initial_state", .mapping [(.text "registers", value)])]
    document.at? Place.registers.path = some value ∧ value.entries? = none ∧
      value.isPresent = true ∧
      RefusedOrEmptied document value Place.registers.path .registersNotMapping ∧
      Answered document (.error .registersNotMapping) := by
  intro value document
  exact ⟨rfl, rfl, rfl, @answered_of_no_mapping .registers document value rfl rfl,
    answered_of_contents rfl⟩

/-- Zero in the place of the initial state, false in the place of the registers, and an empty list
as a whole text are taken for mappings. -/
theorem falsy_values_accepted :
    ofValue (.mapping [(.text "initial_state", .integer 0)]) = .ok {} ∧
    ofValue (.mapping [(.text "initial_state", .mapping [(.text "registers", .truth false)])]) =
      .ok {} ∧
    (ofText "[]").toOption = some {} :=
  ⟨rfl, rfl, by decide +kernel⟩

end Configuration

end Z80Monitor
