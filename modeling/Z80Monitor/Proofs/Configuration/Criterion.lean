import Z80Monitor.Proofs.Configuration.Description

/-!
# Which data is a configuration

The entries of a mapping are acceptable where each part that is given stands for what the part has
to be, and they describe a configuration where its fields are what the parts stand for, with the
defaults for parts that are not given. Keys of registers are told apart by the register that they
spell, in any case, and of several entries for one register the last counts. Reading accepts exactly
the acceptable entries and gives the configuration that they describe.
-/

namespace Z80Monitor.Configuration

/-- An integer is the one under a name, or the default where there is no such entry. -/
def Field (entries : List (Value × Value)) (name : String) (default number : Int) : Prop :=
  match Value.lookup entries name with
  | none => number = default
  | some value => value.Denotes number

/-- Entries are those of the mapping under a name, or none where there is no such entry or an absent
value. -/
def Part (entries : List (Value × Value)) (name : String) (found : List (Value × Value)) : Prop :=
  match Value.lookup entries name with
  | none => found = []
  | some value =>
    match value.entries? with
    | some inside => found = inside
    | none => value.isPresent = false ∧ found = []

/-- A policy is the one that is spelled under its name, or to go on where there is no such entry. -/
def Policy (entries : List (Value × Value)) (policy : UnimplementedPolicy) : Prop :=
  match Value.lookup entries "on_unimplemented" with
  | none => policy = .proceed
  | some value => value.Spells policy.name

/-- A register value is that of the last entry whose key spells the register. -/
def Latest (entries : List (Value × Value)) (register : Register) (held : RegisterValue) : Prop :=
  ∃ before key value after, entries = before ++ (key, value) :: after ∧
    key.Spells register.name ∧ value.Holds held ∧ ∀ later ∈ after, ¬later.1.Spells register.name

/-- The entries of a mapping that is a configuration. -/
structure Acceptable (entries : List (Value × Value)) : Prop where
  /-- The policy is one of the three. -/
  policy : ∃ policy, Policy entries policy
  /-- The steps of a run are a positive integer. -/
  steps : ∃ number, Field entries "steps_per_tick" 50 number ∧ 0 < number
  /-- The history limit is an integer that is not negative. -/
  history : ∃ number, Field entries "history_limit" 64 number ∧ 0 ≤ number
  /-- The origin is an integer. -/
  origin : ∃ number, Field entries "origin" 0 number
  /-- The initial state is a mapping or absent, and so are its registers. The counters are integers,
  each key of the registers spells a register, and each value stands for that of a register. -/
  state : ∃ state values, Part entries "initial_state" state ∧ Part state "registers" values ∧
    (∃ number, Field state "pc" 0 number) ∧ (∃ number, Field state "sp" 0xFFFF number) ∧
    ∀ entry ∈ values, (∃ register : Register, entry.1.Spells register.name) ∧
      ∃ held, entry.2.Holds held

/-- What a configuration has to be that the entries of a mapping describe. -/
structure Describes (entries : List (Value × Value)) (configuration : Configuration) : Prop where
  /-- The policy is the one given. -/
  policy : Policy entries configuration.onUnimplemented
  /-- The steps of a run are those given. -/
  steps : Field entries "steps_per_tick" 50 configuration.stepsPerTick
  /-- The history limit is the one given. -/
  history : Field entries "history_limit" 64 configuration.historyLimit
  /-- The origin is the one given. -/
  origin : Field entries "origin" 0 configuration.origin
  /-- The counters are those given, no register has two values, and the value of a register is that
  of the last entry for it. -/
  state : ∃ state values, Part entries "initial_state" state ∧ Part state "registers" values ∧
    Field state "pc" 0 configuration.initialState.pc ∧
    Field state "sp" 0xFFFF configuration.initialState.sp ∧
    (configuration.initialState.registers.map Prod.fst).Nodup ∧
    ∀ register held, (register, held) ∈ configuration.initialState.registers ↔
      Latest values register held

/-- Two results are equal where their values are. -/
theorem ok_eq_ok_iff {Fault Result : Type} {first second : Result} :
    (Except.ok first : Except Fault Result) = .ok second ↔ second = first := by
  rw [Except.ok.injEq, eq_comm]

/-- An integer is read from a value that stands for it. -/
theorem readInteger_eq_ok_iff {value : Value} {number : Int} :
    readInteger value = .ok number ↔ value.Denotes number := by
  constructor
  · intro read
    unfold readInteger at read
    split at read
    · obtain rfl := Except.ok.inj read
      exact .integer _
    · rename_i text
      split at read
      · rename_i found given
        obtain rfl := Except.ok.inj read
        unfold Text.readMarkedInteger at given
        split at given
        · rename_i marked
          exact .hexadecimal (Text.startsWithMark_iff.mp marked) given
        · rename_i unmarked
          exact .decimal (fun marked => unmarked (Text.startsWithMark_iff.mpr marked)) given
      · cases read
    · cases read
  · intro denotes
    cases denotes with
    | integer => rfl
    | hexadecimal marked given =>
      rw [readInteger, Text.readMarkedInteger, if_pos (Text.startsWithMark_iff.mpr marked), given]
    | decimal unmarked given =>
      have plain := fun mark => unmarked (Text.startsWithMark_iff.mp mark)
      rw [readInteger, Text.readMarkedInteger, if_neg plain, given]

/-- A field is read where it is an integer. -/
theorem readField_eq_ok_iff {entries : List (Value × Value)} {name : String}
    {default number : Int} :
    readField entries name default = .ok number ↔ Field entries name default number := by
  unfold readField Field
  cases Value.lookup entries name with
  | none => exact ok_eq_ok_iff
  | some value => exact readInteger_eq_ok_iff

/-- A mapping is read where it is one or absent. -/
theorem readMapping_eq_ok_iff {entries found : List (Value × Value)} {name : String}
    {wrong : ConfigurationError} :
    readMapping entries name wrong = .ok found ↔ Part entries name found := by
  unfold readMapping Part
  cases Value.lookup entries name with
  | none => exact ok_eq_ok_iff
  | some value =>
    dsimp only
    cases value.entries? with
    | some inside => exact ok_eq_ok_iff
    | none =>
      dsimp only
      cases value.isPresent with
      | true => exact iff_of_false nofun fun absent => nomatch absent.1
      | false => exact ok_eq_ok_iff.trans (and_iff_right rfl).symm

/-- A policy is read where it is spelled. -/
theorem readPolicy_eq_ok_iff {entries : List (Value × Value)} {policy : UnimplementedPolicy} :
    readPolicy entries = .ok policy ↔ Policy entries policy := by
  unfold readPolicy Policy
  cases Value.lookup entries "on_unimplemented" with
  | none => exact ok_eq_ok_iff
  | some value =>
    dsimp only
    unfold Value.Spells
    cases value.display with
    | none => exact iff_of_false nofun fun ⟨_, absent, _⟩ => nomatch absent
    | some text =>
      simp only [Option.some.injEq, exists_eq_left',
        ← Text.bind_characters?_eq_some_iff UnimplementedPolicy.ofName?_eq_some_iff]
      cases (Text.characters? (Text.lowerPoints text)).bind fun name =>
          UnimplementedPolicy.ofName? (String.ofList name) with
      | none => exact iff_of_false nofun nofun
      | some found => exact ok_eq_ok_iff.trans (Option.some.injEq .. ▸ eq_comm)

/-- A key of plain data is read as the register that it spells. -/
theorem registerOf_eq_ok_iff {key : Value} (plain : key.Plain) {register : Register} :
    registerOf key = .ok register ↔ key.Spells register.name := by
  unfold registerOf Value.Spells
  cases shown : key.display with
  | none => exact iff_of_false nofun fun ⟨_, absent, _⟩ => nomatch absent
  | some text =>
    have written := plain.isSome_literal_of_display (Option.isSome_of_mem shown)
    obtain ⟨name, written⟩ := Option.isSome_iff_exists.mp written
    simp only [written, Option.some.injEq, exists_eq_left',
      ← Text.bind_characters?_eq_some_iff Register.ofName?_eq_some_iff]
    cases (Text.characters? (Text.lowerPoints text)).bind fun name =>
        Register.ofName? (String.ofList name) with
    | none => exact iff_of_false nofun nofun
    | some found => exact ok_eq_ok_iff.trans (Option.some.injEq .. ▸ eq_comm)

/-- The value of a register is read from a value that stands for it. -/
theorem readRegisterValue_eq_ok_iff {value : Value} {held : RegisterValue} :
    readRegisterValue value = .ok held ↔ value.Holds held := by
  unfold readRegisterValue
  split
  · rename_i truth
    constructor
    · intro read
      obtain rfl := Except.ok.inj read
      exact .truth truth
    · intro holds
      cases holds with
      | truth => rfl
      | number denotes => cases denotes
  · rename_i other
    constructor
    · intro read
      cases given : readInteger value with
      | error fault =>
        rw [given] at read
        cases read
      | ok number =>
        rw [given] at read
        obtain rfl := Except.ok.inj read
        exact .number (readInteger_eq_ok_iff.mp given)
    · intro holds
      cases holds with
      | truth truth => exact absurd rfl (other truth)
      | number denotes => rw [readInteger_eq_ok_iff.mpr denotes]; rfl

/-- The values of registers are read one after the other. -/
theorem readRegisters_cons_eq_ok_iff {key value : Value} {rest : List (Value × Value)}
    {found registers : List (Register × RegisterValue)} (plain : key.Plain) :
    readRegisters ((key, value) :: rest) found = .ok registers ↔
      ∃ register held, key.Spells register.name ∧ value.Holds held ∧
        readRegisters rest (insertRegister register held found) = .ok registers := by
  rw [readRegisters, bind_eq_ok_iff]
  simp only [bind_eq_ok_iff, registerOf_eq_ok_iff plain, readRegisterValue_eq_ok_iff]
  constructor
  · rintro ⟨register, spells, held, holds, read⟩
    exact ⟨register, held, spells, holds, read⟩
  · rintro ⟨register, held, spells, holds, read⟩
    exact ⟨register, spells, held, holds, read⟩

/-- The values of registers are read where each key spells a register and each value stands for that
of a register. -/
theorem exists_readRegisters_iff {entries : List (Value × Value)}
    (plain : ∀ entry ∈ entries, entry.1.Plain) (found : List (Register × RegisterValue)) :
    (∃ registers, readRegisters entries found = .ok registers) ↔
      ∀ entry ∈ entries, (∃ register : Register, entry.1.Spells register.name) ∧
        ∃ held, entry.2.Holds held := by
  induction entries generalizing found with
  | nil => exact iff_of_true ⟨found, rfl⟩ nofun
  | cons entry rest ih =>
    obtain ⟨plainKey, plainRest⟩ := List.forall_mem_cons.mp plain
    rw [List.forall_mem_cons]
    constructor
    · rintro ⟨registers, read⟩
      obtain ⟨register, held, spells, holds, read⟩ :=
        (readRegisters_cons_eq_ok_iff plainKey).mp read
      exact ⟨⟨⟨register, spells⟩, held, holds⟩, (ih plainRest _).mp ⟨registers, read⟩⟩
    · rintro ⟨⟨⟨register, spells⟩, held, holds⟩, others⟩
      obtain ⟨registers, read⟩ :=
        (ih plainRest (insertRegister register held found)).mpr others
      exact ⟨registers, (readRegisters_cons_eq_ok_iff plainKey).mpr
        ⟨register, held, spells, holds, read⟩⟩

/-- Behind a value that is put in, its register has this value and the others have theirs. -/
theorem mem_insertRegister_iff {found : List (Register × RegisterValue)}
    (distinct : (found.map Prod.fst).Nodup) {put register : Register} {value held : RegisterValue} :
    (register, held) ∈ insertRegister put value found ↔
      (register = put ∧ held = value) ∨ (register ≠ put ∧ (register, held) ∈ found) := by
  induction found with
  | nil => simp [insertRegister]
  | cons entry rest ih =>
    obtain ⟨present, old⟩ := entry
    obtain ⟨once, distinctRest⟩ := List.nodup_cons.mp distinct
    rw [insertRegister]
    by_cases same : present = put
    · subst same
      have absent (inside : (register, held) ∈ rest) : register ≠ present := by
        rintro rfl
        exact once (List.mem_map.mpr ⟨_, inside, rfl⟩)
      rw [if_pos rfl, List.mem_cons, List.mem_cons, Prod.mk.injEq, Prod.mk.injEq]
      constructor
      · rintro (new | kept)
        · exact .inl new
        · exact .inr ⟨absent kept, .inr kept⟩
      · rintro (new | ⟨apart, old | kept⟩)
        · exact .inl new
        · exact absurd old.1 apart
        · exact .inr kept
    · rw [if_neg same, List.mem_cons, List.mem_cons, ih distinctRest, Prod.mk.injEq]
      constructor
      · rintro (⟨rfl, rfl⟩ | new | ⟨apart, kept⟩)
        · exact .inr ⟨same, .inl ⟨rfl, rfl⟩⟩
        · exact .inl new
        · exact .inr ⟨apart, .inr kept⟩
      · rintro (new | ⟨apart, front | kept⟩)
        · exact .inr (.inl new)
        · exact .inl front
        · exact .inr (.inr ⟨apart, kept⟩)

/-- The last entry for a register is one of the later entries, or the first one where no later one
is for the register. -/
theorem latest_cons_iff {key value : Value} {rest : List (Value × Value)} {register : Register}
    {held : RegisterValue} :
    Latest ((key, value) :: rest) register held ↔
      Latest rest register held ∨
        key.Spells register.name ∧ value.Holds held ∧
          ∀ later ∈ rest, ¬later.1.Spells register.name := by
  constructor
  · rintro ⟨before, lastKey, lastValue, after, split, spells, holds, last⟩
    cases before with
    | nil =>
      obtain ⟨⟨rfl, rfl⟩, rfl⟩ := List.cons.inj split |>.imp_left Prod.mk.inj
      exact .inr ⟨spells, holds, last⟩
    | cons entry before =>
      obtain ⟨rfl, rfl⟩ := List.cons.inj split
      exact .inl ⟨before, lastKey, lastValue, after, rfl, spells, holds, last⟩
  · rintro (⟨before, lastKey, lastValue, after, rfl, spells, holds, last⟩ | ⟨spells, holds, last⟩)
    · exact ⟨(key, value) :: before, lastKey, lastValue, after, rfl, spells, holds, last⟩
    · exact ⟨[], key, value, rest, rfl, spells, holds, last⟩

/-- The value that is read for a register is that of the last entry for it, or the one that was
found before where no entry is for the register. -/
theorem mem_readRegisters_iff {entries : List (Value × Value)}
    (plain : ∀ entry ∈ entries, entry.1.Plain) {found registers : List (Register × RegisterValue)}
    (distinct : (found.map Prod.fst).Nodup)
    (read : readRegisters entries found = .ok registers) {register : Register}
    {held : RegisterValue} :
    (register, held) ∈ registers ↔
      Latest entries register held ∨
        (∀ entry ∈ entries, ¬entry.1.Spells register.name) ∧ (register, held) ∈ found := by
  induction entries generalizing found with
  | nil =>
    obtain rfl := Except.ok.inj read
    have none : ¬Latest [] register held := fun ⟨before, _, _, _, split, _⟩ =>
      List.cons_ne_nil _ _ (List.append_eq_nil_iff.mp split.symm).2
    simp [none]
  | cons entry rest ih =>
    obtain ⟨key, value⟩ := entry
    obtain ⟨plainKey, plainRest⟩ := List.forall_mem_cons.mp plain
    obtain ⟨target, given, spells, holds, read⟩ := (readRegisters_cons_eq_ok_iff plainKey).mp read
    have isTarget : key.Spells register.name ↔ register = target := by
      constructor
      · intro also
        exact Register.name_injective (also.unique spells)
      · rintro rfl
        exact spells
    have isGiven : value.Holds held ↔ held = given := by
      rw [← readRegisterValue_eq_ok_iff, readRegisterValue_eq_ok_iff.mpr holds]
      exact ok_eq_ok_iff
    rw [ih plainRest (nodup_insertRegister distinct target given) read, latest_cons_iff,
      mem_insertRegister_iff distinct, List.forall_mem_cons, isTarget, isGiven]
    tauto

section Trees

variable {admitted : Int → Prop} {entries : List (Value × Value)}
  (trees : ∀ entry ∈ entries, entry.2.IsTree admitted)

include trees

/-- What is found under a name is a tree where all values are. -/
theorem isTree_of_lookup {name : String} {value : Value}
    (found : Value.lookup entries name = some value) : value.IsTree admitted := by
  obtain ⟨key, listed⟩ := Value.exists_mem_of_lookup found
  exact trees _ listed

/-- The mapping under a name has trees for its keys and values where all values are trees. -/
theorem isTree_of_part {name : String} {found : List (Value × Value)}
    (part : Part entries name found) :
    (∀ entry ∈ found, entry.1.IsTree admitted) ∧ ∀ entry ∈ found, entry.2.IsTree admitted := by
  unfold Part at part
  split at part
  · subst part
    exact ⟨nofun, nofun⟩
  · rename_i value present
    split at part
    · rename_i inside mapping
      subst part
      exact ((isTree_of_lookup trees present).entries mapping).2
    · obtain ⟨_, rfl⟩ := part
      exact ⟨nofun, nofun⟩

end Trees

section Plain

variable {entries : List (Value × Value)} (plain : ∀ entry ∈ entries, entry.2.Plain)

include plain

/-- A configuration that is read from entries is the one that they describe. -/
theorem describes_of_ofEntries {configuration : Configuration}
    (read : ofEntries entries = .ok configuration) : Describes entries configuration := by
  obtain ⟨policy, steps, history, initial, origin⟩ := ofEntries_eq_ok_iff.mp read
  obtain ⟨state, values, stateRead, valuesRead, registers, pc, sp⟩ :=
    readInitialState_eq_ok_iff.mp initial
  have statePart := readMapping_eq_ok_iff.mp stateRead
  have valuesPart := readMapping_eq_ok_iff.mp valuesRead
  have plainKeys := (isTree_of_part (isTree_of_part plain statePart).2 valuesPart).1
  have nothing : (([] : List (Register × RegisterValue)).map Prod.fst).Nodup := List.nodup_nil
  exact {
    policy := readPolicy_eq_ok_iff.mp policy
    steps := readField_eq_ok_iff.mp steps
    history := readField_eq_ok_iff.mp history
    origin := readField_eq_ok_iff.mp origin
    state := ⟨state, values, statePart, valuesPart, readField_eq_ok_iff.mp pc,
      readField_eq_ok_iff.mp sp, nodup_readRegisters nothing registers, fun register held => by
        rw [mem_readRegisters_iff plainKeys nothing registers]
        exact or_iff_left fun other => List.not_mem_nil other.2⟩ }

/-- A configuration is read from entries exactly where they are acceptable. -/
theorem exists_ofEntries_iff :
    (∃ configuration, ofEntries entries = .ok configuration) ↔ Acceptable entries := by
  constructor
  · rintro ⟨configuration, read⟩
    have described := describes_of_ofEntries plain read
    obtain ⟨_, _, _, initial, _⟩ := ofEntries_eq_ok_iff.mp read
    obtain ⟨state, values, stateRead, valuesRead, registers, pc, sp⟩ :=
      readInitialState_eq_ok_iff.mp initial
    have statePart := readMapping_eq_ok_iff.mp stateRead
    have valuesPart := readMapping_eq_ok_iff.mp valuesRead
    have plainKeys := (isTree_of_part (isTree_of_part plain statePart).2 valuesPart).1
    exact {
      policy := ⟨_, described.policy⟩
      steps := ⟨_, described.steps, Int.natCast_pos.mpr configuration.stepsPerTick_pos⟩
      history := ⟨_, described.history, Int.natCast_nonneg _⟩
      origin := ⟨_, described.origin⟩
      state := ⟨state, values, statePart, valuesPart, ⟨_, readField_eq_ok_iff.mp pc⟩,
        ⟨_, readField_eq_ok_iff.mp sp⟩,
        (exists_readRegisters_iff plainKeys []).mp ⟨_, registers⟩⟩ }
  · intro acceptable
    obtain ⟨onUnimplemented, policy⟩ := acceptable.policy
    obtain ⟨steps, stepsField, positive⟩ := acceptable.steps
    obtain ⟨history, historyField, admitted⟩ := acceptable.history
    obtain ⟨origin, originField⟩ := acceptable.origin
    obtain ⟨state, values, statePart, valuesPart, ⟨pc, pcField⟩, ⟨sp, spField⟩, listed⟩ :=
      acceptable.state
    have plainKeys := (isTree_of_part (isTree_of_part plain statePart).2 valuesPart).1
    obtain ⟨registers, registersRead⟩ := (exists_readRegisters_iff plainKeys []).mpr listed
    let configuration : Configuration :=
      { origin
        stepsPerTick := steps.toNat
        historyLimit := history.toNat
        onUnimplemented
        initialState := { pc, sp, registers }
        stepsPerTick_pos := by omega }
    refine ⟨configuration, ofEntries_eq_ok_iff.mpr ⟨readPolicy_eq_ok_iff.mpr policy, ?_, ?_, ?_,
      readField_eq_ok_iff.mpr originField⟩⟩
    · rw [Int.toNat_of_nonneg (Int.le_of_lt positive)]
      exact readField_eq_ok_iff.mpr stepsField
    · rw [Int.toNat_of_nonneg admitted]
      exact readField_eq_ok_iff.mpr historyField
    · exact readInitialState_eq_ok_iff.mpr ⟨state, values, readMapping_eq_ok_iff.mpr statePart,
        readMapping_eq_ok_iff.mpr valuesPart, registersRead, readField_eq_ok_iff.mpr pcField,
        readField_eq_ok_iff.mpr spField⟩

end Plain

end Z80Monitor.Configuration
