import Z80Monitor.Proofs.Configuration.Criterion

/-!
# Refused data

Data that is no configuration is refused with a report of its first wrong part. A report holds the
text of a value, which is missing where an integer within the value is too long to be written, and
then the refusal says only this. It comes from a misfit, which is a value in a place where it stands
for nothing that the place asks for. So data is sorted completely: into configurations, wrong data
that is reported, and data with a misfit that has no text.
-/

namespace Z80Monitor.Configuration

/-- Two steps in a row fail where the first does, or the second behind the first. -/
theorem bind_eq_error_iff {Fault First Result : Type} {first : Except Fault First}
    {next : First → Except Fault Result} {fault : Fault} :
    first >>= next = .error fault ↔
      first = .error fault ∨ ∃ value, first = .ok value ∧ next value = .error fault := by
  cases first with
  | error other =>
    constructor
    · intro failed
      obtain rfl := Except.error.inj failed
      exact .inl rfl
    · rintro (failed | ⟨_, made, _⟩)
      · rw [Except.error.inj failed]
        rfl
      · cases made
  | ok value =>
    constructor
    · intro failed
      exact .inr ⟨value, rfl, failed⟩
    · rintro (failed | ⟨_, made, failed⟩)
      · cases failed
      · rw [Except.ok.inj made]
        exact failed

/-- A value stands in the data where it stands for nothing that is asked for there. -/
inductive Misfit (entries : List (Value × Value)) : Value → Prop where
  /-- What stands for the policy spells none. -/
  | policy {value : Value} (found : Value.lookup entries "on_unimplemented" = some value)
    (wrong : ∀ policy : UnimplementedPolicy, ¬value.Spells policy.name) : Misfit entries value
  /-- What stands for a number is none. -/
  | field {name : String} {value : Value}
    (listed : name ∈ ["steps_per_tick", "history_limit", "origin"])
    (found : Value.lookup entries name = some value) (wrong : ∀ number, ¬value.Denotes number) :
    Misfit entries value
  /-- What stands for a counter of the initial state is no number. -/
  | counter {state : List (Value × Value)} {name : String} {value : Value}
    (part : Part entries "initial_state" state) (listed : name ∈ ["pc", "sp"])
    (found : Value.lookup state name = some value) (wrong : ∀ number, ¬value.Denotes number) :
    Misfit entries value
  /-- A key of the registers spells none. -/
  | key {state values : List (Value × Value)} {entry : Value × Value}
    (part : Part entries "initial_state" state) (inside : Part state "registers" values)
    (listed : entry ∈ values) (wrong : ∀ register : Register, ¬entry.1.Spells register.name) :
    Misfit entries entry.1
  /-- What stands for the value of a register is none. -/
  | held {state values : List (Value × Value)} {entry : Value × Value}
    (part : Part entries "initial_state" state) (inside : Part state "registers" values)
    (listed : entry ∈ values) (wrong : ∀ held, ¬entry.2.Holds held) : Misfit entries entry.2

/-- A value that is no integer and cannot be reported has an integer that is too long. -/
theorem not_short_of_notInteger {value : Value} (untold : notInteger value = .integerTooLong) :
    ¬value.Short := by
  intro short
  obtain ⟨text, shown⟩ := Option.isSome_iff_exists.mp short.isSome_display
  rw [notInteger, shown] at untold
  cases untold

/-- An integer that cannot be reported is none, and has one that is too long. -/
theorem untold_readInteger {value : Value} (untold : readInteger value = .error .integerTooLong) :
    (∀ number, ¬value.Denotes number) ∧ ¬value.Short := by
  constructor
  · intro number denotes
    cases untold.symm.trans (readInteger_eq_ok_iff.mpr denotes)
  · unfold readInteger at untold
    split at untold
    · cases untold
    · split at untold
      · cases untold
      · exact not_short_of_notInteger (Except.error.inj untold)
    · exact not_short_of_notInteger (Except.error.inj untold)

/-- The value of a register that cannot be reported is none, and has an integer that is too long. -/
theorem untold_readRegisterValue {value : Value}
    (untold : readRegisterValue value = .error .integerTooLong) :
    (∀ held, ¬value.Holds held) ∧ ¬value.Short := by
  constructor
  · intro held holds
    cases untold.symm.trans (readRegisterValue_eq_ok_iff.mpr holds)
  · unfold readRegisterValue at untold
    split at untold
    · cases untold
    · rename_i other
      cases given : readInteger value with
      | ok number =>
        rw [given] at untold
        cases untold
      | error fault =>
        rw [given] at untold
        obtain rfl := Except.error.inj untold
        exact (untold_readInteger given).2

/-- A key that cannot be reported spells no register, and has an integer that is too long. -/
theorem untold_registerOf {key : Value} (plain : key.Plain)
    (untold : registerOf key = .error .integerTooLong) :
    (∀ register : Register, ¬key.Spells register.name) ∧ ¬key.Short := by
  constructor
  · intro register spells
    cases untold.symm.trans ((registerOf_eq_ok_iff plain).mpr spells)
  · intro short
    obtain ⟨text, shown⟩ := Option.isSome_iff_exists.mp short.isSome_display
    obtain ⟨name, written⟩ := Option.isSome_iff_exists.mp short.isSome_literal
    rw [registerOf, shown, written] at untold
    dsimp only at untold
    split at untold
    · cases untold
    · cases untold

/-- A number that cannot be reported is given, is none and has an integer that is too long. -/
theorem untold_readField {entries : List (Value × Value)} {name : String} {default : Int}
    (untold : readField entries name default = .error .integerTooLong) :
    ∃ value, Value.lookup entries name = some value ∧ (∀ number, ¬value.Denotes number) ∧
      ¬value.Short := by
  unfold readField at untold
  split at untold
  · rename_i value found
    exact ⟨value, found, untold_readInteger untold⟩
  · cases untold

/-- A policy that cannot be reported is given, is none and has an integer that is too long. -/
theorem untold_readPolicy {entries : List (Value × Value)}
    (untold : readPolicy entries = .error .integerTooLong) :
    ∃ value, Value.lookup entries "on_unimplemented" = some value ∧
      (∀ policy : UnimplementedPolicy, ¬value.Spells policy.name) ∧ ¬value.Short := by
  unfold readPolicy at untold
  split at untold
  · cases untold
  · rename_i value found
    split at untold
    · rename_i textless
      refine ⟨value, found, ?_, fun short => ?_⟩
      · rintro policy ⟨text, shown, _⟩
        cases textless.symm.trans shown
      · cases textless ▸ short.isSome_display
    · dsimp only at untold
      split at untold
      · cases untold
      · cases untold

/-- A mapping is reported without a text. -/
theorem readMapping_ne_untold (entries : List (Value × Value)) (name : String)
    {wrong : ConfigurationError} (report : wrong ≠ .integerTooLong) :
    readMapping entries name wrong ≠ .error .integerTooLong := by
  unfold readMapping
  intro untold
  split at untold
  · cases untold
  · split at untold
    · cases untold
    · split at untold
      · exact report (Except.error.inj untold)
      · cases untold

/-- Of registers that cannot be reported some key or some value is wrong, and has an integer that is
too long. -/
theorem untold_readRegisters {entries : List (Value × Value)}
    (plain : ∀ entry ∈ entries, entry.1.Plain) {found : List (Register × RegisterValue)}
    (untold : readRegisters entries found = .error .integerTooLong) :
    ∃ entry ∈ entries,
      ((∀ register : Register, ¬entry.1.Spells register.name) ∧ ¬entry.1.Short) ∨
      ((∀ held, ¬entry.2.Holds held) ∧ ¬entry.2.Short) := by
  induction entries generalizing found with
  | nil => cases untold
  | cons entry rest ih =>
    obtain ⟨plainKey, plainRest⟩ := List.forall_mem_cons.mp plain
    rw [readRegisters] at untold
    obtain keyUntold | ⟨register, _, untold⟩ := bind_eq_error_iff.mp untold
    · exact ⟨entry, List.mem_cons_self, .inl (untold_registerOf plainKey keyUntold)⟩
    obtain valueUntold | ⟨held, _, untold⟩ := bind_eq_error_iff.mp untold
    · exact ⟨entry, List.mem_cons_self, .inr (untold_readRegisterValue valueUntold)⟩
    obtain ⟨later, listed, wrong⟩ := ih plainRest untold
    exact ⟨later, List.mem_cons_of_mem entry listed, wrong⟩

section Plain

variable {entries : List (Value × Value)} (plain : ∀ entry ∈ entries, entry.2.Plain)

include plain

/-- In an initial state that cannot be reported there is a misfit with an integer that is too
long. -/
theorem untold_readInitialState (untold : readInitialState entries = .error .integerTooLong) :
    ∃ part, Misfit entries part ∧ ¬part.Short := by
  rw [readInitialState] at untold
  obtain stateUntold | ⟨state, stateRead, untold⟩ := bind_eq_error_iff.mp untold
  · exact absurd stateUntold (readMapping_ne_untold _ _ (by decide))
  have statePart := readMapping_eq_ok_iff.mp stateRead
  obtain valuesUntold | ⟨values, valuesRead, untold⟩ := bind_eq_error_iff.mp untold
  · exact absurd valuesUntold (readMapping_ne_untold _ _ (by decide))
  have valuesPart := readMapping_eq_ok_iff.mp valuesRead
  have plainKeys := (isTree_of_part (isTree_of_part plain statePart).2 valuesPart).1
  obtain registersUntold | ⟨registers, _, untold⟩ := bind_eq_error_iff.mp untold
  · obtain ⟨entry, listed, ⟨wrong, long⟩ | ⟨wrong, long⟩⟩ :=
      untold_readRegisters plainKeys registersUntold
    · exact ⟨_, .key statePart valuesPart listed wrong, long⟩
    · exact ⟨_, .held statePart valuesPart listed wrong, long⟩
  obtain pcUntold | ⟨pc, _, untold⟩ := bind_eq_error_iff.mp untold
  · obtain ⟨value, found, wrong, long⟩ := untold_readField pcUntold
    exact ⟨value, .counter statePart (by decide) found wrong, long⟩
  obtain spUntold | ⟨sp, _, untold⟩ := bind_eq_error_iff.mp untold
  · obtain ⟨value, found, wrong, long⟩ := untold_readField spUntold
    exact ⟨value, .counter statePart (by decide) found wrong, long⟩
  cases untold

/-- In entries that cannot be reported there is a misfit with an integer that is too long. -/
theorem untold_ofEntries (untold : ofEntries entries = .error .integerTooLong) :
    ∃ part, Misfit entries part ∧ ¬part.Short := by
  have misplaced {name : String} {default : Int}
      (listed : name ∈ ["steps_per_tick", "history_limit", "origin"])
      (untold : readField entries name default = .error .integerTooLong) :
      ∃ part, Misfit entries part ∧ ¬part.Short := by
    obtain ⟨value, found, wrong, long⟩ := untold_readField untold
    exact ⟨value, .field listed found wrong, long⟩
  rw [ofEntries] at untold
  obtain policyUntold | ⟨policy, _, untold⟩ := bind_eq_error_iff.mp untold
  · obtain ⟨value, found, wrong, long⟩ := untold_readPolicy policyUntold
    exact ⟨value, .policy found wrong, long⟩
  obtain stepsUntold | ⟨steps, _, untold⟩ := bind_eq_error_iff.mp untold
  · exact misplaced (by decide) stepsUntold
  split at untold
  · obtain historyUntold | ⟨history, _, untold⟩ := bind_eq_error_iff.mp untold
    · exact misplaced (by decide) historyUntold
    split at untold
    · cases untold
    obtain stateUntold | ⟨initial, _, untold⟩ := bind_eq_error_iff.mp untold
    · exact untold_readInitialState plain stateUntold
    obtain originUntold | ⟨origin, _, untold⟩ := bind_eq_error_iff.mp untold
    · exact misplaced (by decide) originUntold
    cases untold
  · cases untold

end Plain

/-- In data that cannot be reported there is a misfit with an integer that is too long. -/
theorem untold_ofValue {value : Value} (plain : value.Plain)
    (untold : ofValue value = .error .integerTooLong) :
    ∃ entries part, value = .mapping entries ∧ Misfit entries part ∧ ¬part.Short := by
  unfold ofValue at untold
  split at untold
  · rename_i entries mapping
    obtain ⟨rfl, _, plainValues⟩ := plain.entries mapping
    obtain ⟨part, misfit, long⟩ := untold_ofEntries plainValues untold
    exact ⟨entries, part, rfl, misfit, long⟩
  · cases untold

/-- Plain data is a configuration exactly where it is a mapping with acceptable entries, and then
the configuration is the one that the entries describe. All other data is refused for what is wrong
with it, unless there is a misfit in it that holds an integer too long to be written. -/
theorem ofValue_criterion {value : Value} (plain : value.Plain) :
    ((∃ configuration, ofValue value = .ok configuration) ↔
      ∃ entries, value = .mapping entries ∧ Acceptable entries) ∧
    (∀ entries configuration, value = .mapping entries → ofValue value = .ok configuration →
      Describes entries configuration) ∧
    (ofValue value = .error .integerTooLong →
      ∃ entries part, value = .mapping entries ∧ Misfit entries part ∧ ¬part.Short) := by
  cases mapping : value.entries? with
  | none =>
    have refused : ofValue value = .error .notMapping := by rw [ofValue, mapping]
    have apart (entries : List (Value × Value)) : value ≠ .mapping entries := by
      rintro rfl
      cases mapping
    refine ⟨?_, fun entries _ same => absurd same (apart entries), untold_ofValue plain⟩
    rw [refused]
    exact iff_of_false nofun fun ⟨entries, same, _⟩ => apart entries same
  | some entries =>
    obtain ⟨rfl, _, plainValues⟩ := plain.entries mapping
    refine ⟨?_, ?_, untold_ofValue plain⟩
    · refine (exists_ofEntries_iff plainValues).trans ⟨fun acceptable => ⟨_, rfl, acceptable⟩, ?_⟩
      rintro ⟨_, ⟨⟩, acceptable⟩
      exact acceptable
    · rintro _ configuration ⟨⟩ read
      exact describes_of_ofEntries plainValues read

/-- Data with a numeral behind a mark, a policy in upper case and a register that is named twice. -/
theorem ofValue_criterion_folded :
    let registers : List (Value × Value) :=
      [(.text "A", .integer 7), (.text "Iff1", .truth true), (.text "a", .text " -12 ")]
    let entries : List (Value × Value) :=
      [(.text "history_limit", .text "0x1F"), (.text "on_unimplemented", .text "RAISE"),
        (.text "initial_state", .mapping [(.text "registers", .mapping registers)])]
    let value : Value := .mapping entries
    value.Plain ∧ ∃ configuration, ofValue value = .ok configuration ∧ Acceptable entries ∧
      Describes entries configuration ∧ configuration.historyLimit = 31 ∧
      configuration.initialState.registers =
        [(.byte .a, .number (-12)), (.flipFlop .iff1, .truth true)] := by
  intro registers entries value
  have plainRegisters : Value.Plain (.mapping registers) := by
    refine .mapping _ ?_ ?_
    · exact List.forall_mem_cons.mpr ⟨.text _, List.forall_mem_cons.mpr ⟨.text _,
        List.forall_mem_cons.mpr ⟨.text _, nofun⟩⟩⟩
    · exact List.forall_mem_cons.mpr ⟨.integer _ trivial, List.forall_mem_cons.mpr ⟨.truth _,
        List.forall_mem_cons.mpr ⟨.text _, nofun⟩⟩⟩
  have plain : value.Plain := by
    refine .mapping _ ?_ ?_
    · exact List.forall_mem_cons.mpr ⟨.text _, List.forall_mem_cons.mpr ⟨.text _,
        List.forall_mem_cons.mpr ⟨.text _, nofun⟩⟩⟩
    · exact List.forall_mem_cons.mpr ⟨.text _, List.forall_mem_cons.mpr ⟨.text _,
        List.forall_mem_cons.mpr ⟨.mapping _ (List.forall_mem_cons.mpr ⟨.text _, nofun⟩)
          (List.forall_mem_cons.mpr ⟨plainRegisters, nofun⟩), nofun⟩⟩⟩
  let configuration : Configuration :=
    { historyLimit := 31
      onUnimplemented := .fail
      initialState :=
        { registers := [(.byte .a, .number (-12)), (.flipFlop .iff1, .truth true)] } }
  have read : ofValue value = .ok configuration := by rfl
  obtain ⟨criterion, described, _⟩ := ofValue_criterion plain
  obtain ⟨found, same, acceptable⟩ := criterion.mp ⟨configuration, read⟩
  obtain rfl : entries = found := Value.mapping.inj same
  exact ⟨plain, configuration, read, acceptable, described entries configuration rfl read, rfl, rfl⟩

/-- A list with an integer that is too long is no origin, and it has no text to report. -/
theorem ofValue_origin_of_long {number : Int}
    (long : 10 ^ Text.decimalDigitLimit ≤ number.natAbs) :
    ofValue (.mapping [(.text "origin", .list [.integer number])]) = .error .integerTooLong := by
  have inner : Value.integerText? number = none := Value.integerText?_eq_none_iff.mpr long
  have unwritten : (Value.list [.integer number]).display = none := by
    simp [Value.display, Value.literal, Value.literals, inner]
  have untold : notInteger (.list [.integer number]) = .integerTooLong := by
    rw [notInteger, unwritten]
  exact congrArg Except.error untold

/-- A list with the least integer that is too long is no origin, and what is wrong cannot be said,
since the list has no text. -/
theorem ofValue_long_integer_untold :
    let value : Value :=
      .mapping [(.text "origin", .list [.integer (10 ^ Text.decimalDigitLimit)])]
    value.Plain ∧ (¬∃ configuration, ofValue value = .ok configuration) ∧
      ofValue value = .error .integerTooLong := by
  intro value
  have long (digits : Nat) : 10 ^ digits ≤ ((10 : Int) ^ digits).natAbs := by
    rw [Int.natAbs_pow]
    exact Nat.le_refl _
  have refused : ofValue value = .error .integerTooLong :=
    ofValue_origin_of_long (long Text.decimalDigitLimit)
  refine ⟨?_, ?_, refused⟩
  · refine .mapping _ (List.forall_mem_cons.mpr ⟨.text _, nofun⟩) ?_
    refine List.forall_mem_cons.mpr ⟨.list _ ?_, nofun⟩
    exact List.forall_mem_cons.mpr ⟨.integer _ trivial, nofun⟩
  · rintro ⟨configuration, read⟩
    cases refused.symm.trans read

end Z80Monitor.Configuration
