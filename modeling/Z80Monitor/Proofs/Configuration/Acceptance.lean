import Mathlib.Data.List.Nodup
import Z80Monitor.Configuration.Reading

/-!
# Accepted configurations

Data is accepted as a configuration exactly where each of its parts can be read, and the
configuration then consists of what the parts are read as. No register has two initial values,
whatever the keys of the data were.
-/

namespace Z80Monitor

/-- Two steps that can be refused give a result where both give one. -/
theorem bind_eq_ok_iff {Fault First Result : Type} {first : Except Fault First}
    {next : First → Except Fault Result} {result : Result} :
    first >>= next = .ok result ↔ ∃ value, first = .ok value ∧ next value = .ok result := by
  cases first with
  | error fault => exact iff_of_false nofun nofun
  | ok value =>
    constructor
    · intro made
      exact ⟨value, rfl, made⟩
    · rintro ⟨_, ⟨⟩, made⟩
      exact made

namespace Configuration

/-- An initial state is read where each of its parts is. -/
theorem readInitialState_eq_ok_iff {entries : List (Value × Value)} {initial : InitialState} :
    readInitialState entries = .ok initial ↔
      ∃ state values,
        readMapping entries "initial_state" .stateNotMapping = .ok state ∧
        readMapping state "registers" .registersNotMapping = .ok values ∧
        readRegisters values [] = .ok initial.registers ∧
        readField state "pc" 0 = .ok initial.pc ∧
        readField state "sp" 0xFFFF = .ok initial.sp := by
  simp only [readInitialState, bind_eq_ok_iff]
  constructor
  · rintro ⟨state, stateRead, values, valuesRead, registers, registersRead, pc, pcRead, sp, spRead,
      ⟨⟩⟩
    exact ⟨state, values, stateRead, valuesRead, registersRead, pcRead, spRead⟩
  · rintro ⟨state, values, stateRead, valuesRead, registersRead, pcRead, spRead⟩
    exact ⟨state, stateRead, values, valuesRead, _, registersRead, _, pcRead, _, spRead, rfl⟩

/-- A configuration is read where each of its parts is, and the numbers are within their bounds. -/
theorem ofEntries_eq_ok_iff {entries : List (Value × Value)} {configuration : Configuration} :
    ofEntries entries = .ok configuration ↔
      readPolicy entries = .ok configuration.onUnimplemented ∧
      readField entries "steps_per_tick" 50 = .ok (configuration.stepsPerTick : Int) ∧
      readField entries "history_limit" 64 = .ok (configuration.historyLimit : Int) ∧
      readInitialState entries = .ok configuration.initialState ∧
      readField entries "origin" 0 = .ok configuration.origin := by
  simp only [ofEntries, bind_eq_ok_iff]
  constructor
  · rintro ⟨policy, policyRead, steps, stepsRead, made⟩
    split at made
    · rename_i positive
      obtain ⟨history, historyRead, made⟩ := bind_eq_ok_iff.mp made
      split at made
      · cases made
      · rename_i admitted
        simp only [bind_eq_ok_iff] at made
        obtain ⟨initial, initialRead, origin, originRead, ⟨⟩⟩ := made
        refine ⟨policyRead, ?_, ?_, initialRead, originRead⟩
        · rw [stepsRead, Int.toNat_of_nonneg (Int.le_of_lt positive)]
        · rw [historyRead, Int.toNat_of_nonneg (Int.not_lt.mp admitted)]
    · cases made
  · rintro ⟨policyRead, stepsRead, historyRead, initialRead, originRead⟩
    have positive : 0 < (configuration.stepsPerTick : Int) :=
      Int.natCast_pos.mpr configuration.stepsPerTick_pos
    have admitted : ¬(configuration.historyLimit : Int) < 0 := by omega
    refine ⟨_, policyRead, _, stepsRead, ?_⟩
    rw [dif_pos positive]
    refine bind_eq_ok_iff.mpr ⟨_, historyRead, ?_⟩
    rw [if_neg admitted]
    exact bind_eq_ok_iff.mpr ⟨_, initialRead, bind_eq_ok_iff.mpr ⟨_, originRead, rfl⟩⟩

/-- Data is accepted where it is a mapping from whose entries a configuration is read. -/
theorem ofValue_eq_ok_iff {value : Value} {configuration : Configuration} :
    ofValue value = .ok configuration ↔
      ∃ entries, value.entries? = some entries ∧ ofEntries entries = .ok configuration := by
  unfold ofValue
  cases value.entries? with
  | none => exact iff_of_false nofun nofun
  | some entries =>
    constructor
    · intro made
      exact ⟨entries, rfl, made⟩
    · rintro ⟨_, ⟨⟩, made⟩
      exact made

/-- A value for a register that has none yet is put behind the others. -/
theorem map_fst_insertRegister (register : Register) (value : RegisterValue)
    (found : List (Register × RegisterValue)) :
    (insertRegister register value found).map Prod.fst =
      if register ∈ found.map Prod.fst then found.map Prod.fst
      else found.map Prod.fst ++ [register] := by
  induction found with
  | nil => rfl
  | cons entry rest ih =>
    obtain ⟨present, old⟩ := entry
    rw [insertRegister, List.map_cons]
    by_cases same : present = register
    · rw [if_pos same, if_pos (List.mem_cons.mpr (.inl same.symm)), List.map_cons]
    · have apart : register ≠ present := fun equal => same equal.symm
      rw [if_neg same, List.map_cons, ih]
      simp only [List.mem_cons, apart, false_or]
      split
      · rfl
      · rfl

/-- No register comes to have two values. -/
theorem nodup_insertRegister {found : List (Register × RegisterValue)}
    (distinct : (found.map Prod.fst).Nodup) (register : Register) (value : RegisterValue) :
    ((insertRegister register value found).map Prod.fst).Nodup := by
  rw [map_fst_insertRegister]
  split
  · exact distinct
  · rename_i absent
    rw [List.nodup_append]
    refine ⟨distinct, List.nodup_singleton register, fun present inside other single => ?_⟩
    rintro rfl
    rw [List.mem_singleton.mp single] at inside
    exact absent inside

/-- No register has two values where the values of registers are read. -/
theorem nodup_readRegisters {entries : List (Value × Value)}
    {found registers : List (Register × RegisterValue)} (distinct : (found.map Prod.fst).Nodup)
    (read : readRegisters entries found = .ok registers) : (registers.map Prod.fst).Nodup := by
  induction entries generalizing found with
  | nil =>
    obtain rfl := Except.ok.inj read
    exact distinct
  | cons entry rest ih =>
    obtain ⟨key, value⟩ := entry
    rw [readRegisters, bind_eq_ok_iff] at read
    obtain ⟨register, _, read⟩ := read
    obtain ⟨number, _, read⟩ := bind_eq_ok_iff.mp read
    exact ih (nodup_insertRegister distinct register number) read

/-- No register has two initial values in a configuration that is read from data. -/
theorem nodup_registers_of_ofValue {value : Value} {configuration : Configuration}
    (accepted : ofValue value = .ok configuration) :
    (configuration.initialState.registers.map Prod.fst).Nodup := by
  obtain ⟨entries, _, made⟩ := ofValue_eq_ok_iff.mp accepted
  obtain ⟨_, _, _, initial, _⟩ := ofEntries_eq_ok_iff.mp made
  obtain ⟨_, values, _, _, read, _⟩ := readInitialState_eq_ok_iff.mp initial
  have nothing : (([] : List (Register × RegisterValue)).map Prod.fst).Nodup := List.nodup_nil
  exact nodup_readRegisters nothing read

end Configuration

end Z80Monitor
