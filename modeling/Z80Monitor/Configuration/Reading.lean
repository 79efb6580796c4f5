import Z80Monitor.Configuration.Basic
import Z80Monitor.Configuration.Value

/-!
# Reading configurations

How configuration data becomes a configuration. Data is accepted only where every part has the
right form; the parts are looked at in a fixed order, and the first that is wrong is reported.
-/

namespace Z80Monitor

/-- Why configuration data is refused. -/
inductive ConfigurationError where
  /-- The data is no mapping. -/
  | notMapping
  /-- No policy has the name. -/
  | unknownPolicy (name : List Text.CodePoint)
  /-- The steps of a run are not positive. -/
  | stepsNotPositive
  /-- The history limit is negative. -/
  | historyNegative
  /-- The initial state is no mapping. -/
  | stateNotMapping
  /-- The initial registers are no mapping. -/
  | registersNotMapping
  /-- No register has the name. -/
  | unknownRegister (name : List Char)
  /-- A value is no integer. -/
  | notInteger (text : List Text.CodePoint)
  /-- A value that would have to be written holds an integer that is too long. -/
  | integerTooLong
  deriving DecidableEq, Repr

/-- The wording of a refusal. -/
def ConfigurationError.message (error : ConfigurationError) : String :=
  String.ofList <| match error with
    | .notMapping => "Top-level configuration must be a mapping".toList
    | .unknownPolicy name => "Invalid on_unimplemented policy: ".toList ++ Text.quotedPoints name
    | .stepsNotPositive => "steps_per_tick must be positive".toList
    | .historyNegative => "history_limit must not be negative".toList
    | .stateNotMapping => "initial_state must be a mapping".toList
    | .registersNotMapping => "initial_state.registers must be a mapping".toList
    | .unknownRegister name => "Unknown register in initial_state: ".toList ++ name
    | .notInteger text => "Invalid integer format: ".toList ++ Text.shownPoints text
    | .integerTooLong => Text.digitLimitMessage none

namespace Configuration

/-- The refusal of a value that is no integer. -/
def notInteger (value : Value) : ConfigurationError :=
  match value.display with
  | some text => .notInteger text
  | none => .integerTooLong

/-- The integer that a value stands for: a number, or a text that denotes one. -/
def readInteger (value : Value) : Except ConfigurationError Int :=
  match value with
  | .integer number => .ok number
  | .text text =>
    match Text.readMarkedInteger text.toList with
    | some number => .ok number
    | none => .error (notInteger value)
  | _ => .error (notInteger value)

/-- The integer under a name, or a default where there is no such entry. -/
def readField (entries : List (Value × Value)) (name : String) (default : Int) :
    Except ConfigurationError Int :=
  match Value.lookup entries name with
  | some value => readInteger value
  | none => .ok default

/-- The policy under its name in any case. -/
def readPolicy (entries : List (Value × Value)) :
    Except ConfigurationError UnimplementedPolicy :=
  match Value.lookup entries "on_unimplemented" with
  | none => .ok .proceed
  | some value =>
    match value.display with
    | none => .error .integerTooLong
    | some text =>
      let name := Text.lowerPoints text
      match (Text.characters? name).bind fun name =>
        UnimplementedPolicy.ofName? (String.ofList name) with
      | some policy => .ok policy
      | none => .error (.unknownPolicy name)

/-- The entries under a name that must be a mapping where it is present; `wrong` is the report
of any other value. -/
def readMapping (entries : List (Value × Value)) (name : String) (wrong : ConfigurationError) :
    Except ConfigurationError (List (Value × Value)) :=
  match Value.lookup entries name with
  | none => .ok []
  | some value =>
    match value.entries? with
    | some found => .ok found
    | none => if value.isPresent then .error wrong else .ok []

/-- The value of a register: a truth value or an integer. -/
def readRegisterValue (value : Value) : Except ConfigurationError RegisterValue :=
  match value with
  | .truth value => .ok (.truth value)
  | value => (readInteger value).map .number

/-- Put the value of a register in the place of an earlier one, or else at the end. -/
def insertRegister (register : Register) (value : RegisterValue) :
    List (Register × RegisterValue) → List (Register × RegisterValue)
  | [] => [(register, value)]
  | (present, old) :: rest =>
    if present = register then (present, value) :: rest
    else (present, old) :: insertRegister register value rest

/-- The register that a key names, in any case. -/
def registerOf (key : Value) : Except ConfigurationError Register :=
  match key.display, key.literal with
  | some text, some name =>
    match (Text.characters? (Text.lowerPoints text)).bind fun name =>
      Register.ofName? (String.ofList name) with
    | some register => .ok register
    | none => .error (.unknownRegister name)
  | _, _ => .error .integerTooLong

/-- The values of registers, whose names may be in any case; of entries for one register the
last counts. -/
def readRegisters : List (Value × Value) → List (Register × RegisterValue) →
    Except ConfigurationError (List (Register × RegisterValue))
  | [], found => .ok found
  | (key, value) :: rest, found => do
    let register ← registerOf key
    let value ← readRegisterValue value
    readRegisters rest (insertRegister register value found)

/-- The initial state under its name. -/
def readInitialState (entries : List (Value × Value)) :
    Except ConfigurationError InitialState := do
  let state ← readMapping entries "initial_state" .stateNotMapping
  let registers ← readMapping state "registers" .registersNotMapping
  let registers ← readRegisters registers []
  let pc ← readField state "pc" 0
  let sp ← readField state "sp" 0xFFFF
  .ok { pc, sp, registers }

/-- A configuration read from the entries of a mapping. -/
def ofEntries (entries : List (Value × Value)) : Except ConfigurationError Configuration := do
  let onUnimplemented ← readPolicy entries
  let steps ← readField entries "steps_per_tick" 50
  if positive : 0 < steps then
    let history ← readField entries "history_limit" 64
    if history < 0 then .error .historyNegative
    else
      let initialState ← readInitialState entries
      let origin ← readField entries "origin" 0
      .ok
        { origin
          stepsPerTick := steps.toNat
          historyLimit := history.toNat
          onUnimplemented
          initialState
          stepsPerTick_pos := by omega }
  else .error .stepsNotPositive

/-- A configuration read from data. -/
def ofValue (value : Value) : Except ConfigurationError Configuration :=
  match value.entries? with
  | some entries => ofEntries entries
  | none => .error .notMapping

/-- A configuration read from the contents of a document, where an absent value stands for an
empty mapping. -/
def ofDocument (value : Value) : Except ConfigurationError Configuration :=
  if value.isPresent then ofValue value else ofEntries []

end Configuration

end Z80Monitor
