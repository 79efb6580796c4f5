import Z80Monitor.Register.View
import Z80Monitor.Text.Case
import Z80Monitor.Text.Quoted

/-!
# Registers by name

Writing to registers that are given by name. A name that does not belong to the class of
registers asked for is refused, and nothing changes.
-/

namespace Z80Monitor

/-- Why a register name is refused. -/
inductive RegisterError where
  /-- No register has the name. -/
  | unknown (name : String)
  /-- No register of eight bits has the name. -/
  | notByte (name : String)
  /-- No register of sixteen bits has the name. -/
  | notWord (name : String)
  /-- No flip-flop has the name. -/
  | notFlipFlop (name : String)
  deriving DecidableEq, Repr

/-- The wording of a refusal. -/
def RegisterError.message : RegisterError → String
  | .unknown name => "Unknown register: " ++ Text.quotedString name
  | .notByte name => Text.quotedString name ++ " is not an 8-bit register"
  | .notWord name => Text.quotedString name ++ " is not a 16-bit register"
  | .notFlipFlop name => Text.quotedString name ++ " is not a boolean register"

namespace Registers

/-- Write to the register with a name. -/
def writeNamed (registers : Registers) (name : String) (value : Int) :
    Except RegisterError Registers :=
  match Register.ofName? name with
  | some register => .ok (registers.write register value)
  | none => .error (.unknown name)

/-- Write to the register of eight bits with a name. -/
def writeByteNamed (registers : Registers) (name : String) (value : Int) :
    Except RegisterError Registers :=
  match Register.ofName? name with
  | some (.byte register) => .ok (registers.write (.byte register) value)
  | _ => .error (.notByte name)

/-- Write to the register of sixteen bits with a name. -/
def writeWordNamed (registers : Registers) (name : String) (value : Int) :
    Except RegisterError Registers :=
  match Register.ofName? name with
  | some (.word register) => .ok (registers.write (.word register) value)
  | _ => .error (.notWord name)

/-- Write to the flip-flop with a name. -/
def writeFlipFlopNamed (registers : Registers) (name : String) (value : Int) :
    Except RegisterError Registers :=
  match Register.ofName? name with
  | some (.flipFlop register) => .ok (registers.write (.flipFlop register) value)
  | _ => .error (.notFlipFlop name)

/-- Write to the operand register with a name in any case. -/
def writeOperand (registers : Registers) (name : String) (value : Int) :
    Except RegisterError Registers :=
  registers.writeByteNamed (Text.lowerString name) value

/-- Read the view with a name in any case. -/
def readOperand? (registers : Registers) (name : String) : Option RegisterValue :=
  (View.ofName? (Text.lowerString name)).map (View.read registers)

/-- Every register with its contents. -/
def toList (registers : Registers) : List (String × RegisterValue) :=
  Register.all.map fun register => (register.name, registers.read register)

end Registers

end Z80Monitor
