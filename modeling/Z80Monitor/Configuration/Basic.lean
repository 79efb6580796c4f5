import Z80Monitor.Register.Basic

/-!
# Session configurations

How a debugging session is set up: where programs go, how many steps a run takes, how many steps
are remembered, what happens at an opcode that stands for no instruction, and what the registers
hold after a reset.
-/

namespace Z80Monitor

/-- What the debugger does when a step meets an opcode that stands for no instruction. -/
inductive UnimplementedPolicy where
  /-- Go on. -/
  | proceed
  /-- End the run. -/
  | stop
  /-- Fail. -/
  | fail
  deriving DecidableEq, Repr

namespace UnimplementedPolicy

/-- The name of a policy in configurations. -/
def name : UnimplementedPolicy → String
  | .proceed => "continue"
  | .stop => "stop"
  | .fail => "raise"

/-- The policy with a name. -/
def ofName? (name : String) : Option UnimplementedPolicy :=
  [UnimplementedPolicy.proceed, .stop, .fail].find? fun policy => policy.name == name

end UnimplementedPolicy

/-- What the registers hold after a reset. -/
structure InitialState where
  /-- The program counter. -/
  pc : Int := 0
  /-- The stack pointer. -/
  sp : Int := 0xFFFF
  /-- Values of single registers, which count before the two above. -/
  registers : List (Register × RegisterValue) := []
  deriving DecidableEq, Repr

/-- How a session is set up. -/
structure Configuration where
  /-- Where programs are loaded. -/
  origin : Int := 0
  /-- The steps of a run that is given no limit. -/
  stepsPerTick : Nat := 50
  /-- How many steps are remembered. -/
  historyLimit : Nat := 64
  /-- What happens at an opcode that stands for no instruction. -/
  onUnimplemented : UnimplementedPolicy := .proceed
  /-- What the registers hold after a reset. -/
  initialState : InitialState := {}
  /-- A run without a limit of its own takes at least one step. -/
  stepsPerTick_pos : 0 < stepsPerTick := by decide
  deriving DecidableEq, Repr

/-- Write the initial values to the registers, program counter and stack pointer first. -/
def InitialState.apply (initial : InitialState) (registers : Registers) : Registers :=
  let counters :=
    (registers.write (.word .pc) initial.pc).write (.word .sp) initial.sp
  initial.registers.foldl (fun registers (register, value) => registers.write register value.toInt)
    counters

end Z80Monitor
