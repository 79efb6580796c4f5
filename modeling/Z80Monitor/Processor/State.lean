import Z80Monitor.Memory.Contents
import Z80Monitor.Register.Layout
import Z80Monitor.Register.Named

/-!
# The state of the processor

The registers, the memory, whether the processor is halted, and the clock cycles spent. At
power-on everything is zero but the stack pointer.
-/

namespace Z80Monitor

/-- The state of the processor. -/
structure State where
  /-- The registers. -/
  registers : Registers := {}
  /-- The memory. -/
  memory : Memory := Memory.blank
  /-- Whether a halt instruction was carried out. -/
  halted : Bool := false
  /-- The clock cycles spent. -/
  cycles : Int := 0
  deriving DecidableEq

namespace State

/-- The program counter. -/
def pc (state : State) : UInt16 := state.registers.pc

/-- Move the program counter. -/
def setPc (state : State) (address : Int) : State :=
  { state with registers := state.registers.write (.word .pc) address }

end State

end Z80Monitor
