import Z80Monitor.Memory.Bus
import Z80Monitor.Register.Layout
import Z80Monitor.Text.Case

/-!
# Breakpoints

The conditions that end a run, and the list of those that are set, which holds no condition
twice. A condition on the program counter is looked at before a step, the others after it.
-/

namespace Z80Monitor

/-- What a breakpoint looks at. -/
inductive BreakpointKind where
  /-- The program counter is at the value. -/
  | pcMatch
  /-- The address was read. -/
  | memoryRead
  /-- The address was written. -/
  | memoryWrite
  /-- The register holds the value. -/
  | registerValue
  /-- The register changed. -/
  | registerChange
  deriving DecidableEq, Repr

namespace BreakpointKind

/-- The name of a kind. -/
def name : BreakpointKind → String
  | .pcMatch => "PC_MATCH"
  | .memoryRead => "MEMORY_READ"
  | .memoryWrite => "MEMORY_WRITE"
  | .registerValue => "REGISTER_VALUE"
  | .registerChange => "REGISTER_CHANGE"

/-- The kind with a name. -/
def ofName? (name : String) : Option BreakpointKind :=
  [BreakpointKind.pcMatch, .memoryRead, .memoryWrite, .registerValue, .registerChange].find?
    fun kind => kind.name == name

end BreakpointKind

/-- A condition that ends a run. Parts that its kind does not look at are kept all the same. -/
structure Breakpoint where
  /-- What the condition looks at. -/
  kind : BreakpointKind
  /-- The value looked for. -/
  value : Option Int := none
  /-- The address looked for. -/
  address : Option Int := none
  /-- The register looked at, in any case. -/
  registerName : Option String := none
  /-- Whether the condition is looked at. -/
  enabled : Bool := true
  deriving DecidableEq, Repr

namespace Breakpoint

/-- The breakpoint at an address, which wraps at 65536. -/
def atAddress (address : Int) : Breakpoint :=
  { kind := .pcMatch, value := some (word address).toNat }

/-- Whether a breakpoint holds in front of the instruction at `pc`. -/
def holdsAt (breakpoint : Breakpoint) (pc : Int) : Bool :=
  breakpoint.enabled && breakpoint.kind == .pcMatch && breakpoint.value == some pc

/-- Whether an access of a kind at the breakpoint's address is among those made. -/
def touches (breakpoint : Breakpoint) (kind : AccessKind) (accesses : List (AccessKind × Int)) :
    Bool :=
  match breakpoint.address with
  | some address => accesses.contains (kind, address)
  | none => false

/-- The value of the breakpoint's register; a breakpoint without a name looks for an empty
one. -/
def registerIn (breakpoint : Breakpoint) (registers : RegisterMap) : Option Int :=
  registers.lookup (Text.upperString (breakpoint.registerName.getD ""))

/-- Whether a breakpoint holds after a step with the given accesses, between the given register
values. A condition on a register that does not exist never holds. -/
def holdsAfter (breakpoint : Breakpoint) (accesses : List (AccessKind × Int))
    (before after : RegisterMap) : Bool :=
  breakpoint.enabled &&
    match breakpoint.kind with
    | .pcMatch => false
    | .memoryRead => breakpoint.touches .read accesses
    | .memoryWrite => breakpoint.touches .write accesses
    | .registerValue =>
      match breakpoint.registerIn after with
      | some value => breakpoint.value == some value
      | none => false
    | .registerChange =>
      match breakpoint.registerIn after with
      | some value => breakpoint.registerIn before != some value
      | none => false

end Breakpoint

/-- The breakpoints that are set, in the order in which they were added. -/
abbrev Breakpoints := List Breakpoint

namespace Breakpoints

/-- Set a breakpoint, unless it is set already. -/
def add (breakpoints : Breakpoints) (breakpoint : Breakpoint) : Breakpoints :=
  if breakpoints.contains breakpoint then breakpoints else breakpoints ++ [breakpoint]

/-- Take a breakpoint away, if it is set. -/
def remove (breakpoints : Breakpoints) (breakpoint : Breakpoint) : Breakpoints :=
  breakpoints.erase breakpoint

/-- Whether a breakpoint holds in front of the instruction at `pc`. -/
def holdAt (breakpoints : Breakpoints) (pc : Int) : Bool := breakpoints.any (·.holdsAt pc)

/-- Whether a breakpoint holds after a step. -/
def holdAfter (breakpoints : Breakpoints) (accesses : List (AccessKind × Int))
    (before after : RegisterMap) : Bool :=
  breakpoints.any (·.holdsAfter accesses before after)

end Breakpoints

end Z80Monitor
