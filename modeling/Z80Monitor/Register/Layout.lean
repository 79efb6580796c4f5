import Z80Monitor.Register.View

/-!
# Register displays

The registers under the names that displays use, the groups that displays show them in, and the
flags with their names.
-/

namespace Z80Monitor

/-- Values by register name. -/
abbrev RegisterMap := List (String × Int)

namespace Registers

/-- Every register and pair under its display name; a flip-flop shows as 0 or 1. -/
def display (registers : Registers) : RegisterMap :=
  let byte (register : ByteRegister) : Int := (registers.getByte register).toNat
  let word (register : WordRegister) : Int := (registers.getWord register).toNat
  let pair (pair : Pair) : Int := (registers.getPair pair).toNat
  let flipFlop (register : FlipFlop) : Int := if registers.getFlipFlop register then 1 else 0
  [("A", byte .a), ("F", byte .f), ("B", byte .b), ("C", byte .c), ("D", byte .d),
    ("E", byte .e), ("H", byte .h), ("L", byte .l),
    ("PC", word .pc), ("SP", word .sp), ("IX", word .ix), ("IY", word .iy),
    ("I", byte .i), ("R", byte .r),
    ("AF", pair .af), ("BC", pair .bc), ("DE", pair .de), ("HL", pair .hl),
    ("IFF1", flipFlop .iff1), ("IFF2", flipFlop .iff2), ("IM", byte .im)]

/-- Every flag with its name, from the most significant bit down. -/
def flags (registers : Registers) : List (String × Bool) :=
  Flag.all.map fun flag => (flag.name, registers.getFlag flag)

end Registers

/-- Registers that are shown together, each with its width in bits. -/
structure RegisterGroup where
  /-- The heading of the group. -/
  title : String
  /-- Display names and widths. -/
  members : List (String × Nat)
  deriving DecidableEq, Repr

/-- The groups that displays show. -/
def registerLayout : List RegisterGroup :=
  [⟨"Main Registers",
      [("A", 8), ("F", 8), ("B", 8), ("C", 8), ("D", 8), ("E", 8), ("H", 8), ("L", 8)]⟩,
    ⟨"Special Registers",
      [("PC", 16), ("SP", 16), ("IX", 16), ("IY", 16), ("I", 8), ("R", 8)]⟩,
    ⟨"Interrupt", [("IFF1", 1), ("IFF2", 1), ("IM", 8)]⟩]

end Z80Monitor
