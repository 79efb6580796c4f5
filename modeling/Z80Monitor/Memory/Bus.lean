import Z80Monitor.Memory.Contents

/-!
# The bus

A memory with the record of the accesses made through it. Reading and writing are recorded;
looking at the memory or editing it from outside is not, and works on `Bus.memory` directly.
-/

namespace Z80Monitor

/-- The kinds of recorded access. -/
inductive AccessKind where
  /-- A byte was read. -/
  | read
  /-- A byte was written. -/
  | write
  deriving DecidableEq, Repr

/-- One recorded access. -/
structure Access where
  /-- Whether the byte was read or written. -/
  kind : AccessKind
  /-- Where it was read or written. -/
  address : UInt16
  /-- The byte. -/
  data : UInt8
  deriving DecidableEq, Repr

/-- The text of an access: `R` or `W`, the address, and the byte behind an equals sign. -/
def Access.text (access : Access) : String :=
  let kind := match access.kind with
    | .read => 'R'
    | .write => 'W'
  String.ofList (kind :: Text.hexWord access.address ++ ['='] ++ Text.hexByte access.data)

/-- A memory with the accesses made since the record was last taken. -/
structure Bus where
  /-- The memory. -/
  memory : Memory
  /-- The accesses, in order. -/
  log : List Access
  deriving DecidableEq

namespace Bus

/-- A memory on a bus without any access so far. -/
def attach (memory : Memory) : Bus := ⟨memory, []⟩

/-- Read the byte at an address. -/
def read (bus : Bus) (address : Int) : UInt8 × Bus :=
  let data := bus.memory.peek address
  (data, { bus with log := bus.log ++ [⟨.read, word address, data⟩] })

/-- Write a value at an address. -/
def write (bus : Bus) (address value : Int) : Bus :=
  ⟨bus.memory.poke address value, bus.log ++ [⟨.write, word address, byte value⟩]⟩

/-- Take the record, which then starts anew. -/
def takeLog (bus : Bus) : List Access × Bus := (bus.log, attach bus.memory)

/-- Change the memory without a record of it. -/
def edit (bus : Bus) (change : Memory → Memory) : Bus := { bus with memory := change bus.memory }

/-- Load values without a record of it, and tell how many there were. -/
def load (bus : Bus) (origin : Int) (data : List Int) : Nat × Bus :=
  let (count, memory) := bus.memory.storeFrom origin 0 data
  (count, { bus with memory })

end Bus

end Z80Monitor
