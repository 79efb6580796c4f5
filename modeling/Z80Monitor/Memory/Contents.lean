import Z80Monitor.Memory.AddressSpace
import Z80Monitor.Text.Hexadecimal

/-!
# Memory contents

A byte at each of the 65536 addresses. Addresses and values may be numbers of any size and sign:
an address wraps at 65536 and a value at 256, so no access is refused.
-/

namespace Z80Monitor

/-- A byte at each address. -/
structure Memory where
  /-- The bytes by address. -/
  bytes : AddressSpace UInt8
  deriving DecidableEq

namespace Memory

/-- A memory that holds zero at every address. -/
def blank : Memory := ⟨AddressSpace.filled 0⟩

/-- The byte at an address. -/
def peek (memory : Memory) (address : Int) : UInt8 := memory.bytes.valueAt (word address)

/-- Store a value at an address. -/
def poke (memory : Memory) (address value : Int) : Memory :=
  ⟨memory.bytes.write (word address) (byte value)⟩

/-- Store values at consecutive addresses from `origin` on; a later value replaces an earlier
one at the same address. -/
def load (memory : Memory) (origin : Int) (data : List Int) : Memory :=
  ⟨memory.bytes.place origin (data.map byte)⟩

/-- Store values at consecutive addresses from `origin` on, one after the other, where `count`
values are stored already, and tell how many are stored then. -/
def storeFrom (memory : Memory) (origin : Int) (count : Nat) : List Int → Nat × Memory
  | [] => (count, memory)
  | value :: rest => (memory.poke (origin + count) value).storeFrom origin (count + 1) rest

/-- The bytes at `length` consecutive addresses from `start` on; none for a negative length. -/
def dump (memory : Memory) (start length : Int) : List UInt8 :=
  (List.range length.toNat).map fun (offset : Nat) => memory.peek (start + offset)

/-- How many addresses hold a byte other than zero. -/
def nonZeroCount (memory : Memory) : Nat := memory.bytes.count (· != 0)

/-- The size of the memory and how much of it is in use. -/
def summary (memory : Memory) : String :=
  String.ofList ("Memory(size=".toList ++ Text.markedHex 0 65536 ++ ", non_zero=".toList ++
    Text.decimal memory.nonZeroCount ++ [')'])

/-- A blank memory holds zero everywhere. -/
@[simp] theorem peek_blank (address : Int) : blank.peek address = 0 := by
  simp [peek, blank]

/-- Storing changes the byte at the congruent addresses and nowhere else. -/
theorem peek_poke (memory : Memory) (address value other : Int) :
    (memory.poke address value).peek other =
      if word other = word address then byte value else memory.peek other := by
  simp [peek, poke, AddressSpace.valueAt_write]

/-- Storing values one after the other is loading them, and they are counted on the way. -/
theorem storeFrom_eq (memory : Memory) (origin : Int) (count : Nat) (data : List Int) :
    memory.storeFrom origin count data =
      (count + data.length, memory.load (origin + count) data) := by
  induction data generalizing memory count with
  | nil => rfl
  | cons value rest ih =>
    have further : origin + ((count + 1 : Nat) : Int) = origin + count + 1 := by omega
    rw [storeFrom, ih, further, Nat.add_assoc, Nat.add_comm 1, List.length_cons]
    rfl

/-- Memories with the same byte at every address are equal. -/
theorem ext_peek {left right : Memory} (same : ∀ address, left.peek address = right.peek address) :
    left = right := by
  obtain ⟨left⟩ := left
  obtain ⟨right⟩ := right
  congr 1
  apply AddressSpace.ext
  intro address
  simpa [peek, word_toNat] using same address.toNat

end Memory

end Z80Monitor
