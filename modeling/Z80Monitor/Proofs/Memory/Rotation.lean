import Z80Monitor.Proofs.Memory.Placement

/-!
# Rotated address spaces

An address space in which every value has gone on by the same distance, round the end to the
beginning. Values placed a distance further on in the rotated space are the values placed in the
space itself, rotated, whether or not they go over the end.
-/

namespace Z80Monitor

namespace Halves

variable {α : Type}

/-- The tree with the value that a function gives for each position. -/
def tabulate : (depth : Nat) → (Nat → α) → Halves α depth
  | 0, value => .leaf (value 0)
  | depth + 1, value =>
    .branch (tabulate depth value) (tabulate depth fun position => value (size depth + position))

/-- A tabulated tree has at each position the value that the function gives for it. -/
theorem get_tabulate (depth : Nat) (value : Nat → α) {position : Nat}
    (inside : position < size depth) : (tabulate depth value).get position = value position := by
  induction depth generalizing value position with
  | zero =>
    rw [size_zero] at inside
    rw [show position = 0 by omega]
    rfl
  | succ depth ih =>
    rw [size_succ] at inside
    rw [tabulate, get]
    by_cases lower : position < size depth
    · rw [if_pos lower, ih value lower]
    · rw [if_neg lower, ih _ (by omega), Nat.add_sub_cancel' (by omega)]

end Halves

namespace AddressSpace

variable {α : Type} (space : AddressSpace α) (distance : Int)

/-- The space whose value at each address is the one found a distance in front of it. -/
def rotate (space : AddressSpace α) (distance : Int) : AddressSpace α :=
  Halves.tabulate 16 fun position => space.valueAt (word (position - distance))

/-- Rotating moves the value at an address on by the distance. -/
theorem valueAt_rotate (address : Int) :
    (space.rotate distance).valueAt (word (address + distance)) =
      space.valueAt (word address) := by
  have back : word ((word (address + distance)).toNat - distance) = word address := by
    rw [word_eq_word_iff, toNat_word]
    omega
  rw [rotate, valueAt, Halves.get_tabulate 16 _ (word (address + distance)).toNat_lt, back]

variable {distance} in
/-- Spaces are equal where they have the same value a distance behind every address. -/
theorem ext_add {left right : AddressSpace α}
    (same : ∀ address : Int,
      left.valueAt (word (address + distance)) = right.valueAt (word (address + distance))) :
    left = right := by
  apply AddressSpace.ext
  intro address
  have found := same (address.toNat - distance)
  rwa [Int.sub_add_cancel, word_toNat] at found

/-- A filled space is the same from everywhere. -/
theorem rotate_filled (value : α) : (filled value).rotate distance = filled value := by
  apply ext_add
  intro address
  rw [valueAt_rotate, valueAt_filled, valueAt_filled]

/-- Writing a distance further on in the rotated space is writing and then rotating. -/
theorem write_rotate (address : Int) (value : α) :
    (space.rotate distance).write (word (address + distance)) value =
      (space.write (word address) value).rotate distance := by
  apply ext_add
  intro other
  have moved : word (other + distance) = word (address + distance) ↔ word other = word address := by
    rw [word_eq_word_iff, word_eq_word_iff]
    omega
  rw [valueAt_rotate, valueAt_write, valueAt_write, valueAt_rotate]
  simp only [moved]

/-- Placing values a distance further on in the rotated space is placing them and then rotating. -/
theorem place_rotate (origin : Int) (values : List α) :
    (space.rotate distance).place (origin + distance) values =
      (space.place origin values).rotate distance := by
  induction values generalizing space origin with
  | nil => rfl
  | cons value rest ih =>
    rw [place, place, write_rotate, ← ih, Int.add_right_comm]

end AddressSpace

namespace Memory

variable {memory : Memory} (distance : Int)

/-- The memory in which every byte has gone on by a distance. -/
def rotate (memory : Memory) (distance : Int) : Memory := ⟨memory.bytes.rotate distance⟩

/-- Rotating moves the byte at an address on by the distance. -/
theorem peek_rotate (memory : Memory) (address : Int) :
    (memory.rotate distance).peek (address + distance) = memory.peek address :=
  memory.bytes.valueAt_rotate distance address

/-- Bytes that stand in a memory stand a distance further on in the rotated one. -/
theorem Holds.rotate {address : Int} {bytes : List UInt8} (held : memory.Holds address bytes) :
    (memory.rotate distance).Holds (address + distance) bytes := by
  induction bytes generalizing address with
  | nil => exact trivial
  | cons value rest ih =>
    obtain ⟨first, behind⟩ := held
    have further := ih behind
    rw [Int.add_right_comm] at further
    exact ⟨(peek_rotate distance memory address).trans first, further⟩

end Memory

end Z80Monitor
