import Z80Monitor.Word

/-!
# Address spaces

One value at each of the 65536 addresses, held as a balanced tree of halves, so that a changed
copy shares all but sixteen nodes with the space it came from. The statements here say that
writing at an address changes the value there and nowhere else, and that two spaces with the
same value at every address are the same space.
-/

namespace Z80Monitor

/-- One value at each of 2 to the power `depth` positions, the lower half of the positions first. -/
inductive Halves (α : Type) : Nat → Type where
  /-- The value at a single position. -/
  | leaf (value : α) : Halves α 0
  /-- The values at the lower and at the upper half of the positions. -/
  | branch {depth : Nat} (lower upper : Halves α depth) : Halves α (depth + 1)
  deriving DecidableEq

namespace Halves

variable {α : Type}

/-- The number of positions of a tree. -/
def size (depth : Nat) : Nat := Nat.pow 2 depth

/-- A single position. -/
@[simp] theorem size_zero : size 0 = 1 := rfl

/-- A tree has as many positions as its two halves. -/
theorem size_succ (depth : Nat) : size (depth + 1) = size depth * 2 := rfl

/-- The same value at every position. -/
def constant (value : α) : (depth : Nat) → Halves α depth
  | 0 => .leaf value
  | depth + 1 =>
    let half := constant value depth
    .branch half half

/-- The value at a position. -/
def get : {depth : Nat} → Halves α depth → Nat → α
  | 0, .leaf value, _ => value
  | depth + 1, .branch lower upper, position =>
    if position < size depth then lower.get position else upper.get (position - size depth)

/-- Put a value at a position. -/
def set : {depth : Nat} → Halves α depth → Nat → α → Halves α depth
  | 0, .leaf _, _, value => .leaf value
  | depth + 1, .branch lower upper, position, value =>
    if position < size depth then .branch (lower.set position value) upper
    else .branch lower (upper.set (position - size depth) value)

/-- The values in order of position, put in front of `rest`. -/
def appendTo : {depth : Nat} → Halves α depth → List α → List α
  | 0, .leaf value, rest => value :: rest
  | _ + 1, .branch lower upper, rest => lower.appendTo (upper.appendTo rest)

/-- How many positions hold a value with a property. -/
def count (holds : α → Bool) : {depth : Nat} → Halves α depth → Nat
  | 0, .leaf value => if holds value then 1 else 0
  | _ + 1, .branch lower upper => lower.count holds + upper.count holds

/-- A constant tree has its value at every position. -/
theorem get_constant (value : α) (depth position : Nat) :
    (constant value depth).get position = value := by
  induction depth generalizing position with
  | zero => rfl
  | succ depth ih => simp only [constant, get]; split <;> exact ih _

/-- Writing changes the value at its own position and at no other. -/
theorem get_set : {depth : Nat} → (tree : Halves α depth) → (position other : Nat) →
    (value : α) → position < size depth → other < size depth →
      (tree.set position value).get other = if other = position then value else tree.get other
  | 0, .leaf _, position, other, value, inside, inside' => by
    have same : other = position := by rw [size_zero] at inside inside'; omega
    simp [set, get, same]
  | depth + 1, .branch lower upper, position, other, value, inside, inside' => by
    rw [size_succ] at inside inside'
    by_cases h : position < size depth <;> by_cases h' : other < size depth
    · simp [set, get, h, h', get_set lower position other value h h']
    · have differ : other ≠ position := by omega
      simp [set, get, h, h', differ]
    · have differ : other ≠ position := by omega
      simp [set, get, h, h', differ]
    · have moved : other - size depth = position - size depth ↔ other = position := by omega
      simp [set, get, h, h', moved,
        get_set upper (position - size depth) (other - size depth) value (by omega) (by omega)]

/-- Trees with the same value at every position are equal. -/
theorem eq_of_get_eq : {depth : Nat} → (left right : Halves α depth) →
    (∀ position, position < size depth → left.get position = right.get position) → left = right
  | 0, .leaf value, .leaf value', same => by
    have := same 0 (by decide)
    simp only [get] at this
    rw [this]
  | depth + 1, .branch lower upper, .branch lower' upper', same => by
    have lowerSame : lower = lower' := eq_of_get_eq lower lower' fun position inside => by
      have := same position (by rw [size_succ]; omega)
      simpa [get, inside] using this
    have upperSame : upper = upper' := eq_of_get_eq upper upper' fun position inside => by
      have := same (position + size depth) (by rw [size_succ]; omega)
      have above : ¬ position + size depth < size depth := by omega
      simpa [get, above] using this
    rw [lowerSame, upperSame]

end Halves

/-- One value at each 16-bit address. -/
abbrev AddressSpace (α : Type) := Halves α 16

namespace AddressSpace

variable {α : Type}

/-- The same value at every address. -/
def filled (value : α) : AddressSpace α := Halves.constant value 16

/-- The value at an address. -/
def valueAt (space : AddressSpace α) (address : UInt16) : α := space.get address.toNat

/-- Put a value at an address. -/
def write (space : AddressSpace α) (address : UInt16) (value : α) : AddressSpace α :=
  space.set address.toNat value

/-- Put values at consecutive addresses from `origin` on, wrapping at the end; a later value
replaces an earlier one at the same address. -/
def place (space : AddressSpace α) (origin : Int) : List α → AddressSpace α
  | [] => space
  | value :: rest => (space.write (word origin) value).place (origin + 1) rest

/-- All values, from address 0 up. -/
def toList (space : AddressSpace α) : List α := space.appendTo []

/-- A filled space has its value at every address. -/
@[simp] theorem valueAt_filled (value : α) (address : UInt16) :
    (filled value).valueAt address = value :=
  Halves.get_constant value 16 address.toNat

/-- Writing changes the value at its own address and at no other. -/
theorem valueAt_write (space : AddressSpace α) (address other : UInt16) (value : α) :
    (space.write address value).valueAt other =
      if other = address then value else space.valueAt other := by
  simp only [valueAt, write, Halves.get_set space address.toNat other.toNat value address.toNat_lt
    other.toNat_lt, UInt16.toNat_inj]

/-- Placing two lists is placing the first and then the second behind it. -/
theorem place_append (space : AddressSpace α) (origin : Int) (left right : List α) :
    space.place origin (left ++ right) =
      (space.place origin left).place (origin + left.length) right := by
  induction left generalizing space origin with
  | nil => simp [place]
  | cons value rest ih =>
    simp only [List.cons_append, place, ih, List.length_cons]
    congr 1
    omega

/-- Where values are placed depends on the origin as a word only. -/
theorem place_of_word_eq (space : AddressSpace α) {origin other : Int}
    (same : word origin = word other) (values : List α) :
    space.place origin values = space.place other values := by
  induction values generalizing space origin other with
  | nil => rfl
  | cons value rest ih =>
    have further : word (origin + 1) = word (other + 1) := by
      rw [word_eq_word_iff] at same ⊢
      omega
    rw [place, place, same, ih _ further]

/-- Spaces with the same value at every address are equal. -/
theorem ext {left right : AddressSpace α}
    (same : ∀ address, left.valueAt address = right.valueAt address) : left = right :=
  Halves.eq_of_get_eq left right fun position inside => by
    have found := same (UInt16.ofNat position)
    have small : position % 65536 = position := Nat.mod_eq_of_lt inside
    simp only [valueAt, UInt16.toNat_ofNat'] at found
    rwa [show position % _ = position from small] at found

end AddressSpace

end Z80Monitor
