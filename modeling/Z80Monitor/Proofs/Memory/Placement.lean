import Z80Monitor.Memory.Contents

/-!
# Placed values

Where values placed at consecutive addresses end up. An address keeps its value unless one is
placed there, and holds the last one placed there otherwise; values that do not go round the
address space are all found again. `Memory.Holds` says that bytes stand at consecutive addresses.
-/

namespace Z80Monitor

/-- Addresses less than the size of the address space apart are the same only where equal. -/
theorem word_add_inj {origin : Int} {first second : Nat} (firstSmall : first < 65536)
    (secondSmall : second < 65536) (same : word (origin + first) = word (origin + second)) :
    first = second := by
  rw [word_eq_word_iff] at same
  omega

namespace AddressSpace

variable {α : Type}

/-- An address where nothing is placed keeps its value. -/
theorem valueAt_place_of_ne (space : AddressSpace α) (origin : Int) (values : List α)
    (address : UInt16)
    (apart : ∀ index < values.length, word (origin + (index : Nat)) ≠ address) :
    (space.place origin values).valueAt address = space.valueAt address := by
  induction values generalizing space origin with
  | nil => rfl
  | cons value rest ih =>
    have head : address ≠ word origin := by
      have first := apart 0 (by simp)
      rw [Int.natCast_zero, Int.add_zero] at first
      exact first.symm
    have behind : ∀ index < rest.length, word (origin + 1 + (index : Nat)) ≠ address := by
      intro index inside
      have later := apart (index + 1) (by simpa using inside)
      rwa [Int.natCast_add, Int.natCast_one, Int.add_comm (index : Int), ← Int.add_assoc] at later
    rw [place, ih _ _ behind, valueAt_write, if_neg head]

/-- The last value placed at an address is found there. -/
theorem valueAt_place_of_last (space : AddressSpace α) (origin : Int) (values : List α)
    (index : Nat) (value : α) (found : values[index]? = some value)
    (last : ∀ later < values.length, index < later →
      word (origin + (later : Nat)) ≠ word (origin + (index : Nat))) :
    (space.place origin values).valueAt (word (origin + (index : Nat))) = value := by
  induction values generalizing space origin index with
  | nil => cases found
  | cons head rest ih =>
    have behind (position : Nat) :
        origin + ((position + 1 : Nat) : Int) = origin + 1 + (position : Nat) := by omega
    cases index with
    | zero =>
      obtain rfl := Option.some.inj found
      rw [Int.natCast_zero, Int.add_zero] at last ⊢
      rw [place, valueAt_place_of_ne, valueAt_write, if_pos rfl]
      intro later inside
      rw [← behind]
      exact last (later + 1) (by simpa using inside) (Nat.succ_pos later)
    | succ index =>
      rw [behind] at last ⊢
      rw [place]
      apply ih _ _ _ found
      intro later inside after
      rw [← behind]
      exact last (later + 1) (by simpa using inside) (by omega)

/-- Of `length` values placed from `origin` on, the one with an index is the last that goes to an
address. -/
structure LastAt (origin : Int) (length : Nat) (address : UInt16) (index : Nat) : Prop where
  /-- The value is among those placed. -/
  inside : index < length
  /-- The value goes to the address. -/
  reaches : word (origin + (index : Nat)) = address
  /-- No value behind it goes there. -/
  last : ∀ later < length, index < later → word (origin + (later : Nat)) ≠ address

/-- Either no value goes to an address, or one of them is the last to go there. -/
theorem exists_lastAt (origin : Int) (length : Nat) (address : UInt16) :
    (∀ index < length, word (origin + (index : Nat)) ≠ address) ∨
      ∃ index, LastAt origin length address index := by
  induction length with
  | zero => exact .inl fun _ inside => absurd inside (Nat.not_lt_zero _)
  | succ length ih =>
    by_cases reached : word (origin + (length : Nat)) = address
    · right
      refine ⟨length, Nat.lt_succ_self length, reached, ?_⟩
      intro later inside behind
      omega
    · have short (index : Nat) (inside : index < length + 1)
          (same : word (origin + index) = address) : index < length := by
        have apart : index ≠ length := fun equal => reached (equal ▸ same)
        omega
      rcases ih with absent | ⟨index, found⟩
      · left
        intro index inside same
        exact absent index (short index inside same) same
      · right
        refine ⟨index, Nat.lt_succ_of_lt found.inside, found.reaches, ?_⟩
        intro later inside behind same
        exact found.last later (short later inside same) behind same

/-- Where a value is the last that goes to an address, it is found there. -/
theorem valueAt_place_of_lastAt (space : AddressSpace α) {origin : Int} {values : List α}
    {address : UInt16} {index : Nat} {value : α}
    (last : LastAt origin values.length address index) (found : values[index]? = some value) :
    (space.place origin values).valueAt address = value := by
  obtain ⟨_, rfl, behind⟩ := last
  exact valueAt_place_of_last space origin values index value found behind

/-- Values that do not go round the address space are found where they were placed. -/
theorem valueAt_place (space : AddressSpace α) (origin : Int) {values : List α}
    (fits : values.length ≤ 65536) {index : Nat} {value : α}
    (found : values[index]? = some value) :
    (space.place origin values).valueAt (word (origin + (index : Nat))) = value := by
  apply valueAt_place_of_last _ _ _ _ _ found
  intro later inside after same
  have equal := word_add_inj (by omega) (by omega) same
  omega

end AddressSpace

namespace Memory

/-- Bytes stand at consecutive addresses from `address` on. -/
def Holds (memory : Memory) (address : Int) : List UInt8 → Prop
  | [] => True
  | value :: rest => memory.peek address = value ∧ memory.Holds (address + 1) rest

/-- Congruent addresses hold the same byte. -/
theorem peek_congr (memory : Memory) {address other : Int} (same : word address = word other) :
    memory.peek address = memory.peek other := congrArg memory.bytes.valueAt same

/-- Bytes at congruent addresses are the same. -/
theorem Holds.congr {memory : Memory} {address other : Int} {bytes : List UInt8}
    (held : memory.Holds address bytes) (same : word address = word other) :
    memory.Holds other bytes := by
  induction bytes generalizing address other with
  | nil => exact trivial
  | cons value rest ih =>
    obtain ⟨first, behind⟩ := held
    have moved : word (address + 1) = word (other + 1) := by
      rw [word_eq_word_iff] at same ⊢
      omega
    exact ⟨(memory.peek_congr same).symm.trans first, ih behind moved⟩

/-- Bytes stand where each of them does. -/
theorem holds_of_getElem? {memory : Memory} {address : Int} {bytes : List UInt8}
    (each : ∀ (index : Nat) (value : UInt8), bytes[index]? = some value →
      memory.peek (address + index) = value) : memory.Holds address bytes := by
  induction bytes generalizing address with
  | nil => exact trivial
  | cons value rest ih =>
    constructor
    · have first := each 0 value rfl
      rwa [Int.natCast_zero, Int.add_zero] at first
    · apply ih
      intro index found inside
      have later := each (index + 1) found inside
      rwa [show address + ((index + 1 : Nat) : Int) = address + 1 + (index : Nat) by omega] at later

/-- Loaded bytes are placed as they are. -/
theorem bytes_load (memory : Memory) (origin : Int) (data : List UInt8) :
    (memory.load origin (data.map fun value => (value.toNat : Int))).bytes =
      memory.bytes.place origin data := by
  have same : (data.map fun value => (value.toNat : Int)).map byte = data := by
    rw [List.map_map]
    exact (List.map_congr_left fun value _ => byte_toNat value).trans (List.map_id _)
  rw [load, same]

/-- An address to which no loaded byte goes keeps its byte. -/
theorem peek_load_of_ne (memory : Memory) {origin : Int} {data : List UInt8} {address : UInt16}
    (apart : ∀ index < data.length, word (origin + (index : Nat)) ≠ address) :
    (memory.load origin (data.map fun value => (value.toNat : Int))).peek address.toNat =
      memory.peek address.toNat := by
  rw [peek, peek, word_toNat, bytes_load]
  exact AddressSpace.valueAt_place_of_ne _ _ _ _ apart

/-- An address holds the last loaded byte that goes to it. -/
theorem peek_load_of_lastAt (memory : Memory) {origin : Int} {data : List UInt8}
    {address : UInt16} {index : Nat}
    (last : AddressSpace.LastAt origin data.length address index) :
    data[index]? =
      some ((memory.load origin (data.map fun value => (value.toNat : Int))).peek
        address.toNat) := by
  have found := List.getElem?_eq_getElem last.inside
  rw [peek, word_toNat, bytes_load, AddressSpace.valueAt_place_of_lastAt _ last found]
  exact found

/-- A program that fits into memory stands there part by part after it was loaded. -/
theorem holds_load (memory : Memory) (origin : Int) {front part behind : List UInt8}
    (fits : (front ++ part ++ behind).length ≤ 65536) :
    (memory.load origin ((front ++ part ++ behind).map fun value => (value.toNat : Int))).Holds
      (origin + front.length) part := by
  apply holds_of_getElem?
  intro index value found
  have inside : index < part.length := (List.getElem?_eq_some_iff.mp found).1
  have position : (front ++ part ++ behind)[front.length + index]? = some value := by
    rw [List.append_assoc, List.getElem?_append_right (by omega), Nat.add_sub_cancel_left,
      List.getElem?_append_left inside, found]
  rw [peek, bytes_load, Int.add_assoc, ← Int.natCast_add]
  exact AddressSpace.valueAt_place _ _ fits position

end Memory

end Z80Monitor
