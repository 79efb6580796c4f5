import Mathlib.Data.Int.ModEq
import Z80Monitor.Memory.Bus
import Z80Monitor.Proofs.Memory.Placement

/-!
# Loading and dumping

Loading is storing value by value, in order, so the last value that goes to an address is the one
found there. The main statement says that dumping what was loaded gives the values back, cut off to
bytes, as far as they have not been replaced by later ones; that addresses to which no value goes
keep their bytes; and that loading what was dumped changes nothing. Ranges may start anywhere and
may go round the address space any number of times.
-/

namespace Z80Monitor

namespace Memory

variable (memory : Memory)

/-- Store values at their addresses, one after the other. -/
def pokeAll (memory : Memory) (stores : List (Int × Int)) : Memory :=
  stores.foldl (fun before store => before.poke store.1 store.2) memory

/-- The values that are loaded from `origin` on, each behind the address that it goes to. -/
def storesFrom (origin : Int) (data : List Int) : List (Int × Int) :=
  data.mapIdx fun index value => (origin + index, value)

/-- The first value goes to the origin and the others behind it. -/
theorem storesFrom_cons (origin value : Int) (rest : List Int) :
    storesFrom origin (value :: rest) = (origin, value) :: storesFrom (origin + 1) rest := by
  have behind (index : Nat) : origin + ((index + 1 : Nat) : Int) = origin + 1 + index := by omega
  unfold storesFrom
  rw [List.mapIdx_cons, Int.natCast_zero, Int.add_zero]
  simp only [behind]

/-- Storing two lists is storing the first and then the second. -/
theorem pokeAll_append (first second : List (Int × Int)) :
    memory.pokeAll (first ++ second) = (memory.pokeAll first).pokeAll second :=
  List.foldl_append

/-- Loading is storing value by value. -/
theorem load_eq_pokeAll (origin : Int) (data : List Int) :
    memory.load origin data = memory.pokeAll (storesFrom origin data) := by
  induction data generalizing memory origin with
  | nil => rfl
  | cons value rest ih =>
    rw [storesFrom_cons]
    exact ih (memory.poke origin value) (origin + 1)

/-- Loading two lists is loading the first and then the second behind it. -/
theorem load_append (origin : Int) (first second : List Int) :
    memory.load origin (first ++ second) =
      (memory.load origin first).load (origin + first.length) second := by
  unfold load
  rw [List.map_append, AddressSpace.place_append, List.length_map]

/-- One more byte is dumped in front of those behind it. -/
theorem dump_succ (start : Int) (length : Nat) :
    memory.dump start (length + 1 : Nat) =
      memory.peek start :: memory.dump (start + 1) length := by
  have behind (offset : Nat) : start + ((offset + 1 : Nat) : Int) = start + 1 + offset := by omega
  unfold dump
  rw [Int.toNat_natCast, Int.toNat_natCast, List.range_succ_eq_map, List.map_cons, List.map_map,
    Int.natCast_zero, Int.add_zero]
  congr 1
  apply List.map_congr_left
  intro offset _
  rw [Function.comp_apply, behind]

/-- Storing the byte that is there already changes nothing. -/
theorem poke_peek (address : Int) : memory.poke address (memory.peek address).toNat = memory := by
  apply ext_peek
  intro other
  rw [peek_poke, byte_toNat]
  split
  · rename_i same
    exact (memory.peek_congr same).symm
  · rfl

/-- Loading what was dumped changes nothing. -/
theorem load_dump (start length : Int) :
    memory.load start ((memory.dump start length).map fun value => (value.toNat : Int)) =
      memory := by
  obtain ⟨count, same⟩ : ∃ count : Nat, memory.dump start length = memory.dump start count :=
    ⟨length.toNat, by rw [dump, dump, Int.toNat_natCast]⟩
  rw [same]
  clear same
  induction count generalizing start with
  | zero => rfl
  | succ count ih =>
    rw [dump_succ, List.map_cons, load_eq_pokeAll, storesFrom_cons]
    change (memory.poke start (memory.peek start).toNat).pokeAll _ = memory
    rw [poke_peek, ← load_eq_pokeAll]
    exact ih (start + 1)

/-- Bytes that stand in memory are dumped. -/
theorem Holds.dump_eq {memory : Memory} {start : Int} {bytes : List UInt8}
    (held : memory.Holds start bytes) : memory.dump start bytes.length = bytes := by
  induction bytes generalizing start with
  | nil => rfl
  | cons value rest ih =>
    obtain ⟨first, behind⟩ := held
    rw [List.length_cons, dump_succ, first, ih behind]

/-- Values that do not go round the address space are dumped as they were loaded. -/
theorem dump_load (origin : Int) {data : List Int} (fits : data.length ≤ 65536) :
    (memory.load origin data).dump origin data.length = data.map byte := by
  have held : (memory.load origin data).Holds origin (data.map byte) := by
    apply holds_of_getElem?
    intro index value found
    exact AddressSpace.valueAt_place _ _ (by rwa [List.length_map]) found
  have dumped := held.dump_eq
  rwa [List.length_map] at dumped

/-- Of values that go round the address space, the last ones that fill it are dumped. -/
theorem dump_load_of_lt (origin : Int) {data : List Int} (large : 65536 < data.length) :
    (memory.load origin data).dump (origin + data.length - 65536) 65536 =
      (data.drop (data.length - 65536)).map byte := by
  obtain ⟨front, last, rfl, filling⟩ :
      ∃ front last, data = front ++ last ∧ last.length = 65536 := by
    refine ⟨data.take (data.length - 65536), data.drop (data.length - 65536),
      (List.take_append_drop _ _).symm, ?_⟩
    rw [List.length_drop]
    omega
  have size : (front ++ last).length = front.length + 65536 := by
    rw [List.length_append, filling]
  have start : origin + ((front.length + 65536 : Nat) : Int) - 65536 = origin + front.length := by
    omega
  have dumped := dump_load (memory.load origin front) (origin + front.length)
    (Nat.le_of_eq filling)
  rw [filling, ← load_append] at dumped
  rw [size, start, Nat.add_sub_cancel_right, List.drop_left]
  exact dumped

/-- An address to which no loaded value goes keeps its byte. -/
theorem peek_load_of_not_modEq {origin : Int} {data : List Int} {address : Int}
    (apart : ∀ index < data.length, ¬address ≡ origin + (index : Nat) [ZMOD 65536]) :
    (memory.load origin data).peek address = memory.peek address := by
  apply AddressSpace.valueAt_place_of_ne
  intro index inside same
  rw [List.length_map] at inside
  exact apart index inside ((word_eq_word_iff _ _).mp same).symm

/-- Bytes as numbers are the residues of the numbers that they were made of. -/
theorem map_toNat_byte (data : List Int) :
    (data.map byte).map (fun value => (value.toNat : Int)) = data.map (· % 256) := by
  rw [List.map_map]
  exact List.map_congr_left fun value _ => toNat_byte value

end Memory

namespace Bus

/-- Loading counts the values and stores them without a record of it. -/
theorem load_eq (bus : Bus) (origin : Int) (data : List Int) :
    bus.load origin data = (data.length, bus.edit fun memory => memory.load origin data) := by
  unfold load
  rw [Memory.storeFrom_eq, Nat.zero_add, Int.natCast_zero, Int.add_zero]
  rfl

/-- Loading and dumping undo each other. -/
theorem load_dump_inverse (bus : Bus) (origin : Int) (data : List Int) :
    let size := data.length
    let loaded := (bus.load origin data).2.memory
    bus.load origin data = (size, bus.edit fun memory =>
      memory.pokeAll (data.mapIdx fun index value => (origin + index, value))) ∧
    (size ≤ 65536 →
      (loaded.dump origin size).map (fun value => (value.toNat : Int)) = data.map (· % 256)) ∧
    (65536 < size →
      (loaded.dump (origin + size - 65536) 65536).map (fun value => (value.toNat : Int)) =
        (data.drop (size - 65536)).map (· % 256)) ∧
    (∀ address, (∀ index < size, ¬address ≡ origin + (index : Nat) [ZMOD 65536]) →
      loaded.peek address = bus.memory.peek address) ∧
    ∀ start length, (bus.load start
      ((bus.memory.dump start length).map fun value => (value.toNat : Int))).2 = bus := by
  intro size loaded
  have same : loaded = bus.memory.load origin data :=
    congrArg (fun answer => answer.2.memory) (bus.load_eq origin data)
  rw [same]
  refine ⟨?_, ?_, ?_, ?_, ?_⟩
  · simp only [load_eq, Memory.load_eq_pokeAll]
    rfl
  · intro fits
    rw [bus.memory.dump_load origin fits, Memory.map_toNat_byte]
  · intro large
    rw [bus.memory.dump_load_of_lt origin large, Memory.map_toNat_byte]
  · intro address apart
    exact bus.memory.peek_load_of_not_modEq apart
  · intro start length
    rw [load_eq]
    exact congrArg (fun memory => Bus.mk memory bus.log) (bus.memory.load_dump start length)

/-- Numbers of any size and sign over the end of memory, and one value more than memory has room
for, which replaces the first one. -/
theorem load_dump_inverse_over_end :
    let bus := attach .blank
    let data : List Int := 7 :: List.replicate 65536 (-1)
    let loaded := (bus.load (-1) [300, -1]).2.memory
    let filled := (bus.load (-1) data).2.memory
    (loaded.dump (-1) 2).map (fun value => (value.toNat : Int)) = [44, 255] ∧
    (∀ index < 2, ¬(1 : Int) ≡ -1 + (index : Nat) [ZMOD 65536]) ∧ loaded.peek 1 = 0 ∧
    65536 < data.length ∧
    (filled.dump 0 65536).map (fun value => (value.toNat : Int)) = List.replicate 65536 255 := by
  intro bus data loaded filled
  obtain ⟨_, short, _, kept, _⟩ := load_dump_inverse bus (-1) [300, -1]
  obtain ⟨_, _, long, _⟩ := load_dump_inverse bus (-1) data
  have apart : ∀ index < 2, ¬(1 : Int) ≡ -1 + (index : Nat) [ZMOD 65536] := by decide
  have size : data.length = 65537 := by rw [List.length_cons, List.length_replicate]
  have large : 65536 < data.length := by omega
  refine ⟨short (by decide), apart, (kept 1 apart).trans (Memory.peek_blank 1), large, ?_⟩
  have dumped := long large
  rw [size, show 65537 - 65536 = 1 from rfl, List.drop_one, List.tail_cons, List.map_replicate]
    at dumped
  exact dumped

end Bus

end Z80Monitor
