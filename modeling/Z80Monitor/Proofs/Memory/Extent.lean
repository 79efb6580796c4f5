import Z80Monitor.Assembly.Program
import Z80Monitor.Memory.Contents

/-!
# The extent of address spaces

An address space lists the values at its 65536 addresses, one each and in order, and has no others.
So reading a memory at any number shows one of the bytes that it lists, and a line map has an entry
for exactly the addresses that have a line.
-/

namespace Z80Monitor

namespace Halves

variable {α : Type}

/-- The values of a tree are those at its positions, in order. -/
theorem appendTo_eq : {depth : Nat} → (tree : Halves α depth) → (rest : List α) →
    tree.appendTo rest = (List.range (size depth)).map tree.get ++ rest
  | 0, .leaf value, rest => rfl
  | depth + 1, .branch lower upper, rest => by
    have front : (List.range (size depth)).map (branch lower upper).get =
        (List.range (size depth)).map lower.get := by
      apply List.map_congr_left
      intro position inside
      rw [get, if_pos (List.mem_range.mp inside)]
    have behind : ((List.range (size depth)).map (size depth + ·)).map (branch lower upper).get =
        (List.range (size depth)).map upper.get := by
      rw [List.map_map]
      apply List.map_congr_left
      intro position _
      rw [Function.comp_apply, get, if_neg (by omega), Nat.add_sub_cancel_left]
    rw [appendTo, appendTo_eq lower, appendTo_eq upper, size_succ, Nat.mul_two, List.range_add,
      List.map_append, front, behind, List.append_assoc]

end Halves

namespace AddressSpace

variable {α : Type} (space : AddressSpace α)

/-- The values of a space are those at its addresses, in order. -/
theorem toList_eq : space.toList = (List.range 65536).map space.get :=
  (Halves.appendTo_eq space []).trans (List.append_nil _)

/-- A space has a value for each address. -/
theorem length_toList : space.toList.length = 65536 := by
  rw [toList_eq, List.length_map, List.length_range]

/-- The value that a space lists at an index is the one at the address. -/
theorem getElem?_toList (index : Nat) :
    space.toList[index]? = if index < 65536 then some (space.valueAt (word index)) else none := by
  rw [toList_eq, List.getElem?_map]
  by_cases inside : index < 65536
  · have same : (word index).toNat = index := by
      have residue := toNat_word index
      omega
    rw [List.getElem?_range inside, if_pos inside, Option.map_some, valueAt, same]
  · rw [List.getElem?_eq_none (by rw [List.length_range]; omega), if_neg inside, Option.map_none]

end AddressSpace

/-- Reading a memory at a number shows the byte that it lists at the residue of the number. -/
theorem Memory.getElem?_bytes (memory : Memory) (address : Int) :
    memory.bytes.toList[(address % 65536).toNat]? = some (memory.peek address) := by
  have inside : (address % 65536).toNat < 65536 := by omega
  have same : word (address % 65536).toNat = word address := by
    rw [word_eq_word_iff]
    omega
  rw [AddressSpace.getElem?_toList, if_pos inside, same, peek]

/-- A line map has an entry for each address that has a line, and no others. -/
theorem LineMap.mem_entries_iff (map : LineMap) (address line : Nat) :
    (address, line) ∈ map.entries ↔ address < 65536 ∧ map.lineAt address = some line := by
  unfold entries
  rw [List.mem_filterMap]
  constructor
  · rintro ⟨⟨found, index⟩, listed, same⟩
    obtain ⟨other, rfl, entry⟩ := Option.map_eq_some_iff.mp same
    rw [Prod.mk.injEq] at entry
    obtain ⟨rfl, rfl⟩ := entry
    rw [List.mem_zipIdx_iff_getElem?, AddressSpace.getElem?_toList] at listed
    dsimp only at listed
    split at listed
    · rename_i inside
      exact ⟨inside, Option.some.inj listed⟩
    · cases listed
  · rintro ⟨inside, found⟩
    refine ⟨(some line, address), ?_, rfl⟩
    rw [List.mem_zipIdx_iff_getElem?, AddressSpace.getElem?_toList, if_pos inside]
    exact congrArg some found

end Z80Monitor
