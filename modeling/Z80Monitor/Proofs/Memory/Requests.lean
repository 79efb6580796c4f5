import Z80Monitor.Proofs.Processor.Tiling

/-!
# Requests to memories

All that can be asked of memories, and what the requests that were made so far say about a memory:
which byte is seen at an address, and which accesses are on record. The main statement says that
every request is answered by what the earlier requests to the same memory say, where a copy has the
past of the memory it was made of with the record taken, and that requests to other memories make no
difference to a memory.
-/

namespace Z80Monitor

namespace Bus

/-- What can be asked of a memory. -/
inductive Request where
  /-- Read the byte at an address. -/
  | read (address : Int)
  /-- Look at the byte at an address from outside. -/
  | peek (address : Int)
  /-- Look at the byte under an index. -/
  | index (address : Int)
  /-- Write a value. -/
  | write (address value : Int)
  /-- Store a value from outside. -/
  | poke (address value : Int)
  /-- Store values at consecutive addresses from outside. -/
  | load (origin : Int) (data : List Int)
  /-- Fill the memory with zeros. -/
  | clear
  /-- Look at the bytes at consecutive addresses. -/
  | dump (start length : Int)
  /-- List the instructions of a part of memory. -/
  | list (start length : Int)
  /-- Take the record of the accesses. -/
  | takeLog
  deriving DecidableEq

/-- The answer to a request. -/
inductive Response where
  /-- The request is carried out. -/
  | done
  /-- A byte. -/
  | byte (value : UInt8)
  /-- The bytes at consecutive addresses. -/
  | bytes (values : List UInt8)
  /-- How many values were stored. -/
  | stored (count : Nat)
  /-- A listing. -/
  | listed (lines : List ListingLine)
  /-- The accesses that were on record. -/
  | taken (accesses : List Access)

/-- The answer to a request, and the memory that the request leaves. -/
def respond (bus : Bus) : Request → Response × Bus
  | .read address => (bus.read address).map .byte id
  | .peek address => (.byte (bus.memory.peek address), bus)
  | .index address => (.byte (bus.memory.peek address), bus)
  | .write address value => (.done, bus.write address value)
  | .poke address value => (.done, bus.edit (·.poke address value))
  | .load origin data => (bus.load origin data).map .stored id
  | .clear => (.done, bus.edit fun _ => .blank)
  | .dump start length => (.bytes (bus.memory.dump start length), bus)
  | .list start length => (.listed (bus.memory.listing start length), bus)
  | .takeLog => bus.takeLog.map .taken id

/-- The memory behind requests to a new one, the latest request first. -/
def after : List Request → Bus
  | [] => attach .blank
  | request :: earlier => ((after earlier).respond request).2

/-- The values that a request stores, in order, each behind its address. -/
def Request.stores : Request → List (Int × Int)
  | .write address value => [(address, value)]
  | .poke address value => [(address, value)]
  | .load origin data => data.mapIdx fun index value => (origin + index, value)
  | _ => []

/-- The values that requests, the latest first, store behind the last clearing, in order. -/
def storesOf (past : List Request) : List (Int × Int) :=
  (past.takeWhile (· ≠ .clear)).reverse.flatMap Request.stores

/-- The last of the stores that go to the same place as an address. -/
def lastStore? (stores : List (Int × Int)) (address : Int) : Option (Int × Int) :=
  (stores.filter fun store => store.1 % 65536 = address % 65536).getLast?

/-- The byte at an address behind requests, the latest first: the one stored last there since the
last clearing, and zero where there is none. -/
def byteAt (past : List Request) (address : Int) : UInt8 :=
  ((lastStore? (storesOf past) address).map fun store => byte store.2).getD 0

/-- The accesses on record behind requests, the latest first: one for each reading and writing since
the record was last taken, in order. -/
def accessesOf : List Request → List Access
  | [] => []
  | .takeLog :: _ => []
  | .read address :: earlier =>
    accessesOf earlier ++ [⟨.read, word address, byteAt earlier address⟩]
  | .write address value :: earlier => accessesOf earlier ++ [⟨.write, word address, byte value⟩]
  | _ :: earlier => accessesOf earlier

/-- The answer that requests, the latest first, determine for one more request. -/
inductive Tells (past : List Request) : Request → Response → Prop where
  /-- The byte that was stored last is read. -/
  | read (address : Int) : Tells past (.read address) (.byte (byteAt past address))
  /-- The byte that was stored last is looked at. -/
  | peek (address : Int) : Tells past (.peek address) (.byte (byteAt past address))
  /-- The byte that was stored last is found under its index. -/
  | index (address : Int) : Tells past (.index address) (.byte (byteAt past address))
  /-- Writing has no other answer. -/
  | write (address value : Int) : Tells past (.write address value) .done
  /-- Storing has no other answer. -/
  | poke (address value : Int) : Tells past (.poke address value) .done
  /-- All values are stored. -/
  | load (origin : Int) (data : List Int) : Tells past (.load origin data) (.stored data.length)
  /-- Clearing has no other answer. -/
  | clear : Tells past .clear .done
  /-- The bytes that were stored last are dumped. -/
  | dump (start length : Int) : Tells past (.dump start length)
      (.bytes ((List.range length.toNat).map fun (offset : Nat) => byteAt past (start + offset)))
  /-- The lines show the bytes that were stored last, and are those of any memory with the same
  bytes. -/
  | list {start length : Int} {lines : List ListingLine}
      (shown : lines.flatMap ListingLine.shownBytes =
        (List.range (ListingLine.totalSize lines)).map fun (offset : Nat) =>
          byteAt past (start + offset))
      (listed : ∀ memory : Memory, (∀ address, memory.peek address = byteAt past address) →
        lines = memory.listing start length) :
      Tells past (.list start length) (.listed lines)
  /-- The accesses on record are taken. -/
  | takeLog : Tells past .takeLog (.taken (accessesOf past))

end Bus

/-- Where values were stored, an address holds the last one that went to it. -/
theorem Memory.peek_pokeAll (memory : Memory) (stores : List (Int × Int)) (address : Int) :
    (memory.pokeAll stores).peek address =
      ((Bus.lastStore? stores address).map fun store => byte store.2).getD
        (memory.peek address) := by
  induction stores using List.reverseRecOn with
  | nil => rfl
  | append_singleton front store ih =>
    rw [pokeAll_append]
    change ((memory.pokeAll front).poke store.1 store.2).peek address = _
    rw [peek_poke, Bus.lastStore?, List.filter_append]
    by_cases same : store.1 % 65536 = address % 65536
    · rw [if_pos ((word_eq_word_iff _ _).mpr same.symm), List.filter_cons_of_pos (by simpa),
        List.filter_nil, List.getLast?_concat, Option.map_some, Option.getD_some]
    · have apart : word address ≠ word store.1 := fun equal =>
        same ((word_eq_word_iff _ _).mp equal).symm
      rw [if_neg apart, ih, List.filter_cons_of_neg (by simpa), List.filter_nil, List.append_nil,
        Bus.lastStore?]

namespace Bus

variable (past : List Request)

/-- Clearing forgets all that was stored. -/
theorem storesOf_clear : storesOf (.clear :: past) = [] := by
  rw [storesOf, List.takeWhile_cons_of_neg (by simp)]
  rfl

/-- Any other request adds what it stores. -/
theorem storesOf_cons {request : Request} (other : request ≠ .clear) :
    storesOf (request :: past) = storesOf past ++ request.stores := by
  rw [storesOf, List.takeWhile_cons_of_pos (by simpa), List.reverse_cons, List.flatMap_append,
    List.flatMap_singleton, storesOf]

/-- What a request other than to clear the memory does to the bytes is storing values. -/
theorem memory_respond (bus : Bus) {request : Request} (other : request ≠ .clear) :
    (bus.respond request).2.memory = bus.memory.pokeAll request.stores := by
  cases request with
  | load origin data =>
    change (bus.load origin data).2.memory = _
    rw [load_eq]
    exact bus.memory.load_eq_pokeAll origin data
  | clear => exact absurd rfl other
  | _ => rfl

/-- The bytes behind requests are those of a blank memory in which the values are stored that were
not cleared away. -/
theorem memory_after : (after past).memory = Memory.blank.pokeAll (storesOf past) := by
  induction past with
  | nil => rfl
  | cons request earlier ih =>
    by_cases clearing : request = .clear
    · rw [clearing, storesOf_clear]
      rfl
    · rw [after, memory_respond _ clearing, ih, storesOf_cons earlier clearing,
        Memory.pokeAll_append]

/-- The byte that is found behind requests. -/
theorem peek_after (address : Int) : (after past).memory.peek address = byteAt past address := by
  rw [memory_after, Memory.peek_pokeAll, Memory.peek_blank, byteAt]

/-- The accesses that are on record behind requests. -/
theorem log_after : (after past).log = accessesOf past := by
  induction past with
  | nil => rfl
  | cons request earlier ih =>
    cases request with
    | read address =>
      rw [accessesOf, ← ih, ← peek_after]
      rfl
    | write address value =>
      rw [accessesOf, ← ih]
      rfl
    | load origin data =>
      change ((after earlier).load origin data).2.log = _
      rw [load_eq]
      exact ih
    | takeLog => rfl
    | _ => exact ih

/-- The bytes that are dumped behind requests. -/
theorem dump_after (start length : Int) :
    (after past).memory.dump start length =
      (List.range length.toNat).map fun (offset : Nat) => byteAt past (start + offset) :=
  List.map_congr_left fun offset _ => peek_after past (start + offset)

/-- A request is answered by what the earlier ones say. -/
theorem tells_respond (request : Request) :
    Tells past request ((after past).respond request).1 := by
  have found (address : Int) :
      Response.byte ((after past).memory.peek address) = .byte (byteAt past address) :=
    congrArg Response.byte (peek_after past address)
  cases request with
  | read address => exact (congrArg (Tells past _) (found address)).mpr (.read address)
  | peek address => exact (congrArg (Tells past _) (found address)).mpr (.peek address)
  | index address => exact (congrArg (Tells past _) (found address)).mpr (.index address)
  | write address value => exact .write address value
  | poke address value => exact .poke address value
  | load origin data =>
    change Tells past _ (.stored ((after past).load origin data).1)
    rw [load_eq]
    exact .load origin data
  | clear => exact .clear
  | dump start length =>
    change Tells past _ (.bytes ((after past).memory.dump start length))
    rw [dump_after]
    exact .dump start length
  | list start length =>
    have shown := (after past).memory.holds_shownBytes_listingFrom start length.toNat
    refine .list ?_ fun memory same => ?_
    · rw [← Int.toNat_natCast (ListingLine.totalSize _), ← dump_after,
        ← ListingLine.length_flatMap_shownBytes]
      exact shown.dump_eq.symm
    · rw [Memory.ext_peek fun address => (same address).trans (peek_after past address).symm]
  | takeLog =>
    change Tells past _ (.taken (after past).log)
    rw [log_after]
    exact .takeLog

end Bus

/-- Memories side by side, in the order in which they came to be. -/
abbrev Bank := List Bus

namespace Bank

/-- What can be asked of memories that are known by their numbers. -/
inductive Request where
  /-- Make a new memory. -/
  | create
  /-- Ask something of one memory. -/
  | ask (number : Nat) (request : Bus.Request)
  /-- Make a copy of a memory. -/
  | copy (number : Nat)
  /-- Compare two memories. -/
  | compare (left right : Nat)

/-- The answer to a request. -/
inductive Response where
  /-- The number of the memory that was made. -/
  | created (number : Nat)
  /-- The answer of one memory. -/
  | answered (response : Bus.Response)
  /-- Whether two memories are equal. -/
  | compared (same : Bool)
  /-- No memory has the number. -/
  | absent

/-- The answer to a request, and the memories that the request leaves. -/
def respond (bank : Bank) : Request → Response × Bank
  | .create => (.created bank.length, bank ++ [Bus.attach .blank])
  | .ask number request =>
    match bank[number]? with
    | some bus => (.answered (bus.respond request).1, bank.set number (bus.respond request).2)
    | none => (.absent, bank)
  | .copy number =>
    match bank[number]? with
    | some bus => (.created bank.length, bank ++ [Bus.attach bus.memory])
    | none => (.absent, bank)
  | .compare left right =>
    match bank[left]?, bank[right]? with
    | some first, some second => (.compared (first.memory == second.memory), bank)
    | _, _ => (.absent, bank)

/-- The memories that requests lead to, one after the other. -/
def perform (bank : Bank) (requests : List Request) : Bank :=
  requests.foldl (fun before request => (before.respond request).2) bank

/-- The pasts of memories behind one more request, the latest request of each first. A copy is made
with the past of the memory it is made of, the record being taken. -/
def noted (pasts : List (List Bus.Request)) : Request → List (List Bus.Request)
  | .create => pasts ++ [[]]
  | .ask number request =>
    match pasts[number]? with
    | some past => pasts.set number (request :: past)
    | none => pasts
  | .copy number =>
    match pasts[number]? with
    | some past => pasts ++ [.takeLog :: past]
    | none => pasts
  | .compare _ _ => pasts

/-- The pasts of the memories that requests lead to. -/
def pastsOf (requests : List Request) : List (List Bus.Request) := requests.foldl noted []

/-- The answer that the pasts of memories determine for one more request. -/
inductive Tells (pasts : List (List Bus.Request)) : Request → Response → Prop where
  /-- A new memory has the next number. -/
  | created : Tells pasts .create (.created pasts.length)
  /-- A memory answers as its own past determines. -/
  | answered {number : Nat} {past : List Bus.Request} (found : pasts[number]? = some past)
      {request : Bus.Request} {response : Bus.Response}
      (told : Bus.Tells past request response) :
      Tells pasts (.ask number request) (.answered response)
  /-- A copy has the next number. -/
  | copied {number : Nat} (present : number < pasts.length) :
      Tells pasts (.copy number) (.created pasts.length)
  /-- Memories are equal where they have the same byte at each of the 65536 addresses. -/
  | compared {left right : Nat} {first second : List Bus.Request}
      (found : pasts[left]? = some first) (other : pasts[right]? = some second) {same : Bool}
      (agree : same = true ↔
        ∀ address : Nat, address < 65536 → Bus.byteAt first address = Bus.byteAt second address) :
      Tells pasts (.compare left right) (.compared same)
  /-- There is no memory to ask. -/
  | askedAbsent {number : Nat} (absent : pasts.length ≤ number) (request : Bus.Request) :
      Tells pasts (.ask number request) .absent
  /-- There is no memory to copy. -/
  | copiedAbsent {number : Nat} (absent : pasts.length ≤ number) :
      Tells pasts (.copy number) .absent
  /-- There are not two memories to compare. -/
  | comparedAbsent {left right : Nat} (absent : pasts.length ≤ left ∨ pasts.length ≤ right) :
      Tells pasts (.compare left right) .absent

variable (pasts : List (List Bus.Request))

/-- A request leaves the memories that the pasts behind it say. -/
theorem respond_map_after (request : Request) :
    (respond (pasts.map Bus.after) request).2 = (noted pasts request).map Bus.after := by
  cases request with
  | create =>
    change pasts.map Bus.after ++ [Bus.after []] = (pasts ++ [[]]).map Bus.after
    rw [List.map_append, List.map_singleton]
  | ask number request =>
    unfold respond noted
    dsimp only
    rw [List.getElem?_map]
    cases pasts[number]? with
    | none => rfl
    | some past =>
      change (pasts.map Bus.after).set number (Bus.after (request :: past)) =
        (pasts.set number (request :: past)).map Bus.after
      rw [List.map_set]
  | copy number =>
    unfold respond noted
    dsimp only
    rw [List.getElem?_map]
    cases pasts[number]? with
    | none => rfl
    | some past =>
      change pasts.map Bus.after ++ [Bus.after (.takeLog :: past)] =
        (pasts ++ [.takeLog :: past]).map Bus.after
      rw [List.map_append, List.map_singleton]
  | compare left right =>
    unfold respond noted
    dsimp only
    split <;> rfl

/-- Requests lead to the memories that the pasts behind them say. -/
theorem perform_map_after (requests : List Request) :
    perform (pasts.map Bus.after) requests = (requests.foldl noted pasts).map Bus.after := by
  induction requests generalizing pasts with
  | nil => rfl
  | cons request rest ih =>
    change perform (respond (pasts.map Bus.after) request).2 rest = _
    rw [respond_map_after, ih, List.foldl_cons]

/-- Memories are equal where all their bytes are. -/
theorem memory_after_eq_iff (first second : List Bus.Request) :
    (Bus.after first).memory = (Bus.after second).memory ↔
      ∀ address : Nat, address < 65536 →
        Bus.byteAt first address = Bus.byteAt second address := by
  constructor
  · intro same address _
    rw [← Bus.peek_after, same, Bus.peek_after]
  · intro agree
    apply Memory.ext_peek
    intro address
    have inside := agree (word address).toNat (word address).toNat_lt
    have standing := word_toNat (word address)
    rw [← Bus.peek_after, ← Bus.peek_after] at inside
    rwa [(Bus.after first).memory.peek_congr standing,
      (Bus.after second).memory.peek_congr standing] at inside

/-- A request is answered by what the pasts say. -/
theorem tells_respond (request : Request) :
    Tells pasts request (respond (pasts.map Bus.after) request).1 := by
  have size : (pasts.map Bus.after).length = pasts.length := List.length_map _
  cases request with
  | create =>
    change Tells pasts .create (.created (pasts.map Bus.after).length)
    rw [size]
    exact .created
  | ask number request =>
    unfold respond
    dsimp only
    rw [List.getElem?_map]
    cases found : pasts[number]? with
    | none => exact .askedAbsent (List.getElem?_eq_none_iff.mp found) request
    | some past => exact .answered found (Bus.tells_respond past request)
  | copy number =>
    unfold respond
    dsimp only
    rw [List.getElem?_map, size]
    cases found : pasts[number]? with
    | none => exact .copiedAbsent (List.getElem?_eq_none_iff.mp found)
    | some past => exact .copied (List.getElem?_eq_some_iff.mp found).1
  | compare left right =>
    unfold respond
    dsimp only
    rw [List.getElem?_map, List.getElem?_map]
    cases found : pasts[left]? with
    | none => exact .comparedAbsent (.inl (List.getElem?_eq_none_iff.mp found))
    | some first =>
      cases other : pasts[right]? with
      | none => exact .comparedAbsent (.inr (List.getElem?_eq_none_iff.mp other))
      | some second =>
        refine .compared found other ?_
        rw [beq_iff_eq]
        exact memory_after_eq_iff first second

/-- A request leaves every memory alone of which it asks nothing. -/
theorem getElem?_respond_of_ne (bank : Bank) {number : Nat} (present : number < bank.length)
    {request : Request} (other : ∀ asked, request ≠ .ask number asked) :
    number < (bank.respond request).2.length ∧
      (bank.respond request).2[number]? = bank[number]? := by
  have added (bus : Bus) : number < (bank ++ [bus]).length ∧
      (bank ++ [bus])[number]? = bank[number]? := by
    refine ⟨?_, List.getElem?_append_left present⟩
    rw [List.length_append]
    exact Nat.lt_add_right _ present
  cases request with
  | create => exact added _
  | ask asked request =>
    have apart : asked ≠ number := fun same => other request (by rw [same])
    unfold respond
    dsimp only
    split
    · refine ⟨?_, List.getElem?_set_ne apart⟩
      rwa [List.length_set]
    · exact ⟨present, rfl⟩
  | copy source =>
    unfold respond
    dsimp only
    split
    · exact added _
    · exact ⟨present, rfl⟩
  | compare left right =>
    unfold respond
    dsimp only
    split <;> exact ⟨present, rfl⟩

/-- Requests leave every memory alone of which they ask nothing. -/
theorem getElem?_perform_of_ne (bank : Bank) {number : Nat} (present : number < bank.length)
    {requests : List Request}
    (others : ∀ request ∈ requests, ∀ asked, request ≠ .ask number asked) :
    (bank.perform requests)[number]? = bank[number]? := by
  induction requests generalizing bank with
  | nil => rfl
  | cons request rest ih =>
    obtain ⟨inside, same⟩ := bank.getElem?_respond_of_ne present (others request List.mem_cons_self)
    have behind := ih (bank.respond request).2 inside fun later member =>
      others later (List.mem_cons_of_mem request member)
    exact behind.trans same

/-- Behind any requests, one more request is answered as the earlier requests to the same memory
determine. A copy has the bytes of the memory it is made of and no access on record, and a memory
of which nothing is asked stays as it is. -/
theorem answers_from_pasts (requests : List Request) :
    let bank := perform [] requests
    (∀ request, Tells (pastsOf requests) request (bank.respond request).1) ∧
    (∀ number bus, bank[number]? = some bus →
      (bank.respond (.copy number)).2 = bank ++ [⟨bus.memory, []⟩]) ∧
    ∀ number, number < bank.length → ∀ later : List Request,
      (∀ request ∈ later, ∀ asked, request ≠ .ask number asked) →
      (bank.perform later)[number]? = bank[number]? := by
  intro bank
  refine ⟨?_, ?_, ?_⟩
  · intro request
    have reached : bank = (pastsOf requests).map Bus.after := perform_map_after [] requests
    rw [reached]
    exact tells_respond (pastsOf requests) request
  · intro number bus found
    unfold respond
    simp only [found]
    rfl
  · intro number present later others
    exact getElem?_perform_of_ne bank present others

/-- A byte written at the last address by a negative number is in the copy as well, and changing the
copy leaves the memory it was made of with its byte and its record. -/
theorem answers_from_pasts_copied :
    let past : List Bus.Request := [.write (-1) 511]
    let bus := Bus.after past
    let bank := perform [] [.create, .ask 0 (.write (-1) 511), .copy 0]
    let later : List Request := [.ask 1 (.poke 65535 7), .ask 1 .clear, .copy 1]
    bank[0]? = some bus ∧ (bank.respond (.copy 0)).2 = bank ++ [⟨bus.memory, []⟩] ∧
    0 < bank.length ∧ (∀ request ∈ later, ∀ asked, request ≠ .ask 0 asked) ∧
    (bank.perform later)[0]? = some bus ∧
    Bus.byteAt past 65535 = 255 ∧ Bus.accessesOf past = [⟨.write, 0xFFFF, 255⟩] := by
  intro past bus bank later
  obtain ⟨_, copies, kept⟩ :=
    answers_from_pasts [.create, .ask 0 (.write (-1) 511), .copy 0]
  have found : bank[0]? = some bus := rfl
  have present : 0 < bank.length := (List.getElem?_eq_some_iff.mp found).1
  have others : ∀ request ∈ later, ∀ asked, request ≠ .ask 0 asked := by
    intro request member asked same
    simp [later, same] at member
  refine ⟨found, copies 0 bus found, present, others, ?_, by decide, by decide⟩
  exact (kept 0 present later others).trans found

end Bank

end Z80Monitor
