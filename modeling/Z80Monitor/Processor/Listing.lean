import Z80Monitor.Instruction.Family

/-!
# Listings

The contents of memory as assembly text. A byte that starts an instruction of the opcode tables
is listed with the bytes of its operands; any other byte is listed as data.
-/

namespace Z80Monitor

/-- One line of a listing. -/
structure ListingLine where
  /-- Where the line's bytes stand. -/
  address : UInt16
  /-- The bytes in base 16. -/
  bytes : String
  /-- The assembly text. -/
  text : String
  deriving DecidableEq, Repr

/-- The line of the byte or instruction at an address, and how many bytes it covers. -/
def Memory.listingLine (memory : Memory) (address : UInt16) : ListingLine × Nat :=
  let opcode : Int := (memory.peek address.toNat).toNat
  if Family.implemented opcode then
    let (operation, _) := Operation.decode opcode address.toNat (Bus.attach memory)
    (⟨address, String.ofList operation.bytesText, operation.text⟩, operation.length)
  else
    let digits := Text.hex 2 opcode
    (⟨address, String.ofList digits, String.ofList ("DB $".toList ++ digits)⟩, 1)

/-- Every line covers a byte. -/
theorem Memory.listingLine_length_pos (memory : Memory) (address : UInt16) :
    0 < (memory.listingLine address).2 := by
  unfold Memory.listingLine
  dsimp only
  split
  · exact Operation.length_decode_pos _ _ _
  · exact Nat.one_pos

/-- The lines that cover at least `length` bytes from `start` on. -/
def Memory.listingFrom (memory : Memory) (start : Int) (length : Nat) : List ListingLine :=
  if _ : 0 < length then
    let line := memory.listingLine (word start)
    line.1 :: memory.listingFrom (start + line.2) (length - line.2)
  else []
termination_by length
decreasing_by
  have := memory.listingLine_length_pos (word start)
  omega

/-- The listing of `length` bytes from `start` on. The last line may go past the end of the
range; a range of negative length is empty. -/
def Memory.listing (memory : Memory) (start length : Int) : List ListingLine :=
  memory.listingFrom start length.toNat

end Z80Monitor
