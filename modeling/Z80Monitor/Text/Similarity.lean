/-!
# Similar texts

How much of two texts agrees: the longest block that both have, and what agrees in front of it
and behind it. Two texts are similar when the agreeing part is at least three fifths of their
mean length.
-/

namespace Z80Monitor.Text

/-- A block of characters that stands in two texts. -/
structure CommonBlock where
  /-- Where it starts in the first text. -/
  left : Nat
  /-- Where it starts in the second text. -/
  right : Nat
  /-- How long it is. -/
  length : Nat
  deriving DecidableEq, Repr

/-- The length of the longest common beginning. -/
def commonBeginning : List Char → List Char → Nat
  | first :: left, second :: right =>
    if first = second then commonBeginning left right + 1 else 0
  | _, _ => 0

/-- The longest block of two texts: the first in the first text, and then in the second, if
there are several. -/
def longestBlock (left right : List Char) : CommonBlock :=
  let starts := (List.range left.length).flatMap fun start =>
    (List.range right.length).map fun other => (start, other)
  starts.foldl
    (fun best (start, other) =>
      let length := commonBeginning (left.drop start) (right.drop other)
      if best.length < length then ⟨start, other, length⟩ else best)
    ⟨0, 0, 0⟩

/-- How many characters of two texts agree; `depth` bounds how often the texts are divided. -/
def agreement (depth : Nat) (left right : List Char) : Nat :=
  match depth with
  | 0 => 0
  | depth + 1 =>
    let block := longestBlock left right
    if block.length = 0 then 0
    else
      agreement depth (left.take block.left) (right.take block.right) + block.length +
        agreement depth (left.drop (block.left + block.length))
          (right.drop (block.right + block.length))

/-- Whether two texts are similar. -/
def similar (left right : String) : Bool :=
  let left := left.toList
  let right := right.toList
  3 * (left.length + right.length) ≤ 10 * agreement left.length left right

end Z80Monitor.Text
