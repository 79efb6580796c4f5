/-!
# Sets of code points

A set of characters is written as the increasing list of the code points at which membership
changes, beginning outside the set: the first starts a run of members, the second ends it, and
so on.
-/

namespace Z80Monitor.Text

/-- Whether a code point lies in the set with the given changes of membership. -/
def memberOf : List Nat → Nat → Bool
  | [], _ => false
  | change :: rest, code => if code < change then false else !memberOf rest code

end Z80Monitor.Text
