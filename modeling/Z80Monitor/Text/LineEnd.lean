/-!
# Line ends

Files end their lines with a line feed, a carriage return, or both in this order; in a text that
was read every line ends with a line feed. In a text that is written no line ends with both.
-/

namespace Z80Monitor.Text

/-- A text with a line feed for every line end. -/
def withLineFeeds : List Char → List Char
  | [] => []
  | '\r' :: '\n' :: rest => '\n' :: withLineFeeds rest
  | '\r' :: rest => '\n' :: withLineFeeds rest
  | char :: rest => char :: withLineFeeds rest

/-- A text without the carriage returns directly in front of line feeds. -/
def withoutReturns : List Char → List Char
  | [] => []
  | '\r' :: '\n' :: rest => '\n' :: withoutReturns rest
  | char :: rest => char :: withoutReturns rest

/-- The text without the line feed at its end, if there is one. -/
def withoutLineFeed (text : List Char) : List Char :=
  if text.getLast? == some '\n' then text.dropLast else text

end Z80Monitor.Text
