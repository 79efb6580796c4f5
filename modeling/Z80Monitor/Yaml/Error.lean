import Z80Monitor.Calendar.Written
import Z80Monitor.Text.Numeral
import Z80Monitor.Text.Surrogate

/-!
# Refusals of YAML texts

Why a YAML text is refused. Most causes are faults of its form and have no wording of their own;
those that lie in a number, an escape or a date have one.
-/

namespace Z80Monitor.Yaml

/-- Why a YAML text is refused. -/
inductive YamlError where
  /-- The text holds a character that is not allowed. -/
  | forbiddenCharacter
  /-- No token starts with the character. -/
  | noToken (char : Char)
  /-- A quoted text is not closed, or is cut by a document marker. -/
  | openQuote
  /-- A backslash is not followed by a known escape. -/
  | badEscape
  /-- An escape gives a number above that of every character. -/
  | noCharacter (code : Nat)
  /-- A key has no colon on its line. -/
  | keyWithoutColon
  /-- A dash, a question mark or a colon stands where none is allowed. -/
  | misplacedIndicator
  /-- A bracket closes nothing. -/
  | unmatchedBracket
  /-- A directive is not well formed. -/
  | badDirective
  /-- The name of an anchor or alias is not well formed. -/
  | badAnchor
  /-- A tag is not well formed. -/
  | badTag
  /-- The first line of a block of text is not well formed. -/
  | badBlockHeader
  /-- A token stands where another one must. -/
  | unexpectedToken
  /-- An alias names no anchor in front of it. -/
  | unknownAlias
  /-- Two anchors have one name. -/
  | repeatedAnchor
  /-- The tag is not known. -/
  | unknownTag
  /-- The tag does not fit its node. -/
  | unfitTag
  /-- A list or a mapping is used as a key. -/
  | collectionAsKey
  /-- A merge key has no mapping to merge. -/
  | badMerge
  /-- There is more than one document. -/
  | severalDocuments
  /-- The text of bytes is not in base 64. -/
  | noBytes
  /-- The text of a number has no characters, or none behind the sign of an integer. -/
  | numberMissing
  /-- The text denotes no integer in a base. -/
  | noInteger (base : Text.Base) (text : List Text.CodePoint)
  /-- An integer in base 10 has too many digits. -/
  | integerTooLong (digits : Nat)
  /-- The text denotes no floating-point number. -/
  | noReal (text : List Text.CodePoint)
  /-- A floating-point number has so many places that the first has no weight. -/
  | tooManyPlaces
  /-- The word, put in lower case, is no truth value. -/
  | noTruthValue (word : List Text.CodePoint)
  /-- The text is no timestamp. -/
  | noTimestamp
  /-- A timestamp is given as a mapping with a default value. -/
  | timestampMapping
  /-- The timestamp does not exist. -/
  | noSuchTime (fault : Calendar.CalendarFault)
  /-- Nodes are nested too deep. -/
  | tooDeep
  deriving DecidableEq, Repr

/-- The greatest number in which the code of a character is kept while it is read. -/
def greatestCode : Nat := 0x7FFFFFFF

/-- The greatest length of a text that is quoted in the report on an integer. -/
def greatestQuotation : Nat := 200

/-- The wording of a refusal, where it has one. -/
def YamlError.message? (error : YamlError) : Option String :=
  Option.map String.ofList <| match error with
    | .noCharacter code =>
      some <| String.toList <|
        if greatestCode < code then "Python int too large to convert to C int"
        else "chr() arg not in range(0x110000)"
    | .numberMissing => some "string index out of range".toList
    | .noInteger base text =>
      some <|
        "invalid literal for int() with base ".toList ++ Text.decimal base.size ++ [':', ' '] ++
          (Text.quotedPoints text).take greatestQuotation
    | .integerTooLong digits => some (Text.digitLimitMessage (some digits))
    | .noReal text =>
      some ("could not convert string to float: ".toList ++ Text.quotedPoints text)
    | .tooManyPlaces => some "int too large to convert to float".toList
    | .noTruthValue word => some (Text.shownPoints word)
    | .timestampMapping => some "expected string or bytes-like object, got 'list'".toList
    | .noSuchTime fault => some fault.message
    | .tooDeep => some "maximum recursion depth exceeded".toList
    | _ => none

end Z80Monitor.Yaml
