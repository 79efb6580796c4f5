import Z80Monitor.CommandLine.Usage

/-!
# Arguments of the command

Arguments are options or stand for themselves. The value of an option is attached to it or is the
next argument, whatever that looks like. Options with a letter can share a hyphen. Behind two
hyphens there are no more options.
-/

namespace Z80Monitor.CommandLine

/-- An option that is given. -/
structure OptionUse where
  /-- Which option. -/
  option : CommandOption
  /-- Its value; empty for an option that takes none. -/
  value : List Char := []
  deriving DecidableEq, Repr

/-- An option whose value is the next argument. -/
structure OpenOption where
  /-- Which option. -/
  option : CommandOption
  /-- The name by which it is given. -/
  name : List Char
  deriving DecidableEq, Repr

/-- What an argument that is an option says. -/
structure OptionGroup where
  /-- The options that are complete, in order. -/
  uses : List OptionUse
  /-- The option behind them whose value is the next argument. -/
  pending : Option OpenOption
  deriving DecidableEq, Repr

/-- The options with the letters behind a hyphen. -/
def lettersGroup : List Char → Except UsageError OptionGroup
  | [] => .ok ⟨[], none⟩
  | letter :: rest =>
    match CommandOption.ofLetter? letter with
    | none => .error (.unknownOption ['-', letter] [])
    | some option =>
      if option.takesValue then
        if rest.isEmpty then .ok ⟨[], some ⟨option, ['-', letter]⟩⟩
        else .ok ⟨[⟨option, rest⟩], none⟩
      else do
        let group ← lettersGroup rest
        .ok { group with uses := ⟨option, []⟩ :: group.uses }

/-- The option with a long name, and a value behind an equals sign if there is one. -/
def longGroup (option : CommandOption) (name : List Char) (value : Option (List Char)) :
    Except UsageError OptionGroup :=
  match value with
  | some value =>
    if option.takesValue then .ok ⟨[⟨option, value⟩], none⟩ else .error (.valueUnexpected name)
  | none =>
    if option.takesValue then .ok ⟨[], some ⟨option, name⟩⟩ else .ok ⟨[⟨option, []⟩], none⟩

/-- The options in an argument that begins with a hyphen. -/
def optionGroup (argument : List Char) : Except UsageError OptionGroup :=
  let name := argument.takeWhile (· != '=')
  match CommandOption.ofLongName? name with
  | some option =>
    longGroup option name (if argument.contains '=' then some (argument.drop (name.length + 1))
      else none)
  | none =>
    if argument.take 2 == ['-', '-'] then
      .error (.unknownOption name (CommandOption.namesLike name))
    else lettersGroup argument.tail

/-- Arguments sorted out. -/
structure Arguments where
  /-- The options that are given, in order. -/
  uses : List OptionUse
  /-- The arguments that stand for themselves, in order. -/
  plain : List (List Char)
  deriving DecidableEq, Repr

namespace Arguments

/-- Put options that are given in front of others. -/
def withUses (uses : List OptionUse) (arguments : Arguments) : Arguments :=
  { arguments with uses := uses ++ arguments.uses }

/-- Sort out arguments, the first of which is the value of the option `pending`, if there is
one. -/
def ofListBehind (pending : Option OpenOption) : List (List Char) → Except UsageError Arguments
  | [] =>
    match pending with
    | none => .ok ⟨[], []⟩
    | some pending => .error (.valueMissing pending.name)
  | argument :: rest =>
    match pending with
    | some pending => (ofListBehind none rest).map (withUses [⟨pending.option, argument⟩])
    | none =>
      if argument == ['-', '-'] then .ok ⟨[], rest⟩
      else if argument.head? == some '-' && 1 < argument.length then do
        let group ← optionGroup argument
        (ofListBehind group.pending rest).map (withUses group.uses)
      else
        (ofListBehind none rest).map fun others =>
          { others with plain := argument :: others.plain }

/-- Sort out arguments. -/
def ofList (arguments : List String) : Except UsageError Arguments :=
  ofListBehind none (arguments.map (·.toList))

/-- The value of an option; of several the last one counts. -/
def value? (arguments : Arguments) (option : CommandOption) : Option (List Char) :=
  (arguments.uses.reverse.find? (·.option == option)).map (·.value)

/-- Whether an option is given. -/
def has (arguments : Arguments) (option : CommandOption) : Bool :=
  arguments.uses.any (·.option == option)

/-- The options that are given, in the order in which each is given first. -/
def options (arguments : Arguments) : List CommandOption :=
  (arguments.uses.map (·.option)).eraseDups

end Arguments

end Z80Monitor.CommandLine
