import Z80Monitor.Configuration.Reading
import Z80Monitor.Yaml.Document

/-!
# Configuration documents

A configuration is written as a YAML text. The text is refused where it is no YAML, or where what
it says is no configuration. Only what the reader of YAML makes of the text counts, so that any
reader can stand in the place of the one that is used.
-/

namespace Z80Monitor

/-- Why the text of a configuration is refused, by a reader of YAML that gives reasons of the type
`Fault`. -/
inductive DocumentError (Fault : Type := Yaml.YamlError) where
  /-- The text is no YAML. -/
  | notYaml (error : Fault)
  /-- The text says nothing that is a configuration. -/
  | notConfiguration (error : ConfigurationError)

namespace Configuration

/-- The configuration that a text describes to a reader of YAML. -/
def ofTextBy {Fault : Type} (load : String → Except Fault Value) (text : String) :
    Except (DocumentError Fault) Configuration :=
  match load text with
  | .error error => .error (.notYaml error)
  | .ok value => (ofDocument value).mapError .notConfiguration

/-- The configuration that a text describes. -/
def ofText (text : String) : Except DocumentError Configuration :=
  ofTextBy Yaml.load text

end Configuration

end Z80Monitor
