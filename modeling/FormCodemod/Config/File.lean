import FormCodemod.Config
import FormCodemod.Json.Reader
import FormCodemod.Json.Writer

/-!
# Configuration files

A configuration is written as an object of JSON. In a file that is read, members may be missing and
others may be there; a member whose value is no string counts as missing, and of two with the same
key the last one counts.

* `Config.ofLookup`: the configuration that a dictionary of strings tells;
* `Config.read`, `Config.write`: the text of a configuration.
-/

namespace FormCodemod.Config

/-- The keys of a configuration and its identifiers, in order. -/
def members (config : Config) : List (String × String) :=
  [("namespace", config.owner), ("factory", config.factory), ("hook", config.hook),
    ("formProp", config.formProp), ("decorator", config.decorator)]

/-- The configuration with the identifiers that are found under its keys, and the usual ones where
    none is. -/
def ofLookup (find? : String → Option String) : Config :=
  let usual : Config := {}
  { owner := (find? "namespace").getD usual.owner
    factory := (find? "factory").getD usual.factory
    hook := (find? "hook").getD usual.hook
    formProp := (find? "formProp").getD usual.formProp
    decorator := (find? "decorator").getD usual.decorator }

/-- The string under a key of an object. -/
def lookup (object : List (List Char × Json.Value)) (key : String) : Option String :=
  (object.reverse.find? (·.1 = key.toList)).bind fun member =>
    member.2.string?.map String.ofList

/-- Reads the text of a configuration. -/
def read (text : List Char) : Except Json.Fault Config :=
  (Json.readObject text).map fun object => ofLookup (lookup object)

/-- The text of a configuration. -/
def write (config : Config) : List Char :=
  Json.writeObject (config.members.map fun member => (member.1.toList, member.2.toList))

/-- What a text that is no configuration is reported as. -/
def report (fault : Json.Fault) (text : List Char) : String :=
  "invalid migration config: " ++ fault.message text

end FormCodemod.Config
