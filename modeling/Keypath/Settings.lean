import Keypath.Json.Form

namespace Keypath

structure Settings where
  markerType : String
  schemaFiles : List Path
  excludeDirs : List String
  maxCompletionItems : Nat
deriving DecidableEq, Repr

namespace Settings

def standard : Settings where
  markerType := "EggAppConfig"
  schemaFiles := []
  excludeDirs := ["node_modules", ".git", "dist", "run", "logs", "coverage"]
  maxCompletionItems := 1000

def excludes (settings : Settings) (directory : String) : Bool :=
  settings.excludeDirs.contains directory

/-- The form of a client's options. Every field may be left out, and none may be `null`. -/
def form : Form :=
  .record "ServerConfig" [
    ("markerType", .standard .nothing .anyText),
    ("schemaFiles", .standard .nothing (.list (.text "path string"))),
    ("excludeDirs", .standard .nothing (.list .anyText)),
    ("maxCompletionItems", .standard .nothing (.integer "usize" 0 0xFFFFFFFFFFFFFFFF))]

def texts? : Value → Option (List String)
  | .list items => some (items.filterMap Value.text?)
  | _ => none

/-- Fields that are not given keep their standard values. -/
def ofValue (value : Value) : Settings where
  markerType := (value.field "markerType").text?.getD standard.markerType
  schemaFiles :=
    ((texts? (value.field "schemaFiles")).map (·.map Path.ofText)).getD standard.schemaFiles
  excludeDirs := (texts? (value.field "excludeDirs")).getD standard.excludeDirs
  maxCompletionItems :=
    ((value.field "maxCompletionItems").integer?.map Int.toNat).getD standard.maxCompletionItems

/-- No options, or `null` in their place, leave everything at its standard value. -/
def ofOptions : Option Json → Except Mismatch Settings
  | none => .ok standard
  | some .null => .ok standard
  | some json => ofValue <$> form.read false json

def invalid : String := "invalid initializationOptions"

end Settings

end Keypath
