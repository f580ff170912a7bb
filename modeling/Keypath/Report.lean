import Keypath.Workspace

namespace Keypath

structure Report where
  code : Nat
  output : String
  errors : String
deriving DecidableEq, Repr

namespace Report

def failed (output message : String) : Report := ⟨1, output, "Error: " ++ message ++ "\n"⟩

def usage (command : String) : String :=
  "Usage: " ++ command ++ " <workspace_root> <config_file> [marker_type]"

/-- A path is indented by the number of its dots. -/
def line (suggestion : Suggestion) : String :=
  let depth := suggestion.path.toList.count '.'
  String.ofList (List.replicate (2 * depth) ' ') ++ suggestion.path ++
    (match suggestion.detail with
      | some detail => ": " ++ detail
      | none => "") ++
    (if suggestion.isLeaf then "" else " \x7b..\x7d") ++ "\n"

def ofSuggestions (suggestions : List Suggestion) : String :=
  "\n" ++ toString suggestions.length ++ " suggestions:\n" ++ String.join (suggestions.map line)

def ofWorkspace (parse : Parser) (disk : Disk) (root file : Path) (settings : Settings) :
    Report :=
  let workspace := ((Workspace.new root settings).populate parse disk).value
  let indexed :=
    "Indexed " ++ toString workspace.program.size ++ " files under " ++ root.text ++ "\n"
  match workspace.resolve (root.join file) with
  | .ok (_, resolution) =>
      ⟨0, indexed ++ ofSuggestions (resolution.schema.suggestions ""), ""⟩
  | .error error => failed indexed error.message

/-- The arguments are a root, a file under it and, if wanted, a marker; more are passed over. -/
def ofArguments (parse : Parser) (disk : Disk) (command : String) : List String → Report
  | root :: file :: marker :: _ =>
      ofWorkspace parse disk (.ofText root) (.ofText file)
        { Settings.standard with markerType := marker }
  | [root, file] => ofWorkspace parse disk (.ofText root) (.ofText file) .standard
  | _ => failed "" (usage command)

end Report

end Keypath
