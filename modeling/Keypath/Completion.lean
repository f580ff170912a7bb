import Keypath.Schema.Expansion
import Keypath.Suggestion

namespace Keypath

inductive CompletionError where
  | fileNotInProgram (file : Path)
  | noConfigSchema (file : Path) (marker : String)
  /-- The look-up led an expansion in circles that pass through no declaration. -/
  | endlessExpansion (file : Path)
deriving DecidableEq, Repr

def CompletionError.message : CompletionError → String
  | fileNotInProgram file => file.text ++ " is not part of the program"
  | noConfigSchema file marker =>
      "no configuration schema found in " ++ file.text ++
        ": no interface extends `" ++ marker ++ "`"
  | endlessExpansion file => "the expansion of " ++ file.text ++ " does not end"

structure Resolution where
  schema : Schema
  events : List Event

namespace Program

/-- The schema of the first interface of a file that extends the marker. -/
def resolveWith (program : Program) (lookup : Lookup) (file : Path) (marker : String) :
    Except CompletionError Resolution :=
  match program.find? file with
  | none => .error (.fileNotInProgram file)
  | some source =>
      match source.configRoot? marker with
      | none => .error (.noConfigSchema file marker)
      | some root =>
          match Expand.node lookup program.budget root .start with
          | some (schema, progress) => .ok ⟨schema, progress.events⟩
          | none => .error (.endlessExpansion file)

def resolve (program : Program) (file : Path) (marker : String) :
    Except CompletionError Resolution :=
  program.resolveWith program.lookup file marker

end Program

end Keypath
