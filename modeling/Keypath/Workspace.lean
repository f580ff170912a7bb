import Keypath.Completion
import Keypath.Disk
import Keypath.Log
import Keypath.Settings

namespace Keypath

structure Logged (α : Type) where
  value : α
  log : List LogEntry

structure Workspace where
  root : Path
  settings : Settings
  program : Program

inductive IndexError where
  | unreadable (path : Path) (reason : ReadError)
  | unparsable (path : Path)
deriving DecidableEq, Repr

def IndexError.message : IndexError → String
  | unreadable path reason => "failed to read " ++ path.text ++ ": " ++ reason.message
  | unparsable path => "failed to parse " ++ path.text

/-- How the search for a schema went: the candidates that failed, in order, and the first one that
did not. -/
structure Search where
  failures : List CompletionError
  found : Option (Path × Resolution)

def Search.among (resolve : Path → Except CompletionError Resolution) : List Path → Search
  | [] => ⟨[], none⟩
  | candidate :: rest =>
      match resolve candidate with
      | .ok resolution => ⟨[], some (candidate, resolution)⟩
      | .error error =>
          let search := among resolve rest
          ⟨error :: search.failures, search.found⟩

namespace Workspace

def new (root : Path) (settings : Settings) : Workspace := ⟨root, settings, .empty⟩

def index (parse : Parser) (disk : Disk) (workspace : Workspace) (path : Path) :
    Except IndexError Workspace :=
  match disk.read path with
  | .error reason => .error (.unreadable path reason)
  | .ok text =>
      match workspace.program.insert? parse path text with
      | some program => .ok { workspace with program := program }
      | none => .error (.unparsable path)

/-- Read several files; one that fails is logged and left out. -/
def indexAll (parse : Parser) (disk : Disk) (workspace : Workspace) (paths : List Path) :
    Logged Workspace :=
  paths.foldl (fun state path =>
    match state.value.index parse disk path with
    | .ok workspace => ⟨workspace, state.log⟩
    | .error error =>
        ⟨state.value, state.log ++
          [.warn ("Failed to index " ++ path.quoted ++ ": " ++ error.message)]⟩)
    ⟨workspace, []⟩

def sourcePaths (disk : Disk) (workspace : Workspace) : List Path :=
  let excluded := fun name => workspace.settings.excludes (Text.ofBytes name)
  (disk.walk excluded workspace.root).filter Path.isTypeScript

def populate (parse : Parser) (disk : Disk) (workspace : Workspace) : Logged Workspace :=
  let paths := workspace.sourcePaths disk
  let indexed := workspace.indexAll parse disk paths
  ⟨indexed.value,
    [.info ("Indexing " ++ toString paths.length ++ " TypeScript files")] ++ indexed.log ++
      [.info ("Indexed " ++ toString indexed.value.program.size ++ " TypeScript files")]⟩

/-- Take over the text of an open document. Other than source files are passed over. -/
def update (parse : Parser) (workspace : Workspace) (path : Path) (text : String) :
    Logged Workspace :=
  if path.isTypeScript then
    match workspace.program.insert? parse path text with
    | some program => ⟨{ workspace with program := program }, []⟩
    | none => ⟨workspace, [.warn ("Failed to parse " ++ path.text)]⟩
  else ⟨workspace, []⟩

/-- Go back to the text on disk. A file that is not there is left as it is. -/
def reload (parse : Parser) (disk : Disk) (workspace : Workspace) (path : Path) :
    Except IndexError Workspace :=
  if path.isTypeScript && disk.exists? path then workspace.index parse disk path
  else .ok workspace

/-- Where a schema is looked for: in the requested file, then in the configured ones. -/
def candidates (workspace : Workspace) (requested : Path) : List Path :=
  workspace.settings.schemaFiles.foldl (fun candidates file =>
    let path := (workspace.root.join file).normalize
    if candidates.contains path then candidates else candidates ++ [path])
    [requested.normalize]

def search (workspace : Workspace) (requested : Path) : Search :=
  Search.among (fun candidate =>
    workspace.program.resolve candidate workspace.settings.markerType)
    (workspace.candidates requested)

/-- The schema of the first candidate that has one, or what is wrong with the requested file. -/
def resolve (workspace : Workspace) (requested : Path) :
    Except CompletionError (Path × Resolution) :=
  let search := workspace.search requested
  match search.found with
  | some found => .ok found
  | none =>
      .error (search.failures.head?.getD
        (.noConfigSchema requested workspace.settings.markerType))

def searchLog (workspace : Workspace) (requested : Path) : List LogEntry :=
  (workspace.search requested).failures.map fun error => .debug error.message

end Workspace

end Keypath
