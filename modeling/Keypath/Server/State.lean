import Keypath.Server.Message
import Keypath.Workspace

/-!
The language server as a machine that takes one message at a time.

It keeps the open documents and a workspace whose program follows them. A message is answered from
the state, the disk as it is at that moment and the parser; it leaves a new state, a reply, the
messages sent to the client of the server's own accord, and a log.
-/

namespace Keypath.Server

inductive Phase where
  | fresh
  | running
  | stopped
deriving DecidableEq, Repr

structure Document where
  text : String
  version : Int
deriving DecidableEq, Repr

structure State where
  phase : Phase
  documents : Table Uri Document
  workspace : Option Workspace

namespace State

def start : State := ⟨.fresh, ∅, none⟩

end State

inductive Result where
  | capabilities
  | nothing
  | items (items : List CompletionItem)
  | dump (uri : Uri) (schemaFile : Path) (schema : Schema)
  /-- A command that came to nothing, with the reason. -/
  | failure (message : String)

inductive Reply where
  | silent
  | result (result : Result)
  | error (error : RpcError)

structure Outcome where
  state : State
  reply : Reply
  notices : List String
  log : List LogEntry

namespace Outcome

def idle (state : State) : Outcome := ⟨state, .silent, [], []⟩

def refuse (state : State) (error : RpcError) : Outcome := ⟨state, .error error, [], []⟩

end Outcome

def dumpCommand : String := "configSchema.dump"

namespace State

/-! Documents. -/

/-- Take over a document's text, into the workspace too if it names a file. -/
def takeText (parse : Parser) (state : State) (uri : Uri) (text : String) (version : Int) :
    Logged State :=
  let updated : Logged (Option Workspace) :=
    match uri.filePath?, state.workspace with
    | some path, some workspace =>
        let updated := workspace.update parse path text
        ⟨some updated.value, updated.log⟩
    | _, workspace => ⟨workspace, []⟩
  ⟨{ state with
      documents := state.documents.insert uri ⟨text, version⟩
      workspace := updated.value },
    .info ("on_change: uri=" ++ uri.render ++ ", text_len=" ++ toString text.utf8ByteSize) ::
      updated.log⟩

def didOpen (parse : Parser) (state : State) (uri : Uri) (text : String) (version : Int) :
    Logged State :=
  let taken := state.takeText parse uri text version
  ⟨taken.value, .info ("did_open: uri=" ++ uri.render) :: taken.log⟩

/-- Only the first of several changes is taken over. -/
def didChange (parse : Parser) (state : State) (uri : Uri) (changes : List String)
    (version : Int) : Logged State :=
  match changes with
  | [] => ⟨state, []⟩
  | text :: _ => state.takeText parse uri text version

def didClose (parse : Parser) (disk : Disk) (state : State) (uri : Uri) : Logged State :=
  match state.documents.get? uri with
  | none => ⟨state, []⟩
  | some _ =>
      let closed := { state with documents := state.documents.erase uri }
      match uri.filePath?, state.workspace with
      | some path, some workspace =>
          match workspace.reload parse disk path with
          | .ok workspace => ⟨{ closed with workspace := some workspace }, []⟩
          | .error error => ⟨closed, [.warn error.message]⟩
      | _, _ => ⟨closed, []⟩

/-! Requests. -/

/-- Index the root, if it names a directory or file; options that cannot be read leave the standard
settings. -/
def begin (parse : Parser) (disk : Disk) (state : State) (root : Option Uri)
    (options : Option Json) : Logged State :=
  let settings : Logged Settings :=
    match Settings.ofOptions options with
    | .ok settings => ⟨settings, []⟩
    | .error mismatch =>
        ⟨.standard, [.warn (Settings.invalid ++ ": " ++ mismatch.message ++ ", using defaults")]⟩
  let running := { state with phase := .running }
  let opened : Logged State :=
    match root.bind Uri.filePath? with
    | none => ⟨running, []⟩
    | some path =>
        let indexed := (Workspace.new path settings.value).populate parse disk
        ⟨{ running with workspace := some indexed.value },
          [.info ("Initializing workspace at " ++ path.quoted)] ++ indexed.log ++
            [.info ("Workspace initialized: " ++ toString indexed.value.program.size ++
              " files")]⟩
  ⟨opened.value, .info "initialize: received request" :: settings.log ++ opened.log⟩

def greeting (state : State) : String :=
  match state.workspace with
  | some workspace =>
      "Config LSP initialized: " ++ toString workspace.program.size ++
        " files indexed, marker `" ++ workspace.settings.markerType ++ "`"
  | none => "Config LSP initialized (no workspace)"

/-- What a search logs that also follows the expansion. -/
def resolutionLog (workspace : Workspace) (path : Path) : List LogEntry :=
  workspace.searchLog path ++
    match workspace.resolve path with
    | .ok (_, resolution) => resolution.events.map Event.logEntry
    | .error _ => []

/-- The dotted paths of a file's schema; no items at all count as no answer. -/
def completion (state : State) (uri : Uri) : Logged Result :=
  match uri.filePath?, state.workspace with
  | none, _ => ⟨.nothing, []⟩
  | some _, none => ⟨.nothing, [.warn "completion: workspace not initialized"]⟩
  | some path, some workspace =>
      let log := resolutionLog workspace path
      match workspace.resolve path with
      | .ok (_, resolution) =>
          let items := completionItems (resolution.schema.suggestions "")
            workspace.settings.maxCompletionItems
          ⟨if items.isEmpty then .nothing else .items items, log⟩
      | .error error => ⟨.nothing, log ++ [.info ("completion: " ++ error.message)]⟩

def dump (state : State) (uri : Uri) : Logged Result :=
  match uri.filePath?, state.workspace with
  | none, _ => ⟨.failure ("Not a file URI: " ++ uri.render), []⟩
  | some _, none => ⟨.failure "Workspace not initialized", []⟩
  | some path, some workspace =>
      let log := resolutionLog workspace path
      match workspace.resolve path with
      | .ok (file, resolution) => ⟨.dump uri file resolution.schema, log⟩
      | .error error => ⟨.failure error.message, log⟩

def executeCommand (state : State) (command : String) (arguments : List Json) :
    Logged (Except RpcError Result) :=
  let received := LogEntry.info ("execute_command: " ++ Text.quoted command)
  if command = dumpCommand then
    match arguments with
    | [] => ⟨.ok (.failure "Expected 1 argument: file_uri"), [received]⟩
    | argument :: _ =>
        match argument with
        | .string text =>
            match Uri.parse text with
            | .error error =>
                ⟨.error (.invalidParams ("Invalid URI: " ++ error.message)), [received]⟩
            | .ok uri =>
                let dumped := state.dump uri
                ⟨.ok dumped.value, received :: dumped.log⟩
        | argument =>
            ⟨.error (.invalidParams (argument.mismatch "a string").message), [received]⟩
  else ⟨.ok (.failure ("Unknown command: " ++ command)), [received]⟩

/-! Messages. -/

def notify (parse : Parser) (disk : Disk) (state : State) : Notification → Outcome
  | .started =>
      ⟨state, .silent, [state.greeting], [.info "initialized: received notification"]⟩
  | .didOpen uri text version =>
      let next := state.didOpen parse uri text version
      ⟨next.value, .silent, [], next.log⟩
  | .didChange uri changes version =>
      let next := state.didChange parse uri changes version
      ⟨next.value, .silent, [], next.log⟩
  | .didClose uri =>
      let next := state.didClose parse disk uri
      ⟨next.value, .silent, [], next.log⟩

def answer (parse : Parser) (disk : Disk) (state : State) : Request → Outcome
  | .start root options =>
      let next := state.begin parse disk root options
      ⟨next.value, .result .capabilities, [], next.log⟩
  | .shutdown => ⟨{ state with phase := .stopped }, .result .nothing, [], []⟩
  | .completion uri =>
      let done := state.completion uri
      ⟨state, .result done.value, [], done.log⟩
  | .executeCommand command arguments =>
      let done := state.executeCommand command arguments
      match done.value with
      | .ok result => ⟨state, .result result, [], done.log⟩
      | .error error => ⟨state, .error error, [], done.log⟩

/-- Only a running server answers requests. -/
def request (parse : Parser) (disk : Disk) (state : State) (read : Except RpcError Request) :
    Outcome :=
  match state.phase with
  | .fresh => .refuse state .notStarted
  | .stopped => .refuse state .invalidRequest
  | .running =>
      match read with
      | .ok request => state.answer parse disk request
      | .error error => .refuse state error

/-- A notification that cannot be read, or comes at the wrong time, is passed over. -/
def notification (parse : Parser) (disk : Disk) (state : State)
    (read : Except RpcError Notification) : Outcome :=
  match state.phase, read with
  | .running, .ok notification => state.notify parse disk notification
  | _, _ => .idle state

def firstRequest (parse : Parser) (disk : Disk) (state : State)
    (read : Except RpcError Request) : Outcome :=
  match state.phase, read with
  | .fresh, .ok request => state.answer parse disk request
  | .fresh, .error error => .refuse state error
  | _, _ => .refuse state .invalidRequest

/-- A server that is told to stop does so even if it cannot make sense of the message. -/
def lastRequest (parse : Parser) (disk : Disk) (state : State) (params : Option Json) : Outcome :=
  match state.phase, params with
  | .running, some json =>
      .refuse { state with phase := .stopped }
        (.invalidParams ("Unexpected params: " ++ json.compact))
  | _, _ => state.request parse disk (.ok .shutdown)

/-- A message that waits for an answer. One that should have been a notification is turned away
without being read. -/
def receiveRequest (parse : Parser) (disk : Disk) (state : State) (method : String)
    (params : Option Json) : Outcome :=
  match method, Request.read? method params, Notification.read? method params with
  | "initialize", _, _ =>
      state.firstRequest parse disk (readAs Params.start Request.ofStart params)
  | "shutdown", _, _ => state.lastRequest parse disk params
  | _, some read, _ => state.request parse disk read
  | _, none, some _ => state.request parse disk (.error .invalidRequest)
  | _, none, none => .refuse state .methodNotFound

/-- A message that waits for no answer. Of the requests only the one to stop is heeded. -/
def receiveNotification (parse : Parser) (disk : Disk) (state : State) (method : String)
    (params : Option Json) : Outcome :=
  match method, Notification.read? method params with
  | "shutdown", _ =>
      .idle (if state.phase = .running then { state with phase := .stopped } else state)
  | _, some read => state.notification parse disk read
  | _, none => .idle state

def receive (parse : Parser) (disk : Disk) (state : State) (method : String)
    (isNotification : Bool) (params : Option Json) : Outcome :=
  if isNotification then state.receiveNotification parse disk method params
  else state.receiveRequest parse disk method params

end State

end Keypath.Server
