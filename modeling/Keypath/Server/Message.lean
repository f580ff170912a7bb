import Keypath.Server.Params

namespace Keypath.Server

inductive Request where
  | start (root : Option Uri) (options : Option Json)
  | shutdown
  | completion (uri : Uri)
  | executeCommand (command : String) (arguments : List Json)

inductive Notification where
  | started
  | didOpen (uri : Uri) (text : String) (version : Int)
  /-- Each change carries the whole text. -/
  | didChange (uri : Uri) (changes : List String) (version : Int)
  | didClose (uri : Uri)

structure RpcError where
  code : Int
  message : String
deriving DecidableEq, Repr

namespace RpcError

def notStarted : RpcError := ⟨-32002, "Server not initialized"⟩

def invalidRequest : RpcError := ⟨-32600, "Invalid request"⟩

def methodNotFound : RpcError := ⟨-32601, "Method not found"⟩

def invalidParams (message : String) : RpcError := ⟨-32602, message⟩

end RpcError

namespace Request

def ofStart (params : Value) : Option Request :=
  some (start (params.field "rootUri").uri? (params.field "initializationOptions").json?)

def ofCompletion (params : Value) : Option Request := do
  return completion (← ((params.field "textDocument").field "uri").uri?)

def ofCommand (params : Value) : Option Request := do
  return executeCommand (← (params.field "command").text?)
    ((params.field "arguments").items.filterMap Value.json?)

end Request

namespace Notification

def ofStarted (_params : Value) : Option Notification := some started

def ofOpen (params : Value) : Option Notification := do
  let document := params.field "textDocument"
  return didOpen (← (document.field "uri").uri?) (← (document.field "text").text?)
    (← (document.field "version").integer?)

def ofChange (params : Value) : Option Notification := do
  let document := params.field "textDocument"
  let changes := (params.field "contentChanges").items
  return didChange (← (document.field "uri").uri?)
    (changes.filterMap fun change => (change.field "text").text?)
    (← (document.field "version").integer?)

def ofClose (params : Value) : Option Notification := do
  return didClose (← ((params.field "textDocument").field "uri").uri?)

end Notification

/-- A message whose parameters have a form and cannot be left out. The form makes sure that `take`
finds everything it looks for. -/
def readAs (form : Form) (take : Value → Option α) (params : Option Json) : Except RpcError α :=
  match params with
  | none => .error (.invalidParams "Missing params field")
  | some json =>
      match form.read false json with
      | .error mismatch => .error (.invalidParams mismatch.message)
      | .ok value => (take value).elim (.error .invalidRequest) .ok

/-- The request of a method that is none of a client's first and last words. -/
def Request.read? (method : String) (params : Option Json) : Option (Except RpcError Request) :=
  match method with
  | "textDocument/completion" => some (readAs Params.completion ofCompletion params)
  | "workspace/executeCommand" => some (readAs Params.executeCommand ofCommand params)
  | _ => none

def Notification.read? (method : String) (params : Option Json) :
    Option (Except RpcError Notification) :=
  match method with
  | "initialized" => some (readAs Params.started ofStarted params)
  | "textDocument/didOpen" => some (readAs Params.didOpen ofOpen params)
  | "textDocument/didChange" => some (readAs Params.didChange ofChange params)
  | "textDocument/didClose" => some (readAs Params.didClose ofClose params)
  | _ => none

end Keypath.Server
