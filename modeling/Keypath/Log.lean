import Keypath.Schema.Expansion

namespace Keypath

inductive LogLevel where
  | trace
  | debug
  | info
  | warn
  | error
deriving DecidableEq, Repr

def LogLevel.name : LogLevel → String
  | trace => "TRACE"
  | debug => "DEBUG"
  | info => "INFO"
  | warn => "WARN"
  | error => "ERROR"

inductive LogValue where
  | text (text : String)
  | number (number : Nat)
deriving DecidableEq, Repr

structure LogEntry where
  level : LogLevel
  message : String
  fields : List (String × LogValue)
deriving DecidableEq, Repr

namespace LogEntry

def info (message : String) : LogEntry := ⟨.info, message, []⟩

def warn (message : String) : LogEntry := ⟨.warn, message, []⟩

def debug (message : String) : LogEntry := ⟨.debug, message, []⟩

end LogEntry

def LookupEvent.logEntry : LookupEvent → LogEntry
  | queried usage probe results =>
      ⟨.debug, "definition query",
        [("file", .text usage.file.text), ("probe", .number probe), ("results", .number results)]⟩
  | dropped file offset =>
      ⟨.debug, "no declaration at definition site",
        [("file", .text file.text), ("offset", .number offset)]⟩

def Event.logEntry : Event → LogEntry
  | lookup event => event.logEntry
  | unresolved property name typeText =>
      ⟨.debug, "unresolved type reference",
        [("file", .text property.file.text), ("property", .text name),
         ("type_text", .text typeText)]⟩
  | cycle declaration name =>
      ⟨.warn, "cyclic type reference, not expanding again",
        [("file", .text declaration.file.text), ("declaration", .text name)]⟩
  | expanded node kind entries =>
      ⟨.trace, "resolved schema node",
        [("file", .text node.file.text), ("kind", .text kind.name), ("entries", .number entries)]⟩

end Keypath
