import Keypath.Path
import Keypath.Uri.Address
import Keypath.Uri.Percent

namespace Keypath

inductive Host where
  | name (text : String)
  | address4 (address : Nat)
  | address6 (pieces : List Nat)
deriving DecidableEq, Repr

structure Authority where
  user : String
  password : String
  /-- No host is this machine. -/
  host : Option Host
  port : Option Nat
deriving DecidableEq, Repr

inductive UriPath where
  /-- A path with no steps, such as the `Untitled-1` of `untitled:Untitled-1`. -/
  | bare (text : String)
  | steps (segments : List String)
deriving DecidableEq, Repr

structure Uri where
  scheme : String
  authority : Option Authority
  path : UriPath
  query : Option String
  fragment : Option String
deriving DecidableEq, Repr

inductive UriError where
  | relative
  | emptyHost
  | badDomain
  | badPort
  | badAddress4
  | badAddress6
  | badHostCharacter
deriving DecidableEq, Repr

def UriError.message : UriError → String
  | relative => "relative URL without a base"
  | emptyHost => "empty host"
  | badDomain => "invalid international domain name"
  | badPort => "invalid port number"
  | badAddress4 => "invalid IPv4 address"
  | badAddress6 => "invalid IPv6 address"
  | badHostCharacter => "invalid domain character"

namespace Host

def render : Host → String
  | name text => text
  | address4 address => Uri.renderAddress4 address
  | address6 pieces => "[" ++ Uri.renderAddress6 pieces ++ "]"

end Host

namespace Authority

def none : Authority := ⟨"", "", Option.none, Option.none⟩

def renderCredentials (authority : Authority) : String :=
  if authority.user = "" && authority.password = "" then ""
  else
    authority.user ++
      (if authority.password = "" then "" else ":" ++ authority.password) ++ "@"

def render (authority : Authority) : String :=
  "//" ++ authority.renderCredentials ++
    (match authority.host with
      | some host => host.render
      | Option.none => "") ++
    (match authority.port with
      | some port => ":" ++ toString port
      | Option.none => "")

/-- Whether this machine is meant, by no host or by its own name. -/
def isLocal (authority : Authority) : Bool :=
  authority.host = Option.none || authority.host = some (.name "localhost")

end Authority

namespace Uri

def stepsText (segments : List String) : String :=
  String.join (segments.map fun segment => "/" ++ segment)

/-- Two slashes would open an authority, so a path that begins with them gets a dot in front where
there is none. -/
def pathText (uri : Uri) : String :=
  match uri.path, uri.authority with
  | .bare text, _ => text
  | .steps segments, none =>
      if 1 < segments.length && segments.head? = some "" then "/." ++ stepsText segments
      else stepsText segments
  | .steps segments, some _ => stepsText segments

def render (uri : Uri) : String :=
  uri.scheme ++ ":" ++
    (match uri.authority with
      | some authority => authority.render
      | none => "") ++
    uri.pathText ++
    (match uri.query with
      | some query => "?" ++ query
      | none => "") ++
    (match uri.fragment with
      | some fragment => "#" ++ fragment
      | none => "")

def endsInDrive (bytes : List UInt8) : Bool :=
  match bytes.reverse with
  | mark :: letter :: _ :: _ =>
      (Char.ofNat letter.toNat).isAlpha && (mark = 0x3A || mark = 0x7C)
  | _ => false

/-- The path of the file that an identifier names on this machine. A drive is a directory, so a
slash follows its letter. -/
def filePath? (uri : Uri) : Option Path :=
  match uri.path with
  | .bare _ => none
  | .steps [] => none
  | .steps segments =>
      if uri.authority.all Authority.isLocal then
        let bytes := segments.flatMap fun segment => Component.slash :: decode segment.toList
        some ⟨if endsInDrive bytes then bytes ++ [Component.slash] else bytes⟩
      else none

end Uri

end Keypath
