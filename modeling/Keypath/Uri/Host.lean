import Keypath.Domain.Basic
import Keypath.Uri.Basic

/-!
Hosts and what stands around them.

Where the scheme is known to the web, a host is a domain name or a numeric address; elsewhere it is
any text without the characters that divide the parts of an identifier.
-/

namespace Keypath.Uri

def isWebScheme (scheme : String) : Bool :=
  ["http", "https", "ws", "wss", "ftp"].contains scheme

def isKnownScheme (scheme : String) : Bool := scheme = "file" || isWebScheme scheme

/-- The port that goes without saying. -/
def standardPort? (scheme : String) : Option Nat :=
  match scheme with
  | "http" | "ws" => some 80
  | "https" | "wss" => some 443
  | "ftp" => some 21
  | _ => none

def isSlash (scheme : String) (c : Char) : Bool :=
  c = '/' || (c = '\\' && isKnownScheme scheme)

def endsAuthority (scheme : String) (c : Char) : Bool :=
  isSlash scheme c || c = '?' || c = '#'

def bracketed (text : List Char) : Except UriError Host :=
  if text.getLast? = some ']' then
    match address6? (text.drop 1).dropLast with
    | some pieces => .ok (.address6 pieces)
    | none => .error .badAddress6
  else .error .badAddress6

def webHost (text : List Char) : Except UriError Host :=
  if text.head? = some '[' then bracketed text
  else
    match Domain.normalize? (Text.ofBytes (decode text)) with
    | none => .error .badDomain
    | some "" => .error .emptyHost
    | some name =>
        if endsInNumber name.toList then
          match address4? name.toList with
          | some address => .ok (.address4 address)
          | none => .error .badAddress4
        else .ok (.name name)

def dividesHost (c : Char) : Bool :=
  "\x00\t\n\r #/:<>?@[\\]^|".toList.contains c

/-- A host of another kind; an empty text is none. -/
def otherHost (text : List Char) : Except UriError (Option Host) :=
  if text.head? = some '[' then some <$> bracketed text
  else if text.any dividesHost then .error .badHostCharacter
  else if text.isEmpty then .ok none
  else .ok (some (.name (encode [] text)))

def splitLastAt (text : List Char) : Option (List Char) × List Char :=
  let reversed := text.reverse
  match reversed.dropWhile (· ≠ '@') with
  | [] => (none, text)
  | _ :: before => (some before.reverse, (reversed.takeWhile (· ≠ '@')).reverse)

/-- The user and the password of credentials, which the first colon divides. -/
def readCredentials (text : List Char) : String × String :=
  (encode reservedInCredentials (text.takeWhile (· ≠ ':')),
    encode reservedInCredentials ((text.dropWhile (· ≠ ':')).drop 1))

/-- The text of a host, which goes up to a colon outside of brackets, and what stands behind it. -/
def splitHost (inside : Bool) : List Char → List Char × List Char
  | [] => ([], [])
  | c :: rest =>
      if c = ':' && !inside then ([], c :: rest)
      else
        let (host, behind) :=
          splitHost (if c = '[' then true else if c = ']' then false else inside) rest
        (c :: host, behind)

/-- A port and what stands behind it; a port that goes without saying is left out. -/
def readPort (scheme : String) (text : List Char) : Except UriError (Option Nat × List Char) :=
  let digits := text.takeWhile Char.isDigit
  let rest := text.dropWhile Char.isDigit
  let port := digits.foldl (fun number digit => 10 * number + (digit.toNat - '0'.toNat)) 0
  if 65535 < port || !(rest.isEmpty || rest.head? = some '\\') then .error .badPort
  else if digits.isEmpty || some port = standardPort? scheme then .ok (none, rest)
  else .ok (some port, rest)

def readPlace (scheme : String) (text : List Char) :
    Except UriError (Option Host × Option Nat × List Char) := do
  let (hostText, behind) := splitHost false text
  let host ←
    if isKnownScheme scheme then
      if hostText.isEmpty then .error .emptyHost else some <$> webHost hostText
    else otherHost hostText
  match behind with
  | [] => return (host, none, [])
  | _ :: portText =>
      if host.isNone then .error .emptyHost
      else
        let (port, rest) ← readPort scheme portText
        return (host, port, rest)

/-- An authority and what stands behind it. Credentials go with a host only, and a lone `@` needs
something behind it, unless nothing follows at all. -/
def readAuthority (scheme : String) (text : List Char) :
    Except UriError (Authority × List Char) := do
  let reach := text.takeWhile (!endsAuthority scheme ·)
  let behind := text.dropWhile (!endsAuthority scheme ·)
  let (credentials, place) := splitLastAt reach
  if credentials = some [] && place.isEmpty && !behind.isEmpty then .error .emptyHost
  else
    let (user, password) := readCredentials (credentials.getD [])
    let (host, port, rest) ← readPlace scheme place
    if host.isNone && !(user = "" && password = "") then .error .emptyHost
    else return (⟨user, password, host, port⟩, rest ++ behind)

end Keypath.Uri
