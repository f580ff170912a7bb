import Keypath.Uri.Host
import Keypath.Uri.Segments

/-!
Reading an identifier brings it into one form: the host is written as machines write it, dots in the
path are worked off, and characters that may not stand for themselves are written with percent
signs.
-/

namespace Keypath.Uri

def isSchemeChar (c : Char) : Bool :=
  c.isAlphanum || c = '+' || c = '-' || c = '.'

def scheme? (text : List Char) : Option (String × List Char) :=
  match text.takeWhile isSchemeChar, text.dropWhile isSchemeChar with
  | first :: more, ':' :: rest =>
      if first.isAlpha then some (String.ofList ((first :: more).map Char.toLower), rest) else none
  | _, _ => none

def isPathChar (c : Char) : Bool := !(c = '?' || c = '#')

def reservedInQuery (scheme : String) : List Char :=
  [' ', '"', '#', '<', '>'] ++ if isKnownScheme scheme then ['\''] else []

def fragmentOf : List Char → Option String
  | '#' :: rest => some (encode reservedInFragment rest)
  | _ => none

def build (scheme : String) (authority : Option Authority) (path : UriPath) (text : List Char) :
    Uri :=
  match text.dropWhile isPathChar with
  | '?' :: rest =>
      ⟨scheme, authority, path,
        some (encode (reservedInQuery scheme) (rest.takeWhile (· ≠ '#'))),
        fragmentOf (rest.dropWhile (· ≠ '#'))⟩
  | other => ⟨scheme, authority, path, none, fragmentOf other⟩

/-! Files. -/

/-- A file's path has no empty steps in front, and one that begins with a drive is on this
machine. -/
def fileOn (host : Option Host) (pathText text : List Char) : Uri :=
  let steps := stepsOf (isSlash "file") true (pathText.takeWhile isPathChar)
  let host := if steps.head?.any fun step => isDrive step.toList then none else host
  build "file" (some { Authority.none with host := host }) (.steps (dropEmpty steps)) text

/-- A file behind two slashes: a host follows, unless it is the letter of a drive. -/
def fileWithHost (text : List Char) : Except UriError Uri := do
  let hostText := text.takeWhile (!endsAuthority "file" ·)
  let behind := text.dropWhile (!endsAuthority "file" ·)
  let pathText := match behind with
    | c :: rest => if isSlash "file" c then rest else behind
    | [] => []
  if isDrive hostText then return fileOn none text text
  else if hostText.isEmpty then return fileOn none pathText text
  else
    let host ← webHost hostText
    return fileOn (if host = .name "localhost" then none else some host) pathText text

def fileUri (text : List Char) : Except UriError Uri :=
  match text with
  | first :: second :: rest =>
      if isSlash "file" first then
        if isSlash "file" second then fileWithHost rest
        else .ok (fileOn none (second :: rest) text)
      else .ok (fileOn none text text)
  | [only] => .ok (fileOn none (if isSlash "file" only then [] else [only]) text)
  | [] => .ok (fileOn none [] [])

/-! Other schemes. -/

/-- Any number of slashes stands before a host of the web. -/
def webUri (scheme : String) (text : List Char) : Except UriError Uri := do
  let (authority, rest) ← readAuthority scheme (text.dropWhile (isSlash scheme))
  let pathText := rest.takeWhile isPathChar
  let pathText := match pathText with
    | c :: more => if isSlash scheme c then more else pathText
    | [] => []
  return build scheme (some authority) (.steps (stepsOf (isSlash scheme) false pathText)) rest

def otherUri (scheme : String) (text : List Char) : Except UriError Uri :=
  match text with
  | '/' :: '/' :: more => do
      let (authority, rest) ← readAuthority scheme more
      return build scheme (some authority) (.steps (match rest.takeWhile isPathChar with
        | [] => []
        | '/' :: pathText => stepsOf (isSlash scheme) false pathText
        | pathText => stepsOf (isSlash scheme) false pathText)) rest
  | '/' :: pathText =>
      .ok (build scheme none
        (.steps (stepsOf (isSlash scheme) false (pathText.takeWhile isPathChar))) pathText)
  | _ => .ok (build scheme none (.bare (encode [] (text.takeWhile isPathChar))) text)

/-- Blanks and control characters around an identifier do not count, and neither do line ends and
tabs inside it. -/
def cleaned (text : String) : List Char :=
  let isOuter (c : Char) : Bool := c.toNat ≤ 0x20
  let inner := ((text.toList.dropWhile isOuter).reverse.dropWhile isOuter).reverse
  inner.filter fun c => !(c = '\t' || c = '\n' || c = '\r')

def parse (text : String) : Except UriError Uri :=
  match scheme? (cleaned text) with
  | none => .error .relative
  | some (scheme, rest) =>
      if scheme = "file" then fileUri rest
      else if isWebScheme scheme then webUri scheme rest
      else otherUri scheme rest

end Keypath.Uri
