import Keypath.Text.Slice
import Keypath.Uri.Percent

/-!
The steps of a path.

A `.` stays where it is and a `..` takes back the step before it, each also when its dots are
written with percent signs. The letter of a drive, such as `C:`, is not taken back.
-/

namespace Keypath.Uri

def isSingleDot (segment : String) : Bool :=
  [".", "%2e"].contains segment.toLower

def isDoubleDot (segment : String) : Bool :=
  ["..", ".%2e", "%2e.", "%2e%2e"].contains segment.toLower

/-- A letter and a colon, or a bar in the place of the colon. -/
def isDrive (segment : List Char) : Bool :=
  match segment with
  | [letter, mark] => letter.isAlpha && (mark = ':' || mark = '|')
  | _ => false

def driveText (segment : String) : String :=
  String.ofList (segment.toList.take 1 ++ [':'])

/-- Take back the last step; `done` holds the steps so far, the last one first. -/
def stepBack (done : List String) : List String :=
  match done with
  | last :: before => if isDrive last.toList then done else before
  | [] => []

/-- Take one more step. Where drives count, a first step to one is written with a colon. -/
def takeStep (withDrives : Bool) (done : List String) (segment : String) : List String :=
  if isDoubleDot segment then stepBack done
  else if isSingleDot segment then done
  else if withDrives && done.isEmpty && isDrive segment.toList then [driveText segment]
  else segment :: done

/-- Take all steps. A path that ends in dots ends in a slash. -/
def takeSteps (withDrives : Bool) (done : List String) : List String → List String
  | [] => done.reverse
  | [last] =>
      let taken := takeStep withDrives done last
      if isDoubleDot last || isSingleDot last then ("" :: taken).reverse else taken.reverse
  | segment :: rest => takeSteps withDrives (takeStep withDrives done segment) rest

/-- The steps of a path given without its first slash. -/
def stepsOf (slash : Char → Bool) (withDrives : Bool) (text : List Char) : List String :=
  takeSteps withDrives [] ((Text.splitWhere slash text).map (encode reservedInPath))

def dropEmpty : List String → List String
  | "" :: next :: rest => dropEmpty (next :: rest)
  | segments => segments

end Keypath.Uri
