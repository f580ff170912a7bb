import Keypath.Json.Basic
import Keypath.Uri.Reader

/-!
The form that a JSON value is expected to have, and what reading it gives.

A record can be given as an object or as a list of its fields in their order. Of an object the given
fields are read in the order of their names, so that the first of them that is wrong is reported;
only then are missing fields looked for, in the record's own order. Fields that the record does not
have are passed over.
-/

namespace Keypath

inductive Mismatch where
  | wrongType (found : String) (expected : String)
  | wrongValue (found : String) (expected : String)
  | wrongLength (length : Nat) (expected : String)
  | missingField (name : String)
  | unknownChoice (found : String) (choices : List String)
  | noVariant (name : String)
  | badUri (error : UriError) (text : String)
deriving DecidableEq, Repr

inductive Value where
  | nothing
  | flag (value : Bool)
  | integer (value : Int)
  | text (value : String)
  | uri (value : Uri)
  | json (value : Json)
  | list (items : List Value)
  | record (fields : List (String × Value))
deriving Repr, Inhabited

inductive Form where
  | anything
  | flag
  /-- A text, called `expected` in the message for anything else. -/
  | text (expected : String)
  /-- An integer between two bounds, both included. -/
  | integer (expected : String) (low high : Int)
  | uri
  | choice (words : List String)
  /-- A value that may be left out or be `null`. -/
  | optional (form : Form)
  /-- A value with a standard that takes its place when it is left out. -/
  | standard (value : Value) (form : Form)
  /-- A value that a plain yes or no may take the place of. -/
  | switch (on : Value) (form : Form)
  | list (item : Form)
  | record (name : String) (fields : List (String × Form))
  /-- A record whose fields stand beside those of other records in one object. It has no list
  form. -/
  | merged (name : String) (fields : List (String × Form)) (others : List Form)
  | firstOf (name : String) (forms : List Form)
deriving Inhabited

namespace Mismatch

def ticked (word : String) : String := "`" ++ word ++ "`"

def choicesText : List String → String
  | [] => "there are no variants"
  | [only] => "expected " ++ ticked only
  | [first, second] => "expected " ++ ticked first ++ " or " ++ ticked second
  | words => "expected one of " ++ ", ".intercalate (words.map ticked)

def message : Mismatch → String
  | wrongType found expected => "invalid type: " ++ found ++ ", expected " ++ expected
  | wrongValue found expected => "invalid value: " ++ found ++ ", expected " ++ expected
  | wrongLength length expected =>
      "invalid length " ++ toString length ++ ", expected " ++ expected
  | missingField name => "missing field " ++ ticked name
  | unknownChoice found choices => "unknown variant " ++ ticked found ++ ", " ++ choicesText choices
  | noVariant name => "data did not match any variant of untagged enum " ++ name
  | badUri error text => error.message ++ ": " ++ Text.quoted text

end Mismatch

def Json.mismatch (json : Json) (expected : String) : Mismatch := .wrongType json.describe expected

/-! Reading. -/

namespace Form

def counted (count : Nat) : String :=
  toString count ++ (if count = 1 then " element" else " elements")

def recordText (name : String) : String := "struct " ++ name

def readText (expected : String) : Json → Except Mismatch Value
  | .string value => .ok (.text value)
  | json => .error (json.mismatch expected)

def readFlag : Json → Except Mismatch Value
  | .bool value => .ok (.flag value)
  | json => .error (json.mismatch "a boolean")

def readInteger (expected : String) (low high : Int) (json : Json) : Except Mismatch Value :=
  match json with
  | .number (.integer value) =>
      if low ≤ value && value ≤ high then .ok (.integer value)
      else .error (.wrongValue json.describe expected)
  | _ => .error (json.mismatch expected)

def readUri (json : Json) : Except Mismatch Value :=
  match json with
  | .string written =>
      match Uri.parse written with
      | .ok read => .ok (.uri read)
      | .error error => .error (.badUri error written)
  | _ => .error (json.mismatch "a string representing an URL")

def readWord (words : List String) (word : String) : Except Mismatch Value :=
  if words.contains word then .ok (.text word) else .error (.unknownChoice word words)

/-- A word stands alone or as the only field of an object, with nothing in it. -/
def readChoice (words : List String) (json : Json) : Except Mismatch Value :=
  match json with
  | .string word => readWord words word
  | .object [(word, inner)] =>
      match readWord words word, inner with
      | .ok value, .null => .ok value
      | .ok _, _ => .error (inner.mismatch "unit")
      | .error mismatch, _ => .error mismatch
  | .object _ => .error (.wrongValue json.describe "map with a single key")
  | _ => .error (json.mismatch "string or map")

def whenAbsent : Form → Option Value
  | .optional _ => some .nothing
  | .standard value _ => some value
  | _ => none

def whenShort : Form → Option Value
  | .standard value _ => some value
  | _ => none

structure Reading where
  name : String
  isGiven : Bool
  outcome : Except Mismatch Value

/-- The fault of the given field whose name comes first. -/
def firstFault? (readings : List Reading) : Option Mismatch :=
  let faults := readings.filterMap fun reading =>
    match reading.outcome with
    | .error mismatch => if reading.isGiven then some (reading.name, mismatch) else none
    | .ok _ => none
  ((faults.mergeSort fun a b => a.1 ≤ b.1).head?).map Prod.snd

def collect (readings : List Reading) : Except Mismatch (List (String × Value)) :=
  match firstFault? readings with
  | some mismatch => .error mismatch
  | none => readings.mapM fun reading => (reading.name, ·) <$> reading.outcome

/-- What is said of a list with items left over; `isInner` tells that it stands inside of a merged
record. -/
def leftOver (isInner : Bool) (fields items : Nat) : Mismatch :=
  .wrongLength items
    (if isInner then counted fields ++ " in sequence" else "fewer elements in array")

mutual

def read (isInner : Bool) (form : Form) (json : Json) : Except Mismatch Value :=
  match form with
  | .anything => .ok (.json json)
  | .flag => readFlag json
  | .text expected => readText expected json
  | .integer expected low high => readInteger expected low high json
  | .uri => readUri json
  | .choice words => readChoice words json
  | .optional form =>
      match json with
      | .null => .ok .nothing
      | json => read isInner form json
  | .standard _ form => read isInner form json
  | .switch on form =>
      match json with
      | .bool value => .ok (if value then on else .nothing)
      | json => read isInner form json
  | .list item =>
      match json with
      | .array items => Value.list <$> items.mapM fun json => read isInner item json
      | json => .error (json.mismatch "a sequence")
  | .record name fields =>
      match json with
      | .object given => Value.record <$> collect (readFields isInner given fields)
      | .array items =>
          match readItems isInner (recordText name ++ " with " ++ counted fields.length) 0 fields
            items with
          | .error mismatch => .error mismatch
          | .ok values =>
              if fields.length < items.length then
                .error (leftOver isInner fields.length items.length)
              else .ok (.record values)
      | json => .error (json.mismatch (recordText name))
  | .merged name fields others =>
      match json with
      | .object given =>
          match collect (readFields isInner given fields) with
          | .error mismatch => .error mismatch
          | .ok values => (Value.record <| values ++ ·) <$> readOthers (.object given) others
      | json => .error (json.mismatch (recordText name))
  | .firstOf name forms =>
      match readFirst forms json with
      | some value => .ok value
      | none => .error (.noVariant name)

def readFields (isInner : Bool) (given : List (String × Json)) :
    List (String × Form) → List Reading
  | [] => []
  | (name, form) :: rest =>
      (match given.lookup name with
        | some json => ⟨name, true, read isInner form json⟩
        | none =>
            match form.whenAbsent with
            | some value => ⟨name, false, .ok value⟩
            | none => ⟨name, false, .error (.missingField name)⟩) ::
        readFields isInner given rest

def readItems (isInner : Bool) (expected : String) (index : Nat) :
    List (String × Form) → List Json → Except Mismatch (List (String × Value))
  | [], _ => .ok []
  | (name, form) :: rest, item :: items =>
      match read isInner form item with
      | .error mismatch => .error mismatch
      | .ok value =>
          ((name, value) :: ·) <$> readItems isInner expected (index + 1) rest items
  | (name, form) :: rest, [] =>
      match form.whenShort with
      | some value => ((name, value) :: ·) <$> readItems isInner expected (index + 1) rest []
      | none => .error (.wrongLength index expected)

def readOthers (json : Json) : List Form → Except Mismatch (List (String × Value))
  | [] => .ok []
  | form :: rest =>
      match read true form json with
      | .error mismatch => .error mismatch
      | .ok (.record values) => (values ++ ·) <$> readOthers json rest
      | .ok _ => readOthers json rest

def readFirst : List Form → Json → Option Value
  | [], _ => none
  | form :: rest, json =>
      match read true form json with
      | .ok value => some value
      | .error _ => readFirst rest json

end

def anyText : Form := .text "a string"

def unsigned32 : Form := .integer "u32" 0 0xFFFFFFFF

def signed32 : Form := .integer "i32" (-0x80000000) 0x7FFFFFFF

end Form

namespace Value

def field (value : Value) (name : String) : Value :=
  match value with
  | record fields => (fields.lookup name).getD nothing
  | _ => nothing

def text? : Value → Option String
  | text value => some value
  | _ => none

def integer? : Value → Option Int
  | integer value => some value
  | _ => none

def uri? : Value → Option Uri
  | uri value => some value
  | _ => none

def json? : Value → Option Json
  | json value => some value
  | _ => none

def items : Value → List Value
  | list items => items
  | _ => []

end Value

end Keypath
