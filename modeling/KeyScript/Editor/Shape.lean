import KeyScript.Uri
import KeyScript.Json.Printer
import KeyScript.Text.Quoted

/-! Shapes that the parameters of a message must have. Fitting a value to a shape
keeps the fields that the shape knows, or tells what does not fit. Objects have
their fields sorted by name, so the first misfit is the one whose name is least. -/
namespace KeyScript.Editor

inductive Need where
  | required
  /-- May be left out by name, not in an array; null counts as left out. -/
  | optional
  /-- May be left out everywhere; null counts as left out. -/
  | spare
  /-- May be left out everywhere and may not be null. -/
  | defaulted
  deriving DecidableEq

/-- Where a value is fitted: where it stands, from a copy that was laid aside, or as
one of several trials on such a copy. -/
inductive Stage where
  | standing
  | aside
  | trial
  deriving DecidableEq

inductive Shape where
  | any
  | text
  | flag
  | number
  | word (allowed : List String)
  | whole (type : String) (low high : Int)
  | uri
  | list (item : Shape)
  | pair (item : Shape)
  | table (item : Shape)
  | uriTable (item : Shape)
  | record (name : String) (fields : List (String × Need × Shape))
  /-- Fields by name only, its own and those of records that share its level; those
  that belong to none of them have the shape `rest`, if there is one. -/
  | merged (name : String) (own : List (String × Need × Shape))
      (shared : List (List (String × Need × Shape))) (rest : Option Shape)
  | either (name : String) (choices : List Shape)
  | tagged (tag : String) (choices : List (String × Shape))
  /-- A list of values in a record of its own, or a flag in its place. -/
  | supported (item : Shape)

namespace Shape

def word32 : Shape := .whole "u32" 0 0xFFFFFFFF

def int32 : Shape := .whole "i32" (-0x80000000) 0x7FFFFFFF

end Shape

def described : Json → String
  | .null => "null"
  | .bool true => "boolean `true`"
  | .bool false => "boolean `false`"
  | .integer n => "integer `" ++ (Json.integer n).compact ++ "`"
  | .float negative mantissa exponent =>
    "floating point `" ++ (Json.float negative mantissa exponent).compact ++ "`"
  | .string s => "string " ++ Text.quoted s
  | .array _ => "sequence"
  | .object _ => "map"

def wrongType (value : Json) (expected : String) : String :=
  "invalid type: " ++ described value ++ ", expected " ++ expected

def wrongValue (value : Json) (expected : String) : String :=
  "invalid value: " ++ described value ++ ", expected " ++ expected

def oneOf (words : List String) : String :=
  match words with
  | [a] => "`" ++ a ++ "`"
  | [a, b] => "`" ++ a ++ "` or `" ++ b ++ "`"
  | words => "one of `" ++ "`, `".intercalate words ++ "`"

def unknownWord (allowed : List String) (word : String) : String :=
  "unknown variant `" ++ word ++ "`, expected " ++ oneOf allowed

def nothing (stage : Stage) (value : Json) : Except String Unit :=
  match stage, value with
  | _, .null => .ok ()
  | .aside, .object [] => .ok ()
  | _, value => .error (wrongType value "unit")

def fitWord (stage : Stage) (allowed : List String) (value : Json) : Except String Json :=
  match value with
  | .string s => if allowed.contains s then .ok (.string s) else .error (unknownWord allowed s)
  | .object [(s, inner)] =>
    if allowed.contains s then (nothing stage inner).map fun _ => .string s
    else .error (unknownWord allowed s)
  | .object _ => .error (wrongValue value "map with a single key")
  | value => .error (wrongType value "string or map")

inductive Given where
  | named (fields : List (String × Json))
  | ordered (items : List Json)

inductive Fit where
  | kept (value : Json)
  | absent
  | missing
  | misfit (reason : String)

/-- The field at place `index`, once its value is known to be there or not. -/
def Need.fit (need : Need) (ordered : Bool) (value : Option Json)
    (fit : Json → Except String Json) : Fit :=
  match need, value with
  | .required, none => .missing
  | .optional, none => if ordered then .missing else .absent
  | .spare, none => .absent
  | .defaulted, none => .absent
  | .optional, some .null => .absent
  | .spare, some .null => .absent
  | _, some value =>
    match fit value with
    | .ok kept => .kept kept
    | .error reason => .misfit reason

def kept (fits : List (String × Fit)) : List (String × Json) :=
  fits.filterMap fun (name, fit) =>
    match fit with
    | .kept value => some (name, value)
    | _ => none

/-- Fields given by name: the first misfit by name wins over a missing field. -/
def collectNamed (fits : List (String × Fit)) : Except String (List (String × Json)) :=
  let misfits := fits.filterMap fun (name, fit) =>
    match fit with
    | .misfit reason => some (name, reason)
    | _ => none
  match (misfits.mergeSort fun a b => !decide (b.1 < a.1)).head? with
  | some (_, reason) => .error reason
  | none =>
    match fits.find? fun (_, fit) => match fit with
      | .missing => true
      | _ => false with
    | some (name, _) => .error ("missing field `" ++ name ++ "`")
    | none => .ok (kept fits)

def elements (count : Nat) : String :=
  String.ofList (Text.decimal count) ++ (if count = 1 then " element" else " elements")

def wrongLength (length : Nat) (expected : String) : String :=
  "invalid length " ++ String.ofList (Text.decimal length) ++ ", expected " ++ expected

def tooMany (stage : Stage) (count length : Nat) : String :=
  wrongLength length
    (if stage = .standing then "fewer elements in array" else elements count ++ " in sequence")

/-- Fields given in order: the first that does not fit or is not there wins. -/
def collectOrdered (name : String) (fields : Nat) :
    Nat → List (String × Fit) → Except String (List (String × Json))
  | _, [] => .ok []
  | index, (field, fit) :: rest =>
    match fit with
    | .misfit reason => .error reason
    | .missing => .error (wrongLength index ("struct " ++ name ++ " with " ++ elements fields))
    | .absent => collectOrdered name fields (index + 1) rest
    | .kept value => (collectOrdered name fields (index + 1) rest).map ((field, value) :: ·)

def Given.get? (given : Given) (index : Nat) (name : String) : Option Json :=
  match given with
  | .named fields => fields.lookup name
  | .ordered items => items[index]?

def Given.isOrdered : Given → Bool
  | .named _ => false
  | .ordered _ => true

def fieldNames (fields : List (String × Need × Shape)) : List String := fields.map (·.1)

mutual

def Shape.fit (shape : Shape) (stage : Stage) (value : Json) : Except String Json :=
  match shape, value with
  | .any, value => .ok value
  | .text, .string s => .ok (.string s)
  | .text, value => .error (wrongType value "a string")
  | .flag, .bool b => .ok (.bool b)
  | .flag, value => .error (wrongType value "a boolean")
  | .number, .integer n => .ok (.integer n)
  | .number, .float negative mantissa exponent => .ok (.float negative mantissa exponent)
  | .number, value => .error (wrongType value "f32")
  | .word allowed, value => fitWord stage allowed value
  | .whole type low high, .integer n =>
    if low ≤ n ∧ n ≤ high then .ok (.integer n) else .error (wrongValue (.integer n) type)
  | .whole type _ _, value => .error (wrongType value type)
  | .uri, .string s =>
    match Uri.parse s with
    | .ok uri => .ok (.string uri.text)
    | .error flaw => .error (flaw.text ++ ": " ++ Text.quoted s)
  | .uri, value => .error (wrongType value "a string representing an URL")
  | .list item, .array items => (items.mapM fun value => item.fit stage value).map .array
  | .list _, value => .error (wrongType value "a sequence")
  | .pair item, .array items =>
    if items.length < 2 then .error (wrongLength items.length "an array of length 2")
    else if 2 < items.length then .error (tooMany stage 2 items.length)
    else (items.mapM fun value => item.fit stage value).map .array
  | .pair _, value => .error (wrongType value "an array of length 2")
  | .table item, .object entries =>
    (entries.mapM fun (entry : String × Json) =>
      (item.fit stage entry.2).map (entry.1, ·)).map .object
  | .table _, value => .error (wrongType value "a map")
  | .uriTable item, .object entries =>
    (entries.mapM fun (entry : String × Json) =>
      match Uri.parse entry.1 with
      | .ok uri => (item.fit stage entry.2).map (uri.text, ·)
      | .error flaw => .error (flaw.text ++ ": " ++ Text.quoted entry.1)).map .object
  | .uriTable _, value => .error (wrongType value "map")
  | .record _ fields, .object given =>
    (collectNamed (fitFields stage (.named given) 0 fields)).map .object
  | .record name fields, .array items =>
    match collectOrdered name fields.length 0 (fitFields stage (.ordered items) 0 fields) with
    | .error reason => .error reason
    | .ok kept =>
      if fields.length < items.length then .error (tooMany stage fields.length items.length)
      else .ok (.object kept)
  | .record name _, value => .error (wrongType value ("struct " ++ name))
  | .merged _ own shared rest, .object given => do
    let kept ← collectNamed (fitFields stage (.named given) 0 own)
    let more ← fitShared given shared
    let others := given.filter fun entry => !(fieldNames own).contains entry.1
    let left ← fitRest others rest
    .ok (.object (kept ++ more ++ left))
  | .merged name _ _ _, value => .error (wrongType value ("struct " ++ name))
  | .either name choices, value =>
    match firstFit value choices with
    | some kept => .ok kept
    | none => .error ("data did not match any variant of untagged enum " ++ name)
  | .tagged tag choices, .object given =>
    match given.lookup tag with
    | some (.string word) => fitTagged word (.object (given.filter (·.1 != tag))) choices
    | _ => .error ("missing field `" ++ tag ++ "`")
  | .tagged _ _, value => .error (wrongType value "a map")
  | .supported _, .bool _ => .ok (.object [])
  | .supported item, .object given =>
    match given.lookup "valueSet" with
    | none => .error "missing field `valueSet`"
    | some (.array items) => (items.mapM fun value => item.fit .standing value).map .array
    | some value => .error (wrongType value "a sequence")
  | .supported item, .array items =>
    match items with
    | [] => .error (wrongLength 0 "struct TagSupport with 1 element")
    | .array inner :: rest =>
      match inner.mapM fun value => item.fit .standing value with
      | .error reason => .error reason
      | .ok kept => if rest.isEmpty then .ok (.array kept) else .error (tooMany .standing 1 items.length)
    | value :: _ => .error (wrongType value "a sequence")
  | .supported _, value => .error (wrongType value "struct TagSupport")

def fitFields (stage : Stage) (given : Given) (index : Nat) :
    List (String × Need × Shape) → List (String × Fit)
  | [] => []
  | (name, need, shape) :: rest =>
    (name, need.fit given.isOrdered (given.get? index name) fun value => shape.fit stage value) ::
      fitFields stage given (index + 1) rest

def fitShared (given : List (String × Json)) :
    List (List (String × Need × Shape)) → Except String (List (String × Json))
  | [] => .ok []
  | fields :: rest => do
    let kept ← collectNamed (fitFields .aside (.named given) 0 fields)
    let more ← fitShared given rest
    .ok (kept ++ more)

def fitRest (others : List (String × Json)) : Option Shape → Except String (List (String × Json))
  | none => .ok []
  | some item => others.mapM fun (entry : String × Json) => (item.fit .aside entry.2).map (entry.1, ·)

def firstFit (value : Json) : List Shape → Option Json
  | [] => none
  | choice :: rest =>
    match choice.fit .trial value with
    | .ok kept => some kept
    | .error _ => firstFit value rest

def fitTagged (word : String) (value : Json) : List (String × Shape) → Except String Json
  | [] => .error ("unknown variant `" ++ word ++ "`")
  | (name, shape) :: rest =>
    if name = word then shape.fit .trial value else fitTagged word value rest

end

end KeyScript.Editor
