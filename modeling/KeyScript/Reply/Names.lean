import KeyScript.Fault
import KeyScript.Reply.Value

/-! Reading names out of a reply. A reply of another shape is refused with its
typed text. -/
namespace KeyScript.Reply

namespace Value

mutual

/-- The first error inside a value, in the order it is written. -/
def firstError? : Value → Option ErrorLine
  | .error line => some line
  | .array items => firstErrorOf? items
  | .set items => firstErrorOf? items
  | .push _ items => firstErrorOf? items
  | .map entries => firstErrorIn? entries
  | .attribute data attributes =>
    match firstError? data with
    | some line => some line
    | none => firstErrorIn? attributes
  | _ => none

def firstErrorOf? : List Value → Option ErrorLine
  | [] => none
  | item :: rest =>
    match firstError? item with
    | some line => some line
    | none => firstErrorOf? rest

def firstErrorIn? : List (Value × Value) → Option ErrorLine
  | [] => none
  | (key, value) :: rest =>
    match firstError? key with
    | some line => some line
    | none =>
      match firstError? value with
      | some line => some line
      | none => firstErrorIn? rest

end

def orError (v : Value) : Except StoreFault Value :=
  match v.firstError? with
  | some line => .error line.fault
  | none => .ok v

def refuse (reason : String) (v : Value) : StoreFault :=
  .described .type "Response was of incompatible type"
    (some ("\"" ++ reason ++ "\" (response was " ++ v.typedText ++ ")"))

/-- A name: a text, or a number or acknowledgement by its text. -/
def name (v : Value) : Except StoreFault String :=
  match v with
  | .bulk bytes =>
    match Text.ofUtf8? bytes with
    | some text => .ok text
    | none => .error (.described .type "Cannot convert from UTF-8" none)
  | .simple text => .ok text
  | .okay => .ok "OK"
  | .int n => .ok (number n)
  | .double d => .ok d.plain
  | v => .error (refuse "Response type not string compatible." v)

/-- A list of names. One text is a list of one, and nil the empty list. -/
def names (v : Value) : Except StoreFault (List String) :=
  match v with
  | .array items => items.mapM name
  | .set items => items.mapM name
  | .nil => .ok []
  | .bulk bytes => (name (.bulk bytes)).map ([·])
  | .map entries => (name (.map entries)).map ([·])
  | v => .error (refuse "Response type not vector compatible." v)

/-- One page of a scan: where it goes on, and a list of names. -/
def page (v : Value) : Except StoreFault (String × List String) :=
  match v with
  | .array [cursor, items] => do
    let cursor ← cursor.name
    let items ← items.names
    .ok (cursor, items)
  | .array _ => .error (refuse "Array response of wrong dimension" v)
  | _ => .error (refuse "Not a Array response" v)

end Value

end KeyScript.Reply
