import KeyScript.Log.Event
import KeyScript.Log.Pattern
import KeyScript.Text.Basic
import KeyScript.Text.Digits
import KeyScript.Text.Letter

/-! Which events are shown. Directives, separated by commas, set the level for an
area and those inside it, or for all, and may ask for details that an event must
have; the one that says most decides. -/
namespace KeyScript.Log

/-- The least severe level that is shown, if any is. -/
abbrev Threshold := Option LogLevel

/-- Levels by how much they let through. -/
def rank : LogLevel → Nat
  | .error => 1
  | .warn => 2
  | .info => 3
  | .debug => 4
  | .trace => 5

def Threshold.admits : Threshold → LogLevel → Bool
  | none, _ => false
  | some most, level => rank level ≤ rank most

def Threshold.ofNat? : Nat → Option Threshold
  | 0 => some none
  | 1 => some (some .error)
  | 2 => some (some .warn)
  | 3 => some (some .info)
  | 4 => some (some .debug)
  | 5 => some (some .trace)
  | _ => none

/-- A level by its number, or by its word in any case. -/
def threshold? (word : String) : Option Threshold :=
  match Text.boundedNat? 5 word.toList with
  | some n => Threshold.ofNat? n
  | none =>
    match String.ofList (Text.folded word) with
    | "off" => some none
    | word => (LogLevel.ofWord? word).map some

structure Directive where
  area : Option String
  /-- A task that the event must be part of, by name. -/
  task : Option String
  /-- Details that the event must have, each with the value it must have, if any. -/
  details : List (String × Option String)
  threshold : Threshold
  deriving DecidableEq

/-- Everything, wherever it happens. -/
def Directive.all : Directive := ⟨none, none, [], some .trace⟩

inductive Directive.Flaw where
  | form
  | level
  | pattern (flaw : Pattern.Flaw)
  /-- A part of it would begin or end inside a character. Nothing goes on after that. -/
  | torn
  deriving DecidableEq

def Directive.Flaw.text : Directive.Flaw → String
  | form => "invalid filter directive"
  | level => "error parsing level filter: expected one of \"off\", \"error\", \"warn\", " ++
      "\"info\", \"debug\", \"trace\", or a number 0-5"
  | pattern flaw => "invalid field filter: " ++ flaw.text
  | torn => ""

namespace Directive

/-- The part of a directive that is being read, and the byte where it began. -/
inductive Part where
  | start
  | levelOrArea (begin : Nat)
  | task (begin : Nat)
  | detail (begin : Nat)
  | details
  | area
  | level (begin : Nat)

/-- The characters from byte `low` up to byte `high`, if both are between characters. -/
def slice? : Nat → Nat → List Char → Option (List Char)
  | _, 0, _ => some []
  | _, _ + 1, [] => some []
  | low, high + 1, c :: cs =>
    let size := c.utf8Size
    if high + 1 < size ∨ (0 < low ∧ low < size) then none
    else (slice? (low - size) (high + 1 - size) cs).map fun more => if low = 0 then c :: more else more

def slice (text : String) (low high : Nat) : Except Flaw String :=
  match slice? low high text.toList with
  | some cs => .ok (String.ofList cs)
  | none => .error .torn

def endSlice (text : String) (low : Nat) : Except Flaw String := slice text low text.utf8ByteSize

/-- Digits in front of a point, behind it or both, and perhaps a power of ten. -/
def isDecimal (cs : List Char) : Bool :=
  let isPower : Char → Bool := fun c => c == 'e' || c == 'E'
  let isDigit : Char → Bool := fun c => (Text.decimalDigit? c).isSome
  let mantissa := cs.takeWhile (!isPower ·)
  let power := cs.dropWhile (!isPower ·)
  let whole := mantissa.takeWhile (· != '.')
  let places := (mantissa.dropWhile (· != '.')).drop 1
  whole.all isDigit && places.all isDigit && !(whole.isEmpty && places.isEmpty) &&
    (power.isEmpty || (Text.intOf? (power.drop 1)).isSome)

/-- A number with or without a sign; more digits than fit are rounded. -/
def isNumber (cs : List Char) : Bool :=
  let cs := match cs with
    | '+' :: rest => rest
    | '-' :: rest => rest
    | _ => cs
  isDecimal cs || ["inf", "infinity", "nan"].contains (String.ofList (cs.map Char.toLower))

/-- What is wrong with the value of a detail. It is a number or a pattern. -/
def valueFlaw? (value : List Char) : Option Pattern.Flaw :=
  if isNumber value then none else Pattern.flaw? value

/-- A detail by its name, or by its name and value. -/
def detail (text : String) : Except Flaw (String × Option String) :=
  match Text.pieces '=' text.toList with
  | [] => .error .form
  | [name] => if name.isEmpty then .error .form else .ok (String.ofList name, none)
  | name :: value :: _ =>
    match valueFlaw? value with
    | some flaw => .error (.pattern flaw)
    | none => .ok (String.ofList name, some (String.ofList value))

def level (text : String) : Except Flaw Threshold :=
  if text.isEmpty then .ok (some .trace)
  else match threshold? text with
    | some threshold => .ok threshold
    | none => .error .level

def step (text : String) (here : Nat) (d : Directive) (part : Part) (c : Char) :
    Except Flaw (Directive × Part) :=
  match part, c with
  | .start, '[' => .ok (d, .task (here + 1))
  | .start, c =>
    if c == '-' || c == ':' || c == '_' || Text.isLetterOrNumber c then .ok (d, .levelOrArea here)
    else .error .form
  | .levelOrArea begin, '=' => do
    let area ← slice text begin here
    .ok ({ d with area := some area }, .level (here + 1))
  | .levelOrArea begin, '[' => do
    let area ← slice text begin here
    .ok ({ d with area := some area }, .task (here + 1))
  | .levelOrArea begin, _ => .ok (d, .levelOrArea begin)
  | .area, '=' => .ok (d, .level (here + 1))
  | .task begin, ']' => do
    let task ← slice text begin here
    .ok ({ d with task := some task }, .area)
  | .task begin, '\x7b' => do
    let task ← slice text begin here
    .ok ({ d with task := if task.isEmpty then none else some task }, .detail (here + 1))
  | .task begin, _ => .ok (d, .task begin)
  | .detail begin, '\x7d' => do
    let detail ← (slice text begin here).bind detail
    .ok ({ d with details := d.details ++ [detail] }, .details)
  | .detail begin, _ => .ok (d, .detail begin)
  | .details, ']' => .ok (d, .area)
  | .level begin, _ => .ok (d, .level begin)
  | .details, _ => .error .form
  | .area, _ => .error .form

def steps (text : String) : Nat → Directive → Part → List Char → Except Flaw (Directive × Part)
  | _, d, part, [] => .ok (d, part)
  | here, d, part, c :: rest =>
    match step text here d part c with
    | .error flaw => .error flaw
    | .ok (d, part) => steps text (here + c.utf8Size) d part rest

/-- Reads a directive. Blanks around it are skipped over, yet its parts are cut out of
the text as it stands: a blank in front shifts them. -/
def read (text : String) : Except Flaw Directive := do
  let (d, part) ← steps text 0 .all .start (Text.trimmed text.toList)
  match part with
  | .levelOrArea begin =>
    let word ← endSlice text begin
    match threshold? word with
    | some threshold => .ok { d with threshold }
    | none => .ok { d with area := some word }
  | .level begin =>
    let threshold ← (endSlice text begin).bind level
    .ok { d with threshold }
  | .area => .ok d
  | _ => .error .form

/-- Nothing here is part of a task, and no value of a detail is looked at. -/
def applies (d : Directive) : Bool := d.task.isNone && d.details.all (·.2.isNone)

def covers (d : Directive) (e : Event) : Bool :=
  (d.area.all fun outer => e.area.startsWith outer) && d.details.all fun (name, _) => e.has name

def names (d : Directive) : List String := d.details.map (·.1)

/-- How closely a directive names its area. -/
def weight (d : Directive) : Nat :=
  match d.area with
  | none => 0
  | some outer => outer.utf8ByteSize + 1

/-- One directive says less than another: its area is shorter or it asks for fewer
details; failing that, its details come first in order. -/
def saysLess (a b : Directive) : Bool :=
  a.weight < b.weight || (a.weight == b.weight && (a.details.length < b.details.length ||
    (a.details.length == b.details.length && decide (a.names < b.names))))

end Directive

structure Filter where
  directives : List Directive

namespace Filter

def readings (text : String) : List (String × Except Directive.Flaw Directive) :=
  ((Text.pieces ',' text.toList).filter (!·.isEmpty)).map fun cs =>
    (String.ofList cs, Directive.read (String.ofList cs))

/-- Some directive cannot be cut into its parts. -/
def isTorn (text : String) : Bool :=
  (readings text).any fun (_, reading) =>
    match reading with
    | .error .torn => true
    | _ => false

def ofText (level : LogLevel) (text : String) : Filter :=
  match (readings text).filterMap fun (_, reading) => reading.toOption with
  | [] => ⟨[{ Directive.all with threshold := some level }]⟩
  | directives => ⟨directives⟩

/-- A line for each directive that cannot be read, up to one that cannot be cut. -/
def complaintsOn : List (String × Except Directive.Flaw Directive) → String
  | [] => ""
  | (_, .error .torn) :: _ => ""
  | (_, .ok _) :: rest => complaintsOn rest
  | (directive, .error flaw) :: rest =>
    "ignoring `" ++ directive ++ "`: " ++ flaw.text ++ "\n" ++ complaintsOn rest

def complaints (text : String) : String := complaintsOn (readings text)

def closer (best : Option Directive) (d : Directive) : Option Directive :=
  match best with
  | none => some d
  | some b => if d.saysLess b then best else some d

def deciding? (f : Filter) (e : Event) : Option Directive :=
  (f.directives.filter fun d => d.applies && d.covers e).foldl closer none

def shows (f : Filter) (e : Event) : Bool :=
  match f.deciding? e with
  | some d => d.threshold.admits e.level
  | none => false

end Filter

def lines (filter : Filter) (style : Style) (events : List Event) : String :=
  String.join ((events.filter filter.shows).map (Event.line style))

end KeyScript.Log
