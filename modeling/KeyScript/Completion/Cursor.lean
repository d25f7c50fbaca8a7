import KeyScript.Script.Compound

/-! Cursor resolution: the statement that holds a column of a line. -/
namespace KeyScript.Completion

open Script

structure Resolution where
  /-- The statement that holds the column, else the last statement. -/
  statement : Statement
  /-- Characters of the statement up to and including the column, 0 when none holds it. -/
  offset : Nat
  column : Option Nat
  deriving DecidableEq

namespace Resolution

def isExact (r : Resolution) : Bool := 0 < r.offset

/-- Text of the statement up to and including the column. -/
def textBefore (r : Resolution) : String :=
  String.ofList (r.statement.text.toList.take r.offset)

end Resolution

/-- `s` stands on `line` and its columns include `column`. -/
def holds (line column : Nat) (s : Statement) : Bool :=
  s.line == line && s.columns.first ≤ column && column ≤ s.columns.last

/-- The first statement that holds the position. No column means that nothing
precedes the cursor on its line, and no statement holds that. -/
def resolve (statements : List Statement) (line : Nat) (column : Option Nat) :
    Except ParseFault Resolution :=
  match statements.getLast? with
  | none => .error .emptyInput
  | some last =>
    match column with
    | none => .ok ⟨last, 0, column⟩
    | some c =>
      match statements.find? (holds line c) with
      | some s => .ok ⟨s, c - s.columns.first + 1, column⟩
      | none => .ok ⟨last, 0, column⟩

end KeyScript.Completion
