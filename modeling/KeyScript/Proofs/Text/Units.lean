import Mathlib.Order.GaloisConnection.Basic
import Mathlib.Order.Monotone.Basic
import KeyScript.Text.Lines

/-! Columns in UTF-16 units and columns in characters. The two ways of counting along a
line are the sides of a Galois connection, of which each law of the conversion is an
instance: a column of units becomes the least column of characters that reaches it. -/
namespace KeyScript.Text

/-- The units in front of a column of characters. Past the end of the line each column has
one. -/
def unitsBefore (line : List Char) (column : Nat) : Nat :=
  width (line.take column) + (column - line.length)

theorem units_pos (c : Char) : 0 < units c := by
  rw [units]
  split <;> decide

theorem unitsBefore_zero (line : List Char) : unitsBefore line 0 = 0 := by
  simp [unitsBefore, width]

theorem unitsBefore_cons (c : Char) (line : List Char) (column : Nat) :
    unitsBefore (c :: line) (column + 1) = units c + unitsBefore line column := by
  simp only [unitsBefore, List.take_succ_cons, width, List.length_cons, Nat.add_sub_add_right]
  omega

theorem columnOfUnits_le_iff : columnOfUnits line target ≤ column ↔
    target ≤ unitsBefore line column := by
  fun_induction columnOfUnits line target generalizing column with
  | case1 => simp
  | case2 target some => simp [unitsBefore, width]
  | case3 c line target some ih =>
    have positive : 0 < target := Nat.pos_of_ne_zero some
    cases column with
    | zero =>
      rw [unitsBefore_zero]
      omega
    | succ column =>
      rw [unitsBefore_cons, Nat.add_le_add_iff_right, ih]
      omega

theorem columnOfUnits_galois (line : List Char) :
    GaloisConnection (columnOfUnits line) (unitsBefore line) :=
  fun _ _ => columnOfUnits_le_iff

theorem unitsBefore_lt_succ (line : List Char) (column : Nat) :
    unitsBefore line column < unitsBefore line (column + 1) := by
  induction line generalizing column with
  | nil => simp [unitsBefore, width]
  | cons c line ih =>
    cases column with
    | zero =>
      rw [unitsBefore_zero, unitsBefore_cons]
      exact Nat.add_pos_left (units_pos c) _
    | succ column =>
      rw [unitsBefore_cons, unitsBefore_cons]
      exact Nat.add_lt_add_left (ih column) _

/-- Every character has units, so no two columns have the same number of them before. -/
theorem columnOfUnits_unitsBefore (line : List Char) (column : Nat) :
    columnOfUnits line (unitsBefore line column) = column := by
  have strict : StrictMono (unitsBefore line) :=
    strictMono_nat_of_lt_succ (unitsBefore_lt_succ line)
  exact strict.injective ((columnOfUnits_galois line).u_l_u_eq_u column)

theorem unitsBefore_of_le (inside : column ≤ line.length) :
    unitsBefore line column = width (line.take column) := by
  rw [unitsBefore, Nat.sub_eq_zero_of_le inside, Nat.add_zero]

theorem unitsBefore_beyond (line : List Char) (excess : Nat) :
    unitsBefore line (line.length + excess) = width line + excess := by
  rw [unitsBefore, List.take_of_length_le (Nat.le_add_right _ _), Nat.add_sub_cancel_left]

theorem columnOfUnits_isLeast (reached : target ≤ width line) :
    IsLeast {column | target ≤ width (line.take column)} (columnOfUnits line target) := by
  have whole : unitsBefore line line.length = width line := unitsBefore_beyond line 0
  have inside : columnOfUnits line target ≤ line.length :=
    columnOfUnits_le_iff.mpr (whole ▸ reached)
  constructor
  · have covered := (columnOfUnits_galois line).le_u_l target
    rwa [unitsBefore_of_le inside] at covered
  · intro column enough
    exact columnOfUnits_le_iff.mpr (Nat.le_add_right_of_le enough)

theorem columnOfUnits_beyond (past : width line < target) :
    columnOfUnits line target = line.length + (target - width line) := by
  have split : target = unitsBefore line (line.length + (target - width line)) := by
    rw [unitsBefore_beyond]
    omega
  rw [split, columnOfUnits_unitsBefore, ← split]

theorem charColumn_of_line (found : (lines text.toList)[line]? = some content) :
    charColumn text line = columnOfUnits content := by
  funext target
  rw [charColumn, found]

/-- On a line that exists, a column of units within its width becomes the least number of
characters that is as wide, and one past it keeps its distance from the end. Counting the
units of characters and converting them gives the characters back, and the conversion is
monotone. On a line that does not exist a column stays as it is. -/
theorem charColumn_exact (text : String) (line : Nat) :
    (∀ content, (lines text.toList)[line]? = some content →
      (∀ target ≤ width content,
        IsLeast {column | target ≤ width (content.take column)} (charColumn text line target)) ∧
      (∀ target, width content < target →
        charColumn text line target = content.length + (target - width content)) ∧
      (∀ column ≤ content.length,
        charColumn text line (width (content.take column)) = column) ∧
      Monotone (charColumn text line)) ∧
    ((lines text.toList)[line]? = none → ∀ target, charColumn text line target = target) := by
  constructor
  · intro content found
    rw [charColumn_of_line found]
    refine ⟨fun target => columnOfUnits_isLeast, fun target => columnOfUnits_beyond, ?_,
      (columnOfUnits_galois content).monotone_l⟩
    intro column inside
    rw [← unitsBefore_of_le inside, columnOfUnits_unitsBefore]
  · intro missing target
    rw [charColumn, missing]

/-- A column between the two units of the second pair, and one past the end of the line. -/
theorem charColumn_exact_pairs :
    (lines "GET a\n😀😀 SET".toList)[1]? = some "😀😀 SET".toList ∧
    IsLeast {column | 3 ≤ width ("😀😀 SET".toList.take column)}
      (charColumn "GET a\n😀😀 SET" 1 3) ∧
    charColumn "GET a\n😀😀 SET" 1 10 = 8 ∧ charColumn "GET a\n😀😀 SET" 1 4 = 2 := by
  have found : (lines "GET a\n😀😀 SET".toList)[1]? = some "😀😀 SET".toList := by decide
  obtain ⟨least, beyond, counted, _⟩ := (charColumn_exact "GET a\n😀😀 SET" 1).1 _ found
  exact ⟨found, least 3 (by decide), beyond 10 (by decide), counted 2 (by decide)⟩

end KeyScript.Text
