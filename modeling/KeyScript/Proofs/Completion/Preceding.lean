import KeyScript.Proofs.Completion.Resolving
import KeyScript.Proofs.Script.Extent

/-! The text in front of a cursor. It is cut off the text of the statement after as many
characters as there are columns up to the cursor, and a dropped backslash has a column but
no character. So for each one in front of the cursor the cut lies one character further
on, and the exact condition for it to reach behind the cursor is stated. -/
namespace KeyScript.Completion
open Script

/-- The characters of the statement that stand in the text up to the cursor. -/
def typedChars (text : String) (r : Resolution) : List Char :=
  covered text.toList r.statement.tokens r.statement.place.first r.offset

/-- The characters of the statement that stand behind the cursor. -/
def charsBehind (text : String) (r : Resolution) : List Char :=
  covered text.toList r.statement.tokens (r.statement.place.first + r.offset)
    (r.statement.place.last + 1 - (r.statement.place.first + r.offset))

/-- Only what stands up to the cursor precedes it, and only that is completed as a
command. -/
structure TypedOnly (text : String) (line column : Nat) (r : Resolution) : Prop where
  before : r.textBefore.toList = typedChars text r
  command : ∀ triggers typed, contextAt triggers text line (column + 1) = .command typed →
    typed.toList <:+ typedChars text r

/-- A backslash in front of the cursor is dropped from the statement, and the statement
goes on behind the cursor. -/
def Overruns (text : String) (r : Resolution) : Prop :=
  r.statement.place.first + r.offset ≤ r.statement.place.last ∧
    ∃ i < r.statement.place.first + r.offset, r.statement.place.first ≤ i ∧
      covers r.statement.tokens i = false ∧ text.toList[i]? = some '\\'

instance : Decidable (Overruns text r) := inferInstanceAs (Decidable (_ ∧ _))

section
variable {text : String} {r : Resolution}

/-- The cut takes as many characters from behind the cursor as are dropped in front. -/
theorem textBefore_eq (extent : Extent text.toList r.statement)
    (reach : r.statement.place.first + r.offset ≤ r.statement.place.last + 1) :
    r.textBefore.toList = typedChars text r ++
      (charsBehind text r).take (r.offset - (typedChars text r).length) := by
  have within := extent.within
  have size : r.statement.place.last + 1 - r.statement.place.first = r.offset +
      (r.statement.place.last + 1 - (r.statement.place.first + r.offset)) := by omega
  rw [Resolution.textBefore, String.toList_ofList, extent.text, size, take_covered (by omega)]
  rfl

theorem length_typedChars_eq_iff (extent : Extent text.toList r.statement)
    (reach : r.statement.place.first + r.offset ≤ r.statement.place.last) :
    (typedChars text r).length = r.offset ↔ ¬ Overruns text r := by
  have within := extent.within
  rw [typedChars, length_covered_eq_iff (by omega)]
  constructor
  · rintro all ⟨_, i, before, after, missing, _⟩
    rw [all i after before] at missing
    contradiction
  · intro none i after before
    by_contra missing
    rw [Bool.not_eq_true] at missing
    obtain ⟨sign, _⟩ := extent.dropped i after (by omega) missing
    exact none ⟨reach, i, before, after, missing, sign⟩

theorem charsBehind_eq_nil_iff (extent : Extent text.toList r.statement) :
    charsBehind text r = [] ↔ r.statement.place.last < r.statement.place.first + r.offset := by
  have within := extent.within
  constructor
  · intro none
    apply Nat.lt_of_not_le
    intro reach
    exact covered_ne_nil (by omega) reach (by omega) extent.ends none
  · intro passed
    rw [charsBehind, Nat.sub_eq_zero_of_le passed]
    rfl

theorem textBefore_eq_typedChars_iff (extent : Extent text.toList r.statement)
    (reach : r.statement.place.first + r.offset ≤ r.statement.place.last + 1) :
    r.textBefore.toList = typedChars text r ↔ ¬ Overruns text r := by
  have within := extent.within
  have short : (typedChars text r).length ≤ r.offset := length_covered_le (by omega)
  rw [textBefore_eq extent reach, List.append_right_eq_self, List.take_eq_nil_iff,
    charsBehind_eq_nil_iff extent]
  -- At the end of the statement nothing is left to be taken, however much is dropped.
  by_cases more : r.statement.place.first + r.offset ≤ r.statement.place.last
  · rw [← length_typedChars_eq_iff extent more]
    omega
  · have ended : r.statement.place.last < r.statement.place.first + r.offset := by omega
    simp only [ended, or_true, true_iff]
    exact fun overruns => more overruns.1

theorem held_of_exact (parsed : parse text = .ok ss)
    (resolved : resolve ss line (some column) = .ok r) (precise : r.isExact = true) :
    ∃ s, (statements text).find? (holds line column) = some s ∧
      r = ⟨s, column - s.columns.first + 1, some column⟩ := by
  have nonempty : text ≠ "" := by
    rintro rfl
    rw [parse_empty] at parsed
    contradiction
  obtain rfl : statements text = ss := by
    rw [parse_eq_ok nonempty] at parsed
    exact Except.ok.inj parsed
  cases found : (statements text).find? (holds line column) with
  | some s =>
    rw [resolve_held found] at resolved
    exact ⟨s, rfl, (Except.ok.inj resolved).symm⟩
  | none =>
    have last := List.getLast?_eq_some_getLast (mt statements_eq_nil_iff.mp nonempty)
    rw [resolve_unheld found last] at resolved
    obtain rfl := Except.ok.inj resolved
    contradiction

/-- A command that is completed ends the text in front of the cursor. -/
theorem command_suffix {t : Triggers} (completed : t.classifyAt r column = .command typed) :
    typed.toList <:+ r.textBefore.toList := by
  rcases classifyAt_eq t r column with ⟨_, same⟩ | ⟨_, _, same⟩ | ⟨_, _, same | same⟩
  · rw [same] at completed
    contradiction
  · rw [same] at completed
    contradiction
  · rw [same] at completed
    obtain rfl := Context.command.inj completed
    exact List.nil_suffix
  · rw [same] at completed
    obtain rfl := Context.command.inj completed
    rw [Text.trimStart, String.toList_ofList]
    exact List.dropWhile_suffix _

end

/-- At every position that a statement holds, what precedes the cursor is what stands in
the text up to it, unless the cut overruns the cursor. -/
theorem typedOnly_iff_not_overruns (parsed : parse text = .ok ss)
    (resolved : resolve ss line (some column) = .ok r) (precise : r.isExact = true) :
    TypedOnly text line column r ↔ ¬ Overruns text r := by
  obtain ⟨s, found, rfl⟩ := held_of_exact parsed resolved precise
  have extent := extent_statement (List.mem_of_find?_eq_some found)
  have reach : s.place.first + (column - s.columns.first + 1) ≤ s.place.last + 1 := by
    obtain ⟨_, after, before⟩ := holds_iff.mp (List.find?_some found)
    have width := extent.width
    omega
  rw [← textBefore_eq_typedChars_iff extent reach]
  constructor
  · exact TypedOnly.before
  · intro same
    refine ⟨same, fun triggers typed completed => ?_⟩
    rw [contextAt_held found] at completed
    rw [← same]
    exact command_suffix completed

/-- The quoted backslash stays in the statement and the dropped one stands behind the
cursor, so what precedes the cursor is what stands there. -/
theorem typedOnly_quoted_escape : ∃ ss r, parse "GET \"a\\b\" \\c" = .ok ss ∧
    resolve ss 0 (some 8) = .ok r ∧ r.isExact = true ∧ r.textBefore = "GET \"a\\b\"" ∧
    TypedOnly "GET \"a\\b\" \\c" 0 8 r := by
  have run : ((statements "GET \"a\\b\" \\c").find? (holds 0 8)).any (fun s =>
      Resolution.textBefore ⟨s, 8 - s.columns.first + 1, some 8⟩ = "GET \"a\\b\"" ∧
      ¬ Overruns "GET \"a\\b\" \\c" ⟨s, 8 - s.columns.first + 1, some 8⟩) = true := by
    decide +kernel
  obtain ⟨s, found, facts⟩ := (Option.any_eq_true _ _).mp run
  obtain ⟨before, stays⟩ := of_decide_eq_true facts
  have parsed : parse "GET \"a\\b\" \\c" = .ok _ := parse_eq_ok (by decide)
  exact ⟨_, _, parsed, resolve_held found, rfl, before,
    (typedOnly_iff_not_overruns parsed (resolve_held found) rfl).mpr stays⟩

/-- The backslash is dropped, so the third column cuts off three letters, one more than
stand up to it. They are completed as a command. -/
theorem overruns_escape : ∃ ss r, parse "H\\SET" = .ok ss ∧ resolve ss 0 (some 2) = .ok r ∧
    r.isExact = true ∧ typedChars "H\\SET" r = ['H', 'S'] ∧ r.textBefore = "HSE" ∧
    contextAt .standard "H\\SET" 0 3 = .command "HSE" ∧ ¬ TypedOnly "H\\SET" 0 2 r := by
  have run : ((statements "H\\SET").find? (holds 0 2)).any (fun s =>
      typedChars "H\\SET" ⟨s, 2 - s.columns.first + 1, some 2⟩ = ['H', 'S'] ∧
      Resolution.textBefore ⟨s, 2 - s.columns.first + 1, some 2⟩ = "HSE") = true ∧
      contextAt .standard "H\\SET" 0 3 = .command "HSE" := by
    decide +kernel
  obtain ⟨s, found, facts⟩ := (Option.any_eq_true _ _).mp run.1
  obtain ⟨typed, before⟩ := of_decide_eq_true facts
  refine ⟨_, _, parse_eq_ok (by decide), resolve_held found, rfl, typed, before, run.2, ?_⟩
  intro law
  have same := law.before
  rw [typed, before] at same
  contradiction

end KeyScript.Completion
