import KeyScript.Proofs.Completion.Naming
import KeyScript.Proofs.Script.Coordinates

/-! Resolution of the positions of an editor. A statement holds a position exactly when
the character that stands there is one of its own, so the first statement that holds it
is the one in which the character is found. -/
namespace KeyScript.Completion
open Script

theorem holds_iff {s : Statement} : holds line column s = true ↔
    s.line = line ∧ s.columns.first ≤ column ∧ column ≤ s.columns.last := by
  simp [holds, and_assoc]

theorem holds_of_position {s : Statement} (located : Located cs s)
    (after : s.place.first ≤ index) (before : index ≤ s.place.last)
    (position : Text.position cs index = (line, column)) : holds line column s = true := by
  obtain ⟨k, rfl⟩ := Nat.exists_eq_add_of_le after
  rw [located.position k before] at position
  obtain ⟨rfl, rfl⟩ := Prod.mk.inj position
  have width := located.width
  rw [holds_iff]
  omega

/-- The character that a statement holds at a position stands there. -/
theorem position_of_holds {s : Statement} (located : Located cs s)
    (held : holds line column s = true) : ∃ index, s.place.first ≤ index ∧
      index ≤ s.place.last ∧ index + s.columns.first = s.place.first + column ∧
      Text.position cs index = (line, column) := by
  obtain ⟨rfl, after, before⟩ := holds_iff.mp held
  have width := located.width
  have bound : s.place.first + (column - s.columns.first) ≤ s.place.last := by omega
  refine ⟨s.place.first + (column - s.columns.first), by omega, bound, by omega, ?_⟩
  rw [located.position _ bound, Nat.add_sub_cancel' after]

/-- Every position of an editor where a character stands is resolved to the statement of
that character, with the offset of the character in it; every other position is resolved
to the last statement, with no offset. -/
theorem resolve_position (nonempty : text ≠ "") (escapes : EscapesQuoted text.toList)
    (strings : ∀ t ∈ tokens text, t.kind = .string → '\n' ∉ t.text.toList) (line column : Nat) :
    ∃ ss, parse text = .ok ss ∧
      (∀ index < text.length, Text.position text.toList index = (line, column) →
        ∃ r, resolve ss line (some column) = .ok r ∧ r.isExact = true ∧ r.statement ∈ ss ∧
          r.statement.place.first ≤ index ∧ index ≤ r.statement.place.last ∧
          r.statement.place.first + r.offset - 1 = index) ∧
      ((∀ index < text.length, Text.position text.toList index ≠ (line, column)) →
        ∃ last, ss.getLast? = some last ∧
          resolve ss line (some column) = .ok ⟨last, 0, some column⟩) := by
  have located : ∀ s ∈ statements text, Located text.toList s :=
    fun s => located_statement escapes strings
  refine ⟨statements text, parse_eq_ok nonempty, fun index within position => ?_, fun absent => ?_⟩
  · obtain ⟨owner, member, t, part, span⟩ := token_covering escapes within
    have inside := (located owner member).tokens t part
    have held := holds_of_position (located owner member) (by omega) (by omega) position
    obtain ⟨s, found⟩ := Option.isSome_iff_exists.mp (List.find?_isSome.mpr ⟨owner, member, held⟩)
    have listed := List.mem_of_find?_eq_some found
    obtain ⟨other, after, before, moved, same⟩ :=
      position_of_holds (located s listed) (List.find?_some found)
    -- The first statement that holds the position holds the same character.
    obtain rfl : other = index := by
      have bound := (located s listed).within
      rw [← String.length_toList] at within
      exact Text.position_injective (by omega) within (same.trans position.symm)
    have reach := (holds_iff.mp (List.find?_some found)).2
    exact ⟨_, resolve_held found, by simp [Resolution.isExact], listed, after, before,
      by simp only; omega⟩
  · have none : (statements text).find? (holds line column) = none := by
      rw [List.find?_eq_none]
      intro s member held
      obtain ⟨index, _, before, _, position⟩ := position_of_holds (located s member) held
      have bound := (located s member).within
      rw [String.length_toList] at bound
      exact absent index (by omega) position
    have last := List.getLast?_eq_some_getLast (mt statements_eq_nil_iff.mp nonempty)
    exact ⟨_, last, resolve_unheld none last⟩

/-- The last letter of a compound on the last of three lines, the second of them blank. -/
theorem resolve_position_compound : ∃ ss, parse ";\n\nACL LIST" = .ok ss ∧
    ∃ r, resolve ss 2 (some 7) = .ok r ∧ r.isExact = true ∧
      r.statement.place.first + r.offset - 1 = 10 := by
  have nonempty : ";\n\nACL LIST" ≠ "" := by decide
  obtain ⟨ss, parsed, held, _⟩ := resolve_position nonempty (by decide) (by decide +kernel) 2 7
  obtain ⟨r, resolved, precise, _, _, _, offset⟩ := held 10 (by decide) (by decide)
  exact ⟨ss, parsed, r, resolved, precise, offset⟩

end KeyScript.Completion
