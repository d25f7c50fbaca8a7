import Mathlib.Data.List.Induction
import KeyScript.Proofs.Completion.Preceding
import KeyScript.Proofs.Script.Alignment

/-! Owners of columns. Two statements of one line have no line break between them, so their
columns are counted from the same place of the text and lie apart as the statements do.
Hence a column of a line has one owner at most, and the offset of a column in its owner is
counted from the owner's first character and does not lead behind its last. -/
namespace KeyScript.Script

theorem lineStart_append (none : breaks more = 0) (ts : List Token) :
    lineStart (ts ++ more) = lineStart ts := by
  induction more using List.reverseRecOn with
  | nil => rw [List.append_nil]
  | append_singleton more t ih =>
    rw [breaks_append, breaks_cons, Nat.add_eq_zero_iff, Nat.add_eq_zero_iff] at none
    obtain ⟨before, here, _⟩ := none
    have going : t.kind ≠ .lineBreak := by
      intro feed
      rw [if_pos feed] at here
      contradiction
    rw [← List.append_assoc, lineStart_concat, if_neg going, ih before]

section
variable {s t : Statement} {above between below : List Statement}

theorem preceding_statement (cut : statements text = above ++ s :: below) :
    preceding (tokens text) s.place.first = above.flatMap Statement.tokens := by
  have member : s ∈ statements text := by simp [cut]
  obtain ⟨head, starts, _, _, place, _⟩ := span_ends (statements_tokens_ne_nil s member)
  obtain ⟨rest, same⟩ := List.head?_eq_some_iff.mp starts
  have tokens := tokens_cut cut
  rw [same, List.cons_append] at tokens
  rw [place]
  exact preceding_tokens tokens

theorem place_lt_of_cut (cut : statements text = above ++ s :: (between ++ t :: below)) :
    s.place.last < t.place.first := by
  have some : ∀ u ∈ statements text, u.tokens ≠ [] := statements_tokens_ne_nil
  obtain ⟨_, _, last, ends, left, _⟩ := span_ends (some s (by simp [cut]))
  obtain ⟨head, starts, _, _, right, _⟩ := span_ends (some t (by simp [cut]))
  have ordered := (tiled_tokens text).ordered
  rw [tokens_cut cut, List.flatMap_append, List.flatMap_cons] at ordered
  obtain ⟨_, rest, _⟩ := List.pairwise_append.mp ordered
  obtain ⟨_, _, across⟩ := List.pairwise_append.mp rest
  rw [left, right]
  apply across last (List.mem_of_mem_getLast? ends) head
  simp [List.mem_of_mem_head? starts]

/-- No line break stands between two statements of one line. -/
theorem lineStart_of_line (cut : statements text = above ++ s :: (between ++ t :: below))
    (line : s.line = t.line) :
    lineStart (preceding (tokens text) t.place.first) =
      lineStart (preceding (tokens text) s.place.first) := by
  have lower : statements text = (above ++ s :: between) ++ t :: below := by simp [cut]
  have upper := statements_line_below cut
  have count := statements_line_below lower
  rw [List.flatMap_append, breaks_append] at count
  rw [preceding_statement cut, preceding_statement lower, List.flatMap_append]
  apply lineStart_append
  omega

theorem columns_lt_of_line (cut : statements text = above ++ s :: (between ++ t :: below))
    (line : s.line = t.line) : s.columns.last < t.columns.first := by
  have upper : s ∈ statements text := by simp [cut]
  have lower : t ∈ statements text := by simp [cut]
  obtain ⟨forward, onward, width, origin⟩ := aligned_statement upper
  obtain ⟨_, _, _, start⟩ := aligned_statement lower
  rw [lineStart_of_line cut line] at start
  have apart := place_lt_of_cut cut
  omega

end

/-- The columns of both statements, with those of the first in front of the others. -/
structure Before (s t : Statement) : Prop where
  first : s.columns.first ≤ s.columns.last
  apart : s.columns.last < t.columns.first
  second : t.columns.first ≤ t.columns.last

theorem statements_before (text : String) :
    (statements text).Pairwise fun s t => s.line = t.line → Before s t := by
  -- The induction is on what is left of the statements behind those already passed.
  suffices all : ∀ above ss, statements text = above ++ ss →
      ss.Pairwise fun s t => s.line = t.line → Before s t from all [] _ rfl
  intro above ss cut
  induction ss generalizing above with
  | nil => exact .nil
  | cons s ss ih =>
    constructor
    · intro t member line
      obtain ⟨between, below, rfl⟩ := List.append_of_mem member
      have first : s ∈ statements text := by simp [cut]
      have second : t ∈ statements text := by simp [cut]
      exact ⟨(aligned_statement first).onward, columns_lt_of_line cut line,
        (aligned_statement second).onward⟩
    · apply ih (above ++ [s])
      rw [cut, List.append_cons]

end KeyScript.Script

namespace KeyScript.Completion
open Script

theorem not_holds_of_before {s t : Statement} (before : s.line = t.line → Before s t)
    (held : holds line column s = true) : holds line column t = false := by
  obtain ⟨rfl, _, upper⟩ := holds_iff.mp held
  rw [Bool.eq_false_iff, Ne, holds_iff]
  rintro ⟨same, lower, _⟩
  have apart := (before same.symm).apart
  omega

theorem countP_holds_le {ss : List Statement}
    (before : ss.Pairwise fun s t => s.line = t.line → Before s t) (line column : Nat) :
    ss.countP (holds line column) ≤ 1 := by
  induction before with
  | nil => simp
  | @cons s ss first _ ih =>
    cases held : holds line column s with
    | false => rwa [List.countP_cons_of_neg (by simp [held])]
    | true =>
      have none : ss.countP (holds line column) = 0 := by
        rw [List.countP_eq_zero]
        intro t member
        simp [not_holds_of_before (first t member) held]
      rw [List.countP_cons_of_pos held, none]

/-- Of two statements on a line the first ends in front of the second, so one statement at
most holds a column. What a column resolves to exactly is the statement that holds it; its
offset counts the columns from the first of the statement, and there is no offset behind
the statement's last character. -/
theorem resolve_owner (text : String) (ss : List Statement) (parsed : parse text = .ok ss) :
    (ss.Pairwise fun s t => s.line = t.line → Before s t) ∧
    ∀ line column, ss.countP (holds line column) ≤ 1 ∧
      ∀ r, resolve ss line (some column) = .ok r → r.isExact = true →
        r.statement ∈ ss ∧ holds line column r.statement = true ∧
        r.statement.columns.first ≤ column ∧
        r.offset = column - r.statement.columns.first + 1 ∧ 1 ≤ r.offset ∧
        r.offset ≤ r.statement.place.last - r.statement.place.first + 1 := by
  have nonempty : text ≠ "" := by
    rintro rfl
    rw [parse_empty] at parsed
    contradiction
  obtain rfl : statements text = ss := Except.ok.inj ((parse_eq_ok nonempty).symm.trans parsed)
  have before := statements_before text
  refine ⟨before, ?_⟩
  intro line column
  refine ⟨countP_holds_le before line column, ?_⟩
  intro r resolved precise
  obtain ⟨s, found, rfl⟩ := held_of_exact parsed resolved precise
  have member := List.mem_of_find?_eq_some found
  have held := List.find?_some found
  obtain ⟨_, lower, upper⟩ := holds_iff.mp held
  have width := (aligned_statement member).width
  refine ⟨member, held, lower, rfl, ?_, ?_⟩ <;> simp only <;> omega

/-- The first line holds a string with a line feed and a dropped backslash, and its second
statement owns the columns behind the terminator. -/
theorem resolve_owner_behind_string : ∃ ss, parse "\"\n\"\\;GET\nGET" = .ok ss ∧
    ss.countP (holds 0 7) ≤ 1 ∧ ∃ r, resolve ss 0 (some 7) = .ok r ∧ r.isExact = true ∧
      r.offset = 3 ∧ r.statement.columns = ⟨5, 8⟩ ∧
      r.offset ≤ r.statement.place.last - r.statement.place.first + 1 := by
  have nonempty : "\"\n\"\\;GET\nGET" ≠ "" := by decide
  have parsed := parse_eq_ok nonempty
  obtain ⟨_, owners⟩ := resolve_owner _ _ parsed
  obtain ⟨single, offsets⟩ := owners 0 7
  have resolved : resolve (statements "\"\n\"\\;GET\nGET") 0 (some 7) =
      .ok ⟨⟨0, [.token ⟨.keyword, ⟨5, 7⟩, ⟨5, 7⟩, "GET"⟩,
        .token ⟨.lineBreak, ⟨8, 8⟩, ⟨8, 8⟩, "\n"⟩]⟩, 3, some 7⟩ := by decide +kernel
  obtain ⟨_, _, _, _, _, bound⟩ := offsets _ resolved rfl
  exact ⟨_, parsed, single, _, resolved, rfl, rfl, rfl, bound⟩

end KeyScript.Completion
