import KeyScript.Proofs.Script.Coverage
import KeyScript.Proofs.Script.Partition

/-! Where tokens and statements stand: their offset in the text, their columns as the
scanner counts them, and the line and column that an editor shows. Along a line the
scanner's two counts move together. It counts columns as an editor does, unless a string
holds a line feed. -/
namespace KeyScript.Text

/-- Characters after the last line feed. -/
def column (cs : List Char) : Nat := (cs.reverse.takeWhile (· != '\n')).length

/-- Line and column of the character at `index`, as an editor counts them. -/
def position (cs : List Char) (index : Nat) : Nat × Nat :=
  ((cs.take index).count '\n', column (cs.take index))

theorem column_append (feedless : '\n' ∉ more) :
    column (cs ++ more) = column cs + more.length := by
  have all : ∀ c ∈ more.reverse, (c != '\n') = true := by
    intro c member
    have different : c ≠ '\n' := by
      rintro rfl
      exact feedless (List.mem_reverse.mp member)
    simpa using different
  rw [column, List.reverse_append, List.takeWhile_append_of_pos all, List.length_append,
    List.length_reverse, Nat.add_comm, column]

theorem column_lineFeed (cs : List Char) : column (cs ++ ['\n']) = 0 := by
  simp [column]

theorem position_append (feedless : '\n' ∉ more) (cs rest : List Char) :
    position (cs ++ (more ++ rest)) (cs.length + more.length) =
      (cs.count '\n', column cs + more.length) := by
  rw [position, ← List.append_assoc, ← List.length_append, List.take_left, List.count_append,
    List.count_eq_zero.mpr feedless, column_append feedless]
  rfl

theorem position_ne_of_lt (order : i < j) (within : j < cs.length) :
    position cs i ≠ position cs j := by
  intro same
  obtain ⟨count, columns⟩ := Prod.mk.inj same
  have cut : cs.take j = cs.take i ++ (cs.drop i).take (j - i) := by
    rw [← List.take_add, Nat.add_sub_cancel' (Nat.le_of_lt order)]
  rw [cut] at columns count
  have feedless : '\n' ∉ (cs.drop i).take (j - i) := by
    rw [List.count_append] at count
    exact List.count_eq_zero.mp (by omega)
  rw [column_append feedless, List.length_take, List.length_drop] at columns
  omega

/-- Different characters stand at different positions. -/
theorem position_injective (left : i < cs.length) (right : j < cs.length)
    (same : position cs i = position cs j) : i = j := by
  rcases Nat.lt_trichotomy i j with before | equal | after
  · exact absurd same (position_ne_of_lt before right)
  · exact equal
  · exact absurd same.symm (position_ne_of_lt after left)

end KeyScript.Text

namespace KeyScript.Script

/-- On one line the offset of the text and the column move together. -/
theorem Step.synchronized (step : Step s t after) :
    t.place.first + s.column = t.columns.first + s.offset ∧
    t.place.last + s.column = t.columns.last + s.offset ∧
    (t.kind ≠ .lineBreak → after.offset + s.column = after.column + s.offset) := by
  cases step with
  | trailing =>
    simp only [tokenAt, Scanner.token]
    omega
  | @lexeme escapes kind chars tail offset column =>
    refine ⟨?_, ?_, fun going => ?_⟩
    · simp only [tokenAt, Scanner.token]
      omega
    · simp only [tokenAt, Scanner.token]
      omega
    · have going : kind ≠ .lineBreak := going
      rw [columnAfter, if_neg going]
      simp only
      omega

theorem Reads.synchronized (read : Reads s ts after)
    (going : ∀ t ∈ ts.dropLast, t.isSeparator = false) :
    ∀ t ∈ ts, t.place.first + s.column = t.columns.first + s.offset ∧
      t.place.last + s.column = t.columns.last + s.offset := by
  induction read with
  | done => simp
  | @step s t middle ts after step read ih =>
    obtain ⟨first, last, moved⟩ := step.synchronized
    refine List.forall_mem_cons.mpr ⟨⟨first, last⟩, ?_⟩
    cases ts with
    | nil => simp
    | cons u ts =>
      obtain ⟨here, later⟩ := List.forall_mem_cons.mp going
      have together := moved (kind_of_not_separator here)
      intro v member
      have := ih later v member
      omega

/-- Without line feeds in strings a step takes one as its last character or takes none. -/
theorem Step.line_cases {taken : List Char} (step : Step s t after) (none : quotedFeeds [t] = 0)
    (cut : s.rest = taken ++ after.rest) :
    (t.kind = .lineBreak ∧ after.column = 0 ∧ ∃ escapes, taken = escapes ++ ['\n'] ∧
      '\n' ∉ escapes) ∨
    (t.kind ≠ .lineBreak ∧ after.column = s.column + taken.length ∧ '\n' ∉ taken) := by
  obtain ⟨first, left, offset, feeds, _⟩ := step.taken
  obtain rfl : first = taken := List.append_cancel_right (left.symm.trans cut)
  by_cases feed : t.kind = .lineBreak
  · obtain ⟨escapes, all, same⟩ := step.of_lineBreak feed
    obtain rfl : first = escapes ++ ['\n'] := by
      rw [left, List.append_cons] at same
      exact List.append_cancel_right same
    have start : after.column = 0 := by
      cases step with
      | trailing => contradiction
      | lexeme => exact if_pos feed
    exact Or.inl ⟨feed, start, escapes, rfl, fun member => absurd (all _ member) (by decide)⟩
  · have together := step.synchronized.2.2 feed
    rw [none, breaks_cons, if_neg feed] at feeds
    exact Or.inr ⟨feed, by omega, List.count_eq_zero.mp feeds⟩

theorem quotedFeeds_cons_eq_zero (none : quotedFeeds (t :: ts) = 0) :
    quotedFeeds [t] = 0 ∧ quotedFeeds ts = 0 := by
  rw [quotedFeeds_cons] at none ⊢
  exact Nat.add_eq_zero_iff.mp none

/-- Without line feeds in strings the scanner counts columns from the last line feed. -/
theorem Reads.column_eq {taken : List Char} (read : Reads s ts after) (none : quotedFeeds ts = 0)
    (cut : s.rest = taken ++ after.rest) (start : s.column = Text.column before) :
    after.column = Text.column (before ++ taken) := by
  induction read generalizing taken before with
  | done =>
    obtain rfl : taken = [] := by simpa using cut
    rw [List.append_nil, start]
  | @step s t middle ts after step read ih =>
    obtain ⟨first, later, rfl, left, rest⟩ := step.cut read cut
    obtain ⟨here, below⟩ := quotedFeeds_cons_eq_zero none
    rw [← List.append_assoc]
    refine ih below rest ?_
    rcases step.line_cases here left with ⟨_, zero, escapes, rfl, _⟩ | ⟨_, moved, feedless⟩
    · rw [zero, ← List.append_assoc, Text.column_lineFeed]
    · rw [moved, start, Text.column_append feedless]

/-- A reading that goes on to its last token takes no line feed before its last character. -/
theorem Reads.feedless {taken : List Char} (read : Reads s ts after) (none : quotedFeeds ts = 0)
    (going : ∀ t ∈ ts.dropLast, t.isSeparator = false) (cut : s.rest = taken ++ after.rest) :
    '\n' ∉ taken.dropLast := by
  induction read generalizing taken with
  | done =>
    obtain rfl : taken = [] := by simpa using cut
    exact List.not_mem_nil
  | @step s t middle ts after step read ih =>
    obtain ⟨first, later, rfl, left, rest⟩ := step.cut read cut
    obtain ⟨here, below⟩ := quotedFeeds_cons_eq_zero none
    cases ts with
    | nil =>
      cases read
      obtain rfl : later = [] := by simpa using rest
      rw [List.append_nil]
      rcases step.line_cases here left with ⟨_, _, escapes, rfl, feedless⟩ | ⟨_, _, feedless⟩
      · rwa [List.dropLast_concat]
      · exact fun member => feedless (List.dropLast_subset _ member)
    | cons u ts =>
      obtain ⟨word, more⟩ := List.forall_mem_cons.mp going
      rcases step.line_cases here left with ⟨feed, _⟩ | ⟨_, _, feedless⟩
      · exact absurd feed (kind_of_not_separator word)
      · have last := ih below more rest
        rw [List.dropLast_append]
        split
        · exact fun member => feedless (List.dropLast_subset _ member)
        · simp [feedless, last]

theorem Step.escapesQuoted (step : Step s t after) (all : EscapesQuoted s.rest) :
    EscapesQuoted after.rest := by
  obtain ⟨taken, left, _, _, closed⟩ := step.taken
  rw [left] at all
  exact all.rest closed

theorem Reads.escapesQuoted (read : Reads s ts after) (all : EscapesQuoted s.rest) :
    EscapesQuoted after.rest := by
  induction read with
  | done => exact all
  | step step _ ih => exact ih (step.escapesQuoted all)

/-- A statement that is read without gaps spans the characters that are read. -/
theorem Reads.statement {s : Statement} (read : Reads start s.tokens after) (some : s.tokens ≠ [])
    (escapes : EscapesQuoted start.rest)
    (going : ∀ t ∈ s.tokens.dropLast, t.isSeparator = false) :
    ∃ taken, start.rest = taken ++ after.rest ∧ 0 < taken.length ∧
      Tiled start.offset taken s.tokens ∧
      s.place.first = start.offset ∧ s.place.last + 1 = start.offset + taken.length ∧
      s.columns.first = start.column ∧ s.columns.last + 1 = start.column + taken.length := by
  obtain ⟨taken, cut, tiled⟩ := read.tiled
  have nonempty : taken ≠ [] := by
    rintro rfl
    exact some tiled.eq_nil
  rw [cut] at escapes
  obtain ⟨first, _⟩ := tiled.abutting escapes.of_append_left
  obtain ⟨last, ends, stop⟩ := tiled.ends nonempty
  obtain ⟨head, rest, same⟩ := List.exists_cons_of_ne_nil some
  have starts : s.tokens.head? = head := by rw [same]; rfl
  have left := read.synchronized going head (List.mem_of_mem_head? starts)
  have right := read.synchronized going last (List.mem_of_mem_getLast? ends)
  have here := first head starts
  refine ⟨taken, cut, List.length_pos_iff.mpr nonempty, tiled, ?_⟩
  rw [s.place_eq, s.columns_eq, starts, ends]
  simp only [Option.map_some, Option.getD_some]
  omega

/-- Where a statement stands in its text, in all three ways of counting. -/
structure Located (cs : List Char) (s : Statement) : Prop where
  forward : s.place.first ≤ s.place.last
  within : s.place.last < cs.length
  width : s.columns.last + s.place.first = s.columns.first + s.place.last
  tokens : ∀ t ∈ s.tokens, s.place.first ≤ t.place.first ∧ t.place.last ≤ s.place.last
  position : ∀ k, s.place.first + k ≤ s.place.last →
    Text.position cs (s.place.first + k) = (s.line, s.columns.first + k)

/-- With escapes quoted and no line feed in a string, every statement stands where an
editor shows it. -/
theorem located_statement (escapes : EscapesQuoted text.toList)
    (strings : ∀ t ∈ tokens text, t.kind = .string → '\n' ∉ t.text.toList)
    (member : s ∈ statements text) : Located text.toList s := by
  obtain ⟨mark, ended⟩ := (statements_ended text).2 s member
  obtain ⟨above, below, cut⟩ := List.append_of_mem member
  have all := tokens_cut cut
  have none : ∀ {ts}, ts ⊆ tokens text → quotedFeeds ts = 0 := fun part =>
    quotedFeeds_eq_zero_iff.mpr fun t inside => strings t (part inside)
  obtain ⟨_, _, read⟩ := reads_tokens (Scanner.start text)
  rw [← tokens, all] at read
  obtain ⟨start, upper, rest⟩ := read.split
  obtain ⟨after, own, _⟩ := rest.split
  -- What is read above the statement gives its offset, its line and its first column.
  obtain ⟨before, top, offset, feeds⟩ := upper.taken
  have noneAbove : quotedFeeds (above.flatMap Statement.tokens) = 0 := none (by rw [all]; simp)
  have column : start.column = Text.column ([] ++ before) := upper.column_eq noneAbove top rfl
  rw [noneAbove, Nat.add_zero, ← statements_line_below cut] at feeds
  -- What is read as the statement gives its extent.
  have noneHere : quotedFeeds s.tokens = 0 := none (by rw [all]; simp)
  obtain ⟨taken, here, positive, tiled, first, last, left, right⟩ := own.statement
    (statements_tokens_ne_nil s member) (upper.escapesQuoted escapes) ended.dropLast
  have feedless := own.feedless noneHere ended.dropLast here
  have whole : text.toList = before ++ (taken ++ after.rest) := by rw [← here]; exact top
  have offset : start.offset = before.length := by rw [offset]; exact Nat.zero_add _
  rw [List.nil_append] at column
  refine ⟨by omega, ?_, by omega, fun t inside => ?_, fun k bound => ?_⟩
  · rw [whole]
    simp only [List.length_append]
    omega
  · have := tiled.inside t inside
    omega
  · have short : k ≤ taken.length - 1 := by omega
    have passed : '\n' ∉ taken.take k := by
      intro inside
      rw [List.dropLast_eq_take] at feedless
      exact feedless (List.take_subset_take_left _ short inside)
    have length : (taken.take k).length = k := by
      rw [List.length_take]
      omega
    have place := Text.position_append passed before (taken.drop k ++ after.rest)
    rw [← List.append_assoc (taken.take k), List.take_append_drop, length, ← whole] at place
    rw [first, offset, place, feeds, left, column]

/-- With escapes quoted every character belongs to a token of some statement. -/
theorem token_covering (escapes : EscapesQuoted text.toList) (within : index < text.length) :
    ∃ s ∈ statements text, ∃ t ∈ s.tokens, t.place.first ≤ index ∧ index ≤ t.place.last := by
  have covered : ∃ t ∈ tokens text, t.place.first ≤ index ∧ index ≤ t.place.last := by
    by_contra missed
    rw [← String.length_toList] at within
    obtain ⟨found, outside⟩ := (tiled_tokens text).dropped within fun t member before => by
      apply Nat.lt_of_not_le
      intro after
      exact missed ⟨t, member, by omega, by omega⟩
    rw [escapes index within found] at outside
    contradiction
  obtain ⟨t, member, span⟩ := covered
  rw [← tokens_statements] at member
  obtain ⟨s, inside, part⟩ := List.mem_flatMap.mp member
  exact ⟨s, inside, t, part, span⟩

end KeyScript.Script
