import KeyScript.Proofs.Script.Splitting

/-! Seams between two texts. No decision of the scanner in front of a separator looks
past it, so a text that ends with one is read the same whatever is written behind it.
The text behind is read as it is alone, from another offset, and up to the end of its
first line from another column. -/
namespace KeyScript.Script

theorem Lexeme.append (read : Lexeme kind chars tail) (some : tail ≠ []) (more : List Char) :
    Lexeme kind chars (tail ++ more) := by
  cases read with
  | lineBreak => exact .lineBreak
  | blank blank feed => exact .blank blank feed
  | terminator => exact .terminator
  | closed unquoted => exact .closed unquoted
  | unclosed => exact absurd rfl some
  | word nonempty inside ends =>
    refine .word nonempty inside ?_
    cases tail with
    | nil => exact absurd rfl some
    | cons c tail => exact ends

theorem Lexeme.of_separator (read : Lexeme kind chars tail)
    (separator : kind = .terminator ∨ kind = .lineBreak) (tail' : List Char) :
    Lexeme kind chars tail' := by
  cases read with
  | lineBreak => exact .lineBreak
  | terminator => exact .terminator
  | word => rcases wordKind_cases chars with word | word <;> simp [word] at separator
  | _ => simp at separator

/-- The scanner with more text behind what is left. -/
def Scanner.followed (s : Scanner) (more : List Char) : Scanner :=
  { s with rest := s.rest ++ more }

theorem Step.followed (step : Step s t after)
    (ends : after.rest ≠ [] ∨ t.isSeparator = true) (more : List Char) :
    Step (s.followed more) t (after.followed more) := by
  cases step with
  | trailing =>
    rcases ends with going | separator
    · exact absurd rfl going
    · contradiction
  | @lexeme escapes kind chars tail offset column all read =>
    have longer : Lexeme kind chars (tail ++ more) := by
      rcases ends with going | separator
      · exact read.append going more
      · apply read.of_separator
        simpa [Token.isSeparator] using separator
    simp only [Scanner.followed, List.append_assoc]
    exact .lexeme all longer

/-- A reading that stops in front of something, or behind a separator, is one in front
of any other text. -/
theorem Reads.followed (read : Reads s ts after)
    (ends : after.rest ≠ [] ∨ ∀ t ∈ ts.getLast?, t.isSeparator = true) (more : List Char) :
    Reads (s.followed more) ts (after.followed more) := by
  induction read with
  | done => exact .done
  | @step s t middle ts after step read ih =>
    cases ts with
    | nil =>
      cases read
      exact .step (step.followed (ends.imp_right fun last => last t rfl) more) .done
    | cons u ts =>
      -- Another token follows, so the first one is not at the end of the text.
      have going : middle.rest ≠ [] := by
        intro ended
        exact absurd (read.eq_nil_of_end ended) (List.cons_ne_nil u ts)
      rw [List.getLast?_cons_cons] at ends
      exact .step (step.followed (Or.inl going) more) (ih ends)

theorem Step.column_after (step : Step s t after) :
    after.column = if t.kind = .lineBreak then 0 else t.columns.last + 1 := by
  cases step with
  | trailing nonempty =>
    have positive := List.length_pos_iff.mpr nonempty
    rw [if_neg nofun]
    simp only [tokenAt, Scanner.token]
    omega
  | @lexeme escapes kind chars tail offset column _ read =>
    have positive := List.length_pos_iff.mpr read.ne_nil
    rw [tokenAt_kind, columnAfter]
    split
    · rfl
    · simp only [tokenAt, Scanner.token]
      omega

theorem Step.offset_after (step : Step s t after) : after.offset = t.place.last + 1 := by
  cases step with
  | trailing nonempty =>
    have positive := List.length_pos_iff.mpr nonempty
    simp only [tokenAt, Scanner.token]
    omega
  | lexeme _ read =>
    have positive := List.length_pos_iff.mpr read.ne_nil
    simp only [tokenAt, Scanner.token]
    omega

theorem Reads.column_after (read : Reads s ts after) (last : ts.getLast? = some t) :
    after.column = if t.kind = .lineBreak then 0 else t.columns.last + 1 := by
  induction read with
  | done => contradiction
  | @step s u middle ts after step read ih =>
    cases ts with
    | nil =>
      cases read
      obtain rfl := Option.some.inj last
      exact step.column_after
    | cons v ts =>
      rw [List.getLast?_cons_cons] at last
      exact ih last

/-- A text that is empty or ends with a separator is read up to its end in front of
every other text. -/
theorem reads_closed (ends : ∀ t ∈ (tokens a).getLast?, t.isSeparator = true)
    (more : List Char) :
    ∃ column, Reads ⟨0, 0, a.toList ++ more⟩ (tokens a) ⟨a.length, column, more⟩ := by
  obtain ⟨offset, column, read⟩ := reads_tokens (Scanner.start a)
  obtain ⟨taken, whole, place, _⟩ := read.taken
  have offset : offset = a.length := by
    rw [List.append_nil] at whole
    rw [← String.length_toList, show a.toList = taken from whole]
    simpa [Scanner.start] using place
  subst offset
  exact ⟨column, read.followed (Or.inr ends) more⟩

/-- The token when `n` characters stand in front of its text, `m` of them on its line. -/
def Token.shifted (n m : Nat) (t : Token) : Token :=
  { t with
    place := ⟨t.place.first + n, t.place.last + n⟩
    columns := ⟨t.columns.first + m, t.columns.last + m⟩ }

/-- The tokens up to the first line break, which is one of them. -/
def firstLine : List Token → List Token
  | [] => []
  | t :: ts => if t.kind = .lineBreak then [t] else t :: firstLine ts

/-- The tokens after the first line break. -/
def lowerLines : List Token → List Token
  | [] => []
  | t :: ts => if t.kind = .lineBreak then ts else lowerLines ts

/-- The tokens when `n` characters stand in front of their text, `m` of them on its
first line. -/
def shiftedLines (n m : Nat) (ts : List Token) : List Token :=
  (firstLine ts).map (Token.shifted n m) ++ (lowerLines ts).map (Token.shifted n 0)

theorem firstLine_append_lowerLines (ts : List Token) : firstLine ts ++ lowerLines ts = ts := by
  induction ts with
  | nil => rfl
  | cons t ts ih =>
    rw [firstLine, lowerLines]
    split
    · rfl
    · rw [List.cons_append, ih]

theorem shiftedLines_zero (n : Nat) (ts : List Token) :
    shiftedLines n 0 ts = ts.map (Token.shifted n 0) := by
  rw [shiftedLines, ← List.map_append, firstLine_append_lowerLines]

theorem tokenAt_shifted (n m : Nat) : (tokenAt offset column kind chars).shifted n m =
    tokenAt (offset + n) (column + m) kind chars := by
  simp only [Token.shifted, tokenAt, Scanner.token, Nat.add_right_comm _ n, Nat.add_right_comm _ m]

theorem Step.shifted (n m : Nat) (step : Step s t after) :
    Step ⟨s.offset + n, s.column + m, s.rest⟩ (t.shifted n m)
      ⟨after.offset + n, if t.kind = .lineBreak then 0 else after.column + m, after.rest⟩ := by
  cases step with
  | @trailing escapes offset column nonempty all =>
    have kind : (tokenAt offset column .unknown escapes).kind ≠ .lineBreak := nofun
    rw [tokenAt_shifted, if_neg kind, Nat.add_right_comm, Nat.add_right_comm column]
    exact .trailing nonempty all
  | @lexeme escapes kind chars tail offset column all read =>
    have place : offset + escapes.length + chars.length + n =
        offset + n + escapes.length + chars.length := by omega
    have below : (if kind = .lineBreak then 0
          else columnAfter kind (column + escapes.length) chars.length + m) =
        columnAfter kind (column + m + escapes.length) chars.length := by
      simp only [columnAfter]
      split
      · rfl
      · omega
    rw [tokenAt_shifted, Nat.add_right_comm offset, Nat.add_right_comm column, place]
    exact below ▸ Step.lexeme all read

theorem Reads.shifted (n m : Nat) (read : Reads s ts after) : ∃ column,
    Reads ⟨s.offset + n, s.column + m, s.rest⟩ (shiftedLines n m ts)
      ⟨after.offset + n, column, after.rest⟩ := by
  induction read with
  | done => exact ⟨_, .done⟩
  | @step s t middle ts after step read ih =>
    have first := step.shifted n m
    by_cases feed : t.kind = .lineBreak
    · -- Below the line break the columns are those of the text alone.
      have start : middle.column = 0 := by rw [step.column_after, if_pos feed]
      rw [if_pos feed, ← start] at first
      rw [shiftedLines, firstLine, lowerLines, if_pos feed, if_pos feed]
      exact ⟨_, .step first (read.moved n)⟩
    · obtain ⟨column, rest⟩ := ih
      rw [if_neg feed] at first
      rw [shiftedLines, firstLine, lowerLines, if_neg feed, if_neg feed]
      exact ⟨column, .step first rest⟩

theorem tokens_shifted (n m : Nat) (cs : List Char) :
    (⟨n, m, cs⟩ : Scanner).tokens = shiftedLines n m (scan cs) := by
  obtain ⟨offset, column, read⟩ := reads_tokens ⟨0, 0, cs⟩
  obtain ⟨column', moved⟩ := read.shifted n m
  simp only [Nat.zero_add] at moved
  rw [moved.tokens, tokens_end, List.append_nil, scan]

/-- Behind a text that ends with a separator another text has its own tokens. All their
offsets are counted from the start of the first text; the columns are their own behind a
line break, and behind a terminator they go on from its column up to the end of the
first line. -/
theorem tokens_append_separated (last : (tokens a).getLast? = some t) (b : String) :
    (t.kind = .lineBreak →
      tokens (a ++ b) = tokens a ++ (tokens b).map (Token.shifted a.length 0)) ∧
    (t.kind = .terminator →
      tokens (a ++ b) = tokens a ++
        ((firstLine (tokens b)).map (Token.shifted a.length (t.columns.last + 1)) ++
          (lowerLines (tokens b)).map (Token.shifted a.length 0))) := by
  have joined (separator : t.isSeparator = true) : tokens (a ++ b) = tokens a ++
      shiftedLines a.length (if t.kind = .lineBreak then 0 else t.columns.last + 1) (tokens b) := by
    obtain ⟨column, read⟩ := reads_closed (a := a) (by simpa [last] using separator) b.toList
    have start : column = _ := read.column_after last
    rw [tokens_eq_scan, String.toList_append, scan, read.tokens, tokens_shifted, start]
    rfl
  refine ⟨fun feed => ?_, fun ends => ?_⟩
  · rw [joined (by simp [Token.isSeparator, feed]), if_pos feed, shiftedLines_zero]
  · rw [joined (by simp [Token.isSeparator, ends]), if_neg (by simp [ends]), shiftedLines]

/-- A string with a line feed and a dropped backslash stand in front of the terminator. The
first line behind it begins at column five, the next one at column zero. -/
theorem tokens_append_terminated : (tokens "\"\n\"\\;").getLast? =
      some ⟨.terminator, ⟨4, 4⟩, ⟨4, 4⟩, ";"⟩ ∧
    tokens ("\"\n\"\\;" ++ " \n;") = tokens "\"\n\"\\;" ++
      [⟨.blank, ⟨5, 5⟩, ⟨5, 5⟩, " "⟩, ⟨.lineBreak, ⟨6, 6⟩, ⟨6, 6⟩, "\n"⟩,
        ⟨.terminator, ⟨7, 7⟩, ⟨0, 0⟩, ";"⟩] := by
  have last : (tokens "\"\n\"\\;").getLast? = some ⟨.terminator, ⟨4, 4⟩, ⟨4, 4⟩, ";"⟩ := by
    decide +kernel
  have alone : tokens " \n;" = [⟨.blank, ⟨0, 0⟩, ⟨0, 0⟩, " "⟩,
      ⟨.lineBreak, ⟨1, 1⟩, ⟨1, 1⟩, "\n"⟩, ⟨.terminator, ⟨2, 2⟩, ⟨0, 0⟩, ";"⟩] := by decide +kernel
  refine ⟨last, ((tokens_append_separated last " \n;").2 rfl).trans ?_⟩
  rw [alone]
  rfl

end KeyScript.Script
