import Mathlib.Algebra.GroupWithZero.Nat
import KeyScript.Proofs.Script.Reading

/-! Where a text can be cut. Outside quotes a reading stops in front of any
character that ends a word, whatever follows it; so a text whose quotes are closed
and that ends with a line feed is read the same in front of every other text. -/
namespace KeyScript.Script

/-- A character after `cs` stands inside quotes: a quote opens a string or closes one. -/
def quoted (cs : List Char) : Bool := cs.count '"' % 2 == 1

theorem quoted_append (left right : List Char) :
    quoted (left ++ right) = (quoted left ^^ quoted right) := by
  simp only [quoted, List.count_append]
  rcases Nat.mod_two_eq_zero_or_one (left.count '"') with l | l <;>
    rcases Nat.mod_two_eq_zero_or_one (right.count '"') with r | r <;>
    simp [Nat.add_mod, l, r]

theorem quoted_of_not_mem (unquoted : '"' ∉ cs) : quoted cs = false := by
  simp [quoted, List.count_eq_zero.mpr unquoted]

theorem quoted_escapes (all : Escapes cs) : quoted cs = false := by
  apply quoted_of_not_mem
  intro member
  exact absurd (all _ member) (by decide)

theorem quoted_open (unquoted : '"' ∉ body) : quoted ('"' :: body) = true := by
  simp [quoted, List.count_eq_zero.mpr unquoted]

/-- Line breaks among the tokens. -/
def breaks (ts : List Token) : Nat := ts.countP (·.kind == .lineBreak)

/-- Line feeds inside the strings among the tokens. -/
def quotedFeeds (ts : List Token) : Nat :=
  (ts.map fun t => if t.kind = .string then t.text.toList.count '\n' else 0).sum

@[simp] theorem breaks_nil : breaks [] = 0 := rfl

@[simp] theorem quotedFeeds_nil : quotedFeeds [] = 0 := rfl

theorem breaks_cons (t : Token) (ts : List Token) :
    breaks (t :: ts) = (if t.kind = .lineBreak then 1 else 0) + breaks ts := by
  by_cases feed : t.kind = .lineBreak
  · simp [breaks, feed, Nat.add_comm]
  · simp [breaks, feed]

theorem breaks_append (ts us : List Token) : breaks (ts ++ us) = breaks ts + breaks us :=
  List.countP_append

theorem quotedFeeds_cons (t : Token) (ts : List Token) : quotedFeeds (t :: ts) =
    (if t.kind = .string then t.text.toList.count '\n' else 0) + quotedFeeds ts := by
  simp [quotedFeeds]

theorem quotedFeeds_eq_zero_iff {ts : List Token} :
    quotedFeeds ts = 0 ↔ ∀ t ∈ ts, t.kind = .string → '\n' ∉ t.text.toList := by
  induction ts with
  | nil => simp [quotedFeeds]
  | cons t ts ih =>
    rw [quotedFeeds_cons, Nat.add_eq_zero_iff, ih, List.forall_mem_cons]
    apply and_congr_left'
    by_cases string : t.kind = .string
    · simp [string, List.count_eq_zero]
    · simp [string]

theorem Lexeme.feeds (read : Lexeme kind chars tail) : chars.count '\n' =
    (if kind = .lineBreak then 1 else 0) + (if kind = .string then chars.count '\n' else 0) := by
  cases read with
  | lineBreak => simp
  | blank _ feed => simp [feed]
  | terminator => simp
  | closed => simp
  | unclosed => simp
  | word _ inside _ =>
    have none : chars.count '\n' = 0 := by
      apply List.count_eq_zero.mpr
      intro member
      exact absurd (inside _ member) (by decide)
    rcases wordKind_cases chars with kind | kind <;> simp [kind, none]

/-- Only a string that runs to the end of the text leaves its quote open. -/
theorem Lexeme.balanced (read : Lexeme kind chars tail) (more : tail ≠ []) :
    quoted chars = false := by
  cases read with
  | lineBreak | terminator => decide
  | blank blank _ => exact quoted_of_not_mem (by simpa using (isBlank_signs blank).2.1.symm)
  | closed unquoted =>
    rw [← List.cons_append, quoted_append, quoted_open unquoted]
    decide
  | unclosed => exact absurd rfl more
  | word _ inside _ =>
    apply quoted_of_not_mem
    intro member
    exact absurd rfl (endsWord_false (inside _ member)).2.2.1

/-- What a step takes off the text. -/
theorem Step.taken (step : Step s t after) : ∃ taken, s.rest = taken ++ after.rest ∧
    after.offset = s.offset + taken.length ∧
    taken.count '\n' = breaks [t] + quotedFeeds [t] ∧
    (after.rest ≠ [] → quoted taken = false) := by
  have noFeed : ∀ {escapes : List Char}, Escapes escapes → escapes.count '\n' = 0 := by
    intro escapes all
    apply List.count_eq_zero.mpr
    intro member
    exact absurd (all _ member) (by decide)
  cases step with
  | @trailing escapes offset column _ all =>
    refine ⟨escapes, by simp, rfl, ?_, fun more => absurd rfl more⟩
    rw [noFeed all]
    rfl
  | @lexeme escapes kind chars tail offset column all read =>
    refine ⟨escapes ++ chars, by simp, by simp [Nat.add_assoc], ?_, fun more => ?_⟩
    · rw [List.count_append, noFeed all, read.feeds, breaks_cons, quotedFeeds_cons, tokenAt_text,
        Nat.zero_add]
      rfl
    · rw [quoted_append, quoted_escapes all, read.balanced more]
      rfl

/-- A reading takes a prefix of the text. Each line feed of that prefix is a line
break or stands in a string. -/
theorem Reads.taken (read : Reads s ts after) : ∃ taken, s.rest = taken ++ after.rest ∧
    after.offset = s.offset + taken.length ∧ taken.count '\n' = breaks ts + quotedFeeds ts := by
  induction read with
  | done => exact ⟨[], rfl, rfl, rfl⟩
  | @step s t middle ts after step _ ih =>
    obtain ⟨first, start, offset, feeds, _⟩ := step.taken
    obtain ⟨later, rest, offset', feeds'⟩ := ih
    refine ⟨first ++ later, by rw [start, rest, List.append_assoc], ?_, ?_⟩
    · rw [offset', offset, List.length_append, Nat.add_assoc]
    · rw [List.count_append, feeds, feeds', breaks_cons t ts, breaks_cons t [], quotedFeeds_cons t ts,
        quotedFeeds_cons t []]
      simp only [breaks_nil, quotedFeeds_nil]
      omega

/-- What a reading takes is what its first step takes and what the others take. -/
theorem Step.cut {taken : List Char} (step : Step s t middle) (read : Reads middle ts after)
    (whole : s.rest = taken ++ after.rest) : ∃ first later, taken = first ++ later ∧
      s.rest = first ++ middle.rest ∧ middle.rest = later ++ after.rest := by
  obtain ⟨first, left, _⟩ := step.taken
  obtain ⟨later, rest, _⟩ := read.taken
  refine ⟨first, later, ?_, left, rest⟩
  rw [left, rest, ← List.append_assoc] at whole
  exact (List.append_cancel_right whole).symm

/-- What is left at the end of a text while more may follow: escapes to be
dropped, and after them a string that is still open, if there is one. -/
def Unfinished (left : List Char) : Prop :=
  Escapes left ∨ ∃ escapes body, Escapes escapes ∧ '"' ∉ body ∧ left = escapes ++ '"' :: body

/-- A lexeme stays one in front of more text that ends a word, unless it is an open string. -/
theorem Lexeme.extend (read : Lexeme kind chars tail) :
    (tail = [] ∧ ∃ body, '"' ∉ body ∧ chars = '"' :: body) ∨
    ∀ more : List Char, (∀ c ∈ more.head?, endsWord c = true) → Lexeme kind chars (tail ++ more) := by
  cases read with
  | lineBreak => exact Or.inr fun _ _ => .lineBreak
  | blank blank feed => exact Or.inr fun _ _ => .blank blank feed
  | terminator => exact Or.inr fun _ _ => .terminator
  | closed unquoted => exact Or.inr fun _ _ => .closed unquoted
  | unclosed unquoted => exact Or.inl ⟨rfl, _, unquoted, rfl⟩
  | word nonempty inside ends =>
    refine Or.inr fun more stop => .word nonempty inside ?_
    cases tail with
    | nil => simpa using stop
    | cons c tail => simpa using ends

/-- The part of a text that is read before any continuation which ends a word. -/
theorem reads_before (cs : List Char) (offset column : Nat) :
    ∃ ts taken left offset' column', cs = taken ++ left ∧ quoted taken = false ∧ Unfinished left ∧
      ∀ more : List Char, (∀ c ∈ more.head?, endsWord c = true) →
        Reads ⟨offset, column, cs ++ more⟩ ts ⟨offset', column', left ++ more⟩ := by
  -- Induction on the length: each lexeme but an open string is followed by a shorter text.
  induction length : cs.length using Nat.strongRecOn generalizing cs offset column with
  | ind n ih =>
    subst length
    rcases escapes_or_lexeme cs with all | ⟨escapes, c, tail, rfl, all, plain⟩
    · exact ⟨[], [], cs, offset, column, rfl, rfl, Or.inl all, fun more _ => .done⟩
    · obtain ⟨rest, same, read⟩ := lexeme_sound c tail plain
      generalize (lexeme c tail).1 = kind at read
      generalize (lexeme c tail).2 = chars at read same
      rw [same] at ih ⊢
      rcases read.extend with ⟨rfl, body, unquoted, rfl⟩ | longer
      · refine ⟨[], [], _, offset, column, rfl, rfl, Or.inr ?_, fun more _ => .done⟩
        exact ⟨escapes, body, all, unquoted, by simp⟩
      · have shorter : rest.length < (escapes ++ (chars ++ rest)).length := by
          have := List.length_pos_iff.mpr read.ne_nil
          simp only [List.length_append]
          omega
        obtain ⟨ts, taken, left, offset', column', rfl, outside, unfinished, reads⟩ :=
          ih _ shorter rest (offset + escapes.length + chars.length)
            (columnAfter kind (column + escapes.length) chars.length) rfl
        let t := tokenAt (offset + escapes.length) (column + escapes.length) kind chars
        refine ⟨t :: ts, escapes ++ (chars ++ taken), left, offset', column', by simp, ?_,
          unfinished, fun more stop => ?_⟩
        · -- In front of a line feed the lexeme is not at the end, so its quotes are closed.
          have balanced := (longer ['\n'] (by simp [endsWord_lineFeed])).balanced (by simp)
          rw [quoted_append, quoted_append, quoted_escapes all, balanced, outside]
          rfl
        · rw [List.append_assoc, List.append_assoc, List.append_assoc]
          rw [← List.append_assoc taken]
          exact .step (.lexeme all (longer more stop)) (reads more stop)

theorem quoted_unfinished (cut : Unfinished left) : Escapes left ∨
    quoted left = true ∧ ∃ escapes body, Escapes escapes ∧ '"' ∉ body ∧
      left = escapes ++ '"' :: body := by
  rcases cut with all | ⟨escapes, body, all, unquoted, rfl⟩
  · exact Or.inl all
  · refine Or.inr ⟨?_, escapes, body, all, unquoted, rfl⟩
    rw [quoted_append, quoted_escapes all, quoted_open unquoted]
    rfl

/-- A line whose quotes are closed is read up to its line feed, and the next line
starts at column zero. -/
theorem reads_line (outside : quoted cs = false) (offset column : Nat) :
    ∃ ts t, t.kind = .lineBreak ∧ ∀ more : List Char,
      Reads ⟨offset, column, cs ++ '\n' :: more⟩ (ts ++ [t]) ⟨offset + cs.length + 1, 0, more⟩ := by
  obtain ⟨ts, taken, left, offset', column', rfl, closed, unfinished, reads⟩ :=
    reads_before cs offset column
  rw [quoted_append, closed] at outside
  rcases quoted_unfinished unfinished with all | ⟨opened, _⟩
  · refine ⟨ts, tokenAt (offset' + left.length) (column' + left.length) .lineBreak ['\n'], rfl,
      fun more => (reads ('\n' :: more) (by simp [endsWord_lineFeed])).append ?_⟩
    obtain ⟨_, same, place, _⟩ := (reads [] (by simp)).taken
    have length := congrArg List.length same
    have sum : offset + (taken ++ left).length + 1 = offset' + left.length + 1 := by
      simp only [List.length_append, List.length_nil] at length place ⊢
      omega
    rw [sum]
    exact .step (.lexeme all .lineBreak) .done
  · rw [opened] at outside
    contradiction

theorem lineFeed_mem_quotedTail (unquoted : '"' ∉ body) :
    '\n' ∈ quotedTail (body ++ '\n' :: more) := by
  induction body with
  | nil => simp [quotedTail]
  | cons c body ih =>
    simp only [List.mem_cons, not_or] at unquoted
    have different : (c == '"') = false := by simpa using Ne.symm unquoted.1
    simp [quotedTail, different, ih unquoted.2]

/-- A line feed inside quotes is part of a string. -/
theorem string_of_quoted (inside : quoted cs = true) (offset column : Nat) (more : List Char) :
    ∃ t ∈ (⟨offset, column, cs ++ '\n' :: more⟩ : Scanner).tokens,
      t.kind = .string ∧ '\n' ∈ t.text.toList := by
  obtain ⟨ts, taken, left, offset', column', rfl, closed, unfinished, reads⟩ :=
    reads_before cs offset column
  rw [quoted_append, closed] at inside
  have read := reads ('\n' :: more) (by simp [endsWord_lineFeed])
  rcases quoted_unfinished unfinished with all | ⟨_, escapes, body, all, unquoted, rfl⟩
  · rw [quoted_escapes all] at inside
    contradiction
  · obtain ⟨tail, same, lexed⟩ := lexeme_sound '"' (body ++ '\n' :: more) (by decide)
    have step : Step ⟨offset', column', _⟩ _ _ := .lexeme all lexed
    rw [← same] at step
    rw [read.tokens, List.append_assoc, List.cons_append, step.tokens]
    refine ⟨_, List.mem_append_right _ List.mem_cons_self, ?_⟩
    have string : lexeme '"' (body ++ '\n' :: more) =
        (.string, '"' :: quotedTail (body ++ '\n' :: more)) := rfl
    rw [string, tokenAt_text]
    exact ⟨rfl, List.mem_cons_of_mem _ (lineFeed_mem_quotedTail unquoted)⟩

theorem Step.of_lineBreak (step : Step s t after) (feed : t.kind = .lineBreak) :
    ∃ escapes, Escapes escapes ∧ s.rest = escapes ++ '\n' :: after.rest := by
  cases step with
  | trailing => contradiction
  | @lexeme escapes kind chars tail offset column all read =>
    have same : kind = .lineBreak := feed
    cases read with
    | lineBreak => exact ⟨escapes, all, rfl⟩
    | word => rcases wordKind_cases chars with kind | kind <;> rw [kind] at same <;> contradiction
    | _ => contradiction

/-- A text that is read to its end with a line break as last token ends with a
line feed, and its quotes are closed there. -/
theorem Reads.ends_line (read : Reads s (ts ++ [t]) ⟨offset, column, []⟩)
    (feed : t.kind = .lineBreak) : ∃ cs, s.rest = cs ++ ['\n'] ∧ quoted cs = false := by
  induction ts generalizing s with
  | nil =>
    cases read with
    | step step read =>
      cases read
      obtain ⟨escapes, all, rest⟩ := step.of_lineBreak feed
      exact ⟨escapes, rest, quoted_escapes all⟩
  | cons u ts ih =>
    cases read with
    | step step read =>
      obtain ⟨cs, rest, closed⟩ := ih read
      obtain ⟨taken, start, _, _, balanced⟩ := step.taken
      refine ⟨taken ++ cs, by rw [start, rest, List.append_assoc], ?_⟩
      rw [quoted_append, balanced (by simp [rest]), closed]
      rfl

/-- The token when `n` characters are put in front of the text, as lines of their own. -/
def Token.moved (n : Nat) (t : Token) : Token :=
  { t with place := ⟨t.place.first + n, t.place.last + n⟩ }

theorem tokenAt_moved (n : Nat) :
    (tokenAt offset column kind chars).moved n = tokenAt (offset + n) column kind chars := by
  simp only [Token.moved, tokenAt, Scanner.token, Nat.add_right_comm _ n]

theorem Step.moved (n : Nat) (step : Step s t after) :
    Step { s with offset := s.offset + n } (t.moved n) { after with offset := after.offset + n } := by
  cases step with
  | @trailing escapes offset column nonempty all =>
    rw [tokenAt_moved, Nat.add_right_comm]
    exact .trailing nonempty all
  | @lexeme escapes kind chars tail offset column all read =>
    have place : offset + escapes.length + chars.length + n =
        offset + n + escapes.length + chars.length := by omega
    rw [tokenAt_moved, Nat.add_right_comm offset, place]
    exact .lexeme all read

theorem Reads.moved (n : Nat) (read : Reads s ts after) :
    Reads { s with offset := s.offset + n } (ts.map (Token.moved n))
      { after with offset := after.offset + n } := by
  induction read with
  | done => exact .done
  | step taken _ ih => exact .step (taken.moved n) ih

theorem tokens_moved (n : Nat) (s : Scanner) :
    ({ s with offset := s.offset + n } : Scanner).tokens = s.tokens.map (Token.moved n) := by
  obtain ⟨offset, column, read⟩ := reads_tokens s
  rw [(read.moved n).tokens, tokens_end, List.append_nil]

/-- The tokens of a list of characters, from the start of a text. -/
def scan (cs : List Char) : List Token := (⟨0, 0, cs⟩ : Scanner).tokens

theorem tokens_eq_scan (text : String) : tokens text = scan text.toList := rfl

theorem scan_line (outside : quoted cs = false) (more : List Char) : scan (cs ++ '\n' :: more) =
    scan (cs ++ ['\n']) ++ (scan more).map (Token.moved (cs.length + 1)) := by
  obtain ⟨ts, t, _, reads⟩ := reads_line outside 0 0
  have rest := tokens_moved (cs.length + 1) ⟨0, 0, more⟩
  simp only [Nat.zero_add] at rest reads
  simp only [scan, (reads more).tokens, (reads []).tokens, tokens_end, List.append_nil, rest]

theorem scan_ends_line_iff {cs : List Char} :
    (∃ t, (scan cs).getLast? = some t ∧ t.kind = .lineBreak) ↔
      ∃ line, cs = line ++ ['\n'] ∧ quoted line = false := by
  constructor
  · rintro ⟨t, last, feed⟩
    obtain ⟨offset, column, read⟩ := reads_tokens ⟨0, 0, cs⟩
    obtain ⟨ts, same⟩ := List.getLast?_eq_some_iff.mp last
    rw [← scan, same] at read
    exact read.ends_line feed
  · rintro ⟨line, rfl, outside⟩
    obtain ⟨ts, t, feed, reads⟩ := reads_line outside 0 0
    refine ⟨t, ?_, feed⟩
    rw [scan, (reads []).tokens, tokens_end]
    simp

theorem count_lineFeed (text : String) :
    text.toList.count '\n' = breaks (tokens text) + quotedFeeds (tokens text) := by
  obtain ⟨_, _, read⟩ := reads_tokens (Scanner.start text)
  obtain ⟨taken, same, _, feeds⟩ := read.taken
  rw [List.append_nil] at same
  rw [show text.toList = taken from same, feeds]
  rfl

theorem quoted_of_quotedFeeds (none : quotedFeeds (scan (cs ++ '\n' :: more)) = 0) :
    quoted cs = false := by
  cases inside : quoted cs with
  | false => rfl
  | true =>
    obtain ⟨t, member, string, feed⟩ := string_of_quoted inside 0 0 more
    exact absurd feed (quotedFeeds_eq_zero_iff.mp none t member string)

theorem quotedFeeds_line (outside : quoted cs = false) (more : List Char) :
    quotedFeeds (scan (cs ++ '\n' :: more)) =
      quotedFeeds (scan (cs ++ ['\n'])) + quotedFeeds (scan more) := by
  rw [scan_line outside, quotedFeeds, List.map_append, List.sum_append, List.map_map]
  rfl

end KeyScript.Script
