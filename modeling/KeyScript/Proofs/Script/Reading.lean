import KeyScript.Script.Token

/-! Reading judgments. A scanner step is described by the lexeme it takes off the
text together with the characters that really follow, so no composition of steps
can cut a word or a string in two. Everything known about the tokens of a text is
derived from these judgments by induction on a reading. -/
namespace KeyScript.Script

/-- A run of backslashes, possibly empty. -/
def Escapes (cs : List Char) : Prop := ∀ c ∈ cs, isEscape c = true

theorem Escapes.nil : Escapes [] := fun _ member => absurd member List.not_mem_nil

/-- `Lexeme kind chars tail`: in front of `tail` the characters `chars` are one lexeme. -/
inductive Lexeme : TokenKind → List Char → List Char → Prop where
  | lineBreak : Lexeme .lineBreak ['\n'] tail
  | blank : Text.isBlank c = true → c ≠ '\n' → Lexeme .blank [c] tail
  | terminator : Lexeme .terminator [';'] tail
  | closed : '"' ∉ body → Lexeme .string ('"' :: (body ++ ['"'])) tail
  | unclosed : '"' ∉ body → Lexeme .string ('"' :: body) []
  | word : word ≠ [] → (∀ c ∈ word, endsWord c = false) →
      (∀ c ∈ tail.head?, endsWord c = true) → Lexeme (wordKind word) word tail

theorem wordKind_cases (word : List Char) :
    wordKind word = .keyword ∨ wordKind word = .identifier := by
  simp only [wordKind]
  split
  · exact Or.inl rfl
  · exact Or.inr rfl

theorem quotedTail_closed (unquoted : '"' ∉ body) :
    quotedTail (body ++ '"' :: tail) = body ++ ['"'] := by
  induction body with
  | nil => rfl
  | cons c body ih =>
    simp only [List.mem_cons, not_or] at unquoted
    have different : (c == '"') = false := by simpa using Ne.symm unquoted.1
    simp only [List.cons_append, quotedTail, different, ih unquoted.2, Bool.false_eq_true, if_false]

theorem quotedTail_unclosed (unquoted : '"' ∉ body) : quotedTail body = body := by
  induction body with
  | nil => rfl
  | cons c body ih =>
    simp only [List.mem_cons, not_or] at unquoted
    have different : (c == '"') = false := by simpa using Ne.symm unquoted.1
    simp only [quotedTail, different, ih unquoted.2, Bool.false_eq_true, if_false]

theorem endsWord_false {c : Char} (inside : endsWord c = false) :
    Text.isBlank c = false ∧ c ≠ ';' ∧ c ≠ '"' ∧ isEscape c = false := by
  simpa [endsWord, and_assoc] using inside

theorem endsWord_lineFeed : endsWord '\n' = true := by decide

/-- A blank character is none of the other signs of the language. -/
theorem isBlank_signs {c : Char} (blank : Text.isBlank c = true) :
    c ≠ ';' ∧ c ≠ '"' ∧ isEscape c = false := by
  refine ⟨?_, ?_, ?_⟩
  · rintro rfl; exact absurd blank (by decide)
  · rintro rfl; exact absurd blank (by decide)
  · by_cases sign : c = '\\'
    · subst sign; exact absurd blank (by decide)
    · simpa [isEscape] using sign

/-- The scanner's choice at a character that is no escape is a lexeme of the grammar. -/
theorem lexeme_sound (c : Char) (cs : List Char) (plain : isEscape c = false) :
    ∃ tail, c :: cs = (lexeme c cs).2 ++ tail ∧ Lexeme (lexeme c cs).1 (lexeme c cs).2 tail := by
  simp only [lexeme]
  split
  · rename_i feed
    obtain rfl := eq_of_beq feed
    exact ⟨cs, rfl, .lineBreak⟩
  · rename_i feed
    split
    · rename_i blank
      exact ⟨cs, rfl, .blank blank (by simpa using feed)⟩
    · rename_i solid
      split
      · rename_i ends
        obtain rfl := eq_of_beq ends
        exact ⟨cs, rfl, .terminator⟩
      · rename_i going
        split
        · rename_i quote
          obtain rfl := eq_of_beq quote
          by_cases closes : '"' ∈ cs
          · obtain ⟨body, tail, rfl, unquoted⟩ := List.eq_append_cons_of_mem closes
            refine ⟨tail, by simp [quotedTail_closed unquoted], ?_⟩
            simpa only [quotedTail_closed unquoted] using Lexeme.closed unquoted
          · refine ⟨[], by simp [quotedTail_unclosed closes], ?_⟩
            simpa only [quotedTail_unclosed closes] using Lexeme.unclosed closes
        · rename_i bare
          refine ⟨cs.dropWhile (!endsWord ·), by simp, .word (by simp) ?_ ?_⟩
          · intro d member
            rcases List.mem_cons.mp member with rfl | member
            · simp_all [endsWord]
            · have passed := List.all_eq_true.mp List.all_takeWhile d member
              simpa using passed
          · intro d first
            have stops := List.head?_dropWhile_not (!endsWord ·) cs
            simp only [Option.mem_def] at first
            simpa [first] using stops

/-- Every lexeme of the grammar is the scanner's choice at its first character. -/
theorem Lexeme.complete (read : Lexeme kind chars tail) :
    ∃ c cs, chars ++ tail = c :: cs ∧ isEscape c = false ∧ lexeme c cs = (kind, chars) := by
  cases read with
  | lineBreak => exact ⟨'\n', tail, rfl, by decide, rfl⟩
  | @blank c _ blank feed =>
    refine ⟨c, tail, rfl, (isBlank_signs blank).2.2, ?_⟩
    simp [lexeme, blank, feed]
  | terminator => exact ⟨';', tail, rfl, by decide, rfl⟩
  | @closed body _ unquoted =>
    refine ⟨'"', body ++ '"' :: tail, by simp, by decide, ?_⟩
    have solid : Text.isBlank '"' = false := by decide
    simp [lexeme, solid, quotedTail_closed unquoted]
  | @unclosed body unquoted =>
    refine ⟨'"', body, by simp, by decide, ?_⟩
    have solid : Text.isBlank '"' = false := by decide
    simp [lexeme, solid, quotedTail_unclosed unquoted]
  | word nonempty inside ends =>
    cases chars with
    | nil => exact absurd rfl nonempty
    | cons c word =>
      obtain ⟨solid, going, bare, plain⟩ := endsWord_false (inside c (by simp))
      have feed : c ≠ '\n' := by rintro rfl; exact absurd solid (by decide)
      refine ⟨c, word ++ tail, rfl, plain, ?_⟩
      have taken : (word ++ tail).takeWhile (!endsWord ·) = word := by
        rw [List.takeWhile_append_of_pos (fun d member => by simp [inside d (by simp [member])])]
        cases tail with
        | nil => simp
        | cons d tail => simp [ends d rfl]
      simp [lexeme, solid, going, bare, feed, taken]

theorem Lexeme.ne_nil (read : Lexeme kind chars tail) : chars ≠ [] := by
  cases read <;> simp_all

/-- The token that `chars` make at a place of the text and a column of the line. -/
def tokenAt (offset column : Nat) (kind : TokenKind) (chars : List Char) : Token :=
  (⟨offset, column, []⟩ : Scanner).token kind chars

@[simp] theorem tokenAt_kind : (tokenAt offset column kind chars).kind = kind := rfl

@[simp] theorem tokenAt_text : (tokenAt offset column kind chars).text.toList = chars := by
  simp [tokenAt, Scanner.token]

/-- The column after `count` characters from `column`; a line break starts a line. -/
def columnAfter (kind : TokenKind) (column count : Nat) : Nat :=
  if kind = .lineBreak then 0 else column + count

/-- One step of the scanner. Escapes in front of a lexeme are dropped; a run of
them that reaches the end of the text is a token. -/
inductive Step : Scanner → Token → Scanner → Prop where
  | trailing : escapes ≠ [] → Escapes escapes →
      Step ⟨offset, column, escapes⟩ (tokenAt offset column .unknown escapes)
        ⟨offset + escapes.length, column + escapes.length, []⟩
  | lexeme : Escapes escapes → Lexeme kind chars tail →
      Step ⟨offset, column, escapes ++ (chars ++ tail)⟩
        (tokenAt (offset + escapes.length) (column + escapes.length) kind chars)
        ⟨offset + escapes.length + chars.length,
          columnAfter kind (column + escapes.length) chars.length, tail⟩

theorem Step.of_lexeme (read : Lexeme kind chars tail) :
    Step ⟨offset, column, chars ++ tail⟩ (tokenAt offset column kind chars)
      ⟨offset + chars.length, columnAfter kind column chars.length, tail⟩ :=
  .lexeme .nil read

theorem escapes_or_lexeme (cs : List Char) : Escapes cs ∨
    ∃ escapes c tail, cs = escapes ++ c :: tail ∧ Escapes escapes ∧ isEscape c = false := by
  induction cs with
  | nil => exact Or.inl .nil
  | cons c cs ih =>
    by_cases plain : isEscape c = false
    · exact Or.inr ⟨[], c, cs, rfl, .nil, plain⟩
    · have escape : isEscape c = true := by simpa using plain
      rcases ih with all | ⟨escapes, d, tail, rfl, all, plain⟩
      · exact Or.inl (List.forall_mem_cons.mpr ⟨escape, all⟩)
      · exact Or.inr ⟨c :: escapes, d, tail, rfl, List.forall_mem_cons.mpr ⟨escape, all⟩, plain⟩

theorem takeWhile_escapes (all : Escapes escapes) (stop : ∀ c ∈ tail.head?, isEscape c = false) :
    (escapes ++ tail).takeWhile isEscape = escapes := by
  rw [List.takeWhile_append_of_pos all]
  cases tail with
  | nil => simp
  | cons c tail => simp [stop c rfl]

namespace Scanner

theorem next?_of_step (step : Step s t after) : s.next? = some (t, after) := by
  cases step with
  | @trailing escapes offset column nonempty all =>
    have run : (escapes ++ []).takeWhile isEscape = escapes := takeWhile_escapes all (by simp)
    rw [List.append_nil] at run
    simp [next?, advance, run, nonempty, tokenAt, token]
  | @lexeme escapes kind chars tail offset column all read =>
    obtain ⟨c, cs, same, plain, chosen⟩ := read.complete
    have run : (escapes ++ c :: cs).takeWhile isEscape = escapes :=
      takeWhile_escapes all (by simpa using plain)
    have rest : (c :: cs).drop chars.length = tail := by rw [← same]; simp
    rw [same]
    simp only [next?, advance, run, List.drop_left, chosen, rest, tokenAt, token, newLine,
      columnAfter]
    split <;> simp

theorem next?_eq_some_iff : s.next? = some (t, after) ↔ Step s t after := by
  refine ⟨fun next => ?_, next?_of_step⟩
  obtain ⟨offset, column, rest⟩ := s
  have unique : ∀ {u later}, Step ⟨offset, column, rest⟩ u later →
      Step ⟨offset, column, rest⟩ t after := by
    intro u later step
    have same := (next?_of_step step).symm.trans next
    simp only [Option.some.injEq, Prod.mk.injEq] at same
    rwa [same.1, same.2] at step
  rcases escapes_or_lexeme rest with all | ⟨escapes, c, tail, rfl, all, plain⟩
  · cases rest with
    | nil => simp [next?, advance] at next
    | cons c cs => exact unique (.trailing (by simp) all)
  · obtain ⟨tail, same, read⟩ := lexeme_sound c tail plain
    rw [same] at unique ⊢
    exact unique (.lexeme all read)

theorem next?_eq_none_iff {s : Scanner} : s.next? = none ↔ s.rest = [] := by
  refine ⟨fun ended => ?_, fun empty => by simp [next?, advance, empty]⟩
  obtain ⟨offset, column, rest⟩ := s
  rcases escapes_or_lexeme rest with all | ⟨escapes, c, tail, rfl, all, plain⟩
  · cases rest with
    | nil => rfl
    | cons c cs =>
      have step : Step ⟨offset, column, c :: cs⟩ _ _ := .trailing (by simp) all
      have next := next?_of_step step
      rw [ended] at next
      contradiction
  · obtain ⟨tail, same, read⟩ := lexeme_sound c tail plain
    rw [same] at ended
    have step : Step ⟨offset, column, _⟩ _ _ := .lexeme all read
    have next := next?_of_step step
    rw [ended] at next
    contradiction

end Scanner

/-- `Reads s ts after`: the scanner reads the tokens `ts` from `s` and is then in `after`. -/
inductive Reads : Scanner → List Token → Scanner → Prop where
  | done : Reads s [] s
  | step : Step s t middle → Reads middle ts after → Reads s (t :: ts) after

theorem Reads.append (first : Reads s ts middle) (last : Reads middle us after) :
    Reads s (ts ++ us) after := by
  induction first with
  | done => exact last
  | step taken _ ih => exact .step taken (ih last)

theorem Reads.split (read : Reads s (ts ++ us) after) :
    ∃ middle, Reads s ts middle ∧ Reads middle us after := by
  induction ts generalizing s with
  | nil => exact ⟨s, .done, read⟩
  | cons t ts ih =>
    cases read with
    | step taken rest =>
      obtain ⟨middle, first, last⟩ := ih rest
      exact ⟨middle, .step taken first, last⟩

theorem Reads.eq_nil_of_end (read : Reads s ts after) (ended : s.rest = []) : ts = [] := by
  cases read with
  | done => rfl
  | step step _ =>
    have next := Scanner.next?_of_step step
    rw [Scanner.next?_eq_none_iff.mpr ended] at next
    contradiction

theorem Step.tokens (step : Step s t after) : s.tokens = t :: after.tokens := by
  have next := Scanner.next?_eq_some_iff.mpr step
  rw [Scanner.tokens]
  split
  · rename_i ended
    rw [ended] at next
    contradiction
  · rename_i u later taken
    rw [taken] at next
    simp only [Option.some.injEq, Prod.mk.injEq] at next
    rw [next.1, next.2]

theorem Reads.tokens (read : Reads s ts after) : s.tokens = ts ++ after.tokens := by
  induction read with
  | done => rfl
  | step taken _ ih => rw [taken.tokens, ih, List.cons_append]

theorem tokens_end (offset column : Nat) : (⟨offset, column, []⟩ : Scanner).tokens = [] := by
  rw [Scanner.tokens]
  split
  · rfl
  · rename_i taken
    rw [Scanner.next?_eq_none_iff.mpr rfl] at taken
    contradiction

/-- The tokens of a scanner are read by it, up to the end of the text. -/
theorem reads_tokens (s : Scanner) : ∃ offset column, Reads s s.tokens ⟨offset, column, []⟩ := by
  induction s using Scanner.tokens.induct with
  | case1 s ended =>
    obtain ⟨offset, column, rest⟩ := s
    obtain rfl : rest = [] := Scanner.next?_eq_none_iff.mp ended
    rw [tokens_end]
    exact ⟨offset, column, .done⟩
  | case2 s t after taken ih =>
    have step := Scanner.next?_eq_some_iff.mp taken
    obtain ⟨offset, column, read⟩ := ih
    rw [step.tokens]
    exact ⟨offset, column, .step step read⟩

end KeyScript.Script
