import KeyScript.Proofs.Script.Coordinates
import KeyScript.Proofs.Script.Seams

/-! Progress and range of the scanner. The scan is written a second time with a head that
moves over the whole text one character at a time and breaks off where a place, an index, a
slice or a difference is out of range: a value means that no guard failed. The head gives
the scanner's answer at every place where a token may begin, so the scanner never needs a
guard. -/
namespace KeyScript.Script

/-- A difference that is not below zero. -/
def minus? (a b : Nat) : Option Nat := if b ≤ a then some (a - b) else none

/-- The characters from `first` up to `stop`, which both lie in the text. -/
def slice? (cs : List Char) (first stop : Nat) : Option (List Char) :=
  if first ≤ stop ∧ stop ≤ cs.length then some (cs.extract first stop) else none

/-- How many characters of a text and of its current line a scan has behind it. -/
structure Head where
  offset : Nat
  column : Nat

def Scanner.head (s : Scanner) : Head := ⟨s.offset, s.column⟩

namespace Head

/-- No line starts in front of the text, and the head is not behind its end. -/
def Within (cs : List Char) (h : Head) : Prop := h.column ≤ h.offset ∧ h.offset ≤ cs.length

instance (cs : List Char) (h : Head) : Decidable (h.Within cs) :=
  inferInstanceAs (Decidable (_ ∧ _))

def shift (h : Head) (count : Nat) : Head := ⟨h.offset + count, h.column + count⟩

@[simp] theorem shift_offset : (shift h count).offset = h.offset + count := rfl

@[simp] theorem shift_column : (shift h count).column = h.column + count := rfl

@[simp] theorem shift_zero : shift h 0 = h := rfl

theorem shift_shift : (shift h m).shift n = shift h (m + n) := by
  simp only [shift, Nat.add_assoc]

section Guarded

variable (cs : List Char)

/-- Every place that the head comes to is checked, also inside a token. -/
def put? (h : Head) : Option Head := if h.Within cs then some h else none

def advance? (h : Head) : Option Head :=
  if cs.length ≤ h.offset then some h else put? cs (h.shift 1)

/-- Takes characters as long as `p` holds of them. -/
def run? (p : Char → Bool) (h : Head) (chars : List Char) : Option (List Char × Head) :=
  if going : h.offset < cs.length then
    if p cs[h.offset] then
      if (h.shift 1).Within cs then (h.shift 1).run? p (chars ++ [cs[h.offset]]) else none
    else some (chars, h)
  else some (chars, h)
termination_by cs.length - h.offset
decreasing_by exact Nat.sub_lt_sub_left going (Nat.lt_succ_self _)

/-- The token from `first` to the character in front of the head. -/
def finish? (h first : Head) (kind : TokenKind) (chars : List Char) : Option Token := do
  let last ← minus? h.offset 1
  let width ← minus? last first.offset
  return {
    kind
    place := ⟨first.offset, last⟩
    columns := ⟨first.column, first.column + width⟩
    text := String.ofList chars }

/-- The token of the escapes from `first` to the end. -/
def trailing? (h first : Head) : Option Token := do
  let chars ← slice? cs first.offset h.offset
  let last ← minus? h.offset 1
  let lastColumn ← minus? h.column 1
  return {
    kind := .unknown
    place := ⟨first.offset, last⟩
    columns := ⟨first.column, lastColumn⟩
    text := String.ofList chars }

def single? (h : Head) (kind : TokenKind) : Option (Token × Head) := do
  let c ← cs[h.offset]?
  let after ← h.advance? cs
  return (← after.finish? h kind [c], after)

def string? (h : Head) : Option (Token × Head) := do
  let c ← cs[h.offset]?
  let (chars, after) ← (← h.advance? cs).run? cs (· != '"') [c]
  if cs.length ≤ after.offset then return (← after.finish? h .string chars, after)
  let c ← cs[after.offset]?
  let after ← after.advance? cs
  return (← after.finish? h .string (chars ++ [c]), after)

/-- The loop of a word alone could take nothing. -/
def word? (h : Head) : Option (Token × Head) := do
  let (chars, after) ← h.run? cs (!endsWord ·) []
  return (← after.finish? h (wordKind chars) chars, after)

/-- The token that begins under the head. -/
def lexeme? (h : Head) : Option (Token × Head) := do
  let c ← cs[h.offset]?
  if c == '\n' then
    let (t, after) ← h.single? cs .lineBreak
    return (t, ← put? cs { after with column := 0 })
  else if Text.isBlank c then h.single? cs .blank
  else if c == ';' then h.single? cs .terminator
  else if c == '"' then h.string? cs
  else h.word? cs

/-- The next token, unless nothing is left. -/
def next? (h : Head) : Option (Option (Token × Head)) := do
  let (_, first) ← h.run? cs isEscape []
  if cs.length ≤ first.offset then
    if first.offset = h.offset then return none
    return some (← first.trailing? cs h, first)
  return some (← first.lexeme? cs)

end Guarded

/-- The loop over all tokens: from `h` it comes to the end of the text after `ts`. -/
inductive Scans (cs : List Char) : Head → List Token → Prop where
  | ended : h.next? cs = some none → Scans cs h []
  | taken : h.next? cs = some (some (t, after)) → Scans cs after ts → Scans cs h (t :: ts)

/-- The head is in range, with `rest` in front of it. -/
structure Sees (cs : List Char) (h : Head) (rest : List Char) : Prop where
  within : h.Within cs
  ahead : cs.drop h.offset = rest

variable {cs rest : List Char} {h : Head}

namespace Sees

theorem length (sees : h.Sees cs rest) : cs.length = h.offset + rest.length := by
  have bound := sees.within.2
  rw [← sees.ahead, List.length_drop]
  omega

theorem shift {taken : List Char} (sees : h.Sees cs (taken ++ rest)) :
    (h.shift taken.length).Sees cs rest := by
  have length := sees.length
  rw [List.length_append] at length
  obtain ⟨⟨column, _⟩, same⟩ := sees
  refine ⟨⟨Nat.add_le_add_right column _, ?_⟩, ?_⟩
  · rw [shift_offset]
    omega
  · rw [shift_offset, ← List.drop_drop, same, List.drop_left]

theorem going (sees : h.Sees cs (c :: rest)) : ¬ cs.length ≤ h.offset := by
  have length := sees.length
  rw [List.length_cons] at length
  omega

theorem ended (sees : h.Sees cs []) : cs.length ≤ h.offset := Nat.le_of_eq sees.length

theorem current (sees : h.Sees cs (c :: rest)) : cs[h.offset]? = some c := by
  rw [← List.head?_drop, sees.ahead, List.head?_cons]

theorem under (sees : h.Sees cs (c :: rest)) (going : h.offset < cs.length) :
    cs[h.offset] = c := by
  have found := sees.current
  rw [List.getElem?_eq_getElem going] at found
  exact Option.some.inj found

theorem next (sees : h.Sees cs (c :: rest)) : (h.shift 1).Sees cs rest := by
  rw [← List.singleton_append] at sees
  exact sees.shift

theorem advance (sees : h.Sees cs (c :: rest)) : h.advance? cs = some (h.shift 1) := by
  rw [advance?, if_neg sees.going, put?, if_pos sees.next.within]

end Sees

theorem run_eq {p : Char → Bool} {taken : List Char} (sees : h.Sees cs (taken ++ rest))
    (holds : ∀ c ∈ taken, p c = true) (stops : ∀ c ∈ rest.head?, p c = false)
    (chars : List Char) :
    h.run? cs p chars = some (chars ++ taken, h.shift taken.length) := by
  induction taken generalizing h chars with
  | nil =>
    rw [List.append_nil, List.length_nil, shift_zero, run?]
    cases rest with
    | nil => rw [dif_neg (Nat.not_lt.mpr sees.ended)]
    | cons c rest => simp [sees.under, stops c rfl]
  | cons c taken ih =>
    obtain ⟨here, holds⟩ := List.forall_mem_cons.mp holds
    rw [List.cons_append] at sees
    rw [run?, dif_pos (Nat.not_le.mp sees.going)]
    simp [sees.under, here, sees.next.within, ih sees.next holds, shift_shift, Nat.add_comm]

/-- The guards of a token fail exactly when it has no character. -/
theorem finish_eq (h : Head) (kind : TokenKind) (chars : List Char) :
    (h.shift chars.length).finish? h kind chars =
      if chars = [] then none else some (tokenAt h.offset h.column kind chars) := by
  cases chars with
  | nil =>
    obtain ⟨offset, column⟩ := h
    cases offset <;> simp [finish?, minus?]
  | cons c chars => simp [finish?, minus?, tokenAt, Scanner.token, ← Nat.add_assoc]

theorem finish_some (nonempty : chars ≠ []) : (shift h chars.length).finish? h kind chars =
    some (tokenAt h.offset h.column kind chars) := by
  rw [finish_eq, if_neg nonempty]

theorem trailing_eq {escapes : List Char} (sees : h.Sees cs escapes) (nonempty : escapes ≠ []) :
    (h.shift escapes.length).trailing? cs h =
      some (tokenAt h.offset h.column .unknown escapes) := by
  have positive := List.length_pos_iff.mpr nonempty
  have slice : slice? cs h.offset (h.offset + escapes.length) = some escapes := by
    rw [slice?, if_pos ⟨Nat.le_add_right _ _, Nat.le_of_eq sees.length.symm⟩,
      List.extract_eq_take_drop, sees.ahead, Nat.add_sub_cancel_left, List.take_length]
  have last (n : Nat) : minus? (n + escapes.length) 1 = some (n + (escapes.length - 1)) := by
    rw [minus?, if_pos (by omega), Nat.add_sub_assoc positive]
  simp [trailing?, shift, slice, last, tokenAt, Scanner.token]

theorem single_eq (sees : h.Sees cs (c :: rest)) (kind : TokenKind) :
    h.single? cs kind = some (tokenAt h.offset h.column kind [c], h.shift 1) := by
  have finished : (h.shift 1).finish? h kind [c] = some (tokenAt h.offset h.column kind [c]) :=
    finish_some (List.cons_ne_nil c [])
  simp [single?, sees.current, sees.advance, finished]

theorem ne_quote {body : List Char} (unquoted : '"' ∉ body) : ∀ c ∈ body, (c != '"') = true := by
  intro c member
  exact bne_iff_ne.mpr (ne_of_mem_of_not_mem member unquoted)

theorem string_closed {body : List Char} (sees : h.Sees cs (c :: (body ++ '"' :: rest)))
    (unquoted : '"' ∉ body) : h.string? cs =
      some (tokenAt h.offset h.column .string (c :: (body ++ ['"'])),
        h.shift (c :: (body ++ ['"'])).length) := by
  have taken := run_eq sees.next (ne_quote unquoted) (by simp) [c]
  have closing := sees.next.shift
  have after : ((h.shift 1).shift body.length).shift 1 = h.shift (c :: (body ++ ['"'])).length := by
    simp [shift_shift, Nat.add_comm]
  simp only [string?, sees.current, sees.advance, taken, if_neg closing.going, closing.current,
    closing.advance, after, List.cons_append, List.nil_append, finish_some (List.cons_ne_nil c _),
    Option.bind_eq_bind, Option.bind_some, Option.pure_def]

theorem string_unclosed {body : List Char} (sees : h.Sees cs (c :: body))
    (unquoted : '"' ∉ body) : h.string? cs =
      some (tokenAt h.offset h.column .string (c :: body), h.shift (c :: body).length) := by
  have whole : (h.shift 1).Sees cs (body ++ []) := by simpa using sees.next
  have taken := run_eq whole (ne_quote unquoted) (by simp) [c]
  have after : (h.shift 1).shift body.length = h.shift (c :: body).length := by
    rw [shift_shift, List.length_cons, Nat.add_comm]
  have ended := whole.shift.ended
  rw [after] at taken ended
  simp only [string?, sees.current, sees.advance, taken, if_pos ended, List.singleton_append,
    finish_some (List.cons_ne_nil c body), Option.bind_eq_bind, Option.bind_some, Option.pure_def]

theorem word_eq {word tail : List Char} (sees : h.Sees cs (word ++ tail)) (nonempty : word ≠ [])
    (inside : ∀ c ∈ word, endsWord c = false) (ends : ∀ c ∈ tail.head?, endsWord c = true) :
    h.word? cs = some (tokenAt h.offset h.column (wordKind word) word, h.shift word.length) := by
  have taken : h.run? cs (!endsWord ·) [] = some ([] ++ word, h.shift word.length) :=
    run_eq sees (by simpa using inside) (by simpa using ends) []
  simp [word?, taken, finish_some nonempty]

/-- Every lexeme of the grammar is read within the guards. -/
theorem lexeme_eq {chars tail : List Char} (sees : h.Sees cs (chars ++ tail))
    (read : Lexeme kind chars tail) : h.lexeme? cs =
      some (tokenAt h.offset h.column kind chars,
        ⟨h.offset + chars.length, columnAfter kind h.column chars.length⟩) := by
  have quote : Text.isBlank '"' = false := by decide
  cases read with
  | lineBreak =>
    have back : Within cs ⟨h.offset + 1, 0⟩ := ⟨Nat.zero_le _, sees.next.within.2⟩
    simp [lexeme?, sees.current, single_eq sees, put?, shift, back, columnAfter]
  | @blank c _ blank feed =>
    simp [lexeme?, sees.current, single_eq sees, shift, blank, feed, columnAfter]
  | terminator =>
    have solid : Text.isBlank ';' = false := by decide
    simp [lexeme?, sees.current, single_eq sees, shift, solid, columnAfter]
  | @closed body _ unquoted =>
    rw [List.cons_append, List.append_assoc, List.singleton_append] at sees
    simp [lexeme?, sees.current, string_closed sees unquoted, shift, quote, columnAfter]
  | @unclosed body unquoted =>
    rw [List.append_nil] at sees
    simp [lexeme?, sees.current, string_unclosed sees unquoted, shift, quote, columnAfter]
  | word nonempty inside ends =>
    have scanned := word_eq sees nonempty inside ends
    cases chars with
    | nil => contradiction
    | cons c word =>
      -- No branch in front of the last one claims the first character of a word.
      obtain ⟨solid, going, bare, -⟩ := endsWord_false (inside c List.mem_cons_self)
      have feed : c ≠ '\n' := by
        rintro rfl
        exact absurd solid (by decide)
      have kind : wordKind (c :: word) ≠ .lineBreak := by
        rcases wordKind_cases (c :: word) with kind | kind <;> simp [kind]
      simp [lexeme?, sees.current, scanned, shift, solid, going, bare, feed, kind, columnAfter]

theorem next_end (sees : h.Sees cs []) : h.next? cs = some none := by
  have past : h.run? cs isEscape [] = some ([], h) := by
    rw [run?, dif_neg (Nat.not_lt.mpr sees.ended)]
  simp [next?, past, sees.ended]

theorem next_trailing {escapes : List Char} (sees : h.Sees cs escapes) (nonempty : escapes ≠ [])
    (all : Escapes escapes) : h.next? cs =
      some (some (tokenAt h.offset h.column .unknown escapes, h.shift escapes.length)) := by
  have whole : h.Sees cs (escapes ++ []) := by rwa [List.append_nil]
  have past := run_eq whole all (by simp) []
  have moved : (h.shift escapes.length).offset ≠ h.offset := by simpa using nonempty
  simp only [next?, past, if_pos whole.shift.ended, if_neg moved, trailing_eq sees nonempty,
    Option.bind_eq_bind, Option.bind_some, Option.pure_def]

theorem next_lexeme {escapes chars tail : List Char} (sees : h.Sees cs (escapes ++ (chars ++ tail)))
    (all : Escapes escapes) (read : Lexeme kind chars tail) : h.next? cs =
      some (some (tokenAt (h.offset + escapes.length) (h.column + escapes.length) kind chars,
        ⟨h.offset + escapes.length + chars.length,
          columnAfter kind (h.column + escapes.length) chars.length⟩)) := by
  have scanned := lexeme_eq sees.shift read
  obtain ⟨c, cs, same, plain, -⟩ := read.complete
  rw [same] at sees
  have past := run_eq sees all (by simpa using plain) []
  simp only [next?, past, if_neg sees.shift.going, scanned, Option.bind_eq_bind,
    Option.bind_some, Option.pure_def]
  rfl

end Head

variable {cs : List Char} {s : Scanner}

/-- One step of the head is one step of the scanner. -/
theorem Step.guarded (step : Step s t after) (sees : s.head.Sees cs s.rest) :
    s.head.next? cs = some (some (t, after.head)) := by
  cases step with
  | trailing nonempty all => exact Head.next_trailing sees nonempty all
  | lexeme all read => exact Head.next_lexeme sees all read

theorem Step.sees (step : Step s t after) (sees : s.head.Sees cs s.rest) :
    after.head.Sees cs after.rest := by
  obtain ⟨taken, rest, offset, -⟩ := step.taken
  rw [rest] at sees
  obtain ⟨⟨_, bound⟩, ahead⟩ := sees.shift
  have offset : after.head.offset = (s.head.shift taken.length).offset := offset
  refine ⟨⟨?_, by rwa [offset]⟩, by rwa [offset]⟩
  -- A step moves both counts together, or ends a line and puts the column back.
  by_cases feed : t.kind = .lineBreak
  · have start := step.column_after
    rw [if_pos feed] at start
    simp only [Scanner.head, start, Nat.zero_le]
  · have together := step.synchronized.2.2 feed
    have column : s.column ≤ s.offset := sees.within.1
    simp only [Scanner.head]
    omega

theorem Reads.sees (read : Reads s ts after) (sees : s.head.Sees cs s.rest) :
    after.head.Sees cs after.rest := by
  induction read with
  | done => exact sees
  | step step _ ih => exact ih (step.sees sees)

theorem Step.advances (step : Step s t after) : s.offset < after.offset := by
  obtain ⟨taken, rest, offset, -⟩ := step.taken
  have shorter := Scanner.next?_shorter (Scanner.next?_of_step step)
  rw [rest, List.length_append] at shorter
  omega

theorem Step.text_ne_empty (step : Step s t after) : t.text ≠ "" := by
  intro empty
  have nothing : t.text.toList = [] := String.toList_eq_nil_iff.mpr empty
  cases step with
  | trailing nonempty => exact nonempty (tokenAt_text.symm.trans nothing)
  | lexeme _ read => exact read.ne_nil (tokenAt_text.symm.trans nothing)

theorem Reads.advances (read : Reads s ts after) : s.offset + ts.length ≤ after.offset := by
  induction read with
  | done => exact Nat.le_refl _
  | step step _ ih =>
    have forward := step.advances
    rw [List.length_cons]
    omega

/-- The loop over the head ends where a reading does. -/
theorem Reads.scans (read : Reads s ts after) (sees : s.head.Sees cs s.rest)
    (ended : after.rest = []) : s.head.Scans cs ts := by
  induction read with
  | done =>
    rw [ended] at sees
    exact .ended (Head.next_end sees)
  | step step _ ih => exact .taken (step.guarded sees) (ih (step.sees sees) ended)

theorem start_sees (text : String) :
    (Scanner.start text).head.Sees text.toList (Scanner.start text).rest :=
  ⟨⟨Nat.le_refl _, Nat.zero_le _⟩, rfl⟩

/-- A scanner of the text `cs` is in range. It ends exactly at the end of the text, takes a
token off it anywhere else, and no guard of the step fails. -/
structure Progresses (cs : List Char) (s : Scanner) : Prop where
  within : s.column ≤ s.offset ∧ s.offset ≤ cs.length
  ends : s.next? = none ↔ s.offset = cs.length
  steps : s.offset < cs.length → ∃ t after, s.next? = some (t, after) ∧
    s.offset < after.offset ∧ t.text ≠ ""
  guarded : s.head.next? cs = some (s.next?.map fun (t, after) => (t, after.head))

theorem Head.Sees.ends (sees : s.head.Sees cs s.rest) :
    s.next? = none ↔ s.offset = cs.length := by
  have length : cs.length = s.offset + s.rest.length := sees.length
  rw [Scanner.next?_eq_none_iff, ← List.length_eq_zero_iff]
  omega

theorem Head.Sees.guarded (sees : s.head.Sees cs s.rest) :
    s.head.next? cs = some (s.next?.map fun (t, after) => (t, after.head)) := by
  cases next : s.next? with
  | none =>
    rw [Scanner.next?_eq_none_iff.mp next] at sees
    exact Head.next_end sees
  | some taken => exact (Scanner.next?_eq_some_iff.mp next).guarded sees

theorem Head.Sees.progresses (sees : s.head.Sees cs s.rest) : Progresses cs s := by
  refine ⟨sees.within, sees.ends, fun going => ?_, sees.guarded⟩
  have more : s.next? ≠ none := mt sees.ends.mp (Nat.ne_of_lt going)
  obtain ⟨⟨t, after⟩, next⟩ := Option.ne_none_iff_exists'.mp more
  have step := Scanner.next?_eq_some_iff.mp next
  exact ⟨t, after, next, step.advances, step.text_ne_empty⟩

/-- Wherever the scanner comes to in a text, it is in range and its next step makes
progress. So the scan of a text ends, no guard fails on the way, and there are at most as
many tokens as characters. -/
theorem scan_progresses (text : String) :
    (∀ ts s, Reads (Scanner.start text) ts s → Progresses text.toList s) ∧
    (Scanner.start text).head.Scans text.toList (tokens text) ∧
    (tokens text).length ≤ text.length := by
  have sees := start_sees text
  obtain ⟨offset, column, read⟩ := reads_tokens (Scanner.start text)
  refine ⟨fun ts s read => (read.sees sees).progresses, read.scans sees rfl, ?_⟩
  have bound : offset ≤ text.toList.length := (read.sees sees).within.2
  rw [String.length_toList] at bound
  have count : 0 + (tokens text).length ≤ offset := read.advances
  omega

/-- Behind a dropped backslash and a line break, in front of a string that is left open
over another line feed. -/
theorem scan_progresses_open_string :
    Reads (Scanner.start "\\\n\"a\n") [⟨.lineBreak, ⟨1, 1⟩, ⟨1, 1⟩, "\n"⟩] ⟨2, 0, "\"a\n".toList⟩ ∧
    Progresses "\\\n\"a\n".toList ⟨2, 0, "\"a\n".toList⟩ := by
  have read : Reads (Scanner.start "\\\n\"a\n") [⟨.lineBreak, ⟨1, 1⟩, ⟨1, 1⟩, "\n"⟩]
      ⟨2, 0, "\"a\n".toList⟩ := .step (Scanner.next?_eq_some_iff.mp rfl) .done
  exact ⟨read, (scan_progresses _).1 _ _ read⟩

end KeyScript.Script
