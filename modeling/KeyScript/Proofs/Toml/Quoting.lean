import Mathlib.Data.List.TakeWhile
import KeyScript.Toml.Printer
import KeyScript.Toml.Reader

/-! Quoted texts. Whatever quotes a text is written in, and whichever of its characters are
escaped, the text that is read is the one that was written. The reader finds the quotes that
close a text of several lines because no more than two stand together inside it. -/
namespace KeyScript.Toml

/-- A way to write a character between double quotes: as it is, or behind a backslash. -/
inductive Spelling (c : Char) : List Char → Prop where
  | itself : c ≠ '"' → c ≠ '\\' → isControl c = false → Spelling c [c]
  | escaped : (∀ rest, continued? (sign :: (more ++ rest)) = none) →
      (∀ rest, escaped? (sign :: (more ++ rest)) = some (c, rest)) →
      Spelling c ('\\' :: sign :: more)

theorem codePoint?_hex : ∀ n < 128, ((Text.hex 4 n).map Char.toUpper).length = 4 ∧
    Text.numberOf? 16 Text.hexDigit? ((Text.hex 4 n).map Char.toUpper) = some n := by
  decide +kernel

theorem needsEscape_iff {c : Char} : needsEscape c = true ↔
    (c.toNat < 32 ∧ c ≠ '\n' ∧ c ≠ '\t') ∨ c.toNat = 127 := by
  simp [needsEscape, and_assoc]

theorem isControl_eq_false {c : Char} (plain : needsEscape c = false) (feed : c ≠ '\n') :
    isControl c = false := by
  rw [Bool.eq_false_iff, Ne, needsEscape_iff] at plain
  simp only [isControl, Bool.or_eq_false_iff, Bool.and_eq_false_iff, decide_eq_false_iff_not,
    bne_eq_false_iff_eq, beq_eq_false_iff_ne]
  grind

theorem spelling_unicode {c : Char} (small : c.toNat < 128) :
    Spelling c ('\\' :: 'u' :: (Text.hex 4 c.toNat).map Char.toUpper) := by
  obtain ⟨length, value⟩ := codePoint?_hex c.toNat small
  apply Spelling.escaped
  · intro rest
    rfl
  · intro rest
    have code : c.toNat < 0xD800 := by omega
    simp [escaped?, codePoint?, length, value, code]

theorem spelling_escape (c : Char) : Spelling c (escape c) := by
  have sign : ∀ {c sign}, (∀ rest, continued? (sign :: rest) = none) →
      (∀ rest, escaped? (sign :: rest) = some (c, rest)) → Spelling c ['\\', sign] :=
    fun ends read => .escaped ends read
  have coded : ∀ {n}, c.toNat = n → Char.ofNat n = c := by
    rintro _ rfl
    exact Char.ofNat_toNat c
  unfold escape
  split
  · exact sign (fun _ => rfl) (fun _ => rfl)
  · exact sign (fun _ => rfl) (fun _ => rfl)
  · exact sign (fun _ => rfl) (fun _ => rfl)
  · exact sign (fun _ => rfl) (fun _ => rfl)
  · exact sign (fun _ => rfl) (fun _ => rfl)
  · rename_i quote backslash feed _ _
    split
    · rename_i code
      rw [← coded code]
      exact sign (fun _ => rfl) (fun _ => rfl)
    · split
      · rename_i code
        rw [← coded code]
        exact sign (fun _ => rfl) (fun _ => rfl)
      · split
        · rename_i special
          rw [needsEscape_iff] at special
          exact spelling_unicode (by omega)
        · rename_i plain
          exact .itself quote backslash (isControl_eq_false (Bool.eq_false_iff.mpr plain) feed)

/-- Text and closing quote of one line. -/
theorem basic?_escape (cs rest seen : List Char) (enough : (cs.flatMap escape).length < fuel) :
    basic? fuel seen (cs.flatMap escape ++ '"' :: rest) = some (seen.reverse ++ cs, rest) := by
  induction cs generalizing fuel seen with
  | nil =>
    obtain ⟨fuel, rfl⟩ := Nat.exists_eq_succ_of_ne_zero (Nat.ne_zero_of_lt enough)
    simp [basic?]
  | cons c cs ih =>
    obtain ⟨fuel, rfl⟩ := Nat.exists_eq_succ_of_ne_zero (Nat.ne_zero_of_lt enough)
    have spelled := spelling_escape c
    rw [List.flatMap_cons, List.append_assoc]
    rw [List.flatMap_cons, List.length_append] at enough
    generalize escape c = word at spelled enough
    cases spelled with
    | itself quote backslash control =>
      rw [List.singleton_append, basic?.eq_5 _ _ _ _ quote backslash, control]
      rw [List.length_singleton] at enough
      simp [@ih fuel (c :: seen) (by omega)]
    | escaped _ read? =>
      rw [List.length_cons] at enough
      rw [List.cons_append, List.cons_append, basic?, read?]
      simp [@ih fuel (c :: seen) (by omega)]

theorem literal?_append (cs rest : List Char)
    (allowed : ∀ c ∈ cs, c ≠ '\'' ∧ isControl c = false) :
    literal? (cs ++ '\'' :: rest) = some (cs, rest) := by
  have all : ∀ c ∈ cs, (c != '\'' && !isControl c) = true := by
    intro c member
    obtain ⟨quote, control⟩ := allowed c member
    simp [quote, control]
  simp only [literal?, List.takeWhile_append_of_pos all]
  simp

/-- No more than `n` marks stand together in front. -/
def Short (mark : Char) (n : Nat) (cs : List Char) : Prop :=
  (cs.takeWhile (· == mark)).length ≤ n

section
variable {mark : Char} {cs rest : List Char}

theorem takeWhile_mark (all : ∀ c ∈ cs, c = mark) (ends : rest.head? ≠ some mark) :
    (cs ++ mark :: mark :: mark :: rest).takeWhile (· == mark) = cs ++ [mark, mark, mark] := by
  have none : rest.takeWhile (· == mark) = [] := by
    cases rest with
    | nil => rfl
    | cons c rest =>
      have other : c ≠ mark := by simpa using ends
      simp [other]
  rw [List.takeWhile_append_of_pos (by simpa using all)]
  simp [none]

theorem takeWhile_other (other : ¬∀ c ∈ cs, c = mark) (more : List Char) :
    (cs ++ more).takeWhile (· == mark) = cs.takeWhile (· == mark) := by
  rw [List.takeWhile_append, if_neg]
  intro whole
  apply other
  have self := (List.takeWhile_prefix (· == mark)).eq_of_length whole
  simpa using List.takeWhile_eq_self_iff.mp self

/-- The closing marks are found behind marks only, and those in front of them are kept. -/
theorem closing?_marks (short : Short mark 2 cs) (ends : rest.head? ≠ some mark)
    (all : ∀ c ∈ cs, c = mark) :
    closing? mark (cs ++ mark :: mark :: mark :: rest) = some (cs, rest) := by
  have self : cs.takeWhile (· == mark) = cs := List.takeWhile_eq_self_iff.mpr (by simpa using all)
  have few : cs.length ≤ 2 := by
    rw [Short, self] at short
    exact short
  have kept : List.replicate cs.length mark = cs := (List.eq_replicate_of_mem all).symm
  rw [closing?, takeWhile_mark all ends]
  simp [few, kept]

theorem closing?_other (short : Short mark 2 cs) (other : ¬∀ c ∈ cs, c = mark)
    (more : List Char) : closing? mark (cs ++ more) = none := by
  rw [closing?, takeWhile_other other]
  exact if_pos (Nat.lt_succ_of_le short)

theorem lineEndAnd?_eq_none (feed : c ≠ '\n') (ret : c ≠ '\r') (rest : List Char) :
    lineEndAnd? (c :: rest) = none := by
  apply lineEndAnd?.eq_3
  · rintro rest ⟨⟩
    exact feed rfl
  · rintro rest ⟨⟩
    exact ret rfl

theorem ne_of_isControl (control : isControl c = false) : c ≠ '\n' ∧ c ≠ '\r' := by
  constructor <;> rintro rfl <;> contradiction

theorem literalLines?_append (cs rest seen : List Char)
    (short : ∀ after, after <:+ cs → Short '\'' 2 after)
    (allowed : ∀ c ∈ cs, c = '\n' ∨ isControl c = false) (ends : rest.head? ≠ some '\'')
    (enough : cs.length < fuel) :
    literalLines? fuel seen (cs ++ '\'' :: '\'' :: '\'' :: rest) =
      some (seen.reverse ++ cs, rest) := by
  induction cs generalizing fuel seen with
  | nil =>
    obtain ⟨fuel, rfl⟩ := Nat.exists_eq_succ_of_ne_zero (Nat.ne_zero_of_lt enough)
    unfold literalLines?
    rw [closing?_marks (short [] List.suffix_rfl) ends (by simp)]
  | cons c cs ih =>
    obtain ⟨fuel, rfl⟩ := Nat.exists_eq_succ_of_ne_zero (Nat.ne_zero_of_lt enough)
    unfold literalLines?
    obtain ⟨first, later⟩ := List.forall_mem_cons.mp allowed
    have tail := @ih fuel (c :: seen)
      (fun after part => short after (part.trans (List.suffix_cons c cs))) later
      (Nat.lt_of_succ_lt_succ enough)
    by_cases all : ∀ d ∈ c :: cs, d = '\''
    · rw [closing?_marks (short _ List.suffix_rfl) ends all]
    · rw [closing?_other (short _ List.suffix_rfl) all]
      rcases first with rfl | control
      · simpa [lineEndAnd?] using tail
      · obtain ⟨feed, ret⟩ := ne_of_isControl control
        simp only [List.cons_append, lineEndAnd?_eq_none feed ret, control]
        simpa using tail

end

/-- What the reader of a text of several lines does in front of the closing quotes, of a line
end, of a character that stands for itself and of an escape. -/
theorem basicLines?_closed (closed : closing? '"' cs = some (kept, rest)) :
    basicLines? (fuel + 1) seen cs = some (seen.reverse ++ kept, rest) := by
  rw [basicLines?.eq_def]
  simp only [closed]

theorem basicLines?_feed (open? : closing? '"' ('\n' :: rest) = none) :
    basicLines? (fuel + 1) seen ('\n' :: rest) = basicLines? fuel ('\n' :: seen) rest := by
  rw [basicLines?.eq_def]
  simp only [open?]
  rfl

theorem basicLines?_itself (open? : closing? '"' (c :: rest) = none) (backslash : c ≠ '\\')
    (control : isControl c = false) :
    basicLines? (fuel + 1) seen (c :: rest) = basicLines? fuel (c :: seen) rest := by
  obtain ⟨feed, ret⟩ := ne_of_isControl control
  rw [basicLines?.eq_def]
  simp only [open?]
  simp [lineEndAnd?_eq_none feed ret, control]

theorem basicLines?_escaped (open? : closing? '"' ('\\' :: word) = none)
    (onward : continued? word = none) (read? : escaped? word = some (c, rest)) :
    basicLines? (fuel + 1) seen ('\\' :: word) = basicLines? fuel (c :: seen) rest := by
  rw [basicLines?.eq_def]
  simp only [open?]
  simp [lineEndAnd?, onward, read?]

theorem escapeLines_cons (run : Nat) (c : Char) (cs : List Char) :
    (c = '"' ∧ run < 2 ∧ escapeLines run (c :: cs) = '"' :: escapeLines (run + 1) cs) ∨
    (c = '\n' ∧ escapeLines run (c :: cs) = '\n' :: escapeLines 0 cs) ∨
    ∃ word, Spelling c word ∧ escapeLines run (c :: cs) = word ++ escapeLines 0 cs := by
  by_cases mark : c = '"'
  · subst mark
    rw [escapeLines]
    split
    · rename_i few
      exact Or.inl ⟨rfl, few, rfl⟩
    · exact Or.inr (Or.inr ⟨['\\', '"'], spelling_escape '"', rfl⟩)
  · by_cases feed : c = '\n'
    · subst feed
      exact Or.inr (Or.inl ⟨rfl, rfl⟩)
    · exact Or.inr (Or.inr ⟨escape c, spelling_escape c, escapeLines.eq_4 run c cs mark feed⟩)

theorem Spelling.head (spelled : Spelling c word) :
    ∃ first more, word = first :: more ∧ first ≠ '"' ∧ first ≠ '\n' ∧ first ≠ '\r' := by
  cases spelled with
  | itself mark _ control => exact ⟨c, [], rfl, mark, ne_of_isControl control⟩
  | escaped => exact ⟨'\\', _, rfl, by decide, by decide, by decide⟩

theorem short_escapeLines (few : run ≤ 2) (cs : List Char) :
    Short '"' (2 - run) (escapeLines run cs) := by
  induction cs generalizing run with
  | nil => exact Nat.zero_le _
  | cons c cs ih =>
    rcases escapeLines_cons run c cs with ⟨rfl, fewer, same⟩ | ⟨rfl, same⟩ | ⟨word, spelled, same⟩
    · have tail := ih (Nat.succ_le_of_lt fewer)
      rw [Nat.succ_eq_add_one] at tail
      rw [Short] at tail ⊢
      rw [same, List.takeWhile_cons_of_pos rfl, List.length_cons]
      omega
    · rw [same]
      exact Nat.zero_le _
    · obtain ⟨first, more, rfl, mark, _⟩ := spelled.head
      rw [same, Short, List.cons_append, List.takeWhile_cons_of_neg (by simpa using mark)]
      exact Nat.zero_le _

/-- Only quotes that are not escaped are written as quotes alone. -/
theorem escapeLines_marks (cs : List Char) (all : ∀ d ∈ escapeLines run cs, d = '"') :
    escapeLines run cs = cs := by
  induction cs generalizing run with
  | nil => rfl
  | cons c cs ih =>
    rcases escapeLines_cons run c cs with ⟨rfl, _, same⟩ | ⟨rfl, same⟩ | ⟨word, spelled, same⟩
    · rw [same] at all ⊢
      rw [ih (List.forall_mem_cons.mp all).2]
    · rw [same] at all
      exact absurd (all '\n' List.mem_cons_self) (by decide)
    · obtain ⟨first, more, rfl, mark, _⟩ := spelled.head
      rw [same] at all
      exact absurd (all first (by simp)) mark

theorem basicLines?_escapeLines (few : run ≤ 2) (cs rest seen : List Char)
    (ends : rest.head? ≠ some '"') (enough : (escapeLines run cs).length < fuel) :
    basicLines? fuel seen (escapeLines run cs ++ '"' :: '"' :: '"' :: rest) =
      some (seen.reverse ++ cs, rest) := by
  induction cs generalizing fuel seen run with
  | nil =>
    obtain ⟨fuel, rfl⟩ := Nat.exists_eq_succ_of_ne_zero (Nat.ne_zero_of_lt enough)
    have short : Short '"' 2 [] := Nat.zero_le 2
    rw [escapeLines, basicLines?_closed (closing?_marks short ends (by simp))]
  | cons c cs ih =>
    obtain ⟨fuel, rfl⟩ := Nat.exists_eq_succ_of_ne_zero (Nat.ne_zero_of_lt enough)
    have short : Short '"' 2 (escapeLines run (c :: cs)) :=
      (short_escapeLines few _).trans (Nat.sub_le 2 run)
    by_cases all : ∀ d ∈ escapeLines run (c :: cs), d = '"'
    · rw [basicLines?_closed (closing?_marks short ends all), escapeLines_marks _ all]
    · have closing := closing?_other short all ('"' :: '"' :: '"' :: rest)
      have tail := fun run few => @ih run fuel few (c :: seen)
      rcases escapeLines_cons run c cs with ⟨rfl, fewer, same⟩ | ⟨rfl, same⟩ | ⟨word, spelled, same⟩
      · rw [same] at closing enough ⊢
        rw [List.cons_append] at closing ⊢
        rw [basicLines?_itself closing (by decide) (by decide),
          tail (run + 1) fewer (Nat.lt_of_succ_lt_succ enough)]
        simp
      · rw [same] at closing enough ⊢
        rw [List.cons_append] at closing ⊢
        rw [basicLines?_feed closing, tail 0 (by omega) (Nat.lt_of_succ_lt_succ enough)]
        simp
      · rw [same] at closing enough ⊢
        rw [List.length_append] at enough
        cases spelled with
        | itself _ backslash control =>
          rw [List.length_singleton] at enough
          rw [List.append_assoc, List.singleton_append] at closing ⊢
          rw [basicLines?_itself closing backslash control, tail 0 (by omega) (by omega)]
          simp
        | @escaped sign more onward read? =>
          rw [List.length_cons] at enough
          rw [List.append_assoc, List.cons_append, List.cons_append] at closing ⊢
          rw [basicLines?_escaped closing (onward _) (read? _), tail 0 (by omega) (by omega)]
          simp

/-- One character more: the longest run so far, and the run that it ends. -/
def countRun (c : Char) (counted : Nat × Nat) (d : Char) : Nat × Nat :=
  if c = d then (max counted.1 (counted.2 + 1), counted.2 + 1) else (counted.1, 0)

theorem longestRun_eq (c : Char) (cs : List Char) :
    longestRun c cs = (cs.foldl (countRun c) (0, 0)).1 := rfl

/-- Counting on from `run` marks in front, no run of the text is longer than the result. -/
theorem short_of_foldl (cs : List Char) (best run : Nat) (bound : run ≤ best) :
    best ≤ (cs.foldl (countRun c) (best, run)).1 ∧
    run + (cs.takeWhile (· == c)).length ≤ (cs.foldl (countRun c) (best, run)).1 ∧
      ∀ after, after <:+ cs → Short c (cs.foldl (countRun c) (best, run)).1 after := by
  induction cs generalizing best run with
  | nil =>
    refine ⟨Nat.le_refl best, bound, ?_⟩
    intro after part
    rw [List.suffix_nil.mp part]
    exact Nat.zero_le _
  | cons d cs ih =>
    by_cases same : c = d
    · subst same
      have step : countRun c (best, run) c = (max best (run + 1), run + 1) := if_pos rfl
      obtain ⟨best', longest, parts⟩ := ih (max best (run + 1)) (run + 1) (by omega)
      rw [List.foldl_cons, step, List.takeWhile_cons_of_pos (by simp), List.length_cons]
      refine ⟨by omega, by omega, ?_⟩
      intro after part
      rcases List.suffix_cons_iff.mp part with rfl | part
      · rw [Short, List.takeWhile_cons_of_pos (by simp), List.length_cons]
        omega
      · exact parts after part
    · have step : countRun c (best, run) d = (best, 0) := if_neg same
      have none : (d :: cs).takeWhile (· == c) = [] :=
        List.takeWhile_cons_of_neg (by simpa using Ne.symm same)
      obtain ⟨best', _, parts⟩ := ih best 0 (Nat.zero_le best)
      rw [List.foldl_cons, step, none, List.length_nil]
      refine ⟨best', bound.trans best', ?_⟩
      intro after part
      rcases List.suffix_cons_iff.mp part with rfl | part
      · rw [Short, none]
        exact Nat.zero_le _
      · exact parts after part

theorem short_of_longestRun (few : longestRun c cs ≤ n) (part : after <:+ cs) : Short c n after := by
  rw [longestRun_eq] at few
  exact ((short_of_foldl cs 0 0 (Nat.le_refl 0)).2.2 after part).trans few

theorem not_mem_of_longestRun (none : longestRun c cs = 0) : c ∉ cs := by
  intro member
  obtain ⟨before, after, rfl⟩ := List.append_of_mem member
  have short := short_of_longestRun (Nat.le_of_eq none) (List.suffix_append before (c :: after))
  rw [Short, List.takeWhile_cons_of_pos (by simp)] at short
  contradiction

/-- The mark three times, around a text and the line end in front of it. -/
def between (mark : Char) (lead body : List Char) : List Char :=
  [mark, mark, mark] ++ lead ++ body ++ [mark, mark, mark]

/-- A line end that does not count may stand in front of a text; it stands in front of each
text with line ends. -/
def Leads (lead cs : List Char) : Prop := lead = ['\n'] ∨ lead = [] ∧ '\n' ∉ cs

/-- The ways to write a text in quotes. -/
inductive Quoted (cs : List Char) : List Char → Prop where
  | basic : Quoted cs ('"' :: cs.flatMap escape ++ ['"'])
  | literal : (∀ c ∈ cs, c ≠ '\'' ∧ isControl c = false) → Quoted cs ('\'' :: cs ++ ['\''])
  | basicLines : Leads lead cs → Quoted cs (between '"' lead (escapeLines 0 cs))
  | literalLines : Leads lead cs → (∀ after, after <:+ cs → Short '\'' 2 after) →
      (∀ c ∈ cs, c = '\n' ∨ isControl c = false) → Quoted cs (between '\'' lead cs)

theorem quoted_quote (s : String) : Quoted s.toList (quote s) := by
  have lead : Leads (if s.toList.contains '\n' then ['\n'] else []) s.toList := by
    by_cases feed : '\n' ∈ s.toList
    · exact Or.inl (if_pos (by simpa using feed))
    · exact Or.inr ⟨if_neg (by simpa using feed), feed⟩
  have allowed : s.toList.any needsEscape = false → ∀ c ∈ s.toList, c = '\n' ∨
      isControl c = false := by
    intro plain c member
    by_cases feed : c = '\n'
    · exact Or.inl feed
    · have legible := List.any_eq_false.mp plain c member
      exact Or.inr (isControl_eq_false (Bool.eq_false_iff.mpr legible) feed)
  simp only [quote]
  split
  · exact .basic
  split
  · rename_i simple
    simp only [Bool.and_eq_true, Bool.not_eq_true', beq_iff_eq] at simple
    obtain ⟨⟨plain, feedless⟩, single⟩ := simple
    apply Quoted.literal
    intro c member
    refine ⟨fun same => not_mem_of_longestRun single (same ▸ member), ?_⟩
    rcases allowed plain c member with rfl | control
    · simp_all
    · exact control
  split
  · exact .basicLines lead
  split
  · rename_i simple
    simp only [Bool.and_eq_true, Bool.not_eq_true', decide_eq_true_eq] at simple
    obtain ⟨plain, few⟩ := simple
    exact .literalLines lead (fun after part => short_of_longestRun few part) (allowed plain)
  split
  · exact .basicLines (Or.inl rfl)
  · exact .basic

theorem skipLineEnd_eq_self (feed : c ≠ '\n') (ret : c ≠ '\r') (rest : List Char) :
    skipLineEnd (c :: rest) = c :: rest := by
  simp [skipLineEnd, afterLineEnd?, lineEndAnd?_eq_none feed ret]

/-- The line end in front of the text is skipped, and of the text nothing is. -/
theorem Leads.skip (leads : Leads lead cs) (first : '\n' ∉ cs → ∃ c more,
      body = c :: more ∧ c ≠ '\n' ∧ c ≠ '\r') : skipLineEnd (lead ++ body) = body := by
  rcases leads with rfl | ⟨rfl, feedless⟩
  · rfl
  · obtain ⟨c, more, rfl, feed, ret⟩ := first feedless
    exact skipLineEnd_eq_self feed ret more

theorem head_escapeLines (feedless : '\n' ∉ cs) (more : List Char) : ∃ c rest,
    escapeLines 0 cs ++ '"' :: more = c :: rest ∧ c ≠ '\n' ∧ c ≠ '\r' := by
  cases cs with
  | nil => exact ⟨'"', more, rfl, by decide, by decide⟩
  | cons c cs =>
    rcases escapeLines_cons 0 c cs with ⟨rfl, _, same⟩ | ⟨rfl, _⟩ | ⟨word, spelled, same⟩
    · exact ⟨'"', _, by rw [same]; rfl, by decide, by decide⟩
    · exact absurd List.mem_cons_self feedless
    · obtain ⟨first, rest, rfl, _, feed, ret⟩ := spelled.head
      exact ⟨first, _, by rw [same]; rfl, feed, ret⟩

theorem head_literal (feedless : '\n' ∉ cs) (allowed : ∀ c ∈ cs, c = '\n' ∨ isControl c = false)
    (more : List Char) : ∃ c rest, cs ++ '\'' :: more = c :: rest ∧ c ≠ '\n' ∧ c ≠ '\r' := by
  cases cs with
  | nil => exact ⟨'\'', more, rfl, by decide, by decide⟩
  | cons c cs =>
    rcases allowed c List.mem_cons_self with rfl | control
    · exact absurd List.mem_cons_self feedless
    · exact ⟨c, _, rfl, ne_of_isControl control⟩

/-- One mark in front of a text is not the first of three. -/
theorem text?_single (first : ∀ c ∈ cs.head?, c ≠ mark) (ends : rest.head? ≠ some mark) :
    text? fuel (mark :: (cs ++ mark :: rest)) = quoted? fuel (mark :: (cs ++ mark :: rest)) := by
  have single : ∀ tail, cs ++ mark :: rest ≠ mark :: mark :: tail := by
    intro tail same
    cases cs with
    | nil =>
      obtain rfl := (List.cons.inj same).2
      exact ends rfl
    | cons c cs => exact first c rfl (List.cons.inj same).1
  apply text?.eq_3
  · rintro tail same
    obtain ⟨rfl, same⟩ := List.cons.inj same
    exact single tail same
  · rintro tail same
    obtain ⟨rfl, same⟩ := List.cons.inj same
    exact single tail same

theorem head_flatMap_escape (cs : List Char) : ∀ c ∈ (cs.flatMap escape).head?, c ≠ '"' := by
  intro c head
  cases cs with
  | nil => contradiction
  | cons d cs =>
    obtain ⟨first, more, same, mark, _⟩ := (spelling_escape d).head
    rw [List.flatMap_cons, same] at head
    obtain rfl := Option.some.inj head
    exact mark

/-- A text that is written in quotes is read back, in front of all but further quotes. -/
theorem text?_quoted (quoted : Quoted cs text) (double : rest.head? ≠ some '"')
    (single : rest.head? ≠ some '\'') (enough : text.length ≤ fuel) :
    text? fuel (text ++ rest) = some (String.ofList cs, rest) := by
  cases quoted with
  | basic =>
    simp only [List.cons_append, List.append_assoc, List.length_cons, List.length_append,
      List.nil_append, List.length_nil] at enough ⊢
    rw [text?_single (head_flatMap_escape cs) double, quoted?,
      basic?_escape cs rest [] (by omega)]
    rfl
  | literal allowed =>
    simp only [List.cons_append, List.append_assoc, List.nil_append]
    have first : ∀ c ∈ cs.head?, c ≠ '\'' :=
      fun c head => (allowed c (List.mem_of_mem_head? head)).1
    rw [text?_single first single, quoted?, literal?_append cs rest allowed]
    rfl
  | basicLines leads =>
    simp only [between, List.cons_append, List.append_assoc, List.length_cons, List.length_append,
      List.nil_append, List.length_nil] at enough ⊢
    rw [text?, leads.skip fun feedless => head_escapeLines feedless _,
      basicLines?_escapeLines (by omega) cs rest [] double (by omega)]
    rfl
  | literalLines leads short allowed =>
    simp only [between, List.cons_append, List.append_assoc, List.length_cons, List.length_append,
      List.nil_append, List.length_nil] at enough ⊢
    rw [text?, leads.skip fun feedless => head_literal feedless allowed _,
      literalLines?_append cs rest [] short allowed single (by omega)]
    rfl

theorem text?_quote (s : String) (double : rest.head? ≠ some '"') (single : rest.head? ≠ some '\'')
    (enough : (quote s).length ≤ fuel) : text? fuel (quote s ++ rest) = some (s, rest) := by
  rw [text?_quoted (quoted_quote s) double single enough, String.ofList_toList]

end KeyScript.Toml
