import Mathlib.Data.List.Forall2
import KeyScript.Proofs.Script.Splitting

/-! Columns of a line. When every backslash of a line stands inside quotes no
character is dropped, so the tokens lie on the line side by side, and so do its
statements. A line break at the end of the line joins the last statement or comes
after it, and the statements keep their columns. -/
namespace KeyScript.Script

/-- Every backslash stands inside quotes. -/
def EscapesQuoted (cs : List Char) : Prop :=
  ∀ i < cs.length, cs[i]? = some '\\' → quoted (cs.take i) = true

instance (cs : List Char) : Decidable (EscapesQuoted cs) :=
  inferInstanceAs (Decidable (∀ i < cs.length, cs[i]? = some '\\' → quoted (cs.take i) = true))

theorem escapesQuoted_iff {cs : List Char} :
    EscapesQuoted cs ↔ ∀ before after, cs = before ++ '\\' :: after → quoted before = true := by
  constructor
  · rintro all before after rfl
    simpa using all before.length (by simp) (by simp)
  · intro all i inside found
    obtain ⟨_, same⟩ := List.getElem?_eq_some_iff.mp found
    apply all (cs.take i) (cs.drop (i + 1))
    rw [← same, ← List.drop_eq_getElem_cons inside, List.take_append_drop]

theorem EscapesQuoted.of_append_left (all : EscapesQuoted (cs ++ more)) : EscapesQuoted cs := by
  rw [escapesQuoted_iff] at all ⊢
  rintro before after rfl
  exact all before (after ++ more) (by simp)

theorem EscapesQuoted.of_append_right (all : EscapesQuoted (taken ++ cs))
    (outside : quoted taken = false) : EscapesQuoted cs := by
  rw [escapesQuoted_iff] at all ⊢
  rintro before after rfl
  have inside := all (taken ++ before) after (by simp)
  rwa [quoted_append, outside, Bool.false_xor] at inside

theorem EscapesQuoted.nil : EscapesQuoted [] := fun i inside => absurd inside (Nat.not_lt_zero i)

theorem EscapesQuoted.rest (all : EscapesQuoted (taken ++ cs))
    (closed : cs ≠ [] → quoted taken = false) : EscapesQuoted cs := by
  by_cases more : cs = []
  · rw [more]
    exact .nil
  · exact all.of_append_right (closed more)

theorem EscapesQuoted.escapes_nil (all : EscapesQuoted (escapes ++ cs)) (run : Escapes escapes) :
    escapes = [] := by
  cases escapes with
  | nil => rfl
  | cons c escapes =>
    have sign : c = '\\' := by simpa [isEscape] using run c List.mem_cons_self
    have inside := escapesQuoted_iff.mp all [] (escapes ++ cs) (by simp [sign])
    contradiction

theorem EscapesQuoted.nil_of_escapes (all : EscapesQuoted escapes) (run : Escapes escapes) :
    escapes = [] := by
  rw [← List.append_nil escapes] at all
  exact all.escapes_nil run

/-- The tokens lie side by side on the columns from `start` up to `stop`. -/
inductive Laid : Nat → List Token → Nat → Prop where
  | nil : Laid start [] start
  | cons : t.columns.first = start → t.columns.last + 1 = start + t.text.length →
      t.text ≠ "" → Laid (start + t.text.length) ts stop → Laid start (t :: ts) stop

theorem Laid.append (left : Laid start ts middle) (right : Laid middle us stop) :
    Laid start (ts ++ us) stop := by
  induction left with
  | nil => exact right
  | cons first last nonempty _ ih => exact .cons first last nonempty (ih right)

theorem Laid.split (laid : Laid start (ts ++ us) stop) :
    ∃ middle, Laid start ts middle ∧ Laid middle us stop := by
  induction ts generalizing start with
  | nil => exact ⟨start, .nil, laid⟩
  | cons t ts ih =>
    cases laid with
    | cons first last nonempty rest =>
      obtain ⟨middle, left, right⟩ := ih rest
      exact ⟨middle, .cons first last nonempty left, right⟩

/-- With its escapes quoted a step takes the characters of its token and no others. -/
theorem Step.laid (step : Step s t after) (all : EscapesQuoted s.rest)
    (going : t.kind ≠ .lineBreak) : Laid s.column [t] after.column ∧
      after.column + s.offset = s.column + after.offset ∧ EscapesQuoted after.rest := by
  cases step with
  | @trailing escapes offset column nonempty run =>
    exact absurd (all.nil_of_escapes run) nonempty
  | @lexeme escapes kind chars tail offset column run read =>
    obtain rfl := all.escapes_nil run
    have going : kind ≠ .lineBreak := going
    have positive := List.length_pos_iff.mpr read.ne_nil
    have length : (tokenAt offset column kind chars).text.length = chars.length := by
      rw [← String.length_toList, tokenAt_text]
    simp only [List.length_nil, Nat.add_zero, columnAfter, if_neg going]
    refine ⟨.cons rfl ?_ ?_ ?_, by omega, ?_⟩
    · rw [length]
      simp only [tokenAt, Scanner.token]
      omega
    · rw [Ne, ← String.toList_eq_nil_iff, tokenAt_text]
      exact read.ne_nil
    · rw [length]
      exact .nil
    · exact EscapesQuoted.rest all read.balanced

theorem Reads.laid (read : Reads s ts after) (all : EscapesQuoted s.rest)
    (going : breaks ts = 0) : Laid s.column ts after.column ∧
      after.column + s.offset = s.column + after.offset := by
  induction read with
  | done => exact ⟨.nil, rfl⟩
  | @step s t middle ts after step _ ih =>
    have kind : t.kind ≠ .lineBreak := by
      intro feed
      simp [breaks_cons, feed] at going
    rw [breaks_cons, if_neg kind, Nat.zero_add] at going
    obtain ⟨first, moved, all⟩ := step.laid all kind
    obtain ⟨rest, moved'⟩ := ih all going
    exact ⟨first.append rest, by omega⟩

/-- A line that is read without dropping a character and ends outside quotes. -/
structure Plain (line : List Char) : Prop where
  escapes : EscapesQuoted line
  closed : quoted line = false
  feedless : '\n' ∉ line

theorem Plain.reads (plain : Plain line) : ∃ ts, Laid 0 ts line.length ∧ breaks ts = 0 ∧
    ∀ more : List Char, (∀ c ∈ more.head?, endsWord c = true) →
      Reads ⟨0, 0, line ++ more⟩ ts ⟨line.length, line.length, more⟩ := by
  obtain ⟨escapes, outside, feedless⟩ := plain
  obtain ⟨ts, taken, left, offset, column, rfl, closed, unfinished, reads⟩ := reads_before line 0 0
  have rest := escapes.of_append_right closed
  rw [quoted_append, closed] at outside
  -- What is left over would be escapes outside quotes or an open string.
  obtain rfl : left = [] := by
    rcases quoted_unfinished unfinished with run | ⟨opened, _⟩
    · exact rest.nil_of_escapes run
    · rw [opened] at outside
      contradiction
  simp only [List.append_nil, List.nil_append] at escapes feedless reads ⊢
  have whole := reads [] (by simp)
  rw [List.append_nil] at whole
  obtain ⟨_, same, place, feeds⟩ := whole.taken
  simp only [List.append_nil] at same
  subst same
  have going : breaks ts = 0 := by
    have none := List.count_eq_zero.mpr feedless
    omega
  obtain ⟨laid, moved⟩ := whole.laid escapes going
  simp only [Nat.zero_add] at place laid moved
  obtain rfl : offset = taken.length := place
  obtain rfl : column = taken.length := moved
  exact ⟨ts, laid, going, reads⟩

/-- The line break after `length` characters. -/
def lineEnd (length : Nat) : Token := tokenAt length length .lineBreak ['\n']

theorem lineEnd_bare (length : Nat) : isBare (lineEnd length).text = false := by
  rw [isBare, lineEnd, tokenAt_text]
  decide

/-- The tokens of a line lie side by side, and a line feed adds one token after them. -/
theorem Plain.scan (plain : Plain line) : Laid 0 (scan line) line.length ∧
    breaks (scan line) = 0 ∧ scan (line ++ ['\n']) = scan line ++ [lineEnd line.length] := by
  obtain ⟨ts, laid, going, reads⟩ := plain.reads
  have feed : Reads ⟨line.length, line.length, ['\n']⟩ [lineEnd line.length]
      ⟨line.length + 1, 0, []⟩ := .step (.of_lexeme .lineBreak) .done
  have alone := (reads [] (by simp)).tokens
  have ended := ((reads ['\n'] (by simp [endsWord_lineFeed])).append feed).tokens
  rw [tokens_end, List.append_nil] at alone ended
  rw [List.append_nil] at alone
  rw [Script.scan, alone, Script.scan, ended]
  exact ⟨laid, going, rfl⟩

theorem Laid.length (laid : Laid start ts stop) :
    start + (ts.flatMap fun t => t.text.toList).length = stop := by
  induction laid with
  | nil => rfl
  | cons _ _ _ _ ih =>
    rw [List.flatMap_cons, List.length_append, String.length_toList, ← ih, Nat.add_assoc]

theorem Laid.last (laid : Laid start ts stop) :
    ∀ u ∈ ts.getLast?, u.columns.last + 1 = stop := by
  induction laid with
  | nil => simp
  | cons _ last _ rest ih =>
    cases rest with
    | nil => simpa using last
    | cons => rwa [List.getLast?_cons_cons]

section
variable {s : Statement} {ss : List Statement}

theorem Laid.columns (laid : Laid start s.tokens stop) (nonempty : s.tokens ≠ []) :
    s.columns.first = start ∧ s.columns.last + 1 = stop ∧ start + s.text.length = stop := by
  have length := laid.length
  rw [← Statement.toList_text, String.length_toList] at length
  have last := laid.last _ (List.getLast?_eq_some_getLast nonempty)
  rw [Statement.columns_eq, List.getLast?_eq_some_getLast nonempty]
  refine ⟨?_, last, length⟩
  generalize s.tokens = ts at laid nonempty
  cases laid with
  | nil => exact absurd rfl nonempty
  | cons first => simpa using first

/-- A statement of a line has as many characters as columns. -/
theorem Laid.text_length (laid : Laid start (ss.flatMap Statement.tokens) stop)
    (nonempty : ∀ s ∈ ss, s.tokens ≠ []) (member : s ∈ ss) :
    s.columns.first + s.text.length = s.columns.last + 1 := by
  obtain ⟨above, below, rfl⟩ := List.append_of_mem member
  rw [List.flatMap_append, List.flatMap_cons] at laid
  obtain ⟨_, _, right⟩ := laid.split
  obtain ⟨_, here, _⟩ := right.split
  obtain ⟨first, last, length⟩ := here.columns (nonempty s member)
  omega

/-- The statements of a line hold all its columns. -/
theorem Laid.held (laid : Laid start (ss.flatMap Statement.tokens) stop)
    (nonempty : ∀ s ∈ ss, s.tokens ≠ []) (after : start ≤ column) (before : column < stop) :
    ∃ s ∈ ss, s.columns.first ≤ column ∧ column ≤ s.columns.last := by
  induction ss generalizing start with
  | nil =>
    cases laid
    omega
  | cons s ss ih =>
    obtain ⟨middle, left, right⟩ := laid.split
    obtain ⟨first, last, _⟩ := left.columns (nonempty s List.mem_cons_self)
    by_cases here : column < middle
    · exact ⟨s, List.mem_cons_self, by omega, by omega⟩
    · obtain ⟨s, member, held⟩ := ih right
        (fun s member => nonempty s (List.mem_cons_of_mem _ member)) (by omega)
      exact ⟨s, List.mem_cons_of_mem _ member, held⟩

end

/-- `t` joins a statement that ends where `t` starts, or leaves the statement as it is. -/
inductive Grows (t : Token) (s : Statement) : Statement → Prop where
  | same : Grows t s s
  | more : s.nodes ≠ [] → s.columns.last + 1 = t.columns.first →
      Grows t s { s with nodes := s.nodes ++ [.token t] }

theorem Grows.cons (grows : Grows t s s') (u : Token) :
    Grows t { s with nodes := .token u :: s.nodes } { s' with nodes := .token u :: s'.nodes } := by
  cases grows with
  | same => exact .same
  | more nonempty ends =>
    refine .more (List.cons_ne_nil _ _) ?_
    obtain ⟨node, nodes, same⟩ := List.exists_cons_of_ne_nil nonempty
    simpa [Statement.columns, same] using ends

/-- One more token after the others joins the last statement or makes one. -/
theorem Splits.grow (splits : Splits line ts ss)
    (ends : ∀ u ∈ ts.getLast?, u.columns.last + 1 = t.columns.first) :
    ∃ grown extra, List.Forall₂ (Grows t) ss grown ∧ Splits line (ts ++ [t]) (grown ++ extra) := by
  induction splits with
  | @nil line => exact ⟨[], [⟨line, [.token t]⟩], .nil, .last⟩
  | @last line u =>
    cases separator : u.isSeparator with
    | true => exact ⟨_, _, .cons .same .nil, .close separator .last⟩
    | false => exact ⟨_, [], .cons (.more (by simp) (ends u rfl)) .nil, .join separator .last⟩
  | close separator rest ih =>
    rw [rest.getLast?_cons] at ends
    obtain ⟨_, extra, related, splits⟩ := ih ends
    cases related with
    | cons grows related =>
      exact ⟨_, extra, .cons .same (.cons grows related), .close separator splits⟩
  | join going rest ih =>
    rw [rest.getLast?_cons] at ends
    obtain ⟨_, extra, related, splits⟩ := ih ends
    cases related with
    | cons grows related => exact ⟨_, extra, .cons (grows.cons _) related, .join going splits⟩

theorem Grows.merge (grows : Grows t s s') (bare : isBare t.text = false) :
    Grows t s.merge s'.merge := by
  cases grows with
  | same => exact .same
  | more nonempty ends =>
    have merged := (merges_merge s).concat bare
    rw [merged.merge (s := { s with nodes := s.nodes ++ [.token t] })]
    exact .more (merge_nodes_ne_nil nonempty) (by simpa using ends)

/-- A line feed after a line leaves its statements where they are. -/
theorem Plain.statements (plain : Plain line) : ∃ grown extra,
    List.Forall₂ (Grows (lineEnd line.length)) (statements (String.ofList line)) grown ∧
      statements (String.ofList (line ++ ['\n'])) = grown ++ extra := by
  obtain ⟨laid, _, ended⟩ := plain.scan
  obtain ⟨grown, extra, related, splits⟩ :=
    (splits_split 0 (Script.scan line)).grow (t := lineEnd line.length) laid.last
  refine ⟨mergeAll grown, mergeAll extra, ?_, ?_⟩
  · simp only [Script.statements, tokens_eq_scan, String.toList_ofList, mergeAll,
      List.forall₂_map_left_iff, List.forall₂_map_right_iff]
    exact related.imp fun _ _ grows => grows.merge (lineEnd_bare _)
  · rw [Script.statements, tokens_eq_scan, String.toList_ofList, ended, splits.eq]
    exact List.map_append

end KeyScript.Script
