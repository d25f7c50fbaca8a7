import KeyScript.Proofs.Completion.Resolving
import KeyScript.Proofs.Script.Rendering
import KeyScript.Proofs.Script.Seams

/-! Typing at the end of a document. Behind a separator what is typed is a statement of
its own. On its line every statement of the document ends before it, so it is the one
that holds the character in front of the cursor. -/
namespace KeyScript.Script

theorem Step.column_le (step : Step s t after) (going : t.kind ≠ .lineBreak) :
    s.column ≤ after.column := by
  cases step with
  | trailing => exact Nat.le_add_right _ _
  | @lexeme escapes kind chars tail offset column =>
    have going : kind ≠ .lineBreak := going
    simp only [columnAfter, if_neg going]
    omega

/-- On one line every token ends in front of the scanner. -/
theorem Reads.columns_lt (read : Reads s ts after) (going : breaks ts = 0) :
    s.column ≤ after.column ∧ ∀ t ∈ ts, t.columns.last < after.column := by
  induction read with
  | done => simp
  | @step s t middle ts after step _ ih =>
    have kind : t.kind ≠ .lineBreak := by
      intro feed
      simp [breaks_cons, feed] at going
    rw [breaks_cons, if_neg kind, Nat.zero_add] at going
    obtain ⟨onward, later⟩ := ih going
    have first := step.column_le kind
    have ended := step.column_after
    rw [if_neg kind] at ended
    exact ⟨by omega, List.forall_mem_cons.mpr ⟨by omega, later⟩⟩

theorem Reads.last_column (read : Reads s ts after) (last : ts.getLast? = some t)
    (going : t.isSeparator = false) : t.columns.last + 1 = after.column := by
  rw [read.column_after last, if_neg (kind_of_not_separator going)]

/-- A statement on the last line ends in front of the scanner. -/
theorem columns_lt_of_last_line (read : Reads start (tokens d) after) (member : s ∈ statements d)
    (line : s.line = breaks (tokens d)) : s.columns.last < after.column := by
  obtain ⟨above, below, cut⟩ := List.append_of_mem member
  have all := tokens_cut cut
  rw [statements_line_below cut, all, breaks_append] at line
  rw [all] at read
  obtain ⟨middle, _, rest⟩ := read.split
  have last := List.getLast?_eq_some_getLast (statements_tokens_ne_nil s member)
  have within := (rest.columns_lt (by omega)).2 _
    (List.mem_append_left _ (List.mem_of_getLast? last))
  simpa [s.columns_eq, last] using within

end KeyScript.Script

namespace KeyScript.Completion
open Script

/-- A command can be typed behind the document: it is empty or its last token is a
separator. No string in it holds a line feed. -/
structure Ready (d : String) : Prop where
  ends : ∀ t ∈ (tokens d).getLast?, t.isSeparator = true
  strings : ∀ t ∈ tokens d, t.kind = .string → '\n' ∉ t.text.toList

theorem Ready.reads (ready : Ready d) (more : List Char) :
    Reads ⟨0, 0, d.toList ++ more⟩ (tokens d) ⟨d.length, Text.column d.toList, more⟩ := by
  obtain ⟨column, read⟩ := reads_closed ready.ends more
  have none := quotedFeeds_eq_zero_iff.mpr ready.strings
  have same : column = Text.column ([] ++ d.toList) := read.column_eq none rfl rfl
  rw [List.nil_append] at same
  rwa [← same]

theorem Ready.line (ready : Ready d) : d.toList.count '\n' = breaks (tokens d) := by
  rw [count_lineFeed, quotedFeeds_eq_zero_iff.mpr ready.strings, Nat.add_zero]

/-- `ts` are the tokens of `cs` at the end of `d`. They hold no separator, and no
character of `cs` is dropped. -/
structure Typed (d : String) (cs : List Char) (ts : List Token) : Prop where
  reads : ∃ offset column, Reads ⟨d.length, Text.column d.toList, cs⟩ ts ⟨offset, column, []⟩
  going : ∀ t ∈ ts, t.isSeparator = false
  plain : ∀ c ∈ cs, isEscape c = false

/-- The statement that is typed. -/
def typedStatement (d : String) (ts : List Token) : Statement :=
  Statement.merge ⟨breaks (tokens d), ts.map .token⟩

theorem tokens_typedStatement (d : String) (ts : List Token) :
    (typedStatement d ts).tokens = ts := by
  rw [typedStatement, tokens_merge, statement_tokens_map]

theorem nodes_typedStatement (d : String) (merged : Merges (ts.map .token) out) :
    (typedStatement d ts).nodes = out := by
  rw [typedStatement, Merges.merge (s := ⟨breaks (tokens d), ts.map .token⟩) merged]

namespace Typed

theorem escapes (typed : Typed d cs ts) : EscapesQuoted cs := by
  intro i within found
  exact absurd (typed.plain _ (List.mem_of_getElem? found)) (by decide)

theorem breaks_eq (typed : Typed d cs ts) : breaks ts = 0 := by
  rw [breaks, List.countP_eq_zero]
  intro t member
  simpa using kind_of_not_separator (typed.going t member)

/-- The characters that are typed, as the tokens have them. -/
theorem chars (typed : Typed d cs ts) : ts.flatMap (fun t => t.text.toList) = cs := by
  obtain ⟨offset, column, read⟩ := typed.reads
  obtain ⟨taken, whole, tiled⟩ := read.tiled
  obtain rfl : cs = taken := by simpa using whole
  exact (tiled.abutting typed.escapes).2.2

theorem laid (typed : Typed d cs ts) :
    Laid (Text.column d.toList) ts (Text.column d.toList + cs.length) := by
  obtain ⟨offset, column, read⟩ := typed.reads
  obtain ⟨laid, _⟩ := read.laid typed.escapes typed.breaks_eq
  have length := laid.length
  rw [typed.chars] at length
  rwa [length]

theorem ne_nil (typed : Typed d cs ts) (some : cs ≠ []) : ts ≠ [] := by
  rintro rfl
  exact some typed.chars.symm

theorem statements_eq (ready : Ready d) (typed : Typed d cs ts) (some : cs ≠ []) :
    statements (d ++ String.ofList cs) = statements d ++ [typedStatement d ts] := by
  obtain ⟨offset, column, read⟩ := typed.reads
  have joined : tokens (d ++ String.ofList cs) = tokens d ++ ts := by
    rw [tokens_eq_scan, String.toList_append, String.toList_ofList, scan,
      ((ready.reads cs).append read).tokens, tokens_end, List.append_nil]
  have own : Splits (0 + breaks (tokens d)) ts [⟨0 + breaks (tokens d), ts.map .token⟩] :=
    splits_single (typed.ne_nil some) fun t member => typed.going t (List.dropLast_subset _ member)
  rw [statements, joined, ((splits_split 0 (tokens d)).append ready.ends own).eq, mergeAll,
    List.map_append, Nat.zero_add]
  rfl

theorem text_eq (typed : Typed d cs ts) : (typedStatement d ts).text.toList = cs := by
  rw [Statement.toList_text, tokens_typedStatement, typed.chars]

/-- At the end of what is typed the typed statement decides. -/
theorem contextAt_end (ready : Ready d) (typed : Typed d cs ts) (length : cs.length = n + 1)
    (triggers : Triggers) : contextAt triggers (d ++ String.ofList cs)
        (d.toList.count '\n') (Text.column d.toList + cs.length) =
      triggers.classifyAt ⟨typedStatement d ts, n + 1, .some (Text.column d.toList + n)⟩
        (Text.column d.toList + n) := by
  have some : cs ≠ [] := List.ne_nil_of_length_pos (by omega)
  have laid := typed.laid
  rw [← tokens_typedStatement d ts] at laid
  obtain ⟨first, last, _⟩ :=
    laid.columns (by rw [tokens_typedStatement]; exact typed.ne_nil some)
  have above : (statements d).find?
      (holds (breaks (tokens d)) (Text.column d.toList + n)) = none := by
    rw [List.find?_eq_none]
    intro s member held
    obtain ⟨line, _, before⟩ := holds_iff.mp held
    have ended : s.columns.last < Text.column d.toList :=
      columns_lt_of_last_line (ready.reads []) member line
    omega
  have held : holds (breaks (tokens d)) (Text.column d.toList + n) (typedStatement d ts) = true :=
    holds_iff.mpr ⟨rfl, by omega, by omega⟩
  have found : (statements (d ++ String.ofList cs)).find?
      (holds (breaks (tokens d)) (Text.column d.toList + n)) = .some (typedStatement d ts) := by
    rw [typed.statements_eq ready some, List.find?_append, above]
    simp [held]
  have offset : Text.column d.toList + n - (typedStatement d ts).columns.first + 1 = n + 1 := by
    omega
  rw [ready.line, length, ← Nat.add_assoc, contextAt_held found, offset]

theorem not_fresh (typed : Typed d cs ts) (column : Nat) :
    ¬ Fresh (typedStatement d ts) column := by
  rintro ⟨node, ⟨earlier, later, order, _⟩, terminator⟩
  cases node with
  | compound => contradiction
  | token t =>
    have member : t ∈ (typedStatement d ts).tokens := by
      rw [Statement.tokens, order]
      simp [Node.tokens]
    rw [tokens_typedStatement] at member
    have kind : t.kind = .terminator := by simpa [Node.isTerminator] using terminator
    have going := typed.going t member
    simp [Token.isSeparator, kind] at going

end Typed

/-- Characters that may stand between two words of a line. -/
def Gap (cs : List Char) : Prop := ∀ c ∈ cs, Text.isBlank c = true ∧ c ≠ '\n'

theorem gap_space : Gap [' '] := by
  simp [Gap, Text.isBlank]

theorem reads_gap (gap : Gap cs) (offset column : Nat) (tail : List Char) :
    ∃ ts, (∀ t ∈ ts, t.isBlank = true) ∧
      Reads ⟨offset, column, cs ++ tail⟩ ts ⟨offset + cs.length, column + cs.length, tail⟩ := by
  induction cs generalizing offset column with
  | nil => exact ⟨[], by simp, .done⟩
  | cons c cs ih =>
    obtain ⟨⟨blank, feed⟩, later⟩ := List.forall_mem_cons.mp gap
    obtain ⟨ts, all, read⟩ := ih later (offset + 1) (column + 1)
    have step : Step ⟨offset, column, c :: (cs ++ tail)⟩ (tokenAt offset column .blank [c])
        ⟨offset + 1, column + 1, cs ++ tail⟩ := .of_lexeme (.blank blank feed)
    refine ⟨tokenAt offset column .blank [c] :: ts, List.forall_mem_cons.mpr ⟨rfl, all⟩, ?_⟩
    rw [List.length_cons, Nat.add_comm cs.length, ← Nat.add_assoc, ← Nat.add_assoc]
    exact .step step read

theorem going_of_blank {ts : List Token} (all : ∀ t ∈ ts, t.isBlank = true) :
    ∀ t ∈ ts, t.isSeparator = false := by
  intro t member
  have kind : t.kind = .blank := by simpa [Token.isBlank] using all t member
  simp [Token.isSeparator, kind]

theorem Gap.plain (gap : Gap cs) : ∀ c ∈ cs, isEscape c = false :=
  fun c member => (isBlank_signs (gap c member).1).2.2

theorem Gap.stops (gap : Gap cs) (some : cs ≠ []) (tail : List Char) :
    ∀ c ∈ (cs ++ tail).head?, endsWord c = true := by
  cases cs with
  | nil => contradiction
  | cons b cs =>
    rintro c ⟨⟩
    simp [endsWord, (gap b List.mem_cons_self).1]

/-- Characters that a word can hold. -/
def Bare (cs : List Char) : Prop := ∀ c ∈ cs, endsWord c = false

theorem Bare.plain (bare : Bare cs) : ∀ c ∈ cs, isEscape c = false :=
  fun c member => (endsWord_false (bare c member)).2.2.2

theorem Bare.subset (bare : Bare cs) (sub : ds ⊆ cs) : Bare ds :=
  fun c member => bare c (sub member)

theorem bare_of_isBare (bare : isBare word = true) : Bare word.toList := by
  simpa [isBare, Bare] using bare

/-- A token of a word. -/
def Solid (t : Token) : Prop := t.isBlank = false ∧ t.isSeparator = false

theorem reads_word (some : word ≠ []) (bare : Bare word)
    (stop : ∀ c ∈ tail.head?, endsWord c = true) (offset column : Nat) :
    ∃ t, Solid t ∧ t.text = String.ofList word ∧ t.columns.last + 1 = column + word.length ∧
      Reads ⟨offset, column, word ++ tail⟩ [t]
        ⟨offset + word.length, column + word.length, tail⟩ := by
  have step : Step ⟨offset, column, word ++ tail⟩ _ _ := .of_lexeme (.word some bare stop)
  have solid : Solid (tokenAt offset column (wordKind word) word) ∧
      wordKind word ≠ .lineBreak := by
    rcases wordKind_cases word with kind | kind <;> rw [kind] <;> exact ⟨⟨rfl, rfl⟩, nofun⟩
  rw [columnAfter, if_neg solid.2] at step
  have read : Reads _ [_] _ := .step step .done
  exact ⟨_, solid.1, rfl, read.last_column rfl solid.1.2, read⟩

/-- The word in front of the cursor is the last token; there is none behind a blank. -/
theorem reads_last_word (bare : Bare word) (offset column : Nat) : ∃ last : Option Token,
    (∀ t ∈ last, Solid t ∧ t.columns.last + 1 = column + word.length) ∧
      Reads ⟨offset, column, word⟩ last.toList
        ⟨offset + word.length, column + word.length, []⟩ := by
  by_cases empty : word = []
  · subst empty
    exact ⟨none, nofun, .done⟩
  · have stop : ∀ c ∈ ([] : List Char).head?, endsWord c = true := nofun
    obtain ⟨t, solid, _, ends, read⟩ := reads_word empty bare stop offset column
    rw [List.append_nil] at read
    refine ⟨some t, ?_, read⟩
    rintro u ⟨⟩
    exact ⟨solid, ends⟩

theorem merges_option (last : Option Token) :
    Merges (last.toList.map .token) (last.toList.map .token) := by
  cases last with
  | none => exact .nil
  | some t => exact merges_single (.token t)

end KeyScript.Completion
