import Mathlib.Data.List.Basic
import KeyScript.Proofs.Script.Partition
import KeyScript.Proofs.Script.WordScan

/-! Commands written out and planned again. An argument of a plan is one token wherever
a blank or a terminator follows it, except for an open string and the backslashes at the
end of a text: these come last, so they are written last. -/
namespace KeyScript.Script

/-- The arguments among the tokens. -/
def argsOf (ts : List Token) : List String := ts.flatMap fun t => (Node.token t).args

theorem argsOf_cons (t : Token) (ts : List Token) :
    argsOf (t :: ts) = (Node.token t).args ++ argsOf ts := List.flatMap_cons

theorem argsOf_append (ts us : List Token) : argsOf (ts ++ us) = argsOf ts ++ argsOf us :=
  List.flatMap_append

theorem token_args_cases (t : Token) :
    ((Node.token t).args = [] ∧ (t.isBlank = true ∨ t.isSeparator = true)) ∨
    ((Node.token t).args = [t.text] ∧ t.isBlank = false ∧ t.isSeparator = false) := by
  cases blank : t.isBlank <;> cases separator : t.isSeparator <;>
    simp [Node.args, blank, separator]

theorem token_of_args {t : Token} (arg : (Node.token t).args = [word]) :
    t.text = word ∧ t.isSeparator = false := by
  rcases token_args_cases t with ⟨none, _⟩ | ⟨one, _, going⟩
  · rw [none] at arg
    contradiction
  · rw [one] at arg
    exact ⟨List.singleton_inj.mp arg, going⟩

theorem argsOf_unbroken (going : ∀ t ∈ ts, t.isSeparator = false) :
    argsOf ts = (ts.filter (!·.isBlank)).map (·.text) := by
  induction ts with
  | nil => rfl
  | cons t ts ih =>
    obtain ⟨first, later⟩ := List.forall_mem_cons.mp going
    rw [argsOf_cons, ih later]
    rcases token_args_cases t with ⟨none, blank | separator⟩ | ⟨one, solid, _⟩
    · rw [none, List.filter_cons_of_neg (by simp [blank]), List.nil_append]
    · rw [first] at separator
      contradiction
    · rw [one, List.filter_cons_of_pos (by simp [solid]), List.map_cons, List.singleton_append]

/-- The arguments of a statement are those among its tokens, whatever was merged. -/
theorem Ended.args (ended : Ended mark nodes) :
    nodes.flatMap Node.args = argsOf (nodes.flatMap Node.tokens) := by
  have apart : ∀ node ∈ nodes, node.args = argsOf node.tokens := by
    intro node member
    cases node with
    | token t => simp [argsOf, Node.tokens]
    | compound container more =>
      refine (argsOf_unbroken fun t part => ?_).symm
      obtain ⟨before, after, rfl⟩ := List.append_of_mem member
      cases separator : t.isSeparator with
      | false => rfl
      | true =>
        have bare := (ended.last part separator).1
        contradiction
  rw [argsOf, List.flatMap_assoc]
  exact List.flatMap_congr apart

theorem plan_eq_argsOf (text : String) : plan text =
    ((statements text).map fun s => (⟨argsOf s.tokens⟩ : Command)).filter (!·.isEmpty) := by
  have args : ∀ s ∈ statements text, Command.ofStatement s = ⟨argsOf s.tokens⟩ := by
    intro s member
    obtain ⟨mark, ended⟩ := (statements_ended text).2 s member
    rw [Command.ofStatement, ended.args]
    rfl
  rw [plan_eq_ofStatements, Command.ofStatements, List.map_congr_left args]

/-- In front of `tail` the characters of `word` are one token, and the token is an argument. -/
def StandsBefore (tail : List Char) (word : String) : Prop :=
  ∀ offset column, ∃ t offset' column', (Node.token t).args = [word] ∧
    Step ⟨offset, column, word.toList ++ tail⟩ t ⟨offset', column', tail⟩

/-- A word or a closed string: one token in front of everything that ends a word. -/
def Whole (word : String) : Prop :=
  ∀ tail : List Char, (∀ c ∈ tail.head?, endsWord c = true) → StandsBefore tail word

theorem Lexeme.stands {word : String} (read : Lexeme kind chars tail)
    (arg : (Node.token (tokenAt offset column kind chars)).args = [word]) :
    StandsBefore tail word := by
  intro offset' column'
  have same : word.toList = chars := by rw [← (token_of_args arg).1, tokenAt_text]
  refine ⟨tokenAt offset' column' kind chars, offset' + chars.length,
    columnAfter kind column' chars.length, arg, ?_⟩
  rw [same]
  exact .of_lexeme read

/-- A lexeme with something after it stays one in front of all that ends a word. -/
theorem Lexeme.move (read : Lexeme kind chars tail) (more : tail ≠ [])
    (stop : ∀ c ∈ tail'.head?, endsWord c = true) : Lexeme kind chars tail' := by
  cases read with
  | lineBreak => exact .lineBreak
  | blank blank feed => exact .blank blank feed
  | terminator => exact .terminator
  | closed unquoted => exact .closed unquoted
  | unclosed => exact absurd rfl more
  | word nonempty inside _ => exact .word nonempty inside stop

/-- An argument that is read can be read again at the end of a text, and anywhere in
front of the end when it was read there. -/
theorem Step.argument (step : Step s t after) (arg : (Node.token t).args = [word]) :
    StandsBefore [] word ∧ (after.rest ≠ [] → Whole word) := by
  cases step with
  | @trailing escapes offset column nonempty all =>
    refine ⟨fun offset' column' => ?_, fun more => absurd rfl more⟩
    obtain rfl : String.ofList escapes = word := List.singleton_inj.mp arg
    refine ⟨tokenAt offset' column' .unknown escapes, offset' + escapes.length,
      column' + escapes.length, rfl, ?_⟩
    rw [String.toList_ofList, List.append_nil]
    exact .trailing nonempty all
  | @lexeme escapes kind chars tail offset column all read =>
    refine ⟨?_, fun more tail' stop => (read.move more stop).stands arg⟩
    by_cases more : tail = []
    · subst more
      exact read.stands arg
    · have alone : Lexeme kind chars [] := read.move more (by simp)
      exact alone.stands arg

/-- Arguments that can be written with blanks between them and read again. -/
inductive Legible : List String → Prop where
  | nil : Legible []
  | last : StandsBefore [] word → Legible [word]
  | cons : Whole word → Legible words → Legible (word :: words)

theorem Reads.legible (read : Reads s ts after) (ended : after.rest = []) :
    Legible (argsOf ts) := by
  induction read with
  | done => exact .nil
  | @step s t middle ts after step read ih =>
    have rest := ih ended
    rw [argsOf_cons]
    rcases token_args_cases t with ⟨none, _⟩ | ⟨one, _⟩
    · rwa [none, List.nil_append]
    · obtain ⟨alone, whole⟩ := step.argument one
      rw [one, List.singleton_append]
      by_cases more : middle.rest = []
      · obtain rfl := read.eq_nil_of_end more
        exact .last alone
      · exact .cons (whole more) rest

theorem legible_of_whole (whole : ∀ word ∈ words, Whole word) : Legible words := by
  induction words with
  | nil => exact .nil
  | cons word words ih =>
    obtain ⟨first, later⟩ := List.forall_mem_cons.mp whole
    exact .cons first (ih later)

theorem Legible.split (legible : Legible (words ++ more)) (nonempty : more ≠ []) :
    (∀ word ∈ words, Whole word) ∧ Legible more := by
  induction words with
  | nil => exact ⟨by simp, legible⟩
  | cons word words ih =>
    rw [List.cons_append] at legible
    generalize later : words ++ more = rest at legible
    cases legible with
    | last => exact absurd (List.append_eq_nil_iff.mp later).2 nonempty
    | cons whole legible =>
      obtain ⟨all, last⟩ := ih (later ▸ legible)
      exact ⟨List.forall_mem_cons.mpr ⟨whole, all⟩, last⟩

theorem Legible.alone (legible : Legible [word]) : StandsBefore [] word := by
  cases legible with
  | last alone => exact alone
  | cons whole _ => exact whole [] (by simp)

/-- The line of a command is read word by word, with blanks between. -/
theorem reads_args (whole : ∀ word ∈ words, Whole word) (last : StandsBefore tail word)
    (offset column : Nat) : ∃ ts offset' column', (∀ t ∈ ts, t.isSeparator = false) ∧
      argsOf ts = words ++ [word] ∧
      Reads ⟨offset, column, (" ".intercalate (words ++ [word])).toList ++ tail⟩ ts
        ⟨offset', column', tail⟩ := by
  induction words generalizing offset column with
  | nil =>
    obtain ⟨t, offset', column', arg, step⟩ := last offset column
    refine ⟨[t], offset', column', ?_, by simpa [argsOf] using arg, ?_⟩
    · simpa using (token_of_args arg).2
    · simpa using Reads.step step .done
  | cons first words ih =>
    obtain ⟨here, later⟩ := List.forall_mem_cons.mp whole
    -- The blank that follows the first word is read as a token of its own.
    obtain ⟨t, offset₁, column₁, arg, step⟩ :=
      here (' ' :: ((" ".intercalate (words ++ [word])).toList ++ tail)) (by rintro c ⟨⟩; decide)
        offset column
    have blank : Step ⟨offset₁, column₁, ' ' :: ((" ".intercalate (words ++ [word])).toList ++ tail)⟩
        (tokenAt offset₁ column₁ .blank [' ']) ⟨offset₁ + 1, column₁ + 1, _⟩ :=
      .of_lexeme (.blank (by decide) (by decide))
    obtain ⟨ts, offset', column', going, args, read⟩ := ih later (offset₁ + 1) (column₁ + 1)
    refine ⟨t :: tokenAt offset₁ column₁ .blank [' '] :: ts, offset', column', ?_, ?_, ?_⟩
    · have solid := (token_of_args arg).2
      exact List.forall_mem_cons.mpr ⟨solid, List.forall_mem_cons.mpr ⟨rfl, going⟩⟩
    · have skipped : (Node.token (tokenAt offset₁ column₁ .blank [' '])).args = [] := rfl
      rw [argsOf_cons, argsOf_cons, arg, skipped, args]
      rfl
    · obtain ⟨next, rest, same⟩ := List.exists_cons_of_ne_nil (l := words ++ [word]) (by simp)
      rw [same] at step blank read
      rw [List.cons_append, same, String.intercalate_cons_cons]
      simp only [String.toList_append, List.append_assoc]
      exact .step step (.step blank read)

theorem splits_single (nonempty : ts ≠ []) (going : ∀ t ∈ ts.dropLast, t.isSeparator = false) :
    Splits line ts [⟨line, ts.map .token⟩] := by
  induction ts with
  | nil => contradiction
  | cons t ts ih =>
    cases ts with
    | nil => exact .last
    | cons u ts =>
      obtain ⟨first, later⟩ := List.forall_mem_cons.mp going
      exact .join first (ih (by simp) later)

theorem statement_tokens_map (line : Nat) (ts : List Token) :
    Statement.tokens ⟨line, ts.map .token⟩ = ts :=
  flatMap_tokens_map ts

/-- Commands that can be written one after the other and read again. -/
structure Writable (commands : List Command) : Prop where
  nonempty : ∀ c ∈ commands, c.args ≠ []
  legible : Legible (commands.flatMap Command.args)

theorem flatMap_args_filter (commands : List Command) :
    (commands.filter (!·.isEmpty)).flatMap Command.args = commands.flatMap Command.args := by
  induction commands with
  | nil => rfl
  | cons c commands ih =>
    rw [List.flatMap_cons, ← ih]
    cases empty : c.isEmpty with
    | true =>
      have none : c.args = [] := List.isEmpty_iff.mp empty
      rw [List.filter_cons_of_neg (by simp [empty]), none, List.nil_append]
    | false => rw [List.filter_cons_of_pos (by simp [empty]), List.flatMap_cons]

/-- The arguments of a plan are those among the tokens of the text. -/
theorem flatMap_args_plan (text : String) :
    (plan text).flatMap Command.args = argsOf (tokens text) := by
  rw [plan_eq_argsOf, flatMap_args_filter, List.flatMap_map, ← tokens_statements, argsOf,
    List.flatMap_assoc]
  rfl

theorem writable_plan (text : String) : Writable (plan text) := by
  refine ⟨fun c member empty => ?_, ?_⟩
  · rw [plan_eq_argsOf] at member
    have kept := (List.mem_filter.mp member).2
    simp [Command.isEmpty, empty] at kept
  · obtain ⟨offset, column, read⟩ := reads_tokens (Scanner.start text)
    rw [flatMap_args_plan]
    exact read.legible rfl

theorem Writable.single (writable : Writable commands) (member : c ∈ commands) :
    Writable [c] := by
  obtain ⟨above, below, rfl⟩ := List.append_of_mem member
  refine ⟨by simpa using writable.nonempty c member, ?_⟩
  have legible := writable.legible
  rw [List.flatMap_append, List.flatMap_cons] at legible
  have some : c.args ++ below.flatMap Command.args ≠ [] := by
    simp [writable.nonempty c member]
  have here := (legible.split some).2
  rw [List.flatMap_singleton]
  by_cases more : below.flatMap Command.args = []
  · rwa [more, List.append_nil] at here
  · exact legible_of_whole (here.split more).1

/-- A command in front of another is read up to its terminator. -/
theorem reads_terminated (whole : ∀ arg ∈ words ++ [word], Whole arg) (rest : List Char)
    (offset column : Nat) : ∃ ts t offset' column', (∀ u ∈ ts, u.isSeparator = false) ∧
      t.isSeparator = true ∧ argsOf (ts ++ [t]) = words ++ [word] ∧
      Reads ⟨offset, column, (" ".intercalate (words ++ [word])).toList ++ ';' :: rest⟩ (ts ++ [t])
        ⟨offset', column', rest⟩ := by
  obtain ⟨front, last⟩ := List.forall_mem_append.mp whole
  have stop : ∀ c ∈ (';' :: rest).head?, endsWord c = true := by
    rintro c ⟨⟩
    decide
  obtain ⟨ts, offset', column', going, args, read⟩ :=
    reads_args front (last word List.mem_cons_self _ stop) offset column
  have ended : Step ⟨offset', column', ';' :: rest⟩ (tokenAt offset' column' .terminator [';'])
      ⟨offset' + 1, column' + 1, rest⟩ := .of_lexeme .terminator
  refine ⟨ts, _, _, _, going, rfl, ?_, read.append (.step ended .done)⟩
  have none : argsOf [tokenAt offset' column' .terminator [';']] = [] := rfl
  rw [argsOf_append, none, args, List.append_nil]

/-- Commands written with terminators between them are read as one statement each. -/
theorem Writable.reads (writable : Writable commands) (offset column line : Nat) :
    ∃ ts ss offset' column', Splits line ts ss ∧
      (ss.map fun s => (⟨argsOf s.tokens⟩ : Command)) = commands ∧
      Reads ⟨offset, column, (";".intercalate (commands.map Command.text)).toList⟩ ts
        ⟨offset', column', []⟩ := by
  induction commands generalizing offset column line with
  | nil => exact ⟨[], [], offset, column, .nil, rfl, .done⟩
  | cons c commands ih =>
    obtain ⟨some, later⟩ := List.forall_mem_cons.mp writable.nonempty
    have legible := writable.legible
    rw [List.flatMap_cons] at legible
    obtain ⟨words, word, args⟩ := (List.eq_nil_or_concat c.args).resolve_left some
    rw [List.concat_eq_append] at args
    have text : c.text = " ".intercalate (words ++ [word]) := by rw [Command.text, args]
    cases commands with
    | nil =>
      -- The end of the text follows, so the last argument may be open.
      rw [List.flatMap_nil, List.append_nil, args] at legible
      obtain ⟨whole, last⟩ := legible.split (by simp)
      obtain ⟨ts, offset', column', going, same, read⟩ :=
        reads_args whole last.alone offset column
      have nonempty : ts ≠ [] := by
        rintro rfl
        simp [argsOf] at same
      refine ⟨ts, [⟨line, ts.map .token⟩], offset', column', splits_single nonempty
        fun t member => going t (List.dropLast_subset _ member), ?_, ?_⟩
      · rw [List.map_singleton, statement_tokens_map, same, ← args]
      · rw [List.append_nil] at read
        rwa [List.map_singleton, String.intercalate_singleton, text]
    | cons d more =>
      -- Other arguments follow, so those of this command are whole.
      have below : (d :: more).flatMap Command.args ≠ [] := by
        simp [later d List.mem_cons_self]
      obtain ⟨whole, rest⟩ := legible.split below
      rw [args] at whole
      obtain ⟨ts, t, offset₁, column₁, going, separator, same, read⟩ :=
        reads_terminated whole (";".intercalate ((d :: more).map Command.text)).toList offset column
      obtain ⟨us, ss, offset', column', splits, commands, reads⟩ :=
        ih ⟨later, rest⟩ offset₁ column₁ (line + breaks (ts ++ [t]))
      have first : Splits line (ts ++ [t]) [⟨line, (ts ++ [t]).map .token⟩] :=
        splits_single (by simp) (by simpa using going)
      refine ⟨(ts ++ [t]) ++ us, _, offset', column',
        first.append (by simpa using separator) splits, ?_, ?_⟩
      · rw [List.map_append, List.map_singleton, statement_tokens_map, same, commands, ← args]
        rfl
      · rw [List.map_cons, List.map_cons, String.intercalate_cons_cons, text]
        rw [String.toList_append, String.toList_append, List.append_assoc (String.toList _)]
        exact read.append reads

theorem plan_written (writable : Writable commands) :
    plan (";".intercalate (commands.map Command.text)) = commands := by
  obtain ⟨ts, ss, offset, column, splits, same, read⟩ := writable.reads 0 0 0
  have scanned : tokens (";".intercalate (commands.map Command.text)) = ts := by
    rw [tokens_eq_scan, scan, read.tokens, tokens_end, List.append_nil]
  rw [plan_eq_argsOf, statements, scanned, splits.eq, mergeAll, List.map_map]
  simp only [Function.comp_def, tokens_merge]
  rw [same, List.filter_eq_self]
  intro c member
  simpa [Command.isEmpty] using writable.nonempty c member

/-- A plan that is written out is planned again as it was, and so is each of its
commands alone. -/
theorem plan_text_plan (text : String) :
    plan (";".intercalate ((plan text).map Command.text)) = plan text ∧
      ∀ c ∈ plan text, plan c.text = [c] := by
  have writable := writable_plan text
  refine ⟨plan_written writable, fun c member => ?_⟩
  have alone := plan_written (writable.single member)
  rwa [List.map_singleton, String.intercalate_singleton] at alone

end KeyScript.Script
