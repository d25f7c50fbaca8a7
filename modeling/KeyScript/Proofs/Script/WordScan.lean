import KeyScript.Script.Command
import KeyScript.Proofs.Script.Splitting

/-! The language of scripts as one pass over the characters, and the plan of a
script as that pass. The pass knows words, quotes, backslashes and the ends of
commands; it knows no token, statement or compound. -/
namespace KeyScript.Script

/-- What is open between two characters. -/
inductive Fragment where
  | nothing
  | word (chars : List Char)
  | quote (chars : List Char)
  | escapes (chars : List Char)

/-- The commands that have ended, the words of the current one, and what is open. -/
structure WordScan where
  commands : List Command
  args : List String
  fragment : Fragment

namespace WordScan

def start : WordScan := ⟨[], [], .nothing⟩

/-- The current word ends; backslashes are dropped. -/
def endWord (s : WordScan) : WordScan :=
  match s.fragment with
  | .word chars | .quote chars => ⟨s.commands, s.args ++ [String.ofList chars], .nothing⟩
  | .nothing | .escapes _ => { s with fragment := .nothing }

/-- The current command ends; one without words is dropped. -/
def endCommand (s : WordScan) : WordScan :=
  ⟨if s.args.isEmpty then s.commands else s.commands ++ [⟨s.args⟩], [], s.fragment⟩

/-- Between quotes every character up to the closing quote belongs to the word. -/
def inQuote (s : WordScan) (chars : List Char) (c : Char) : WordScan :=
  let longer := { s with fragment := .quote (chars ++ [c]) }
  if c = '"' then longer.endWord else longer

/-- Outside quotes a character ends a word, or opens one, or continues it. -/
def outsideQuote (s : WordScan) (c : Char) : WordScan :=
  if c = ';' ∨ c = '\n' then s.endWord.endCommand
  else if Text.isBlank c then s.endWord
  else if c = '"' then { s.endWord with fragment := .quote [c] }
  else if c = '\\' then
    match s.fragment with
    | .escapes chars => { s with fragment := .escapes (chars ++ [c]) }
    | _ => { s.endWord with fragment := .escapes [c] }
  else
    match s.fragment with
    | .word chars => { s with fragment := .word (chars ++ [c]) }
    | _ => { s.endWord with fragment := .word [c] }

def step (s : WordScan) (c : Char) : WordScan :=
  match s.fragment with
  | .quote chars => s.inQuote chars c
  | _ => s.outsideQuote c

/-- At the end of the text what is open is a word, a run of backslashes too. -/
def finish (s : WordScan) : List Command :=
  let whole := match s.fragment with
    | .escapes chars => { s with fragment := .word chars }
    | _ => s
  whole.endWord.endCommand.commands

/-- The commands of a text in one pass over its characters. -/
def commandsOf (text : String) : List Command := (text.toList.foldl step start).finish

/-- The effect of a whole token, when nothing is open in front of it. -/
def feed (s : WordScan) (t : Token) : WordScan :=
  if t.isSeparator then s.endCommand
  else if t.isBlank then s
  else { s with args := s.args ++ [t.text] }

variable {s : WordScan}

theorem endWord_idle (idle : s.fragment = .nothing) : s.endWord = s := by
  cases s
  simp_all [endWord]

theorem foldl_escapes (seen : List Char) (all : Escapes cs) :
    cs.foldl step { s with fragment := .escapes seen } =
      { s with fragment := .escapes (seen ++ cs) } := by
  induction cs generalizing seen with
  | nil => simp
  | cons c cs ih =>
    obtain ⟨escape, later⟩ := List.forall_mem_cons.mp all
    obtain rfl : c = '\\' := by simpa [isEscape] using escape
    have solid : Text.isBlank '\\' = false := by decide
    rw [List.foldl_cons]
    simp only [step, outsideQuote, solid]
    simpa using ih (seen ++ ['\\']) later

theorem foldl_word (seen : List Char) (inside : ∀ c ∈ cs, endsWord c = false) :
    cs.foldl step { s with fragment := .word seen } =
      { s with fragment := .word (seen ++ cs) } := by
  induction cs generalizing seen with
  | nil => simp
  | cons c cs ih =>
    obtain ⟨first, later⟩ := List.forall_mem_cons.mp inside
    obtain ⟨solid, going, bare, plain⟩ := endsWord_false first
    have feed : c ≠ '\n' := by rintro rfl; exact absurd solid (by decide)
    have noEscape : c ≠ '\\' := by simpa [isEscape] using plain
    rw [List.foldl_cons]
    simp only [step, outsideQuote, solid, going, bare, feed, noEscape]
    simpa using ih (seen ++ [c]) later

theorem foldl_quote (seen : List Char) (unquoted : '"' ∉ cs) :
    cs.foldl step { s with fragment := .quote seen } =
      { s with fragment := .quote (seen ++ cs) } := by
  induction cs generalizing seen with
  | nil => simp
  | cons c cs ih =>
    simp only [List.mem_cons, not_or] at unquoted
    rw [List.foldl_cons]
    simp only [step, inQuote, Ne.symm unquoted.1, if_false]
    simpa using ih (seen ++ [c]) unquoted.2

theorem step_after_escapes (plain : isEscape c = false) :
    step { s with fragment := .escapes seen } c = step { s with fragment := .nothing } c := by
  have noEscape : c ≠ '\\' := by simpa [isEscape] using plain
  simp [step, outsideQuote, endWord, noEscape]

theorem step_after_word (ends : endsWord c = true) :
    step { s with fragment := .word seen } c =
      step { s with args := s.args ++ [String.ofList seen], fragment := .nothing } c := by
  have stops : ¬(c ≠ ';' ∧ c ≠ '\n' ∧ Text.isBlank c = false ∧ c ≠ '"' ∧ c ≠ '\\') := by
    rintro ⟨going, _, solid, bare, plain⟩
    simp [endsWord, isEscape, going, solid, bare, plain] at ends
  simp only [step, outsideQuote, endWord]
  grind

/-- A run of backslashes stays open as it is. -/
theorem foldl_escapes_idle (idle : s.fragment = .nothing) (all : Escapes escapes)
    (nonempty : escapes ≠ []) : escapes.foldl step s = { s with fragment := .escapes escapes } := by
  cases escapes with
  | nil => exact absurd rfl nonempty
  | cons e escapes =>
    obtain ⟨first, later⟩ := List.forall_mem_cons.mp all
    obtain rfl : e = '\\' := by simpa [isEscape] using first
    have opened : step s '\\' = { s with fragment := .escapes ['\\'] } := by
      have solid : Text.isBlank '\\' = false := by decide
      simp [step, outsideQuote, idle, solid, endWord]
    rw [List.foldl_cons, opened, foldl_escapes _ later]
    rfl

/-- Backslashes in front of anything else leave no trace. -/
theorem foldl_drop_escapes (idle : s.fragment = .nothing) (all : Escapes escapes)
    (plain : isEscape c = false) :
    (escapes ++ c :: cs).foldl step s = (c :: cs).foldl step s := by
  by_cases nonempty : escapes = []
  · rw [nonempty, List.nil_append]
  · rw [List.foldl_append, foldl_escapes_idle idle all nonempty, List.foldl_cons,
      step_after_escapes plain, List.foldl_cons, ← idle]

theorem step_quote (idle : s.fragment = .nothing) :
    step s '"' = { s with fragment := .quote ['"'] } := by
  have solid : Text.isBlank '"' = false := by decide
  simp [step, outsideQuote, idle, solid, endWord]

theorem step_word (idle : s.fragment = .nothing) (inside : endsWord c = false) :
    step s c = { s with fragment := .word [c] } := by
  obtain ⟨solid, going, bare, plain⟩ := endsWord_false inside
  have feed : c ≠ '\n' := by rintro rfl; exact absurd solid (by decide)
  have noEscape : c ≠ '\\' := by simpa [isEscape] using plain
  simp [step, outsideQuote, idle, solid, going, bare, feed, noEscape, endWord]

theorem fragment_feed (idle : s.fragment = .nothing) : (s.feed t).fragment = .nothing := by
  simp only [feed]
  split
  · exact idle
  · split <;> exact idle

theorem feed_solid (idle : s.fragment = .nothing) (separator : t.isSeparator = false)
    (blank : t.isBlank = false) :
    s.feed t = { s with args := s.args ++ [t.text], fragment := .nothing } := by
  simp [feed, separator, blank, idle]

/-- Reading a lexeme character by character has the effect of its token. -/
theorem foldl_lexeme (idle : s.fragment = .nothing) (read : Lexeme kind chars tail)
    (offset column : Nat) : ((chars ++ tail).foldl step s).finish =
      (tail.foldl step (s.feed (tokenAt offset column kind chars))).finish := by
  cases read with
  | lineBreak =>
    have same : step s '\n' = s.feed (tokenAt offset column .lineBreak ['\n']) := by
      simp [step, outsideQuote, idle, endWord_idle idle, feed, tokenAt, Scanner.token,
        Token.isSeparator]
    rw [List.cons_append, List.foldl_cons, same, List.nil_append]
  | @blank c _ blank noFeed =>
    have same : step s c = s.feed (tokenAt offset column .blank [c]) := by
      simp [step, outsideQuote, idle, endWord_idle idle, feed, tokenAt, Scanner.token,
        Token.isSeparator, Token.isBlank, blank, noFeed, (isBlank_signs blank).1]
    rw [List.cons_append, List.foldl_cons, same, List.nil_append]
  | terminator =>
    have same : step s ';' = s.feed (tokenAt offset column .terminator [';']) := by
      simp [step, outsideQuote, idle, endWord_idle idle, feed, tokenAt, Scanner.token,
        Token.isSeparator]
    rw [List.cons_append, List.foldl_cons, same, List.nil_append]
  | closed unquoted =>
    rw [feed_solid idle rfl rfl, List.cons_append, List.foldl_cons, step_quote idle,
      List.append_assoc, List.foldl_append, foldl_quote _ unquoted]
    simp [step, inQuote, endWord, tokenAt, Scanner.token]
  | unclosed unquoted =>
    rw [feed_solid idle rfl rfl, List.append_nil, List.foldl_cons, step_quote idle,
      foldl_quote _ unquoted]
    simp [finish, endWord, tokenAt, Scanner.token]
  | word nonempty inside ends =>
    have solid : (tokenAt offset column (wordKind chars) chars).isSeparator = false ∧
        (tokenAt offset column (wordKind chars) chars).isBlank = false := by
      rcases wordKind_cases chars with kind | kind <;> rw [kind] <;> exact ⟨rfl, rfl⟩
    rw [feed_solid idle solid.1 solid.2]
    cases chars with
    | nil => exact absurd rfl nonempty
    | cons c word =>
      obtain ⟨first, later⟩ := List.forall_mem_cons.mp inside
      rw [List.cons_append, List.foldl_cons, step_word idle first, List.foldl_append,
        foldl_word _ later]
      -- The word is still open: the end of the text closes it, or the character that follows.
      cases tail with
      | nil => simp [finish, endWord, tokenAt, Scanner.token]
      | cons d tail =>
        rw [List.foldl_cons, step_after_word (ends d rfl)]
        rfl

/-- The pass over the characters is the pass over the tokens. -/
theorem foldl_reads (read : Reads scanner ts ended) (whole : ended.rest = [])
    (idle : s.fragment = .nothing) :
    (scanner.rest.foldl step s).finish = (ts.foldl feed s).finish := by
  induction read generalizing s with
  | done => simp [whole]
  | step step' _ ih =>
    rw [List.foldl_cons, ← ih whole (fragment_feed idle)]
    cases step' with
    | trailing nonempty all =>
      rw [foldl_escapes_idle idle all nonempty, feed_solid idle rfl rfl]
      simp [finish, endWord, tokenAt, Scanner.token]
    | lexeme all read =>
      obtain ⟨c, cs, same, plain, _⟩ := read.complete
      rw [same, foldl_drop_escapes idle all plain, ← same]
      exact foldl_lexeme idle read _ _

/-- The commands of the statements when words stand before the first one. -/
def continued (args : List String) : List Statement → List Command
  | [] => [⟨args⟩]
  | s :: more => ⟨args ++ (Command.ofStatement s).args⟩ :: more.map Command.ofStatement

theorem continued_nil {rest : List Statement} (nonempty : rest ≠ []) :
    continued [] rest = rest.map Command.ofStatement := by
  cases rest with
  | nil => exact absurd rfl nonempty
  | cons s more => simp [continued]

theorem commands_endCommand (s : WordScan) :
    s.endCommand.commands = s.commands ++ [(⟨s.args⟩ : Command)].filter (!·.isEmpty) := by
  cases empty : s.args.isEmpty <;> simp [endCommand, Command.isEmpty, empty]

theorem finish_idle (idle : s.fragment = .nothing) : s.finish = s.endCommand.commands := by
  simp [finish, idle, endWord_idle idle]

theorem feed_separator (separator : t.isSeparator = true) :
    s.feed t = s.endCommand ∧ (Node.token t).args = [] := by
  simp [feed, Node.args, separator]

theorem feed_joined (going : t.isSeparator = false) :
    s.feed t = { s with args := s.args ++ (Node.token t).args } := by
  cases blank : t.isBlank <;> simp [feed, Node.args, going, blank]

/-- The pass over the tokens gives the commands of the statements. -/
theorem foldl_feed (idle : s.fragment = .nothing) (splits : Splits line ts ss) :
    (ts.foldl feed s).finish = s.commands ++ (continued s.args ss).filter (!·.isEmpty) := by
  induction splits generalizing s with
  | nil => rw [List.foldl_nil, finish_idle idle, commands_endCommand, continued]
  | @last line t =>
    rw [List.foldl_cons, List.foldl_nil, finish_idle (fragment_feed idle), commands_endCommand]
    cases separator : t.isSeparator with
    | true =>
      obtain ⟨ended, noArgs⟩ := feed_separator (s := s) separator
      rw [ended, commands_endCommand]
      simp [endCommand, continued, Command.ofStatement, noArgs, Command.isEmpty]
    | false =>
      rw [feed_joined separator]
      simp [continued, Command.ofStatement]
  | close separator _ ih =>
    obtain ⟨ended, noArgs⟩ := feed_separator (s := s) separator
    rw [List.foldl_cons, ended, ih (s := s.endCommand) idle, commands_endCommand, List.append_assoc,
      ← List.filter_append]
    simp [continued, Command.ofStatement, noArgs, endCommand]
  | @join line t ts first more going _ ih =>
    rw [List.foldl_cons, feed_joined going, ih (s := { s with args := s.args ++ _ }) idle]
    simp [continued, Command.ofStatement]

end WordScan

/-- An element that is a word of the vocabulary gives its words, fused or not. -/
theorem args_of_bare {node : Node} (proper : ∀ t ∈ node.tokens, Proper t) (solid : node.isBlank = false)
    (bare : isBare node.text = true) : node.args = node.words := by
  cases node with
  | compound => rfl
  | token t =>
    have separator : t.isSeparator = false := by
      cases separates : t.isSeparator with
      | false => rfl
      | true =>
        have noWord := proper t (by simp [Node.tokens]) separates
        rw [← Node.text_token, bare] at noWord
        contradiction
    have solid : t.isBlank = false := solid
    simp [Node.args, Node.words, Node.tokens, separator, solid]

/-- Fusing and taking apart again gives the same words in the same order. -/
theorem Merges.args (merged : Merges nodes out)
    (proper : ∀ node ∈ nodes, ∀ t ∈ node.tokens, Proper t) :
    out.flatMap Node.args = nodes.flatMap Node.args := by
  induction merged with
  | nil => rfl
  | keep _ _ ih =>
    rw [List.flatMap_cons, List.flatMap_cons, ih (List.forall_mem_cons.mp proper).2]
  | @fuse container expected blanks node rest out solid known all subword member _ ih =>
    obtain ⟨first, later⟩ := List.forall_mem_cons.mp proper
    have bare := subwords?_bare known
    have opened : (Node.token container).args = (Node.token container).words :=
      args_of_bare first solid (by rw [Node.text_token]; exact bare.1)
    have closed := args_of_bare (later node (by simp)) subword (bare.2 _ member)
    have between : (blanks.map Node.token).flatMap Node.args = [] := by
      rw [List.flatMap_eq_nil_iff]
      intro node inside
      obtain ⟨blank, listed, rfl⟩ := List.mem_map.mp inside
      simp [Node.args, all blank listed]
    have skipped : blanks.filter (!·.isBlank) = [] := by simpa using all
    rw [List.flatMap_cons, List.flatMap_cons, List.flatMap_append, List.flatMap_cons, between, opened,
      closed, ih (fun node inside => later node (by simp [inside]))]
    simp [Node.args, Node.words, Node.tokens, skipped, solid]

theorem ofStatement_merge {s : Statement}
    (proper : ∀ node ∈ s.nodes, ∀ t ∈ node.tokens, Proper t) :
    Command.ofStatement s.merge = Command.ofStatement s := by
  rw [Command.ofStatement, Command.ofStatement, (merges_merge s).args proper]

theorem plan_eq_ofStatements (text : String) :
    plan text = Command.ofStatements (statements text) := by
  by_cases empty : text = ""
  · subst empty
    simp [plan, parse_empty, statements, mergeAll, Command.ofStatements, tokens_eq_scan,
      scan_eq_nil_iff.mpr, split]
  · rw [plan, parse_eq_ok empty]

/-- The plan of a script is what one pass over its characters reads: whatever
becomes of the words between, none is added, lost, joined or moved. -/
theorem plan_eq_commandsOf (text : String) : plan text = WordScan.commandsOf text := by
  obtain ⟨offset, column, read⟩ := reads_tokens (Scanner.start text)
  have proper : ∀ s ∈ split 0 (tokens text), ∀ node ∈ s.nodes, ∀ t ∈ node.tokens, Proper t := by
    intro s member node inside t part
    obtain ⟨u, known, rfl⟩ := (splits_split 0 (tokens text)).token_of_node member inside
    obtain rfl : t = u := by simpa [Node.tokens] using part
    exact read.proper t known
  have merged : (statements text).map Command.ofStatement =
      (split 0 (tokens text)).map Command.ofStatement := by
    rw [statements, mergeAll, List.map_map]
    exact List.map_congr_left fun s member => ofStatement_merge (proper s member)
  calc plan text
      = ((split 0 (tokens text)).map Command.ofStatement).filter (!·.isEmpty) := by
        rw [plan_eq_ofStatements, Command.ofStatements, merged]
    _ = (WordScan.continued [] (split 0 (tokens text))).filter (!·.isEmpty) := by
        by_cases empty : split 0 (tokens text) = []
        · simp [empty, WordScan.continued, Command.isEmpty]
        · rw [WordScan.continued_nil empty]
    _ = ((tokens text).foldl WordScan.feed .start).finish :=
        (WordScan.foldl_feed (s := .start) rfl (splits_split 0 (tokens text))).symm
    _ = WordScan.commandsOf text := (WordScan.foldl_reads read rfl rfl).symm

example : WordScan.commandsOf "GET\"a;b\"\\c; ;\\\\" =
    [⟨["GET", "\"a;b\"", "c"]⟩, ⟨["\\\\"]⟩] := by decide

end KeyScript.Script
