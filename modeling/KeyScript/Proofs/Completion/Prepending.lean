import KeyScript.Proofs.Completion.Naming

/-! Complete lines in front of a text. They move its statements down and change
nothing else, so the completion below them is that of the text alone. Statements are
counted down by line breaks; the lines of an editor count the line feeds in strings
too, and the two agree exactly when no string in front holds a line feed. -/
namespace KeyScript.Script

/-- The element when `n` characters stand in front, as lines of their own. -/
def Node.moved (n : Nat) : Node → Node
  | .token t => .token (t.moved n)
  | .compound container more => .compound (container.moved n) (more.map (Token.moved n))

/-- The statement when `n` characters on `lines` lines stand in front. -/
def Statement.moved (n lines : Nat) (s : Statement) : Statement :=
  ⟨s.line + lines, s.nodes.map (Node.moved n)⟩

namespace Node

variable (n : Nat) (node : Node)

theorem tokens_moved : (node.moved n).tokens = node.tokens.map (Token.moved n) := by
  cases node <;> rfl

@[simp] theorem isBlank_moved : (node.moved n).isBlank = node.isBlank := by
  cases node <;> rfl

@[simp] theorem isTerminator_moved : (node.moved n).isTerminator = node.isTerminator := by
  cases node <;> rfl

@[simp] theorem text_moved : (node.moved n).text = node.text := by
  rw [text, text, tokens_moved, List.map_map]
  rfl

theorem words_moved : (node.moved n).words = node.words := by
  rw [words, words, tokens_moved, List.filter_map, List.map_map]
  rfl

@[simp] theorem keyword_moved : (node.moved n).keyword = node.keyword := by
  cases node with
  | token t => rfl
  | compound container more =>
    exact congrArg (" ".intercalate ·) (words_moved n (.compound container more))

@[simp] theorem columns_moved : (node.moved n).columns = node.columns := by
  cases node with
  | token t => rfl
  | compound container more =>
    simp only [columns, moved, first, last, List.getLast?_map]
    cases more.getLast? <;> rfl

end Node

theorem nextIs_moved (n : Nat) (nodes : List Node) :
    nextIs expected (nodes.map (Node.moved n)) = nextIs expected nodes := by
  rw [nextIs, nextIs, List.find?_map]
  have same : ((fun node => !node.isBlank) ∘ Node.moved n) = fun node => !node.isBlank := by
    funext node
    simp
  rw [same]
  cases nodes.find? (!·.isBlank) <;> simp

theorem opens_moved (n : Nat) (node : Node) (rest : List Node) :
    opens (node.moved n) (rest.map (Node.moved n)) = (opens node rest).map (Token.moved n) := by
  cases node with
  | compound => rfl
  | token t =>
    have blank : (t.moved n).isBlank = t.isBlank := rfl
    have text : (t.moved n).text = t.text := rfl
    simp only [Node.moved, opens, blank, text, nextIs_moved]
    split
    · rfl
    · split
      · split <;> rfl
      · rfl

theorem Merges.moved (n : Nat) (merged : Merges nodes out) :
    Merges (nodes.map (Node.moved n)) (out.map (Node.moved n)) := by
  induction merged with
  | nil => exact .nil
  | @keep node rest _ closed _ ih =>
    refine .keep ?_ ih
    rw [opens_moved, closed]
    rfl
  | @fuse container expected blanks node rest out solid known all subword member _ ih =>
    have between : (blanks.map Node.token).map (Node.moved n) =
        (blanks.map (Token.moved n)).map Node.token := by
      rw [List.map_map, List.map_map]
      rfl
    have fused : (Node.compound container (blanks ++ node.tokens)).moved n =
        .compound (container.moved n) (blanks.map (Token.moved n) ++ (node.moved n).tokens) := by
      rw [Node.tokens_moved, ← List.map_append]
      rfl
    rw [List.map_cons, List.map_append, List.map_cons, List.map_cons, between, fused]
    exact .fuse solid known (by simpa [Token.moved, Token.isBlank] using all)
      (by simpa using subword) (by simpa using member) ih

theorem merge_moved (n lines : Nat) (s : Statement) :
    (s.moved n lines).merge = s.merge.moved n lines := by
  have merged : Merges (s.moved n lines).nodes (s.merge.nodes.map (Node.moved n)) :=
    (merges_merge s).moved n
  rw [merged.merge]
  rfl

theorem Splits.moved (n lines : Nat) (splits : Splits line ts ss) :
    Splits (line + lines) (ts.map (Token.moved n)) (ss.map (Statement.moved n lines)) := by
  induction splits with
  | nil => exact .nil
  | last => exact .last
  | close separator _ ih =>
    rw [Nat.add_right_comm] at ih
    exact .close separator ih
  | join going _ ih => exact .join (t := Token.moved n _) going ih

/-- The statements of a text below complete lines are its own, moved down. -/
theorem statements_append (lines : d.toList = cs ++ ['\n']) (outside : quoted cs = false)
    (text : String) : statements (d ++ text) = statements d ++
      (statements text).map (Statement.moved d.length (breaks (tokens d))) := by
  have length : d.length = cs.length + 1 := by
    rw [← String.length_toList, lines]
    simp
  have joined : tokens (d ++ text) = tokens d ++ (tokens text).map (Token.moved d.length) := by
    rw [tokens_eq_scan, tokens_eq_scan, tokens_eq_scan, String.toList_append, lines, length,
      ← scan_line outside, List.append_assoc, List.singleton_append]
  have ends : ∀ t ∈ (tokens d).getLast?, t.isSeparator = true := by
    obtain ⟨t, last, feed⟩ := scan_ends_line_iff.mpr ⟨cs, rfl, outside⟩
    rw [tokens_eq_scan, lines, last]
    rintro u same
    obtain rfl := Option.some.inj same
    simp [Token.isSeparator, feed]
  have below := (splits_split 0 (tokens text)).moved d.length (breaks (tokens d))
  rw [statements, joined, ((splits_split 0 (tokens d)).append ends below).eq, mergeAll,
    List.map_append, List.map_map]
  congr 1
  rw [statements, mergeAll, List.map_map]
  exact List.map_congr_left fun s _ => merge_moved _ _ s

theorem statements_line_lt (lines : d.toList = cs ++ ['\n']) (outside : quoted cs = false) :
    ∀ s ∈ statements d, s.line < breaks (tokens d) := by
  obtain ⟨t, last, feed⟩ := scan_ends_line_iff.mpr ⟨cs, rfl, outside⟩
  have above := (splits_split 0 (tokens d)).line_lt (t := t) (by rw [tokens_eq_scan, lines, last]) feed
  intro s member
  obtain ⟨s, inside, rfl⟩ := List.mem_map.mp member
  simpa using above s inside

namespace Statement

variable (n lines : Nat) (s : Statement)

@[simp] theorem columns_moved : (s.moved n lines).columns = s.columns := by
  simp [columns, moved, List.head?_map, List.getLast?_map, Function.comp_def]

@[simp] theorem text_moved : (s.moved n lines).text = s.text := by
  simp [text, moved, Function.comp_def]

end Statement
end KeyScript.Script

namespace KeyScript.Completion
open Script

theorem holds_moved (n lines : Nat) (s : Statement) :
    holds (lines + line) column (s.moved n lines) = holds line column s := by
  have down : (s.line + lines == lines + line) = (s.line == line) := by
    rw [Bool.eq_iff_iff, beq_iff_eq, beq_iff_eq]
    omega
  simp only [holds, Statement.columns_moved]
  rw [Statement.moved, down]

theorem lastWord_moved (n : Nat) (p : Node → Bool) (same : ∀ node, p (node.moved n) = p node)
    (nodes : List Node) : Triggers.lastWord p (nodes.map (Node.moved n)) =
      (Triggers.lastWord p nodes).map (Node.moved n) := by
  have kept : (fun node => !node.isBlank && p node) ∘ Node.moved n =
      fun node => !node.isBlank && p node := by
    funext node
    simp [same]
  rw [Triggers.lastWord, Triggers.lastWord, ← List.map_reverse, List.find?_map, kept]

/-- Classification sees texts, kinds and columns only. -/
theorem classifyAt_moved (t : Triggers) (n lines : Nat) (s : Statement) :
    t.classifyAt ⟨s.moved n lines, offset, column⟩ place =
      t.classifyAt ⟨s, offset, column⟩ place := by
  have boundary := lastWord_moved n (·.columns.last ≤ place) (by simp) s.nodes
  have previous := lastWord_moved n (·.columns.last < place) (by simp) s.nodes
  have nodes : (s.moved n lines).nodes = s.nodes.map (Node.moved n) := rfl
  simp only [Triggers.classifyAt, Resolution.textBefore, nodes, boundary, previous,
    Statement.text_moved]
  cases Triggers.lastWord (·.columns.last ≤ place) s.nodes <;>
    cases Triggers.lastWord (·.columns.last < place) s.nodes <;> simp

/-- Below complete lines a text is completed as it is alone, when the cursor is moved
down by their line breaks. -/
theorem contextAt_append (lines : d.toList = cs ++ ['\n']) (outside : quoted cs = false)
    (nonempty : text ≠ "") : contextAt triggers (d ++ text) (breaks (tokens d) + line) character =
      contextAt triggers text line character := by
  cases character with
  | zero => rw [contextAt_zero, contextAt_zero]
  | succ column =>
    have above : (statements d).find? (holds (breaks (tokens d) + line) column) = none := by
      rw [List.find?_eq_none]
      intro s member
      have := statements_line_lt lines outside s member
      simp only [holds, Bool.and_eq_true, beq_iff_eq]
      omega
    have below : (statements (d ++ text)).find? (holds (breaks (tokens d) + line) column) =
        ((statements text).find? (holds line column)).map
          (Statement.moved d.length (breaks (tokens d))) := by
      have down : holds (breaks (tokens d) + line) column ∘
          Statement.moved d.length (breaks (tokens d)) = holds line column :=
        funext (holds_moved d.length (breaks (tokens d)))
      rw [statements_append lines outside, List.find?_append, above, List.find?_map, down,
        Option.none_or]
    cases found : (statements text).find? (holds line column) with
    | some s =>
      rw [found] at below
      rw [contextAt_held below, contextAt_held found, classifyAt_moved, Statement.columns_moved]
    | none =>
      rw [found] at below
      have some := mt statements_eq_nil_iff.mp nonempty
      have last := List.getLast?_eq_some_getLast some
      have both : (statements (d ++ text)).getLast? = ((statements text).getLast?).map
          (Statement.moved d.length (breaks (tokens d))) := by
        rw [statements_append lines outside, List.getLast?_append, List.getLast?_map, last]
        rfl
      rw [last] at both
      rw [contextAt_unheld found last, contextAt_unheld below both, classifyAt_moved]

/-- After the first character of a line that has no statement nothing is typed. -/
theorem contextAt_one (unheld : ∀ s ∈ statements text, s.line ≠ line) (nonempty : text ≠ "") :
    contextAt triggers text line 1 = .command "" := by
  have last := List.getLast?_eq_some_getLast (mt statements_eq_nil_iff.mp nonempty)
  generalize (statements text).getLast _ = s at last
  have none : (statements text).find? (holds line 0) = none := by
    rw [List.find?_eq_none]
    intro s member
    simp [holds, unheld s member]
  have never : ∀ words, ¬ Offers words s 0 := by
    rintro words ⟨_, node, ⟨_, _, _, _, before, _⟩, _⟩
    exact absurd before (Nat.not_lt_zero _)
  rw [contextAt_unheld none last]
  rcases classifyAt_eq triggers ⟨s, 0, some 0⟩ 0 with ⟨offers, _⟩ | ⟨_, offers, _⟩ | ⟨_, _, same⟩
  · exact absurd offers (never _)
  · exact absurd offers (never _)
  · rwa [show Text.trimStart (Resolution.textBefore ⟨s, 0, some 0⟩) = "" from rfl, or_self] at same

/-- Complete lines in front of a text leave its completion as it is when the cursor
goes down by their line breaks. Going down by their line feeds, as an editor counts
lines, is the same for all texts and cursors exactly when no string of those lines
holds a line feed. -/
theorem contextAt_below_lines (complete : ∃ t, (tokens d).getLast? = some t ∧ t.kind = .lineBreak) :
    (∀ triggers text line character, text ≠ "" →
      contextAt triggers (d ++ text) (breaks (tokens d) + line) character =
        contextAt triggers text line character) ∧
    ((∀ triggers text line character, text ≠ "" →
      contextAt triggers (d ++ text) (d.toList.count '\n' + line) character =
        contextAt triggers text line character) ↔
      ∀ t ∈ tokens d, t.kind = .string → '\n' ∉ t.text.toList) := by
  obtain ⟨cs, lines, outside⟩ := scan_ends_line_iff.mp complete
  refine ⟨fun triggers text line character nonempty => contextAt_append lines outside nonempty, ?_⟩
  rw [count_lineFeed, ← quotedFeeds_eq_zero_iff]
  constructor
  · intro law
    -- Were there such a line feed, a quote would be looked for below its own line.
    have first := law .standard "\"" 0 1 (by decide)
    rw [Nat.add_assoc, contextAt_append lines outside (by decide), Nat.add_zero] at first
    have typed : contextAt .standard "\"" 0 1 = .command "\"" := by decide +kernel
    have top : ∀ s ∈ statements "\"", s.line = 0 := by decide +kernel
    apply Nat.eq_zero_of_not_pos
    intro positive
    rw [typed, contextAt_one (fun s member => by have := top s member; omega) (by decide)] at first
    simp at first
  · intro none triggers text line character nonempty
    rw [none, Nat.add_zero]
    exact contextAt_append lines outside nonempty

/-- Below a string of two lines and the line break after it, one line break counts. -/
theorem contextAt_below_string :
    contextAt .standard ("GET \"a\nb\"\n" ++ "GET") 1 3 = .command "GET" := by
  have complete := scan_ends_line_iff.mpr ⟨"GET \"a\nb\"".toList, rfl, by decide⟩
  have typed : contextAt .standard "GET" 0 3 = .command "GET" := by decide +kernel
  have one : breaks (tokens "GET \"a\nb\"\n") = 1 := by decide +kernel
  have law := (contextAt_below_lines (d := "GET \"a\nb\"\n") complete).1 .standard "GET" 0 3 (by decide)
  rwa [one, typed] at law

/-- The same place as an editor counts lines is below the text, where nothing is typed. -/
theorem contextAt_below_string_feeds : (∃ t, (tokens "GET \"a\nb\"\n").getLast? = some t ∧
      t.kind = .lineBreak) ∧ "GET \"a\nb\"\n".toList.count '\n' = 2 ∧
    contextAt .standard ("GET \"a\nb\"\n" ++ "GET") (2 + 0) 3 = .command "" ∧
    contextAt .standard "GET" 0 3 = .command "GET" :=
  ⟨scan_ends_line_iff.mpr ⟨"GET \"a\nb\"".toList, rfl, by decide⟩, by decide +kernel⟩

end KeyScript.Completion
