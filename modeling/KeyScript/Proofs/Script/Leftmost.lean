import Mathlib.Data.List.Basic
import KeyScript.Proofs.Script.Partition

/-! Leftmost compounds. The merged elements of a statement are described without the pass
that makes them: which tokens a compound holds, and which word may follow a container that
is left alone. The description fits exactly one list of elements, and the merger returns it.
Its elements have nothing left to merge, because no subword begins with the name of a
container and goes on. -/
namespace KeyScript.Script

/-- `word` is written as one of the subwords of the container written as `container`. -/
def IsSubword (container word : Token) : Prop :=
  ∃ expected, Vocabulary.subwords? container.text = some expected ∧ word.text ∈ expected

def nextWord (ts : List Token) : Option Token := ts.find? (!·.isBlank)

/-- The tokens as elements, where every container is fused with the subword that follows it
and a word that closes a compound opens none. -/
structure Leftmost (ts : List Token) (nodes : List Node) : Prop where
  tokens : nodes.flatMap Node.tokens = ts
  fused : ∀ container more, .compound container more ∈ nodes → container.isBlank = false ∧
    ∃ blanks word, more = blanks ++ [word] ∧ (∀ blank ∈ blanks, blank.isBlank = true) ∧
      word.isBlank = false ∧ IsSubword container word
  /-- The next word may be the first of a compound. -/
  plain : ∀ left t right, nodes = left ++ .token t :: right → t.isBlank = false →
    ∀ next ∈ nextWord (right.flatMap Node.tokens), ¬IsSubword t next

theorem nextWord_blanks {blanks : List Token} (all : ∀ blank ∈ blanks, blank.isBlank = true)
    (solid : word.isBlank = false) (rest : List Token) :
    nextWord (blanks ++ word :: rest) = some word := by
  have skip : blanks.find? (!·.isBlank) = none := by simpa using all
  rw [nextWord, List.find?_append, skip, List.find?_cons, solid]
  rfl

theorem nextIs_tokens {ts : List Token} : nextIs expected (ts.map Node.token) = true ↔
    ∃ next ∈ nextWord ts, next.text ∈ expected := by
  have words : (ts.map Node.token).find? (!·.isBlank) = (nextWord ts).map Node.token :=
    List.find?_map
  rw [nextIs, words]
  cases nextWord ts with
  | none => simp
  | some next => simp [Node.text_token]

theorem opens_tokens_eq_none_iff {ts : List Token} :
    opens (.token t) (ts.map Node.token) = none ↔
      (t.isBlank = false → ∀ next ∈ nextWord ts, ¬IsSubword t next) := by
  rw [Option.eq_none_iff_forall_ne_some]
  constructor
  · rintro closed solid next found ⟨expected, known, member⟩
    have follows := nextIs_tokens.mpr ⟨next, found, member⟩
    exact closed t (opens_eq_some_iff.mpr ⟨rfl, solid, expected, known, follows⟩)
  · intro alone container opened
    obtain ⟨same, solid, expected, known, follows⟩ := opens_eq_some_iff.mp opened
    obtain rfl := Node.token.inj same
    obtain ⟨next, found, member⟩ := nextIs_tokens.mp follows
    exact alone solid next found ⟨expected, known, member⟩

theorem Leftmost.tail (leftmost : Leftmost ts (node :: nodes)) :
    Leftmost (nodes.flatMap Node.tokens) nodes := by
  refine ⟨rfl, fun container more member => ?_, fun left t right cut => ?_⟩
  · exact leftmost.fused container more (List.mem_cons_of_mem _ member)
  · exact leftmost.plain (node :: left) t right (by rw [cut, List.cons_append])

theorem Leftmost.cons_token (rest : Leftmost ts nodes)
    (alone : t.isBlank = false → ∀ next ∈ nextWord ts, ¬IsSubword t next) :
    Leftmost (t :: ts) (.token t :: nodes) := by
  refine ⟨?_, fun container more member => ?_, fun left u right cut solid => ?_⟩
  · rw [List.flatMap_cons, rest.tokens]
    rfl
  · exact rest.fused container more (by simpa using member)
  · cases left with
    | nil =>
      obtain ⟨same, rfl⟩ := List.cons.inj cut
      obtain rfl := Node.token.inj same
      rw [rest.tokens]
      exact alone solid
    | cons first left => exact rest.plain left u right (List.cons.inj cut).2 solid

theorem Leftmost.cons_compound {blanks : List Token} (rest : Leftmost ts nodes)
    (solid : container.isBlank = false) (all : ∀ blank ∈ blanks, blank.isBlank = true)
    (closes : word.isBlank = false) (subword : IsSubword container word) :
    Leftmost (container :: (blanks ++ word :: ts))
      (.compound container (blanks ++ [word]) :: nodes) := by
  refine ⟨?_, fun opener more member => ?_, fun left t right cut => ?_⟩
  · rw [List.flatMap_cons, rest.tokens]
    simp [Node.tokens]
  · rcases List.mem_cons.mp member with same | member
    · obtain ⟨rfl, rfl⟩ := Node.compound.inj same
      exact ⟨solid, blanks, word, rfl, all, closes, subword⟩
    · exact rest.fused opener more member
  · cases left with
    | nil => simp at cut
    | cons first left => exact rest.plain left t right (List.cons.inj cut).2

theorem Merges.leftmost (merged : Merges nodes out) (plain : nodes = ts.map Node.token) :
    Leftmost ts out := by
  induction merged generalizing ts with
  | nil =>
    obtain rfl := List.map_eq_nil_iff.mp plain.symm
    exact ⟨rfl, by simp, by simp⟩
  | keep closed _ ih =>
    obtain ⟨t, ts, rfl, rfl, rfl⟩ := List.map_eq_cons_iff.mp plain.symm
    exact (ih rfl).cons_token (opens_tokens_eq_none_iff.mp closed)
  | @fuse container expected blanks node rest out solid known all closes member _ ih =>
    -- All elements are tokens, so the one that closes the compound is a single word.
    obtain ⟨_, more, rfl, same, later⟩ := List.map_eq_cons_iff.mp plain.symm
    obtain rfl := Node.token.inj same
    obtain ⟨front, back, rfl, first, last⟩ := List.map_eq_append_iff.mp later
    obtain rfl := (List.map_inj_right fun _ _ => Node.token.inj).mp first
    obtain ⟨word, ts, rfl, rfl, rfl⟩ := List.map_eq_cons_iff.mp last
    rw [Node.text_token] at member
    exact (ih rfl).cons_compound solid all closes ⟨expected, known, member⟩

theorem Leftmost.merges (leftmost : Leftmost ts nodes) : Merges (ts.map Node.token) nodes := by
  induction nodes generalizing ts with
  | nil =>
    obtain rfl := leftmost.tokens
    exact .nil
  | cons node nodes ih =>
    have rest := ih leftmost.tail
    obtain rfl := leftmost.tokens
    rw [List.flatMap_cons, List.map_append]
    cases node with
    | token t =>
      exact .keep (opens_tokens_eq_none_iff.mpr (leftmost.plain [] t nodes rfl)) rest
    | compound container more =>
      obtain ⟨solid, blanks, word, rfl, all, closes, expected, known, member⟩ :=
        leftmost.fused container more List.mem_cons_self
      have solidWord : (Node.token word).isBlank = false := closes
      have listed : (Node.token word).text ∈ expected := by rwa [Node.text_token]
      simpa [Node.tokens] using Merges.fuse solid known all solidWord listed rest

theorem split_of_build (built : build ts = .ok ss) : ss = split 0 ts := by
  rw [build] at built
  split at built
  · contradiction
  · exact (Except.ok.inj built).symm

theorem nodes_of_build (built : build ts = .ok ss) (member : s ∈ ss) :
    s.nodes = s.tokens.map Node.token := by
  obtain rfl := split_of_build built
  rw [Statement.tokens, List.map_flatMap]
  have single : ∀ node ∈ s.nodes, node.tokens.map Node.token = [node] := by
    intro node part
    obtain ⟨t, _, rfl⟩ := (splits_split 0 ts).token_of_node member part
    rfl
  rw [List.flatMap_congr single, List.flatMap_singleton']

theorem leftmost_merge (built : build ts = .ok ss) (member : s ∈ ss) :
    Leftmost s.tokens s.merge.nodes :=
  (merges_merge s).leftmost (nodes_of_build built member)

/-- The merger keeps the line of a statement and makes its leftmost compounds. No other
statement has them, and no compound is still open when the pass ends. -/
theorem merge_eq_iff_leftmost (built : build ts = .ok ss) (member : s ∈ ss) :
    (∀ merged, merged = s.merge ↔ merged.line = s.line ∧ Leftmost s.tokens merged.nodes) ∧
      (mergeFrom .idle s.nodes).2 = .idle := by
  constructor
  · intro merged
    constructor
    · rintro rfl
      exact ⟨rfl, leftmost_merge built member⟩
    · rintro ⟨line, leftmost⟩
      have merges := leftmost.merges
      rw [← nodes_of_build built member] at merges
      rw [merges.merge, ← line]
  · rw [(merges_merge s).pass]

/-- `DEBUG` closes the compound that `SCRIPT` opens, with a dropped backslash between them,
and opens none with `OBJECT`. -/
theorem merge_eq_iff_leftmost_chain :
    build (tokens "SCRIPT\\DEBUG OBJECT") =
      .ok [⟨0, (tokens "SCRIPT\\DEBUG OBJECT").map Node.token⟩] ∧
    Leftmost (tokens "SCRIPT\\DEBUG OBJECT") [
      .compound ⟨.keyword, ⟨0, 5⟩, ⟨0, 5⟩, "SCRIPT"⟩ [⟨.keyword, ⟨7, 11⟩, ⟨7, 11⟩, "DEBUG"⟩],
      .token ⟨.blank, ⟨12, 12⟩, ⟨12, 12⟩, " "⟩,
      .token ⟨.keyword, ⟨13, 18⟩, ⟨13, 18⟩, "OBJECT"⟩] := by
  have read : tokens "SCRIPT\\DEBUG OBJECT" = [
      ⟨.keyword, ⟨0, 5⟩, ⟨0, 5⟩, "SCRIPT"⟩, ⟨.keyword, ⟨7, 11⟩, ⟨7, 11⟩, "DEBUG"⟩,
      ⟨.blank, ⟨12, 12⟩, ⟨12, 12⟩, " "⟩, ⟨.keyword, ⟨13, 18⟩, ⟨13, 18⟩, "OBJECT"⟩] := by
    decide +kernel
  have built : build (tokens "SCRIPT\\DEBUG OBJECT") =
      .ok [⟨0, (tokens "SCRIPT\\DEBUG OBJECT").map Node.token⟩] := by
    rw [read]
    rfl
  have merged : ⟨0, [
      .compound ⟨.keyword, ⟨0, 5⟩, ⟨0, 5⟩, "SCRIPT"⟩ [⟨.keyword, ⟨7, 11⟩, ⟨7, 11⟩, "DEBUG"⟩],
      .token ⟨.blank, ⟨12, 12⟩, ⟨12, 12⟩, " "⟩,
      .token ⟨.keyword, ⟨13, 18⟩, ⟨13, 18⟩, "OBJECT"⟩]⟩ =
        Statement.merge ⟨0, (tokens "SCRIPT\\DEBUG OBJECT").map Node.token⟩ := by
    rw [read]
    decide +kernel
  obtain ⟨_, leftmost⟩ := ((merge_eq_iff_leftmost built List.mem_cons_self).1 _).mp merged
  rw [Statement.tokens, flatMap_tokens_map] at leftmost
  exact ⟨built, leftmost⟩

theorem containers_not_extended : ∀ container ∈ Vocabulary.containers,
    ∀ other ∈ Vocabulary.containers, ∀ word ∈ other.subwords,
      container.name.toList.isPrefixOf word.toList = true → word = container.name := by
  decide +kernel

/-- No subword is written as a compound is. -/
theorem Leftmost.compound_text (leftmost : Leftmost ts nodes)
    (part : .compound container more ∈ nodes) (known : Vocabulary.subwords? word = some expected) :
    (Node.compound container more).text ∉ expected := by
  intro member
  obtain ⟨_, blanks, subword, rfl, _, _, others, opens, listed⟩ := leftmost.fused _ _ part
  have nonempty := (subwords?_nonempty opens).2 _ listed
  obtain ⟨first, isFirst, name, _⟩ := container_of_subwords? opens
  obtain ⟨second, isSecond, _, rfl⟩ := container_of_subwords? known
  have text : (Node.compound container (blanks ++ [subword])).text.toList =
      container.text.toList ++ (blanks ++ [subword]).flatMap (·.text.toList) := by
    simp [Node.text, Node.tokens, String.toList_join, List.flatMap_map]
  have begins : first.name.toList.isPrefixOf
      (Node.compound container (blanks ++ [subword])).text.toList = true := by
    rw [name, text, List.isPrefixOf_iff_prefix]
    exact List.prefix_append _ _
  have same := containers_not_extended first isFirst second isSecond _ member begins
  rw [same, name, List.self_eq_append_right, List.flatMap_append] at text
  simp [nonempty] at text

/-- Leftmost compounds leave nothing to merge. -/
theorem Leftmost.merges_self (leftmost : Leftmost ts nodes) : Merges nodes nodes := by
  induction nodes generalizing ts with
  | nil => exact .nil
  | cons node nodes ih =>
    refine .keep ?_ (ih leftmost.tail)
    rw [Option.eq_none_iff_forall_ne_some]
    intro container opened
    obtain ⟨rfl, solid, expected, known, follows⟩ := opens_eq_some_iff.mp opened
    obtain ⟨blanks, next, rest, rfl, all, word, member⟩ := nextIs_iff.mp follows
    -- The next element is a subword: as a token it was one before, as a compound it is none.
    cases next with
    | token next =>
      have found : nextWord ((blanks.map Node.token ++ .token next :: rest).flatMap Node.tokens) =
          some next := by
        rw [List.flatMap_append, flatMap_tokens_map]
        exact nextWord_blanks all word _
      rw [Node.text_token] at member
      exact leftmost.plain [] container _ rfl solid next found ⟨expected, known, member⟩
    | compound opener more => exact leftmost.compound_text (by simp) known member

theorem mergeAll_mergeAll (built : build ts = .ok ss) : mergeAll (mergeAll ss) = mergeAll ss := by
  rw [mergeAll, mergeAll, List.map_map]
  apply List.map_congr_left
  intro s member
  exact (leftmost_merge built member).merges_self.merge

/-- The first `SCRIPT` has a compound behind it in the second pass. -/
theorem mergeAll_mergeAll_repeated :
    build (tokens "SCRIPT SCRIPT\\DEBUG") =
      .ok [⟨0, (tokens "SCRIPT SCRIPT\\DEBUG").map Node.token⟩] ∧
    mergeAll (mergeAll [⟨0, (tokens "SCRIPT SCRIPT\\DEBUG").map Node.token⟩]) = [⟨0, [
      .token ⟨.keyword, ⟨0, 5⟩, ⟨0, 5⟩, "SCRIPT"⟩,
      .token ⟨.blank, ⟨6, 6⟩, ⟨6, 6⟩, " "⟩,
      .compound ⟨.keyword, ⟨7, 12⟩, ⟨7, 12⟩, "SCRIPT"⟩
        [⟨.keyword, ⟨14, 18⟩, ⟨14, 18⟩, "DEBUG"⟩]]⟩] := by
  have read : tokens "SCRIPT SCRIPT\\DEBUG" = [
      ⟨.keyword, ⟨0, 5⟩, ⟨0, 5⟩, "SCRIPT"⟩, ⟨.blank, ⟨6, 6⟩, ⟨6, 6⟩, " "⟩,
      ⟨.keyword, ⟨7, 12⟩, ⟨7, 12⟩, "SCRIPT"⟩, ⟨.keyword, ⟨14, 18⟩, ⟨14, 18⟩, "DEBUG"⟩] := by
    decide +kernel
  have built : build (tokens "SCRIPT SCRIPT\\DEBUG") =
      .ok [⟨0, (tokens "SCRIPT SCRIPT\\DEBUG").map Node.token⟩] := by
    rw [read]
    rfl
  refine ⟨built, (mergeAll_mergeAll built).trans ?_⟩
  rw [read]
  decide +kernel

end KeyScript.Script
