import KeyScript.Script.Compound
import KeyScript.Proofs.Script.Cutting

/-! Merging as a relation between the elements of a statement and the merged ones.
The pass of the merger has a state; the relation has none, and the pass is shown to
end idle and to be exactly this relation. -/
namespace KeyScript.Script

/-- Going through the elements from the left, each container command that has one of
its subwords after it, blanks apart, is fused with the blanks and the subword. -/
inductive Merges : List Node → List Node → Prop where
  | nil : Merges [] []
  | keep : opens node rest = none → Merges rest out → Merges (node :: rest) (node :: out)
  | fuse {container : Token} {expected : List String} {blanks : List Token} {node : Node}
      {rest out : List Node} : container.isBlank = false →
      Vocabulary.subwords? container.text = some expected →
      (∀ blank ∈ blanks, blank.isBlank = true) → node.isBlank = false → node.text ∈ expected → Merges rest out →
      Merges (.token container :: (blanks.map Node.token ++ node :: rest))
        (.compound container (blanks ++ node.tokens) :: out)

theorem Node.text_token (t : Token) : (Node.token t).text = t.text := by
  simp [Node.text, Node.tokens, String.join]

theorem flatMap_tokens_map (ts : List Token) : (ts.map Node.token).flatMap Node.tokens = ts := by
  rw [List.flatMap_map]
  exact List.flatMap_singleton' ts

theorem nextIs_blanks {blanks : List Token} (all : ∀ blank ∈ blanks, blank.isBlank = true)
    (nodes : List Node) : nextIs expected (blanks.map Node.token ++ nodes) = nextIs expected nodes := by
  have skip : (blanks.map Node.token).find? (!·.isBlank) = none := by
    simpa [Node.isBlank] using all
  simp [nextIs, List.find?_append, skip]

theorem nextIs_iff {nodes : List Node} : nextIs expected nodes = true ↔
    ∃ (blanks : List Token) (node : Node) (rest : List Node),
      nodes = blanks.map Node.token ++ node :: rest ∧ (∀ blank ∈ blanks, blank.isBlank = true) ∧
      node.isBlank = false ∧ node.text ∈ expected := by
  constructor
  · intro next
    induction nodes with
    | nil => simp [nextIs] at next
    | cons node rest ih =>
      cases blank : node.isBlank with
      | false =>
        refine ⟨[], node, rest, rfl, by simp, blank, ?_⟩
        simpa [nextIs, blank] using next
      | true =>
        have later : nextIs expected rest = true := by simpa [nextIs, blank] using next
        obtain ⟨blanks, sub, rest, rfl, all, solid, member⟩ := ih later
        cases node with
        | compound => contradiction
        | token t =>
          exact ⟨t :: blanks, sub, rest, rfl, List.forall_mem_cons.mpr ⟨blank, all⟩, solid, member⟩
  · rintro ⟨blanks, node, rest, rfl, all, solid, member⟩
    rw [nextIs_blanks all]
    simp [nextIs, solid, member]

theorem opens_eq_some_iff : opens node rest = some container ↔
    node = .token container ∧ container.isBlank = false ∧
      ∃ expected, Vocabulary.subwords? container.text = some expected ∧
        nextIs expected rest = true := by
  cases node with
  | compound => simp [opens]
  | token t =>
    simp only [opens]
    split
    · rename_i blank
      simp only [reduceCtorEq, Node.token.injEq, false_iff, not_and]
      rintro rfl solid
      simp [blank] at solid
    · rename_i solid
      split
      · rename_i expected known
        split
        · rename_i next
          constructor
          · intro same
            obtain rfl := Option.some.inj same
            exact ⟨rfl, by simpa using solid, expected, known, next⟩
          · rintro ⟨same, _⟩
            exact congrArg some (Node.token.inj same)
        · rename_i next
          simp only [reduceCtorEq, Node.token.injEq, false_iff, not_and]
          rintro rfl _ ⟨other, same, found⟩
          obtain rfl := Option.some.inj (known.symm.trans same)
          exact next found
      · rename_i unknown
        simp only [reduceCtorEq, Node.token.injEq, false_iff, not_and]
        rintro rfl _ ⟨other, same, _⟩
        rw [unknown] at same
        contradiction

theorem opens_nil (node : Node) : opens node [] = none := by
  cases opened : opens node [] with
  | none => rfl
  | some container =>
    obtain ⟨_, _, _, _, next⟩ := opens_eq_some_iff.mp opened
    simp [nextIs] at next

theorem merges_single (node : Node) : Merges [node] [node] := .keep (opens_nil node) .nil

theorem Merges.blanks {blanks : List Token} (all : ∀ blank ∈ blanks, blank.isBlank = true)
    (merged : Merges rest out) :
    Merges (blanks.map Node.token ++ rest) (blanks.map Node.token ++ out) := by
  induction blanks with
  | nil => exact merged
  | cons blank blanks ih =>
    obtain ⟨first, later⟩ := List.forall_mem_cons.mp all
    exact .keep (by simp [opens, first]) (ih later)

/-- An open compound takes the blanks in front of it and closes on the next element. -/
theorem mergeFrom_opened {blanks : List Token} (all : ∀ blank ∈ blanks, blank.isBlank = true)
    (solid : node.isBlank = false) (seen : List Token) :
    mergeFrom (.opened container seen) (blanks.map Node.token ++ node :: rest) =
      (.compound container (seen.reverse ++ (blanks ++ node.tokens)) :: (mergeFrom .idle rest).1,
        (mergeFrom .idle rest).2) := by
  induction blanks generalizing seen with
  | nil => simp [mergeFrom, solid]
  | cons blank blanks ih =>
    obtain ⟨first, later⟩ := List.forall_mem_cons.mp all
    have isBlank : (Node.token blank).isBlank = true := first
    rw [List.map_cons, List.cons_append, mergeFrom, if_pos isBlank, ih later]
    simp [Node.tokens]

theorem Merges.pass (merged : Merges nodes out) : mergeFrom .idle nodes = (out, .idle) := by
  induction merged with
  | nil => rfl
  | keep closed _ ih => simp [mergeFrom, closed, ih]
  | @fuse container expected blanks node rest out solid known all subword member _ ih =>
    have next : nextIs expected (blanks.map Node.token ++ node :: rest) = true :=
      nextIs_iff.mpr ⟨blanks, node, rest, rfl, all, subword, member⟩
    have opened := opens_eq_some_iff.mpr ⟨rfl, solid, expected, known, next⟩
    rw [mergeFrom, opened]
    simp only
    rw [mergeFrom_opened all subword, ih]
    simp

/-- The pass always closes what it opens, so it ends idle. -/
theorem merges_exists (nodes : List Node) : ∃ out, Merges nodes out := by
  induction length : nodes.length using Nat.strongRecOn generalizing nodes with
  | ind n ih =>
    subst length
    cases nodes with
    | nil => exact ⟨[], .nil⟩
    | cons node rest =>
      cases opened : opens node rest with
      | none =>
        obtain ⟨out, merged⟩ := ih rest.length (by simp) rest rfl
        exact ⟨node :: out, .keep opened merged⟩
      | some container =>
        obtain ⟨rfl, solid, expected, known, next⟩ := opens_eq_some_iff.mp opened
        obtain ⟨blanks, sub, rest, rfl, all, subword, member⟩ := nextIs_iff.mp next
        have shorter : rest.length <
            (Node.token container :: (blanks.map Node.token ++ sub :: rest)).length := by
          simp only [List.length_cons, List.length_append]
          omega
        obtain ⟨out, merged⟩ := ih rest.length shorter rest rfl
        exact ⟨_, .fuse solid known all subword member merged⟩

theorem Merges.merge {s : Statement} (merged : Merges s.nodes out) : s.merge = { s with nodes := out } := by
  simp [Statement.merge, merged.pass, Pending.tokens]

theorem merges_merge (s : Statement) : Merges s.nodes s.merge.nodes := by
  obtain ⟨out, merged⟩ := merges_exists s.nodes
  rw [merged.merge]
  exact merged

/-- Merging keeps every token in its place. -/
theorem Merges.tokens (merged : Merges nodes out) :
    out.flatMap Node.tokens = nodes.flatMap Node.tokens := by
  induction merged with
  | nil => rfl
  | keep _ _ ih => simp only [List.flatMap_cons, ih]
  | fuse _ _ _ _ _ _ ih =>
    simp only [List.flatMap_cons, List.flatMap_append, flatMap_tokens_map, ih]
    simp [Node.tokens]

/-- A word that the scanner can read as one lexeme. -/
def isBare (word : String) : Bool := word.toList.all (!endsWord ·)

theorem containers_bare : ∀ container ∈ Vocabulary.containers,
    isBare container.name = true ∧ ∀ word ∈ container.subwords, isBare word = true := by
  decide +kernel

theorem containers_nonempty : ∀ container ∈ Vocabulary.containers,
    container.name ≠ "" ∧ ∀ word ∈ container.subwords, word ≠ "" := by
  decide +kernel

theorem container_of_subwords? (known : Vocabulary.subwords? word = some expected) :
    ∃ container ∈ Vocabulary.containers, container.name = word ∧ container.subwords = expected := by
  obtain ⟨container, found, same⟩ := Option.map_eq_some_iff.mp known
  exact ⟨container, List.mem_of_find?_eq_some found, by simpa using List.find?_some found, same⟩

theorem subwords?_bare (known : Vocabulary.subwords? word = some expected) :
    isBare word = true ∧ ∀ subword ∈ expected, isBare subword = true := by
  obtain ⟨container, member, rfl, rfl⟩ := container_of_subwords? known
  exact containers_bare container member

theorem subwords?_nonempty (known : Vocabulary.subwords? word = some expected) :
    word.toList ≠ [] ∧ ∀ subword ∈ expected, subword.toList ≠ [] := by
  obtain ⟨container, member, rfl, rfl⟩ := container_of_subwords? known
  simpa only [Ne, String.toList_eq_nil_iff] using containers_nonempty container member

theorem nextIs_concat {t : Token} (other : t.text ∉ expected) (nodes : List Node) :
    nextIs expected (nodes ++ [.token t]) = nextIs expected nodes := by
  rw [nextIs, nextIs, List.find?_append]
  cases nodes.find? (!·.isBlank) with
  | some node => rfl
  | none =>
    cases blank : (Node.token t).isBlank <;> simp [blank, Node.text_token, other]

theorem opens_concat {t : Token} (bare : isBare t.text = false) (node : Node) (nodes : List Node) :
    opens node (nodes ++ [.token t]) = opens node nodes := by
  cases node with
  | compound => rfl
  | token u =>
    simp only [opens]
    split
    · rfl
    · split
      · rename_i expected known
        have other : t.text ∉ expected := by
          intro member
          rw [(subwords?_bare known).2 _ member] at bare
          contradiction
        rw [nextIs_concat other]
      · rfl

/-- A token that is no word at the end of a statement is no part of a compound. -/
theorem Merges.concat (merged : Merges nodes out) (bare : isBare t.text = false) :
    Merges (nodes ++ [.token t]) (out ++ [.token t]) := by
  induction merged with
  | nil => exact merges_single (.token t)
  | keep closed _ ih => exact .keep ((opens_concat bare _ _).trans closed) ih
  | fuse solid known all subword member _ ih =>
    rw [List.cons_append, List.append_assoc, List.cons_append]
    exact .fuse solid known all subword member ih

/-- A separator is no word, so no compound holds one. -/
def Proper (t : Token) : Prop := t.isSeparator = true → isBare t.text = false

theorem Step.proper (step : Step s t after) : Proper t := by
  intro separator
  cases step with
  | trailing => contradiction
  | @lexeme escapes kind chars tail offset column all read =>
    have kinds : kind = .terminator ∨ kind = .lineBreak := by
      simpa [Token.isSeparator, tokenAt, Scanner.token] using separator
    cases read with
    | lineBreak => rw [isBare, tokenAt_text]; decide
    | terminator => rw [isBare, tokenAt_text]; decide
    | word => rcases wordKind_cases chars with kind | kind <;> simp [kind] at kinds
    | _ => simp at kinds

theorem Reads.proper (read : Reads s ts after) : ∀ t ∈ ts, Proper t := by
  induction read with
  | done => simp
  | step step _ ih => exact List.forall_mem_cons.mpr ⟨step.proper, ih⟩

end KeyScript.Script
