import KeyScript.Proofs.Completion.Typing

/-! What a trigger offers. The words of a trigger make one element of the statement, in
which the blanks between them do not count. Behind it, blanks and the word that is being
typed are passed over, so the element is the nearest one and decides. -/
namespace KeyScript.Completion
open Script

/-- The characters are the words of a trigger: a container and one of its subwords with
blanks between them, or one word that is no container. -/
inductive Spelled : String → List Char → Prop where
  | word : word ≠ [] → Bare word → Vocabulary.subwords? (String.ofList word) = none →
      Spelled (String.ofList word) word
  | compound : Vocabulary.subwords? container = some expected → subword ∈ expected →
      gap ≠ [] → Gap gap →
      Spelled (container ++ " " ++ subword) (container.toList ++ (gap ++ subword.toList))

theorem Spelled.plain (spelled : Spelled trigger chars) : ∀ c ∈ chars, isEscape c = false := by
  cases spelled with
  | word _ bare => exact bare.plain
  | compound known member _ gap =>
    obtain ⟨first, later⟩ := subwords?_bare known
    exact List.forall_mem_append.mpr ⟨(bare_of_isBare first).plain,
      List.forall_mem_append.mpr ⟨gap.plain, (bare_of_isBare (later _ member)).plain⟩⟩

/-- The tokens of a trigger are fused to one element, whatever follows them. -/
theorem Spelled.reads (spelled : Spelled trigger chars)
    (stop : ∀ c ∈ tail.head?, endsWord c = true) (offset column : Nat) :
    ∃ node : Node, node.isBlank = false ∧ node.keyword = trigger ∧
      (∀ t ∈ node.tokens, t.isSeparator = false) ∧
      (∀ {rest out}, Merges rest out → Merges (node.tokens.map .token ++ rest) (node :: out)) ∧
      Reads ⟨offset, column, chars ++ tail⟩ node.tokens
        ⟨offset + chars.length, column + chars.length, tail⟩ := by
  cases spelled with
  | word nonempty bare single =>
    obtain ⟨t, solid, text, _, read⟩ := reads_word nonempty bare stop offset column
    refine ⟨.token t, solid.1, text, by simpa [Node.tokens] using solid.2, fun merged => ?_, read⟩
    exact .keep (by simp [opens, solid.1, text, single]) merged
  | @compound container expected subword gap known member some blanks =>
    obtain ⟨firstBare, laterBare⟩ := subwords?_bare known
    obtain ⟨firstSome, laterSome⟩ := subwords?_nonempty known
    obtain ⟨t, opening, name, _, read⟩ := reads_word firstSome (bare_of_isBare firstBare)
      (blanks.stops some (subword.toList ++ tail)) offset column
    obtain ⟨between, all, read'⟩ := reads_gap blanks (offset + container.toList.length)
      (column + container.toList.length) (subword.toList ++ tail)
    obtain ⟨u, closing, text, _, read''⟩ := reads_word (laterSome _ member)
      (bare_of_isBare (laterBare _ member)) stop
      (offset + container.toList.length + gap.length)
      (column + container.toList.length + gap.length)
    rw [String.ofList_toList] at name text
    have skipped : between.filter (!·.isBlank) = [] := by simpa using all
    refine ⟨.compound t (between ++ [u]), rfl, ?_, ?_, fun {rest out} merged => ?_, ?_⟩
    · simp [Node.keyword, Node.words, Node.tokens, List.filter_append, skipped, opening.1,
        closing.1, name, text, String.intercalate_cons_cons]
    · simpa [Node.tokens, opening.2, closing.2, or_imp, forall_and] using going_of_blank all
    · have solid : (Node.token u).isBlank = false := closing.1
      have subword : (Node.token u).text ∈ expected := by
        simpa [Node.text, Node.tokens, text] using member
      have fused := Merges.fuse opening.1 (by rw [name]; exact known) all solid subword merged
      simpa [Node.tokens] using fused
    · have whole := read.append (read'.append read'')
      simpa only [List.append_assoc, List.length_append, ← Nat.add_assoc, Node.tokens,
        List.singleton_append] using whole

/-- Only blanks and the word in front of the cursor follow the element. -/
theorem nearest_of_behind {blanks : List Token} {last : Option Token}
    (nodes : s.nodes = earlier ++ node :: (blanks ++ last.toList).map .token)
    (solid : node.isBlank = false) (ended : node.columns.last < column)
    (all : ∀ b ∈ blanks, b.isBlank = true) (reach : ∀ t ∈ last, column ≤ t.columns.last) :
    Nearest s column node := by
  refine ⟨_, _, nodes, solid, ended, ?_⟩
  intro other later
  obtain ⟨t, member, rfl⟩ := List.mem_map.mp later
  rcases List.mem_append.mp member with inside | final
  · exact Or.inl (all t inside)
  · exact Or.inr (reach t (Option.mem_toList.mp final))

/-- Behind a trigger names are completed. For every document that is empty or ends with
a separator, any blanks in front of the trigger, between its words and behind it, and any
word that is being typed, the cursor behind that word completes user names when the
trigger is in the table of users, and key names when it is in the table of keys only. -/
theorem contextAt_behind_trigger (ready : Ready d) (front : Gap margin)
    (spelled : Spelled trigger chars) (gap : Gap between) (some : between ≠ [])
    (bare : Bare word) (triggers : Triggers)
    (known : trigger ∈ triggers.users ∨ trigger ∈ triggers.keys)
    (line : cs = margin ++ (chars ++ (between ++ word))) :
    contextAt triggers (d ++ String.ofList cs) (d.toList.count '\n')
        (Text.column d.toList + cs.length) =
      if trigger ∈ triggers.users then .user else .key := by
  subst line
  obtain ⟨lead, blank, read⟩ := reads_gap front d.length (Text.column d.toList)
    (chars ++ (between ++ word))
  obtain ⟨node, solid, keyword, going, fused, read₁⟩ := spelled.reads (gap.stops some word)
    (d.length + margin.length) (Text.column d.toList + margin.length)
  obtain ⟨blanks, all, read₂⟩ := reads_gap gap (d.length + margin.length + chars.length)
    (Text.column d.toList + margin.length + chars.length) word
  obtain ⟨last, ends, read₃⟩ := reads_last_word bare
    (d.length + margin.length + chars.length + between.length)
    (Text.column d.toList + margin.length + chars.length + between.length)
  have typed : Typed d (margin ++ (chars ++ (between ++ word)))
      (lead ++ (node.tokens ++ (blanks ++ last.toList))) := by
    refine ⟨⟨_, _, read.append (read₁.append (read₂.append read₃))⟩, ?_, ?_⟩
    · simp only [List.forall_mem_append]
      exact ⟨going_of_blank blank, going, going_of_blank all,
        fun t member => (ends t (Option.mem_toList.mp member)).1.2⟩
    · simp only [List.forall_mem_append]
      exact ⟨front.plain, spelled.plain, gap.plain, bare.plain⟩
  have merged := Merges.blanks blank (fused (Merges.blanks all (merges_option last)))
  simp only [← List.map_append] at merged
  have positive := List.length_pos_iff.mpr some
  obtain ⟨n, length⟩ : ∃ n, (margin ++ (chars ++ (between ++ word))).length = n + 1 := by
    apply Nat.exists_eq_add_one.mpr
    simp only [List.length_append]
    omega
  have nearest : Nearest (typedStatement d (lead ++ (node.tokens ++ (blanks ++ last.toList))))
      (Text.column d.toList + n) node := by
    -- The element of the trigger ends where the blanks behind it begin.
    have ended : node.columns.last + 1 = Text.column d.toList + margin.length + chars.length :=
      read₁.last_column node.getLast?_tokens
        (going _ (List.mem_of_getLast? node.getLast?_tokens))
    simp only [List.length_append] at length
    refine nearest_of_behind (nodes_typedStatement d merged) solid (by omega) all ?_
    intro t member
    have reach := (ends t member).2
    omega
  rw [typed.contextAt_end ready length, classifyAt_nearest (typed.not_fresh _) nearest, keyword]
  by_cases user : trigger ∈ triggers.users
  · rw [if_pos user, if_pos user]
  · rw [if_neg user, if_neg user, if_pos (known.resolve_left user)]

/-- The container and its subword stand two blanks apart, behind a string, a dropped
backslash and a terminator on the same line. -/
theorem contextAt_behind_acl_getuser :
    Ready ";\n\"x;\\\"\\;" ∧
    contextAt .standard (";\n\"x;\\\"\\;" ++ String.ofList "\tACL  GETUSER de".toList) 1 23 =
      .user := by
  have ready : Ready ";\n\"x;\\\"\\;" := ⟨by decide +kernel, by decide +kernel⟩
  have front : Gap ['\t'] := by simp [Gap, Text.isBlank]
  have wide : Gap [' ', ' '] := by simp [Gap, Text.isBlank]
  obtain ⟨expected, listed, member⟩ : ∃ expected, Vocabulary.subwords? "ACL" = some expected ∧
      "GETUSER" ∈ expected := ⟨_, rfl, by simp⟩
  have spelled : Spelled ("ACL" ++ " " ++ "GETUSER") _ := .compound listed member (by simp) wide
  have bare : Bare "de".toList := bare_of_isBare (by decide)
  exact ⟨ready, contextAt_behind_trigger ready front spelled gap_space (by simp) bare .standard
    (Or.inl (by decide)) rfl⟩

end KeyScript.Completion
