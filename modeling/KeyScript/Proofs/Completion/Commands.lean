import KeyScript.Completion.Candidates
import KeyScript.Proofs.Completion.Typing
import KeyScript.Proofs.Text.Bytes

/-! Commands while they are typed. What is typed of a command is one word, or the name of a
container, a blank and a part of a subword, each in any case. No element in front of the
cursor is a trigger, so the text that is typed is completed, and the command is one of
those that continue it. -/
namespace KeyScript.Text

theorem trimStart_eq_self (solid : isBlank c = false) (cs : List Char) :
    trimStart (String.ofList (c :: cs)) = String.ofList (c :: cs) := by
  simp [trimStart, dropBlank, solid]

end KeyScript.Text

namespace KeyScript.Vocabulary

theorem mem_eraseReps_loop {x a : String} {words seen : List String} :
    x ∈ List.eraseRepsBy.loop (· == ·) a words seen ↔ x = a ∨ x ∈ words ∨ x ∈ seen := by
  induction words generalizing a seen with
  | nil => simp [List.eraseRepsBy.loop, or_comm]
  | cons b words ih =>
    rw [List.eraseRepsBy.loop]
    split
    · rename_i same
      obtain rfl := eq_of_beq same
      rw [ih, List.mem_cons]
      tauto
    · rw [ih, List.mem_cons, List.mem_cons]
      tauto

theorem mem_eraseReps {x : String} {words : List String} : x ∈ words.eraseReps ↔ x ∈ words := by
  cases words with
  | nil => rfl
  | cons a words =>
    rw [List.eraseReps, List.eraseRepsBy, mem_eraseReps_loop]
    simp

theorem mem_commands_iff {w : String} : w ∈ commands ↔ w ∈ singles ∨
    ∃ container ∈ containers, ∃ subword ∈ container.subwords,
      w = container.name ++ " " ++ subword := by
  rw [commands, mem_eraseReps, List.mem_mergeSort, List.mem_append]
  simp only [List.mem_flatMap, Container.commands, List.mem_map, eq_comm (b := w)]

theorem singles_bare : ∀ word ∈ singles, Script.isBare word = true := by
  decide +kernel

end KeyScript.Vocabulary

namespace KeyScript.Completion
open Script

theorem endsWord_letter {c : Char} (letter : 65 ≤ c.toNat ∧ c.toNat ≤ 122 ∧ c.toNat ≠ 92) :
    endsWord c = false := by
  have sign : ∀ d : Char, d.toNat ≠ c.toNat → (c == d) = false := by
    intro d other
    simpa using fun same => other (congrArg Char.toNat same).symm
  have solid : Text.isBlank c = false := by
    simp only [Text.isBlank, Bool.or_eq_false_iff, Bool.and_eq_false_iff, decide_eq_false_iff_not,
      beq_eq_false_iff_ne]
    omega
  simp only [endsWord, isEscape, solid, Bool.false_or]
  rw [sign ';', sign '"', sign '\\'] <;> simp only [Char.reduceToNat, Bool.or_self] <;> omega

/-- The characters that end a word have no case. -/
theorem fold_sign (ends : endsWord c = true) : Text.fold c = c := by
  rcases Text.fold_cases c with same | ⟨lower, upper, _⟩
  · exact same
  · rw [endsWord_letter (by omega)] at ends
    contradiction

theorem endsWord_fold (c : Char) : endsWord (Text.fold c) = endsWord c := by
  rcases Text.fold_cases c with same | ⟨lower, upper, moved⟩
  · rw [same]
  · rw [endsWord_letter (c := Text.fold c) (by omega), endsWord_letter (c := c) (by omega)]

theorem Bare.of_fold (bare : Bare q) (same : p.map Text.fold = q.map Text.fold) : Bare p := by
  intro c member
  have image : Text.fold c ∈ q.map Text.fold := same ▸ List.mem_map_of_mem member
  obtain ⟨d, inside, equal⟩ := List.mem_map.mp image
  rw [← endsWord_fold, ← equal, endsWord_fold]
  exact bare d inside

theorem eq_blank_of_fold (same : Text.fold c = Text.fold ' ') : c = ' ' := by
  have ends : endsWord c = true := by
    rw [← endsWord_fold, same]
    decide
  rw [← fold_sign ends, same]
  decide

/-- What is typed of a command: a word, or a container, a blank and a word. -/
theorem typed_cases (known : w ∈ Vocabulary.commands) (part : q <+: w.toList)
    (same : p.map Text.fold = q.map Text.fold) : Bare p ∨
      ∃ container ∈ Vocabulary.containers, ∃ u v, p = u ++ ' ' :: v ∧ Bare u ∧ Bare v ∧
        u.map Text.fold = Text.folded container.name := by
  rcases Vocabulary.mem_commands_iff.mp known with single | ⟨container, member, subword, listed, rfl⟩
  · left
    have bare := bare_of_isBare (Vocabulary.singles_bare w single)
    exact (bare.subset part.subset).of_fold same
  · obtain ⟨first, later⟩ := containers_bare container member
    have name := bare_of_isBare first
    have tail := bare_of_isBare (later subword listed)
    obtain ⟨rest, whole⟩ := part
    rw [String.toList_append, String.toList_append, List.append_assoc] at whole
    -- What is typed ends inside the name, at its end, or behind the blank.
    rcases List.append_eq_append_iff.mp whole with ⟨more, short, _⟩ | ⟨more, long, follow⟩
    · left
      have sub : q ⊆ container.name.toList := by simp [short]
      exact (name.subset sub).of_fold same
    · cases more with
      | nil =>
        left
        rw [List.append_nil] at long
        exact (long ▸ name : Bare q).of_fold same
      | cons c more =>
        right
        obtain ⟨rfl, cut⟩ : ' ' = c ∧ subword.toList = more ++ rest := by simpa using follow
        rw [long, List.map_append, List.map_cons] at same
        obtain ⟨u, v', rfl, head, rest'⟩ := List.map_eq_append_iff.mp same
        obtain ⟨b, v, rfl, blank, last⟩ := List.map_eq_cons_iff.mp rest'
        obtain rfl := eq_blank_of_fold blank
        have sub : more ⊆ subword.toList := by simp [cut]
        exact ⟨container, member, u, v, rfl, name.of_fold head, (tail.subset sub).of_fold last, head⟩

/-- When no element near the cursor is a trigger, all that is typed is completed. -/
theorem Typed.command (ready : Ready d) (typed : Typed d (c :: cs) ts)
    (solid : Text.isBlank c = false)
    (quiet : ∀ node, Nearest (typedStatement d ts) (Text.column d.toList + cs.length) node →
      node.keyword ∉ triggers.users ∧ node.keyword ∉ triggers.keys) :
    contextAt triggers (d ++ String.ofList (c :: cs)) (d.toList.count '\n')
      (Text.column d.toList + (c :: cs).length) = .command (String.ofList (c :: cs)) := by
  have before : Text.trimStart (Resolution.textBefore ⟨typedStatement d ts, cs.length + 1,
      some (Text.column d.toList + cs.length)⟩) = String.ofList (c :: cs) := by
    rw [Resolution.textBefore, typed.text_eq]
    simpa using Text.trimStart_eq_self solid cs
  rw [typed.contextAt_end ready List.length_cons]
  by_cases near : ∃ node, Nearest (typedStatement d ts) (Text.column d.toList + cs.length) node
  · obtain ⟨node, nearest⟩ := near
    obtain ⟨noUser, noKey⟩ := quiet node nearest
    rw [classifyAt_nearest (typed.not_fresh _) nearest, if_neg noUser, if_neg noKey, before]
  · rw [classifyAt_first (typed.not_fresh _) (fun node found => near ⟨node, found⟩), before]

/-- A word, blanks and the word in front of the cursor stay apart, or they are fused. -/
theorem merges_typed {blanks : List Token} {last : Option Token}
    (all : ∀ b ∈ blanks, b.isBlank = true) (solid : ∀ u ∈ last, Solid u) (t : Token) :
    Merges ((t :: (blanks ++ last.toList)).map .token)
        ((t :: (blanks ++ last.toList)).map .token) ∨
      ∃ u ∈ last, Merges ((t :: (blanks ++ last.toList)).map .token)
        [.compound t (blanks ++ [u])] := by
  rw [List.map_cons, List.map_append]
  cases opened : opens (.token t) (blanks.map .token ++ last.toList.map .token) with
  | none => exact Or.inl (.keep opened (Merges.blanks all (merges_option last)))
  | some container =>
    obtain ⟨same, first, expected, known, next⟩ := opens_eq_some_iff.mp opened
    obtain rfl := Node.token.inj same
    rw [nextIs_blanks all] at next
    cases last with
    | none => contradiction
    | some u =>
      have blank : (Node.token u).isBlank = false := (solid u rfl).1
      have member : (Node.token u).text ∈ expected := by simpa [nextIs, blank] using next
      exact Or.inr ⟨u, rfl, .fuse first known all blank member .nil⟩

/-- The element nearest to the cursor is the first word, unless there is none. -/
theorem nearest_keyword {blanks : List Token} {last : Option Token}
    (all : ∀ b ∈ blanks, b.isBlank = true)
    (ends : ∀ u ∈ last, Solid u ∧ u.columns.last = column)
    (nearest : Nearest (typedStatement d (t :: (blanks ++ last.toList))) column node) :
    node.keyword = t.text := by
  obtain ⟨earlier, later, order, solid, before, _⟩ := nearest
  rcases merges_typed all (fun u member => (ends u member).1) t with kept | ⟨u, member, fused⟩
  · rw [nodes_typedStatement d kept] at order
    have inside : node ∈ (t :: (blanks ++ last.toList)).map Node.token := by simp [order]
    obtain ⟨v, listed, rfl⟩ := List.mem_map.mp inside
    rcases List.mem_cons.mp listed with rfl | listed
    · rfl
    · rcases List.mem_append.mp listed with blank | final
      · have blank : (Node.token v).isBlank = true := all v blank
        rw [blank] at solid
        contradiction
      · have reach : (Node.token v).columns.last = column :=
          (ends v (Option.mem_toList.mp final)).2
        omega
  · rw [nodes_typedStatement d fused] at order
    have inside : node ∈ [Node.compound t (blanks ++ [u])] := by simp [order]
    obtain rfl := List.mem_singleton.mp inside
    have reach : (Node.compound t (blanks ++ [u])).columns.last = column := by
      simpa [Node.columns, Node.last] using (ends u member).2
    omega

theorem containers_quiet : ∀ container ∈ Vocabulary.containers,
    ∀ word ∈ Triggers.standard.keys, Text.folded word ≠ Text.folded container.name := by
  decide +kernel

/-- The name of a container is no trigger in any case. -/
theorem not_trigger_of_container (member : container ∈ Vocabulary.containers) (bare : Bare u)
    (same : u.map Text.fold = Text.folded container.name) :
    String.ofList u ∉ Triggers.standard.users ∧ String.ofList u ∉ Triggers.standard.keys := by
  refine ⟨fun user => ?_, fun key => ?_⟩
  · have whole : String.ofList u = "ACL GETUSER" := List.mem_singleton.mp user
    have blank : ' ' ∈ (String.ofList u).toList := by
      rw [whole]
      decide
    rw [String.toList_ofList] at blank
    exact absurd (bare ' ' blank) (by decide)
  · apply containers_quiet container member _ key
    rw [Text.folded, String.toList_ofList, same]

theorem contextAt_word (ready : Ready d) (bare : Bare (c :: cs)) (triggers : Triggers) :
    contextAt triggers (d ++ String.ofList (c :: cs)) (d.toList.count '\n')
      (Text.column d.toList + (c :: cs).length) = .command (String.ofList (c :: cs)) := by
  have stop : ∀ c ∈ ([] : List Char).head?, endsWord c = true := nofun
  obtain ⟨t, solid, _, ends, read⟩ :=
    reads_word (List.cons_ne_nil c cs) bare stop d.length (Text.column d.toList)
  rw [List.append_nil] at read
  have typed : Typed d (c :: cs) [t] :=
    ⟨⟨_, _, read⟩, by simpa using solid.2, bare.plain⟩
  have first := (endsWord_false (bare c List.mem_cons_self)).1
  refine typed.command ready first fun node nearest => ?_
  -- The only element ends at the cursor, so none stands in front of it.
  obtain ⟨earlier, later, order, _, before, _⟩ := nearest
  have alone : Merges ([t].map .token) [.token t] := merges_single (.token t)
  rw [nodes_typedStatement d alone] at order
  obtain rfl : node = .token t := List.mem_singleton.mp (by rw [order]; simp)
  have reach : (Node.token t).columns.last + 1 = _ := ends
  rw [List.length_cons] at reach
  omega

theorem contextAt_container (ready : Ready d) (member : container ∈ Vocabulary.containers)
    (bare : Bare (c :: cs)) (part : Bare v)
    (same : (c :: cs).map Text.fold = Text.folded container.name) :
    contextAt .standard (d ++ String.ofList ((c :: cs) ++ ' ' :: v)) (d.toList.count '\n')
      (Text.column d.toList + ((c :: cs) ++ ' ' :: v).length) =
        .command (String.ofList ((c :: cs) ++ ' ' :: v)) := by
  obtain ⟨t, solid, text, _, read⟩ := reads_word (List.cons_ne_nil c cs) bare
    (gap_space.stops (by simp) v) d.length (Text.column d.toList)
  obtain ⟨blanks, all, read₁⟩ := reads_gap gap_space (d.length + (c :: cs).length)
    (Text.column d.toList + (c :: cs).length) v
  obtain ⟨last, ends, read₂⟩ := reads_last_word part (d.length + (c :: cs).length + [' '].length)
    (Text.column d.toList + (c :: cs).length + [' '].length)
  have typed : Typed d (c :: (cs ++ ' ' :: v)) (t :: (blanks ++ last.toList)) := by
    refine ⟨⟨_, _, read.append (read₁.append read₂)⟩, ?_, ?_⟩
    · rw [List.forall_mem_cons, List.forall_mem_append]
      exact ⟨solid.2, going_of_blank all, fun u inside => (ends u (Option.mem_toList.mp inside)).1.2⟩
    · have plain := List.forall_mem_append.mpr ⟨bare.plain,
        List.forall_mem_append.mpr ⟨gap_space.plain, part.plain⟩⟩
      exact plain
  have first := (endsWord_false (bare c List.mem_cons_self)).1
  refine typed.command ready first fun node nearest => ?_
  rw [nearest_keyword all (fun u inside => ⟨(ends u inside).1, ?_⟩) nearest, text]
  · exact not_trigger_of_container member bare same
  · have reach := (ends u inside).2
    have long : (cs ++ ' ' :: v).length = cs.length + (v.length + 1) := List.length_append
    rw [List.length_cons, List.length_singleton] at reach
    change u.columns.last = Text.column d.toList + (cs ++ ' ' :: v).length
    omega

theorem mem_candidates {items : List String} : w ∈ candidates items typed ↔
    w ∈ items ∧ Text.startsFolded w typed = true := by
  rw [candidates, List.mem_mergeSort, List.mem_filter]

/-- Every command can be completed while it is typed. For every document that is empty or
ends with a separator, every command and every part of it from its start, in any case, the
cursor behind that part completes what is typed, and the command is offered. -/
theorem complete_typed_command (ready : Ready d) (known : w ∈ Vocabulary.commands)
    (part : q.toList <+: w.toList) (same : Text.sameFolded p q = true) (some : p ≠ "")
    (names : Names) :
    (complete .standard names (d ++ p) (d.toList.count '\n')
      (Text.column d.toList + p.length)).context = .command p ∧
    w ∈ (complete .standard names (d ++ p) (d.toList.count '\n')
      (Text.column d.toList + p.length)).candidates := by
  have folded : p.toList.map Text.fold = q.toList.map Text.fold := eq_of_beq same
  have context : contextAt .standard (d ++ p) (d.toList.count '\n')
      (Text.column d.toList + p.length) = .command p := by
    rw [← String.ofList_toList (s := p), String.length_ofList]
    rcases typed_cases known part folded with bare | ⟨container, member, u, v, cut, bare, last, head⟩
    · obtain ⟨c, cs, cut⟩ := List.exists_cons_of_ne_nil (mt String.toList_eq_nil_iff.mp some)
      rw [cut] at bare ⊢
      exact contextAt_word ready bare .standard
    · have nonempty : u ≠ [] := by
        rintro rfl
        have name := (containers_nonempty container member).1
        simp [Text.folded, name] at head
      obtain ⟨c, cs, rfl⟩ := List.exists_cons_of_ne_nil nonempty
      rw [cut]
      exact contextAt_container ready member bare last head
  refine ⟨context, ?_⟩
  rw [complete]
  simp only [context, offer]
  refine mem_candidates.mpr ⟨known, ?_⟩
  rw [Text.startsFolded, List.isPrefixOf_iff_prefix, Text.folded, folded]
  exact part.map Text.fold

/-- A string, a dropped backslash and a terminator stand in front of the container on its
line, and two letters of the subword are typed. -/
theorem complete_typed_config_get :
    Ready ";\n\"x;\\\"\\;" ∧
    (complete .standard .empty (";\n\"x;\\\"\\;" ++ "Config gE") 1 16).context =
      .command "Config gE" ∧
    "CONFIG GET" ∈
      (complete .standard .empty (";\n\"x;\\\"\\;" ++ "Config gE") 1 16).candidates := by
  have ready : Ready ";\n\"x;\\\"\\;" := ⟨by decide +kernel, by decide +kernel⟩
  have known : "CONFIG GET" ∈ Vocabulary.commands := Vocabulary.mem_commands_iff.mpr
    (Or.inr ⟨⟨"CONFIG", ["GET", "REWRITE", "SET", "RESETSTAT"]⟩, by simp [Vocabulary.containers],
      "GET", by simp, rfl⟩)
  have part : "CONFIG GE".toList <+: "CONFIG GET".toList := ⟨['T'], by decide⟩
  have same : Text.sameFolded "Config gE" "CONFIG GE" = true := by decide
  exact ⟨ready, complete_typed_command ready known part same (by decide) .empty⟩

end KeyScript.Completion
