import KeyScript.Proofs.Script.Merging

/-! Statements of a text. The split of a token list is described by how each token
joins the statements behind it; it is composed at separators, and each statement
keeps the tokens it was made from when its compounds are merged. -/
namespace KeyScript.Script

/-- A separator in front of other statements is one by itself; any other token goes
to the front of the statement that follows. -/
inductive Splits : Nat → List Token → List Statement → Prop where
  | nil : Splits line [] []
  | last : Splits line [t] [⟨line, [.token t]⟩]
  | close : t.isSeparator = true →
      Splits (line + if t.kind = .lineBreak then 1 else 0) ts (s :: more) →
      Splits line (t :: ts) (⟨line, [.token t]⟩ :: s :: more)
  | join : t.isSeparator = false → Splits line ts (s :: more) →
      Splits line (t :: ts) ({ s with nodes := .token t :: s.nodes } :: more)

theorem splits_split (line : Nat) (ts : List Token) : Splits line ts (split line ts) := by
  induction ts generalizing line with
  | nil => exact .nil
  | cons t ts ih =>
    cases ts with
    | nil => simpa [split] using Splits.last
    | cons u ts =>
      have next : ∀ line, ∃ s more, split line (u :: ts) = s :: more := by
        intro line
        rw [split]
        split
        · exact ⟨_, _, rfl⟩
        · split <;> exact ⟨_, _, rfl⟩
      have advance : (if t.kind = .lineBreak then line + 1 else line) =
          line + if t.kind = .lineBreak then 1 else 0 := by split <;> rfl
      rw [split]
      cases separator : t.isSeparator with
      | true =>
        rw [if_pos (by simp), advance]
        obtain ⟨s, more, rest⟩ := next (line + if t.kind = .lineBreak then 1 else 0)
        rw [rest]
        exact .close separator (rest ▸ ih _)
      | false =>
        rw [if_neg (by simp)]
        obtain ⟨s, more, rest⟩ := next line
        rw [rest]
        exact .join separator (rest ▸ ih line)

theorem Splits.unique (left : Splits line ts ss) (right : Splits line ts ss') : ss = ss' := by
  induction left generalizing ss' with
  | nil => cases right; rfl
  | last =>
    cases right with
    | last => rfl
    | close _ rest => cases rest
    | join _ rest => cases rest
  | close separator rest ih =>
    cases right with
    | last => cases rest
    | close _ rest' => rw [ih rest']
    | join going => rw [separator] at going; contradiction
  | join going rest ih =>
    cases right with
    | last => cases rest
    | close separator => rw [separator] at going; contradiction
    | join _ rest' =>
      obtain ⟨rfl, rfl⟩ := List.cons.inj (ih rest')
      rfl

theorem Splits.eq (splits : Splits line ts ss) : split line ts = ss :=
  (splits_split line ts).unique splits

theorem split_eq_nil_iff {ts : List Token} : split line ts = [] ↔ ts = [] := by
  constructor
  · intro empty
    have splits := splits_split line ts
    rw [empty] at splits
    cases splits
    rfl
  · rintro rfl
    rfl

theorem scan_eq_nil_iff {cs : List Char} : scan cs = [] ↔ cs = [] := by
  constructor
  · intro empty
    obtain ⟨offset, column, read⟩ := reads_tokens ⟨0, 0, cs⟩
    rw [← scan, empty] at read
    cases read
    rfl
  · rintro rfl
    exact tokens_end 0 0

/-- Statements of a text with their compounds; the empty text has none. -/
def statements (text : String) : List Statement := mergeAll (split 0 (tokens text))

theorem statements_eq_nil_iff {text : String} : statements text = [] ↔ text = "" := by
  rw [statements, mergeAll, List.map_eq_nil_iff, split_eq_nil_iff, tokens_eq_scan, scan_eq_nil_iff,
    String.toList_eq_nil_iff]

theorem parse_eq_ok (nonempty : text ≠ "") : parse text = .ok (statements text) := by
  have some : tokens text ≠ [] := by
    rwa [tokens_eq_scan, Ne, scan_eq_nil_iff, String.toList_eq_nil_iff]
  simp [parse, build, some, statements, Except.map]

theorem parse_empty : parse "" = .error .emptyInput := by
  have none : tokens "" = [] := scan_eq_nil_iff.mpr rfl
  simp [parse, build, none, Except.map]

/-- The tokens of a statement in text order. -/
def Statement.tokens (s : Statement) : List Token := s.nodes.flatMap Node.tokens

@[simp] theorem line_merge (s : Statement) : s.merge.line = s.line := rfl

theorem tokens_merge (s : Statement) : s.merge.tokens = s.tokens := (merges_merge s).tokens

/-- Before merging, the elements of the statements are the tokens, one by one. -/
theorem Splits.nodes (splits : Splits line ts ss) :
    ss.flatMap Statement.nodes = ts.map Node.token := by
  induction splits with
  | nil => rfl
  | last => rfl
  | close _ _ ih => rw [List.flatMap_cons, ih]; rfl
  | join _ _ ih => rw [List.map_cons, ← ih]; rfl

theorem Splits.token_of_node (splits : Splits line ts ss) (member : s ∈ ss) (node : n ∈ s.nodes) :
    ∃ t ∈ ts, n = .token t := by
  have flat : n ∈ ss.flatMap Statement.nodes := List.mem_flatMap.mpr ⟨s, member, node⟩
  rw [splits.nodes] at flat
  obtain ⟨t, inside, rfl⟩ := List.mem_map.mp flat
  exact ⟨t, inside, rfl⟩

theorem Splits.getLast?_cons (rest : Splits line ts (s :: more)) (t : Token) :
    (t :: ts).getLast? = ts.getLast? := by
  cases ts with
  | nil => cases rest
  | cons u ts => rfl

theorem kind_of_not_separator {t : Token} (going : t.isSeparator = false) : t.kind ≠ .lineBreak := by
  intro feed
  simp [Token.isSeparator, feed] at going

/-- Splitting is compositional after a separator. -/
theorem Splits.append (splits : Splits line ts ss)
    (ends : ∀ t ∈ ts.getLast?, t.isSeparator = true)
    (below : Splits (line + breaks ts) us vs) : Splits line (ts ++ us) (ss ++ vs) := by
  induction splits with
  | nil => simpa using below
  | @last line t =>
    cases vs with
    | nil =>
      cases below
      exact .last
    | cons v vs =>
      rw [breaks_cons, breaks_nil, Nat.add_zero] at below
      exact .close (ends t (by simp)) below
  | close separator rest ih =>
    rw [breaks_cons, ← Nat.add_assoc] at below
    rw [rest.getLast?_cons] at ends
    exact .close separator (ih ends below)
  | join going rest ih =>
    rw [breaks_cons, if_neg (kind_of_not_separator going), Nat.zero_add] at below
    rw [rest.getLast?_cons] at ends
    exact .join going (ih ends below)

theorem Node.getLast?_tokens (node : Node) : node.tokens.getLast? = some node.last := by
  cases node with
  | token => rfl
  | compound container more => exact List.getLast?_cons

namespace Statement

theorem toList_text (s : Statement) :
    s.text.toList = s.tokens.flatMap fun t => t.text.toList := by
  simp only [text, tokens, Node.text, String.toList_join, List.flatMap_map, List.flatMap_assoc]

theorem head?_tokens (s : Statement) : s.tokens.head? = s.nodes.head?.map Node.first := by
  rw [tokens]
  cases s.nodes with
  | nil => rfl
  | cons node nodes => cases node <;> rfl

theorem getLast?_tokens (s : Statement) : s.tokens.getLast? = s.nodes.getLast?.map Node.last := by
  rw [tokens]
  cases ends : s.nodes.getLast? with
  | none =>
    have empty := List.getLast?_eq_none_iff.mp ends
    simp [empty]
  | some node =>
    obtain ⟨nodes, same⟩ := List.getLast?_eq_some_iff.mp ends
    simp [same, List.flatMap_append, Node.getLast?_tokens]

/-- A statement spans the columns from its first token to its last. -/
theorem columns_eq (s : Statement) : s.columns = ⟨(s.tokens.head?.map (·.columns.first)).getD 0,
    (s.tokens.getLast?.map (·.columns.last)).getD 0⟩ := by
  rw [head?_tokens, getLast?_tokens, Option.map_map, Option.map_map]
  rfl

theorem place_eq (s : Statement) : s.place = ⟨(s.tokens.head?.map (·.place.first)).getD 0,
    (s.tokens.getLast?.map (·.place.last)).getD 0⟩ := by
  rw [head?_tokens, getLast?_tokens, Option.map_map, Option.map_map]
  rfl

@[simp] theorem columns_merge (s : Statement) : s.merge.columns = s.columns := by
  rw [columns_eq, columns_eq, tokens_merge]

end Statement

theorem Splits.nodes_ne_nil (splits : Splits line ts ss) : ∀ s ∈ ss, s.nodes ≠ [] := by
  induction splits with
  | nil => simp
  | last => simp
  | close _ _ ih => exact List.forall_mem_cons.mpr ⟨by simp, ih⟩
  | join _ _ ih => exact List.forall_mem_cons.mpr ⟨by simp, (List.forall_mem_cons.mp ih).2⟩

theorem tokens_ne_nil {s : Statement} (nonempty : s.nodes ≠ []) : s.tokens ≠ [] := by
  obtain ⟨node, nodes, same⟩ := List.exists_cons_of_ne_nil nonempty
  cases node <;> simp [Statement.tokens, same, Node.tokens]

theorem merge_nodes_ne_nil {s : Statement} (nonempty : s.nodes ≠ []) : s.merge.nodes ≠ [] := by
  intro empty
  have tokens := tokens_merge s
  rw [Statement.tokens, empty] at tokens
  exact tokens_ne_nil nonempty tokens.symm

theorem statements_tokens_ne_nil {text : String} : ∀ s ∈ statements text, s.tokens ≠ [] := by
  intro s member
  obtain ⟨s, inside, rfl⟩ := List.mem_map.mp member
  rw [tokens_merge]
  exact tokens_ne_nil ((splits_split 0 (tokens text)).nodes_ne_nil s inside)

theorem tokens_statements (text : String) :
    (statements text).flatMap Statement.tokens = tokens text := by
  have nodes := congrArg (List.flatMap Node.tokens) (splits_split 0 (tokens text)).nodes
  simp only [statements, mergeAll, List.flatMap_map, tokens_merge]
  rw [List.flatMap_assoc, flatMap_tokens_map] at nodes
  exact nodes

theorem tokens_cut (cut : statements text = above ++ s :: below) : tokens text =
    above.flatMap Statement.tokens ++ (s.tokens ++ below.flatMap Statement.tokens) := by
  rw [← tokens_statements, cut, List.flatMap_append, List.flatMap_cons]

theorem Splits.line_eq (splits : Splits line ts ss) (going : breaks ts = 0) :
    ∀ s ∈ ss, s.line = line := by
  induction splits with
  | nil => simp
  | last => simp
  | close _ _ ih =>
    obtain ⟨same, rest⟩ := Nat.add_eq_zero_iff.mp ((breaks_cons _ _).symm.trans going)
    rw [same] at ih
    exact List.forall_mem_cons.mpr ⟨rfl, ih rest⟩
  | join _ _ ih =>
    obtain ⟨_, rest⟩ := Nat.add_eq_zero_iff.mp ((breaks_cons _ _).symm.trans going)
    exact List.forall_mem_cons.mpr (List.forall_mem_cons.mp (ih rest))

theorem Splits.line_le (splits : Splits line ts ss) : ∀ s ∈ ss, line ≤ s.line := by
  induction splits with
  | nil => simp
  | last => simp
  | close _ _ ih =>
    exact List.forall_mem_cons.mpr ⟨Nat.le_refl _,
      fun s member => Nat.le_trans (Nat.le_add_right _ _) (ih s member)⟩
  | join _ _ ih => exact List.forall_mem_cons.mpr (List.forall_mem_cons.mp ih)

/-- Every statement of complete lines stands above the line after them. -/
theorem Splits.line_lt (splits : Splits line ts ss) (last : ts.getLast? = some t)
    (feed : t.kind = .lineBreak) : ∀ s ∈ ss, s.line < line + breaks ts := by
  induction splits with
  | nil => simp at last
  | last =>
    simp only [List.getLast?_singleton, Option.some.injEq] at last
    subst last
    simp [breaks_cons, feed]
  | close _ rest ih =>
    rw [rest.getLast?_cons] at last
    have below := ih last
    have first := below _ List.mem_cons_self
    have after := rest.line_le _ List.mem_cons_self
    rw [breaks_cons, ← Nat.add_assoc]
    exact List.forall_mem_cons.mpr ⟨by simp only; omega, below⟩
  | join going rest ih =>
    rw [rest.getLast?_cons] at last
    rw [breaks_cons, if_neg (kind_of_not_separator going), Nat.zero_add]
    exact List.forall_mem_cons.mpr (List.forall_mem_cons.mp (ih last))

end KeyScript.Script
