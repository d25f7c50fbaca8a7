import KeyScript.Proofs.Script.Splitting

/-! Statements partition the tokens of a text. A separator ends its statement, so it
stands at the end of one or nowhere; merging fuses words only and leaves it there. -/
namespace KeyScript.Script

/-- No token of the elements is a separator. -/
def Unbroken (nodes : List Node) : Prop :=
  ∀ node ∈ nodes, ∀ t ∈ node.tokens, t.isSeparator = false

/-- The elements of a statement that a separator has closed, or has not. -/
inductive Ended : Bool → List Node → Prop where
  | going : Unbroken nodes → Ended false nodes
  | closed : Unbroken body → t.isSeparator = true → Ended true (body ++ [.token t])

theorem unbroken_iff {nodes : List Node} :
    Unbroken nodes ↔ ∀ t ∈ nodes.flatMap Node.tokens, t.isSeparator = false := by
  simp only [Unbroken, List.mem_flatMap]
  constructor
  · rintro all t ⟨node, member, part⟩
    exact all node member t part
  · exact fun all node member t part => all t ⟨node, member, part⟩

theorem Ended.cons (ended : Ended mark nodes) (going : t.isSeparator = false) :
    Ended mark (.token t :: nodes) := by
  have more : ∀ {nodes}, Unbroken nodes → Unbroken (.token t :: nodes) := by
    intro nodes unbroken
    refine List.forall_mem_cons.mpr ⟨?_, unbroken⟩
    simpa [Node.tokens] using going
  cases ended with
  | going unbroken => exact .going (more unbroken)
  | closed unbroken separator => exact .closed (more unbroken) separator

/-- A separator among the elements is the last of them, and no compound holds it. -/
theorem Ended.last (ended : Ended mark (before ++ node :: after)) (part : t ∈ node.tokens)
    (separator : t.isSeparator = true) : node = .token t ∧ after = [] := by
  have never : ∀ {nodes}, Unbroken nodes → node ∉ nodes := by
    intro nodes unbroken member
    rw [unbroken node member t part] at separator
    contradiction
  generalize same : before ++ node :: after = nodes at ended
  cases ended with
  | going unbroken => exact absurd (by simp [← same]) (never unbroken)
  | @closed body u unbroken _ =>
    rcases List.eq_nil_or_concat after with rfl | ⟨front, last, rfl⟩
    · obtain ⟨_, rfl⟩ := List.append_inj' same rfl |>.imp id List.singleton_inj.mp
      obtain rfl : t = u := by simpa [Node.tokens] using part
      exact ⟨rfl, rfl⟩
    · rw [List.concat_eq_append, ← List.cons_append, ← List.append_assoc] at same
      obtain ⟨rfl, _⟩ := List.append_inj' same rfl
      exact absurd (by simp) (never unbroken)

/-- Only the last token of a statement can be a separator. -/
theorem Ended.dropLast (ended : Ended mark nodes) :
    ∀ t ∈ (nodes.flatMap Node.tokens).dropLast, t.isSeparator = false := by
  cases ended with
  | going unbroken =>
    exact fun t member => unbroken_iff.mp unbroken t (List.dropLast_subset _ member)
  | @closed body t unbroken _ =>
    have last : [Node.token t].flatMap Node.tokens = [t] := rfl
    rw [List.flatMap_append, last, List.dropLast_concat]
    exact unbroken_iff.mp unbroken

theorem Merges.unique (left : Merges nodes out) (right : Merges nodes out') : out = out' :=
  congrArg Prod.fst (left.pass.symm.trans right.pass)

theorem Merges.unbroken (merged : Merges nodes out) (unbroken : Unbroken nodes) :
    Unbroken out := by
  rw [unbroken_iff] at unbroken ⊢
  rwa [merged.tokens]

/-- Merging leaves the end of a statement as it is. -/
theorem Ended.merges (ended : Ended mark nodes) (merged : Merges nodes out)
    (proper : ∀ t ∈ nodes.flatMap Node.tokens, Proper t) : Ended mark out := by
  cases ended with
  | going unbroken => exact .going (merged.unbroken unbroken)
  | @closed body t unbroken separator =>
    obtain ⟨front, fused⟩ := merges_exists body
    have bare := proper t (by simp [Node.tokens]) separator
    rw [merged.unique (fused.concat bare)]
    exact .closed (fused.unbroken unbroken) separator

theorem Splits.ended (splits : Splits line ts ss) :
    (∀ s ∈ ss.dropLast, Ended true s.nodes) ∧ ∀ s ∈ ss, ∃ mark, Ended mark s.nodes := by
  have none : Unbroken [] := fun _ member => absurd member List.not_mem_nil
  induction splits with
  | nil => simp
  | @last line t =>
    refine ⟨by simp, List.forall_mem_singleton.mpr ?_⟩
    cases separator : t.isSeparator with
    | true => exact ⟨true, .closed none separator⟩
    | false => exact ⟨false, (Ended.going none).cons separator⟩
  | close separator _ ih =>
    obtain ⟨closed, all⟩ := ih
    have first : Ended true ([] ++ [Node.token _]) := .closed none separator
    exact ⟨List.forall_mem_cons.mpr ⟨first, closed⟩, List.forall_mem_cons.mpr ⟨⟨true, first⟩, all⟩⟩
  | @join line ts s more t going _ ih =>
    obtain ⟨closed, all⟩ := ih
    obtain ⟨⟨mark, ended⟩, later⟩ := List.forall_mem_cons.mp all
    refine ⟨?_, List.forall_mem_cons.mpr ⟨⟨mark, ended.cons going⟩, later⟩⟩
    cases more with
    | nil => simp
    | cons =>
      obtain ⟨first, later⟩ := List.forall_mem_cons.mp closed
      exact List.forall_mem_cons.mpr ⟨first.cons going, later⟩

/-- A statement stands below the line breaks of the statements before it. -/
theorem Splits.line_below {s : Statement} {above below : List Statement}
    (splits : Splits line ts ss) (cut : ss = above ++ s :: below) :
    s.line = line + breaks (above.flatMap Statement.tokens) := by
  induction splits generalizing above s with
  | nil => simp at cut
  | last =>
    cases above with
    | nil =>
      obtain ⟨rfl, _⟩ := List.cons.inj cut
      rfl
    | cons => simp at cut
  | @close line ts first more t separator _ ih =>
    cases above with
    | nil =>
      obtain ⟨rfl, _⟩ := List.cons.inj cut
      rfl
    | cons head above =>
      obtain ⟨rfl, later⟩ := List.cons.inj cut
      have own : Statement.tokens ⟨line, [.token t]⟩ = [t] := rfl
      rw [ih later, List.flatMap_cons, own, List.singleton_append, breaks_cons, Nat.add_assoc]
  | @join line ts first more t going _ ih =>
    cases above with
    | nil =>
      obtain ⟨rfl, rfl⟩ := List.cons.inj cut
      have top : first.line = _ := ih (List.nil_append (first :: more)).symm
      exact top
    | cons head above =>
      obtain ⟨rfl, rfl⟩ := List.cons.inj cut
      have own : Statement.tokens { first with nodes := .token t :: first.nodes } =
        t :: first.tokens := rfl
      rw [ih List.cons_append.symm, List.flatMap_cons, List.flatMap_cons, own,
        List.cons_append, breaks_cons t, if_neg (kind_of_not_separator going), Nat.zero_add]

theorem proper_tokens (text : String) : ∀ t ∈ tokens text, Proper t := by
  obtain ⟨_, _, read⟩ := reads_tokens (Scanner.start text)
  exact read.proper

theorem statements_ended (text : String) :
    (∀ s ∈ (statements text).dropLast, Ended true s.nodes) ∧
      ∀ s ∈ statements text, ∃ mark, Ended mark s.nodes := by
  obtain ⟨closed, all⟩ := (splits_split 0 (tokens text)).ended
  have merges : ∀ s ∈ split 0 (tokens text), ∀ {mark},
      Ended mark s.nodes → Ended mark s.merge.nodes := by
    intro s member mark ended
    refine ended.merges (merges_merge s) fun t part => proper_tokens text t ?_
    rw [← tokens_statements, List.mem_flatMap]
    exact ⟨s.merge, List.mem_map_of_mem member, by rwa [tokens_merge]⟩
  rw [statements, mergeAll]
  refine ⟨?_, ?_⟩
  · rw [← List.map_dropLast, List.forall_mem_map]
    exact fun s member => merges s (List.dropLast_subset _ member) (closed s member)
  · rw [List.forall_mem_map]
    intro s member
    obtain ⟨mark, ended⟩ := all s member
    exact ⟨mark, merges s member ended⟩

theorem statements_line_below (cut : statements text = above ++ s :: below) :
    s.line = breaks (above.flatMap Statement.tokens) := by
  obtain ⟨above, rest, same, rfl, merged⟩ := List.map_eq_append_iff.mp cut
  obtain ⟨s, below, rfl, rfl, _⟩ := List.map_eq_cons_iff.mp merged
  rw [line_merge, (splits_split 0 (tokens text)).line_below same, Nat.zero_add, List.flatMap_map]
  simp only [tokens_merge]

/-- The tokens, cut after each separator. -/
structure Partition (ts : List Token) (ss : List Statement) : Prop where
  tokens : ss.flatMap Statement.tokens = ts
  nonempty : ∀ s ∈ ss, s.nodes ≠ []
  /-- A separator is the last element of its statement, and no compound holds one. -/
  separators : ∀ s ∈ ss, ∀ before node after, s.nodes = before ++ node :: after →
    ∀ t ∈ node.tokens, t.isSeparator = true → node = .token t ∧ after = []
  closed : ∀ s ∈ ss.dropLast, ∃ t, s.nodes.getLast? = some (.token t) ∧ t.isSeparator = true
  line : ∀ above s below, ss = above ++ s :: below →
    s.line = breaks (above.flatMap Statement.tokens)

theorem partition_statements (text : String) : Partition (tokens text) (statements text) := by
  obtain ⟨closed, all⟩ := statements_ended text
  refine ⟨tokens_statements text, fun s member empty => ?_, ?_, fun s member => ?_,
    fun above s below cut => statements_line_below cut⟩
  · apply statements_tokens_ne_nil s member
    rw [Statement.tokens, empty]
    rfl
  · intro s member before node after cut t part separator
    obtain ⟨mark, ended⟩ := all s member
    rw [cut] at ended
    exact ended.last part separator
  · have ended := closed s member
    generalize s.nodes = nodes at ended
    cases ended with
    | closed _ separator => exact ⟨_, by simp, separator⟩

/-- Only the empty text is refused. Every other text is cut into statements that hold
its tokens in order, each after the line breaks above it. -/
theorem parse_partition (text : String) : (parse text = .error .emptyInput ↔ text = "") ∧
    (text ≠ "" → ∃ ss, parse text = .ok ss ∧ Partition (tokens text) ss) := by
  refine ⟨⟨fun failed => ?_, ?_⟩, fun nonempty => ?_⟩
  · by_cases empty : text = ""
    · exact empty
    · rw [parse_eq_ok empty] at failed
      contradiction
  · rintro rfl
    exact parse_empty
  · exact ⟨statements text, parse_eq_ok nonempty, partition_statements text⟩

theorem parse_partition_blank_lines : "ACL  LIST;\n;\n\n" ≠ "" ∧
    ∃ ss, parse "ACL  LIST;\n;\n\n" = .ok ss ∧ Partition (tokens "ACL  LIST;\n;\n\n") ss :=
  ⟨by decide, (parse_partition _).2 (by decide)⟩

end KeyScript.Script
