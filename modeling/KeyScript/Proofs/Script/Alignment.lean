import KeyScript.Proofs.Script.Extent
import KeyScript.Proofs.Script.Seams

/-! The two ways of counting agree. A token, an element and a statement each have a span
in the text and a span on their line; both are equally wide, and they lie apart by the
place where the line starts, which is behind the last line break in front of them. A
line feed inside a string starts no line. -/
namespace KeyScript.Script

/-- The offset behind the last line break of `ts`, or that of the text. -/
def lineStart (ts : List Token) : Nat :=
  ((ts.reverse.find? (·.kind == .lineBreak)).map (·.place.last + 1)).getD 0

def preceding (ts : List Token) (index : Nat) : List Token :=
  ts.filter (·.place.last < index)

/-- A span of the text and the columns of the same characters on their line. -/
structure Aligned (ts : List Token) (place columns : Span) : Prop where
  forward : place.first ≤ place.last
  onward : columns.first ≤ columns.last
  width : columns.last - columns.first = place.last - place.first
  start : place.first = columns.first + lineStart (preceding ts place.first)

theorem lineStart_concat (ts : List Token) (t : Token) : lineStart (ts ++ [t]) =
    if t.kind = .lineBreak then t.place.last + 1 else lineStart ts := by
  rw [lineStart, List.reverse_append, List.reverse_singleton, List.singleton_append,
    List.find?_cons]
  by_cases feed : t.kind = .lineBreak
  · simp [feed]
  · have other : (t.kind == .lineBreak) = false := by simpa using feed
    rw [other, if_neg feed]
    rfl

theorem Step.lineStart (step : Step s t after) (start : s.offset = s.column + lineStart ts) :
    after.offset = after.column + Script.lineStart (ts ++ [t]) := by
  rw [lineStart_concat]
  split
  · rename_i feed
    rw [step.offset_after, step.column_after, if_pos feed, Nat.zero_add]
  · rename_i going
    have together := step.synchronized.2.2 going
    omega

/-- Whatever has been read, the scanner's two counts lie apart by the start of its line. -/
theorem Reads.lineStart (read : Reads s ts after) (seen : List Token)
    (start : s.offset = s.column + lineStart seen) :
    after.offset = after.column + Script.lineStart (seen ++ ts) := by
  induction read generalizing seen with
  | done => rwa [List.append_nil]
  | step step _ ih =>
    rw [List.append_cons]
    exact ih _ (step.lineStart start)

theorem preceding_tokens (cut : tokens text = before ++ t :: after) :
    preceding (tokens text) t.place.first = before := by
  have tiled := tiled_tokens text
  have forward : ∀ u ∈ tokens text, u.place.first ≤ u.place.last :=
    fun u member => (tiled.inside u member).2.1
  have ordered := tiled.ordered
  rw [cut] at ordered forward ⊢
  obtain ⟨_, later, across⟩ := List.pairwise_append.mp ordered
  have front : before.filter (·.place.last < t.place.first) = before := by
    apply List.filter_eq_self.mpr
    intro u member
    simpa using across u member t List.mem_cons_self
  have behind : (t :: after).filter (·.place.last < t.place.first) = [] := by
    apply List.filter_eq_nil_iff.mpr
    intro u member
    have here := forward t (by simp)
    have reach := forward u (List.mem_append_right _ member)
    rcases List.mem_cons.mp member with rfl | member
    · simpa using reach
    · have := (List.pairwise_cons.mp later).1 u member
      simp only [decide_eq_true_eq]
      omega
  rw [preceding, List.filter_append, front, behind, List.append_nil]

/-- What stands on one line is aligned, however many tokens it has. -/
theorem aligned_run (run : Statement) (cut : tokens text = before ++ (run.tokens ++ after))
    (some : run.tokens ≠ []) (going : ∀ t ∈ run.tokens.dropLast, t.isSeparator = false) :
    Aligned (tokens text) run.place run.columns := by
  obtain ⟨_, _, read⟩ := reads_tokens (Scanner.start text)
  rw [← tokens, cut] at read
  obtain ⟨start, upper, rest⟩ := read.split
  obtain ⟨_, own, _⟩ := rest.split
  have origin := upper.lineStart [] rfl
  rw [List.nil_append] at origin
  -- Both ends lie apart from their columns as the counts do where the run starts.
  obtain ⟨head, starts, last, ends, place, columns⟩ := span_ends some
  have final := List.mem_of_mem_getLast? ends
  have left := own.synchronized going head (List.mem_of_mem_head? starts)
  have right := own.synchronized going last final
  have tiled := tiled_tokens text
  have part : run.tokens.Sublist (tokens text) := by
    rw [cut]
    exact (List.sublist_append_left _ _).trans (List.sublist_append_right _ _)
  have forward : ∀ t ∈ run.tokens, t.place.first ≤ t.place.last :=
    fun t member => (tiled.inside t (part.subset member)).2.1
  have within := inside_span (tiled.ordered.sublist part) forward final
  have wide := forward last final
  have front : preceding (tokens text) head.place.first = before := by
    obtain ⟨more, same⟩ := List.head?_eq_some_iff.mp starts
    rw [same, List.cons_append] at cut
    exact preceding_tokens cut
  rw [place] at within
  rw [place, columns]
  refine ⟨?_, ?_, ?_, ?_⟩ <;> simp only [front] at within ⊢ <;> omega

theorem aligned_token (member : t ∈ tokens text) : Aligned (tokens text) t.place t.columns := by
  obtain ⟨before, after, cut⟩ := List.append_of_mem member
  exact aligned_run ⟨0, [.token t]⟩ cut (List.cons_ne_nil _ _) (fun _ none => nomatch none)

theorem aligned_statement (member : s ∈ statements text) :
    Aligned (tokens text) s.place s.columns := by
  obtain ⟨mark, ended⟩ := (statements_ended text).2 s member
  obtain ⟨above, below, cut⟩ := List.append_of_mem member
  exact aligned_run s (tokens_cut cut) (statements_tokens_ne_nil s member) ended.dropLast

theorem aligned_node (member : s ∈ statements text) (part : node ∈ s.nodes) :
    Aligned (tokens text) node.place node.columns := by
  obtain ⟨mark, ended⟩ := (statements_ended text).2 s member
  obtain ⟨above, below, cut⟩ := List.append_of_mem member
  obtain ⟨left, right, nodes⟩ := List.append_of_mem part
  -- The element alone is a statement with the same span.
  have single : (⟨s.line, [node]⟩ : Statement).tokens = node.tokens := List.flatMap_singleton ..
  have own : s.tokens = left.flatMap Node.tokens ++ (node.tokens ++ right.flatMap Node.tokens) := by
    rw [Statement.tokens, nodes, List.flatMap_append, List.flatMap_cons]
  have whole : tokens text = (above.flatMap Statement.tokens ++ left.flatMap Node.tokens) ++
      ((⟨s.line, [node]⟩ : Statement).tokens ++
        (right.flatMap Node.tokens ++ below.flatMap Statement.tokens)) := by
    rw [tokens_cut cut, own, single]
    simp only [List.append_assoc]
  apply aligned_run _ whole (tokens_ne_nil (List.cons_ne_nil _ _))
  rw [single]
  intro t inside
  cases separator : t.isSeparator with
  | false => rfl
  | true =>
    rw [nodes] at ended
    obtain ⟨rfl, _⟩ := ended.last (List.dropLast_subset _ inside) separator
    contradiction

/-- In every text each token, each element and each statement is aligned with its line. -/
theorem parse_aligned (text : String) :
    (∀ t ∈ tokens text, Aligned (tokens text) t.place t.columns) ∧
    (text ≠ "" → ∃ ss, parse text = .ok ss ∧ ∀ s ∈ ss, Aligned (tokens text) s.place s.columns ∧
      ∀ node ∈ s.nodes, Aligned (tokens text) node.place node.columns) := by
  constructor
  · intro t member
    exact aligned_token member
  · intro nonempty
    refine ⟨statements text, parse_eq_ok nonempty, ?_⟩
    intro s member
    exact ⟨aligned_statement member, fun node part => aligned_node member part⟩

/-- The compound stands below a string with a line feed and holds a dropped backslash. -/
theorem parse_aligned_compound : "\"\n\"\nACL\\ LIST" ≠ "" ∧
    ⟨.identifier, ⟨9, 12⟩, ⟨5, 8⟩, "LIST"⟩ ∈ tokens "\"\n\"\nACL\\ LIST" ∧
    Aligned (tokens "\"\n\"\nACL\\ LIST") ⟨9, 12⟩ ⟨5, 8⟩ ∧
    Aligned (tokens "\"\n\"\nACL\\ LIST") ⟨4, 12⟩ ⟨0, 8⟩ := by
  have nonempty : "\"\n\"\nACL\\ LIST" ≠ "" := by decide
  have word : ⟨.identifier, ⟨9, 12⟩, ⟨5, 8⟩, "LIST"⟩ ∈ tokens "\"\n\"\nACL\\ LIST" := by
    decide +kernel
  obtain ⟨ss, parsed, all⟩ := (parse_aligned _).2 nonempty
  have known : statements "\"\n\"\nACL\\ LIST" = [
      ⟨0, [.token ⟨.string, ⟨0, 2⟩, ⟨0, 2⟩, "\"\n\""⟩, .token ⟨.lineBreak, ⟨3, 3⟩, ⟨3, 3⟩, "\n"⟩]⟩,
      ⟨1, [.compound ⟨.keyword, ⟨4, 6⟩, ⟨0, 2⟩, "ACL"⟩
        [⟨.blank, ⟨8, 8⟩, ⟨4, 4⟩, " "⟩, ⟨.identifier, ⟨9, 12⟩, ⟨5, 8⟩, "LIST"⟩]]⟩] := by
    decide +kernel
  obtain rfl := Except.ok.inj ((parse_eq_ok nonempty).symm.trans parsed)
  rw [known] at all
  obtain ⟨_, nodes⟩ := all _ (List.mem_cons_of_mem _ List.mem_cons_self)
  exact ⟨nonempty, word, (parse_aligned _).1 _ word, nodes _ List.mem_cons_self⟩

end KeyScript.Script
