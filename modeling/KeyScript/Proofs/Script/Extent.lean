import Mathlib.Data.List.Sort
import KeyScript.Proofs.Script.Coordinates

/-! What stands between the first and the last character of a statement: the characters
of its tokens, which make its text, and dropped backslashes. Its columns are as many as
its characters and its dropped backslashes together. -/
namespace KeyScript.Script

/-- One of the tokens has the character at `index`. -/
def covers (ts : List Token) (index : Nat) : Bool :=
  ts.any fun t => t.place.first ≤ index && index ≤ t.place.last

/-- Among `count` characters from `start`, those that the tokens have. -/
def covered (cs : List Char) (ts : List Token) (start count : Nat) : List Char :=
  ((List.range' start count).filter (covers ts)).filterMap (cs[·]?)

def Token.indices (t : Token) : List Nat :=
  List.range' t.place.first (t.place.last + 1 - t.place.first)

theorem covers_iff : covers ts index = true ↔
    ∃ t ∈ ts, t.place.first ≤ index ∧ index ≤ t.place.last := by
  simp [covers]

theorem Token.mem_indices {t : Token} :
    index ∈ t.indices ↔ t.place.first ≤ index ∧ index ≤ t.place.last := by
  rw [indices, List.mem_range'_1]
  omega

theorem filterMap_getElem?_range' (cs : List α) (start count : Nat) :
    (List.range' start count).filterMap (cs[·]?) = (cs.drop start).take count := by
  induction count generalizing start with
  | zero => simp
  | succ count ih =>
    rw [List.range'_succ, List.filterMap_cons]
    by_cases within : start < cs.length
    · rw [List.getElem?_eq_getElem within, ih, List.drop_eq_getElem_cons within,
        List.take_succ_cons]
    · have beyond : cs.length ≤ start := by omega
      rw [List.getElem?_eq_none beyond, ih, List.drop_of_length_le beyond,
        List.drop_of_length_le (by omega)]
      simp

/-- The indices of tokens that follow each other are those that they cover. -/
theorem flatMap_indices {ts : List Token}
    (ordered : ts.Pairwise fun t u => t.place.last < u.place.first)
    (inside : ∀ t ∈ ts, start ≤ t.place.first ∧ t.place.last < start + count) :
    ts.flatMap Token.indices = (List.range' start count).filter (covers ts) := by
  have ascending : (ts.flatMap Token.indices).Pairwise (· < ·) := by
    rw [List.pairwise_flatMap]
    refine ⟨fun t _ => List.pairwise_lt_range', ordered.imp ?_⟩
    intro t u before i left j right
    have left := Token.mem_indices.mp left
    have right := Token.mem_indices.mp right
    omega
  refine ascending.eq_of_mem_iff (List.Pairwise.filter _ List.pairwise_lt_range') fun index => ?_
  simp only [List.mem_flatMap, Token.mem_indices, List.mem_filter, List.mem_range'_1, covers_iff]
  constructor
  · rintro ⟨t, member, after, before⟩
    have := inside t member
    exact ⟨by omega, t, member, after, before⟩
  · rintro ⟨_, found⟩
    exact found

theorem covered_add (cs : List Char) (ts : List Token) (start m n : Nat) :
    covered cs ts start (m + n) = covered cs ts start m ++ covered cs ts (start + m) n := by
  rw [covered, ← List.range'_append_1, List.filter_append, List.filterMap_append]
  rfl

theorem length_covered (within : start + count ≤ cs.length) :
    (covered cs ts start count).length = (List.range' start count).countP (covers ts) := by
  have found : ∀ i ∈ (List.range' start count).filter (covers ts), (cs[i]?).isSome := by
    intro i member
    have bound := List.mem_range'_1.mp (List.mem_of_mem_filter member)
    have inside : i < cs.length := by omega
    simp [inside]
  rw [covered, List.filterMap_length_eq_length.mpr found, List.countP_eq_length_filter]

theorem length_covered_le (within : start + count ≤ cs.length) :
    (covered cs ts start count).length ≤ count := by
  have size : (List.range' start count).length = count := List.length_range'
  rw [length_covered within]
  exact List.countP_le_length.trans_eq size

/-- Characters are missing exactly when one of the indices is not covered. -/
theorem length_covered_eq_iff (within : start + count ≤ cs.length) :
    (covered cs ts start count).length = count ↔
      ∀ i, start ≤ i → i < start + count → covers ts i = true := by
  have size : (List.range' start count).length = count := List.length_range'
  rw [length_covered within]
  nth_rewrite 2 [← size]
  rw [List.countP_eq_length]
  simp only [List.mem_range'_1, and_imp]

theorem covered_ne_nil (within : start + count ≤ cs.length) (after : start ≤ index)
    (before : index < start + count) (found : covers ts index = true) :
    covered cs ts start count ≠ [] := by
  apply List.ne_nil_of_length_pos
  rw [length_covered within, List.countP_pos_iff]
  exact ⟨index, List.mem_range'_1.mpr ⟨after, before⟩, found⟩

/-- Cut after as many characters as there are indices, what is covered holds as many
characters from behind as indices in front are not covered. -/
theorem take_covered (within : start + m ≤ cs.length) :
    (covered cs ts start (m + n)).take m = covered cs ts start m ++
      (covered cs ts (start + m) n).take (m - (covered cs ts start m).length) := by
  rw [covered_add, List.take_append, List.take_of_length_le (length_covered_le within)]

/-- The span of a statement and what its tokens cover of it. -/
structure Extent (cs : List Char) (s : Statement) : Prop where
  forward : s.place.first ≤ s.place.last
  within : s.place.last < cs.length
  width : s.columns.last + s.place.first = s.columns.first + s.place.last
  ends : covers s.tokens s.place.last = true
  text : s.text.toList = covered cs s.tokens s.place.first (s.place.last + 1 - s.place.first)
  dropped : ∀ i, s.place.first ≤ i → i ≤ s.place.last → covers s.tokens i = false →
    cs[i]? = some '\\' ∧ quoted (cs.take i) = false

section
variable {s : Statement} {own above below : List Token}

/-- A statement spans from its first token to its last. -/
theorem span_ends (some : s.tokens ≠ []) : ∃ head ∈ s.tokens.head?, ∃ last ∈ s.tokens.getLast?,
    s.place = ⟨head.place.first, last.place.last⟩ ∧
    s.columns = ⟨head.columns.first, last.columns.last⟩ := by
  have starts := List.head?_eq_some_head some
  have ends := List.getLast?_eq_some_getLast some
  refine ⟨_, starts, _, ends, ?_, ?_⟩
  · rw [s.place_eq, starts, ends]
    rfl
  · rw [s.columns_eq, starts, ends]
    rfl

/-- All tokens of a statement lie between its first and its last. -/
theorem inside_span (ordered : s.tokens.Pairwise fun t u => t.place.last < u.place.first)
    (forward : ∀ t ∈ s.tokens, t.place.first ≤ t.place.last) (member : t ∈ s.tokens) :
    s.place.first ≤ t.place.first ∧ t.place.last ≤ s.place.last := by
  obtain ⟨head, starts, last, ends, place, _⟩ := span_ends (List.ne_nil_of_mem member)
  simp only [place]
  constructor
  · obtain ⟨later, order⟩ := List.head?_eq_some_iff.mp starts
    rw [order] at ordered forward member
    obtain ⟨before, _⟩ := List.pairwise_cons.mp ordered
    rcases List.mem_cons.mp member with rfl | inside
    · exact Nat.le_refl _
    · have first := forward head List.mem_cons_self
      have := before t inside
      omega
  · obtain ⟨earlier, order⟩ := List.getLast?_eq_some_iff.mp ends
    rw [order] at ordered forward member
    obtain ⟨_, _, before⟩ := List.pairwise_append.mp ordered
    rcases List.mem_append.mp member with inside | same
    · have here := forward last (by simp)
      have := before t inside last List.mem_cons_self
      omega
    · obtain rfl := List.mem_singleton.mp same
      exact Nat.le_refl _

/-- A statement is as wide in columns as in characters of the text. -/
theorem Reads.width (read : Reads start s.tokens after) (some : s.tokens ≠ [])
    (going : ∀ t ∈ s.tokens.dropLast, t.isSeparator = false) :
    s.columns.last + s.place.first = s.columns.first + s.place.last := by
  obtain ⟨head, starts, last, ends, place, columns⟩ := span_ends some
  have left := read.synchronized going head (List.mem_of_mem_head? starts)
  have right := read.synchronized going last (List.mem_of_mem_getLast? ends)
  rw [place, columns]
  simp only
  omega

theorem text_eq_covered (tiled : Tiled 0 cs ts) (part : s.tokens.Sublist ts)
    (inside : ∀ t ∈ s.tokens, start ≤ t.place.first ∧ t.place.last < start + count) :
    s.text.toList = covered cs s.tokens start count := by
  have slices : ∀ t ∈ s.tokens, t.text.toList = t.indices.filterMap (cs[·]?) := by
    intro t member
    rw [tiled.slices [] rfl t (part.subset member), List.nil_append, Token.indices,
      filterMap_getElem?_range', List.extract_eq_take_drop]
  rw [covered, ← flatMap_indices (tiled.ordered.sublist part) inside, List.filterMap_flatMap,
    s.toList_text]
  exact List.flatMap_congr slices

/-- Between two tokens only those that stand there can cover a character. -/
theorem last_lt_of_uncovered
    (ordered : (above ++ (own ++ below)).Pairwise fun t u => t.place.last < u.place.first)
    (starts : head ∈ own) (ends : last ∈ own) (after : head.place.first ≤ index)
    (before : index ≤ last.place.last) (missing : covers own index = false)
    (member : t ∈ above ++ (own ++ below)) (reached : t.place.first ≤ index) :
    t.place.last < index := by
  obtain ⟨_, rest, upper⟩ := List.pairwise_append.mp ordered
  obtain ⟨_, _, lower⟩ := List.pairwise_append.mp rest
  rcases List.mem_append.mp member with inside | inside
  · have := upper t inside head (List.mem_append_left _ starts)
    omega
  · rcases List.mem_append.mp inside with inside | inside
    · apply Nat.lt_of_not_le
      intro onward
      rw [covers_iff.mpr ⟨t, inside, reached, onward⟩] at missing
      contradiction
    · have := lower last ends t inside
      omega

end

theorem extent_statement (member : s ∈ statements text) : Extent text.toList s := by
  obtain ⟨mark, ended⟩ := (statements_ended text).2 s member
  obtain ⟨above, below, cut⟩ := List.append_of_mem member
  have some := statements_tokens_ne_nil s member
  have tiled := tiled_tokens text
  obtain ⟨_, _, read⟩ := reads_tokens (Scanner.start text)
  rw [← tokens] at read
  rw [tokens_cut cut] at tiled read
  obtain ⟨_, _, rest⟩ := read.split
  obtain ⟨_, own, _⟩ := rest.split
  have part : s.tokens.Sublist
      (above.flatMap Statement.tokens ++ (s.tokens ++ below.flatMap Statement.tokens)) :=
    (List.sublist_append_left _ _).trans (List.sublist_append_right _ _)
  have bounds : ∀ t ∈ s.tokens, t.place.first ≤ t.place.last ∧
      t.place.last < 0 + text.toList.length :=
    fun t inside => (tiled.inside t (part.subset inside)).2
  have between : ∀ t ∈ s.tokens, s.place.first ≤ t.place.first ∧ t.place.last ≤ s.place.last :=
    fun t => inside_span (tiled.ordered.sublist part) fun t inside => (bounds t inside).1
  obtain ⟨head, starts, last, ends, place, _⟩ := span_ends some
  have initial := List.mem_of_mem_head? starts
  have final := List.mem_of_mem_getLast? ends
  have stop : s.place.last = last.place.last := by rw [place]
  have lastBounds := bounds last final
  have lastBetween := between last final
  refine ⟨by omega, by omega, own.width some ended.dropLast, ?_, ?_, ?_⟩
  · exact covers_iff.mpr ⟨last, final, by omega, by omega⟩
  · refine text_eq_covered tiled part fun t inside => ?_
    have := between t inside
    omega
  · intro i after before missing
    have within : i < text.toList.length := by omega
    rw [place] at after before
    refine tiled.dropped within fun t listed reached => ?_
    rw [Nat.zero_add] at reached ⊢
    exact last_lt_of_uncovered tiled.ordered initial final after before missing listed reached

end KeyScript.Script
