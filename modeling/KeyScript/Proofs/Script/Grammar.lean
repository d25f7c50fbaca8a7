import KeyScript.Proofs.Script.Coverage

/-! The token grammar. Each kind of token is described by its characters and by what
stands on both sides of them in the text. The descriptions determine how a text is cut
into tokens: any cut into pieces that fit them, with nothing but backslashes between the
pieces, is the scanner's. -/
namespace KeyScript.Script

/-- A token without its text and its columns. -/
structure Piece where
  kind : TokenKind
  place : Span
  deriving DecidableEq

def Token.piece (t : Token) : Piece := ⟨t.kind, t.place⟩

theorem piece_tokenAt : (tokenAt offset column kind chars).piece =
    ⟨kind, ⟨offset, offset + (chars.length - 1)⟩⟩ := rfl

def Span.slice (place : Span) (cs : List Char) : List Char :=
  cs.extract place.first (place.last + 1)

/-- A run of characters of a class that goes on neither to the left nor to the right. -/
structure LongestRun (inside : Char → Bool) (left chars right : List Char) : Prop where
  nonempty : chars ≠ []
  all : ∀ c ∈ chars, inside c = true
  starts : ∀ c ∈ left.getLast?, inside c = false
  stops : ∀ c ∈ right.head?, inside c = false

def NamesCommand (word : List Char) : Prop :=
  ∃ name ∈ Vocabulary.names, Text.folded name = word.map Text.fold

/-- Between `left` and `right` the characters `chars` are a token of the kind. An open string
and a run of backslashes are `final`: no token comes after them. -/
def Fits (final : Prop) (left chars right : List Char) : TokenKind → Prop
  | .lineBreak => chars = ['\n']
  | .terminator => chars = [';']
  | .blank => ∃ c, chars = [c] ∧ Text.isBlank c = true ∧ c ≠ '\n'
  | .string => ∃ body, '"' ∉ body ∧
      (chars = '"' :: (body ++ ['"']) ∨ chars = '"' :: body ∧ right = [] ∧ final)
  | .keyword => LongestRun (!endsWord ·) left chars right ∧ NamesCommand chars
  | .identifier => LongestRun (!endsWord ·) left chars right ∧ ¬NamesCommand chars
  | .unknown => LongestRun isEscape left chars right ∧ right = [] ∧ final

/-- Pieces of a text from left to right that fit the grammar and leave out backslashes only,
none of them at the end. -/
structure Segmentation (cs : List Char) (pieces : List Piece) : Prop where
  inside : ∀ p ∈ pieces, p.place.first ≤ p.place.last ∧ p.place.last < cs.length
  ordered : pieces.Pairwise fun p q => p.place.last < q.place.first
  dropped : ∀ i < cs.length, (∀ p ∈ pieces, ¬(p.place.first ≤ i ∧ i ≤ p.place.last)) →
    cs[i]? = some '\\'
  ends : cs ≠ [] → ∃ p, pieces.getLast? = some p ∧ p.place.last + 1 = cs.length
  fits : ∀ before p after, pieces = before ++ p :: after → Fits (after = [])
    (cs.take p.place.first) (p.place.slice cs) (cs.drop (p.place.last + 1)) p.kind

theorem wordKind_eq_keyword_iff : wordKind word = .keyword ↔ NamesCommand word := by
  have listed : Vocabulary.isCommand (String.ofList word) = true ↔ NamesCommand word := by
    simp [Vocabulary.isCommand, Vocabulary.foldedNames, NamesCommand, Text.folded]
  rw [wordKind, ← listed]
  split
  · simp [*]
  · simp [*]

theorem wordKind_of_not_names (other : ¬NamesCommand word) : wordKind word = .identifier :=
  (wordKind_cases word).resolve_left (mt wordKind_eq_keyword_iff.mp other)

theorem LongestRun.lexeme (run : LongestRun (!endsWord ·) left chars right) :
    Lexeme (wordKind chars) chars right := by
  refine .word run.nonempty (fun c member => ?_) (fun c first => ?_)
  · simpa using run.all c member
  · simpa using run.stops c first

theorem Fits.lexeme (fits : Fits final left chars right kind) (known : kind ≠ .unknown) :
    Lexeme kind chars right := by
  cases kind with
  | keyword =>
    obtain ⟨run, names⟩ := fits
    rw [← wordKind_eq_keyword_iff.mpr names]
    exact run.lexeme
  | identifier =>
    obtain ⟨run, other⟩ := fits
    rw [← wordKind_of_not_names other]
    exact run.lexeme
  | string =>
    obtain ⟨body, unquoted, rfl | ⟨rfl, rfl, _⟩⟩ := fits
    · exact .closed unquoted
    · exact .unclosed unquoted
  | blank =>
    obtain ⟨c, rfl, blank, feed⟩ := fits
    exact .blank blank feed
  | terminator =>
    obtain rfl : chars = [';'] := fits
    exact .terminator
  | lineBreak =>
    obtain rfl : chars = ['\n'] := fits
    exact .lineBreak
  | unknown => contradiction

/-- Between two tokens no word and no run of backslashes goes on. -/
structure Boundary (left right : List Char) : Prop where
  words : ∀ c ∈ left.getLast?, ∀ d ∈ right.head?, endsWord c = true ∨ endsWord d = true
  escapes : right ≠ [] → ∀ c ∈ left.getLast?, isEscape c = false

theorem Boundary.of_last (last : left.getLast? = some c) (ends : endsWord c = true)
    (plain : isEscape c = false) : Boundary left right := by
  refine ⟨fun d found _ _ => Or.inl ?_, fun _ d found => ?_⟩
  · rwa [Option.some.inj (found.symm.trans last)]
  · rwa [Option.some.inj (found.symm.trans last)]

theorem Lexeme.boundary (read : Lexeme kind chars right) : Boundary chars right := by
  cases read with
  | lineBreak => exact .of_last rfl (by decide) (by decide)
  | blank blank _ => exact .of_last rfl (by simp [endsWord, blank]) (isBlank_signs blank).2.2
  | terminator => exact .of_last rfl (by decide) (by decide)
  | closed =>
    rw [← List.cons_append]
    exact .of_last List.getLast?_concat (by decide) (by decide)
  | unclosed => exact ⟨by simp, fun more => absurd rfl more⟩
  | word _ inside ends =>
    refine ⟨fun c _ d first => Or.inr (ends d first), fun _ c last => ?_⟩
    exact (endsWord_false (inside c (List.mem_of_mem_getLast? last))).2.2.2

theorem Boundary.append (boundary : Boundary left right) (nonempty : left ≠ [])
    (front : List Char) : Boundary (front ++ left) right := by
  have same : (front ++ left).getLast? = left.getLast? :=
    List.getLast?_append_of_ne_nil _ nonempty
  constructor
  · rw [same]
    exact boundary.words
  · rw [same]
    exact boundary.escapes

theorem Step.boundary {taken : List Char} (step : Step s t after)
    (cut : s.rest = taken ++ after.rest) (front : List Char) :
    Boundary (front ++ taken) after.rest := by
  cases step with
  | trailing => exact ⟨by simp, fun more => absurd rfl more⟩
  | @lexeme escapes kind chars tail offset column all read =>
    obtain rfl : escapes ++ chars = taken := by
      rw [← List.append_assoc] at cut
      exact List.append_cancel_right cut
    rw [← List.append_assoc]
    exact read.boundary.append read.ne_nil _

theorem Reads.boundary {taken : List Char} (read : Reads s ts after)
    (cut : s.rest = taken ++ after.rest) (start : Boundary front s.rest) :
    Boundary (front ++ taken) after.rest := by
  induction read generalizing taken front with
  | done =>
    obtain rfl : taken = [] := by simpa using cut
    rwa [List.append_nil]
  | @step s t middle ts after step read ih =>
    obtain ⟨first, later, rfl, left, rest⟩ := step.cut read cut
    rw [← List.append_assoc]
    exact ih rest (step.boundary left front)

theorem Lexeme.fits (read : Lexeme kind chars right)
    (starts : ∀ c ∈ left.getLast?, ∀ d ∈ chars.head?, endsWord c = true ∨ endsWord d = true)
    (last : right = [] → final) : Fits final left chars right kind := by
  cases read with
  | lineBreak => rfl
  | blank blank feed => exact ⟨_, rfl, blank, feed⟩
  | terminator => rfl
  | closed unquoted => exact ⟨_, unquoted, Or.inl rfl⟩
  | unclosed unquoted => exact ⟨_, unquoted, Or.inr ⟨rfl, rfl, last rfl⟩⟩
  | word nonempty inside ends =>
    have run : LongestRun (!endsWord ·) left chars right := by
      refine ⟨nonempty, fun c member => ?_, fun c before => ?_, fun c first => ?_⟩
      · simpa using inside c member
      · obtain ⟨d, word, rfl⟩ := List.exists_cons_of_ne_nil nonempty
        simpa [inside d List.mem_cons_self] using starts c before d rfl
      · simpa using ends c first
    by_cases names : NamesCommand chars
    · rw [wordKind_eq_keyword_iff.mpr names]
      exact ⟨run, names⟩
    · rw [wordKind_of_not_names names]
      exact ⟨run, names⟩

theorem slice_parts (place : Span) (left right : List Char) {chars : List Char}
    (nonempty : chars ≠ [])
    (span : place = ⟨left.length, left.length + (chars.length - 1)⟩) :
    (left ++ (chars ++ right)).take place.first = left ∧
    place.slice (left ++ (chars ++ right)) = chars ∧
    (left ++ (chars ++ right)).drop (place.last + 1) = right := by
  have positive := List.length_pos_iff.mpr nonempty
  have stop : place.last + 1 = left.length + chars.length := by
    rw [span]
    simp only
    omega
  refine ⟨?_, ?_, ?_⟩
  · rw [span, List.take_left]
  · rw [Span.slice, List.extract_eq_take_drop, stop, span]
    simp
  · rw [stop, ← List.append_assoc, ← List.length_append, List.drop_left]

theorem Step.fits (step : Step s t after) (boundary : Boundary front s.rest)
    (offset : s.offset = front.length) (last : after.rest = [] → final) :
    Fits final ((front ++ s.rest).take t.place.first) (t.place.slice (front ++ s.rest))
      ((front ++ s.rest).drop (t.place.last + 1)) t.kind := by
  cases step with
  | @trailing escapes offset column nonempty all =>
    subst offset
    obtain ⟨left, chars, right⟩ := slice_parts
      (tokenAt front.length column .unknown escapes).place front [] nonempty rfl
    rw [List.append_nil] at left chars right
    rw [left, chars, right]
    exact ⟨⟨nonempty, all, boundary.escapes nonempty, by simp⟩, rfl, last rfl⟩
  | @lexeme escapes kind chars tail offset column all read =>
    subst offset
    have span : (tokenAt (front.length + escapes.length) (column + escapes.length) kind
        chars).place = ⟨(front ++ escapes).length,
          (front ++ escapes).length + (chars.length - 1)⟩ := by
      rw [List.length_append]
      rfl
    obtain ⟨left, own, right⟩ := slice_parts _ (front ++ escapes) tail read.ne_nil span
    rw [← List.append_assoc, left, own, right]
    refine read.fits (fun c before d first => ?_) last
    -- A dropped backslash in front of the token ends a word as well.
    by_cases gap : escapes = []
    · subst gap
      rw [List.append_nil] at before
      refine boundary.words c before d ?_
      rw [List.nil_append, List.head?_append_of_ne_nil _ read.ne_nil]
      exact first
    · rw [List.getLast?_append_of_ne_nil _ gap] at before
      have escape := all c (List.mem_of_mem_getLast? before)
      exact Or.inl (by simp [endsWord, escape])

theorem fits_tokens (cut : tokens text = before ++ t :: after) : Fits (after = [])
    (text.toList.take t.place.first) (t.place.slice text.toList)
    (text.toList.drop (t.place.last + 1)) t.kind := by
  obtain ⟨_, _, read⟩ := reads_tokens (Scanner.start text)
  rw [← tokens, cut] at read
  obtain ⟨middle, upper, rest⟩ := read.split
  obtain ⟨front, whole, offset, _⟩ := upper.taken
  cases rest with
  | @step _ _ next _ _ step below =>
    have boundary : Boundary ([] ++ front) middle.rest :=
      upper.boundary whole ⟨by simp, by simp⟩
    have offset : middle.offset = front.length := by rw [offset]; exact Nat.zero_add _
    have fits := step.fits boundary offset below.eq_nil_of_end
    rwa [List.nil_append, ← whole] at fits

theorem segmentation_tokens (text : String) :
    Segmentation text.toList ((tokens text).map Token.piece) := by
  have tiled := tiled_tokens text
  refine ⟨?_, ?_, fun i within uncovered => ?_, fun some => ?_, fun before p after cut => ?_⟩
  · rw [List.forall_mem_map]
    intro t member
    obtain ⟨_, forward, within⟩ := tiled.inside t member
    exact ⟨forward, by rwa [Nat.zero_add] at within⟩
  · exact List.pairwise_map.mpr tiled.ordered
  · rw [List.forall_mem_map] at uncovered
    refine (tiled.dropped within fun t member reached => ?_).1
    have apart : ¬(t.place.first ≤ i ∧ i ≤ t.place.last) := uncovered t member
    omega
  · obtain ⟨t, last, ended⟩ := tiled.ends some
    refine ⟨t.piece, by rw [List.getLast?_map, last]; rfl, ?_⟩
    rwa [Nat.zero_add] at ended
  · obtain ⟨front, rest, whole, rfl, later⟩ := List.map_eq_append_iff.mp cut
    obtain ⟨t, back, rfl, rfl, rfl⟩ := List.map_eq_cons_iff.mp later
    rw [List.map_eq_nil_iff]
    exact fits_tokens whole

/-- The offset behind the last piece. -/
def pieceEnd (pieces : List Piece) : Nat := (pieces.getLast?.map (·.place.last + 1)).getD 0

theorem pieceEnd_concat (pieces : List Piece) (p : Piece) :
    pieceEnd (pieces ++ [p]) = p.place.last + 1 := by
  rw [pieceEnd, List.getLast?_concat]
  rfl

namespace Segmentation

theorem lt_pieceEnd (cut : Segmentation cs (front ++ rest)) :
    ∀ q ∈ front, q.place.last < pieceEnd front := by
  rcases List.eq_nil_or_concat front with rfl | ⟨earlier, last, rfl⟩
  · simp
  · rw [List.concat_eq_append] at cut ⊢
    rw [pieceEnd_concat]
    intro q member
    rcases List.mem_append.mp member with before | same
    · obtain ⟨own, _, _⟩ := List.pairwise_append.mp cut.ordered
      have order := (List.pairwise_append.mp own).2.2 q before last List.mem_cons_self
      have forward := (cut.inside last (by simp)).1
      omega
    · obtain rfl := List.mem_singleton.mp same
      exact Nat.lt_succ_self _

theorem pieceEnd_le (cut : Segmentation cs (front ++ p :: rest)) :
    pieceEnd front ≤ p.place.first := by
  rcases List.eq_nil_or_concat front with rfl | ⟨earlier, last, rfl⟩
  · exact Nat.zero_le _
  · rw [List.concat_eq_append] at cut ⊢
    rw [pieceEnd_concat]
    exact (List.pairwise_append.mp cut.ordered).2.2 last (by simp) p List.mem_cons_self

theorem dropped_before (cut : Segmentation cs (front ++ p :: rest)) (after : pieceEnd front ≤ i)
    (before : i < p.place.first) : cs[i]? = some '\\' := by
  obtain ⟨forward, within⟩ := cut.inside p (by simp)
  refine cut.dropped i (by omega) fun q member => ?_
  rcases List.mem_append.mp member with earlier | later
  · have := cut.lt_pieceEnd q earlier
    omega
  · rcases List.mem_cons.mp later with rfl | later
    · omega
    · obtain ⟨_, own, _⟩ := List.pairwise_append.mp cut.ordered
      have := (List.pairwise_cons.mp own).1 q later
      omega

theorem drop_pieceEnd (cut : Segmentation cs pieces) : cs.drop (pieceEnd pieces) = [] := by
  by_cases some : cs = []
  · rw [some, List.drop_nil]
  · obtain ⟨p, last, ended⟩ := cut.ends some
    rw [pieceEnd, last, Option.map_some, Option.getD_some, ended, List.drop_length]

/-- What is left in front of a piece: backslashes, the piece, and what follows it. -/
theorem parts (cut : Segmentation cs (front ++ p :: rest)) : ∃ gap chars right,
    cs.drop (pieceEnd front) = gap ++ (chars ++ right) ∧ cs.drop (p.place.last + 1) = right ∧
    Escapes gap ∧ chars ≠ [] ∧
    p.place = ⟨pieceEnd front + gap.length, pieceEnd front + gap.length + (chars.length - 1)⟩ ∧
    Fits (rest = []) (cs.take (pieceEnd front) ++ gap) chars right p.kind := by
  have start := cut.pieceEnd_le
  obtain ⟨forward, within⟩ := cut.inside p (by simp)
  have fits := cut.fits front p rest rfl
  obtain ⟨k, first⟩ := Nat.exists_eq_add_of_le start
  obtain ⟨n, last⟩ := Nat.exists_eq_add_of_le forward
  have slice : p.place.slice cs = (cs.drop p.place.first).take (n + 1) := by
    rw [Span.slice, List.extract_eq_take_drop]
    congr 1
    omega
  have length : (p.place.slice cs).length = n + 1 := by
    rw [slice, List.length_take, List.length_drop]
    omega
  have gapLength : ((cs.drop (pieceEnd front)).take k).length = k := by
    rw [List.length_take, List.length_drop]
    omega
  refine ⟨(cs.drop (pieceEnd front)).take k, p.place.slice cs, _, ?_, rfl, fun c member => ?_,
    ?_, ?_, ?_⟩
  · have right : cs.drop (p.place.last + 1) = ((cs.drop (pieceEnd front)).drop k).drop (n + 1) := by
      rw [List.drop_drop, List.drop_drop]
      congr 1
      omega
    rw [slice, right, first, ← List.drop_drop, List.take_append_drop, List.take_append_drop]
  · obtain ⟨i, found⟩ := List.mem_iff_getElem?.mp member
    rw [List.getElem?_take] at found
    split at found
    · rename_i bound
      rw [List.getElem?_drop, cut.dropped_before (Nat.le_add_right _ i) (by omega)] at found
      rw [← Option.some.inj found]
      decide
    · contradiction
  · exact List.ne_nil_of_length_pos (by omega)
  · rw [gapLength, length, Nat.add_sub_cancel, ← first, ← last]
  · rwa [← List.take_add, ← first]

theorem step (cut : Segmentation cs (front ++ p :: rest)) (column : Nat) : ∃ t column',
    Step ⟨pieceEnd front, column, cs.drop (pieceEnd front)⟩ t
      ⟨p.place.last + 1, column', cs.drop (p.place.last + 1)⟩ ∧ t.piece = p := by
  obtain ⟨gap, chars, right, left, behind, all, nonempty, place, fits⟩ := cut.parts
  have positive := List.length_pos_iff.mpr nonempty
  have stop : p.place.last + 1 = pieceEnd front + gap.length + chars.length := by
    rw [place]
    simp only
    omega
  rw [left, behind, stop]
  by_cases unknown : p.kind = .unknown
  · rw [unknown] at fits
    obtain ⟨run, rfl, _⟩ := fits
    -- The run takes all the backslashes, so none is dropped in front of it.
    obtain rfl : gap = [] := by
      by_contra some
      have plain := run.starts (gap.getLast some) (by
        rw [List.getLast?_append_of_ne_nil _ some]
        exact List.getLast?_eq_some_getLast some)
      rw [all _ (List.getLast_mem some)] at plain
      contradiction
    rw [List.nil_append, List.append_nil]
    refine ⟨_, _, .trailing nonempty run.all, ?_⟩
    rw [piece_tokenAt, ← unknown]
    exact congrArg (Piece.mk p.kind) place.symm
  · refine ⟨_, _, .lexeme all (fits.lexeme unknown), ?_⟩
    rw [piece_tokenAt, ← place]

/-- The scanner reads the pieces of a segmentation, one step for each of them. -/
theorem reads (front : List Piece) (cut : Segmentation cs (front ++ pieces)) (column : Nat) :
    ∃ ts offset column',
    Reads ⟨pieceEnd front, column, cs.drop (pieceEnd front)⟩ ts ⟨offset, column', []⟩ ∧
      ts.map Token.piece = pieces := by
  induction pieces generalizing front column with
  | nil =>
    rw [List.append_nil] at cut
    rw [cut.drop_pieceEnd]
    exact ⟨[], _, _, .done, rfl⟩
  | cons p pieces ih =>
    obtain ⟨t, next, step, same⟩ := cut.step column
    rw [List.append_cons] at cut
    obtain ⟨ts, offset, column', read, later⟩ := ih _ cut next
    rw [pieceEnd_concat] at read
    exact ⟨t :: ts, offset, column', .step step read, by rw [List.map_cons, same, later]⟩

end Segmentation

/-- The tokens of a text are slices of it, and they are its only pieces that fit the grammar. -/
theorem segmentation_iff (text : String) :
    (∀ t ∈ tokens text, t.text.toList = t.place.slice text.toList) ∧
    ∀ pieces, Segmentation text.toList pieces ↔ pieces = (tokens text).map Token.piece := by
  constructor
  · exact (tiled_tokens text).slices [] rfl
  · intro pieces
    constructor
    · intro cut
      obtain ⟨ts, offset, column, read, same⟩ := cut.reads [] 0
      have whole : tokens text = ts ++ [] := by
        rw [← tokens_end offset column]
        exact read.tokens
      rw [whole, List.append_nil, same]
    · rintro rfl
      exact segmentation_tokens text

/-- The backslash inside the string is a character of it, the one behind the string is left
out, and those at the end are a token. -/
theorem segmentation_iff_escapes :
    ⟨.string, ⟨3, 6⟩, ⟨3, 6⟩, "\"a\\\""⟩ ∈ tokens "get\"a\\\"\\;b\\\\" ∧
    "\"a\\\"".toList = Span.slice ⟨3, 6⟩ "get\"a\\\"\\;b\\\\".toList ∧
    Segmentation "get\"a\\\"\\;b\\\\".toList [⟨.keyword, ⟨0, 2⟩⟩, ⟨.string, ⟨3, 6⟩⟩,
      ⟨.terminator, ⟨8, 8⟩⟩, ⟨.identifier, ⟨9, 9⟩⟩, ⟨.unknown, ⟨10, 11⟩⟩] := by
  have member : ⟨.string, ⟨3, 6⟩, ⟨3, 6⟩, "\"a\\\""⟩ ∈ tokens "get\"a\\\"\\;b\\\\" := by
    decide +kernel
  have cut : Segmentation "get\"a\\\"\\;b\\\\".toList [⟨.keyword, ⟨0, 2⟩⟩, ⟨.string, ⟨3, 6⟩⟩,
      ⟨.terminator, ⟨8, 8⟩⟩, ⟨.identifier, ⟨9, 9⟩⟩, ⟨.unknown, ⟨10, 11⟩⟩] :=
    ((segmentation_iff _).2 _).mpr (by decide +kernel)
  exact ⟨member, (segmentation_iff _).1 _ member, cut⟩

end KeyScript.Script
