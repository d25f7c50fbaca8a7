import KeyScript.Completion.Candidates
import KeyScript.Proofs.Completion.Prepending
import KeyScript.Proofs.Script.Columns
import KeyScript.Proofs.Text.Lines

/-! Completion is a matter of one line. The lines above move the statements of a line
down; the line break after it and the lines below add nothing in front of its end; and
each column of the line is held by a statement, so the last statement of the text is
never asked. -/
namespace KeyScript.Completion
open Script

theorem lastWord_concat (beyond : p (.token t) = false) (nodes : List Node) :
    Triggers.lastWord p (nodes ++ [.token t]) = Triggers.lastWord p nodes := by
  simp [Triggers.lastWord, beyond]

section
variable {t : Token} {s s' : Statement} {column : Nat}

theorem first_grows (grows : Grows t s s') : s'.columns.first = s.columns.first := by
  cases grows with
  | same => rfl
  | more nonempty _ =>
    obtain ⟨node, nodes, same⟩ := List.exists_cons_of_ne_nil nonempty
    simp [Statement.columns, same]

/-- A token after the column does not change which statement holds it. -/
theorem holds_grows (grows : Grows t s s') (start : t.columns.first = t.columns.last)
    (before : column < t.columns.first) : holds line column s' = holds line column s := by
  have first := first_grows grows
  cases grows with
  | same => rfl
  | more nonempty ends =>
    have last : ({ s with nodes := s.nodes ++ [.token t] } : Statement).columns.last =
        t.columns.last := by simp [Statement.columns, Node.columns, Node.last]
    have inside : column ≤ t.columns.last ↔ column ≤ s.columns.last := by omega
    simp only [holds, first, last, inside]

/-- Classification at a column does not see a token after it. -/
theorem classifyAt_grows (grows : Grows t s s') (beyond : column < t.columns.last)
    (short : offset ≤ s.text.length) : Triggers.classifyAt triggers ⟨s', offset, place⟩ column =
      triggers.classifyAt ⟨s, offset, place⟩ column := by
  cases grows with
  | same => rfl
  | more nonempty ends =>
    have joined : ({ s with nodes := s.nodes ++ [.token t] } : Statement).text =
        s.text ++ (Node.token t).text := by
      simp [Statement.text, String.join_append]
    have typed : (s.text ++ (Node.token t).text).toList.take offset =
        s.text.toList.take offset := by
      rw [String.toList_append, List.take_append_of_le_length (by rwa [String.length_toList])]
    have last : (Node.token t).columns.last = t.columns.last := rfl
    have boundary := lastWord_concat (p := (·.columns.last ≤ column)) (t := t)
      (by simpa [last] using beyond) s.nodes
    have previous := lastWord_concat (p := (·.columns.last < column)) (t := t)
      (by simpa [last] using Nat.le_of_lt beyond) s.nodes
    simp only [Triggers.classifyAt, Resolution.textBefore, joined, typed, boundary, previous]

end

theorem find?_of_forall₂ (related : List.Forall₂ R ss ss') (same : ∀ s s', R s s' → p s' = p s)
    (found : ss.find? p = some s) : ∃ s', ss'.find? p = some s' ∧ R s s' := by
  induction related with
  | nil => simp at found
  | @cons u u' us us' grows _ ih =>
    rw [List.find?_cons] at found ⊢
    rw [same u u' grows]
    split at found
    · obtain rfl := Option.some.inj found
      exact ⟨u', rfl, grows⟩
    · exact ih found

/-- Each character of a line is held by a statement of the line, which has the text
up to that character. -/
theorem held_of_plain (plain : Plain line) (before : column < line.length) :
    ∃ s, (statements (String.ofList line)).find? (holds 0 column) = some s ∧
      column - s.columns.first + 1 ≤ s.text.length := by
  obtain ⟨laid, going, _⟩ := plain.scan
  have same : tokens (String.ofList line) = scan line := by
    rw [tokens_eq_scan, String.toList_ofList]
  rw [← same, ← tokens_statements] at laid
  obtain ⟨u, member, after, within⟩ :=
    laid.held statements_tokens_ne_nil (Nat.zero_le column) before
  have top : u.line = 0 := by
    obtain ⟨u, inside, rfl⟩ := List.mem_map.mp member
    exact (splits_split 0 _).line_eq (by rw [same, going]) u inside
  have held : holds 0 column u = true := by simp [holds, top, after, within]
  obtain ⟨s, found⟩ := Option.isSome_iff_exists.mp (List.find?_isSome.mpr ⟨u, member, held⟩)
  have length := laid.text_length statements_tokens_ne_nil (List.mem_of_find?_eq_some found)
  have here := List.find?_some found
  simp only [holds, Bool.and_eq_true, decide_eq_true_eq] at here
  exact ⟨s, found, by omega⟩

/-- A character of a line is completed without the text after the line. -/
theorem contextAt_line (plain : Plain line) (before : column < line.length) (more : List Char) :
    contextAt triggers (String.ofList (line ++ '\n' :: more)) 0 (column + 1) =
      contextAt triggers (String.ofList line) 0 (column + 1) := by
  obtain ⟨s, found, short⟩ := held_of_plain plain before
  -- Among the statements of the whole text the one in the same position holds the column.
  obtain ⟨grown, extra, related, ended⟩ := plain.statements
  obtain ⟨s', found', grows⟩ := find?_of_forall₂ related
    (fun s s' grows => holds_grows grows rfl before) found
  have whole : String.ofList (line ++ '\n' :: more) =
      String.ofList (line ++ ['\n']) ++ String.ofList more := by
    rw [← String.ofList_append, List.append_assoc, List.singleton_append]
  have first : (statements (String.ofList (line ++ '\n' :: more))).find? (holds 0 column) =
      some s' := by
    rw [whole, statements_append String.toList_ofList plain.closed, ended, List.append_assoc,
      List.find?_append, found']
    rfl
  rw [contextAt_held first, contextAt_held found, first_grows grows]
  exact classifyAt_grows grows before short

/-- The lines above are counted by their line feeds when no string holds one. -/
theorem contextAt_rest (top : above = [] ∨ ∃ upper, above = upper ++ ['\n'])
    (none : quotedFeeds (scan (above ++ rest)) = 0) (some : rest ≠ []) (triggers : Triggers)
    (character : Nat) : quoted above = false ∧ quotedFeeds (scan rest) = 0 ∧
      contextAt triggers (String.ofList (above ++ rest)) (above.count '\n') character =
        contextAt triggers (String.ofList rest) 0 character := by
  rcases top with rfl | ⟨upper, rfl⟩
  · exact ⟨rfl, none, rfl⟩
  · rw [List.append_assoc, List.singleton_append] at none
    have outside := quoted_of_quotedFeeds none
    rw [quotedFeeds_line outside] at none
    obtain ⟨noneAbove, noneBelow⟩ := Nat.add_eq_zero_iff.mp none
    have feeds := count_lineFeed (String.ofList (upper ++ ['\n']))
    rw [tokens_eq_scan, String.toList_ofList, noneAbove] at feeds
    have nonempty : String.ofList rest ≠ "" := by
      rwa [Ne, ← String.toList_eq_nil_iff, String.toList_ofList]
    refine ⟨by rw [quoted_append, outside]; rfl, noneBelow, ?_⟩
    rw [← contextAt_append String.toList_ofList outside nonempty, ← String.ofList_append,
      tokens_eq_scan, String.toList_ofList, feeds]

/-- Nothing but its line is needed to complete at a cursor: for every line of a text
whose backslashes are all inside quotes and whose strings hold no line feed, and
every cursor on that line, the text is completed as the line is alone. -/
theorem complete_line (escapes : EscapesQuoted text.toList)
    (strings : ∀ t ∈ tokens text, t.kind = .string → '\n' ∉ t.text.toList)
    (found : (Text.lines text.toList)[l]? = some line) (within : character ≤ line.length)
    (triggers : Triggers) (names : Names) : complete triggers names text l character =
      complete triggers names (String.ofList line) 0 character := by
  suffices same : contextAt triggers text l character =
      contextAt triggers (String.ofList line) 0 character by rw [complete, complete, same]
  cases character with
  | zero => rw [contextAt_zero, contextAt_zero]
  | succ column =>
    obtain ⟨above, below, whole, count, feedless, top, bottom⟩ := Text.lines_cut found
    have none := quotedFeeds_eq_zero_iff.mpr strings
    rw [tokens_eq_scan, whole] at none
    rw [whole] at escapes
    -- A character stands before the cursor, so something is left below the lines above.
    have some : line ++ below ≠ [] := by
      intro empty
      simp [(List.append_eq_nil_iff.mp empty).1] at within
    obtain ⟨outside, none, rest⟩ := contextAt_rest top none some triggers (column + 1)
    rw [← String.ofList_toList (s := text), whole, ← count, rest]
    rcases bottom with rfl | ⟨more, rfl⟩
    · rw [List.append_nil]
    · have escapes := (escapes.of_append_right outside).of_append_left
      exact contextAt_line ⟨escapes, quoted_of_quotedFeeds none, feedless⟩ within more

/-- The second of three lines, with a backslash in a string above it and a line below it
that ends in an open string. -/
theorem complete_second_line :
    complete .standard ⟨["ann"], ["k"]⟩ "GET \"a\\\";\nGET \"k\" ;\n;\"" 1 5 = ⟨.key, ["k"]⟩ := by
  have alone : complete .standard ⟨["ann"], ["k"]⟩ "GET \"k\" ;" 0 5 = ⟨.key, ["k"]⟩ := by
    decide +kernel
  have found : (Text.lines "GET \"a\\\";\nGET \"k\" ;\n;\"".toList)[1]? =
      some "GET \"k\" ;".toList := by decide
  exact (complete_line (by decide) (by decide +kernel) found (by decide) _ _).trans alone

end KeyScript.Completion
