import KeyScript.Proofs.Script.Columns

/-! What the tokens of a text cover. From left to right a text is gaps and tokens in
turn: a gap is a run of backslashes outside quotes, and none stands at the end. The
spans of the tokens and what is lost between them are read off this one shape. -/
namespace KeyScript.Script

/-- The characters `cs`, counted from `offset`, are gaps and the tokens `ts` in turn.
Only the last token can leave a quote open. -/
inductive Tiled : Nat → List Char → List Token → Prop where
  | nil : Tiled offset [] []
  | cons {gap chars cs : List Char} {t : Token} {ts : List Token} :
      Escapes gap → chars ≠ [] → t.text.toList = chars →
      t.place = ⟨offset + gap.length, offset + gap.length + (chars.length - 1)⟩ →
      (cs ≠ [] → quoted chars = false) →
      Tiled (offset + gap.length + chars.length) cs ts →
      Tiled offset (gap ++ (chars ++ cs)) (t :: ts)

theorem Step.tiled (step : Step s t after) (left : after.rest = later ++ rest)
    (tiled : Tiled after.offset later ts) :
    ∃ taken, s.rest = taken ++ rest ∧ Tiled s.offset taken (t :: ts) := by
  cases step with
  | @trailing escapes offset column nonempty all =>
    obtain ⟨rfl, rfl⟩ := List.append_eq_nil_iff.mp left.symm
    exact ⟨[] ++ (escapes ++ []), by simp,
      .cons .nil nonempty tokenAt_text rfl (fun more => absurd rfl more) tiled⟩
  | @lexeme escapes kind chars tail offset column all read =>
    obtain rfl : tail = later ++ rest := left
    refine ⟨escapes ++ (chars ++ later), by simp,
      .cons all read.ne_nil tokenAt_text rfl (fun more => read.balanced ?_) tiled⟩
    simp [more]

/-- A reading takes gaps and its tokens off the text. -/
theorem Reads.tiled (read : Reads s ts after) :
    ∃ taken, s.rest = taken ++ after.rest ∧ Tiled s.offset taken ts := by
  induction read with
  | done => exact ⟨[], rfl, .nil⟩
  | step step _ ih =>
    obtain ⟨later, left, tiled⟩ := ih
    exact step.tiled left tiled

theorem tiled_tokens (text : String) : Tiled 0 text.toList (tokens text) := by
  obtain ⟨offset, column, read⟩ := reads_tokens (Scanner.start text)
  obtain ⟨taken, same, tiled⟩ := read.tiled
  rw [List.append_nil] at same
  rwa [show text.toList = taken from same]

namespace Tiled

theorem inside (tiled : Tiled offset cs ts) : ∀ t ∈ ts, offset ≤ t.place.first ∧
    t.place.first ≤ t.place.last ∧ t.place.last < offset + cs.length := by
  induction tiled with
  | nil => simp
  | @cons offset gap chars cs t ts _ nonempty _ place _ _ ih =>
    have positive := List.length_pos_iff.mpr nonempty
    simp only [List.length_append]
    refine List.forall_mem_cons.mpr ⟨?_, fun u member => ?_⟩
    · simp only [place]
      omega
    · have := ih u member
      omega

theorem eq_nil (tiled : Tiled offset [] ts) : ts = [] := by
  apply List.eq_nil_iff_forall_not_mem.mpr
  intro t member
  have := tiled.inside t member
  simp only [List.length_nil] at this
  omega

theorem ordered (tiled : Tiled offset cs ts) :
    ts.Pairwise fun t u => t.place.last < u.place.first := by
  induction tiled with
  | nil => exact .nil
  | cons _ nonempty _ place _ rest ih =>
    have positive := List.length_pos_iff.mpr nonempty
    refine List.pairwise_cons.mpr ⟨fun u member => ?_, ih⟩
    have := rest.inside u member
    simp only [place]
    omega

theorem slices (tiled : Tiled offset cs ts) (before : List Char)
    (start : offset = before.length) :
    ∀ t ∈ ts, t.text.toList = (before ++ cs).extract t.place.first (t.place.last + 1) := by
  induction tiled generalizing before with
  | nil => simp
  | @cons offset gap chars cs t ts _ nonempty text place _ _ ih =>
    subst start
    refine List.forall_mem_cons.mpr ⟨?_, ?_⟩
    · have positive := List.length_pos_iff.mpr nonempty
      have length : before.length + gap.length + (chars.length - 1) + 1 -
          (before.length + gap.length) = chars.length := by omega
      rw [text, place, List.extract_eq_take_drop, length, ← List.append_assoc,
        ← List.length_append, List.drop_left, List.take_left]
    · have whole : before ++ (gap ++ (chars ++ cs)) = (before ++ (gap ++ chars)) ++ cs := by simp
      rw [whole]
      exact ih _ (by simp [Nat.add_assoc])

/-- A character that no token covers is a backslash outside quotes. -/
theorem dropped (tiled : Tiled offset cs ts) (within : i < cs.length)
    (uncovered : ∀ t ∈ ts, t.place.first ≤ offset + i → t.place.last < offset + i) :
    cs[i]? = some '\\' ∧ quoted (cs.take i) = false := by
  induction tiled generalizing i with
  | nil => simp at within
  | @cons offset gap chars cs t ts run nonempty _ place closed _ ih =>
    obtain ⟨first, later⟩ := List.forall_mem_cons.mp uncovered
    simp only [place] at first
    by_cases before : i < gap.length
    · have sign : gap[i] = '\\' := by simpa [isEscape] using run _ (List.getElem_mem before)
      rw [List.getElem?_append_left before, List.getElem?_eq_getElem before, sign,
        List.take_append_of_le_length (Nat.le_of_lt before)]
      exact ⟨rfl, quoted_escapes fun c member => run c (List.mem_of_mem_take member)⟩
    · -- The token covers its own characters, so the character stands after it.
      obtain ⟨j, rfl⟩ : ∃ j, i = gap.length + chars.length + j :=
        Nat.exists_eq_add_of_le (by omega)
      have inside : j < cs.length := by
        simp only [List.length_append] at within
        omega
      have outside : quoted chars = false := closed (List.ne_nil_of_length_pos (by omega))
      obtain ⟨found, unquoted⟩ := ih inside fun u member => by
        have := later u member
        omega
      have place : gap.length + chars.length + j = (gap ++ chars).length + j := by simp
      rw [← List.append_assoc, place, List.getElem?_append_right (Nat.le_add_right _ _),
        Nat.add_sub_cancel_left, List.take_length_add_append, quoted_append, quoted_append,
        quoted_escapes run, outside, unquoted]
      exact ⟨found, rfl⟩

/-- No gap stands at the end. -/
theorem ends (tiled : Tiled offset cs ts) (nonempty : cs ≠ []) :
    ∃ t, ts.getLast? = some t ∧ t.place.last + 1 = offset + cs.length := by
  induction tiled with
  | nil => contradiction
  | @cons offset gap chars cs t ts _ some _ place _ rest ih =>
    by_cases more : cs = []
    · subst more
      have positive := List.length_pos_iff.mpr some
      obtain rfl := rest.eq_nil
      refine ⟨t, rfl, ?_⟩
      simp only [place, List.length_append, List.length_nil]
      omega
    · obtain ⟨u, last, ended⟩ := ih more
      refine ⟨u, ?_, ?_⟩
      · rw [List.getLast?_cons, last]
        rfl
      · rw [ended]
        simp only [List.length_append]
        omega

/-- With its escapes quoted a text has no gaps. -/
theorem abutting (tiled : Tiled offset cs ts) (all : EscapesQuoted cs) :
    (∀ t ∈ ts.head?, t.place.first = offset) ∧
    ts.IsChain (fun t u => u.place.first = t.place.last + 1) ∧
    ts.flatMap (fun t => t.text.toList) = cs := by
  induction tiled with
  | nil => simp
  | @cons offset gap chars cs t ts run nonempty text place closed rest ih =>
    obtain rfl := all.escapes_nil run
    have positive := List.length_pos_iff.mpr nonempty
    simp only [List.nil_append, List.length_nil, Nat.add_zero] at all place ih ⊢
    obtain ⟨first, chain, joined⟩ := ih (all.rest closed)
    refine ⟨by simp [place], ?_, by rw [List.flatMap_cons, text, joined]⟩
    cases ts with
    | nil => exact .singleton _
    | cons u ts =>
      refine List.isChain_cons_cons.mpr ⟨?_, chain⟩
      rw [first u rfl, place]
      simp only
      omega

end Tiled

/-- The tokens are slices of the text in order. Only backslashes lie between them, and
the last of them ends the text. -/
structure Covers (cs : List Char) (ts : List Token) : Prop where
  inside : ∀ t ∈ ts, t.place.first ≤ t.place.last ∧ t.place.last < cs.length
  slices : ∀ t ∈ ts, t.text.toList = cs.extract t.place.first (t.place.last + 1)
  ordered : ts.Pairwise fun t u => t.place.last < u.place.first
  dropped : ∀ i < cs.length, (∀ t ∈ ts, ¬(t.place.first ≤ i ∧ i ≤ t.place.last)) →
    cs[i]? = some '\\'
  ends : cs ≠ [] → ∃ t, ts.getLast? = some t ∧ t.place.last + 1 = cs.length

/-- Nothing but backslashes is lost between a text and its tokens, and nothing at all
when every backslash stands inside quotes: then the tokens lie side by side from the
start and their texts make the text again. -/
theorem tokens_cover (text : String) : Covers text.toList (tokens text) ∧
    (EscapesQuoted text.toList →
      (∀ t ∈ (tokens text).head?, t.place.first = 0) ∧
      (tokens text).IsChain (fun t u => u.place.first = t.place.last + 1) ∧
      String.join ((tokens text).map (·.text)) = text) := by
  have tiled := tiled_tokens text
  refine ⟨⟨fun t member => ?_, ?_, tiled.ordered, fun i within uncovered => ?_, fun some => ?_⟩,
    fun escapes => ?_⟩
  · obtain ⟨_, forward, within⟩ := tiled.inside t member
    exact ⟨forward, by rwa [Nat.zero_add] at within⟩
  · exact tiled.slices [] rfl
  · refine (tiled.dropped within fun t member before => ?_).1
    have := uncovered t member
    omega
  · obtain ⟨t, last, ended⟩ := tiled.ends some
    exact ⟨t, last, by rwa [Nat.zero_add] at ended⟩
  · obtain ⟨first, chain, joined⟩ := tiled.abutting escapes
    refine ⟨first, chain, ?_⟩
    rw [← String.toList_inj, String.toList_join, List.flatMap_map]
    exact joined

/-- A backslash inside quotes is kept, in front of the bare word that follows too. -/
theorem tokens_cover_quoted_escape : EscapesQuoted "SET \"a\\;\"b \"\\".toList ∧
    String.join ((tokens "SET \"a\\;\"b \"\\").map (·.text)) = "SET \"a\\;\"b \"\\" :=
  ⟨by decide, ((tokens_cover _).2 (by decide)).2.2⟩

end KeyScript.Script
