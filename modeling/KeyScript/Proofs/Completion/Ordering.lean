import KeyScript.Proofs.Completion.Commands

/-! The order of candidates. What is typed decides which items are candidates, but not how
they are ordered: those equal to it are as short as a candidate can be, so the rule that
puts them first never disagrees with the length. The candidates are therefore the one
ordered listing of the items that begin with what is typed, and typing more leaves out
some of them and moves none. -/
namespace KeyScript.Vocabulary

/-- The comparison that sorting uses is that of texts. -/
theorem not_lt_iff {a b : String} : (!decide (b < a)) = true ↔ a ≤ b := by
  rw [Bool.not_eq_true', decide_eq_false_iff_not, String.not_lt]

/-- The last word that was kept is smaller than every word that is kept later. -/
theorem ascending_eraseReps_loop {a : String} {words seen : List String}
    (ordered : (a :: words).Pairwise (· ≤ ·)) (ascending : (seen.reverse ++ [a]).Pairwise (· < ·)) :
    (List.eraseRepsBy.loop (· == ·) a words seen).Pairwise (· < ·) := by
  induction words generalizing a seen with
  | nil =>
    rw [List.eraseRepsBy.loop, List.reverse_cons]
    exact ascending
  | cons b words ih =>
    obtain ⟨first, rest⟩ := List.pairwise_cons.mp ordered
    rw [List.eraseRepsBy.loop]
    split
    · exact ih (ordered.sublist ((List.sublist_cons_self b words).cons_cons a)) ascending
    · rename_i other
      have next : a < b := Std.lt_of_le_of_ne (first b List.mem_cons_self) (by simpa using other)
      apply ih rest
      rw [List.reverse_cons, List.pairwise_append]
      refine ⟨ascending, List.pairwise_singleton _ _, ?_⟩
      intro c before d last
      obtain rfl := List.mem_singleton.mp last
      rcases List.mem_append.mp before with earlier | same
      · exact String.lt_trans ((List.pairwise_append.mp ascending).2.2 c earlier a (by simp)) next
      · obtain rfl := List.mem_singleton.mp same
        exact next

theorem ascending_eraseReps {words : List String} (ordered : words.Pairwise (· ≤ ·)) :
    words.eraseReps.Pairwise (· < ·) := by
  cases words with
  | nil => exact .nil
  | cons a words => exact ascending_eraseReps_loop ordered (List.pairwise_singleton _ _)

theorem commands_ascending : commands.Pairwise (· < ·) := by
  apply ascending_eraseReps
  let le := fun a b : String => !decide (b < a)
  have le_iff : ∀ a b, le a b = true ↔ a ≤ b := fun _ _ => not_lt_iff
  have trans : ∀ a b c, le a b = true → le b c = true → le a c = true := by
    intro a b c
    rw [le_iff, le_iff, le_iff]
    exact String.le_trans
  have total : ∀ a b, (le a b || le b a) = true := by
    intro a b
    rw [Bool.or_eq_true, le_iff, le_iff]
    exact String.le_total a b
  exact (List.pairwise_mergeSort trans total _).imp (le_iff _ _).mp

end KeyScript.Vocabulary

namespace KeyScript.Completion
open Text (utf8 caseless)

/-- The order in which candidates are shown: by the number of bytes, then byte by byte. -/
def Shown (a b : String) : Prop :=
  a.utf8ByteSize < b.utf8ByteSize ∨ a.utf8ByteSize = b.utf8ByteSize ∧ utf8 a ≤ utf8 b

instance (a b : String) : Decidable (Shown a b) := inferInstanceAs (Decidable (_ ∨ _))

theorem shown_iff : Shown a b ↔
    a.utf8ByteSize < b.utf8ByteSize ∨ a.utf8ByteSize = b.utf8ByteSize ∧ a ≤ b :=
  or_congr_right (and_congr_right fun _ => not_congr Text.utf8_lt_iff)

theorem Shown.trans (first : Shown a b) (second : Shown b c) : Shown a c := by
  rw [shown_iff] at *
  rcases first with shorter | ⟨same, le⟩
  · rcases second with other | ⟨other, _⟩ <;> omega
  · rcases second with shorter | ⟨other, more⟩
    · omega
    · exact Or.inr ⟨same.trans other, String.le_trans le more⟩

theorem shown_total (a b : String) : Shown a b ∨ Shown b a := by
  simp only [shown_iff]
  rcases Nat.lt_trichotomy a.utf8ByteSize b.utf8ByteSize with shorter | same | longer
  · exact Or.inl (Or.inl shorter)
  · exact (String.le_total a b).imp (fun le => Or.inr ⟨same, le⟩) fun le => Or.inr ⟨same.symm, le⟩
  · exact Or.inr (Or.inl longer)

theorem Shown.antisymm (first : Shown a b) (second : Shown b a) : a = b := by
  rw [shown_iff] at *
  rcases first with shorter | ⟨_, le⟩
  · rcases second with other | ⟨other, _⟩ <;> omega
  · rcases second with shorter | ⟨_, ge⟩
    · omega
    · exact String.le_antisymm le ge

theorem Shown.size_le (shown : Shown a b) : a.utf8ByteSize ≤ b.utf8ByteSize := by
  rcases shown with shorter | ⟨same, _⟩ <;> omega

/-- The item is what was typed, up to case. -/
def isExact (typed item : String) : Bool := typed != "" && Text.sameFolded item typed

theorem before_iff : before typed a b = true ↔
    (isExact typed a = true ∧ isExact typed b = false) ∨
      isExact typed a = isExact typed b ∧ Shown a b := by
  have unfolded : before typed a b =
      if isExact typed a != isExact typed b then isExact typed a
      else if a.utf8ByteSize != b.utf8ByteSize then decide (a.utf8ByteSize < b.utf8ByteSize)
      else !decide (b < a) := rfl
  have shown : Shown a b ↔ (if a.utf8ByteSize != b.utf8ByteSize
      then decide (a.utf8ByteSize < b.utf8ByteSize) else !decide (b < a)) = true := by
    rw [shown_iff]
    by_cases same : a.utf8ByteSize = b.utf8ByteSize
    · simp only [same, Nat.lt_irrefl, true_and, false_or, bne_self_eq_false, Bool.false_eq_true,
        if_false, Vocabulary.not_lt_iff]
    · simp only [same, false_and, or_false, bne_iff_ne, ne_eq, not_false_eq_true, if_true,
        decide_eq_true_eq]
  rw [unfolded, shown]
  cases isExact typed a <;> cases isExact typed b <;> simp

theorem before_trans (first : before typed a b = true) (second : before typed b c = true) :
    before typed a c = true := by
  rw [before_iff] at *
  rcases first with ⟨exactA, otherB⟩ | ⟨sameAB, shownAB⟩
  · rcases second with ⟨exactB, _⟩ | ⟨sameBC, _⟩
    · rw [otherB] at exactB
      contradiction
    · exact Or.inl ⟨exactA, sameBC ▸ otherB⟩
  · rcases second with ⟨exactB, otherC⟩ | ⟨sameBC, shownBC⟩
    · exact Or.inl ⟨sameAB.trans exactB, otherC⟩
    · exact Or.inr ⟨sameAB.trans sameBC, shownAB.trans shownBC⟩

theorem before_total (typed a b : String) : (before typed a b || before typed b a) = true := by
  rw [Bool.or_eq_true, before_iff, before_iff]
  by_cases same : isExact typed a = isExact typed b
  · rcases shown_total a b with shown | shown
    · exact Or.inl (Or.inr ⟨same, shown⟩)
    · exact Or.inr (Or.inr ⟨same.symm, shown⟩)
  · cases exactA : isExact typed a with
    | true => exact Or.inl (Or.inl ⟨rfl, by simpa [exactA] using same⟩)
    | false => exact Or.inr (Or.inl ⟨by simpa [exactA] using same, rfl⟩)

theorem startsFolded_trans (starts : Text.startsFolded item more = true)
    (longer : Text.startsFolded more typed = true) : Text.startsFolded item typed = true := by
  rw [Text.startsFolded_iff] at *
  exact longer.trans starts

theorem size_le_of_starts (starts : Text.startsFolded item typed = true) :
    typed.utf8ByteSize ≤ item.utf8ByteSize := by
  have length := (Text.startsFolded_iff.mp starts).length_le
  rwa [Text.length_caseless, Text.length_caseless] at length

/-- An item that begins with what is typed is equal to it when it is as long. -/
theorem sameFolded_iff_size (starts : Text.startsFolded item typed = true) :
    Text.sameFolded item typed = true ↔ item.utf8ByteSize = typed.utf8ByteSize := by
  rw [Text.sameFolded_iff, ← Text.length_caseless, ← Text.length_caseless]
  constructor
  · exact congrArg _
  · intro same
    exact ((Text.startsFolded_iff.mp starts).eq_of_length same.symm).symm

/-- Among the candidates the rule for equal items follows from the length. -/
theorem Shown.of_before (startsA : Text.startsFolded a typed = true)
    (startsB : Text.startsFolded b typed = true) (shown : before typed a b = true) : Shown a b := by
  rcases before_iff.mp shown with ⟨exactA, otherB⟩ | ⟨_, shown⟩
  · obtain ⟨some, sameA⟩ : typed ≠ "" ∧ Text.sameFolded a typed = true := by
      simpa [isExact] using exactA
    have otherB : Text.sameFolded b typed ≠ true := by simpa [isExact, some] using otherB
    rw [sameFolded_iff_size startsA] at sameA
    rw [Ne, sameFolded_iff_size startsB] at otherB
    have long := size_le_of_starts startsB
    left
    omega
  · exact shown

theorem candidates_perm (items : List String) (typed : String) :
    (candidates items typed).Perm (items.filter (Text.startsFolded · typed)) :=
  List.mergeSort_perm _ _

theorem candidates_shown (items : List String) (typed : String) :
    (candidates items typed).Pairwise Shown := by
  have trans : ∀ a b c, before typed a b = true → before typed b c = true →
      before typed a c = true := fun _ _ _ first second => before_trans first second
  have sorted : (candidates items typed).Pairwise (before typed · · = true) :=
    List.pairwise_mergeSort trans (before_total typed) _
  apply sorted.imp_of_mem
  intro a b memberA memberB
  exact Shown.of_before (mem_candidates.mp memberA).2 (mem_candidates.mp memberB).2

/-- There is one listing of the candidates in the order in which they are shown. -/
theorem candidates_eq_iff : found = candidates items typed ↔
    found.Perm (items.filter (Text.startsFolded · typed)) ∧ found.Pairwise Shown := by
  constructor
  · rintro rfl
    exact ⟨candidates_perm items typed, candidates_shown items typed⟩
  · rintro ⟨perm, shown⟩
    exact (perm.trans (candidates_perm items typed).symm).eq_of_pairwise
      (fun _ _ _ _ => Shown.antisymm) shown (candidates_shown items typed)

/-- Typing more leaves out the candidates that do not begin with it. -/
theorem candidates_narrowed (longer : Text.startsFolded more typed = true) (items : List String) :
    candidates items more = (candidates items typed).filter (Text.startsFolded · more) := by
  symm
  rw [candidates_eq_iff]
  refine ⟨?_, (candidates_shown items typed).filter _⟩
  have kept := (candidates_perm items typed).filter (Text.startsFolded · more)
  rw [List.filter_filter] at kept
  have same : (fun item => Text.startsFolded item more && Text.startsFolded item typed) =
      (Text.startsFolded · more) := by
    funext item
    rw [Bool.and_eq_left_iff_imp]
    exact fun starts => startsFolded_trans starts longer
  rwa [same] at kept

theorem candidates_caseless (same : caseless other = caseless typed) (items : List String) :
    candidates items other = candidates items typed := by
  have starts : (Text.startsFolded · other) = (Text.startsFolded · typed) := by
    funext item
    rw [Bool.eq_iff_iff, Text.startsFolded_iff, Text.startsFolded_iff, same]
  rw [candidates_eq_iff, ← starts]
  exact ⟨candidates_perm items other, candidates_shown items other⟩

/-- The bytes of what is typed end inside no character of an item that begins with it. -/
theorem cut_of_starts (starts : Text.startsFolded item typed = true) : ∃ head tail,
    item = head ++ tail ∧ head.utf8ByteSize = typed.utf8ByteSize ∧
      caseless head = caseless typed := by
  obtain ⟨rest, whole⟩ := List.isPrefixOf_iff_prefix.mp starts
  obtain ⟨front, back, cut, same, _⟩ := List.map_eq_append_iff.mp whole.symm
  have caseless : caseless (String.ofList front) = caseless typed := by
    rw [Text.caseless_eq, Text.caseless_eq, Text.folded, String.toList_ofList, same]
  refine ⟨.ofList front, .ofList back, ?_, ?_, caseless⟩
  · rw [← String.ofList_append, ← cut, String.ofList_toList]
  · rw [← Text.length_caseless, caseless, Text.length_caseless]

/-- The candidates are the one listing, by length and then byte by byte, of the items whose
first bytes are those that are typed, up to case. The typed bytes end where a character
ends, and items that are no longer come first. No command is listed twice, the case of
what is typed makes no difference, and typing more only leaves out. -/
theorem candidates_canonical (items : List String) (typed : String) :
    (∀ found, found = candidates items typed ↔
      found.Perm (items.filter fun item => caseless typed <+: caseless item) ∧
        found.Pairwise Shown) ∧
    (∀ item ∈ candidates items typed, ∃ head tail, item = head ++ tail ∧
      head.utf8ByteSize = typed.utf8ByteSize ∧ caseless head = caseless typed) ∧
    (candidates items typed).Pairwise (fun a b =>
      caseless b = caseless typed → caseless a = caseless typed) ∧
    (candidates Vocabulary.commands typed).Nodup ∧
    (∀ other, caseless other = caseless typed →
      candidates items other = candidates items typed) ∧
    ∀ more, (candidates items (typed ++ more)).Sublist (candidates items typed) := by
  refine ⟨fun found => ?_, fun item member => ?_, ?_, ?_, fun other same => ?_, fun more => ?_⟩
  · have starts : (fun item => decide (caseless typed <+: caseless item)) =
        (Text.startsFolded · typed) := by
      funext item
      rw [Bool.eq_iff_iff, decide_eq_true_iff, Text.startsFolded_iff]
    rw [starts]
    exact candidates_eq_iff
  · exact cut_of_starts (mem_candidates.mp member).2
  · apply (candidates_shown items typed).imp_of_mem
    intro a b memberA memberB shown exactB
    have startsA := (mem_candidates.mp memberA).2
    have length : b.utf8ByteSize = typed.utf8ByteSize := by
      rw [← Text.length_caseless, exactB, Text.length_caseless]
    have long := size_le_of_starts startsA
    have short := shown.size_le
    rw [← Text.sameFolded_iff, sameFolded_iff_size startsA]
    omega
  · have once : Vocabulary.commands.Nodup := Vocabulary.commands_ascending.imp String.ne_of_lt
    exact (candidates_perm _ typed).nodup_iff.mpr (once.filter _)
  · exact candidates_caseless same items
  · have longer : Text.startsFolded (typed ++ more) typed = true := by
      simp [Text.startsFolded, Text.folded]
    rw [candidates_narrowed longer]
    exact List.filter_sublist

/-- The typed text ends with two bytes of one character, which has no case. -/
theorem candidates_canonical_accent :
    candidates ["Aéclair", "aÉ", "AéCL", "éa", "aé"] "Aé" = ["aé", "AéCL", "Aéclair"] ∧
    candidates ["Aéclair", "aÉ", "AéCL", "éa", "aé"] "aé" =
      candidates ["Aéclair", "aÉ", "AéCL", "éa", "aé"] "Aé" := by
  obtain ⟨one, _, _, _, caseless, _⟩ :=
    candidates_canonical ["Aéclair", "aÉ", "AéCL", "éa", "aé"] "Aé"
  refine ⟨((one _).mpr ⟨?_, ?_⟩).symm, caseless _ ?_⟩
  · decide +kernel
  · decide +kernel
  · decide +kernel

end KeyScript.Completion
