import KeyScript.Text.Lines

/-! Cutting a text at a separator. The pieces of two texts with a separator between them
are those of the first and those of the second, and a line lies between line feeds. -/
namespace KeyScript.Text

theorem pieces_ne_nil (separator : Char) (cs : List Char) : pieces separator cs ≠ [] := by
  cases cs with
  | nil => simp [pieces]
  | cons c cs =>
    rw [pieces]
    split
    · simp
    · split <;> simp

theorem pieces_of_not_mem (alone : separator ∉ cs) : pieces separator cs = [cs] := by
  induction cs with
  | nil => rfl
  | cons c cs ih =>
    obtain ⟨other, rest⟩ := List.ne_and_not_mem_of_not_mem_cons alone
    rw [pieces, if_neg (by simpa using other.symm), ih rest]

theorem pieces_append (before after : List Char) :
    pieces separator (before ++ separator :: after) =
      pieces separator before ++ pieces separator after := by
  induction before with
  | nil => simp [pieces]
  | cons c before ih =>
    obtain ⟨piece, more, cut⟩ := List.exists_cons_of_ne_nil (pieces_ne_nil separator before)
    rw [List.cons_append, pieces, pieces, ih, cut]
    split <;> rfl

/-- Where a line stands in its text: after as many line feeds as its index says, and
up to the next line feed or the end of the text. -/
theorem lines_cut (found : (lines cs)[l]? = some line) : ∃ above below,
    cs = above ++ (line ++ below) ∧ above.count '\n' = l ∧ '\n' ∉ line ∧
      (above = [] ∨ ∃ upper, above = upper ++ ['\n']) ∧
      (below = [] ∨ ∃ more, below = '\n' :: more) := by
  induction cs generalizing l line with
  | nil =>
    simp only [lines, pieces, List.getElem?_singleton] at found
    split at found
    · rename_i top
      obtain rfl := Option.some.inj found
      exact ⟨[], [], rfl, top.symm, List.not_mem_nil, Or.inl rfl, Or.inl rfl⟩
    · contradiction
  | cons c cs ih =>
    rw [lines, pieces] at found
    split at found
    · rename_i feed
      obtain rfl := eq_of_beq feed
      cases l with
      | zero =>
        obtain rfl : [] = line := by simpa using found
        exact ⟨[], '\n' :: cs, rfl, rfl, List.not_mem_nil, Or.inl rfl, Or.inr ⟨cs, rfl⟩⟩
      | succ l =>
        obtain ⟨above, below, rfl, count, feedless, top, bottom⟩ := ih (by simpa [lines] using found)
        refine ⟨'\n' :: above, below, rfl, by simp [count], feedless, Or.inr ?_, bottom⟩
        rcases top with rfl | ⟨upper, rfl⟩
        · exact ⟨[], rfl⟩
        · exact ⟨'\n' :: upper, rfl⟩
    · rename_i other
      have other : c ≠ '\n' := by simpa using other
      obtain ⟨piece, rest, same⟩ := List.exists_cons_of_ne_nil (pieces_ne_nil '\n' cs)
      rw [same] at found
      cases l with
      | zero =>
        obtain rfl : c :: piece = line := by simpa using found
        have first : (lines cs)[0]? = some piece := by simp [lines, same]
        obtain ⟨above, below, whole, count, feedless, top, bottom⟩ := ih first
        obtain rfl : above = [] := by
          rcases top with rfl | ⟨upper, rfl⟩
          · rfl
          · simp at count
        exact ⟨[], below, by rw [whole]; rfl, rfl, by simp [feedless, other.symm], Or.inl rfl, bottom⟩
      | succ l =>
        have later : (lines cs)[l + 1]? = some line := by simpa [lines, same] using found
        obtain ⟨above, below, rfl, count, feedless, top, bottom⟩ := ih later
        refine ⟨c :: above, below, rfl, by simp [count, other], feedless, Or.inr ?_, bottom⟩
        rcases top with rfl | ⟨upper, rfl⟩
        · simp at count
        · exact ⟨c :: upper, rfl⟩

end KeyScript.Text
