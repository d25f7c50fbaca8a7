import KeyScript.Proofs.Text.Bytes

/-! Reading back the bytes of a text. The first byte of a character announces the others
and bounds the next one, so its bytes yield the character and leave nothing open. -/
namespace KeyScript.Text

theorem decodeFrom_lead {byte : Nat} (high : 0x80 ≤ byte) (small : byte < 256)
    (announced : lead? byte = some begun) (rest : List UInt8) :
    decodeFrom none (.ofNat byte :: rest) = decodeFrom (some begun) rest := by
  rw [decodeFrom, UInt8.toNat_ofNat_of_lt' small, readByte, startByte,
    if_neg (Nat.not_lt.mpr high), announced]
  rfl

theorem decodeFrom_inner {byte : Nat} (small : byte < 256) (within : low ≤ byte ∧ byte ≤ high)
    (rest : List UInt8) :
    decodeFrom (some ⟨owed + 2, low, high, value⟩) (.ofNat byte :: rest) =
      decodeFrom (some ⟨owed + 1, 0x80, 0xBF, value * 64 + (byte - 0x80)⟩) rest := by
  rw [decodeFrom, UInt8.toNat_ofNat_of_lt' small, readByte, if_pos within,
    if_neg (Nat.not_le.mpr (Nat.lt_add_left owed Nat.one_lt_two))]
  rfl

theorem decodeFrom_last {byte : Nat} (small : byte < 256) (within : low ≤ byte ∧ byte ≤ high)
    (rest : List UInt8) :
    decodeFrom (some ⟨1, low, high, value⟩) (.ofNat byte :: rest) =
      some (Char.ofNat (value * 64 + (byte - 0x80))) :: decodeFrom none rest := by
  rw [decodeFrom, UInt8.toNat_ofNat_of_lt' small, readByte, if_pos within, if_pos (Nat.le_refl 1)]
  rfl

/-- The lead of three bytes admits the second byte of every character but a surrogate. -/
theorem lead?_three {n : Nat} (low : 0x7FF < n) (high : n ≤ 0xFFFF)
    (scalar : n < 0xD800 ∨ 0xDFFF < n) :
    ∃ least most, lead? (n / 4096 + 0xE0) = some ⟨2, least, most, n / 4096⟩ ∧
      least ≤ n / 64 % 64 + 0x80 ∧ n / 64 % 64 + 0x80 ≤ most := by
  have small : n / 4096 ≤ 15 := by omega
  rw [lead?, if_neg (by omega)]
  by_cases first : n / 4096 = 0
  · exact ⟨0xA0, 0xBF, by rw [if_pos (by omega), first], by omega, by omega⟩
  by_cases surrogates : n / 4096 = 13
  · exact ⟨0x80, 0x9F, by rw [if_neg (by omega), if_pos (by omega), surrogates], by omega, by omega⟩
  · refine ⟨0x80, 0xBF, ?_, by omega, by omega⟩
    rw [if_neg (by omega), if_neg (by omega), if_pos (by omega), Nat.add_sub_cancel]

theorem lead?_four {n : Nat} (low : 0xFFFF < n) (high : n < 0x110000) :
    ∃ least most, lead? (n / 262144 + 0xF0) = some ⟨3, least, most, n / 262144⟩ ∧
      least ≤ n / 4096 % 64 + 0x80 ∧ n / 4096 % 64 + 0x80 ≤ most := by
  have small : n / 262144 ≤ 4 := by omega
  rw [lead?, if_neg (by omega), if_neg (by omega), if_neg (by omega), if_neg (by omega)]
  by_cases first : n / 262144 = 0
  · exact ⟨0x90, 0xBF, by rw [if_pos (by omega), first], by omega, by omega⟩
  by_cases last : n / 262144 = 4
  · refine ⟨0x80, 0x8F, ?_, by omega, by omega⟩
    rw [if_neg (by omega), if_neg (by omega), if_pos (by omega), last]
  · refine ⟨0x80, 0xBF, ?_, by omega, by omega⟩
    rw [if_neg (by omega), if_pos (by omega), Nat.add_sub_cancel]

theorem not_surrogate (c : Char) : c.toNat < 0xD800 ∨ 0xDFFF < c.toNat := by
  rcases c.valid with low | ⟨high, _⟩
  · exact Or.inl low
  · exact Or.inr high

/-- The bytes of a character yield it, whatever follows. -/
theorem decodeFrom_encode (c : Char) (rest : List UInt8) :
    decodeFrom none (String.utf8EncodeChar c ++ rest) = some c :: decodeFrom none rest := by
  have limit := toNat_lt c
  rcases encode_cases c with ⟨low, one⟩ | ⟨low, high, two⟩ | ⟨low, high, three⟩ | ⟨low, four⟩
  · have small : c.toNat < 256 := by omega
    rw [one, List.singleton_append, decodeFrom, UInt8.toNat_ofNat_of_lt' small,
      readByte, startByte, if_pos (Nat.lt_succ_of_le low), Char.ofNat_toNat]
    rfl
  · have announced : lead? (c.toNat / 64 + 0xC0) = some ⟨1, 0x80, 0xBF, c.toNat / 64⟩ := by
      rw [lead?, if_pos (by omega), Nat.add_sub_cancel]
    have value : c.toNat / 64 * 64 + (c.toNat % 64 + 0x80 - 0x80) = c.toNat := by omega
    rw [two, List.cons_append, List.singleton_append,
      decodeFrom_lead (by omega) (by omega) announced, decodeFrom_last (by omega) (by omega),
      value, Char.ofNat_toNat]
  · obtain ⟨least, most, announced, within⟩ := lead?_three low high (not_surrogate c)
    have value : (c.toNat / 4096 * 64 + (c.toNat / 64 % 64 + 0x80 - 0x80)) * 64 +
        (c.toNat % 64 + 0x80 - 0x80) = c.toNat := by omega
    rw [three, List.cons_append, List.cons_append, List.singleton_append,
      decodeFrom_lead (by omega) (by omega) announced, decodeFrom_inner (by omega) within,
      decodeFrom_last (by omega) (by omega), value, Char.ofNat_toNat]
  · obtain ⟨least, most, announced, within⟩ := lead?_four low limit
    have value : ((c.toNat / 262144 * 64 + (c.toNat / 4096 % 64 + 0x80 - 0x80)) * 64 +
        (c.toNat / 64 % 64 + 0x80 - 0x80)) * 64 + (c.toNat % 64 + 0x80 - 0x80) = c.toNat := by
      omega
    rw [four, List.cons_append, List.cons_append, List.cons_append, List.singleton_append,
      decodeFrom_lead (by omega) (by omega) announced, decodeFrom_inner (by omega) within,
      decodeFrom_inner (by omega) (by omega), decodeFrom_last (by omega) (by omega), value,
      Char.ofNat_toNat]

theorem decode_encodeAll (cs : List Char) :
    decode (cs.flatMap String.utf8EncodeChar) = cs.map some := by
  induction cs with
  | nil => rfl
  | cons c cs ih =>
    rw [decode] at ih ⊢
    rw [List.flatMap_cons, decodeFrom_encode, ih, List.map_cons]

/-- A text is read back from its bytes. -/
theorem ofUtf8?_utf8 (s : String) : ofUtf8? (utf8 s) = some s := by
  have readable : (s.toList.map some).all (·.isSome) = true := by simp
  rw [ofUtf8?, utf8, decode_encodeAll, if_pos readable, List.filterMap_map]
  simp

end KeyScript.Text
