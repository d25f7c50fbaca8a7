import KeyScript.Text.Basic
import KeyScript.Text.Utf8

/-! Texts as bytes. A smaller character has smaller bytes, whatever follows, so texts
compare as their bytes do and no character begins with the bytes of another. Folding the
letters of ASCII changes single bytes. -/
namespace KeyScript.Text

theorem toNat_lt (c : Char) : c.toNat < 0x110000 := by
  rcases c.valid with low | ⟨_, high⟩
  · exact Nat.lt_trans low (by decide)
  · exact high

/-- A character has one to four bytes. The first one tells how many. -/
theorem encode_cases (c : Char) :
    (c.toNat ≤ 0x7F ∧ String.utf8EncodeChar c = [.ofNat c.toNat]) ∨
    (0x7F < c.toNat ∧ c.toNat ≤ 0x7FF ∧ String.utf8EncodeChar c =
      [.ofNat (c.toNat / 64 + 0xC0), .ofNat (c.toNat % 64 + 0x80)]) ∨
    (0x7FF < c.toNat ∧ c.toNat ≤ 0xFFFF ∧ String.utf8EncodeChar c =
      [.ofNat (c.toNat / 4096 + 0xE0), .ofNat (c.toNat / 64 % 64 + 0x80),
        .ofNat (c.toNat % 64 + 0x80)]) ∨
    (0xFFFF < c.toNat ∧ String.utf8EncodeChar c =
      [.ofNat (c.toNat / 262144 + 0xF0), .ofNat (c.toNat / 4096 % 64 + 0x80),
        .ofNat (c.toNat / 64 % 64 + 0x80), .ofNat (c.toNat % 64 + 0x80)]) := by
  have limit := toNat_lt c
  by_cases one : c.toNat ≤ 0x7F
  · exact Or.inl ⟨one, if_pos one⟩
  by_cases two : c.toNat ≤ 0x7FF
  · refine Or.inr (Or.inl ⟨Nat.lt_of_not_le one, two, ?_⟩)
    have high : c.toNat / 64 % 32 = c.toNat / 64 := Nat.mod_eq_of_lt (by omega)
    rw [String.utf8EncodeChar, ← Char.toNat, if_neg one, if_pos two, high]
  by_cases three : c.toNat ≤ 0xFFFF
  · refine Or.inr (Or.inr (Or.inl ⟨Nat.lt_of_not_le two, three, ?_⟩))
    have high : c.toNat / 4096 % 16 = c.toNat / 4096 := Nat.mod_eq_of_lt (by omega)
    rw [String.utf8EncodeChar, ← Char.toNat, if_neg one, if_neg two, if_pos three, high]
  · refine Or.inr (Or.inr (Or.inr ⟨Nat.lt_of_not_le three, ?_⟩))
    have high : c.toNat / 262144 % 8 = c.toNat / 262144 := Nat.mod_eq_of_lt (by omega)
    rw [String.utf8EncodeChar, ← Char.toNat, if_neg one, if_neg two, if_neg three, high]

theorem byte_lt_byte {a b : Nat} (less : a < b) (small : b < 256) (as bs : List UInt8) :
    UInt8.ofNat a :: as < UInt8.ofNat b :: bs := by
  apply List.Lex.rel
  rw [UInt8.lt_iff_toNat_lt, UInt8.toNat_ofNat_of_lt' (Nat.lt_trans less small),
    UInt8.toNat_ofNat_of_lt' small]
  exact less

theorem byte_lt_of_le {a b : Nat} (le : a ≤ b) (small : b < 256) (rest : a = b → as < bs) :
    UInt8.ofNat a :: as < UInt8.ofNat b :: bs := by
  rcases Nat.eq_or_lt_of_le le with rfl | less
  · exact .cons (rest rfl)
  · exact byte_lt_byte less small as bs

/-- The bytes of a smaller character are smaller in front of anything. -/
theorem encode_lt {c d : Char} (less : c < d) (u v : List UInt8) :
    String.utf8EncodeChar c ++ u < String.utf8EncodeChar d ++ v := by
  have less : c.toNat < d.toNat := less
  have limit := toNat_lt d
  -- Characters with as many bytes differ at the first byte that the larger one has larger.
  rcases encode_cases c with ⟨_, one⟩ | ⟨_, _, two⟩ | ⟨_, _, three⟩ | ⟨_, four⟩ <;>
    rcases encode_cases d with ⟨_, one'⟩ | ⟨_, _, two'⟩ | ⟨_, _, three'⟩ | ⟨_, four'⟩ <;>
    try omega
  · rw [one, one']
    exact byte_lt_byte less (by omega) _ _
  · rw [one, two']
    exact byte_lt_byte (by omega) (by omega) _ _
  · rw [one, three']
    exact byte_lt_byte (by omega) (by omega) _ _
  · rw [one, four']
    exact byte_lt_byte (by omega) (by omega) _ _
  · rw [two, two']
    exact byte_lt_of_le (by omega) (by omega) fun _ => byte_lt_byte (by omega) (by omega) _ _
  · rw [two, three']
    exact byte_lt_byte (by omega) (by omega) _ _
  · rw [two, four']
    exact byte_lt_byte (by omega) (by omega) _ _
  · rw [three, three']
    exact byte_lt_of_le (by omega) (by omega) fun _ =>
      byte_lt_of_le (by omega) (by omega) fun _ => byte_lt_byte (by omega) (by omega) _ _
  · rw [three, four']
    exact byte_lt_byte (by omega) (by omega) _ _
  · rw [four, four']
    exact byte_lt_of_le (by omega) (by omega) fun _ =>
      byte_lt_of_le (by omega) (by omega) fun _ =>
        byte_lt_of_le (by omega) (by omega) fun _ => byte_lt_byte (by omega) (by omega) _ _

/-- No character begins with the bytes of another. -/
theorem encode_append_inj {c d : Char} (same : String.utf8EncodeChar c ++ u =
    String.utf8EncodeChar d ++ v) : c = d ∧ u = v := by
  rcases Std.lt_trichotomy c d with less | rfl | greater
  · exact absurd (encode_lt less u v) (same ▸ List.lt_irrefl _)
  · exact ⟨rfl, List.append_cancel_left same⟩
  · exact absurd (encode_lt greater v u) (same ▸ List.lt_irrefl _)

theorem encodeAll_prefix_iff {cs ds : List Char} :
    cs.flatMap String.utf8EncodeChar <+: ds.flatMap String.utf8EncodeChar ↔ cs <+: ds := by
  induction cs generalizing ds with
  | nil => simp
  | cons c cs ih =>
    cases ds with
    | nil => simp [String.utf8EncodeChar_ne_nil]
    | cons d ds =>
      rw [List.flatMap_cons, List.flatMap_cons, List.cons_prefix_cons]
      constructor
      · rintro ⟨more, same⟩
        rw [List.append_assoc] at same
        obtain ⟨rfl, rest⟩ := encode_append_inj same
        exact ⟨rfl, ih.mp ⟨more, rest⟩⟩
      · rintro ⟨rfl, rest⟩
        exact (List.prefix_append_right_inj _).mpr (ih.mpr rest)

theorem encodeAll_lt {cs ds : List Char} (less : cs < ds) :
    cs.flatMap String.utf8EncodeChar < ds.flatMap String.utf8EncodeChar := by
  induction less with
  | @nil d ds =>
    obtain ⟨byte, bytes, some⟩ := List.exists_cons_of_ne_nil (String.utf8EncodeChar_ne_nil (c := d))
    rw [List.flatMap_nil, List.flatMap_cons, some]
    exact .nil
  | rel first => exact encode_lt first _ _
  | cons _ ih => exact List.append_left_lt ih

/-- Texts compare as their bytes do. -/
theorem utf8_lt_iff {a b : String} : utf8 a < utf8 b ↔ a < b := by
  refine ⟨fun less => ?_, encodeAll_lt⟩
  rcases Std.lt_trichotomy a b with smaller | rfl | greater
  · exact smaller
  · exact absurd less (List.lt_irrefl _)
  · exact absurd less (List.lt_asymm (encodeAll_lt greater))

theorem length_utf8 (s : String) : (utf8 s).length = s.utf8ByteSize := by
  calc (utf8 s).length
    _ = (utf8 s).toByteArray.size := List.size_toByteArray.symm
    _ = (String.ofList s.toList).utf8ByteSize := rfl
    _ = s.utf8ByteSize := by rw [String.ofList_toList]

theorem toNat_fold (c : Char) :
    (fold c).toNat = if 65 ≤ c.toNat ∧ c.toNat ≤ 90 then c.toNat + 32 else c.toNat := by
  by_cases capital : c.val ≥ 'A'.val ∧ c.val ≤ 'Z'.val
  · have range : 65 ≤ c.toNat ∧ c.toNat ≤ 90 := capital
    have moved : (fold c).val = c.val + 32 := congrArg Char.val (dif_pos capital)
    rw [if_pos range, Char.toNat, moved, UInt32.toNat_add]
    apply Nat.mod_eq_of_lt
    change c.toNat + 32 < 4294967296
    omega
  · have range : ¬(65 ≤ c.toNat ∧ c.toNat ≤ 90) := capital
    have same : fold c = c := dif_neg capital
    rw [if_neg range, same]

/-- Folding changes capital letters only. -/
theorem fold_cases (c : Char) :
    fold c = c ∨ 65 ≤ c.toNat ∧ c.toNat ≤ 90 ∧ (fold c).toNat = c.toNat + 32 := by
  have moved := toNat_fold c
  split at moved
  · rename_i capital
    exact Or.inr ⟨capital.1, capital.2, moved⟩
  · exact Or.inl (Char.toNat_inj.mp moved)

/-- A capital letter of ASCII becomes small, any other byte stays. -/
def foldByte (byte : UInt8) : UInt8 :=
  if 65 ≤ byte.toNat ∧ byte.toNat ≤ 90 then byte + 32 else byte

/-- The bytes of a text up to the case of the letters of ASCII. -/
def caseless (s : String) : List UInt8 := (utf8 s).map foldByte

theorem foldByte_ofNat {n : Nat} (small : n < 256) :
    foldByte (.ofNat n) = .ofNat (if 65 ≤ n ∧ n ≤ 90 then n + 32 else n) := by
  rw [foldByte, UInt8.toNat_ofNat_of_lt' small]
  split
  · exact (UInt8.ofNat_add n 32).symm
  · rfl

theorem foldByte_high {n : Nat} (large : 0x80 ≤ n) (small : n < 256) :
    foldByte (.ofNat n) = .ofNat n := by
  rw [foldByte_ofNat small, if_neg (by omega)]

theorem encode_fold (c : Char) :
    String.utf8EncodeChar (fold c) = (String.utf8EncodeChar c).map foldByte := by
  have limit := toNat_lt c
  have folded := toNat_fold c
  rcases encode_cases c with ⟨ascii, one⟩ | other
  · have small : (fold c).toNat ≤ 0x7F := by
      rw [folded]
      split <;> omega
    have alone : String.utf8EncodeChar (fold c) = [.ofNat (fold c).toNat] := if_pos small
    rw [alone, one, folded, List.map_singleton, foldByte_ofNat (by omega)]
  · have same : fold c = c := Char.toNat_inj.mp (folded.trans (if_neg (by omega)))
    rw [same]
    -- Every byte of a character outside ASCII is high.
    rcases other with ⟨_, _, two⟩ | ⟨_, _, three⟩ | ⟨_, four⟩
    · simp (disch := omega) only [two, List.map_cons, List.map_nil, foldByte_high]
    · simp (disch := omega) only [three, List.map_cons, List.map_nil, foldByte_high]
    · simp (disch := omega) only [four, List.map_cons, List.map_nil, foldByte_high]

theorem caseless_eq (s : String) : caseless s = (folded s).flatMap String.utf8EncodeChar := by
  rw [caseless, utf8, folded, List.map_flatMap, List.flatMap_map]
  simp only [encode_fold]

theorem length_caseless (s : String) : (caseless s).length = s.utf8ByteSize := by
  rw [caseless, List.length_map, length_utf8]

theorem startsFolded_iff {text typed : String} : startsFolded text typed = true ↔
    caseless typed <+: caseless text := by
  rw [startsFolded, List.isPrefixOf_iff_prefix, caseless_eq, caseless_eq, encodeAll_prefix_iff]

theorem sameFolded_iff {a b : String} : sameFolded a b = true ↔ caseless a = caseless b := by
  rw [sameFolded, beq_iff_eq, caseless_eq, caseless_eq]
  constructor
  · exact congrArg _
  · intro same
    have left : folded a <+: folded b := encodeAll_prefix_iff.mp (same ▸ List.prefix_rfl)
    have right : folded b <+: folded a := encodeAll_prefix_iff.mp (same ▸ List.prefix_rfl)
    exact left.eq_of_length_le right.length_le

end KeyScript.Text
