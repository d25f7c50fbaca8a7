import Mathlib.Data.List.Induction
import Mathlib.Data.Nat.Digits.Defs
import KeyScript.Text.Digits

/-! Decimal numerals. A run of digits is read as the number it writes in base ten, and the
digits of a number are read as that number, so different numbers have different digits. -/
namespace KeyScript.Text

/-- Decimal digits that write a number, the first one being the highest. -/
structure Numeral (digits : List Char) (n : Nat) : Prop where
  some : digits ≠ []
  decimal : ∀ c ∈ digits, c.isDigit = true
  value : Nat.ofDigits 10 (digits.reverse.map fun c => c.toNat - '0'.toNat) = n

theorem decimalDigit?_eq_some_iff {c : Char} : decimalDigit? c = some n ↔
    c.isDigit = true ∧ c.toNat - '0'.toNat = n := by
  have digit : c.isDigit = true ↔ '0' ≤ c ∧ c ≤ '9' := by simp [Char.isDigit, Char.le_def]
  rw [decimalDigit?, digit]
  split <;> simp_all

theorem numberOf?_concat (cs : List Char) (c : Char) :
    numberOf? 10 decimalDigit? (cs ++ [c]) =
      (numberOf? 10 decimalDigit? cs).bind fun n => (decimalDigit? c).map (n * 10 + ·) := by
  simp [numberOf?, List.foldlM_append]

theorem numberOf?_eq_some_iff : numberOf? 10 decimalDigit? cs = some n ↔
    (∀ c ∈ cs, c.isDigit = true) ∧
      Nat.ofDigits 10 (cs.reverse.map fun c => c.toNat - '0'.toNat) = n := by
  induction cs using List.reverseRecOn generalizing n with
  | nil => simp [numberOf?]
  | append_singleton cs c ih =>
    rw [numberOf?_concat, Option.bind_eq_some_iff]
    simp only [ih, Option.map_eq_some_iff, decimalDigit?_eq_some_iff, List.reverse_append,
      List.reverse_singleton, List.singleton_append, List.map_cons, Nat.ofDigits_cons,
      List.forall_mem_append, List.forall_mem_singleton]
    constructor
    · rintro ⟨high, ⟨digits, rfl⟩, low, ⟨digit, rfl⟩, rfl⟩
      exact ⟨⟨digits, digit⟩, by simp; omega⟩
    · rintro ⟨⟨digits, digit⟩, rfl⟩
      exact ⟨_, ⟨digits, rfl⟩, _, ⟨digit, rfl⟩, by simp; omega⟩

theorem natOf?_eq_some_iff : natOf? cs = some n ↔ Numeral cs n := by
  cases cs with
  | nil => exact ⟨nofun, fun numeral => absurd rfl numeral.some⟩
  | cons c cs =>
    rw [natOf?, if_neg (by simp), numberOf?_eq_some_iff]
    exact ⟨fun ⟨digits, value⟩ => ⟨by simp, digits, value⟩,
      fun numeral => ⟨numeral.decimal, numeral.value⟩⟩

theorem boundedNat?_eq_some_iff : boundedNat? limit cs = some n ↔
    n ≤ limit ∧ (Numeral cs n ∨ ∃ digits, cs = '+' :: digits ∧ Numeral digits n) := by
  by_cases signed : ∃ digits, cs = '+' :: digits
  · obtain ⟨digits, rfl⟩ := signed
    have sign : ¬Numeral ('+' :: digits) n := fun numeral =>
      absurd (numeral.decimal '+' List.mem_cons_self) (by decide)
    simp [boundedNat?, Option.filter_eq_some_iff, natOf?_eq_some_iff, sign, and_comm]
  · have unsigned : ∀ digits, cs = '+' :: digits → False := fun digits same =>
      signed ⟨digits, same⟩
    have read : boundedNat? limit cs = (natOf? cs).filter (· ≤ limit) :=
      boundedNat?.eq_2 limit cs unsigned
    rw [read, Option.filter_eq_some_iff, natOf?_eq_some_iff, decide_eq_true_eq, and_comm]
    exact and_congr_right fun _ => (or_iff_left fun ⟨digits, same, _⟩ => unsigned digits same).symm

theorem decimal_eq (n : Nat) : decimal n =
    if n < 10 then [n.digitChar] else decimal (n / 10) ++ [(n % 10).digitChar] :=
  Nat.toDigits_eq_if (by decide)

theorem decimalDigit?_digitChar (small : n < 10) : decimalDigit? n.digitChar = some n := by
  have all : ∀ n < 10, decimalDigit? n.digitChar = some n := by decide
  exact all n small

theorem numberOf?_decimal (n : Nat) : numberOf? 10 decimalDigit? (decimal n) = some n := by
  induction n using Nat.strongRecOn with
  | ind n ih =>
    rw [decimal_eq]
    split
    · rename_i small
      simp [numberOf?, decimalDigit?_digitChar small]
    · rename_i large
      have low : n % 10 < 10 := Nat.mod_lt n (by decide)
      rw [numberOf?_concat, ih (n / 10) (by omega), decimalDigit?_digitChar low]
      simp
      omega

theorem numeral_decimal (n : Nat) : Numeral (decimal n) n := by
  rw [← natOf?_eq_some_iff, natOf?, if_neg (by simp [decimal, Nat.toDigits_ne_nil]),
    numberOf?_decimal]

theorem decimal_injective (same : decimal m = decimal n) : m = n := by
  have read := numberOf?_decimal m
  rw [same, numberOf?_decimal] at read
  exact (Option.some.inj read).symm

theorem not_mem_decimal (other : c.isDigit = false) (n : Nat) : c ∉ decimal n := by
  intro member
  rw [(numeral_decimal n).decimal c member] at other
  contradiction

/-- Only zero is written with a zero in front. -/
theorem head?_decimal (positive : 0 < n) : (decimal n).head? ≠ some '0' := by
  induction n using Nat.strongRecOn with
  | ind n ih =>
    rw [decimal_eq]
    split
    · rename_i small
      have all : ∀ n < 10, 0 < n → [n.digitChar].head? ≠ some '0' := by decide
      exact all n small positive
    · rename_i large
      have higher := ih (n / 10) (by omega) (by omega)
      obtain ⟨c, cs, same⟩ := List.exists_cons_of_ne_nil (numeral_decimal (n / 10)).some
      rw [same] at higher ⊢
      exact higher

end KeyScript.Text
