import Mathlib.Data.List.TakeWhile
import KeyScript.Connection.Endpoint
import KeyScript.Proofs.Text.Numerals

/-! The grammar of addresses. A host stands alone or in brackets, with or without a port
behind a colon; blanks around the address do not count. Reading accepts exactly the
addresses of the grammar and gives their host and port. -/
namespace KeyScript.Text

/-- `inner` is what is left of the text without the blanks around it. -/
structure Trims (cs inner : List Char) : Prop where
  blanks : ∃ front back, cs = front ++ (inner ++ back) ∧
    (∀ c ∈ front, isBlank c = true) ∧ ∀ c ∈ back, isBlank c = true
  first : ∀ c ∈ inner.head?, isBlank c = false
  last : ∀ c ∈ inner.getLast?, isBlank c = false

theorem dropBlank_append (blank : ∀ c ∈ front, isBlank c = true)
    (solid : ∀ c ∈ rest.head?, isBlank c = false) : dropBlank (front ++ rest) = rest := by
  rw [dropBlank, List.dropWhile_append_of_pos blank]
  cases rest with
  | nil => rfl
  | cons c rest => simp [solid c rfl]

theorem takeWhile_append_dropBlank (cs : List Char) : cs.takeWhile isBlank ++ dropBlank cs = cs :=
  List.takeWhile_append_dropWhile

theorem trimmed_eq_nil (blank : ∀ c ∈ cs, isBlank c = true) : trimmed cs = [] := by
  have dropped : dropBlank cs = [] := by
    rw [dropBlank, List.dropWhile_eq_nil_iff]
    exact blank
  rw [trimmed, dropped]
  rfl

theorem Trims.trimmed {cs inner : List Char} (trims : Trims cs inner) : trimmed cs = inner := by
  obtain ⟨⟨front, back, rfl, before, behind⟩, first, last⟩ := trims
  cases inner with
  | nil => exact trimmed_eq_nil (List.forall_mem_append.mpr ⟨before, behind⟩)
  | cons c inner =>
    have head : ∀ d ∈ (c :: inner ++ back).head?, isBlank d = false := first
    have tail : ∀ d ∈ (c :: inner).reverse.head?, isBlank d = false := by
      rw [List.head?_reverse]
      exact last
    have behind : ∀ d ∈ back.reverse, isBlank d = true := by simpa using behind
    rw [Text.trimmed, dropBlank_append before head, List.reverse_append,
      dropBlank_append behind tail, List.reverse_reverse]

theorem trims_trimmed (cs : List Char) : Trims cs (trimmed cs) := by
  have back : dropBlank cs = trimmed cs ++ ((dropBlank cs).reverse.takeWhile isBlank).reverse := by
    rw [trimmed, ← List.reverse_append, takeWhile_append_dropBlank, List.reverse_reverse]
  refine ⟨⟨cs.takeWhile isBlank, ((dropBlank cs).reverse.takeWhile isBlank).reverse, ?_, ?_, ?_⟩,
    ?_, ?_⟩
  · rw [← back, takeWhile_append_dropBlank]
  · exact fun c member => List.mem_takeWhile_imp member
  · exact fun c member => List.mem_takeWhile_imp (List.mem_reverse.mp member)
  · intro c head
    have front : c ∈ (dropBlank cs).head? := by
      rw [back, List.head?_append, Option.mem_def.mp head]
      rfl
    have solid := List.head?_dropWhile_not isBlank cs
    rw [← dropBlank, Option.mem_def.mp front] at solid
    simpa using solid
  · intro c final
    rw [trimmed, List.getLast?_reverse] at final
    have solid := List.head?_dropWhile_not isBlank (dropBlank cs).reverse
    rw [← dropBlank, Option.mem_def.mp final] at solid
    simpa using solid

end KeyScript.Text

namespace KeyScript.Connection

/-- The text of a port, with or without a plus sign; a port that is left out is 6379. -/
inductive PortText : Option (List Char) → Nat → Prop where
  | standard : PortText none 6379
  | plain : Text.Numeral digits port → port ≤ 65535 → PortText (some digits) port
  | signed : Text.Numeral digits port → port ≤ 65535 → PortText (some ('+' :: digits)) port

/-- The text of an address with its host and the text of its port. -/
inductive HostText : List Char → List Char → Option (List Char) → Prop where
  | plain : host.head? ≠ some '[' → ':' ∉ host → HostText host host none
  | plainPort : (host ++ ':' :: digits).head? ≠ some '[' → ':' ∉ host →
      HostText (host ++ ':' :: digits) host (some digits)
  | bracketed : ']' ∉ host → HostText ('[' :: (host ++ [']'])) host none
  | bracketedPort : ']' ∉ host →
      HostText ('[' :: (host ++ ']' :: ':' :: digits)) host (some digits)

/-- A trimmed address. -/
structure AddressText (cs : List Char) (host : String) (port : Nat) : Prop where
  slash : '/' ∉ cs
  atSign : '@' ∉ cs
  named : host ≠ ""
  written : ∃ digits, HostText cs host.toList digits ∧ PortText digits port

theorem others_of_outside {cs : List Char} (outside : c ∉ cs) : ∀ d ∈ cs, (d != c) = true := by
  intro d member
  rw [bne_iff_ne]
  rintro rfl
  exact outside member

theorem splitAt?_append (outside : c ∉ front) :
    splitAt? c (front ++ c :: back) = some (front, back) := by
  have other := others_of_outside outside
  rw [splitAt?, List.dropWhile_append_of_pos other, List.takeWhile_append_of_pos other]
  simp

theorem splitAt?_eq_none (outside : c ∉ cs) : splitAt? c cs = none := by
  rw [splitAt?, List.dropWhile_eq_nil_iff.mpr (others_of_outside outside)]

/-- A text with the sign is cut at the first one. -/
theorem splitAt?_cases (c : Char) (cs : List Char) : (c ∉ cs ∧ splitAt? c cs = none) ∨
    ∃ front back, cs = front ++ c :: back ∧ c ∉ front ∧ splitAt? c cs = some (front, back) := by
  by_cases member : c ∈ cs
  · obtain ⟨front, back, rfl, outside⟩ := List.eq_append_cons_of_mem member
    exact Or.inr ⟨front, back, rfl, outside, splitAt?_append outside⟩
  · exact Or.inl ⟨member, splitAt?_eq_none member⟩

theorem hostAndPort?_unbracketed (unbracketed : cs.head? ≠ some '[') : hostAndPort? cs =
    match splitAt? ':' cs with
    | none => some (cs, none)
    | some (host, port) => if port.contains ':' then none else some (host, some port) := by
  apply hostAndPort?.eq_2
  rintro rest rfl
  exact unbracketed rfl

theorem hostAndPort?_sound (read : hostAndPort? cs = some (host, digits)) :
    HostText cs host digits := by
  by_cases bracket : cs.head? = some '['
  · obtain ⟨rest, rfl⟩ := List.head?_eq_some_iff.mp bracket
    rw [hostAndPort?] at read
    rcases splitAt?_cases ']' rest with ⟨_, cut⟩ | ⟨front, back, rfl, outside, cut⟩
    · simp [cut] at read
    · rw [cut] at read
      -- Behind the bracket the address ends, or a colon and the port follow.
      split at read
      · contradiction
      · rename_i same
        obtain ⟨rfl, rfl⟩ : front = _ ∧ back = [] := by simpa using same
        obtain ⟨rfl, rfl⟩ : front = host ∧ none = digits := by simpa using read
        exact .bracketed outside
      · rename_i port same
        obtain ⟨rfl, rfl⟩ : front = _ ∧ back = ':' :: port := by simpa using same
        obtain ⟨rfl, rfl⟩ : front = host ∧ some port = digits := by simpa using read
        exact .bracketedPort outside
      · contradiction
  · rw [hostAndPort?_unbracketed bracket] at read
    rcases splitAt?_cases ':' cs with ⟨outside, cut⟩ | ⟨front, back, rfl, outside, cut⟩
    · obtain ⟨rfl, rfl⟩ : cs = host ∧ none = digits := by simpa [cut] using read
      exact .plain bracket outside
    · simp only [cut] at read
      split at read
      · contradiction
      · obtain ⟨rfl, rfl⟩ : front = host ∧ some back = digits := by simpa using read
        exact .plainPort bracket outside

theorem hostAndPort?_complete (text : HostText cs host digits)
    (single : ∀ port ∈ digits, ':' ∉ port) : hostAndPort? cs = some (host, digits) := by
  cases text with
  | plain unbracketed outside => rw [hostAndPort?_unbracketed unbracketed, splitAt?_eq_none outside]
  | plainPort unbracketed outside =>
    rw [hostAndPort?_unbracketed unbracketed, splitAt?_append outside]
    simp [single]
  | bracketed outside => rw [hostAndPort?, splitAt?_append outside]
  | bracketedPort outside =>
    rw [hostAndPort?, splitAt?_append outside]
    rfl

theorem port?_eq_some_iff : port? digits = some port ↔ PortText digits port := by
  cases digits with
  | none =>
    constructor
    · rintro ⟨⟩
      exact .standard
    · rintro ⟨⟩
      rfl
  | some digits =>
    rw [port?, Text.boundedNat?_eq_some_iff]
    constructor
    · rintro ⟨small, numeral | ⟨digits, rfl, numeral⟩⟩
      · exact .plain numeral small
      · exact .signed numeral small
    · intro text
      cases text with
      | plain numeral small => exact ⟨small, Or.inl numeral⟩
      | signed numeral small => exact ⟨small, Or.inr ⟨_, rfl, numeral⟩⟩

theorem PortText.single (text : PortText digits port) : ∀ port ∈ digits, ':' ∉ port := by
  have colon : ':'.isDigit ≠ true := by decide
  cases text with
  | standard => exact nofun
  | plain numeral =>
    rintro _ ⟨⟩ member
    exact colon (numeral.decimal ':' member)
  | signed numeral =>
    rintro _ ⟨⟩ member
    rcases List.mem_cons.mp member with sign | member
    · contradiction
    · exact colon (numeral.decimal ':' member)

theorem HostText.ne_nil (text : HostText cs host digits) (named : host ≠ []) : cs ≠ [] := by
  cases text with
  | plain => exact named
  | plainPort => simp
  | bracketed => simp
  | bracketedPort => simp

theorem parseTrimmed?_sound (read : parseTrimmed? cs = some (host, port)) :
    AddressText cs host port := by
  rw [parseTrimmed?] at read
  split at read
  · contradiction
  · rename_i allowed
    obtain ⟨_, slash, atSign⟩ : cs ≠ [] ∧ '/' ∉ cs ∧ '@' ∉ cs := by simpa [and_assoc] using allowed
    cases found : hostAndPort? cs with
    | none => simp [found] at read
    | some pair =>
      obtain ⟨name, digits⟩ := pair
      simp only [found] at read
      split at read
      · contradiction
      · rename_i named
        obtain ⟨number, value, same⟩ := Option.map_eq_some_iff.mp read
        obtain ⟨rfl, rfl⟩ := Prod.mk.inj same
        refine ⟨slash, atSign, by simpa using named, digits, ?_, port?_eq_some_iff.mp value⟩
        rw [String.toList_ofList]
        exact hostAndPort?_sound found

theorem parseTrimmed?_complete (text : AddressText cs host port) :
    parseTrimmed? cs = some (host, port) := by
  obtain ⟨slash, atSign, named, digits, written, value⟩ := text
  have some : host.toList ≠ [] := mt String.toList_eq_nil_iff.mp named
  have allowed : (cs.isEmpty || cs.contains '/' || cs.contains '@') = false := by
    simp [written.ne_nil some, slash, atSign]
  rw [parseTrimmed?, allowed, hostAndPort?_complete written value.single]
  simp [some, port?_eq_some_iff.mpr value]

/-- An address is read as a host and a port exactly when it is an address of the grammar
with that host and port. Every other one is refused by a fault that names it as it was
written, and nothing is refused in another way. -/
theorem parseAddress_exact (address : String) :
    (∀ host port, parseAddress address = .ok (host, port) ↔
      ∃ inner, Text.Trims address.toList inner ∧ AddressText inner host port) ∧
    ∀ fault, parseAddress address = .error fault ↔
      fault = .connection (.invalidAddress address) ∧
        ¬∃ host port inner, Text.Trims address.toList inner ∧ AddressText inner host port := by
  have accepted : ∀ host port, parseTrimmed? (Text.trimmed address.toList) = some (host, port) ↔
      ∃ inner, Text.Trims address.toList inner ∧ AddressText inner host port := by
    intro host port
    constructor
    · intro read
      exact ⟨_, Text.trims_trimmed address.toList, parseTrimmed?_sound read⟩
    · rintro ⟨inner, trims, text⟩
      rw [trims.trimmed, parseTrimmed?_complete text]
  simp only [← accepted, parseAddress]
  cases parseTrimmed? (Text.trimmed address.toList) with
  | none => simp [eq_comm]
  | some pair =>
    obtain ⟨host, port⟩ := pair
    simp

end KeyScript.Connection
