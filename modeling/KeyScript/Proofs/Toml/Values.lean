import KeyScript.Proofs.Text.Numerals
import KeyScript.Proofs.Toml.Quoting

/-! Values behind a key. A value that is written with what may follow it is read back, and
what follows is left for the next reader. -/
namespace KeyScript.Toml

/-- A line end, a comma or the end of an array follows. -/
inductive Follows : List Char → Prop where
  | lineEnd : Follows ('\n' :: rest)
  | comma : Follows (',' :: rest)
  | bracket : Follows (']' :: rest)

theorem Follows.ends (follows : Follows rest) :
    ∃ c more, rest = c :: more ∧ endsScalar c = true ∧ c ≠ ' ' ∧ c ≠ '"' ∧ c ≠ '\'' := by
  cases follows with
  | lineEnd => exact ⟨_, _, rfl, by decide⟩
  | comma => exact ⟨_, _, rfl, by decide⟩
  | bracket => exact ⟨_, _, rfl, by decide⟩

theorem isDigit_iff {c : Char} : isDigit c = true ↔ c.isDigit = true := by
  rw [isDigit, Option.isSome_iff_exists]
  simp [Text.decimalDigit?_eq_some_iff]

theorem endsScalar_digit {c : Char} (digit : c.isDigit = true) : endsScalar c = false := by
  rw [Bool.eq_false_iff]
  intro ends
  simp only [endsScalar, isSpace, Bool.or_eq_true, beq_iff_eq, or_assoc] at ends
  rcases ends with rfl | rfl | rfl | rfl | rfl | rfl | rfl | rfl <;> contradiction

/-- A word of digits without a mark between them stands for itself. -/
theorem grouped?_digits (some : cs ≠ []) (digits : ∀ c ∈ cs, c.isDigit = true) :
    grouped? isDigit cs = .some cs := by
  induction cs with
  | nil => exact absurd rfl some
  | cons c cs ih =>
    obtain ⟨first, later⟩ := List.forall_mem_cons.mp digits
    have first := isDigit_iff.mpr first
    cases cs with
    | nil => simp [grouped?, first]
    | cons d cs =>
      have mark : d ≠ '_' := by
        rintro rfl
        exact absurd (later '_' List.mem_cons_self) (by decide)
      rw [grouped?.eq_4]
      · simp [first, ih (List.cons_ne_nil d cs) later]
      · exact List.cons_ne_nil d cs
      · rintro rest ⟨⟩
        exact mark rfl

theorem decimalDigits?_decimal (n : Nat) :
    decimalDigits? (Text.decimal n) = some (Text.decimal n) := by
  have numeral := Text.numeral_decimal n
  rw [decimalDigits?, grouped?_digits numeral.some numeral.decimal]
  split
  · rename_i more same
    -- Two digits and a zero in front would write neither zero nor any other number.
    have same := Option.some.inj same
    rcases Nat.eq_zero_or_pos n with rfl | positive
    · cases same
    · exact absurd (by rw [same]; rfl) (Text.head?_decimal positive)
  · rfl

theorem decimalInt_chars (n : Int) : ∀ c ∈ Text.decimalInt n, c = '-' ∨ c.isDigit = true := by
  intro c member
  have digits := (Text.numeral_decimal n.natAbs).decimal
  rw [Text.decimalInt] at member
  split at member
  · rcases List.mem_cons.mp member with rfl | member
    · exact Or.inl rfl
    · exact Or.inr (digits c member)
  · exact Or.inr (digits c member)

theorem decimalInt_ne_nil (n : Int) : Text.decimalInt n ≠ [] := by
  rw [Text.decimalInt]
  split
  · exact List.cons_ne_nil _ _
  · exact (Text.numeral_decimal n.natAbs).some

theorem not_mem_decimalInt (sign : c ≠ '-') (other : c.isDigit = false) (n : Int) :
    c ∉ Text.decimalInt n := by
  intro member
  rcases decimalInt_chars n c member with rfl | digit
  · exact sign rfl
  · rw [digit] at other
    contradiction

theorem unsign_decimal (n : Nat) : unsign (Text.decimal n) = (false, Text.decimal n) := by
  apply unsign.eq_3
  · intro rest same
    exact Text.not_mem_decimal (c := '-') rfl n (by rw [same]; exact List.mem_cons_self)
  · intro rest same
    exact Text.not_mem_decimal (c := '+') rfl n (by rw [same]; exact List.mem_cons_self)

theorem integer?_decimalInt (n : Int) : integer? (Text.decimalInt n) = some n := by
  have value := Text.natOf?_eq_some_iff.mpr (Text.numeral_decimal n.natAbs)
  have second : ∀ {c rest}, c ≠ '-' → c.isDigit = false → Text.decimalInt n ≠ '0' :: c :: rest := by
    intro c rest sign other same
    apply not_mem_decimalInt sign other n
    rw [same]
    simp
  rw [integer?.eq_4 _ (fun _ => second (by decide) rfl) (fun _ => second (by decide) rfl)
    (fun _ => second (by decide) rfl), Text.decimalInt]
  by_cases negative : n < 0
  · have sign : -(n.natAbs : Int) = n := by omega
    simp only [if_pos negative, unsign, decimalDigits?_decimal, value, Option.bind_eq_bind,
      Option.bind_some, if_true, sign]
  · have sign : (n.natAbs : Int) = n := by omega
    simp only [if_neg negative, unsign_decimal, decimalDigits?_decimal, value,
      Option.bind_eq_bind, Option.bind_some, Bool.false_eq_true, if_false, sign]

theorem scalar?_decimalInt (within : isWithinBits n = true) :
    scalar? (Text.decimalInt n) = some (.integer n) := by
  have word : ∀ {word : List Char}, 'e' ∈ word → (Text.decimalInt n == word) = false := by
    intro word member
    rw [beq_eq_false_iff_ne]
    rintro rfl
    exact not_mem_decimalInt (by decide) rfl n member
  rw [scalar?, word (by decide), word (by decide), integer?_decimalInt]
  simp [within]

theorem scalarWord_append (word rest : List Char) (inside : word.all (!endsScalar ·) = true)
    (follows : Follows rest) : scalarWord (word ++ rest) = (word, rest) := by
  obtain ⟨c, more, rfl, ends, space, _⟩ := follows.ends
  have all : ∀ c ∈ word, (!endsScalar c) = true := List.all_eq_true.mp inside
  simp only [scalarWord, List.takeWhile_append_of_pos all, List.takeWhile_cons, ends,
    Bool.not_true, Bool.false_eq_true, if_false, List.append_nil, List.drop_left]
  split
  · rename_i same
    exact absurd (List.cons.inj same).1 space
  · rfl

/-- A value that is one word or one quoted text. -/
inductive Simple : Value → Prop where
  | string : Simple (.string s)
  | integer : isWithinBits n = true → Simple (.integer n)
  | boolean : Simple (.boolean b)

/-- The values of a document of sections: simple ones, and arrays of them. -/
inductive Writable : Value → Prop where
  | simple : Simple value → Writable value
  | array : (∀ item ∈ items, Simple item) → Writable (.array items)

/-- A character that is neither skipped between the parts of a document nor closes an array. -/
structure Solid (c : Char) : Prop where
  space : isSpace c = false
  comment : c ≠ '#'
  feed : c ≠ '\n'
  ret : c ≠ '\r'
  bracket : c ≠ ']'

theorem Quoted.head (quoted : Quoted cs text) :
    ∃ mark more, text = mark :: more ∧ (mark = '"' ∨ mark = '\'') := by
  cases quoted with
  | basic => exact ⟨_, _, rfl, Or.inl rfl⟩
  | literal => exact ⟨_, _, rfl, Or.inr rfl⟩
  | basicLines => exact ⟨_, _, rfl, Or.inl rfl⟩
  | literalLines => exact ⟨_, _, rfl, Or.inr rfl⟩

theorem solid_digit (digit : c = '-' ∨ c.isDigit = true) : Solid c := by
  rcases digit with rfl | digit
  · constructor <;> decide
  · constructor
    · have ends := endsScalar_digit digit
      simp only [endsScalar, Bool.or_eq_false_iff] at ends
      simp [ends]
    all_goals
      rintro rfl
      contradiction

theorem Simple.head (simple : Simple value) :
    ∃ c more, valueText value = c :: more ∧ Solid c := by
  cases simple with
  | @string s =>
    obtain ⟨mark, more, same, rfl | rfl⟩ := (quoted_quote s).head
    · exact ⟨_, more, by rw [valueText, same], by constructor <;> decide⟩
    · exact ⟨_, more, by rw [valueText, same], by constructor <;> decide⟩
  | @integer n =>
    obtain ⟨c, more, same⟩ := List.exists_cons_of_ne_nil (decimalInt_ne_nil n)
    refine ⟨c, more, by rw [valueText, same], solid_digit (decimalInt_chars n c ?_)⟩
    rw [same]
    exact List.mem_cons_self
  | @boolean b => cases b <;> exact ⟨_, _, rfl, by constructor <;> decide⟩

theorem value?_scalar (word rest : List Char) (inside : word.all (!endsScalar ·) = true)
    (follows : Follows rest) (first : ∃ c more, word = c :: more ∧
      c ≠ '"' ∧ c ≠ '\'' ∧ c ≠ '[' ∧ c ≠ '\x7b') (read : scalar? word = some value) :
    value? depth (fuel + 1) (word ++ rest) = some (value, rest) := by
  obtain ⟨c, more, rfl, double, single, bracket, brace⟩ := first
  have cut := scalarWord_append _ rest inside follows
  rw [List.cons_append] at cut ⊢
  rw [value?.eq_def]
  simp only [cut, read]
  split <;> simp_all

theorem value?_simple (simple : Simple value) (follows : Follows rest)
    (enough : (valueText value).length < fuel) :
    value? depth fuel (valueText value ++ rest) = some (value, rest) := by
  obtain ⟨fuel, rfl⟩ := Nat.exists_eq_succ_of_ne_zero (Nat.ne_zero_of_lt enough)
  cases simple with
  | @string s =>
    obtain ⟨c, more, rfl, _, _, double, single⟩ := follows.ends
    have read : text? fuel (quote s ++ c :: more) = some (s, c :: more) :=
      text?_quote s (by simpa using double) (by simpa using single) (Nat.le_of_lt_succ enough)
    obtain ⟨mark, tail, same, known⟩ := (quoted_quote s).head
    rw [same, List.cons_append] at read
    rw [valueText, same, List.cons_append, value?.eq_def]
    rcases known with rfl | rfl <;> simp [read]
  | @integer n within =>
    have chars := decimalInt_chars n
    apply value?_scalar _ _ _ follows _ (scalar?_decimalInt within)
    · rw [List.all_eq_true]
      intro c member
      rcases chars c member with rfl | digit
      · rfl
      · rw [endsScalar_digit digit, Bool.not_false]
    · obtain ⟨c, more, same⟩ := List.exists_cons_of_ne_nil (decimalInt_ne_nil n)
      refine ⟨c, more, same, ?_⟩
      rcases chars c (by simp [same]) with rfl | digit
      · decide
      · refine ⟨?_, ?_, ?_, ?_⟩ <;> rintro rfl <;> contradiction
  | @boolean b =>
    cases b
    · exact value?_scalar "false".toList rest (by decide) follows ⟨_, _, rfl, by decide⟩ rfl
    · exact value?_scalar "true".toList rest (by decide) follows ⟨_, _, rfl, by decide⟩ rfl

theorem skipSpace_solid (space : isSpace c = false) (cs : List Char) :
    skipSpace (c :: cs) = c :: cs := by
  simp [skipSpace, space]

/-- Nothing is skipped in front of a character that is neither blank, nor the beginning of a
comment or of a line end. -/
theorem skipLines?_solid (space : isSpace c = false) (comment : c ≠ '#') (feed : c ≠ '\n')
    (ret : c ≠ '\r') (cs : List Char) : skipLines? (fuel + 1) (c :: cs) = some (c :: cs) := by
  have plain : skipComment? (c :: cs) = some (c :: cs) := by
    apply skipComment?.eq_2
    rintro rest ⟨⟩
    exact comment rfl
  simp [skipLines?, skipSpace_solid space, plain, afterLineEnd?, lineEndAnd?_eq_none feed ret]

theorem Solid.skipLines? (solid : Solid c) (cs : List Char) :
    Toml.skipLines? (fuel + 1) (c :: cs) = some (c :: cs) :=
  skipLines?_solid solid.space solid.comment solid.feed solid.ret cs

theorem skipLines?_feed (cs : List Char) :
    skipLines? (fuel + 1) ('\n' :: cs) = skipLines? fuel cs := by
  simp [skipLines?, skipSpace, isSpace, skipComment?, afterLineEnd?, lineEndAnd?]

theorem skipLines?_space (cs : List Char) : skipLines? fuel (' ' :: cs) = skipLines? fuel cs := by
  cases fuel <;> simp [skipLines?, skipSpace, isSpace]

section
variable {cs rest after : List Char} {item : Value} {items : List Value}

theorem items?_close (skipped : skipLines? fuel cs = some (']' :: rest)) :
    items? depth (fuel + 1) cs = some ([], rest) := by
  rw [items?.eq_def]
  simp [skipped]

/-- An item is read up to the comma or the bracket behind it. -/
theorem value?_item (simple : Simple item) (enough : (valueText item).length + 1 < fuel)
    (mark : stop = ',' ∨ stop = ']') (depth : Nat) (rest : List Char) :
    ∃ c tail, valueText item = c :: tail ∧ c ≠ ']' ∧
      value? depth fuel (valueText item ++ stop :: rest) = some (item, stop :: rest) ∧
      skipLines? fuel (stop :: rest) = some (stop :: rest) := by
  obtain ⟨fuel, rfl⟩ := Nat.exists_eq_succ_of_ne_zero (Nat.ne_zero_of_lt enough)
  obtain ⟨c, tail, same, solid⟩ := simple.head
  refine ⟨c, tail, same, solid.bracket, ?_, ?_⟩
  · apply value?_simple simple _ (Nat.lt_of_succ_lt enough)
    rcases mark with rfl | rfl
    · exact .comma
    · exact .bracket
  · rcases mark with rfl | rfl
    · exact skipLines?_solid rfl (by decide) (by decide) (by decide) rest
    · exact skipLines?_solid rfl (by decide) (by decide) (by decide) rest

theorem items?_last (simple : Simple item) (enough : (valueText item).length + 1 < fuel)
    (skipped : skipLines? fuel cs = some (valueText item ++ ']' :: rest)) :
    items? depth (fuel + 1) cs = some ([item], rest) := by
  obtain ⟨c, tail, same, going, read, next⟩ := value?_item simple enough (Or.inr rfl) depth rest
  rw [items?.eq_def]
  rw [same, List.cons_append] at skipped read
  simp [skipped, read, next, going]

theorem items?_comma (simple : Simple item) (enough : (valueText item).length + 1 < fuel)
    (skipped : skipLines? fuel cs = some (valueText item ++ ',' :: rest))
    (later : items? depth fuel rest = some (items, after)) :
    items? depth (fuel + 1) cs = some (item :: items, after) := by
  obtain ⟨c, tail, same, going, read, next⟩ := value?_item simple enough (Or.inl rfl) depth rest
  rw [items?.eq_def]
  rw [same, List.cons_append] at skipped read
  simp [skipped, read, next, going, later]

end

/-- The line of an item, when there are several. -/
def itemLine (item : Value) : List Char := "    ".toList ++ valueText item ++ [',', '\n']

theorem items?_lines (items : List Value) (rest : List Char) (simple : ∀ item ∈ items, Simple item)
    (enough : (items.flatMap itemLine).length + 3 ≤ fuel) :
    items? depth fuel ('\n' :: (items.flatMap itemLine ++ ']' :: rest)) = some (items, rest) := by
  induction items generalizing fuel with
  | nil =>
    obtain ⟨fuel, rfl⟩ := Nat.exists_eq_add_of_le' enough
    apply items?_close
    rw [List.flatMap_nil, List.nil_append, skipLines?_feed]
    exact skipLines?_solid rfl (by decide) (by decide) (by decide) rest
  | cons item items ih =>
    obtain ⟨first, later⟩ := List.forall_mem_cons.mp simple
    obtain ⟨c, tail, same, solid⟩ := first.head
    obtain ⟨fuel, rfl⟩ := Nat.exists_eq_add_of_le' (Nat.le_trans (Nat.le_add_left 3 _) enough)
    simp only [List.flatMap_cons, itemLine, List.length_append, List.length_cons,
      List.length_nil] at enough
    have size : "    ".toList.length = 4 := rfl
    apply items?_comma first (by omega) _ (ih later (by omega))
    have skipped := @Solid.skipLines? c fuel solid
      (tail ++ ',' :: '\n' :: (items.flatMap itemLine ++ ']' :: rest))
    simpa [itemLine, skipLines?_feed, skipLines?_space, same] using skipped

theorem itemTexts_eq (items : List Value) : itemTexts items = items.map valueText := by
  induction items with
  | nil => rfl
  | cons item items ih => rw [itemTexts, ih, List.map_cons]

theorem value?_items (read : items? depth fuel cs = some (items, rest)) :
    value? (depth + 1) (fuel + 1) ('[' :: cs) = some (.array items, rest) := by
  rw [value?.eq_def]
  simp [read]

theorem valueText_lines (first second : Value) (more : List Value) :
    valueText (.array (first :: second :: more)) =
      '[' :: '\n' :: ((first :: second :: more).flatMap itemLine ++ [']']) := by
  have lines : ∀ items : List Value, items.flatMap itemLine =
      (items.map valueText).flatMap (fun item => "    ".toList ++ item ++ [',', '\n']) := by
    intro items
    rw [List.flatMap_map]
    rfl
  rw [lines]
  simp only [valueText, itemTexts_eq, List.map_cons, List.cons_append]

/-- An array stands in its brackets, on one line if it has one item, and else on a line for
each. -/
theorem value?_array (items : List Value) (rest : List Char)
    (simple : ∀ item ∈ items, Simple item)
    (enough : (valueText (.array items)).length + 2 < fuel) :
    value? (depth + 1) fuel (valueText (.array items) ++ rest) = some (.array items, rest) := by
  obtain ⟨fuel, rfl⟩ := Nat.exists_eq_succ_of_ne_zero (Nat.ne_zero_of_lt enough)
  match items, simple with
  | [], _ =>
    have some : 2 ≤ fuel := by
      have length : (valueText (.array [])).length = 2 := rfl
      omega
    obtain ⟨fuel, rfl⟩ := Nat.exists_eq_add_of_le' some
    apply value?_items
    apply items?_close
    exact skipLines?_solid rfl (by decide) (by decide) (by decide) rest
  | [item], simple =>
    have first := simple item List.mem_cons_self
    obtain ⟨c, tail, same, solid⟩ := first.head
    have text : valueText (.array [item]) = '[' :: (valueText item ++ [']']) := rfl
    rw [text, List.length_cons, List.length_append, List.length_singleton] at enough
    obtain ⟨fuel, rfl⟩ := Nat.exists_eq_add_of_le' (show 2 ≤ fuel by omega)
    rw [text, List.cons_append, List.append_assoc, List.singleton_append]
    apply value?_items
    apply items?_last first (by omega)
    rw [same, List.cons_append]
    exact solid.skipLines? _
  | first :: second :: more, simple =>
    rw [valueText_lines, List.length_cons, List.length_cons, List.length_append] at enough
    rw [valueText_lines, List.cons_append, List.cons_append, List.append_assoc,
      List.singleton_append]
    apply value?_items
    exact items?_lines _ rest simple (by omega)

theorem value?_writable (writable : Writable value) (follows : Follows rest)
    (enough : (valueText value).length + 2 < fuel) :
    value? (depth + 1) fuel (valueText value ++ rest) = some (value, rest) := by
  cases writable with
  | simple simple => exact value?_simple simple follows (by omega)
  | array simple => exact value?_array _ rest simple enough

/-- The text of a value begins with a character of its own. -/
theorem Writable.head (writable : Writable value) :
    ∃ c more, valueText value = c :: more ∧ isSpace c = false := by
  cases writable with
  | simple simple =>
    obtain ⟨c, more, same, solid⟩ := simple.head
    exact ⟨c, more, same, solid.space⟩
  | @array items =>
    match items with
    | [] => exact ⟨_, _, rfl, rfl⟩
    | [item] => exact ⟨_, _, rfl, rfl⟩
    | first :: second :: more => exact ⟨_, _, valueText_lines first second more, rfl⟩

end KeyScript.Toml
