import KeyScript.Completion.Context
import KeyScript.Proofs.Script.Splitting

/-! Which statement decides what a cursor completes. A statement that holds the
column decides by its nearest element in front of the column. When none holds it the
last statement decides in the same way, and names can then be offered to a cursor
that has nothing to do with that statement; the condition for it is exact. -/
namespace KeyScript.Completion
open Script

/-- `node` is the last element of `s` that is no blank and ends before `column`. -/
def Nearest (s : Statement) (column : Nat) (node : Node) : Prop :=
  ∃ earlier later, s.nodes = earlier ++ node :: later ∧ node.isBlank = false ∧
    node.columns.last < column ∧ ∀ n ∈ later, n.isBlank = true ∨ column ≤ n.columns.last

/-- A terminator at `column`, or the last thing before it, starts a new command. -/
def Fresh (s : Statement) (column : Nat) : Prop :=
  ∃ node, Nearest s (column + 1) node ∧ node.isTerminator = true

/-- `s` offers the names of `words` at `column`. -/
def Offers (words : List String) (s : Statement) (column : Nat) : Prop :=
  ¬ Fresh s column ∧ ∃ node, Nearest s column node ∧ node.keyword ∈ words

theorem lastWord_eq_some_iff {s : Statement} :
    Triggers.lastWord (·.columns.last < column) s.nodes = some node ↔ Nearest s column node := by
  simp only [Triggers.lastWord, List.find?_eq_some_iff_append, Nearest]
  constructor
  · rintro ⟨found, later, earlier, order, passed⟩
    obtain ⟨solid, ends⟩ := by simpa using found
    refine ⟨earlier.reverse, later.reverse, ?_, solid, ends, ?_⟩
    · rw [← List.reverse_reverse s.nodes, order]
      simp
    · intro n member
      have skipped := passed n (List.mem_reverse.mp member)
      cases blank : n.isBlank
      · right
        simpa [blank] using skipped
      · exact Or.inl rfl
  · rintro ⟨earlier, later, order, solid, ends, passed⟩
    refine ⟨by simp [solid, ends], later.reverse, earlier.reverse, by simp [order], ?_⟩
    intro n member
    rcases passed n (List.mem_reverse.mp member) with blank | beyond
    · simp [blank]
    · simp [beyond]

theorem nearest_unique (first : Nearest s column node) (other : Nearest s column node') :
    node = node' :=
  Option.some.inj ((lastWord_eq_some_iff.mpr first).symm.trans (lastWord_eq_some_iff.mpr other))

theorem fresh_iff {s : Statement} :
    (Triggers.lastWord (·.columns.last ≤ column) s.nodes).any Node.isTerminator = true ↔
      Fresh s column := by
  have bound : Triggers.lastWord (·.columns.last ≤ column) s.nodes =
      Triggers.lastWord (·.columns.last < column + 1) s.nodes := by
    simp only [Nat.lt_succ_iff]
  simp only [bound, Option.any_eq_true, lastWord_eq_some_iff, Fresh]

theorem offers_iff_lastWord : Offers words s column ↔
    (Triggers.lastWord (·.columns.last ≤ column) s.nodes).any Node.isTerminator = false ∧
      ∃ node ∈ Triggers.lastWord (·.columns.last < column) s.nodes, node.keyword ∈ words := by
  rw [Offers, ← fresh_iff, Bool.not_eq_true]
  simp only [Option.mem_def, lastWord_eq_some_iff]

instance (words : List String) (s : Statement) (column : Nat) :
    Decidable (Offers words s column) :=
  decidable_of_iff _ offers_iff_lastWord.symm

section
variable {t : Triggers} {r : Resolution} {column : Nat}

theorem classifyAt_fresh (fresh : Fresh r.statement column) :
    t.classifyAt r column = .command "" := by
  rw [Triggers.classifyAt, if_pos (fresh_iff.mpr fresh)]

theorem classifyAt_nearest (going : ¬ Fresh r.statement column)
    (nearest : Nearest r.statement column node) : t.classifyAt r column =
      if node.keyword ∈ t.users then .user
      else if node.keyword ∈ t.keys then .key
      else .command (Text.trimStart r.textBefore) := by
  rw [Triggers.classifyAt, if_neg (mt fresh_iff.mp going)]
  simp only [lastWord_eq_some_iff.mpr nearest, List.contains_iff_mem]

theorem classifyAt_first (going : ¬ Fresh r.statement column)
    (none : ∀ node, ¬ Nearest r.statement column node) :
    t.classifyAt r column = .command (Text.trimStart r.textBefore) := by
  have missing : Triggers.lastWord (·.columns.last < column) r.statement.nodes = .none := by
    rw [Option.eq_none_iff_forall_ne_some]
    exact fun node => mt lastWord_eq_some_iff.mp (none node)
  rw [Triggers.classifyAt, if_neg (mt fresh_iff.mp going)]
  simp only [missing]

theorem offers_iff (going : ¬ Fresh s column) (nearest : Nearest s column node) :
    Offers words s column ↔ node.keyword ∈ words := by
  constructor
  · rintro ⟨_, other, found, known⟩
    rwa [nearest_unique nearest found]
  · exact fun known => ⟨going, node, nearest, known⟩

/-- Names are completed exactly where the statement offers them, users before keys. -/
theorem classifyAt_eq (t : Triggers) (r : Resolution) (column : Nat) :
    (Offers t.users r.statement column ∧ t.classifyAt r column = .user) ∨
    (¬ Offers t.users r.statement column ∧ Offers t.keys r.statement column ∧
      t.classifyAt r column = .key) ∨
    (¬ Offers t.users r.statement column ∧ ¬ Offers t.keys r.statement column ∧
      (t.classifyAt r column = .command "" ∨
        t.classifyAt r column = .command (Text.trimStart r.textBefore))) := by
  by_cases fresh : Fresh r.statement column
  · have never : ∀ words, ¬ Offers words r.statement column := fun _ offers => offers.1 fresh
    exact Or.inr (Or.inr ⟨never _, never _, Or.inl (classifyAt_fresh fresh)⟩)
  · by_cases near : ∃ node, Nearest r.statement column node
    · obtain ⟨node, nearest⟩ := near
      rw [classifyAt_nearest fresh nearest, offers_iff fresh nearest, offers_iff fresh nearest]
      by_cases user : node.keyword ∈ t.users
      · simp [user]
      · by_cases key : node.keyword ∈ t.keys <;> simp [user, key]
    · have none : ∀ node, ¬ Nearest r.statement column node := fun node found => near ⟨node, found⟩
      have never : ∀ words, ¬ Offers words r.statement column :=
        fun _ ⟨_, node, found, _⟩ => none node found
      exact Or.inr (Or.inr ⟨never _, never _, Or.inr (classifyAt_first fresh none)⟩)

end

theorem contextAt_zero (triggers : Triggers) (text : String) (line : Nat) :
    contextAt triggers text line 0 = .command "" := by
  rw [contextAt]
  cases parse text with
  | error => rfl
  | ok statements => cases last : statements.getLast? <;> simp [resolve, last, Triggers.classify]

theorem resolve_held (found : (statements text).find? (holds line column) = some s) :
    resolve (statements text) line (some column) =
      .ok ⟨s, column - s.columns.first + 1, some column⟩ := by
  have nonempty : statements text ≠ [] := List.ne_nil_of_mem (List.mem_of_find?_eq_some found)
  simp [resolve, List.getLast?_eq_some_getLast nonempty, found]

theorem resolve_unheld (none : (statements text).find? (holds line column) = none)
    (last : (statements text).getLast? = some s) :
    resolve (statements text) line (some column) = .ok ⟨s, 0, some column⟩ := by
  simp [resolve, last, none]

/-- What is completed at a column is decided by the statement it resolves to. -/
theorem contextAt_resolved {r : Resolution} (nonempty : statements text ≠ [])
    (resolved : resolve (statements text) line (some column) = .ok r) :
    contextAt triggers text line (column + 1) = triggers.classify r := by
  have some : text ≠ "" := mt statements_eq_nil_iff.mpr nonempty
  simp [contextAt, parse_eq_ok some, resolved]

/-- The first statement that holds the column decides. -/
theorem contextAt_held (found : (statements text).find? (holds line column) = some s) :
    contextAt triggers text line (column + 1) =
      triggers.classifyAt ⟨s, column - s.columns.first + 1, some column⟩ column := by
  have nonempty : statements text ≠ [] := List.ne_nil_of_mem (List.mem_of_find?_eq_some found)
  exact contextAt_resolved nonempty (resolve_held found)

/-- When no statement holds the column the last one decides. -/
theorem contextAt_unheld (none : (statements text).find? (holds line column) = none)
    (last : (statements text).getLast? = some s) :
    contextAt triggers text line (column + 1) = triggers.classifyAt ⟨s, 0, some column⟩ column := by
  have nonempty : statements text ≠ [] := List.ne_nil_of_mem (List.mem_of_getLast? last)
  exact contextAt_resolved nonempty (resolve_unheld none last)

/-- A cursor is offered names only by a statement that holds the character before it
and whose nearest element in front of that character calls for them. A cursor that no
statement holds is offered commands, with nothing typed. -/
structure NamesHeld (triggers : Triggers) (ss : List Statement) (line character : Nat)
    (context : Context) : Prop where
  user : context = .user → 1 ≤ character ∧ ∃ s ∈ ss, holds line (character - 1) s = true ∧
    ∃ node, Nearest s (character - 1) node ∧ node.keyword ∈ triggers.users
  key : context = .key → 1 ≤ character ∧ ∃ s ∈ ss, holds line (character - 1) s = true ∧
    ∃ node, Nearest s (character - 1) node ∧ node.keyword ∈ triggers.keys
  inexact : (character = 0 ∨ ∀ s ∈ ss, holds line (character - 1) s = false) →
    context = .command ""

/-- No statement holds the column, and the last statement offers names there. -/
def Misled (triggers : Triggers) (ss : List Statement) (line character : Nat) : Prop :=
  ∃ column last, character = column + 1 ∧ (∀ s ∈ ss, holds line column s = false) ∧
    ss.getLast? = some last ∧
    (Offers triggers.users last column ∨ Offers triggers.keys last column)

theorem misled_iff : Misled triggers ss line character ↔
    character ≠ 0 ∧ (∀ s ∈ ss, holds line (character - 1) s = false) ∧
      ∃ last ∈ ss.getLast?, Offers triggers.users last (character - 1) ∨
        Offers triggers.keys last (character - 1) := by
  constructor
  · rintro ⟨column, last, rfl, unheld, ends, offers⟩
    exact ⟨column.succ_ne_zero, unheld, last, ends, offers⟩
  · rintro ⟨positive, unheld, last, ends, offers⟩
    exact ⟨character - 1, last, (Nat.succ_pred positive).symm, unheld, ends, offers⟩

instance (triggers : Triggers) (ss : List Statement) (line character : Nat) :
    Decidable (Misled triggers ss line character) :=
  decidable_of_iff _ misled_iff.symm

theorem namesHeld_zero (triggers : Triggers) (ss : List Statement) (line : Nat) :
    NamesHeld triggers ss line 0 (.command "") :=
  ⟨nofun, nofun, fun _ => rfl⟩

theorem namesHeld_of_held (found : (statements text).find? (holds line column) = some s) :
    NamesHeld triggers (statements text) line (column + 1)
      (contextAt triggers text line (column + 1)) := by
  have member := List.mem_of_find?_eq_some found
  have held : holds line column s = true := List.find?_some found
  have under : ¬(column + 1 = 0 ∨ ∀ s ∈ statements text, holds line column s = false) := by
    rintro (zero | unheld)
    · contradiction
    · rw [unheld s member] at held
      contradiction
  rw [contextAt_held found]
  generalize column - s.columns.first + 1 = offset
  rcases classifyAt_eq triggers ⟨s, offset, some column⟩ column with
    ⟨⟨_, node, near, known⟩, same⟩ | ⟨_, ⟨_, node, near, known⟩, same⟩ | ⟨_, _, same⟩
  · rw [same]
    exact ⟨fun _ => ⟨by omega, s, member, held, node, near, known⟩, nofun,
      fun inexact => absurd inexact under⟩
  · rw [same]
    exact ⟨nofun, fun _ => ⟨by omega, s, member, held, node, near, known⟩,
      fun inexact => absurd inexact under⟩
  · refine ⟨fun user => ?_, fun key => ?_, fun inexact => absurd inexact under⟩
    · simp [user] at same
    · simp [key] at same

theorem namesHeld_unheld_iff
    (unheld : ∀ s ∈ statements text, holds line column s = false)
    (last : (statements text).getLast? = some s) :
    NamesHeld triggers (statements text) line (column + 1)
        (contextAt triggers text line (column + 1)) ↔
      ¬(Offers triggers.users s column ∨ Offers triggers.keys s column) := by
  have none : (statements text).find? (holds line column) = none := by
    rw [List.find?_eq_none]
    exact fun s member => by simp [unheld s member]
  have typed : Text.trimStart (Resolution.textBefore ⟨s, 0, some column⟩) = "" := rfl
  rw [contextAt_unheld none last]
  rcases classifyAt_eq triggers ⟨s, 0, some column⟩ column with
    ⟨offers, same⟩ | ⟨_, offers, same⟩ | ⟨noUser, noKey, same⟩
  · rw [same]
    have names := Or.inl (b := Offers triggers.keys s column) offers
    simp only [names, not_true_eq_false, iff_false]
    exact fun law => nomatch law.inexact (Or.inr unheld)
  · rw [same]
    have names := Or.inr (a := Offers triggers.users s column) offers
    simp only [names, not_true_eq_false, iff_false]
    exact fun law => nomatch law.inexact (Or.inr unheld)
  · rw [typed, or_self] at same
    rw [same]
    exact ⟨fun _ => not_or.mpr ⟨noUser, noKey⟩, fun _ => ⟨nofun, nofun, fun _ => rfl⟩⟩

/-- Every text that is not empty is parsed, and at each cursor names come from the
statement under it, unless no statement is there and the last one offers names at
that column of its own line. -/
theorem namesHeld_iff_not_misled (nonempty : text ≠ "") (triggers : Triggers)
    (line character : Nat) : ∃ ss, parse text = .ok ss ∧
      (NamesHeld triggers ss line character (contextAt triggers text line character) ↔
        ¬ Misled triggers ss line character) := by
  refine ⟨statements text, parse_eq_ok nonempty, ?_⟩
  cases character with
  | zero =>
    rw [contextAt_zero]
    simp only [namesHeld_zero, true_iff]
    rintro ⟨column, last, same, _⟩
    contradiction
  | succ column =>
    cases found : (statements text).find? (holds line column) with
    | some s =>
      simp only [namesHeld_of_held found, true_iff]
      rintro ⟨other, last, same, unheld, _⟩
      obtain rfl := Nat.succ.inj same
      have held := List.find?_some found
      simp [unheld s (List.mem_of_find?_eq_some found)] at held
    | none =>
      have unheld : ∀ s ∈ statements text, holds line column s = false := by
        simpa using List.find?_eq_none.mp found
      have ends := List.getLast?_eq_some_getLast (mt statements_eq_nil_iff.mp nonempty)
      generalize (statements text).getLast _ = last at ends
      rw [namesHeld_unheld_iff unheld ends]
      refine not_congr ⟨fun offers => ⟨column, last, rfl, unheld, ends, offers⟩, ?_⟩
      rintro ⟨other, s, same, _, ends', offers⟩
      obtain rfl := Nat.succ.inj same
      obtain rfl := Option.some.inj (ends.symm.trans ends')
      exact offers

/-- Behind the end of the line the terminator comes first. On a line that is missing, the
cursor is in front of it and behind the `GET`. -/
theorem namesHeld_outside : "GET ;" ≠ "" ∧ ∃ ss, parse "GET ;" = .ok ss ∧
    (∀ s ∈ ss, holds 0 8 s = false) ∧ ¬ Misled .standard ss 0 9 ∧
    contextAt .standard "GET ;" 0 9 = .command "" ∧
    NamesHeld .standard ss 0 9 (contextAt .standard "GET ;" 0 9) ∧
    (∀ s ∈ ss, holds 7 3 s = false) ∧ Misled .standard ss 7 4 ∧
    contextAt .standard "GET ;" 7 4 = .key ∧
    ¬ NamesHeld .standard ss 7 4 (contextAt .standard "GET ;" 7 4) := by
  have text : "GET ;" ≠ "" := by decide
  have unheld : (∀ s ∈ statements "GET ;", holds 0 8 s = false) ∧
      ∀ s ∈ statements "GET ;", holds 7 3 s = false := by decide +kernel
  have misled : ¬ Misled .standard (statements "GET ;") 0 9 ∧
      Misled .standard (statements "GET ;") 7 4 := by decide +kernel
  have context : contextAt .standard "GET ;" 0 9 = .command "" ∧
      contextAt .standard "GET ;" 7 4 = .key := by decide +kernel
  obtain ⟨ss, parsed, beyond⟩ := namesHeld_iff_not_misled text .standard 0 9
  obtain ⟨ss', parsed', below⟩ := namesHeld_iff_not_misled text .standard 7 4
  obtain rfl : ss = ss' := Except.ok.inj (parsed.symm.trans parsed')
  obtain rfl : statements "GET ;" = ss := Except.ok.inj ((parse_eq_ok text).symm.trans parsed)
  exact ⟨text, _, parsed, unheld.1, misled.1, context.1, beyond.mpr misled.1,
    unheld.2, misled.2, context.2, fun law => below.mp law misled.2⟩

/-- No statement holds the dropped backslashes of the first line. Among them keys are
offered, because `GET` stands in those columns of the last line. -/
theorem names_among_escapes : ∃ ss, parse "\\\\\\\\\\;\nGET " = .ok ss ∧
    (∀ s ∈ ss, holds 0 4 s = false) ∧ contextAt .standard "\\\\\\\\\\;\nGET " 0 5 = .key ∧
    ¬ NamesHeld .standard ss 0 5 (contextAt .standard "\\\\\\\\\\;\nGET " 0 5) := by
  have run : (∀ s ∈ statements "\\\\\\\\\\;\nGET ", holds 0 4 s = false) ∧
      contextAt .standard "\\\\\\\\\\;\nGET " 0 5 = .key := by decide +kernel
  obtain ⟨unheld, key⟩ := run
  refine ⟨_, parse_eq_ok (by decide), unheld, key, fun law => ?_⟩
  have command := law.inexact (Or.inr unheld)
  rw [key] at command
  contradiction

end KeyScript.Completion
