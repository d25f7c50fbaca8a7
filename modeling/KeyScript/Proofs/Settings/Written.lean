import KeyScript.Proofs.Toml.Documents
import KeyScript.Settings.Load

/-! Settings that are written and read again. Each section of the document gives back the
settings that it was written from: a setting that is there is not taken for another one, and
one that is left out is the standard choice. Only the directory of the manual has a standard
choice other than none, so only there reading adds something. -/
namespace KeyScript.Settings
open Toml

/-- The settings with the standard directory in place of none. -/
def filled (home : Option String) (s : Settings) : Settings :=
  { s with documentation.directory :=
      s.documentation.directory.or (DocumentationSettings.standard home).directory }

theorem word32?_toNat (n : UInt32) : word32? (.integer n.toNat) = some n := by
  have bound := n.toNat_lt
  have read : Value.nat? (UInt32.size - 1) (.integer n.toNat) = some n.toNat :=
    if_pos (Nat.le_sub_one_of_lt bound)
  rw [word32?, read, Option.map_some, UInt32.ofNat_toNat]

theorem word64?_toNat (n : UInt64) : word64? (.integer n.toNat) = some n := by
  have bound := n.toNat_lt
  have read : Value.nat? (UInt64.size - 1) (.integer n.toNat) = some n.toNat :=
    if_pos (Nat.le_sub_one_of_lt bound)
  rw [word64?, read, Option.map_some, UInt64.ofNat_toNat]

theorem strings?_strings (items : List String) : (strings items).strings? = some items := by
  rw [strings, Value.strings?, Value.array?, Option.bind_some, List.mapM_map]
  induction items with
  | nil => rfl
  | cons item items ih => simp [List.mapM_cons, Value.string?, ih]

theorem level?_word (level : LogLevel) : level? (.string level.word) = some level := by
  cases level <;> decide

section
variable (s : Settings)

theorem connection_tree : (fields? "connection" s.tree).bind connection? = some s.connection := by
  obtain ⟨⟨address, username, password, database, timeout⟩, _⟩ := s
  cases username <;> cases password <;>
    simp [tree, fields?, lookup, connection?, field?, Fields.get?, chosen, optional,
      ConnectionSettings.standard, Value.string?, word32?_toNat, word64?_toNat]

theorem cache_tree : (fields? "cache" s.tree).bind cache? = some s.cache := by
  simp [tree, fields?, lookup, cache?, field?, Fields.get?, Value.boolean?, word64?_toNat]

theorem completion_tree : (fields? "completion" s.tree).bind completion? = some s.completion := by
  simp [tree, fields?, lookup, completion?, field?, Fields.get?, strings?_strings]

theorem documentation_tree (home : Option String) :
    (fields? "documentation" s.tree).bind (documentation? home) =
      some (s.filled home).documentation := by
  obtain ⟨_, _, _, ⟨directory, sourceUrl⟩, _⟩ := s
  cases directory <;>
    simp [tree, fields?, lookup, documentation?, field?, Fields.get?, chosen, optional, filled,
      Value.string?]

theorem logging_tree : (fields? "logging" s.tree).bind logging? = some s.logging := by
  obtain ⟨_, _, _, _, ⟨level, filePath, timestamps⟩⟩ := s
  cases filePath <;>
    simp [tree, fields?, lookup, logging?, field?, Fields.get?, chosen, optional,
      LogSettings.standard, Value.string?, Value.boolean?, level?_word]

theorem ofTree?_tree (home : Option String) : ofTree? home s.tree = some (s.filled home) := by
  simp only [ofTree?, connection_tree, cache_tree, completion_tree, documentation_tree,
    logging_tree, Option.bind_eq_bind, Option.bind_some]
  rfl

end

theorem writable_nat {n : Nat} (bound : n < 2 ^ 64) : Writable (.integer n) := by
  apply Writable.simple
  apply Simple.integer
  simp only [isWithinBits, Nat.pow_eq, Bool.and_eq_true, decide_eq_true_eq]
  omega

theorem writable_strings (items : List String) : Writable (strings items) := by
  apply Writable.array
  intro item member
  obtain ⟨text, _, rfl⟩ := List.mem_map.mp member
  exact .string

theorem writable_string (text : String) : Writable (.string text) := .simple .string

theorem writable_boolean (b : Bool) : Writable (.boolean b) := .simple .boolean

theorem sectioned_tree (s : Settings) : Sectioned s.tree := by
  obtain ⟨⟨address, username, password, database, timeout⟩, cache, completion,
    ⟨directory, sourceUrl⟩, level, filePath, timestamps⟩ := s
  have small : database.toNat < 2 ^ 64 := Nat.lt_trans database.toNat_lt (by decide)
  have seconds := writable_nat timeout.toNat_lt
  have count := writable_nat cache.scanCount.toNat_lt
  constructor
  · simp only [tree, List.forall_mem_cons]
    exact ⟨by decide, by decide, by decide, by decide, by decide, by simp⟩
  · simp only [tree, List.forall_mem_cons]
    refine ⟨⟨_, rfl, ?_⟩, ⟨_, rfl, ?_⟩, ⟨_, rfl, ?_⟩, ⟨_, rfl, ?_⟩, ⟨_, rfl, ?_⟩, by simp⟩
    · cases username <;> cases password <;> constructor <;>
        simp [chosen, writable_string, writable_nat small, seconds] <;> decide
    · constructor <;> simp [writable_boolean, count]
      decide
    · constructor <;> simp [writable_strings]
      decide
    · cases directory <;> constructor <;> simp [chosen, writable_string] <;> decide
    · cases filePath <;> constructor <;> simp [chosen, writable_string, writable_boolean] <;> decide
  · simp [tree]

/-- Settings that are written are read back, each one as it was, but for a directory of the
manual that was not chosen: it is read as the standard one. -/
theorem parse_render (home : Option String) (s : Settings) :
    parse home s.render = .ok { s with
      documentation.directory :=
        s.documentation.directory.or (DocumentationSettings.standard home).directory } := by
  rw [parse, render, parse?_render s.sectioned_tree, Option.bind_some, ofTree?_tree]
  rfl

end KeyScript.Settings
