import Mathlib.Data.List.Forall2
import KeyScript.Proofs.Script.Sequencing
import KeyScript.Proofs.Store.Using

/-! How far a script is run. The commands of its plan are sent one by one up to the first
that has no value for an answer. A store that keeps a record of what it is asked tells
which commands are sent; the answers are those of a store that is asked everything. -/
namespace KeyScript

/-- What is shown of an answer. -/
inductive Outcome.Shows : Except Fault Answer → Outcome → Prop where
  | value (text : String) : Shows (.ok (.value text)) (.reply text)
  | nil : Shows (.ok .nil) .nil
  | fault (fault : Fault) : Shows (.error fault) (.failed fault.message)

theorem Outcome.shows_ofResult (result : Except Fault Answer) : Shows result (ofResult result) := by
  cases result with
  | error fault => exact .fault fault
  | ok answer =>
    cases answer with
    | nil => exact .nil
    | value text => exact .value text

namespace Store

/-- The script goes on behind a value only. -/
def isValue : Except Fault Answer → Bool
  | .ok (.value _) => true
  | _ => false

/-- The answers when every command is sent, each from the state that those before it leave. -/
def answers (store : Store σ) : List Script.Command → σ → List (Except Fault Answer)
  | [], _ => []
  | command :: rest, state =>
    let (result, after) := store.execute command.args state
    result :: store.answers rest after

/-- The position, counted from one, of the first answer that is no value. When all are
values, their number. -/
def stopCount (results : List (Except Fault Answer)) : Nat :=
  match results.findIdx? (!isValue ·) with
  | some index => index + 1
  | none => results.length

/-- The state of a store and the uses that were made of it, in order. -/
structure Recorded (σ : Type) where
  state : σ
  uses : List Use

/-- The store with a record of its uses. -/
def recorded (store : Store σ) : Store (Recorded σ) where
  execute args r := (store.execute args r.state).map id (⟨·, r.uses ++ [.execute args]⟩)
  users r := (store.users r.state).map id (⟨·, r.uses ++ [.users]⟩)
  keys count r := (store.keys count r.state).map id (⟨·, r.uses ++ [.keys count]⟩)

theorem follows_recorded (store : Store σ) : Follows Recorded.state store.recorded store :=
  ⟨fun _ _ => rfl, fun _ => rfl, fun _ _ => rfl⟩

theorem isSuccess_ofResult (result : Except Fault Answer) :
    (Outcome.ofResult result).isSuccess = isValue result := by
  cases result with
  | error => rfl
  | ok answer => cases answer <;> rfl

theorem ofResult_of_stop {result : Except Fault Answer} (stop : isValue result = false) :
    Outcome.ofResult result = .nil ∨ ∃ text, Outcome.ofResult result = .failed text := by
  cases result with
  | error fault => exact Or.inr ⟨fault.message, rfl⟩
  | ok answer =>
    cases answer with
    | nil => exact Or.inl rfl
    | value => contradiction

theorem length_answers (store : Store σ) (commands : List Script.Command) (state : σ) :
    (store.answers commands state).length = commands.length := by
  induction commands generalizing state with
  | nil => rfl
  | cons command commands ih => exact congrArg (· + 1) (ih _)

section
variable {result : Except Fault Answer} {results : List (Except Fault Answer)}

theorem stopCount_value (value : isValue result = true) :
    stopCount (result :: results) = stopCount results + 1 := by
  cases found : results.findIdx? (!isValue ·) <;>
    simp [stopCount, List.findIdx?_cons, value, found]

theorem stopCount_stop (stop : isValue result = false) : stopCount (result :: results) = 1 := by
  simp [stopCount, List.findIdx?_cons, stop]

theorem stopCount_le (results : List (Except Fault Answer)) :
    stopCount results ≤ results.length := by
  cases found : results.findIdx? (!isValue ·) with
  | none => simp [stopCount, found]
  | some index =>
    have inside : index < results.length := (List.findIdx?_eq_some_iff_getElem.mp found).1
    rw [stopCount, found]
    exact inside

/-- Up to the stop all answers but the last are values, and one that leaves answers behind
it is none. -/
theorem take_stopCount (results : List (Except Fault Answer)) :
    (∀ result ∈ (results.take (stopCount results)).dropLast, isValue result = true) ∧
    (stopCount results < results.length →
      ∃ result ∈ (results.take (stopCount results)).getLast?, isValue result = false) := by
  induction results with
  | nil => simp
  | cons result results ih =>
    cases kind : isValue result with
    | false => simp [stopCount_stop kind, kind]
    | true =>
      obtain ⟨values, last⟩ := ih
      rw [stopCount_value kind, List.take_succ_cons]
      constructor
      · intro other member
        cases rest : results.take (stopCount results) with
        | nil => simp [rest] at member
        | cons next more =>
          rw [rest, List.dropLast_cons_cons, List.mem_cons] at member
          rcases member with rfl | member
          · exact kind
          · exact values other (rest ▸ member)
      · intro short
        obtain ⟨other, final, stop⟩ := last (by simpa using short)
        exact ⟨other, by simp [List.getLast?_cons, Option.mem_def.mp final], stop⟩

end

theorem outcomes_runCommands (store : Store σ) (commands : List Script.Command) (state : σ) :
    (store.runCommands commands state).1 =
      ((store.answers commands state).take (stopCount (store.answers commands state))).map
        Outcome.ofResult := by
  induction commands generalizing state with
  | nil => rfl
  | cons command commands ih =>
    rw [runCommands, answers]
    cases store.execute command.args state with
    | mk result after =>
      simp only [isSuccess_ofResult]
      cases kind : isValue result with
      | true => simp [stopCount_value kind, ih after]
      | false => simp [stopCount_stop kind]

theorem length_runCommands (store : Store σ) (commands : List Script.Command) (state : σ) :
    (store.runCommands commands state).1.length = stopCount (store.answers commands state) := by
  rw [outcomes_runCommands, List.length_map, List.length_take]
  exact Nat.min_eq_left (stopCount_le _)

theorem uses_afterUses (store : Store σ) (uses : List Use) (r : Recorded σ) :
    (store.recorded.afterUses r uses).uses = r.uses ++ uses := by
  induction uses generalizing r with
  | nil => exact (List.append_nil r.uses).symm
  | cons use uses ih =>
    have recorded : (use.perform store.recorded r).2.uses = r.uses ++ [use] := by
      cases use <;> rfl
    calc (store.recorded.afterUses r (use :: uses)).uses
      _ = (use.perform store.recorded r).2.uses ++ uses := ih _
      _ = r.uses ++ use :: uses := by rw [recorded, List.append_assoc, List.singleton_append]

/-- A plan that is run up to the first answer that is no value. -/
structure FailStop (store : Store σ) (planned : List Script.Command) (state : σ)
    (uses : List Use) (outcomes : List Outcome) : Prop where
  /-- The first commands are sent, each once and in order, and nothing else is asked. -/
  sent : uses = (planned.take (stopCount (store.answers planned state))).map (.execute ·.args)
  count : outcomes.length = stopCount (store.answers planned state)
  shown : List.Forall₂ Outcome.Shows
    ((store.answers planned state).take (stopCount (store.answers planned state))) outcomes
  replies : ∀ outcome ∈ outcomes.dropLast, ∃ text, outcome = .reply text
  stopped : outcomes.length < planned.length →
    ∃ outcome ∈ outcomes.getLast?, outcome = .nil ∨ ∃ text, outcome = .failed text

/-- Every script runs up to its first answer that is no value, whatever the store does, and
the record that tells so changes nothing for the store. -/
theorem run_failStop (store : Store σ) (text : String) (state : σ) :
    FailStop store (Script.plan text) state (store.recorded.run text ⟨state, []⟩).2.uses
      (store.run text state).1 ∧
    store.run text state = (store.recorded.run text ⟨state, []⟩).map id Recorded.state := by
  have follows := (follows_recorded store).runCommands (Script.plan text) ⟨state, []⟩
  have same : (store.recorded.runCommands (Script.plan text) ⟨state, []⟩).1 =
      (store.runCommands (Script.plan text) state).1 := (congrArg Prod.fst follows).symm
  obtain ⟨values, last⟩ := take_stopCount (store.answers (Script.plan text) state)
  refine ⟨⟨?_, length_runCommands store _ state, ?_, ?_, ?_⟩, follows⟩
  · rw [run, runCommands_uses, same, length_runCommands, uses_afterUses]
    rfl
  · rw [run, outcomes_runCommands, List.forall₂_map_right_iff]
    exact List.forall₂_same.mpr fun result _ => Outcome.shows_ofResult result
  · intro outcome member
    rw [run, outcomes_runCommands, ← List.map_dropLast] at member
    obtain ⟨result, before, rfl⟩ := List.mem_map.mp member
    rw [← Outcome.isSuccess_iff, isSuccess_ofResult]
    exact values result before
  · rw [run, length_runCommands, ← length_answers store _ state]
    intro short
    obtain ⟨result, final, stop⟩ := last short
    refine ⟨.ofResult result, ?_, ofResult_of_stop stop⟩
    rw [outcomes_runCommands, List.getLast?_map, Option.mem_def.mp final]
    rfl

end Store

end KeyScript
