import KeyScript.Store

/-! Ways of using a store. Loading names and running a script are sequences of single
uses, so what every use keeps is kept by all that is done with a store. A store that
answers as another does goes on answering as that one, whatever is done with both. -/
namespace KeyScript.Store

inductive Use where
  | execute (args : List String)
  | users
  | keys (count : Nat)
  deriving DecidableEq

namespace Use

/-- What a use gives when nothing fails. -/
def Result : Use → Type
  | execute _ => Answer
  | users => List String
  | keys _ => List String

def perform (store : Store σ) : (use : Use) → σ → Except Fault use.Result × σ
  | execute args => store.execute args
  | users => store.users
  | keys count => store.keys count

end Use

/-- What is done with a store: a single use, loading names, or running a script. -/
inductive Action where
  | single (use : Use)
  | load (count : Nat)
  | run (text : String)

namespace Action

def after (store : Store σ) (state : σ) : Action → σ
  | single use => (use.perform store state).2
  | load count => (store.loadNames count state).2
  | run text => (store.run text state).2

/-- The uses that the action consists of. Keys are asked for when users were given, and
a command is sent when every command before it had a value for an answer. -/
def uses (store : Store σ) (state : σ) : Action → List Use
  | single use => [use]
  | load count => if (store.users state).1.isOk then [.users, .keys count] else [.users]
  | run text =>
    ((Script.plan text).take (store.run text state).1.length).map fun c => .execute c.args

end Action

def afterUses (store : Store σ) (state : σ) (uses : List Use) : σ :=
  uses.foldl (fun state use => (use.perform store state).2) state

def afterActions (store : Store σ) (state : σ) (actions : List Action) : σ :=
  actions.foldl (Action.after store) state

theorem runCommands_uses (store : Store σ) (commands : List Script.Command) (state : σ) :
    (store.runCommands commands state).2 = store.afterUses state
      ((commands.take (store.runCommands commands state).1.length).map fun c =>
        .execute c.args) := by
  induction commands generalizing state with
  | nil => rfl
  | cons command commands ih =>
    rw [runCommands]
    cases sent : store.execute command.args state with
    | mk result middle =>
      have first : (Use.perform store (.execute command.args) state).2 = middle :=
        congrArg Prod.snd sent
      simp only
      split
      · simp only [List.length_cons, List.take_succ_cons, List.map_cons, afterUses,
          List.foldl_cons, first]
        exact ih middle
      · simp [afterUses, first]

/-- An action does to the state what its uses do one after another. -/
theorem after_eq_afterUses (store : Store σ) (state : σ) (action : Action) :
    action.after store state = store.afterUses state (action.uses store state) := by
  cases action with
  | single => rfl
  | load count =>
    simp only [Action.after, Action.uses, loadNames]
    cases users : store.users state with
    | mk result middle =>
      have first : (Use.perform store .users state).2 = middle := congrArg Prod.snd users
      cases result with
      | error fault => simp [afterUses, first, Except.isOk, Except.toBool]
      | ok names =>
        cases keys : store.keys count middle with
        | mk result last =>
          have second : (Use.perform store (.keys count) middle).2 = last := congrArg Prod.snd keys
          cases result <;> simp [keys, afterUses, first, second, Except.isOk, Except.toBool]
  | run text => exact runCommands_uses store (Script.plan text) state

section
variable {store : Store σ} {P : σ → Prop}

theorem afterUses_keeps (kept : ∀ (use : Use) state, P state → P (use.perform store state).2)
    (uses : List Use) (holds : P state) : P (store.afterUses state uses) := by
  induction uses generalizing state with
  | nil => exact holds
  | cons use uses ih => exact ih (kept use state holds)

/-- What every use keeps is kept by every sequence of actions. -/
theorem afterActions_keeps (kept : ∀ (use : Use) state, P state → P (use.perform store state).2)
    (actions : List Action) (holds : P state) : P (store.afterActions state actions) := by
  induction actions generalizing state with
  | nil => exact holds
  | cons action actions ih =>
    apply ih
    rw [after_eq_afterUses]
    exact afterUses_keeps kept _ holds

end

/-- `outer` answers as `inner` does, and its state is a view of that of `inner`. -/
structure Follows (view : σ → τ) (inner : Store σ) (outer : Store τ) : Prop where
  execute : ∀ args state, outer.execute args (view state) =
    (inner.execute args state).map id view
  users : ∀ state, outer.users (view state) = (inner.users state).map id view
  keys : ∀ count state, outer.keys count (view state) = (inner.keys count state).map id view

namespace Follows
variable {view : σ → τ} {inner : Store σ} {outer : Store τ}

theorem perform (follows : Follows view inner outer) (use : Use) (state : σ) :
    use.perform outer (view state) = (use.perform inner state).map id view := by
  cases use with
  | execute args => exact follows.execute args state
  | users => exact follows.users state
  | keys count => exact follows.keys count state

theorem runCommands (follows : Follows view inner outer) (commands : List Script.Command)
    (state : σ) : outer.runCommands commands (view state) =
      (inner.runCommands commands state).map id view := by
  induction commands generalizing state with
  | nil => rfl
  | cons command commands ih =>
    simp only [Store.runCommands, follows.execute, Prod.map_fst, Prod.map_snd, id_eq, ih]
    split <;> rfl

theorem loadNames (follows : Follows view inner outer) (count : Nat) (state : σ) :
    outer.loadNames count (view state) = (inner.loadNames count state).map id view := by
  simp only [Store.loadNames, follows.users]
  cases inner.users state with
  | mk result middle =>
    cases result with
    | error => rfl
    | ok names =>
      simp only [Prod.map_apply, id_eq, follows.keys]
      cases inner.keys count middle with
      | mk result last => cases result <;> rfl

theorem after (follows : Follows view inner outer) (state : σ) (action : Action) :
    action.after outer (view state) = view (action.after inner state) := by
  cases action with
  | single use => exact congrArg Prod.snd (follows.perform use state)
  | load count => exact congrArg Prod.snd (follows.loadNames count state)
  | run text => exact congrArg Prod.snd (follows.runCommands (Script.plan text) state)

theorem afterActions (follows : Follows view inner outer) (state : σ) (actions : List Action) :
    outer.afterActions (view state) actions = view (inner.afterActions state actions) := by
  induction actions generalizing state with
  | nil => rfl
  | cons action actions ih =>
    simp only [Store.afterActions, List.foldl_cons, follows.after]
    exact ih _

end Follows

end KeyScript.Store
