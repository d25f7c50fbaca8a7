import KeyScript.Connection.Session
import KeyScript.Proofs.Store.Using

/-! The life of a session. The other side is watched: it keeps a record of the attempts
and commands that reach it, and answers as before. What asking does is said once for a
session without a connection and once for one that has it; the status, the connection
and the record then agree after whatever is done with the session. -/
namespace KeyScript.Connection
open Store (Use Action)

/-- What reaches the other side. -/
inductive Contact where
  | attempt (result : Attempt)
  | command (args : List String)
  deriving DecidableEq

def Contact.isAttempt : Contact → Bool
  | attempt _ => true
  | command _ => false

/-- The other side with a record of what has reached it, in order. -/
structure Watched (π : Type) where
  peer : π
  contacts : List Contact

def Peer.watched (peer : Peer π) : Peer (Watched π) where
  connect w :=
    let (result, p) := peer.connect w.peer
    (result, ⟨p, w.contacts ++ [.attempt result]⟩)
  request args w :=
    let (reply, p) := peer.request args w.peer
    (reply, ⟨p, w.contacts ++ [.command args]⟩)

namespace Session

def attempts (s : Session (Watched π)) : Nat := s.peer.contacts.countP Contact.isAttempt

def unwatched (s : Session (Watched π)) : Session π := ⟨s.status, s.established, s.peer.peer⟩

/-- The command that is sent for a use of the store. -/
def command : Use → List String
  | .execute args => args
  | .users => ["ACL", "USERS"]
  | .keys count => ["SCAN", "0", "COUNT", String.ofList (Text.decimal count)]

/-- What a use makes of the value in a reply. -/
def reader : (use : Use) → Reply.Value → Except StoreFault use.Result
  | .execute _ => answer
  | .users => Reply.Value.names
  | .keys _ => fun value => value.page.map (·.2)

def reading (read : Reply.Value → Except StoreFault α) (reply : Except StoreFault Reply.Value) :
    Except Fault α :=
  (reply.bind fun value => value.orError.bind read).mapError .store

theorem perform_empty (peer : Peer π) (s : Session π) :
    Use.perform (store peer) (.execute []) s = (.error (.execution .emptyCommand), s) := rfl

theorem perform_eq_ask (peer : Peer π) {use : Use} (some : use ≠ .execute []) (s : Session π) :
    use.perform (store peer) s = ask peer (command use) (reader use) s := by
  cases use with
  | execute args =>
    have nonempty : args.isEmpty = false := by
      cases args with
      | nil => exact absurd rfl some
      | cons => rfl
    exact if_neg (by simp [nonempty])
  | users => rfl
  | keys => rfl

/-- What asking does in a session without a connection: one attempt is made, and the
command is sent only behind an attempt that succeeds. -/
inductive Tried (peer : Peer π) (args : List String) (read : Reply.Value → Except StoreFault α)
    (s : Session (Watched π)) : Except Fault α → Session (Watched π) → Prop where
  | connected : peer.connect s.peer.peer = (.connected, p) → peer.request args p = (reply, q) →
      Tried peer args read s (reading read reply)
        ⟨.connected, true, ⟨q, s.peer.contacts ++ [.attempt .connected, .command args]⟩⟩
  | failed : peer.connect s.peer.peer = (.failed reason, p) →
      Tried peer args read s (.error (.connection (.failed reason)))
        ⟨.failed reason, false, ⟨p, s.peer.contacts ++ [.attempt (.failed reason)]⟩⟩
  | timedOut : peer.connect s.peer.peer = (.timedOut, p) →
      Tried peer args read s (.error (.connection .timeout))
        ⟨.failed "timeout", false, ⟨p, s.peer.contacts ++ [.attempt .timedOut]⟩⟩

/-- The status tells whether there is a connection and whether one was ever attempted. -/
structure Faithful (s : Session (Watched π)) : Prop where
  connected : s.status = .connected ↔ s.established = true
  disconnected : s.status = .disconnected ↔ s.attempts = 0

section
variable {peer : Peer π} {s after : Session (Watched π)}
  {read : Reply.Value → Except StoreFault α}

theorem ask_tried (peer : Peer π) (args : List String)
    (read : Reply.Value → Except StoreFault α) (unconnected : s.established = false) :
    Tried peer args read s (ask peer.watched args read s).1 (ask peer.watched args read s).2 := by
  cases tried : peer.connect s.peer.peer with
  | mk result p =>
    simp only [ask, connect, unconnected, Peer.watched, tried, Bool.false_eq_true, if_false]
    cases result with
    | connected =>
      simp only [List.append_assoc, List.singleton_append]
      exact .connected tried rfl
    | failed => exact .failed tried
    | timedOut => exact .timedOut tried

/-- In a session with a connection the command is sent at once. -/
theorem ask_established (established : s.established = true) :
    ask peer.watched args read s = (reading read (peer.request args s.peer.peer).1,
      { s with peer := ⟨(peer.request args s.peer.peer).2,
        s.peer.contacts ++ [.command args]⟩ }) := by
  simp only [ask, connect, established, if_true]
  rfl

theorem Tried.faithful (tried : Tried peer args read s result after) : Faithful after := by
  cases tried with
  | connected => exact ⟨by simp, by simp [attempts, Contact.isAttempt, List.countP_append]⟩
  | failed => exact ⟨by simp, by simp [attempts, Contact.isAttempt, List.countP_append]⟩
  | timedOut => exact ⟨by simp, by simp [attempts, Contact.isAttempt, List.countP_append]⟩

/-- A use of a connected session attempts nothing and leaves it connected. -/
theorem perform_established (peer : Peer π) (use : Use) (established : s.established = true) :
    (use.perform (store peer.watched) s).2.status = s.status ∧
      (use.perform (store peer.watched) s).2.established = true ∧
      (use.perform (store peer.watched) s).2.attempts = s.attempts := by
  by_cases empty : use = .execute []
  · subst empty
    rw [perform_empty]
    exact ⟨rfl, established, rfl⟩
  · rw [perform_eq_ask _ empty, ask_established established]
    exact ⟨rfl, established, by simp [attempts, Contact.isAttempt, List.countP_append]⟩

theorem perform_faithful (peer : Peer π) (use : Use) (s : Session (Watched π))
    (faithful : Faithful s) : Faithful (use.perform (store peer.watched) s).2 := by
  by_cases empty : use = .execute []
  · subst empty
    exact faithful
  · cases established : s.established with
    | false =>
      rw [perform_eq_ask _ empty]
      exact (ask_tried peer _ _ established).faithful
    | true =>
      obtain ⟨status, kept, attempts⟩ := perform_established peer use established
      constructor
      · rw [status, kept, faithful.connected, established]
      · rw [status, attempts]
        exact faithful.disconnected

/-- A connected session stays so, and the attempts so far are all that it makes. -/
theorem afterActions_connected (peer : Peer π) (actions : List Action)
    (connected : s.status = .connected) (established : s.established = true) :
    ((store peer.watched).afterActions s actions).status = .connected ∧
      ((store peer.watched).afterActions s actions).established = true ∧
      ((store peer.watched).afterActions s actions).attempts = s.attempts := by
  refine Store.afterActions_keeps (P := fun later : Session (Watched π) =>
    later.status = .connected ∧ later.established = true ∧ later.attempts = s.attempts)
    ?_ actions ⟨connected, established, rfl⟩
  rintro use later ⟨status, established, attempts⟩
  obtain ⟨same, kept, none⟩ := perform_established peer use established
  exact ⟨same.trans status, kept, none.trans attempts⟩

end

theorem connect_unwatched (peer : Peer π) (s : Session (Watched π)) :
    connect peer (unwatched s) = (connect peer.watched s).map id unwatched := by
  cases established : s.established with
  | true => simp [connect, unwatched, established]
  | false =>
    cases tried : peer.connect s.peer.peer with
    | mk result p =>
      cases result <;> simp [connect, unwatched, established, Peer.watched, tried]

theorem ask_unwatched (peer : Peer π) (args : List String)
    (read : Reply.Value → Except StoreFault α) (s : Session (Watched π)) :
    ask peer args read (unwatched s) = (ask peer.watched args read s).map id unwatched := by
  rw [ask, ask, connect_unwatched]
  cases connect peer.watched s with
  | mk result middle => cases result <;> rfl

theorem follows_unwatched (peer : Peer π) :
    Store.Follows unwatched (store peer.watched) (store peer) := by
  refine ⟨fun args s => ?_, ask_unwatched peer _ _, fun count => ask_unwatched peer _ _⟩
  simp only [store, execute]
  split
  · rfl
  · exact ask_unwatched peer args answer s

/-- What holds of a session at every point of its life. -/
structure LifeCycle (peer : Peer π) (s : Session (Watched π)) : Prop where
  connected : s.status = .connected ↔ s.established = true
  disconnected : s.status = .disconnected ↔ s.attempts = 0
  /-- Once connected, a session stays so and attempts nothing more. -/
  kept : s.status = .connected → ∀ actions,
    ((store peer.watched).afterActions s actions).status = .connected ∧
      ((store peer.watched).afterActions s actions).established = true ∧
      ((store peer.watched).afterActions s actions).attempts = s.attempts
  /-- Until then each use makes one attempt. -/
  tried : s.status ≠ .connected → ∀ use, use ≠ .execute [] →
    Tried peer (command use) (reader use) s
      (use.perform (store peer.watched) s).1 (use.perform (store peer.watched) s).2
  empty : Use.perform (store peer.watched) (.execute []) s =
    (.error (.execution .emptyCommand), s)

/-- Every session that actions lead to lives this life, whatever the other side does.
Each action is a sequence of uses, and being watched changes nothing. -/
theorem lifeCycle_afterActions (peer : Peer π) (p : π) (actions : List Action) :
    LifeCycle peer ((store peer.watched).afterActions (start ⟨p, []⟩) actions) ∧
    (∀ (action : Action) s, action.after (store peer.watched) s =
      (store peer.watched).afterUses s (action.uses (store peer.watched) s)) ∧
    (store peer).afterActions (start p) actions =
      ((store peer.watched).afterActions (start ⟨p, []⟩) actions).unwatched := by
  have fresh : Faithful (start (⟨p, []⟩ : Watched π)) :=
    ⟨by simp [start], by simp [start, attempts]⟩
  have faithful := Store.afterActions_keeps (perform_faithful peer) actions fresh
  generalize reached : (store peer.watched).afterActions (start ⟨p, []⟩) actions = s at faithful ⊢
  refine ⟨⟨faithful.connected, faithful.disconnected, fun connected more => ?_,
    fun unconnected use some => ?_, perform_empty _ _⟩,
    fun action s => Store.after_eq_afterUses _ s action, ?_⟩
  · exact afterActions_connected peer more connected (faithful.connected.mp connected)
  · rw [perform_eq_ask _ some]
    apply ask_tried
    exact Bool.eq_false_iff.mpr (mt faithful.connected.mpr unconnected)
  · rw [← reached, ← (follows_unwatched peer).afterActions]
    rfl

end Session

end KeyScript.Connection
