import Mathlib.Data.List.DropRight
import KeyScript.Editor.Server
import KeyScript.Store.Prepared

/-! Documents do not interfere. A message changes at most the text of the document that
it is about, so two runs of a server that agree on a document go on agreeing on it
through every message about another one. What a document is completed from is the
last text it was given since it was last closed. -/
namespace KeyScript.Editor

namespace Documents

@[simp] theorem get?_empty (uri : Uri) : empty.get? uri = none := rfl

theorem get?_cons (key uri : Uri) (text : String) (entries : List (Uri × String)) :
    get? ⟨(key, text) :: entries⟩ uri = if uri = key then some text else get? ⟨entries⟩ uri := by
  by_cases own : uri = key
  · simp [get?, own]
  · simp [get?, List.lookup_cons, beq_false_of_ne own, own]

theorem get?_erase (d : Documents) (uri other : Uri) :
    (d.erase other).get? uri = if uri = other then none else d.get? uri := by
  obtain ⟨entries⟩ := d
  induction entries with
  | nil => exact (ite_self none).symm
  | cons entry entries ih =>
    obtain ⟨key, text⟩ := entry
    rw [erase] at ih ⊢
    by_cases gone : key = other
    · subst gone
      rw [List.filter_cons_of_neg (by simp), ih, get?_cons]
      by_cases own : uri = key <;> simp [own]
    · rw [List.filter_cons_of_pos (by simpa using gone), get?_cons, ih, get?_cons]
      by_cases own : uri = key
      · subst own
        simp [gone]
      · simp [own]

theorem get?_set (d : Documents) (uri other : Uri) (text : String) :
    (d.set other text).get? uri = if uri = other then some text else d.get? uri := by
  rw [set, get?_cons]
  by_cases own : uri = other
  · rw [if_pos own, if_pos own]
  · rw [if_neg own, if_neg own]
    exact (d.get?_erase uri other).trans (if_neg own)

end Documents

namespace Change

def uri : Change → Uri
  | opened uri _ => uri
  | edited uri _ => uri
  | closed uri => uri

/-- The text that the change gives to its document. -/
def text? : Change → Option String
  | opened _ text => some text
  | edited _ texts => texts.getLast?
  | closed _ => none

end Change

/-- The last text that a document was given since it was last closed. -/
def lastText? (uri : Uri) (changes : List Change) : Option String :=
  (((changes.rtakeWhile (· ≠ .closed uri)).filter (·.uri = uri)).filterMap Change.text?).getLast?

namespace Documents

theorem get?_after_other (d : Documents) {change : Change} (other : change.uri ≠ uri) :
    (d.after change).get? uri = d.get? uri := by
  cases change with
  | opened => exact (d.get?_set ..).trans (if_neg (Ne.symm other))
  | edited _ texts =>
    rw [after]
    cases texts.getLast? with
    | none => rfl
    | some text => exact (d.get?_set ..).trans (if_neg (Ne.symm other))
  | closed => exact (d.get?_erase ..).trans (if_neg (Ne.symm other))

theorem get?_after_own (d : Documents) {change : Change} (going : change ≠ .closed change.uri) :
    (d.after change).get? change.uri = (change.text?.or (d.get? change.uri)) := by
  cases change with
  | opened => exact (d.get?_set ..).trans (if_pos rfl)
  | edited uri texts =>
    rw [after, Change.text?]
    cases texts.getLast? with
    | none => rfl
    | some text => exact (d.get?_set ..).trans (if_pos rfl)
  | closed => exact absurd rfl going

theorem get?_after_closed (d : Documents) (uri : Uri) : (d.after (.closed uri)).get? uri = none :=
  (d.get?_erase ..).trans (if_pos rfl)

/-- Two stores of documents that agree on one of them do so after the same change. -/
theorem get?_after_congr {d e : Documents} (agree : d.get? uri = e.get? uri) (change : Change) :
    (d.after change).get? uri = (e.after change).get? uri := by
  by_cases own : change.uri = uri
  · subst own
    by_cases closes : change = .closed change.uri
    · rw [closes]
      exact (d.get?_after_closed _).trans (e.get?_after_closed _).symm
    · rw [d.get?_after_own closes, e.get?_after_own closes, agree]
  · rw [d.get?_after_other own, e.get?_after_other own, agree]

/-- Changes to other documents can be left out. -/
theorem get?_foldl_filter {d e : Documents} (agree : d.get? uri = e.get? uri)
    (changes : List Change) : ((changes.filter (·.uri = uri)).foldl after d).get? uri =
      (changes.foldl after e).get? uri := by
  induction changes generalizing d e with
  | nil => exact agree
  | cons change changes ih =>
    by_cases own : change.uri = uri
    · rw [List.filter_cons_of_pos (by simpa using own)]
      exact ih (get?_after_congr agree change)
    · rw [List.filter_cons_of_neg (by simpa using own)]
      exact ih (agree.trans (e.get?_after_other own).symm)

theorem get?_foldl_after (uri : Uri) (changes : List Change) :
    (changes.foldl after empty).get? uri = lastText? uri changes := by
  induction changes using List.reverseRecOn with
  | nil => rfl
  | append_singleton changes change ih =>
    rw [List.foldl_append, List.foldl_cons, List.foldl_nil, lastText?, List.rtakeWhile_concat]
    -- The last change is the first that counts, so the induction is from the right.
    by_cases closes : change = .closed uri
    · subst closes
      simpa using get?_after_closed _ uri
    · rw [if_pos (by simpa using closes), List.filter_append, List.filterMap_append,
        List.getLast?_append, ← lastText?, ← ih]
      by_cases own : change.uri = uri
      · subst own
        rw [get?_after_own _ closes, List.filter_cons_of_pos (by simp)]
        cases given : change.text? <;> simp [given]
      · rw [get?_after_other _ own, List.filter_cons_of_neg (by simpa using own)]
        rfl

end Documents

/-- The method whose messages make the call. -/
def Call.method : Call → Method
  | .handshake => .handshake
  | .initialized => .initialized
  | .shutdown => .shutdown
  | .change (.opened _ _) => .opened
  | .change (.edited _ _) => .edited
  | .change (.closed _) => .closed
  | .complete _ _ _ => .complete
  | .resolve _ _ => .resolve
  | .execute _ _ => .execute
  | .cancel _ => .cancel

def Call.change? : Call → Option Change
  | .change reported => some reported
  | _ => none

/-- Document, line and character that are to be completed. -/
def Call.completion? : Call → Option (Uri × Nat × Nat)
  | .complete uri line character => some (uri, line, character)
  | _ => none

theorem method_of_read (read : Call.read method params = .ok call) : call.method = method := by
  have mapped : ∀ {shape} {make : Json → Call},
      (fitted shape params).map make = .ok call → ∃ json, call = make json := by
    intro shape make same
    cases fits : fitted shape params with
    | error => simp [fits, Except.map] at same
    | ok json =>
      rw [fits] at same
      exact ⟨json, (Except.ok.inj same).symm⟩
  cases method with
  | shutdown =>
    cases params with
    | none =>
      cases read
      rfl
    | some => contradiction
  | otherRequest shape | otherNotice shape =>
    rw [Call.read] at read
    split at read <;> contradiction
  | exit | unknown => contradiction
  | _ =>
    obtain ⟨json, rfl⟩ := mapped read
    rfl

namespace Request

/-- What a ready server carries out for a message. A notice has no identifier, any other
message has one. -/
def call? (r : Request) : Option Call :=
  if (Method.ofName r.method).isNotice = r.id.isSome then none
  else (Call.read (Method.ofName r.method) r.params).toOption

def change? (r : Request) : Option Change := r.call?.bind Call.change?

def isAbout (uri : Uri) (r : Request) : Bool := r.change?.any (·.uri = uri)

def completion? (r : Request) : Option (Uri × Nat × Nat) := r.call?.bind Call.completion?

/-- The message ends the service, or the whole conversation. -/
def leaves (r : Request) : Bool :=
  match Method.ofName r.method with
  | .shutdown | .exit => true
  | _ => false

theorem method_of_call? {r : Request} (asked : r.call? = some call) :
    Method.ofName r.method = call.method := by
  rw [call?] at asked
  split at asked
  · contradiction
  · cases read : Call.read (Method.ofName r.method) r.params with
    | error => simp [read, Except.toOption] at asked
    | ok found =>
      rw [read] at asked
      cases asked
      exact (method_of_read read).symm

theorem call?_of_change? {r : Request} (reported : r.change? = some change) :
    r.call? = some (.change change) := by
  obtain ⟨call, asked, same⟩ := Option.bind_eq_some_iff.mp reported
  cases call <;> simp_all [Call.change?]

theorem call?_of_completion? {r : Request} (asked : r.completion? = some (uri, line, character)) :
    r.call? = some (.complete uri line character) := by
  obtain ⟨call, asked, same⟩ := Option.bind_eq_some_iff.mp asked
  cases call <;> simp_all [Call.completion?]

theorem filterMap_change?_filter (uri : Uri) (messages : List Request) :
    (messages.filter (isAbout uri)).filterMap change? =
      (messages.filterMap change?).filter (·.uri = uri) := by
  induction messages with
  | nil => rfl
  | cons r messages ih =>
    cases given : r.change? with
    | none => simpa [isAbout, given] using ih
    | some change =>
      by_cases own : change.uri = uri <;> simpa [isAbout, given, own] using ih

end Request

def Documents.afterAny (d : Documents) (change : Option Change) : Documents :=
  (change.map d.after).getD d

namespace Server
variable {services : Services σ} {server : Server σ} {r : Request}

theorem call_keeps (services : Services σ) (server : Server σ) (c : Call) :
    (server.call services c).2.phase = server.phase ∧
    (server.call services c).2.documents = server.documents.afterAny c.change? := by
  cases c with
  | execute command arguments =>
    rw [Server.call]
    cases script command arguments with
    | error => exact ⟨rfl, rfl⟩
    | ok text => exact ⟨rfl, rfl⟩
  | _ => exact ⟨rfl, rfl⟩

/-- A message that makes no call changes nothing, any other is answered with the result. -/
theorem handle_cases (services : Services σ) (server : Server σ) (r : Request) :
    (r.call? = none ∧ (server.handle services r).2 = server) ∨
    ∃ c, r.call? = some c ∧ server.handle services r =
      (⟨r.id.map fun id => answered id (server.call services c).1.result,
        (server.call services c).1.notices⟩, (server.call services c).2) := by
  cases notice : (Method.ofName r.method).isNotice <;> cases given : r.id <;>
    cases read : Call.read (Method.ofName r.method) r.params <;>
    simp [Request.call?, Server.handle, notice, given, read, Except.toOption]

theorem handle_keeps (services : Services σ) (server : Server σ) (r : Request) :
    (server.handle services r).2.phase = server.phase ∧
    (server.handle services r).2.documents = server.documents.afterAny r.change? := by
  rw [Request.change?]
  rcases handle_cases services server r with ⟨idle, same⟩ | ⟨c, asked, same⟩
  · rw [same, idle]
    exact ⟨rfl, rfl⟩
  · rw [same, asked]
    exact call_keeps services server c

/-- A ready server stays ready and heeds the change that a message reports. -/
theorem step_keeps (services : Services σ) (ready : server.phase = .ready)
    (stays : r.leaves = false) :
    (server.step services r).2.phase = .ready ∧
    (server.step services r).2.documents = server.documents.afterAny r.change? := by
  obtain ⟨phase, documents⟩ := handle_keeps services server r
  -- Messages that are passed over or refused are none that report a change.
  have idle : (∀ change, Method.ofName r.method ≠ Call.method (.change change)) →
      server.documents = server.documents.afterAny r.change? := by
    intro other
    have none : r.change? = none := by
      rw [Option.eq_none_iff_forall_ne_some]
      intro change reported
      exact other change (Request.method_of_call? (Request.call?_of_change? reported))
    rw [none]
    rfl
  rw [Server.step]
  cases method : Method.ofName r.method with
  | unknown =>
    refine ⟨ready, idle fun change => ?_⟩
    rw [method]
    cases change <;> nofun
  | handshake =>
    rw [if_neg (by simp [ready])]
    refine ⟨ready, idle fun change => ?_⟩
    rw [method]
    cases change <;> nofun
  | exit | shutdown => simp [Request.leaves, method] at stays
  | cancel => exact ⟨phase.trans ready, documents⟩
  | _ =>
    simp only [ready, if_true]
    exact ⟨phase.trans ready, documents⟩

def after (services : Services σ) (server : Server σ) (messages : List Request) : Server σ :=
  messages.foldl (fun server r => (server.step services r).2) server

theorem after_keeps (services : Services σ) (ready : server.phase = .ready) (messages : List Request)
    (stay : ∀ r ∈ messages, r.leaves = false) :
    (server.after services messages).phase = .ready ∧
    (server.after services messages).documents =
      (messages.filterMap Request.change?).foldl Documents.after server.documents := by
  induction messages generalizing server with
  | nil => exact ⟨ready, rfl⟩
  | cons r messages ih =>
    obtain ⟨first, later⟩ := List.forall_mem_cons.mp stay
    obtain ⟨phase, documents⟩ := step_keeps services ready first
    obtain ⟨still, rest⟩ := ih phase later
    refine ⟨still, rest.trans ?_⟩
    rw [documents]
    cases reported : r.change? with
    | none => rw [List.filterMap_cons_none reported]; rfl
    | some change => rw [List.filterMap_cons_some reported]; rfl

/-- The answer to a request for completion comes from the text of its document. -/
theorem step_complete (ready : server.phase = .ready)
    (asked : r.call? = some (.complete uri line character)) :
    (server.step services r).1 = ⟨r.id.map fun id => answered id
      (.ok (items (completion services (server.documents.text uri) line character))), []⟩ := by
  have method : Method.ofName r.method = .complete := Request.method_of_call? asked
  simp only [Server.step, method, ready, if_true]
  rcases handle_cases services server r with ⟨idle, _⟩ | ⟨c, found, same⟩
  · rw [asked] at idle
    contradiction
  · obtain rfl := Option.some.inj (asked.symm.trans found)
    rw [same]
    rfl

/-- A request for completion is answered from the last text that its document was given
since it was last closed, and as if the server had only heard of that document. -/
theorem completion_isolated (services : Services σ) (server : Server σ)
    (ready : server.phase = .ready) (none : server.documents = .empty) (messages : List Request)
    (stay : ∀ m ∈ messages, m.leaves = false)
    (asked : r.completion? = some (uri, line, character)) :
    (server.after services messages).documents.text uri =
      (lastText? uri (messages.filterMap Request.change?)).getD "" ∧
    ((server.after services messages).step services r).1 =
      ⟨r.id.map fun id => answered id (.ok (items (completion services
        ((lastText? uri (messages.filterMap Request.change?)).getD "") line character))), []⟩ ∧
    ((server.after services (messages.filter (Request.isAbout uri))).step services r).1 =
      ((server.after services messages).step services r).1 := by
  have fewer : ∀ m ∈ messages.filter (Request.isAbout uri), m.leaves = false :=
    fun m member => stay m (List.mem_of_mem_filter member)
  obtain ⟨phase, documents⟩ := after_keeps services ready messages stay
  obtain ⟨phase', documents'⟩ := after_keeps services ready _ fewer
  rw [Request.filterMap_change?_filter, none] at documents'
  rw [none] at documents
  have text : (server.after services messages).documents.text uri =
      (lastText? uri (messages.filterMap Request.change?)).getD "" := by
    rw [Documents.text, documents, Documents.get?_foldl_after]
  have same : (server.after services (messages.filter (Request.isAbout uri))).documents.text uri =
      (server.after services messages).documents.text uri := by
    rw [Documents.text, Documents.text, documents, documents', Documents.get?_foldl_filter rfl]
  have call := Request.call?_of_completion? asked
  refine ⟨text, ?_, ?_⟩
  · rw [step_complete phase call, text]
  · rw [step_complete phase call, step_complete phase' call, same]

end Server

/-! Messages as an editor sends them. -/
namespace Request

def document (uri : String) (more : List (String × Json)) : String × Json :=
  ("textDocument", .object (("uri", .string uri) :: more))

def opening (uri text : String) : Request :=
  ⟨none, "textDocument/didOpen", some (.object [document uri [
    ("languageId", .string "redis"), ("version", .nat 1), ("text", .string text)]])⟩

def editing (uri : String) (texts : List String) : Request :=
  ⟨none, "textDocument/didChange", some (.object [document uri [("version", .nat 2)],
    ("contentChanges", .array (texts.map fun text => .object [("text", .string text)]))])⟩

def closing (uri : String) : Request :=
  ⟨none, "textDocument/didClose", some (.object [document uri []])⟩

def completing (id : Nat) (uri : String) (line character : Nat) : Request :=
  ⟨some (.nat id), "textDocument/completion", some (.object [document uri [],
    ("position", .object [("line", .nat line), ("character", .nat character)])])⟩

end Request

/-- The second document is closed and edited again, the first is edited to nothing. -/
def twoDocuments : List Request :=
  [.opening "file:///b" "SET ", .opening "file:///a" "ACL", .closing "file:///b",
    .editing "file:///b" ["G", "GET "], .editing "file:///b" [],
    .completing 1 "file:///a" 0 3, .editing "file:///a" [""]]

def Services.plain : Services Store.Prepared :=
  ⟨.standard, ⟨["default"], ["user:1"]⟩, ⟨none⟩, .empty, Store.Prepared.store⟩

def Server.fresh : Server Store.Prepared := ⟨.ready, .empty, .ofAnswers []⟩

/-- Behind the `GET` of the second document the one key is offered. -/
theorem Server.completion_isolated_closed :
    (Server.fresh.after .plain twoDocuments).documents.text ⟨"file:///b"⟩ = "GET " ∧
    ((Server.fresh.after .plain twoDocuments).step .plain
      (.completing 2 "file:///b" 0 4)).1 =
        ⟨some (answered (.nat 2) (.ok (.array [.object [("label", .string "user:1"),
          ("kind", .nat 12)]]))), []⟩ ∧
    ((Server.fresh.after .plain (twoDocuments.filter (Request.isAbout ⟨"file:///b"⟩))).step .plain
      (.completing 2 "file:///b" 0 4)).1 =
        ((Server.fresh.after .plain twoDocuments).step .plain (.completing 2 "file:///b" 0 4)).1 := by
  have stay : ∀ m ∈ twoDocuments, m.leaves = false := by decide +kernel
  have asked : (Request.completing 2 "file:///b" 0 4).completion? =
      some (⟨"file:///b"⟩, 0, 4) := by decide +kernel
  have last : lastText? ⟨"file:///b"⟩ (twoDocuments.filterMap Request.change?) = some "GET " := by
    decide +kernel
  have offered : completion .plain "GET " 0 4 = ⟨.key, ["user:1"]⟩ := by decide +kernel
  obtain ⟨text, answer, alone⟩ := completion_isolated .plain .fresh rfl rfl twoDocuments stay asked
  rw [last] at text answer
  rw [Option.getD_some, offered] at answer
  exact ⟨text, answer, alone⟩

end KeyScript.Editor
