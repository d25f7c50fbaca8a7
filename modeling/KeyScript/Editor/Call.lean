import KeyScript.Editor.Documents
import KeyScript.Editor.Message
import KeyScript.Editor.Method

/-! What a message asks of the server, once its parameters have been read. -/
namespace KeyScript.Editor

inductive Call where
  | handshake
  | initialized
  | shutdown
  | change (change : Change)
  | complete (uri : Uri) (line character : Nat)
  /-- A completion item that was chosen, with its label. -/
  | resolve (label : String) (item : Json)
  | execute (command : String) (arguments : List Json)
  /-- The request with this identifier is not wanted any more. -/
  | cancel (id : Json)

/-! Reading parameters that fit. -/

def textAt (name : String) (value : Json) : String := ((value.get? name).bind Json.string?).getD ""

def natAt (name : String) (value : Json) : Nat := ((value.get? name).bind Json.nat?).getD 0

def inside (name : String) (value : Json) : Json := (value.get? name).getD .null

def itemsAt (name : String) (value : Json) : List Json :=
  ((value.get? name).bind Json.array?).getD []

def uriOf (params : Json) : Uri := ⟨textAt "uri" (inside "textDocument" params)⟩

/-- Parameters that must be there, in their shape. -/
def fitted (shape : Shape) (params : Option Json) : Except Refusal Json :=
  match params with
  | none => .error (.invalidParams "Missing params field")
  | some params => (shape.fit .standing params).mapError .invalidParams

def Call.read (method : Method) (params : Option Json) : Except Refusal Call :=
  match method with
  | .handshake => (fitted Parameter.handshake params).map fun _ => .handshake
  | .initialized => (fitted Parameter.begun params).map fun _ => .initialized
  | .shutdown =>
    match params with
    | none => .ok .shutdown
    | some params => .error (.invalidParams ("Unexpected params: " ++ params.compact))
  | .opened => (fitted Parameter.opened params).map fun p =>
      .change (.opened (uriOf p) (textAt "text" (inside "textDocument" p)))
  | .edited => (fitted Parameter.edited params).map fun p =>
      .change (.edited (uriOf p) ((itemsAt "contentChanges" p).map (textAt "text")))
  | .closed => (fitted Parameter.closed params).map fun p => .change (.closed (uriOf p))
  | .complete => (fitted Parameter.completion params).map fun p =>
      let position := inside "position" p
      .complete (uriOf p) (natAt "line" position) (natAt "character" position)
  | .resolve => (fitted Parameter.item params).map fun item => .resolve (textAt "label" item) item
  | .execute => (fitted Parameter.execution params).map fun p =>
      .execute (textAt "command" p) (itemsAt "arguments" p)
  | .cancel => (fitted Parameter.cancellation params).map fun p => .cancel (inside "id" p)
  | .otherRequest shape | .otherNotice shape =>
    match fitted shape params with
    | .ok _ => .error .notServed
    | .error refusal => .error refusal
  | .exit | .unknown => .error .notServed

end KeyScript.Editor
