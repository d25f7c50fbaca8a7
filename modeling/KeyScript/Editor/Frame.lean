import KeyScript.Json.Printer
import KeyScript.Text.Basic

/-! Frames: each message on the wire follows a header that gives its length in bytes. -/
namespace KeyScript.Editor.Frame

def lengthName : String := "Content-Length"

def lineEnd : String := "\r\n"

/-- A message with its header. -/
def text (message : Json) : String :=
  let body := message.compact
  lengthName ++ ": " ++ String.ofList (Text.decimal body.utf8ByteSize) ++ lineEnd ++ lineEnd ++ body

/-- The length that a line of a header gives, if it gives one. -/
def length? (line : String) : Option Nat :=
  let cs := line.toList
  match cs.dropWhile (· != ':') with
  | [] => none
  | _ :: value =>
    let name := String.ofList (Text.trimmed (cs.takeWhile (· != ':')))
    if Text.sameFolded name lengthName then Text.natOf? (Text.trimmed value) else none

/-- A line of nothing but its end closes the header. -/
def closes (line : String) : Bool := Text.isAllBlank line

end KeyScript.Editor.Frame
