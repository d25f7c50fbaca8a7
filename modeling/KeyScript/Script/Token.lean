import KeyScript.Text.Basic
import KeyScript.Vocabulary

/-! Tokens of a script and the scanner that reads them. A scanner step takes one
token off the remaining characters; backslashes before a token are dropped, and a
run of them at the end of the text is a token of its own. -/
namespace KeyScript.Script

inductive TokenKind where
  | keyword
  | identifier
  | string
  | blank
  | terminator
  | lineBreak
  | unknown
  deriving DecidableEq

structure Span where
  first : Nat
  last : Nat
  deriving DecidableEq

structure Token where
  kind : TokenKind
  /-- Character offsets in the whole text. -/
  place : Span
  /-- Character offsets on the line. -/
  columns : Span
  text : String
  deriving DecidableEq

namespace Token

def isBlank (t : Token) : Bool := t.kind == .blank

def isSeparator (t : Token) : Bool := t.kind == .terminator || t.kind == .lineBreak

end Token

def isEscape (c : Char) : Bool := c == '\\'

/-- Characters that a bare word cannot hold. -/
def endsWord (c : Char) : Bool := Text.isBlank c || c == ';' || c == '"' || isEscape c

/-- What follows an opening quote, up to the closing quote or the end of the text. -/
def quotedTail : List Char → List Char
  | [] => []
  | c :: cs => if c == '"' then [c] else c :: quotedTail cs

def wordKind (word : List Char) : TokenKind :=
  if Vocabulary.isCommand (String.ofList word) then .keyword else .identifier

/-- Kind and characters of the token that begins with `c`. -/
def lexeme (c : Char) (cs : List Char) : TokenKind × List Char :=
  if c == '\n' then (.lineBreak, [c])
  else if Text.isBlank c then (.blank, [c])
  else if c == ';' then (.terminator, [c])
  else if c == '"' then (.string, c :: quotedTail cs)
  else
    let word := c :: cs.takeWhile (!endsWord ·)
    (wordKind word, word)

structure Scanner where
  /-- Characters already read. -/
  offset : Nat
  /-- Characters already read on this line. A line feed inside a string does not end the line. -/
  column : Nat
  rest : List Char

namespace Scanner

def start (text : String) : Scanner := ⟨0, 0, text.toList⟩

def token (s : Scanner) (kind : TokenKind) (chars : List Char) : Token :=
  { kind
    place := ⟨s.offset, s.offset + (chars.length - 1)⟩
    columns := ⟨s.column, s.column + (chars.length - 1)⟩
    text := String.ofList chars }

def advance (s : Scanner) (count : Nat) : Scanner :=
  ⟨s.offset + count, s.column + count, s.rest.drop count⟩

def newLine (s : Scanner) : Scanner := { s with column := 0 }

def next? (s : Scanner) : Option (Token × Scanner) :=
  let escapes := s.rest.takeWhile isEscape
  let s' := s.advance escapes.length
  match s'.rest with
  | [] => if escapes.isEmpty then none else some (s.token .unknown escapes, s')
  | c :: cs =>
    let (kind, chars) := lexeme c cs
    let after := s'.advance chars.length
    some (s'.token kind chars, if kind = .lineBreak then after.newLine else after)

theorem lexeme_length_pos (c : Char) (cs : List Char) : 0 < (lexeme c cs).2.length := by
  simp only [lexeme]
  repeat' split
  all_goals simp

theorem next?_shorter {s after : Scanner} {t : Token} (h : s.next? = some (t, after)) :
    after.rest.length < s.rest.length := by
  simp only [next?, advance] at h
  split at h
  · next hrest =>
    split at h
    · simp at h
    · next hesc =>
      simp only [Option.some.injEq, Prod.mk.injEq] at h
      obtain ⟨-, rfl⟩ := h
      have hlen : 0 < (s.rest.takeWhile isEscape).length := by
        cases hs : s.rest.takeWhile isEscape with
        | nil => simp [hs] at hesc
        | cons => simp
      have hle : (s.rest.takeWhile isEscape).length ≤ s.rest.length :=
        (List.takeWhile_sublist isEscape).length_le
      simp only [List.length_drop]
      omega
  · next c cs hrest =>
    simp only [Option.some.injEq, Prod.mk.injEq] at h
    obtain ⟨-, rfl⟩ := h
    have hpos := lexeme_length_pos c cs
    have hdrop : (s.rest.drop (s.rest.takeWhile isEscape).length).length = cs.length + 1 := by
      rw [hrest]; rfl
    simp only [List.length_drop] at hdrop
    split <;> simp only [newLine, List.length_drop] <;> omega

def tokens (s : Scanner) : List Token :=
  match _h : s.next? with
  | none => []
  | some (t, after) => t :: after.tokens
termination_by s.rest.length
decreasing_by exact next?_shorter _h

end Scanner

def tokens (text : String) : List Token := (Scanner.start text).tokens

end KeyScript.Script
