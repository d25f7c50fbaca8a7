import KeyScript.Domain.Direction
import KeyScript.Domain.Joining
import KeyScript.Domain.Mapping
import KeyScript.Domain.Punycode

/-! Names of domains: labels with dots between them. A name is brought into one spelling
and written in the old alphabet. -/
namespace KeyScript.Domain

open Text

def marks : Boundaries := .ofDistances "
768 112 275 7 263 45 1 1 1 2 1 2 1 2 71 11 48 21 16 1 101 7 2 6 2 2 1 4 35 1 30 27 91 11 58 9 9 1 24
4 1 9 1 3 1 5 43 3 59 9 42 24 1 33 54 3 1 18 1 7 10 2 29 3 56 1 1 7 2 2 2 3 9 1 10 2 26 1 2 3 56 1 1
5 4 2 2 3 3 1 30 2 3 1 11 3 56 1 1 8 1 3 1 3 20 2 22 6 1 3 56 1 1 7 2 2 2 3 5 5 10 2 30 1 59 5 3 3 1
4 9 1 40 5 55 1 1 7 1 3 1 4 7 2 11 2 29 3 56 1 1 7 1 3 1 4 7 2 11 2 15 1 12 4 55 2 1 7 1 3 1 4 9 1
10 2 29 3 70 1 4 6 1 1 1 8 18 2 61 1 2 7 12 8 98 1 2 9 11 7 73 2 27 1 1 1 1 1 4 2 49 20 1 2 5 11 1
36 9 1 100 20 23 4 4 3 1 3 2 7 3 4 13 12 1 1 10 4 703 3 946 4 28 3 29 2 30 2 64 32 9 1 45 3 1 1 117
2 34 1 118 12 4 12 219 5 57 10 1 29 2 1 48 60 20 5 47 17 38 9 12 3 30 13 56 14 48 20 152 3 1 21 4 1
6 1 2 3 198 64 720 33 3070 3 141 1 96 32 554 6 105 2 30164 4 1 10 32 2 80 2 272 1 3 1 4 1 23 5 4 1
83 2 50 18 26 18 13 1 38 8 25 13 44 4 47 14 36 1 67 14 12 1 8 2 45 3 50 1 1 3 2 2 5 2 1 1 41 5 5 2
236 8 1 2 20272 1 737 16 16 16 973 1 226 1 149 5 1670 3 1 2 5 4 40 3 4 1 165 2 573 4 65 5 317 2 77 6
70 11 49 4 122 3 53 15 41 1 2 2 10 4 45 11 7 1 61 3 36 14 16 2 44 1 12 3 48 14 8 4 1 2 92 12 6 1 2 1
157 12 21 4 55 2 1 7 2 2 2 3 9 1 10 2 2 7 3 5 67 9 1 1 2 1 1 4 1 5 1 1 14 2 82 18 23 1 81 20 235 7 2
9 27 2 82 17 106 13 101 15 256 15 245 6 1 2 2 4 1 1 1 2 141 7 2 7 3 1 28 10 40 7 1 4 8 1 9 11 46 16
198 8 199 8 1 8 82 22 1 14 122 6 3 1 1 2 1 7 1 1 66 5 1 2 1 5 347 4 9 2 1 1 48 7 3 5 23 1 5349 1 6
15 11464 18 2496 5 59 7 1048 1 1 55 7 4 81 1 11 2 19627 2 4705 46 2 23 542 5 3 6 8 8 2 7 30 4 148 3
1979 55 4 50 8 1 14 1 22 5 1 15 1360 7 1 17 2 7 1 2 1 5 100 1 160 7 375 1 61 4 508 4 254 2 243 1 2 1
7 2 5 1 474 7 109 7 792501 240"

/-- Characters of the old alphabet that no name has. -/
def isDenied (c : Char) : Bool :=
  c.toNat ≤ 0x20 || c.toNat = 0x7F || "%#/:<>?@[\\]^|".toList.contains c

def encodedMark : List Char := "xn--".toList

/-- No label that is not in the old alphabet has more characters than this. -/
def longest : Nat := 1000

/-- What may be said of a label alone. -/
def isLabel (label : List Char) : Bool :=
  !label.head?.any marks.contains && label.all (fun c => plain.contains c && !isDenied c) &&
    joinersFit [] label && (label.all Punycode.isOld || label.length ≤ longest)

/-- No more characters than this are read behind the mark. -/
def longestWritten : Nat := 2000

/-- What a label says: itself, or what is written by it. -/
def read? (label : List Char) : Option (List Char) :=
  if encodedMark.isPrefixOf label then
    let numbers := label.drop encodedMark.length
    match if numbers.length ≤ longestWritten then Punycode.decode? numbers else none with
    | none => none
    | some said =>
      if !label.all Punycode.isOld || said.all Punycode.isOld || encodedMark.isPrefixOf said ||
          composed said != said then none
      else some said
  else some label

def inOldAlphabet (label : List Char) : List Char :=
  if label.all Punycode.isOld then label else encodedMark ++ Punycode.encode label

/-- The name in its one spelling, if it is one. -/
def spelled? (name : List Char) : Option (List Char) :=
  (name.mapM written?).map fun parts => composed parts.flatten

/-- The name in the old alphabet, if it is one. -/
def ascii? (name : List Char) : Option (List Char) :=
  match spelled? name with
  | none => none
  | some spelled =>
    let labels := pieces '.' spelled
    match labels.mapM read? with
    | none => none
    | some said =>
      if said.all isLabel && (!said.any turns || said.all isLaidOut) then
        some (['.'].intercalate (labels.map inOldAlphabet))
      else none

end KeyScript.Domain
