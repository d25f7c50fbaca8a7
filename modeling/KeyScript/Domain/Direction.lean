import KeyScript.Text.Boundaries

/-! Names with letters that are written from right to left. Their parts may not be laid
out in a way that lets one be taken for another. -/
namespace KeyScript.Domain

open Text

/-- Letters written from right to left. -/
def rightward : Boundaries := .ofDistances "
1470 1 1 1 2 1 2 1 9 27 4 6 19 1 2 1 1 1 13 48 34 3 1 101 15 2 7 2 10 20 1 2 1 30 29 89 11 1 14 43 9
2 4 1 3 24 4 1 9 1 3 1 7 15 1 25 5 1 1 11 5 32 16 42 5957 1 56077 1 1 10 1 13 1 5 1 1 1 2 1 2 1 125
16 363 18 64 2 54 40 13 115 5 1 135 2307 6 2 1 1 44 1 2 3 1 2 23 1 72 8 9 48 19 1 2 5 33 4 26 5 27
38 56 4 20 2 47 15 4 1 3 1 29 10 9 7 9 7 64 32 37 6 12 9 54 10 22 2 27 5 26 7 4 12 7 80 73 55 51 13
51 7 42 38 28 9 23 8 2 240 42 3 1 2 2 16 6 56 40 8 22 11 9 22 18 4 4 38 28 20 23 55305 197 2 9 48 68
7 1 4 10 4 2 785 68 76 61 194 4 1 27 1 2 1 1 2 1 1 10 1 4 1 1 1 1 6 1 4 1 1 1 1 1 1 3 1 2 1 1 2 1 1
1 1 1 1 1 1 1 1 2 1 1 2 4 1 7 1 4 1 4 1 1 1 10 1 17 5 3 1 5 1 17"

def arabicNumbers : Boundaries := .ofDistances "
1536 6 90 10 1 2 112 1 434 2 80 1 66637 10 6 10 278 31"

def europeanNumbers : Boundaries := .ofDistances "
48 10 120 2 5 1 1590 10 6518 1 3 6 6 10 1022 20 55924 10 967 27 51700 10 2772 50 6400 11 2789 10"

/-- Marks that take the direction of what they stand on. -/
def spaceless : Boundaries := .ofDistances "
768 112 275 7 263 45 1 1 1 2 1 2 1 2 71 11 48 21 16 1 101 7 2 6 2 2 1 4 35 1 30 27 91 11 58 9 9 1 24
4 1 9 1 3 1 5 43 3 59 9 42 24 1 32 55 1 1 1 4 8 4 1 3 7 10 2 29 1 58 1 4 4 8 1 20 2 26 1 2 2 57 1 4
2 4 2 2 3 3 1 30 2 3 1 11 2 57 1 4 5 1 2 4 1 20 2 22 6 1 1 58 1 2 1 1 4 8 1 5 4 11 2 30 1 61 1 12 1
50 1 3 1 55 1 1 3 5 3 1 4 7 2 11 2 29 1 58 1 15 2 20 2 28 2 57 2 4 4 8 1 20 2 29 1 72 1 7 3 1 1 90 1
2 7 12 8 98 1 2 9 11 7 73 2 27 1 1 1 1 1 55 14 1 5 1 2 5 11 1 36 9 1 102 4 1 6 1 2 2 2 25 2 4 3 16 4
13 1 2 2 6 1 15 1 703 3 946 3 29 2 30 2 30 2 64 2 1 7 8 1 2 11 9 1 45 3 1 1 117 2 34 1 118 3 4 2 9 1
6 3 219 2 2 1 58 1 1 7 1 1 1 1 2 8 6 10 2 1 48 60 20 4 48 1 1 5 7 1 40 9 12 2 32 4 2 2 1 3 56 1 1 2
3 1 1 3 58 8 2 2 152 3 1 13 1 7 4 1 6 1 3 2 198 64 720 33 3070 3 141 1 96 32 554 4 107 2 30164 4 1
10 32 2 80 2 272 1 3 1 4 1 25 2 5 1 151 2 26 18 13 1 38 8 25 11 46 3 48 1 2 4 2 2 39 1 67 6 2 2 2 2
12 1 8 1 47 1 51 1 1 3 2 2 5 2 1 1 42 2 8 1 238 1 2 1 4 1 20272 1 737 16 16 16 973 1 226 1 149 5
1670 3 1 2 5 4 40 3 4 1 165 2 573 4 65 5 317 2 77 6 70 11 49 4 123 1 54 15 41 1 2 2 10 3 49 4 2 2 7
1 61 3 36 5 1 8 62 1 12 2 52 9 10 4 2 1 95 3 2 1 1 2 6 1 2 1 157 1 3 8 21 2 57 2 3 1 37 7 3 5 70 6
13 1 1 1 1 1 14 2 85 8 2 3 1 1 23 1 84 6 1 1 4 2 1 2 238 4 6 2 1 2 27 2 85 8 2 1 1 2 106 1 1 1 2 6 1
1 101 1 1 1 2 4 1 5 259 9 1 2 256 2 1 1 4 1 144 4 2 2 4 1 32 6 2 2 40 6 2 4 8 1 9 6 2 3 46 13 1 2
198 1 1 3 1 1 201 7 1 6 84 22 2 7 1 2 1 2 122 6 3 1 1 2 1 7 1 1 72 2 3 1 1 1 347 2 11 2 52 5 5 1 1 1
23 1 5349 1 6 15 11464 12 3 3 2496 5 59 7 1048 1 63 4 81 1 19640 2 4705 46 2 23 544 3 17 8 2 7 30 4
148 3 1979 55 4 50 8 1 14 1 22 5 1 15 1360 7 1 17 2 7 1 2 1 5 100 1 160 7 375 1 61 4 508 4 254 2 243
1 2 1 7 2 5 1 474 7 109 7 792501 240"

/-- Signs without a direction of their own. -/
def directionless : Boundaries := .ofDistances "
0 9 5 14 5 15 10 7 26 6 26 10 1 36 1 7 2 1 1 3 2 5 23 1 31 1 449 2 7 14 2 14 5 9 1 17 116 2 8 1 5 2
1 1 110 1 403 1 2 3 118 2 1 2 1 1 1 2 90 1 115 1 10 1 268 4 504 2 7 1 245 1 257 8 125 7 448 1 250 4
1106 10 102 1 666 2 318 1 20 10 6 11 3 1 305 1 3 2 152 34 1469 1 1 3 11 3 13 3 13 3 13 2 12 3 2 24 7
48 1 5 5 6 10 5 11 5 17 35 61 2 1 4 1 2 10 1 1 3 5 6 1 1 1 1 1 1 4 1 11 2 4 5 5 4 2 16 41 3 4 422 69
26 1 148 22 11 21 40 98 450 1 339 256 628 2 138 229 6 14 7 256 94 2 1 31 26 1 89 12 214 26 16 1 4 3
25 15 1 5 2 5 3 91 2 3 1 90 1 196 38 9 1 45 2 49 16 28 3 50 15 12 4 167 4 99 2 31 1 6592 64 22160 55
326 3 99 1 10 2 128 34 102 1 159 4 12 2 58 4 754 2 20413 1 153 16 363 18 64 2 54 8 45 3 16 10 22 35
1 19 1 4 147 1 1 15 10 7 26 6 26 11 122 7 1 7 10 5 259 1 62 77 3 13 3 1 1918 1 537 7 558 1 348 14
377 20 1530 13 2408 29 20464 1 19645 4 3932 214 36 3 3 436 6 23 1 1 13 17 642 8 110 2 21 66 3 1 186
87 874 1 25 1 31 1 25 1 31 1 25 1 31 1 25 1 31 1 25 1 828 256 1791 1 3056 2 270 44 4 100 12 15 2 15
1 15 1 37 21 5 31 1 58 6 61 1 178 6 154 986 2 17 3 13 3 218 6 12 4 1 15 12 4 56 8 10 6 40 8 30 2 12
4 2 14 9 39 344 8 14 2 13 3 71 1 1 4 17 1 13 3 12 5 147 1 92 10 1 787462 1 30 96"

inductive Direction where
  | left
  | right
  | arabicNumber
  | europeanNumber
  | mark
  | neutral
  deriving DecidableEq

def direction (c : Char) : Direction :=
  if rightward.contains c then .right
  else if arabicNumbers.contains c then .arabicNumber
  else if europeanNumbers.contains c then .europeanNumber
  else if spaceless.contains c then .mark
  else if directionless.contains c then .neutral
  else .left

/-- Something in the label is laid out from right to left. -/
def turns (label : List Char) : Bool :=
  label.any fun c => direction c = .right || direction c = .arabicNumber

def lastDirection? (label : List Char) : Option Direction :=
  (label.reverse.map direction).find? (· != .mark)

/-- A label begins and ends with a letter of its direction, or ends with a number, and
has no letter of the other direction nor numbers of both kinds. -/
def isLaidOut (label : List Char) : Bool :=
  let all := label.map direction
  match all with
  | [] => true
  | .right :: _ =>
    !all.contains .left &&
      (match lastDirection? label with
        | some .right => true
        | some .arabicNumber => true
        | some .europeanNumber => true
        | _ => false) &&
      !(all.contains .arabicNumber && all.contains .europeanNumber)
  | .left :: _ =>
    !all.contains .right && !all.contains .arabicNumber &&
      (match lastDirection? label with
        | some .left => true
        | some .europeanNumber => true
        | _ => false)
  | _ => false

end KeyScript.Domain
