import KeyScript.Text.Boundaries

/-! Letters with marks. A letter and a mark that have a character of their own are
written by it, and marks on one letter come in a fixed order, so that a name has one
spelling. -/
namespace KeyScript.Domain

open Text

/-- So many characters from `first` on whose place among marks is `order`. -/
structure MarkRow where
  first : Nat
  count : Nat
  order : Nat

def markRowsFrom (start : Nat) : List Nat → List MarkRow
  | gap :: count :: order :: rest => ⟨start + gap, count, order⟩ :: markRowsFrom (start + gap) rest
  | _ => []

def markRows : List MarkRow := markRowsFrom 0 (numbers "
768 21 230 21 1 232 1 4 220 4 1 232 1 1 216 1 5 220 5 2 202 2 4 220 4 2 202 2 11 220 11 5 1 5 4 220
4 8 230 8 1 240 1 1 230 1 3 220 3 3 230 3 2 220 3 3 230 3 4 220 4 1 230 1 1 232 1 2 220 2 1 230 1 1
233 1 2 234 2 1 233 1 2 234 2 1 233 1 13 230 288 5 230 270 1 220 1 4 230 4 1 220 1 3 230 3 1 222 1 1
220 1 6 230 6 6 220 6 2 230 2 1 220 1 2 230 2 1 222 1 1 228 1 1 230 1 1 10 1 1 11 1 1 12 1 1 13 1 1
14 1 1 15 1 1 16 1 1 17 1 1 18 1 2 19 2 1 20 1 1 21 1 1 22 2 1 23 2 1 24 1 1 25 2 1 230 1 1 220 2 1
18 73 8 230 8 1 30 1 1 31 1 1 32 49 1 27 1 1 28 1 1 29 1 1 30 1 1 31 1 1 32 1 1 33 1 1 34 1 2 230 2
2 220 2 5 230 5 1 220 1 2 230 2 1 220 17 1 35 102 7 230 9 4 230 4 1 220 1 1 230 3 2 230 3 1 220 1 2
230 2 1 220 36 1 36 31 1 230 1 1 220 1 2 230 2 1 220 1 2 230 2 3 220 3 1 230 1 2 220 2 1 230 1 1 220
1 3 230 3 1 220 1 1 230 1 1 220 1 1 230 1 1 220 1 1 230 1 1 220 1 2 230 162 7 230 7 1 220 1 1 230 10
1 220 25 4 230 5 9 230 10 3 230 4 5 230 48 3 220 62 2 230 2 3 220 3 4 230 46 5 230 5 5 220 5 14 230
15 1 220 1 2 230 2 1 220 1 2 230 2 1 220 1 3 230 3 3 220 3 1 27 1 1 28 1 1 29 1 3 230 3 1 220 1 2
230 2 2 220 2 5 230 65 1 7 17 1 9 4 1 230 1 1 220 1 2 230 105 1 7 17 1 9 49 1 230 62 1 7 17 1 9 111
1 7 17 1 9 111 1 7 17 1 9 128 1 9 111 1 7 17 1 9 8 1 84 1 1 91 102 1 7 17 1 9 110 2 9 18 1 9 125 1 9
110 2 103 2 1 9 14 4 107 112 2 118 2 1 9 14 4 122 80 2 220 29 1 220 2 1 220 2 1 216 56 1 129 1 1 130
2 1 132 6 4 130 6 1 130 2 2 230 2 1 9 2 2 230 64 1 220 113 1 7 2 2 9 84 1 220 720 3 230 951 2 9 32 1
9 158 1 9 11 1 230 204 1 228 144 1 222 1 1 230 1 1 220 220 1 230 1 1 220 72 1 9 21 8 230 10 1 220 49
5 230 5 6 220 6 2 230 2 1 220 2 2 220 2 2 230 2 2 220 2 5 230 5 1 220 1 18 230 18 1 220 3 6 230 6 1
220 1 4 230 4 1 234 73 1 7 16 1 9 39 1 230 1 1 220 1 7 230 61 2 9 60 1 7 12 2 9 69 1 7 153 3 230 4 1
1 1 5 220 5 2 230 2 4 220 4 1 230 2 7 1 11 1 220 7 1 230 4 2 230 200 2 230 2 1 220 1 7 230 7 1 220 1
2 230 2 1 234 1 1 214 1 1 220 1 1 202 1 37 230 37 1 232 1 2 228 2 1 220 1 1 218 1 1 230 1 1 233 1 1
220 1 1 230 1 1 220 721 2 230 2 2 1 2 4 230 4 3 1 3 2 230 6 1 230 4 2 1 2 1 230 1 1 220 1 1 230 1 2
1 2 4 220 4 1 230 3071 3 230 144 1 9 97 32 230 586 1 218 1 1 228 1 1 232 1 1 222 1 2 224 107 2 8
30166 1 230 5 10 230 42 2 230 82 2 230 278 1 9 38 1 9 152 1 9 28 18 230 75 3 220 40 1 9 96 1 7 13 1
9 240 1 230 2 2 230 2 1 220 3 2 230 7 2 230 3 1 230 53 1 9 247 1 9 20273 1 26 770 7 230 7 7 220 7 2
230 975 1 220 227 1 220 150 5 230 1687 1 220 2 1 230 41 1 230 1 1 1 1 1 220 5 1 9 166 1 230 1 1 220
574 4 230 69 5 230 322 2 230 79 2 220 3 3 220 73 2 220 2 3 230 3 1 220 1 1 230 1 4 220 53 1 230 1 1
220 1 1 230 1 1 220 193 1 9 42 1 9 15 1 9 58 1 9 1 1 7 70 3 230 51 2 9 64 1 7 77 1 9 10 1 7 107 1 9
1 1 7 179 1 7 1 1 9 81 2 7 18 1 9 25 7 230 10 5 230 94 3 9 116 1 9 4 1 7 24 1 230 100 1 9 1 1 7 252
1 9 1 1 7 127 1 9 119 1 9 1 1 7 116 1 9 270 1 9 1 1 7 259 2 9 6 1 7 157 1 9 84 1 9 19 1 9 82 1 9 422
1 9 259 1 7 2 2 9 83 1 9 426 2 9 16878 1 9 2497 5 1 64 7 230 1216 2 6 19630 1 1 5319 2 216 2 3 1 6 1
226 1 5 216 13 8 220 10 5 230 5 2 220 32 4 230 152 3 230 3518 7 230 8 17 230 19 7 230 8 2 230 3 5
230 105 1 230 161 7 230 382 1 230 62 4 230 512 2 232 2 1 220 1 1 230 255 1 230 1 1 220 244 1 230 3 1
230 8 2 230 7 1 230 475 7 220 116 6 230 6 1 7")

/-- The place of a character among the marks on a letter; zero if it is no such mark. -/
def markOrder (n : Nat) : Nat :=
  ((markRows.find? fun row => row.first ≤ n && n < row.first + row.count).map (·.order)).getD 0

/-- A character and the two that it is made of. -/
structure Composite where
  whole : Nat
  first : Nat
  second : Nat

def compositesFrom (start : Nat) : List Nat → List Composite
  | gap :: first :: second :: rest =>
    ⟨start + gap, first, second⟩ :: compositesFrom (start + gap) rest
  | _ => []

/-- Characters of names that are made of two. -/
def composites : List Composite := compositesFrom 0 (numbers "
224 97 768 1 97 769 1 97 770 1 97 771 1 97 776 1 97 778 2 99 807 1 101 768 1 101 769 1 101 770 1 101
776 1 105 768 1 105 769 1 105 770 1 105 776 2 110 771 1 111 768 1 111 769 1 111 770 1 111 771 1 111
776 3 117 768 1 117 769 1 117 770 1 117 776 1 121 769 2 121 776 2 97 772 2 97 774 2 97 808 2 99 769
2 99 770 2 99 775 2 99 780 2 100 780 4 101 772 2 101 774 2 101 775 2 101 808 2 101 780 2 103 770 2
103 774 2 103 775 2 103 807 2 104 770 4 105 771 2 105 772 2 105 774 2 105 808 6 106 770 2 107 807 3
108 769 2 108 807 2 108 780 6 110 769 2 110 807 2 110 780 5 111 772 2 111 774 2 111 779 4 114 769 2
114 807 2 114 780 2 115 769 2 115 770 2 115 807 2 115 780 2 116 807 2 116 780 4 117 771 2 117 772 2
117 774 2 117 778 2 117 779 2 117 808 2 119 770 2 121 770 3 122 769 2 122 775 2 122 780 35 111 795
15 117 795 30 97 780 2 105 780 2 111 780 2 117 780 2 252 772 2 252 769 2 252 780 2 252 768 3 228 772
2 551 772 2 230 772 4 103 780 2 107 780 2 111 808 2 491 772 2 658 780 1 106 780 5 103 769 4 110 768
2 229 769 2 230 769 2 248 769 2 97 783 2 97 785 2 101 783 2 101 785 2 105 783 2 105 785 2 111 783 2
111 785 2 114 783 2 114 785 2 117 783 2 117 785 2 115 806 2 116 806 4 104 780 8 97 775 2 101 807 2
246 772 2 245 772 2 111 775 2 559 772 2 121 772 349 970 769 28 945 769 1 949 769 1 951 769 1 953 769
1 971 769 26 953 776 1 965 776 1 959 769 1 965 769 1 969 769 107 1080 774 23 1077 768 1 1077 776 2
1075 769 4 1110 776 5 1082 769 1 1080 768 1 1091 774 25 1141 783 75 1078 774 15 1072 774 2 1072 776
4 1077 774 4 1241 776 2 1078 776 2 1079 776 4 1080 772 2 1080 776 2 1086 776 4 1257 776 2 1101 776 2
1091 772 2 1091 776 2 1091 779 2 1095 776 4 1099 776 297 1575 1619 1 1575 1620 1 1608 1620 1 1575
1621 1 1610 1620 154 1749 1620 2 1729 1620 17 1746 1620 598 2344 2364 8 2352 2364 3 2355 2364 151
2503 2494 1 2503 2519 380 2887 2902 3 2887 2878 1 2887 2903 72 2962 3031 54 3014 3006 1 3015 3006 1
3014 3031 124 3142 3158 120 3263 3285 7 3270 3285 1 3270 3286 2 3270 3266 1 3274 3285 127 3398 3390
1 3399 3390 1 3398 3415 142 3545 3530 2 3545 3535 1 3548 3530 1 3545 3551 584 4133 4142 2784 6917
6965 2 6919 6965 2 6921 6965 2 6923 6965 2 6925 6965 4 6929 6965 41 6970 6965 2 6972 6965 3 6974
6965 1 6975 6965 2 6978 6965 702 97 805 2 98 775 2 98 803 2 98 817 2 231 769 2 100 775 2 100 803 2
100 817 2 100 807 2 100 813 2 275 768 2 275 769 2 101 813 2 101 816 2 553 774 2 102 775 2 103 772 2
104 775 2 104 803 2 104 776 2 104 807 2 104 814 2 105 816 2 239 769 2 107 769 2 107 803 2 107 817 2
108 803 2 7735 772 2 108 817 2 108 813 2 109 769 2 109 775 2 109 803 2 110 775 2 110 803 2 110 817 2
110 813 2 245 769 2 245 776 2 333 768 2 333 769 2 112 769 2 112 775 2 114 775 2 114 803 2 7771 772 2
114 817 2 115 775 2 115 803 2 347 775 2 353 775 2 7779 775 2 116 775 2 116 803 2 116 817 2 116 813 2
117 804 2 117 816 2 117 813 2 361 769 2 363 776 2 118 771 2 118 803 2 119 768 2 119 769 2 119 776 2
119 775 2 119 803 2 120 775 2 120 776 2 121 775 2 122 770 2 122 803 2 122 817 1 104 817 1 116 776 1
119 778 1 121 778 8 97 803 2 97 777 2 226 769 2 226 768 2 226 777 2 226 771 2 7841 770 2 259 769 2
259 768 2 259 777 2 259 771 2 7841 774 2 101 803 2 101 777 2 101 771 2 234 769 2 234 768 2 234 777 2
234 771 2 7865 770 2 105 777 2 105 803 2 111 803 2 111 777 2 244 769 2 244 768 2 244 777 2 244 771 2
7885 770 2 417 769 2 417 768 2 417 777 2 417 771 2 417 803 2 117 803 2 117 777 2 432 769 2 432 768 2
432 777 2 432 771 2 432 803 2 121 768 2 121 803 2 121 777 2 121 771 7 945 787 1 945 788 1 7936 768 1
7937 768 1 7936 769 1 7937 769 1 7936 834 1 7937 834 9 949 787 1 949 788 1 7952 768 1 7953 768 1
7952 769 1 7953 769 11 951 787 1 951 788 1 7968 768 1 7969 768 1 7968 769 1 7969 769 1 7968 834 1
7969 834 9 953 787 1 953 788 1 7984 768 1 7985 768 1 7984 769 1 7985 769 1 7984 834 1 7985 834 9 959
787 1 959 788 1 8000 768 1 8001 768 1 8000 769 1 8001 769 11 965 787 1 965 788 1 8016 768 1 8017 768
1 8016 769 1 8017 769 1 8016 834 1 8017 834 9 969 787 1 969 788 1 8032 768 1 8033 768 1 8032 769 1
8033 769 1 8032 834 1 8033 834 9 945 768 2 949 768 2 951 768 2 953 768 2 959 768 2 965 768 2 969 768
52 945 774 1 945 772 5 945 834 16 951 834 10 953 774 1 953 772 1 970 768 4 953 834 1 970 834 9 965
774 1 965 772 1 971 768 2 961 787 1 961 788 1 965 834 1 971 834 15 969 834 420 8592 824 1 8594 824
19 8596 824 31 8656 824 1 8660 824 1 8658 824 53 8707 824 5 8712 824 3 8715 824 24 8739 824 2 8741
824 27 8764 824 3 8771 824 3 8773 824 2 8776 824 23 61 824 2 8801 824 11 8781 824 1 60 824 1 62 824
1 8804 824 1 8805 824 3 8818 824 1 8819 824 3 8822 824 1 8823 824 7 8826 824 1 8827 824 3 8834 824 1
8835 824 3 8838 824 1 8839 824 35 8866 824 1 8872 824 1 8873 824 1 8875 824 49 8828 824 1 8829 824 1
8849 824 1 8850 824 7 8882 824 1 8883 824 1 8884 824 1 8885 824 3423 12363 12441 2 12365 12441 2
12367 12441 2 12369 12441 2 12371 12441 2 12373 12441 2 12375 12441 2 12377 12441 2 12379 12441 2
12381 12441 2 12383 12441 2 12385 12441 3 12388 12441 2 12390 12441 2 12392 12441 7 12399 12441 1
12399 12442 2 12402 12441 1 12402 12442 2 12405 12441 1 12405 12442 2 12408 12441 1 12408 12442 2
12411 12441 1 12411 12442 23 12358 12441 10 12445 12441 14 12459 12441 2 12461 12441 2 12463 12441 2
12465 12441 2 12467 12441 2 12469 12441 2 12471 12441 2 12473 12441 2 12475 12441 2 12477 12441 2
12479 12441 2 12481 12441 3 12484 12441 2 12486 12441 2 12488 12441 7 12495 12441 1 12495 12442 2
12498 12441 1 12498 12442 2 12501 12441 1 12501 12442 2 12504 12441 1 12504 12442 2 12507 12441 1
12507 12442 23 12454 12441 3 12527 12441 1 12528 12441 1 12529 12441 1 12530 12441 4 12541 12441
54475 67026 775 27 67034 775 2742 69785 69818 2 69787 69818 15 69797 69818 131 69937 69927 1 69938
69927 540 70471 70462 1 70471 70487 55 70530 70601 2 70532 70587 9 70539 70594 3 70544 70601 52
70594 70594 2 70594 70584 1 70594 70601 243 70841 70842 1 70841 70832 2 70841 70845 252 71096 71087
1 71097 71087 893 71989 71984 18409 90398 90398 1 90398 90409 1 90398 90399 1 90409 90399 1 90398
90400 1 90401 90399 1 90402 90399 1 90401 90400 3136 93543 93543 1 93539 93543 1 93545 93543")

/-! Syllables of Hangul are made of a leading consonant, a vowel and perhaps a trailing
consonant, in this order. -/

def leadBase : Nat := 0x1100

def leadCount : Nat := 19

def vowelBase : Nat := 0x1161

def vowelCount : Nat := 21

/-- No trailing consonant counts as the first. -/
def trailBase : Nat := 0x11A7

def trailCount : Nat := 28

def syllableBase : Nat := 0xAC00

def syllableCount : Nat := leadCount * vowelCount * trailCount

/-- The parts of a syllable. -/
def syllableParts? (n : Nat) : Option (List Nat) :=
  if syllableBase ≤ n ∧ n < syllableBase + syllableCount then
    let place := n - syllableBase
    let begun := [leadBase + place / (vowelCount * trailCount),
      vowelBase + place / trailCount % vowelCount]
    some (if place % trailCount = 0 then begun else begun ++ [trailBase + place % trailCount])
  else none

/-- The syllable of a consonant and a vowel, or of a syllable and a trailing consonant. -/
def syllable? (first second : Nat) : Option Nat :=
  if leadBase ≤ first ∧ first < leadBase + leadCount ∧
      vowelBase ≤ second ∧ second < vowelBase + vowelCount then
    some (syllableBase + ((first - leadBase) * vowelCount + (second - vowelBase)) * trailCount)
  else if syllableBase ≤ first ∧ first < syllableBase + syllableCount ∧
      (first - syllableBase) % trailCount = 0 ∧
      trailBase < second ∧ second < trailBase + trailCount then
    some (first + (second - trailBase))
  else none

/-- No character is made of more marks than this on one letter. -/
def nesting : Nat := 4

/-- A character taken apart, `fuel` levels deep. -/
def parts : Nat → Nat → List Nat
  | 0, n => [n]
  | fuel + 1, n =>
    match syllableParts? n with
    | some parts => parts
    | none =>
      match composites.find? (·.whole == n) with
      | some c => parts fuel c.first ++ [c.second]
      | none => [n]

/-- Puts marks in order; `held` holds those since the last character that is none. -/
def ordered (held : List Nat) : List Nat → List Nat
  | [] => sorted held
  | n :: rest =>
    if markOrder n = 0 then sorted held ++ n :: ordered [] rest else ordered (held ++ [n]) rest
where
  sorted (marks : List Nat) : List Nat := marks.mergeSort fun a b => markOrder a ≤ markOrder b

def composite? (first second : Nat) : Option Nat :=
  match syllable? first second with
  | some whole => some whole
  | none => (composites.find? fun c => c.first == first && c.second == second).map (·.whole)

/-- Joins marks with the letter before them. `held` holds marks that do not join, newest
first; behind one of them no mark joins that is not later in their order. -/
def joined (letter : Nat) (held : List Nat) : List Nat → List Nat
  | [] => letter :: held.reverse
  | n :: rest =>
    let isBarred := match held with
      | [] => false
      | last :: _ => markOrder n ≤ markOrder last
    match if isBarred then none else composite? letter n with
    | some whole => joined whole held rest
    | none =>
      if markOrder n = 0 then letter :: (held.reverse ++ joined n [] rest)
      else joined letter (n :: held) rest

/-- The one spelling of a text. -/
def composed (text : List Char) : List Char :=
  match ordered [] (text.flatMap fun c => parts nesting c.toNat) with
  | [] => []
  | first :: rest => (joined first [] rest).map Char.ofNat

end KeyScript.Domain
