import KeyScript.Text.Basic
import KeyScript.Text.Boundaries

/-! Characters in the names of domains. Some are used as they are, some stand for
others, such as a capital letter for the small one, some are left out, and the rest
may not be used. -/
namespace KeyScript.Domain

open Text

def plain : Boundaries := .ofDistances "
0 65 26 37 33 7 1 1 1 2 1 1 1 2 4 2 3 1 3 1 23 1 7 33 1 1 1 1 1 1 1 1 1 1 1 1 1 1 1 1 1 1 1 1 1 1 1
1 1 1 1 1 1 1 1 1 1 1 1 1 1 1 1 1 1 1 1 1 1 1 1 1 1 1 3 1 1 2 1 1 1 1 1 1 3 1 1 1 1 1 1 1 2 1 1 1 1
1 1 1 1 1 1 1 1 1 1 1 1 1 1 1 1 1 1 1 1 1 1 1 1 1 1 1 1 1 1 1 1 1 1 1 1 1 1 1 1 1 2 1 1 1 1 1 1 1 2
1 1 1 2 1 3 2 4 1 2 1 3 3 2 1 2 1 1 1 1 1 2 1 1 2 1 1 2 1 3 1 1 1 2 3 1 7 10 1 1 1 1 1 1 1 1 1 1 1 1
1 1 2 1 1 1 1 1 1 1 1 1 1 1 1 1 1 1 1 1 2 4 1 3 1 1 1 1 1 1 1 1 1 1 1 1 1 1 1 1 1 1 1 1 1 1 1 1 1 1
1 1 1 1 1 1 1 1 1 1 1 1 1 1 1 1 1 1 1 1 1 1 1 1 1 1 1 1 1 1 1 1 7 2 1 2 2 1 1 4 1 1 1 1 1 1 1 1 97 9
31 6 2 5 91 2 1 3 9 1 32 1 1 1 1 1 1 1 1 3 3 18 1 27 35 8 1 1 1 1 1 1 1 1 1 1 1 1 1 1 1 1 1 1 1 1 1
1 1 1 1 3 1 2 1 1 1 2 2 51 48 1 1 1 1 1 1 1 1 1 1 1 1 1 1 1 1 1 1 1 1 1 1 1 1 1 1 1 1 1 1 1 1 1 9 1
1 1 1 1 1 1 1 1 1 1 1 1 1 1 1 1 1 1 1 1 1 1 1 1 1 1 1 1 1 1 1 1 1 1 1 1 1 1 1 1 1 1 1 1 1 1 1 1 1 1
1 1 1 2 1 1 1 1 1 1 1 1 1 1 1 1 2 1 1 1 1 1 1 1 1 1 1 1 1 1 1 1 1 1 1 1 1 1 1 1 1 1 1 1 1 1 1 1 1 1
1 1 1 1 1 1 1 1 1 1 1 1 1 1 1 1 1 1 1 1 1 1 1 1 1 1 1 1 1 1 1 1 1 1 1 1 1 1 1 1 1 1 1 1 1 1 1 1 1 1
1 1 1 1 1 1 1 1 1 1 1 1 1 41 46 1 3 2 3 1 56 7 27 4 6 17 22 1 88 4 100 1 48 2 59 2 101 14 59 2 49 2
15 1 28 2 1 1 11 5 32 7 75 1 117 8 36 1 8 2 2 2 22 1 7 1 1 3 4 2 9 2 2 2 4 8 1 8 4 2 25 2 3 1 6 4 2
2 22 1 7 1 1 2 1 2 2 2 1 1 5 4 2 2 3 3 1 10 1 9 17 10 3 1 9 1 3 1 22 1 7 1 2 1 5 2 10 1 3 1 3 2 1 15
4 2 12 7 7 1 3 1 8 2 2 2 22 1 7 1 2 1 5 2 9 2 2 2 3 5 5 7 5 2 18 10 2 1 6 3 3 1 4 3 2 1 1 1 2 3 2 3
3 3 12 4 5 3 3 1 4 2 1 6 1 14 21 5 13 1 3 1 23 1 16 2 9 1 3 1 4 7 2 1 3 1 2 2 4 2 10 7 22 1 3 1 23 1
10 1 5 2 9 1 3 1 4 7 2 5 3 1 4 2 10 1 3 12 13 1 3 1 51 1 3 1 6 4 16 2 26 1 3 1 18 3 24 1 9 1 1 2 7 3
1 4 6 1 1 1 8 6 10 2 3 12 50 1 7 4 29 37 2 1 1 1 5 1 24 1 1 1 12 1 10 2 5 1 1 1 7 1 10 4 2 32 12 1
54 1 4 1 4 1 4 1 4 1 4 1 12 1 3 4 2 1 1 5 7 1 17 1 4 1 4 1 4 1 4 1 4 1 12 1 3 1 15 1 13 37 160 48 44
1 98 2 232 1 4 2 7 1 1 1 4 2 41 1 4 2 33 1 4 2 7 1 1 1 4 2 15 1 57 1 4 2 67 2 32 3 26 6 86 10 640 1
28 3 89 7 22 9 24 9 20 12 13 1 3 1 2 12 52 2 40 2 10 6 10 6 11 5 10 6 89 7 43 5 70 10 31 1 12 4 12 4
1 3 42 2 5 11 44 4 26 6 11 3 62 2 65 1 29 2 11 6 10 6 14 2 60 20 77 1 166 8 60 3 15 3 51 10 1 53 8 8
43 5 44 3 1 11 1 18 1 28 13 1 34 37 64 1 1 1 1 1 1 1 1 1 1 1 1 1 1 1 1 1 1 1 1 1 1 1 1 1 1 1 1 1 1 1
1 1 1 1 1 1 1 1 1 1 1 1 1 1 1 1 1 1 1 1 1 1 1 1 1 1 1 1 1 1 1 1 1 1 1 1 1 1 1 1 1 1 1 1 1 1 1 1 1 1
1 1 1 1 1 1 1 1 1 1 1 1 1 1 1 1 1 1 1 1 1 1 1 1 1 1 1 1 1 1 1 1 1 1 1 1 1 1 1 1 1 1 1 1 1 1 1 1 1 1
1 1 1 1 1 1 1 1 1 1 1 1 1 1 1 1 1 1 5 2 2 1 1 1 1 1 1 1 1 1 1 1 1 1 1 1 1 1 1 1 1 1 1 1 1 1 1 1 1 1
1 1 1 1 1 1 1 1 1 1 1 1 1 1 1 1 1 1 1 1 1 1 1 1 1 1 1 1 1 1 1 1 1 1 1 1 1 1 1 1 1 1 1 1 1 1 1 1 1 1
1 1 1 1 1 1 1 1 1 1 1 1 1 1 1 1 1 1 9 8 6 10 8 8 8 8 6 10 8 8 8 8 1 1 1 1 1 1 1 1 1 1 1 1 1 51 2 4 1
15 1 9 3 3 2 8 3 1 4 14 1 21 2 2 1 1 5 1 12 3 1 8 3 2 1 2 4 1 1 1 8 3 13 1 7 65 8 1 26 13 33 19 1 3
1 11 1 2 2 5 2 3 1 1 1 1 1 1 1 4 1 11 1 6 4 5 6 48 3 1 5 1 2 4 156 2 1 2 248 2 255 22 11 160 1313 1
103 3 101 1 151 2 138 48 48 1 1 3 2 1 1 1 1 1 1 4 1 1 2 1 6 5 1 1 1 1 1 1 1 1 1 1 1 1 1 1 1 1 1 1 1
1 1 1 1 1 1 1 1 1 1 1 1 1 1 1 1 1 1 1 1 1 1 1 1 1 1 1 1 1 1 1 1 1 1 1 1 1 1 1 1 1 1 1 1 1 1 1 1 1 1
1 1 1 1 1 1 1 1 1 1 1 1 1 1 1 1 1 1 1 1 1 1 1 1 1 1 1 1 1 8 1 1 1 4 1 1 5 45 1 1 5 1 2 56 8 1 14 24
9 7 1 7 1 7 1 7 1 7 1 7 1 7 1 7 1 126 2 1 31 26 1 4 1 83 270 1 1 51 1 1 3 5 1 86 2 2 2 2 1 95 6 43
96 2 14 70 10 16 72 8 47 1 384 28813 3 55 9 348 21 1 1 1 1 1 1 1 1 1 1 1 1 1 1 1 1 1 1 1 1 1 1 1 1 1
1 1 1 1 1 1 1 1 1 1 1 1 1 1 1 1 1 1 1 19 1 1 1 1 1 1 1 1 1 1 1 1 1 1 1 1 1 1 1 1 1 1 1 1 1 1 1 1 2
90 8 34 1 1 1 1 1 1 1 1 1 1 1 1 1 3 1 1 1 1 1 1 1 1 1 1 1 1 1 1 1 1 1 1 1 1 1 1 1 1 1 1 1 1 1 1 1 1
1 1 1 1 1 1 1 1 1 1 1 1 1 1 1 1 1 1 1 1 1 1 1 1 1 1 1 1 1 1 1 8 1 1 1 1 2 1 1 1 1 1 1 1 1 4 1 1 1 2
1 1 1 3 1 1 1 1 1 1 1 1 1 1 1 1 1 1 1 1 1 1 1 1 5 1 5 1 1 1 1 1 1 1 1 1 1 1 1 1 1 1 4 1 1 1 2 1 1 1
1 1 1 1 1 1 1 1 1 1 1 1 2 1 4 1 18 2 2 51 3 10 6 56 8 70 8 12 6 116 11 30 3 78 1 11 4 33 1 55 9 14 2
10 2 103 24 28 10 6 2 6 2 6 9 7 1 7 1 44 4 9 1 2 84 46 2 10 6 11172 12 23 4 49 8722 2 1 1 1 2 10 1 1
1 1 2 2 3 244 1 147 33 363 18 64 2 54 8 45 3 32 16 21 2 44 1 396 12 1 26 1 19 1 2 1 15 2 14 34 123 5
3 4 45 3 88 1 13 3 1 47 46 130 29 3 49 15 28 4 36 9 30 5 43 5 30 1 37 4 14 82 118 2 10 46 36 4 40 8
52 11 1 39 11 1 15 1 7 1 2 3 52 12 311 9 22 10 8 24 1 127 6 2 1 1 44 1 2 3 1 2 23 1 72 8 9 48 19 1 2
5 33 3 27 5 27 38 56 4 20 2 50 1 2 5 8 1 3 1 29 2 3 4 10 7 9 7 64 32 39 4 12 9 54 3 29 2 27 5 26 7 4
12 7 80 73 119 51 7 46 8 10 6 16 25 29 8 2 208 31 1 42 1 3 2 2 16 6 3 14 33 46 8 42 22 26 38 28 20
23 9 78 4 36 9 62 1 5 13 25 7 10 6 53 1 18 8 39 9 96 1 20 11 18 1 47 62 7 1 1 1 4 1 15 1 11 6 59 5
10 6 4 1 8 2 2 2 22 1 7 1 2 1 5 1 10 2 2 2 3 2 1 6 1 5 7 2 7 3 5 11 10 1 1 2 1 1 38 1 10 1 1 2 1 1 4
1 10 1 2 8 2 29 92 1 5 30 72 8 10 166 54 2 38 34 69 11 10 6 13 19 58 6 10 6 20 28 27 2 15 4 23 185
60 132 51 12 8 2 1 2 8 1 2 1 30 1 2 2 12 9 10 70 8 2 46 2 11 27 72 8 83 13 73 7 10 86 8 88 34 14 10
6 9 1 45 1 14 10 29 3 32 2 22 1 14 73 7 1 2 1 44 3 1 1 2 1 9 8 10 6 6 1 2 1 37 1 2 1 6 7 10 6 44 4
10 246 25 7 17 1 41 3 29 85 1 15 50 13 923 102 117 11 196 12 311 2313 99 13 1072 16 22 10 3995 5 583
6841 58 1734 569 7 31 1 10 4 81 1 10 6 30 2 6 10 70 10 10 1 7 1 21 5 19 432 58 6 42 182 59 32 25 44
75 4 57 7 17 64 5 11 7 9 7382 41 32 97 115 13 914 14 51 7709 4 1 7 1 2 1 291 15 1 29 3 2 1 14 4 8
396 2308 107 5 13 3 9 7 10 2 4 3936 214 36 3 3 436 6 23 1 1 13 17 15 46 2 23 9 116 60 246 10 39 2 53
7 14 8 64 6 42 21 70 10 59 53 20 12 20 12 87 9 25 1159 652 15 5 1 15 80 256 768 31 6 7 212 7 1 17 2
7 1 2 1 5 100 1 112 45 3 14 2 10 4 2 320 31 17 58 5 1 464 42 214 43 4 1 192 31 1 22 8 2 224 7 1 4 1
2 1 15 1 197 2 16 75 42 4 10 4 2 785 68 76 61 434 2 270 44 4 100 12 15 2 15 1 15 1 37 21 5 31 1 32
26 3 35 1 29 56 26 96 6 154 986 2 17 3 13 3 218 6 12 4 1 15 12 4 56 8 10 6 40 8 30 2 12 4 2 14 9 39
344 8 14 2 13 3 71 1 1 4 17 1 13 3 12 5 147 1 92 10 1 1029 42720 32 4383 1 5774 2 7473 15 622 4514
4939 5 8490 39814 11328"

def dropped : Boundaries := .ofDistances "
173 1 673 1 3599 2 1619 2 85 5 2043 1 84 5 5 6 4340 1 52379 16 239 1 160 1 48383 4 5327 8 798597 240"

/-- So many characters from `first` on, in steps of `stride`, that stand for those from
`target` on, in the same steps. -/
structure Shift where
  first : Nat
  count : Nat
  stride : Nat
  target : Nat

def shiftsFrom (start : Nat) : List Nat → List Shift
  | gap :: count :: stride :: target :: rest =>
    ⟨start + gap, count, stride, target⟩ :: shiftsFrom (start + gap) rest
  | _ => []

def Shift.image? (s : Shift) (n : Nat) : Option Nat :=
  if s.first ≤ n ∧ n < s.first + s.count * s.stride ∧ (n - s.first) % s.stride = 0 then
    some (s.target + (n - s.first))
  else none

/-- Characters in a row that stand for characters in a row. -/
def shifts : List Shift := shiftsFrom 0 (numbers "
65 26 1 97 127 23 1 224 24 7 1 248 40 24 2 257 57 3 2 314 8 4 2 322 9 23 2 331 47 3 2 378 39 3 2 417
45 8 2 462 17 9 2 479 26 20 2 505 42 9 2 547 36 5 2 583 322 3 1 941 9 17 1 945 18 9 1 963 53 12 2
985 37 3 1 891 3 16 1 1104 16 32 1 1072 80 17 2 1121 42 27 2 1163 55 7 2 1218 15 48 2 1233 97 38 1
1377 2927 38 1 11520 856 6 1 5104 2200 43 1 4304 45 3 1 4349 116 5 2 101 3 4 2 104 41 3 1 946 71 3 1
616 10 4 1 626 14 3 1 656 68 75 2 7681 160 48 2 7841 104 8 1 7936 16 6 1 7952 16 8 1 7968 16 8 1
7984 16 6 1 8000 17 4 2 8017 15 8 1 8032 268 6 1 52 12 10 1 48 22 4 1 107 131 3 1 112 28 4 1 1488
811 9 1 49 86 26 1 97 26 26 1 97 1840 48 1 11312 103 3 2 11368 25 50 2 11393 1207 3 1 4355 3 6 1
4528 7 3 1 4358 4 10 1 4361 10 21 1 4449 41 5 1 4395 12 3 1 4439 223 3 1 4357 6 5 1 4366 123 6 1
12490 10 5 1 12510 7 6 1 12520 6 4 1 12527 29509 23 2 42561 64 14 2 42625 162 7 2 42787 16 31 2
42803 76 5 2 42879 24 10 2 42903 30 8 2 42933 24 8 2 42957 932 80 1 5024 20404 3 1 1499 797 4 1
12300 192 32 1 33 32 26 1 97 26 36 1 91 74 6 1 12490 10 5 1 12510 7 6 1 12520 17 3 1 4355 3 6 1 4528
7 3 1 4358 4 10 1 4361 13 6 1 4449 8 6 1 4455 8 6 1 4461 8 3 1 4467 15 4 1 8592 1047 40 1 66600 176
36 1 66776 192 19 2 66967 1 5 2 66968 12 7 2 66980 16 3 2 66996 553 3 1 448 1226 51 1 68800 208 22 1
68976 2896 32 1 71872 21920 32 1 93792 96 25 1 93883 24118 26 1 97 26 10 1 48 1808 26 1 97 26 26 1
97 26 26 1 97 26 13 2 97 1 3 2 98 8 9 2 106 17 26 1 97 26 26 1 97 39 4 1 110 5 8 1 115 8 4 1 97 5 11
2 102 3 3 2 105 8 5 2 113 10 26 1 97 26 26 1 97 27 3 2 98 8 8 1 106 9 7 1 115 8 26 1 97 27 3 2 98 3
6 2 101 14 7 1 115 8 26 1 97 26 26 1 97 26 26 1 97 26 26 1 97 26 26 1 97 26 26 1 97 26 26 1 97 26 26
1 97 26 26 1 97 26 26 1 97 26 26 1 97 26 26 1 97 26 26 1 97 30 17 1 945 18 7 1 963 8 17 1 945 18 7 1
963 14 17 1 945 18 7 1 963 8 17 1 945 18 7 1 963 14 17 1 945 18 7 1 963 8 17 1 945 18 7 1 963 14 17
1 945 18 7 1 963 8 17 1 945 18 7 1 963 14 17 1 945 18 7 1 963 8 17 1 945 18 7 1 963 18 10 1 48 10 10
1 48 10 10 1 48 10 10 1 48 10 10 1 48 2106 9 1 1072 9 3 1 1082 3 11 1 1086 21 9 1 1072 14 6 1 1091
2209 34 1 125218 1290 4 1 1603 32 4 1 1603 97 3 1 1604 32 3 1 1604 645 26 1 97 2752 10 1 48")

def singlesFrom (start : Nat) : List Nat → List (Nat × Nat)
  | gap :: target :: rest => (start + gap, target) :: singlesFrom (start + gap) rest
  | _ => []

def singles : List (Nat × Nat) := singlesFrom 0 (numbers "
160 32 10 97 8 50 1 51 2 956 4 49 1 111 122 309 2 311 66 255 7 115 2 595 1 387 2 389 2 596 1 392 2
598 1 599 1 396 3 477 1 601 1 603 1 402 2 608 1 611 2 617 1 616 1 409 4 623 1 626 2 629 7 640 1 424
2 643 3 429 2 648 1 432 2 650 1 651 1 436 2 438 2 658 1 441 4 445 56 501 2 405 1 447 41 414 26 11365
1 572 2 410 1 11366 3 578 2 384 1 649 1 652 107 104 1 614 1 106 1 114 1 633 1 635 1 641 1 119 1 121
40 611 1 108 1 115 1 120 1 661 92 768 1 769 2 787 2 953 43 881 2 883 2 697 2 887 8 59 1 1011 7 940 1
183 5 972 2 973 1 974 64 983 1 946 1 952 1 965 1 973 1 971 1 966 1 960 26 954 1 961 1 963 2 952 1
949 2 1016 2 963 1 1019 198 1231 152 1383 51 1416 2433 3851 443 11559 6 11565 47 4316 2948 1074 1
1076 1 1086 1 1089 1 1090 1 1090 1 1098 1 1123 1 42571 1 7306 163 97 1 230 1 98 2 100 2 477 10 111 1
547 1 112 1 114 1 116 1 117 1 119 1 97 1 592 1 593 1 7426 1 98 1 100 1 101 1 601 1 603 1 604 1 103 2
107 1 109 1 331 1 111 1 596 1 7446 1 7447 1 112 1 116 1 117 1 7453 1 623 1 118 1 7461 4 966 1 967 1
105 1 114 1 117 1 118 1 946 1 947 1 961 1 966 1 967 14 1085 35 594 1 99 1 597 1 240 1 604 1 102 1
607 1 609 1 613 4 7547 1 669 1 621 1 7557 1 671 1 625 1 624 5 632 1 642 1 643 1 427 1 649 1 650 1
7452 1 651 1 652 1 122 4 952 220 7777 3 223 211 940 2 941 2 942 2 943 2 972 2 973 2 974 59 8112 1
8113 1 8048 1 940 3 953 10 8050 1 941 1 8052 1 942 8 912 5 8144 1 8145 1 8054 1 943 8 944 5 8160 1
8161 1 8058 1 973 1 8165 3 96 9 8056 1 972 1 8060 1 974 5 32 1 32 1 32 1 32 1 32 1 32 1 32 1 32 1 32
1 32 1 32 7 8208 30 32 48 32 17 48 1 105 9 43 1 8722 1 61 1 40 1 41 1 110 11 43 1 8722 1 61 1 40 1
41 2 97 1 101 1 111 1 120 1 601 1 104 5 112 1 115 1 116 1 119 1 121 1 122 99 99 5 603 3 103 1 104 1
104 1 104 1 104 1 295 1 105 1 105 1 108 1 108 2 110 7 114 1 114 7 122 2 969 2 122 2 107 1 229 1 98 1
99 2 101 1 101 1 102 1 8526 1 109 1 111 5 105 3 960 1 947 1 947 1 960 1 8721 5 100 1 100 1 101 1 105
1 106 23 105 4 118 5 120 3 108 1 99 1 100 1 109 1 105 4 118 5 120 3 108 1 99 1 100 1 109 4 8580 422
12296 1 12297 448 48 1910 11361 2 619 1 7549 1 637 9 593 1 625 1 592 1 594 2 11379 3 11382 7 106 1
118 1 575 1 576 108 11500 2 11502 5 11507 125 11617 304 27597 84 40863 13 19968 1 20008 1 20022 1
20031 1 20057 1 20101 1 20108 1 20128 1 20154 1 20799 1 20837 1 20843 1 20866 1 20886 1 20907 1
20960 1 20981 1 20992 1 21147 1 21241 1 21269 1 21274 1 21304 1 21313 1 21340 1 21353 1 21378 1
21430 1 21448 1 21475 1 22231 1 22303 1 22763 1 22786 1 22794 1 22805 1 22823 1 22899 1 23376 1
23424 1 23544 1 23567 1 23586 1 23608 1 23662 1 23665 1 24027 1 24037 1 24049 1 24062 1 24178 1
24186 1 24191 1 24308 1 24318 1 24331 1 24339 1 24400 1 24417 1 24435 1 24515 1 25096 1 25142 1
25163 1 25903 1 25908 1 25991 1 26007 1 26020 1 26041 1 26080 1 26085 1 26352 1 26376 1 26408 1
27424 1 27490 1 27513 1 27571 1 27595 1 27604 1 27611 1 27663 1 27668 1 27700 1 28779 1 29226 1
29238 1 29243 1 29247 1 29255 1 29273 1 29275 1 29356 1 29572 1 29577 1 29916 1 29926 1 29976 1
29983 1 29992 1 30000 1 30091 1 30098 1 30326 1 30333 1 30382 1 30399 1 30446 1 30683 1 30690 1
30707 1 31034 1 31160 1 31166 1 31348 1 31435 1 31481 1 31859 1 31992 1 32566 1 32593 1 32650 1
32701 1 32769 1 32780 1 32786 1 32819 1 32895 1 32905 1 33251 1 33258 1 33267 1 33276 1 33292 1
33307 1 33311 1 33390 1 33394 1 33400 1 34381 1 34411 1 34880 1 34892 1 34915 1 35198 1 35211 1
35282 1 35328 1 35895 1 35910 1 35925 1 35960 1 35997 1 36196 1 36208 1 36275 1 36523 1 36554 1
36763 1 36784 1 36789 1 37009 1 37193 1 37318 1 37324 1 37329 1 38263 1 38272 1 38428 1 38582 1
38585 1 38632 1 38737 1 38750 1 38754 1 38761 1 38859 1 38893 1 38899 1 38913 1 39080 1 39131 1
39135 1 39318 1 39321 1 39340 1 39592 1 39640 1 39647 1 39717 1 39727 1 39730 1 39740 1 39770 1
40165 1 40565 1 40575 1 40613 1 40635 1 40643 1 40653 1 40657 1 40697 1 40701 1 40718 1 40723 1
40736 1 40763 1 40778 1 40786 1 40845 1 40860 1 40864 43 32 2 46 52 12306 2 21313 1 21316 1 21317
247 4352 1 4353 1 4522 1 4354 1 4524 1 4525 10 4378 4 4385 33 4372 1 4373 1 4551 1 4552 1 4556 1
4558 1 4563 1 4567 1 4569 1 4380 1 4573 1 4575 1 4381 1 4382 1 4384 1 4386 1 4387 1 4391 1 4393 6
4402 1 4406 1 4416 1 4423 1 4428 1 4593 1 4594 4 4484 1 4485 1 4488 1 4497 1 4498 1 4500 1 4510 1
4513 4 19968 1 20108 1 19977 1 22235 1 19978 1 20013 1 19979 1 30002 1 20057 1 19993 1 19969 1 22825
1 22320 1 20154 165 21839 1 24188 1 25991 1 31631 25 4352 1 4354 1 4355 4 4361 1 4363 1 4364 6 44032
1 45208 1 45796 1 46972 1 47560 1 48148 1 49324 1 50500 1 51088 1 52264 1 52852 1 53440 1 54028 1
54616 3 50864 2 19968 1 20108 1 19977 1 22235 1 20116 1 20845 1 19971 1 20843 1 20061 1 21313 1
26376 1 28779 1 27700 1 26408 1 37329 1 22303 1 26085 1 26666 1 26377 1 31038 1 21517 1 29305 1
36001 1 31069 1 21172 1 31192 1 30007 1 22899 1 36969 1 20778 1 21360 1 27880 1 38917 1 20241 1
20889 1 27491 1 19978 1 20013 1 19979 1 24038 1 21491 1 21307 1 23447 1 23398 1 30435 1 20225 1
36039 1 21332 1 22812 32 12450 1 12452 1 12454 1 12456 1 12458 1 12459 1 12461 1 12463 1 12465 1
12467 1 12469 1 12471 1 12473 1 12475 1 12477 1 12479 1 12481 1 12484 1 12486 1 12488 7 12498 1
12501 1 12504 1 12507 6 12516 1 12518 29608 1098 1 1100 211 42863 9 42874 2 42876 2 7545 14 42892 2
613 3 42897 2 42899 24 614 1 604 1 609 1 620 1 618 2 670 1 647 1 669 1 43859 17 42900 1 642 1 7566 1
42952 2 42954 2 612 17 411 1 42974 5 42979 15 115 1 99 1 102 1 113 1 42998 3 295 1 339 867 42791 1
43831 1 619 1 43858 10 653 3 633 19860 35912 1 26356 1 36554 1 36040 1 28369 1 20018 1 21477 1 40860
1 40860 1 22865 1 37329 1 21895 1 22856 1 25078 1 30313 1 32645 1 34367 1 34746 1 35064 1 37007 1
27138 1 27931 1 28889 1 29662 1 33853 1 37226 1 39409 1 20098 1 21365 1 27396 1 29211 1 34349 1
40478 1 23888 1 28651 1 34253 1 35172 1 25289 1 33240 1 34847 1 24266 1 26391 1 28010 1 29436 1
37070 1 20358 1 20919 1 21214 1 25796 1 27347 1 29200 1 30439 1 32769 1 34310 1 34396 1 36335 1
38706 1 39791 1 40442 1 30860 1 31103 1 32160 1 33737 1 37636 1 40575 1 35542 1 22751 1 24324 1
31840 1 32894 1 29282 1 30922 1 36034 1 38647 1 22744 1 23650 1 27155 1 28122 1 28431 1 32047 1
32311 1 38475 1 21202 1 32907 1 20956 1 20940 1 31260 1 32190 1 33777 1 38517 1 35712 1 25295 1
27138 1 35582 1 20025 1 23527 1 24594 1 29575 1 30064 1 21271 1 30971 1 20415 1 24489 1 19981 1
27852 1 25976 1 32034 1 21443 1 22622 1 30465 1 33865 1 35498 1 27578 1 36784 1 27784 1 25342 1
33509 1 25504 1 30053 1 20142 1 20841 1 20937 1 26753 1 31975 1 33391 1 35538 1 37327 1 21237 1
21570 1 22899 1 24300 1 26053 1 28670 1 31018 1 38317 1 39530 1 40599 1 40654 1 21147 1 26310 1
27511 1 36706 1 24180 1 24976 1 25088 1 25754 1 28451 1 29001 1 29833 1 31178 1 32244 1 32879 1
36646 1 34030 1 36899 1 37706 1 21015 1 21155 1 21693 1 28872 1 35010 1 35498 1 24265 1 24565 1
25467 1 27566 1 31806 1 29557 1 20196 1 22265 1 23527 1 23994 1 24604 1 29618 1 29801 1 32666 1
32838 1 37428 1 38646 1 38728 1 38936 1 20363 1 31150 1 37300 1 38584 1 24801 1 20102 1 20698 1
23534 1 23615 1 26009 1 27138 1 29134 1 30274 1 34044 1 36988 1 40845 1 26248 1 38446 1 21129 1
26491 1 26611 1 27969 1 28316 1 29705 1 30041 1 30827 1 32016 1 39006 1 20845 1 25134 1 38520 1
20523 1 23833 1 28138 1 36650 1 24459 1 24900 1 26647 1 29575 1 38534 1 21033 1 21519 1 23653 1
26131 1 26446 1 26792 1 27877 1 29702 1 30178 1 32633 1 35023 1 35041 1 37324 1 38626 1 21311 1
28346 1 21533 1 29136 1 29848 1 34298 1 38563 1 40023 1 40607 1 26519 1 28107 1 33256 1 31435 1
31520 1 31890 1 29376 1 28825 1 35672 1 20160 1 33590 1 21050 1 20999 1 24230 1 25299 1 31958 1
23429 1 27934 1 26292 1 36667 1 34892 1 38477 1 35211 1 24275 1 20800 1 21952 3 22618 2 26228 3
20958 1 29482 1 30410 1 31036 1 31070 1 31077 1 31119 1 38742 1 31934 1 32701 2 34322 2 35576 3
36920 1 37117 4 39151 1 39164 1 39208 1 40372 1 37086 1 38583 1 20398 1 20711 1 20813 1 21193 1
21220 1 21329 1 21917 1 22022 1 22120 1 22592 1 22696 1 23652 1 23662 1 24724 1 24936 1 24974 1
25074 1 25935 1 26082 1 26257 1 26757 1 28023 1 28186 1 28450 1 29038 1 29227 1 29730 1 30865 1
31038 1 31049 1 31048 1 31056 1 31062 1 31069 1 31117 1 31118 1 31296 1 31361 1 31680 1 32244 1
32265 1 32321 1 32626 1 32773 1 33261 1 33401 1 33401 1 33879 1 35088 1 35222 1 35585 1 35641 1
36051 1 36104 1 36790 1 36920 1 38627 1 38911 1 38971 1 24693 1 148206 1 33304 3 20006 1 20917 1
20840 1 20352 1 20805 1 20864 1 21191 1 21242 1 21917 1 21845 1 21913 1 21986 1 22618 1 22707 1
22852 1 22868 1 23138 1 23336 1 24274 1 24281 1 24425 1 24493 1 24792 1 24910 1 24840 1 24974 1
24928 1 25074 1 25140 1 25540 1 25628 1 25682 1 25942 1 26228 1 26391 1 26395 1 26454 1 27513 1
27578 1 27969 1 28379 1 28363 1 28450 1 28702 1 29038 1 30631 1 29237 1 29359 1 29482 1 29809 1
29958 1 30011 1 30237 1 30239 1 30410 1 30427 1 30452 1 30538 1 30528 1 30924 1 31409 1 31680 1
31867 1 32091 1 32244 1 32574 1 32773 1 33618 1 33775 1 34681 1 35137 1 35206 1 35222 1 35519 1
35576 1 35531 1 35585 1 35582 1 35565 1 35641 1 35722 1 36104 1 36664 1 36978 1 37273 1 37494 1
38524 1 38627 1 38742 1 38875 1 38911 1 38923 1 38971 1 39698 1 40860 1 141386 1 141380 1 144341 1
15261 1 16408 1 16441 1 152137 1 154832 1 163539 1 40771 1 40846 71 1506 1 1488 1 1491 1 1492 4 1512
1 1514 1 43 39 1649 1 1649 1 1659 1 1659 1 1659 1 1659 1 1662 1 1662 1 1662 1 1662 1 1664 1 1664 1
1664 1 1664 1 1658 1 1658 1 1658 1 1658 1 1663 1 1663 1 1663 1 1663 1 1657 1 1657 1 1657 1 1657 1
1700 1 1700 1 1700 1 1700 1 1702 1 1702 1 1702 1 1702 1 1668 1 1668 1 1668 1 1668 1 1667 1 1667 1
1667 1 1667 1 1670 1 1670 1 1670 1 1670 1 1671 1 1671 1 1671 1 1671 1 1677 1 1677 1 1676 1 1676 1
1678 1 1678 1 1672 1 1672 1 1688 1 1688 1 1681 1 1681 1 1705 1 1705 1 1705 1 1705 1 1711 1 1711 1
1711 1 1711 1 1715 1 1715 1 1715 1 1715 1 1713 1 1713 1 1713 1 1713 1 1722 1 1722 1 1723 1 1723 1
1723 1 1723 1 1728 1 1728 1 1729 1 1729 1 1729 1 1729 1 1726 1 1726 1 1726 1 1726 1 1746 1 1746 1
1747 1 1747 34 1709 1 1709 1 1709 1 1709 1 1735 1 1735 1 1734 1 1734 1 1736 1 1736 2 1739 1 1739 1
1733 1 1733 1 1737 1 1737 1 1744 1 1744 1 1744 1 1744 1 1609 1 1609 19 1740 1 1740 1 1740 1 1740 529
44 1 12289 2 58 1 59 1 33 1 63 1 12310 1 12311 25 8212 1 8211 1 95 1 95 1 40 1 41 1 123 1 125 1
12308 1 12309 1 12304 1 12305 1 12298 1 12299 1 12296 1 12297 7 91 1 93 5 95 1 95 1 95 1 44 1 12289
3 59 1 58 1 63 1 33 1 8212 1 40 1 41 1 123 1 125 1 12308 1 12309 1 35 1 38 1 42 1 43 1 45 1 60 1 62
1 61 2 92 1 36 1 37 1 64 21 1569 1 1570 1 1570 1 1571 1 1571 1 1572 1 1572 1 1573 1 1573 1 1574 1
1574 1 1574 1 1574 1 1575 1 1575 1 1576 1 1576 1 1576 1 1576 1 1577 1 1577 1 1578 1 1578 1 1578 1
1578 1 1579 1 1579 1 1579 1 1579 1 1580 1 1580 1 1580 1 1580 1 1581 1 1581 1 1581 1 1581 1 1582 1
1582 1 1582 1 1582 1 1583 1 1583 1 1584 1 1584 1 1585 1 1585 1 1586 1 1586 1 1587 1 1587 1 1587 1
1587 1 1588 1 1588 1 1588 1 1588 1 1589 1 1589 1 1589 1 1589 1 1590 1 1590 1 1590 1 1590 1 1591 1
1591 1 1591 1 1591 1 1592 1 1592 1 1592 1 1592 1 1593 1 1593 1 1593 1 1593 1 1594 1 1594 1 1594 1
1594 1 1601 1 1601 1 1601 1 1601 1 1602 1 1602 1 1602 1 1602 1 1603 1 1603 1 1603 1 1603 1 1604 1
1604 1 1604 1 1604 1 1605 1 1605 1 1605 1 1605 1 1606 1 1606 1 1606 1 1606 1 1607 1 1607 1 1607 1
1607 1 1608 1 1608 1 1609 1 1609 1 1610 1 1610 1 1610 1 1610 107 10629 1 10630 1 46 1 12300 1 12301
1 12289 1 12539 1 12530 1 12449 1 12451 1 12453 1 12455 1 12457 1 12515 1 12517 1 12519 1 12483 1
12540 1 12450 1 12452 1 12454 1 12456 1 12458 1 12459 1 12461 1 12463 1 12465 1 12467 1 12469 1
12471 1 12473 1 12475 1 12477 1 12479 1 12481 1 12484 1 12486 1 12488 7 12498 1 12501 1 12504 1
12507 6 12516 1 12518 7 12527 1 12531 1 12441 1 12442 2 4352 1 4353 1 4522 1 4354 1 4524 1 4525 10
4378 4 4385 44 162 1 163 1 172 2 166 1 165 1 8361 2 9474 5 9632 1 9675 1447 67004 492 720 1 721 1
230 1 665 1 595 2 675 1 43878 1 677 1 676 1 598 1 599 1 7569 1 600 1 606 1 681 1 612 1 610 1 608 1
667 1 295 1 668 1 615 1 644 1 682 1 683 1 620 1 122628 1 42894 1 622 1 122629 1 654 1 122630 1 248 1
630 1 631 1 113 1 634 1 122632 1 637 1 638 1 640 1 680 1 678 1 43879 1 679 1 648 1 11377 2 655 1 673
1 674 1 664 4 122634 1 122654 52450 97 2 99 1 100 3 103 3 106 1 107 94 97 4 101 2 103 46 97 9 106 2
108 353 305 1 567 20 952 8 8711 18 963 8 8706 1 949 1 952 1 954 1 966 1 961 1 960 18 952 8 8711 18
963 8 8706 1 949 1 952 1 954 1 966 1 961 1 960 18 952 8 8711 18 963 8 8706 1 949 1 952 1 954 1 966 1
961 1 960 18 952 8 8711 18 963 8 8706 1 949 1 952 1 954 1 966 1 961 1 960 18 952 8 8711 18 963 8
8706 1 949 1 952 1 954 1 966 1 961 1 960 1 989 1 989 2172 1099 1 1101 1 1102 1 42633 1 1241 1 1110 1
1112 1 1257 1 1199 1 1231 10 1082 1 1083 1 1086 1 1087 1 1089 7 1098 1 1099 1 1169 1 1110 1 1109 1
1119 1 1195 1 42577 1 1201 3475 1575 1 1576 1 1580 1 1583 2 1608 1 1586 1 1581 1 1591 1 1610 5 1587
1 1593 1 1601 1 1589 1 1602 1 1585 1 1588 1 1578 1 1579 1 1582 1 1584 1 1590 1 1592 1 1594 1 1646 1
1722 1 1697 1 1647 2 1576 1 1580 2 1607 3 1581 2 1610 5 1587 1 1593 1 1601 1 1589 1 1602 2 1588 1
1578 1 1579 1 1582 2 1590 2 1594 7 1580 5 1581 2 1610 2 1604 2 1606 1 1587 1 1593 2 1589 1 1602 2
1588 3 1582 2 1590 2 1594 2 1722 2 1647 2 1576 1 1580 2 1607 3 1581 1 1591 1 1610 1 1603 2 1605 1
1606 1 1587 1 1593 1 1601 1 1589 1 1602 2 1588 1 1578 1 1579 1 1582 2 1590 1 1592 1 1594 1 1646 2
1697 2 1575 1 1576 1 1580 1 1583 1 1607 1 1608 1 1586 1 1581 1 1591 1 1610 5 1587 1 1593 1 1601 1
1589 1 1602 1 1585 1 1588 1 1578 1 1579 1 1582 1 1584 1 1590 1 1592 1 1594 6 1576 1 1580 1 1583 2
1608 1 1586 1 1581 1 1591 1 1610 5 1587 1 1593 1 1601 1 1589 1 1602 1 1585 1 1588 1 1578 1 1579 1
1582 1 1584 1 1590 1 1592 1 1594 624 99 1 114 214 12469 14 25163 1 23383 1 21452 1 12487 1 20108 1
22810 1 35299 1 22825 1 20132 1 26144 1 28961 1 26009 1 21069 1 24460 1 20877 1 26032 1 21021 1
32066 1 29983 1 36009 1 22768 1 21561 1 28436 1 25237 1 25429 1 19968 1 19977 1 36938 1 24038 1
20013 1 21491 1 25351 1 36208 1 25171 1 31105 1 31354 1 21512 1 28288 1 26377 1 26376 1 30003 1
21106 1 21942 1 37197 21 24471 1 21487 66991 20029 1 20024 1 20033 1 131362 1 20320 1 20398 1 20411
1 20482 1 20602 1 20633 1 20711 1 20687 1 13470 1 132666 1 20813 1 20820 1 20836 1 20855 1 132380 1
13497 1 20839 1 20877 1 132427 1 20887 1 20900 1 20172 1 20908 1 20917 1 168415 1 20981 1 20995 1
13535 1 21051 1 21062 1 21106 1 21111 1 13589 1 21191 1 21193 1 21220 1 21242 1 21253 1 21254 1
21271 1 21321 1 21329 1 21338 1 21363 1 21373 1 21375 1 21375 1 21375 1 133676 1 28784 1 21450 1
21471 1 133987 1 21483 1 21489 1 21510 1 21662 1 21560 1 21576 1 21608 1 21666 1 21750 1 21776 1
21843 1 21859 1 21892 1 21892 1 21913 1 21931 1 21939 1 21954 1 22294 1 22022 1 22295 1 22097 1
22132 1 20999 1 22766 1 22478 1 22516 1 22541 1 22411 1 22578 1 22577 1 22700 1 136420 1 22770 1
22775 1 22790 1 22810 1 22818 1 22882 1 136872 1 136938 1 23020 1 23067 1 23079 1 23000 1 23142 1
14062 1 14076 1 23304 1 23358 1 23358 1 137672 1 23491 1 23512 1 23527 1 23539 1 138008 1 23551 1
23558 1 24403 1 23586 1 14209 1 23648 1 23662 1 23744 1 23693 1 138724 1 23875 1 138726 1 23918 1
23915 1 23932 1 24033 1 24034 1 14383 1 24061 1 24104 1 24125 1 24169 1 14434 1 139651 1 14460 1
24240 1 24243 1 24246 1 24266 1 172946 1 24318 1 140081 1 140081 1 33281 1 24354 1 24354 1 14535 1
144056 1 156122 1 24418 1 24427 1 14563 1 24474 1 24525 1 24535 1 24569 1 24705 1 14650 1 14620 1
24724 1 141012 1 24775 1 24904 1 24908 1 24910 1 24908 1 24954 1 24974 1 25010 1 24996 1 25007 1
25054 1 25074 1 25078 1 25104 1 25115 1 25181 1 25265 1 25300 1 25424 1 142092 1 25405 1 25340 1
25448 1 25475 1 25572 1 142321 1 25634 1 25541 1 25513 1 14894 1 25705 1 25726 1 25757 1 25719 1
14956 1 25935 1 25964 1 143370 1 26083 1 26360 1 26185 1 15129 1 26257 1 15112 1 15076 1 20882 1
20885 1 26368 1 26268 1 32941 1 17369 1 26391 1 26395 1 26401 1 26462 1 26451 1 144323 1 15177 1
26618 1 26501 1 26706 1 26757 1 144493 1 26766 1 26655 1 26900 1 15261 1 26946 1 27043 1 27114 1
27304 1 145059 1 27355 1 15384 1 27425 1 145575 1 27476 1 15438 1 27506 1 27551 1 27578 1 27579 1
146061 1 138507 1 146170 1 27726 1 146620 1 27839 1 27853 1 27751 1 27926 1 27966 1 28023 1 27969 1
28009 1 28024 1 28037 1 146718 1 27956 1 28207 1 28270 1 15667 1 28363 1 28359 1 147153 1 28153 1
28526 1 147294 1 147342 1 28614 1 28729 1 28702 1 28699 1 15766 1 28746 1 28797 1 28791 1 28845 1
132389 1 28997 1 148067 1 29084 1 148395 1 29224 1 29237 1 29264 1 149000 1 29312 1 29333 1 149301 1
149524 1 29562 1 29579 1 16044 1 29605 1 16056 1 16056 1 29767 1 29788 1 29809 1 29829 1 29898 1
16155 1 29988 1 150582 1 30014 1 150674 1 30064 1 139679 1 30224 1 151457 1 151480 1 151620 1 16380
1 16392 1 30452 1 151795 1 151794 1 151833 1 151859 1 30494 1 30495 1 30495 1 30538 1 16441 1 30603
1 16454 1 16534 1 152605 1 30798 1 30860 1 30924 1 16611 1 153126 1 31062 1 153242 1 153285 1 31119
1 31211 1 16687 1 31296 1 31306 1 31311 1 153980 1 154279 1 154279 1 31470 1 16898 1 154539 1 31686
1 31689 1 16935 1 154752 1 31954 1 17056 1 31976 1 31971 1 32000 1 155526 1 32099 1 17153 1 32199 1
32258 1 32325 1 17204 1 156200 1 156231 1 17241 1 156377 1 32634 1 156478 1 32661 1 32762 1 32773 1
156890 1 156963 1 32864 1 157096 1 32880 1 144223 1 17365 1 32946 1 33027 1 17419 1 33086 1 23221 1
157607 1 157621 1 144275 1 144284 1 33281 1 33284 1 36766 1 17515 1 33425 1 33419 1 33437 1 21171 1
33457 1 33459 1 33469 1 33510 1 158524 1 33509 1 33565 1 33635 1 33709 1 33571 1 33725 1 33767 1
33879 1 33619 1 33738 1 33740 1 33756 1 158774 1 159083 1 158933 1 17707 1 34033 1 34035 1 34070 1
160714 1 34148 1 159532 1 17757 1 17761 1 159665 1 159954 1 17771 1 34384 1 34396 1 34407 1 34409 1
34473 1 34440 1 34574 1 34530 1 34681 1 34600 1 34667 1 34694 1 17879 1 34785 1 34817 1 17913 1
34912 1 34915 1 161383 1 35031 1 35038 1 17973 1 35066 1 13499 1 161966 1 162150 1 18110 1 18119 1
35488 1 35565 1 35722 1 35925 1 162984 1 36011 1 36033 1 36123 1 36215 1 163631 1 133124 1 36299 1
36284 1 36336 1 133342 1 36564 1 36664 1 165330 1 165357 1 37012 1 37105 1 37137 1 165678 1 37147 1
37432 1 37591 1 37592 1 37500 1 37881 1 37909 1 166906 1 38283 1 18837 1 38327 1 167287 1 18918 1
38595 1 23986 1 38691 1 168261 1 168474 1 19054 1 19062 1 38880 1 168970 1 19122 1 169110 1 38923 1
38923 1 38953 1 169398 1 39138 1 19251 1 39209 1 39335 1 39362 1 39422 1 19406 1 170800 1 39698 1
40000 1 40189 1 19662 1 19693 1 40295 1 172238 1 19704 1 172293 1 172558 1 172689 1 40635 1 19798 1
40697 1 40702 1 40709 1 40719 1 40726 1 40763 1 173568")

def expansionsFrom (start : Nat) : List (List Nat) → List (Nat × List Nat)
  | (gap :: targets) :: rest => (start + gap, targets) :: expansionsFrom (start + gap) rest
  | _ => []

def expansions : List (Nat × List Nat) := expansionsFrom 0 ((pieces ',' ("
168 32 776, 7 32 772, 5 32 769, 4 32 807, 4 49 8260 52, 1 49 8260 50, 1 51 8260 52, 114 105 775,
2 105 106, 1 105 106, 12 108 183, 1 108 183, 9 700 110, 123 100 382, 1 100 382, 1 100 382,
1 108 106, 1 108 106, 1 108 106, 1 110 106, 1 110 106, 1 110 106, 37 100 122, 1 100 122, 1 100 122,
229 32 774, 1 32 775, 1 32 778, 1 32 808, 1 32 771, 1 32 779, 103 776 769, 54 32 953, 10 32 769,
1 32 776 769, 514 1381 1410, 238 1575 1652, 1 1608 1652, 1 1735 1652, 1 1610 1652, 736 2325 2364,
1 2326 2364, 1 2327 2364, 1 2332 2364, 1 2337 2364, 1 2338 2364, 1 2347 2364, 1 2351 2364,
125 2465 2492, 1 2466 2492, 2 2479 2492, 84 2610 2620, 3 2616 2620, 35 2582 2620, 1 2583 2620,
1 2588 2620, 3 2603 2620, 254 2849 2876, 1 2850 2876, 726 3661 3634, 128 3789 3762, 41 3755 3737,
1 3755 3745, 102 3906 4023, 10 3916 4023, 5 3921 4023, 5 3926 4023, 5 3931 4023, 13 3904 4021,
10 3953 3954, 2 3953 3956, 1 4018 3968, 1 4018 3953 3968, 1 4019 3968, 1 4019 3953 3968,
8 3953 3968, 18 3986 4023, 10 3996 4023, 5 4001 4023, 5 4006 4023, 5 4011 4023, 13 3984 4021,
3809 97 702, 230 7936 953, 1 7937 953, 1 7938 953, 1 7939 953, 1 7940 953, 1 7941 953, 1 7942 953,
1 7943 953, 1 7936 953, 1 7937 953, 1 7938 953, 1 7939 953, 1 7940 953, 1 7941 953, 1 7942 953,
1 7943 953, 1 7968 953, 1 7969 953, 1 7970 953, 1 7971 953, 1 7972 953, 1 7973 953, 1 7974 953,
1 7975 953, 1 7968 953, 1 7969 953, 1 7970 953, 1 7971 953, 1 7972 953, 1 7973 953, 1 7974 953,
1 7975 953, 1 8032 953, 1 8033 953, 1 8034 953, 1 8035 953, 1 8036 953, 1 8037 953, 1 8038 953,
1 8039 953, 1 8032 953, 1 8033 953, 1 8034 953, 1 8035 953, 1 8036 953, 1 8037 953, 1 8038 953,
1 8039 953, 3 8048 953, 1 945 953, 1 940 953, 3 8118 953, 5 945 953, 1 32 787, 2 32 787, 1 32 834,
1 32 776 834, 1 8052 953, 1 951 953, 1 942 953, 3 8134 953, 5 951 953, 1 32 787 768, 1 32 787 769,
1 32 787 834, 14 32 788 768, 1 32 788 769, 1 32 788 834, 14 32 776 768, 1 32 776 769, 4 8060 953,
1 969 953, 1 974 953, 3 8182 953, 5 969 953, 1 32 769, 1 32 788, 25 32 819, 28 8242 8242,
1 8242 8242 8242, 2 8245 8245, 1 8245 8245 8245, 5 33 33, 2 32 773, 9 63 63, 1 63 33, 1 33 63,
14 8242 8242 8242 8242, 81 114 115, 88 97 47 99, 1 97 47 115, 2 176 99, 2 99 47 111, 1 99 47 117,
3 176 102, 13 110 111, 10 115 109, 1 116 101 108, 1 116 109, 25 102 97 120, 21 49 8260 55,
1 49 8260 57, 1 49 8260 49 48, 1 49 8260 51, 1 50 8260 51, 1 49 8260 53, 1 50 8260 53, 1 51 8260 53,
1 52 8260 53, 1 49 8260 54, 1 53 8260 54, 1 49 8260 56, 1 51 8260 56, 1 53 8260 56, 1 55 8260 56,
1 49 8260, 2 105 105, 1 105 105 105, 1 105 118, 2 118 105, 1 118 105 105, 1 118 105 105 105,
1 105 120, 2 120 105, 1 120 105 105, 6 105 105, 1 105 105 105, 1 105 118, 2 118 105, 1 118 105 105,
1 118 105 105 105, 1 105 120, 2 120 105, 1 120 105 105, 14 48 8260 51, 163 8747 8747,
1 8747 8747 8747, 2 8750 8750, 1 8750 8750 8750, 569 49 48, 1 49 49, 1 49 50, 1 49 51, 1 49 52,
1 49 53, 1 49 54, 1 49 55, 1 49 56, 1 49 57, 1 50 48, 1 40 49 41, 1 40 50 41, 1 40 51 41,
1 40 52 41, 1 40 53 41, 1 40 54 41, 1 40 55 41, 1 40 56 41, 1 40 57 41, 1 40 49 48 41,
1 40 49 49 41, 1 40 49 50 41, 1 40 49 51 41, 1 40 49 52 41, 1 40 49 53 41, 1 40 49 54 41,
1 40 49 55 41, 1 40 49 56 41, 1 40 49 57 41, 1 40 50 48 41, 21 40 97 41, 1 40 98 41, 1 40 99 41,
1 40 100 41, 1 40 101 41, 1 40 102 41, 1 40 103 41, 1 40 104 41, 1 40 105 41, 1 40 106 41,
1 40 107 41, 1 40 108 41, 1 40 109 41, 1 40 110 41, 1 40 111 41, 1 40 112 41, 1 40 113 41,
1 40 114 41, 1 40 115 41, 1 40 116 41, 1 40 117 41, 1 40 118 41, 1 40 119 41, 1 40 120 41,
1 40 121 41, 1 40 122 41, 1367 8747 8747 8747 8747, 104 58 58 61, 1 61 61, 1 61 61 61,
102 10973 824, 1471 32 12441, 1 32 12442, 3 12424 12426, 96 12467 12488, 257 40 4352 41,
1 40 4354 41, 1 40 4355 41, 1 40 4357 41, 1 40 4358 41, 1 40 4359 41, 1 40 4361 41, 1 40 4363 41,
1 40 4364 41, 1 40 4366 41, 1 40 4367 41, 1 40 4368 41, 1 40 4369 41, 1 40 4370 41, 1 40 44032 41,
1 40 45208 41, 1 40 45796 41, 1 40 46972 41, 1 40 47560 41, 1 40 48148 41, 1 40 49324 41,
1 40 50500 41, 1 40 51088 41, 1 40 52264 41, 1 40 52852 41, 1 40 53440 41, 1 40 54028 41,
1 40 54616 41, 1 40 51452 41, 1 40 50724 51204 41, 1 40 50724 54980 41, 2 40 19968 41,
1 40 20108 41, 1 40 19977 41, 1 40 22235 41, 1 40 20116 41, 1 40 20845 41, 1 40 19971 41,
1 40 20843 41, 1 40 20061 41, 1 40 21313 41, 1 40 26376 41, 1 40 28779 41, 1 40 27700 41,
1 40 26408 41, 1 40 37329 41, 1 40 22303 41, 1 40 26085 41, 1 40 26666 41, 1 40 26377 41,
1 40 31038 41, 1 40 21517 41, 1 40 29305 41, 1 40 36001 41, 1 40 31069 41, 1 40 21172 41,
1 40 20195 41, 1 40 21628 41, 1 40 23398 41, 1 40 30435 41, 1 40 20225 41, 1 40 36039 41,
1 40 21332 41, 1 40 31085 41, 1 40 20241 41, 1 40 33258 41, 1 40 33267 41, 13 112 116 101, 1 50 49,
1 50 50, 1 50 51, 1 50 52, 1 50 53, 1 50 54, 1 50 55, 1 50 56, 1 50 57, 1 51 48, 1 51 49, 1 51 50,
1 51 51, 1 51 52, 1 51 53, 29 52280 44256, 1 51452 51032, 52 51 54, 1 51 55, 1 51 56, 1 51 57,
1 52 48, 1 52 49, 1 52 50, 1 52 51, 1 52 52, 1 52 53, 1 52 54, 1 52 55, 1 52 56, 1 52 57, 1 53 48,
1 49 26376, 1 50 26376, 1 51 26376, 1 52 26376, 1 53 26376, 1 54 26376, 1 55 26376, 1 56 26376,
1 57 26376, 1 49 48 26376, 1 49 49 26376, 1 49 50 26376, 1 104 103, 1 101 114 103, 1 101 118,
1 108 116 100, 48 20196 21644, 1 12450 12497 12540 12488, 1 12450 12523 12501 12449,
1 12450 12531 12506 12450, 1 12450 12540 12523, 1 12452 12491 12531 12464, 1 12452 12531 12481,
1 12454 12457 12531, 1 12456 12473 12463 12540 12489, 1 12456 12540 12459 12540,
1 12458 12531 12473, 1 12458 12540 12512, 1 12459 12452 12522, 1 12459 12521 12483 12488,
1 12459 12525 12522 12540, 1 12460 12525 12531, 1 12460 12531 12510, 1 12462 12460,
1 12462 12491 12540, 1 12461 12517 12522 12540, 1 12462 12523 12480 12540, 1 12461 12525,
1 12461 12525 12464 12521 12512, 1 12461 12525 12513 12540 12488 12523,
1 12461 12525 12527 12483 12488, 1 12464 12521 12512, 1 12464 12521 12512 12488 12531,
1 12463 12523 12476 12452 12525, 1 12463 12525 12540 12493, 1 12465 12540 12473,
1 12467 12523 12490, 1 12467 12540 12509, 1 12469 12452 12463 12523,
1 12469 12531 12481 12540 12512, 1 12471 12522 12531 12464, 1 12475 12531 12481,
1 12475 12531 12488, 1 12480 12540 12473, 1 12487 12471, 1 12489 12523, 1 12488 12531,
1 12490 12494, 1 12494 12483 12488, 1 12495 12452 12484, 1 12497 12540 12475 12531 12488,
1 12497 12540 12484, 1 12496 12540 12524 12523, 1 12500 12450 12473 12488 12523,
1 12500 12463 12523, 1 12500 12467, 1 12499 12523, 1 12501 12449 12521 12483 12489,
1 12501 12451 12540 12488, 1 12502 12483 12471 12455 12523, 1 12501 12521 12531,
1 12504 12463 12479 12540 12523, 1 12506 12477, 1 12506 12491 12498, 1 12504 12523 12484,
1 12506 12531 12473, 1 12506 12540 12472, 1 12505 12540 12479, 1 12509 12452 12531 12488,
1 12508 12523 12488, 1 12507 12531, 1 12509 12531 12489, 1 12507 12540 12523, 1 12507 12540 12531,
1 12510 12452 12463 12525, 1 12510 12452 12523, 1 12510 12483 12495, 1 12510 12523 12463,
1 12510 12531 12471 12519 12531, 1 12511 12463 12525 12531, 1 12511 12522,
1 12511 12522 12496 12540 12523, 1 12513 12460, 1 12513 12460 12488 12531,
1 12513 12540 12488 12523, 1 12516 12540 12489, 1 12516 12540 12523, 1 12518 12450 12531,
1 12522 12483 12488 12523, 1 12522 12521, 1 12523 12500 12540, 1 12523 12540 12502 12523,
1 12524 12512, 1 12524 12531 12488 12466 12531, 1 12527 12483 12488, 1 48 28857, 1 49 28857,
1 50 28857, 1 51 28857, 1 52 28857, 1 53 28857, 1 54 28857, 1 55 28857, 1 56 28857, 1 57 28857,
1 49 48 28857, 1 49 49 28857, 1 49 50 28857, 1 49 51 28857, 1 49 52 28857, 1 49 53 28857,
1 49 54 28857, 1 49 55 28857, 1 49 56 28857, 1 49 57 28857, 1 50 48 28857, 1 50 49 28857,
1 50 50 28857, 1 50 51 28857, 1 50 52 28857, 1 104 112 97, 1 100 97, 1 97 117, 1 98 97 114,
1 111 118, 1 112 99, 1 100 109, 1 100 109 50, 1 100 109 51, 1 105 117, 1 24179 25104, 1 26157 21644,
1 22823 27491, 1 26126 27835, 1 26666 24335 20250 31038, 1 112 97, 1 110 97, 1 956 97, 1 109 97,
1 107 97, 1 107 98, 1 109 98, 1 103 98, 1 99 97 108, 1 107 99 97 108, 1 112 102, 1 110 102,
1 956 102, 1 956 103, 1 109 103, 1 107 103, 1 104 122, 1 107 104 122, 1 109 104 122, 1 103 104 122,
1 116 104 122, 1 956 108, 1 109 108, 1 100 108, 1 107 108, 1 102 109, 1 110 109, 1 956 109,
1 109 109, 1 99 109, 1 107 109, 1 109 109 50, 1 99 109 50, 1 109 50, 1 107 109 50, 1 109 109 51,
1 99 109 51, 1 109 51, 1 107 109 51, 1 109 8725 115, 1 109 8725 115 50, 1 112 97, 1 107 112 97,
1 109 112 97, 1 103 112 97, 1 114 97 100, 1 114 97 100 8725 115, 1 114 97 100 8725 115 50,
1 112 115, 1 110 115, 1 956 115, 1 109 115, 1 112 118, 1 110 118, 1 956 118, 1 109 118, 1 107 118,
1 109 118, 1 112 119, 1 110 119, 1 956 119, 1 109 119, 1 107 119, 1 109 119, 1 107 969, 1 109 969,
2 98 113, 1 99 99, 1 99 100, 1 99 8725 107 103, 2 100 98, 1 103 121, 1 104 97, 1 104 112, 1 105 110,
1 107 107, 1 107 109, 1 107 116, 1 108 109, 1 108 110, 1 108 111 103, 1 108 120, 1 109 98,
1 109 105 108, 1 109 111 108, 1 112 104, 2 112 112 109, 1 112 114, 1 115 114, 1 115 118, 1 119 98,
1 118 8725 109, 1 97 8725 109, 1 49 26085, 1 50 26085, 1 51 26085, 1 52 26085, 1 53 26085,
1 54 26085, 1 55 26085, 1 56 26085, 1 57 26085, 1 49 48 26085, 1 49 49 26085, 1 49 50 26085,
1 49 51 26085, 1 49 52 26085, 1 49 53 26085, 1 49 54 26085, 1 49 55 26085, 1 49 56 26085,
1 49 57 26085, 1 50 48 26085, 1 50 49 26085, 1 50 50 26085, 1 50 51 26085, 1 50 52 26085,
1 50 53 26085, 1 50 54 26085, 1 50 55 26085, 1 50 56 26085, 1 50 57 26085, 1 51 48 26085,
1 51 49 26085, 1 103 97 108, 50945 102 102, 1 102 105, 1 102 108, 1 102 102 105, 1 102 102 108,
1 115 116, 1 115 116, 13 1396 1398, 1 1396 1381, 1 1396 1387, 1 1406 1398, 1 1396 1389, 6 1497 1460,
2 1522 1463, 11 1513 1473, 1 1513 1474, 1 1513 1468 1473, 1 1513 1468 1474, 1 1488 1463,
1 1488 1464, 1 1488 1468, 1 1489 1468, 1 1490 1468, 1 1491 1468, 1 1492 1468, 1 1493 1468,
1 1494 1468, 2 1496 1468, 1 1497 1468, 1 1498 1468, 1 1499 1468, 1 1500 1468, 2 1502 1468,
2 1504 1468, 1 1505 1468, 2 1507 1468, 1 1508 1468, 2 1510 1468, 1 1511 1468, 1 1512 1468,
1 1513 1468, 1 1514 1468, 1 1493 1465, 1 1489 1471, 1 1499 1471, 1 1508 1471, 1 1488 1500,
142 1735 1652, 13 1574 1575, 1 1574 1575, 1 1574 1749, 1 1574 1749, 1 1574 1608, 1 1574 1608,
1 1574 1735, 1 1574 1735, 1 1574 1734, 1 1574 1734, 1 1574 1736, 1 1574 1736, 1 1574 1744,
1 1574 1744, 1 1574 1744, 1 1574 1609, 1 1574 1609, 1 1574 1609, 5 1574 1580, 1 1574 1581,
1 1574 1605, 1 1574 1609, 1 1574 1610, 1 1576 1580, 1 1576 1581, 1 1576 1582, 1 1576 1605,
1 1576 1609, 1 1576 1610, 1 1578 1580, 1 1578 1581, 1 1578 1582, 1 1578 1605, 1 1578 1609,
1 1578 1610, 1 1579 1580, 1 1579 1605, 1 1579 1609, 1 1579 1610, 1 1580 1581, 1 1580 1605,
1 1581 1580, 1 1581 1605, 1 1582 1580, 1 1582 1581, 1 1582 1605, 1 1587 1580, 1 1587 1581,
1 1587 1582, 1 1587 1605, 1 1589 1581, 1 1589 1605, 1 1590 1580, 1 1590 1581, 1 1590 1582,
1 1590 1605, 1 1591 1581, 1 1591 1605, 1 1592 1605, 1 1593 1580, 1 1593 1605, 1 1594 1580,
1 1594 1605, 1 1601 1580, 1 1601 1581, 1 1601 1582, 1 1601 1605, 1 1601 1609, 1 1601 1610,
1 1602 1581, 1 1602 1605, 1 1602 1609, 1 1602 1610, 1 1603 1575, 1 1603 1580, 1 1603 1581,
1 1603 1582, 1 1603 1604, 1 1603 1605, 1 1603 1609, 1 1603 1610, 1 1604 1580, 1 1604 1581,
1 1604 1582, 1 1604 1605, 1 1604 1609, 1 1604 1610, 1 1605 1580, 1 1605 1581, 1 1605 1582,
1 1605 1605, 1 1605 1609, 1 1605 1610, 1 1606 1580, 1 1606 1581, 1 1606 1582, 1 1606 1605,
1 1606 1609, 1 1606 1610, 1 1607 1580, 1 1607 1605, 1 1607 1609, 1 1607 1610, 1 1610 1580,
1 1610 1581, 1 1610 1582, 1 1610 1605, 1 1610 1609, 1 1610 1610, 1 1584 1648, 1 1585 1648,
1 1609 1648, 1 32 1612 1617, 1 32 1613 1617, 1 32 1614 1617, 1 32 1615 1617, 1 32 1616 1617,
1 32 1617 1648, 1 1574 1585, 1 1574 1586, 1 1574 1605, 1 1574 1606, 1 1574 1609, 1 1574 1610,
1 1576 1585, 1 1576 1586, 1 1576 1605, 1 1576 1606, 1 1576 1609, 1 1576 1610, 1 1578 1585,
1 1578 1586, 1 1578 1605, 1 1578 1606, 1 1578 1609, 1 1578 1610, 1 1579 1585, 1 1579 1586,
1 1579 1605, 1 1579 1606, 1 1579 1609, 1 1579 1610, 1 1601 1609, 1 1601 1610, 1 1602 1609,
1 1602 1610, 1 1603 1575, 1 1603 1604, 1 1603 1605, 1 1603 1609, 1 1603 1610, 1 1604 1605,
1 1604 1609, 1 1604 1610, 1 1605 1575, 1 1605 1605, 1 1606 1585, 1 1606 1586, 1 1606 1605,
1 1606 1606, 1 1606 1609, 1 1606 1610, 1 1609 1648, 1 1610 1585, 1 1610 1586, 1 1610 1605,
1 1610 1606, 1 1610 1609, 1 1610 1610, 1 1574 1580, 1 1574 1581, 1 1574 1582, 1 1574 1605,
1 1574 1607, 1 1576 1580, 1 1576 1581, 1 1576 1582, 1 1576 1605, 1 1576 1607, 1 1578 1580,
1 1578 1581, 1 1578 1582, 1 1578 1605, 1 1578 1607, 1 1579 1605, 1 1580 1581, 1 1580 1605,
1 1581 1580, 1 1581 1605, 1 1582 1580, 1 1582 1605, 1 1587 1580, 1 1587 1581, 1 1587 1582,
1 1587 1605, 1 1589 1581, 1 1589 1582, 1 1589 1605, 1 1590 1580, 1 1590 1581, 1 1590 1582,
1 1590 1605, 1 1591 1581, 1 1592 1605, 1 1593 1580, 1 1593 1605, 1 1594 1580, 1 1594 1605,
1 1601 1580, 1 1601 1581, 1 1601 1582, 1 1601 1605, 1 1602 1581, 1 1602 1605, 1 1603 1580,
1 1603 1581, 1 1603 1582, 1 1603 1604, 1 1603 1605, 1 1604 1580, 1 1604 1581, 1 1604 1582,
1 1604 1605, 1 1604 1607, 1 1605 1580, 1 1605 1581, 1 1605 1582, 1 1605 1605, 1 1606 1580,
1 1606 1581, 1 1606 1582, 1 1606 1605, 1 1606 1607, 1 1607 1580, 1 1607 1605, 1 1607 1648,
1 1610 1580, 1 1610 1581, 1 1610 1582, 1 1610 1605, 1 1610 1607, 1 1574 1605, 1 1574 1607,
1 1576 1605, 1 1576 1607, 1 1578 1605, 1 1578 1607, 1 1579 1605, 1 1579 1607, 1 1587 1605,
1 1587 1607, 1 1588 1605, 1 1588 1607, 1 1603 1604, 1 1603 1605, 1 1604 1605, 1 1606 1605,
1 1606 1607, 1 1610 1605, 1 1610 1607, 1 1600 1614 1617, 1 1600 1615 1617, 1 1600 1616 1617,
1 1591 1609, 1 1591 1610, 1 1593 1609, 1 1593 1610, 1 1594 1609, 1 1594 1610, 1 1587 1609,
1 1587 1610, 1 1588 1609, 1 1588 1610, 1 1581 1609, 1 1581 1610, 1 1580 1609, 1 1580 1610,
1 1582 1609, 1 1582 1610, 1 1589 1609, 1 1589 1610, 1 1590 1609, 1 1590 1610, 1 1588 1580,
1 1588 1581, 1 1588 1582, 1 1588 1605, 1 1588 1585, 1 1587 1585, 1 1589 1585, 1 1590 1585,
1 1591 1609, 1 1591 1610, 1 1593 1609, 1 1593 1610, 1 1594 1609, 1 1594 1610, 1 1587 1609,
1 1587 1610, 1 1588 1609, 1 1588 1610, 1 1581 1609, 1 1581 1610, 1 1580 1609, 1 1580 1610,
1 1582 1609, 1 1582 1610, 1 1589 1609, 1 1589 1610, 1 1590 1609, 1 1590 1610, 1 1588 1580,
1 1588 1581, 1 1588 1582, 1 1588 1605, 1 1588 1585, 1 1587 1585, 1 1589 1585, 1 1590 1585,
1 1588 1580, 1 1588 1581, 1 1588 1582, 1 1588 1605, 1 1587 1607, 1 1588 1607, 1 1591 1605,
1 1587 1580, 1 1587 1581, 1 1587 1582, 1 1588 1580, 1 1588 1581, 1 1588 1582, 1 1591 1605,
1 1592 1605, 1 1575 1611, 1 1575 1611, 19 1578 1580 1605, 1 1578 1581 1580, 1 1578 1581 1580,
1 1578 1581 1605, 1 1578 1582 1605, 1 1578 1605 1580, 1 1578 1605 1581, 1 1578 1605 1582,
1 1580 1605 1581, 1 1580 1605 1581, 1 1581 1605 1610, 1 1581 1605 1609, 1 1587 1581 1580,
1 1587 1580 1581, 1 1587 1580 1609, 1 1587 1605 1581, 1 1587 1605 1581, 1 1587 1605 1580,
1 1587 1605 1605, 1 1587 1605 1605, 1 1589 1581 1581, 1 1589 1581 1581, 1 1589 1605 1605,
1 1588 1581 1605, 1 1588 1581 1605, 1 1588 1580 1610, 1 1588 1605 1582, 1 1588 1605 1582,
1 1588 1605 1605, 1 1588 1605 1605, 1 1590 1581 1609, 1 1590 1582 1605, 1 1590 1582 1605,
1 1591 1605 1581, 1 1591 1605 1581, 1 1591 1605 1605, 1 1591 1605 1610, 1 1593 1580 1605,
1 1593 1605 1605, 1 1593 1605 1605, 1 1593 1605 1609, 1 1594 1605 1605, 1 1594 1605 1610,
1 1594 1605 1609, 1 1601 1582 1605, 1 1601 1582 1605, 1 1602 1605 1581, 1 1602 1605 1605,
1 1604 1581 1605, 1 1604 1581 1610, 1 1604 1581 1609, 1 1604 1580 1580, 1 1604 1580 1580,
1 1604 1582 1605, 1 1604 1582 1605, 1 1604 1605 1581, 1 1604 1605 1581, 1 1605 1581 1580,
1 1605 1581 1605, 1 1605 1581 1610, 1 1605 1580 1581, 1 1605 1580 1605, 1 1605 1582 1580,
1 1605 1582 1605, 3 1605 1580 1582, 1 1607 1605 1580, 1 1607 1605 1605, 1 1606 1581 1605,
1 1606 1581 1609, 1 1606 1580 1605, 1 1606 1580 1605, 1 1606 1580 1609, 1 1606 1605 1610,
1 1606 1605 1609, 1 1610 1605 1605, 1 1610 1605 1605, 1 1576 1582 1610, 1 1578 1580 1610,
1 1578 1580 1609, 1 1578 1582 1610, 1 1578 1582 1609, 1 1578 1605 1610, 1 1578 1605 1609,
1 1580 1605 1610, 1 1580 1581 1609, 1 1580 1605 1609, 1 1587 1582 1609, 1 1589 1581 1610,
1 1588 1581 1610, 1 1590 1581 1610, 1 1604 1580 1610, 1 1604 1605 1610, 1 1610 1581 1610,
1 1610 1580 1610, 1 1610 1605 1610, 1 1605 1605 1610, 1 1602 1605 1610, 1 1606 1581 1610,
1 1602 1605 1581, 1 1604 1581 1605, 1 1593 1605 1610, 1 1603 1605 1610, 1 1606 1580 1581,
1 1605 1582 1610, 1 1604 1580 1605, 1 1603 1605 1605, 1 1604 1580 1605, 1 1606 1580 1581,
1 1580 1581 1610, 1 1581 1580 1610, 1 1605 1580 1610, 1 1601 1605 1610, 1 1576 1581 1610,
1 1603 1605 1605, 1 1593 1580 1605, 1 1589 1605 1605, 1 1587 1582 1610, 1 1606 1580 1610,
41 1589 1604 1746, 1 1602 1604 1746, 1 1575 1604 1604 1607, 1 1575 1603 1576 1585,
1 1605 1581 1605 1583, 1 1589 1604 1593 1605, 1 1585 1587 1608 1604, 1 1593 1604 1610 1607,
1 1608 1587 1604 1605, 1 1589 1604 1609,
1 1589 1604 1609 32 1575 1604 1604 1607 32 1593 1604 1610 1607 32 1608 1587 1604 1605,
1 1580 1604 32 1580 1604 1575 1604 1607, 1 1585 1740 1575 1604, 77 32 773, 1 32 773, 1 32 773,
1 32 773, 36 32 1611, 1 1600 1611, 1 32 1612, 2 32 1613, 2 32 1614, 1 1600 1614, 1 32 1615,
1 1600 1615, 1 32 1616, 1 1600 1616, 1 32 1617, 1 1600 1617, 1 32 1618, 1 1600 1618, 118 1604 1570,
1 1604 1570, 1 1604 1571, 1 1604 1571, 1 1604 1573, 1 1604 1573, 1 1604 1575, 1 1604 1575,
231 32 772, 53627 119127 119141, 1 119128 119141, 1 119128 119141 119150, 1 119128 119141 119151,
1 119128 119141 119152, 1 119128 119141 119153, 1 119128 119141 119154, 87 119225 119141,
1 119226 119141, 1 119225 119141 119150, 1 119226 119141 119150, 1 119225 119141 119151,
1 119226 119141 119151, 1254 115 115, 6747 48 44, 1 49 44, 1 50 44, 1 51 44, 1 52 44, 1 53 44,
1 54 44, 1 55 44, 1 56 44, 1 57 44, 6 40 97 41, 1 40 98 41, 1 40 99 41, 1 40 100 41, 1 40 101 41,
1 40 102 41, 1 40 103 41, 1 40 104 41, 1 40 105 41, 1 40 106 41, 1 40 107 41, 1 40 108 41,
1 40 109 41, 1 40 110 41, 1 40 111 41, 1 40 112 41, 1 40 113 41, 1 40 114 41, 1 40 115 41,
1 40 116 41, 1 40 117 41, 1 40 118 41, 1 40 119 41, 1 40 120 41, 1 40 121 41, 1 40 122 41,
1 12308 115 12309, 3 99 100, 1 119 122, 28 104 118, 1 109 118, 1 115 100, 1 115 115, 1 112 112 118,
1 119 99, 27 109 99, 1 109 100, 1 109 114, 36 100 106, 112 12411 12363, 1 12467 12467,
63 12308 26412 12309, 1 12308 19977 12309, 1 12308 20108 12309, 1 12308 23433 12309,
1 12308 28857 12309, 1 12308 25171 12309, 1 12308 30423 12309, 1 12308 21213 12309,
1 12308 25943 12309").toList).map (numbersFrom none))

/-- What a character stands for, if it stands for others. -/
def targets? (n : Nat) : Option (List Nat) :=
  match shifts.findSome? (·.image? n) with
  | some target => some [target]
  | none =>
    match singles.lookup n with
    | some target => some [target]
    | none => expansions.lookup n

/-- What is written for a character, if it may be used. -/
def written? (c : Char) : Option (List Char) :=
  if plain.contains c then some [c]
  else if dropped.contains c then some []
  else (targets? c.toNat).map (·.map Char.ofNat)

end KeyScript.Domain
