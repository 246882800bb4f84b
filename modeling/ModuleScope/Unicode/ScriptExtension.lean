/-! The scripts that use a character, where they are more than the one it belongs to. -/

namespace ModuleScope.Unicode

/-- Spans of the characters used by each script whose users are more than its own. -/
def scriptExtensionSpans : List (String × String) :=
  -- Each row is a name and its spans.
  [
    ("Adlm", "1567 1 32 1 123583 76 4 10 4 2"),
    ("Arab", "1536 5 1 215 1 34 80 48 240 31 1 2 5 75 1 29 62032 115 16 445 2 54 7 1 32 16 112 5 1 135 995 " ++
      "28 2916 31 67 3 55 4 57088 4 1 27 1 2 1 1 2 1 1 10 1 4 1 1 1 1 6 1 4 1 1 1 1 1 1 3 1 2 1 1 2 " ++
      "1 1 1 1 1 1 1 1 1 1 2 1 1 2 4 1 7 1 4 1 4 1 1 1 10 1 17 5 3 1 5 1 17 52 2"),
    ("Beng", "2385 2 17 2 26 4 1 8 2 2 2 22 1 7 1 1 3 4 2 9 2 2 2 4 8 1 4 2 1 5 2 25 4817 1 1 1 2 2 1 1 8 " ++
      "1 8 1 2 1 4 1 2 3 35833 1"),
    ("Bopo", "746 2 11541 3 4 10 1 13 10 4 2 1 6 1 195 1 9 43 112 32 52357 2 282 5"),
    ("Bugi", "6656 28 2 2 36783 1"),
    ("Buhd", "5941 2 9 20"),
    ("Cakm", "2534 10 1616 10 65718 53 1 18"),
    ("Copt", "994 14 10384 116 5 7 54752 28"),
    ("Cpmn", "65792 2 11918 99"),
    ("Cprt", "65792 3 4 45 3 9 1728 6 2 1 1 44 1 2 3 1 2 1"),
    ("Cyrl", "1024 304 5968 11 160 1 76 1 127 1 4071 32 67 1 30716 96 22414 2 57856 62 33 1"),
    ("Deva", "2304 83 2 43 4944 39 1 2 1014 1 34623 10 166 32 29184 10"),
    ("Dogr", "2404 12 40640 10 28614 60"),
    ("Dupl", "113664 107 5 13 3 9 7 10 2 8"),
    ("Geor", "4256 38 1 1 5 1 2 48 2960 43 2 3 4160 38 1 1 5 1"),
    ("Glag", "1156 1 2 1 10104 96 483 1 30763 1 80272 7 1 17 2 7 1 2 1 5"),
    ("Gong", "2404 2 70650 6 1 2 1 37 1 2 1 6 7 10"),
    ("Gonm", "2404 2 70554 7 1 2 1 44 3 1 1 2 1 9 8 10"),
    ("Gran", "2385 2 17 2 640 14 4316 1 1 2 30 3 3 2 1014 1 61967 4 1 8 2 2 2 22 1 7 1 2 1 5 1 10 2 2 2 3 " ++
      "2 1 6 1 5 7 2 7 3 5 3163 2 1 1"),
    ("Grek", "834 1 2 1 42 4 1 3 2 4 1 1 4 1 1 1 1 3 1 1 1 20 1 63 14 16 6438 5 50 5 4 5 84 3 318 22 2 6 2 " ++
      "38 2 6 2 8 1 1 1 1 1 1 1 31 2 53 1 15 1 14 2 6 1 19 2 3 1 9 295 1 35390 1 21978 79 17 1 " ++
      "53343 70"),
    ("Gujr", "2385 2 17 2 283 3 1 9 1 3 1 22 1 7 1 2 1 5 2 10 1 3 1 3 2 1 15 4 2 12 7 7 40240 10"),
    ("Guru", "2385 2 17 2 155 3 1 6 4 2 2 22 1 7 1 2 1 2 1 2 2 1 1 5 4 2 2 3 3 1 7 4 1 1 7 17 40377 10"),
    ("Hang", "4352 256 7681 3 4 10 1 13 14 3 6 1 195 1 53 94 113 31 65 31 30433 29 643 11172 12 23 4 49 " ++
      "9801 2 282 5 58 31 3 6 2 6 2 6 2 3"),
    ("Hani", "11904 26 1 89 12 214 43 3 1 13 1 13 1 13 2 1 6 9 187 1 148 16 32 36 60 40 56 49 15 12 51 1 " ++
      "88 25 10 5 96 31 1 6592 64 20992 1792 8 20984 366 2 106 875 2 282 5 28796 2 12 2 25454 18 " ++
      "7902 2 3502 42720 32 4154 6 222 2 5762 14 7473 15 622 2466 542 1506 4939 5 4192"),
    ("Hano", "5920 23"),
    ("Hira", "12289 3 4 10 1 13 16 6 1 1 4 2 3 86 2 8 90 2 52552 2 282 5 10 1 45 2 45153 287 18 1 29 3 " ++
      "16557 1"),
    ("Java", "43392 78 1 11 4 2"),
    ("Kali", "43264 48"),
    ("Kana", "12289 3 4 10 1 13 16 6 1 1 4 2 91 4 3 96 240 16 208 47 1 88 51949 2 282 63 45136 4 1 7 1 2 1 " ++
      "1 287 3 50 1 14 4"),
    ("Khoj", "2790 10 40256 10 27078 18 1 47"),
    ("Knda", "2385 2 17 2 794 13 1 3 1 23 1 10 1 5 2 9 1 3 1 4 7 2 6 2 1 4 2 10 1 3 4060 1 1 1 7 1 23 1 1 " ++
      "1 35643 6"),
    ("Kthi", "2406 10 40640 10 26694 67 10 1"),
    ("Latn", "65 26 6 26 47 1 15 1 5 23 1 31 1 449 39 5 126 13 277 2 1226 2 1960 1 3076 38 6 49 5 4 5 13 1 " ++
      "70 65 256 303 1 65 1 13 1 16 13 83 1 57 2 6 1 27 1 17 41 2775 32 31360 8 26 102 3 67 2 2 1 1 " ++
      "1 8 21 14 302 1 513 43 1 9 1 4 20374 7 1050 26 6 26 2085 6 1 42 1 9 55109 31 6 6"),
    ("Limb", "2405 1 3994 31 1 12 4 12 4 1 3 12"),
    ("Lina", "65799 45 1228 311 9 22 10 8"),
    ("Linb", "65536 12 1 26 1 19 1 2 1 15 2 14 34 123 5 3 4 45 3 9"),
    ("Mahj", "2404 12 40640 10 26902 39"),
    ("Mand", "1600 1 511 28 2 1"),
    ("Mani", "1600 1 66687 39 4 12"),
    ("Mlym", "2385 2 17 2 922 13 1 3 1 51 1 3 1 6 4 16 2 26 3930 1 35669 3"),
    ("Modi", "43056 10 28102 69 11 10"),
    ("Mong", "6144 26 6 89 7 43 1924 1 63024 13"),
    ("Mult", "2662 10 67600 7 1 1 1 4 1 15 1 11"),
    ("Mymr", "4096 160 39054 1 177 31 97 32 27728 20"),
    ("Nand", "2404 2 896 10 4089 1 8 1 7 1 35637 6 29034 8 2 46 2 11"),
    ("Nkoo", "1548 1 14 1 3 1 416 59 2 3 62782 2"),
    ("Orya", "2385 2 17 2 411 3 1 8 2 2 2 22 1 7 1 2 1 5 2 9 2 2 2 3 7 3 4 2 1 5 2 18 4450 1 23 1"),
    ("Ougr", "1600 1 66737 1 1149 26"),
    ("Perm", "1155 1 65228 43"),
    ("Phag", "6146 2 1 1 36922 56"),
    ("Phlp", "1600 1 66879 18 7 4 12 7"),
    ("Rohg", "1548 1 14 1 3 1 32 1 147 1 67115 40 8 10"),
    ("Shrd", "2385 1 4997 1 1 1 2 2 2 1 62623 96"),
    ("Sind", "2404 2 40650 10 27254 59 5 10"),
    ("Sinh", "2404 2 1051 3 1 18 3 24 1 9 1 1 2 7 3 1 4 6 1 1 1 8 6 10 2 3 66540 20"),
    ("Sogd", "1600 1 67823 42"),
    ("Sylo", "2404 2 128 10 40464 45"),
    ("Syrc", "1548 1 14 2 2 1 32 1 10 11 26 1 143 14 1 60 2 3 272 11 5517 1 1 1"),
    ("Tagb", "5941 2 41 13 1 3 1 2"),
    ("Takr", "2404 2 40650 10 28230 58 6 10"),
    ("Tale", "4160 10 2310 30 2 5"),
    ("Taml", "2385 2 17 2 540 2 1 6 3 3 1 4 3 2 1 1 1 2 3 2 3 3 3 12 4 5 3 3 1 4 2 1 6 1 14 21 4319 1 " ++
      "35864 1 27149 1 1 1 55 2 3203 50 13 1"),
    ("Telu", "2385 2 17 2 666 13 1 3 1 23 1 16 2 9 1 3 1 4 7 2 1 3 2 1 2 4 2 10 7 9 4186 1 23 1"),
    ("Tglg", "5888 22 9 1 21 2"),
    ("Thaa", "1548 1 14 2 2 1 64 10 278 50 63040 1 10 1"),
    ("Tirh", "2385 2 17 2 5004 1 35645 10 27718 72 8 10"),
    ("Yezi", "1548 1 14 1 3 1 64 10 67606 42 1 3 2 2"),
    ("Yiii", "12289 2 5 10 2 8 223 1 28420 1165 3 55 23194 5"),
    ("Zinh", "768 66 1 2 1 29 1520 2 4443 31 755 54 1 1 1 5 524 2 194 32 56592 16 16 14 975 1 52482 46 2 " ++
      "23 544 3 17 8 2 7 30 4 798546 240"),
    ("Zyyy", "0 65 26 6 26 47 1 15 1 5 23 1 31 1 449 39 5 5 2 20 116 1 9 1 6 1 1 1 637 1 215 1 516 1 1372 " ++
      "1 405 4 1810 3 2322 12 2 33 1 53 1 11 3 11 1 15 17 33 63 38 1 3 2 6 1 27 1 17 41 3 4 666 22 " ++
      "11 21 928 256 628 2 32 1 105 512 67 1 26 402 17 3 1 13 1 13 1 21 1 429 2 9 1 88 24 31 1 49 " ++
      "15 12 4 161 10 5 96 31 1 6592 64 22792 26 102 3 976 1 14 2 21156 10 22 21 2 12 1 19 1 4 147 " ++
      "1 1 32 26 6 26 6 127 7 1 7 10 5 402 13 51 45 51715 250 6 436 156 116 60 246 10 39 2 62 3 17 " ++
      "8 2 7 30 4 61 213 20 12 20 12 87 27 7 135 85 1 71 1 2 2 1 2 2 2 4 1 12 1 1 1 7 1 65 1 4 2 8 " ++
      "1 7 1 28 1 4 1 5 1 1 3 7 1 340 2 292 2 50 5233 68 76 61 706 44 4 100 12 15 2 15 1 15 1 37 10 " ++
      "174 56 26 1 2 13 44 4 9 23 6 154 984 4 17 3 13 3 119 4 95 6 12 4 1 15 12 4 56 8 10 6 40 8 30 " ++
      "2 12 4 2 62 340 12 14 2 13 3 10 5 56 7 15 2 11 6 9 7 147 1 102 787463 1 30 96")
  ]

end ModuleScope.Unicode
