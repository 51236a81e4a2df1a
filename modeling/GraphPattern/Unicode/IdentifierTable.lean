/-
Properties that say where a character may stand in an identifier or a pattern.
-/
import GraphPattern.Unicode.Runs

namespace GraphPattern.Unicode

def identifierTable : List NamedRuns :=
  [ ⟨["ID_Compat_Math_Continue"],
      [ "178 2 5 1 8118 1 3 11 1 15 371 1 4 1 22 1 111778 1 25 1 31 1 25 1 31 1 25 1 31 1 25 1 31 1",
        "25 1" ]⟩,
    ⟨["ID_Compat_Math_Start"],
      [ "8706 1 4 1 22 1 111778 1 25 1 31 1 25 1 31 1 25 1 31 1 25 1 31 1 25 1" ]⟩,
    ⟨["ID_Continue", "idc"],
      [ "48 10 7 26 4 1 1 26 47 1 10 1 1 1 2 1 5 23 1 31 1 458 4 12 14 5 7 1 1 1 17 117 1 2 2 4 1 1",
        "6 5 1 1 1 20 1 83 1 139 1 5 2 166 1 38 2 1 6 41 8 45 1 1 1 2 1 2 1 1 8 27 4 4 29 11 5 74",
        "4 102 1 8 2 10 1 19 2 1 16 59 2 101 14 54 4 1 2 1 2 46 18 28 4 11 5 24 1 6 8 75 1 129 2 10",
        "1 19 1 8 2 2 2 22 1 7 1 1 3 4 2 9 2 2 2 4 8 1 4 2 1 5 2 12 10 1 1 1 2 3 1 6 4 2 2 22 1 7",
        "1 2 1 2 1 2 2 1 1 5 4 2 2 3 3 1 7 4 1 1 7 16 11 3 1 9 1 3 1 22 1 7 1 2 1 5 2 10 1 3 1 3",
        "2 1 15 4 2 10 9 7 1 3 1 8 2 2 2 22 1 7 1 2 1 5 2 9 2 2 2 3 7 3 4 2 1 5 2 10 1 1 16 2 1 6",
        "3 3 1 4 3 2 1 1 1 2 3 2 3 3 3 12 4 5 3 3 1 4 2 1 6 1 14 10 16 13 1 3 1 23 1 16 2 9 1 3 1 4",
        "7 2 1 3 2 1 2 4 2 10 16 4 1 8 1 3 1 23 1 10 1 5 2 9 1 3 1 4 7 2 6 2 1 4 2 10 1 3 12 13 1 3",
        "1 51 1 3 1 5 5 4 7 5 2 10 10 6 1 3 1 18 3 24 1 9 1 1 2 7 3 1 4 6 1 1 1 8 6 10 2 2 13 58",
        "5 15 1 10 39 2 1 1 1 5 1 24 1 1 1 23 2 5 1 1 1 7 1 10 2 4 32 1 23 2 6 10 11 1 1 1 1 1 4 10",
        "1 36 4 20 1 18 1 36 9 1 57 74 6 78 2 38 1 1 5 1 2 43 1 333 1 4 2 7 1 1 1 4 2 41 1 4 2 33",
        "1 4 2 7 1 1 1 4 2 15 1 57 1 4 2 67 2 3 9 9 14 16 16 86 2 6 3 620 2 17 1 26 5 75 3 11 7 22",
        "9 22 11 20 12 13 1 3 1 2 12 84 3 1 4 2 2 10 33 3 1 11 6 89 7 43 5 70 10 31 1 12 4 12 10 40",
        "2 5 11 44 4 26 6 11 37 28 4 63 1 29 2 11 6 10 13 1 8 14 1 16 49 77 3 10 17 9 12 116 12 56",
        "8 10 3 49 2 11 5 43 2 3 16 3 1 39 5 534 2 6 2 38 2 6 2 8 1 1 1 1 1 1 1 31 2 53 1 7 1 1 3 3",
        "1 7 3 4 2 6 4 13 5 3 1 7 15 2 49 2 19 1 28 1 13 1 16 13 51 13 4 1 3 12 17 1 4 1 2 10 1 1",
        "2 6 6 1 1 1 1 1 1 16 2 4 5 5 4 1 17 41 2679 229 6 9 12 38 1 1 5 1 2 56 7 1 15 24 9 7 1 7",
        "1 7 1 7 1 7 1 7 1 7 1 7 1 32 517 3 25 15 1 5 2 5 4 86 2 7 1 95 5 43 1 94 17 32 48 16",
        "512 6592 64 22157 67 46 2 269 3 28 20 48 4 10 1 115 37 9 2 103 2 67 2 2 1 1 1 8 21 54 4 1",
        "19 52 12 70 10 10 6 24 3 1 1 49 2 36 12 29 3 65 14 11 6 31 1 55 9 14 2 10 6 23 3 73 24 3",
        "2 16 2 5 10 6 2 6 2 6 9 7 1 7 1 43 1 14 6 123 1 2 2 10 6 11172 12 23 4 49 8452 366 2 106",
        "38 7 12 5 5 12 1 13 1 5 1 1 1 2 1 2 1 108 33 363 18 64 2 54 40 12 4 16 16 16 3 2 24 3 32 5",
        "1 135 19 10 7 26 4 1 1 26 10 90 3 6 2 6 2 6 2 3 35 12 1 26 1 19 1 2 1 15 2 14 34 123 69 53",
        "136 1 130 29 3 49 15 1 31 32 13 30 5 43 5 30 2 36 4 8 1 5 42 158 2 10 6 36 4 36 4 40 8 52",
        "12 11 1 15 1 7 1 2 1 11 1 15 1 7 1 2 3 52 12 311 9 22 10 8 24 6 1 42 1 9 69 6 2 1 1 44 1 2",
        "3 1 2 23 10 23 9 31 65 19 1 2 10 22 10 26 70 56 6 2 64 4 1 2 5 8 1 3 1 29 2 3 4 1 32 29",
        "3 29 35 8 1 30 25 54 10 22 10 19 13 18 110 73 55 51 13 51 13 40 8 10 6 38 3 5 1 23 250 42",
        "1 2 3 2 16 3 55 33 10 1 8 33 31 22 42 21 27 23 9 71 31 16 9 60 7 1 13 25 7 10 6 53 1 10",
        "4 4 8 36 2 1 9 69 4 4 1 13 1 1 35 18 1 37 6 4 62 7 1 1 1 4 1 15 1 10 7 59 5 10 6 4 1 8 2 2",
        "2 22 1 7 1 2 1 5 1 10 2 2 2 3 2 1 6 1 5 7 2 7 3 5 11 10 1 1 2 1 1 38 1 10 1 1 2 1 1 4 1 8",
        "13 2 29 75 5 10 4 4 30 70 1 1 8 10 166 54 2 9 23 6 34 65 3 1 11 10 38 57 7 10 6 20 28 27",
        "2 15 4 10 6 7 185 59 101 74 21 8 2 1 2 8 1 2 1 30 1 2 2 9 12 10 70 8 2 46 2 8 1 2 27 63",
        "8 1 8 74 3 1 18 73 199 33 15 10 6 9 1 45 1 9 15 10 24 30 2 22 1 14 73 7 1 2 1 44 3 1 1 2",
        "1 9 8 10 6 6 1 2 1 37 1 2 1 6 7 10 310 23 9 17 1 41 3 5 13 11 85 1 79 922 102 111 17 196",
        "2636 97 15 1072 16 22 10 3995 5 583 6841 58 1734 569 7 31 1 10 6 79 1 10 6 30 2 5 11 55",
        "9 4 12 10 9 21 5 19 432 45 3 10 198 64 128 75 4 57 7 17 64 2 1 2 11 2 14 6136 8 1238 41 10",
        "8935 4 1 7 1 2 1 291 15 1 29 3 2 1 14 4 8 396 2308 107 5 13 3 9 7 10 3 2 4177 10 518 46",
        "2 23 542 5 3 6 8 8 2 7 30 4 148 3 443 85 1 71 1 2 2 1 2 2 2 4 1 12 1 1 1 7 1 65 1 4 2 8",
        "1 7 1 28 1 4 1 5 1 1 3 7 1 340 2 25 1 25 1 31 1 25 1 31 1 25 1 31 1 25 1 31 1 25 1 8 2 50",
        "512 55 4 50 8 1 14 1 22 5 1 15 1104 31 6 6 213 7 1 17 2 7 1 2 1 5 5 62 33 1 112 45 3 14",
        "2 10 4 1 321 31 17 58 470 42 214 43 485 7 1 4 1 2 1 15 1 197 11 7 41 76 4 10 1190 4 1 27",
        "1 2 1 1 2 1 1 10 1 4 1 1 1 1 6 1 4 1 1 1 1 1 1 3 1 2 1 1 2 1 1 1 1 1 1 1 1 1 1 2 1 1 2 4",
        "1 7 1 4 1 4 1 1 1 10 1 17 5 3 1 5 1 17 3380 10 1030 42720 32 4154 6 222 2 5762 14 7473",
        "15 622 2466 542 1506 4939 5 4192 712016 240" ]⟩,
    ⟨["ID_Start", "ids"],
      [ "65 26 6 26 47 1 10 1 4 1 5 23 1 31 1 458 4 12 14 5 7 1 1 1 129 5 1 2 2 4 1 1 6 1 1 3 1 1",
        "1 20 1 83 1 139 8 166 1 38 2 1 6 41 71 27 4 4 45 43 35 2 1 99 1 1 15 2 7 2 10 3 2 1 16 1",
        "1 30 29 89 11 1 24 33 9 2 4 1 5 22 4 1 9 1 3 1 23 25 7 11 5 24 1 6 17 42 58 54 3 1 18 1",
        "7 10 15 16 4 8 2 2 2 22 1 7 1 1 3 4 3 1 16 1 13 2 1 3 14 2 10 1 8 6 4 2 2 22 1 7 1 2 1 2",
        "1 2 31 4 1 1 19 3 16 9 1 3 1 22 1 7 1 2 1 5 3 1 18 1 15 2 23 1 11 8 2 2 2 22 1 7 1 2 1 5",
        "3 1 30 2 1 3 15 1 17 1 1 6 3 3 1 4 3 2 1 1 1 2 3 2 3 3 3 12 22 1 52 8 1 3 1 23 1 16 3 1",
        "26 3 2 1 2 2 30 1 4 8 1 3 1 23 1 10 1 5 3 1 31 2 1 2 15 2 17 9 1 3 1 41 2 1 16 1 5 3 8 3",
        "24 6 5 18 3 24 1 9 1 1 2 7 58 48 1 2 12 7 58 2 1 1 1 5 1 24 1 1 1 10 1 2 9 1 2 5 1 1 21 4",
        "32 1 63 8 1 36 27 5 115 43 20 1 16 6 4 4 3 1 3 2 7 3 4 13 12 1 17 38 1 1 5 1 2 43 1 333",
        "1 4 2 7 1 1 1 4 2 41 1 4 2 33 1 4 2 7 1 1 1 4 2 15 1 57 1 4 2 67 37 16 16 86 2 6 3 620",
        "2 17 1 26 5 75 3 11 7 18 13 19 14 18 14 13 1 3 15 52 35 1 4 1 67 89 7 41 1 1 5 70 10 31",
        "49 30 2 5 11 44 4 26 54 23 9 53 82 1 93 47 17 8 54 30 13 2 10 44 26 36 41 3 10 36 2 11",
        "5 43 2 3 41 4 1 6 1 2 3 1 5 192 64 278 2 6 2 38 2 6 2 8 1 1 1 1 1 1 1 31 2 53 1 7 1 1 3 3",
        "1 7 3 4 2 6 4 13 5 3 1 7 116 1 13 1 16 13 101 1 4 1 2 10 1 1 2 6 6 1 1 1 1 1 1 16 2 4 5 5",
        "4 1 17 41 2679 229 6 4 3 2 12 38 1 1 5 1 2 56 7 1 16 23 9 7 1 7 1 7 1 7 1 7 1 7 1 7 1 7",
        "550 3 25 9 7 5 2 5 4 86 4 5 1 90 1 4 5 43 1 94 17 32 48 16 512 6592 64 22157 67 46 2 269",
        "3 16 10 2 20 47 16 31 2 80 39 9 2 103 2 67 2 2 1 1 1 8 21 16 1 3 1 4 1 23 29 52 14 50 62 6",
        "3 1 1 2 11 28 10 23 25 29 7 47 28 1 16 5 1 10 10 5 1 41 23 3 1 8 20 23 3 1 3 50 1 1 3 2",
        "2 5 2 1 1 1 24 3 2 11 7 3 12 6 2 6 2 6 9 7 1 7 1 43 1 14 6 115 29 11172 12 23 4 49",
        "8452 366 2 106 38 7 12 5 5 1 1 10 1 13 1 5 1 1 1 2 1 2 1 108 33 363 18 64 2 54 40 12 116 5",
        "1 135 36 26 6 26 11 89 3 6 2 6 2 6 2 3 35 12 1 26 1 19 1 2 1 15 2 14 34 123 69 53 267 29",
        "3 49 47 32 13 30 5 38 10 30 2 36 4 8 1 5 42 158 18 36 4 36 4 40 8 52 12 11 1 15 1 7 1 2",
        "1 11 1 15 1 7 1 2 3 52 12 311 9 22 10 8 24 6 1 42 1 9 69 6 2 1 1 44 1 2 3 1 2 23 10 23",
        "9 31 65 19 1 2 10 22 10 26 70 56 6 2 64 1 15 4 1 3 1 29 42 29 3 29 35 8 1 28 27 54 10 22",
        "10 19 13 18 110 73 55 51 13 51 13 36 38 28 9 23 250 42 6 2 16 3 59 29 10 1 8 22 42 18",
        "46 21 27 23 12 53 57 2 2 1 13 45 32 25 26 36 29 1 2 1 8 35 3 1 12 48 14 4 21 1 1 1 35 18",
        "1 25 19 2 63 7 1 1 1 4 1 15 1 10 7 47 38 8 2 2 2 22 1 7 1 2 1 5 3 1 18 1 12 5 30 10 1 1",
        "2 1 1 38 1 1 25 1 1 1 44 53 18 4 20 3 30 48 20 2 1 1 184 47 41 4 36 48 20 1 59 43 13 1",
        "71 27 37 7 185 44 116 64 31 8 2 1 2 8 1 2 1 24 15 1 1 1 94 8 2 39 16 1 1 1 28 1 10 40 7 1",
        "21 1 11 46 19 1 18 73 199 33 31 9 1 37 17 1 49 30 112 7 1 2 1 38 21 1 25 6 1 2 1 32 14 1",
        "327 19 15 1 1 13 1 34 124 1 79 922 102 111 17 196 2636 97 15 1072 17 6 25 3995 5 583",
        "6841 30 1762 569 7 31 17 79 17 30 18 48 16 4 31 21 5 19 432 45 211 64 128 75 5 1 66 13",
        "64 2 1 1 28 6136 8 1238 41 10 8935 4 1 7 1 2 1 291 15 1 29 3 2 1 14 4 8 396 2308 107 5 13",
        "3 9 7 10 5990 85 1 71 1 2 2 1 2 2 2 4 1 12 1 1 1 7 1 65 1 4 2 8 1 7 1 28 1 4 1 5 1 1 3 7",
        "1 340 2 25 1 25 1 31 1 25 1 31 1 25 1 31 1 25 1 31 1 25 1 8 1844 31 6 6 261 62 146 45 10 7",
        "16 1 321 30 18 44 484 28 228 30 2 1 495 7 1 4 1 2 1 15 1 197 59 68 7 1 1204 4 1 27 1 2 1 1",
        "2 1 1 10 1 4 1 1 1 1 6 1 4 1 1 1 1 1 1 3 1 2 1 1 2 1 1 1 1 1 1 1 1 1 1 2 1 1 2 4 1 7 1 4",
        "1 4 1 1 1 10 1 17 5 3 1 5 1 17 4420 42720 32 4154 6 222 2 5762 14 7473 15 622 2466 542",
        "1506 4939 5 4192" ]⟩,
    ⟨["Other_ID_Continue", "oidc"], ["183 1 719 1 4065 9 1640 1 1585 2 4333 1 52841 1"]⟩,
    ⟨["Other_ID_Start", "oids"], ["6277 2 2193 1 21 1 3948 2"]⟩,
    ⟨["Pattern_Syntax", "patsyn"],
      [ "33 15 10 7 26 4 1 1 26 4 34 7 1 1 1 2 1 1 1 2 4 1 4 1 3 1 23 1 31 1 7960 24 8 15 2 19 1 10",
        "305 720 160 630 30 1132 512 128 385 3 4 25 15 1 52493 2 261 2" ]⟩,
    ⟨["Pattern_White_Space", "patws"], ["9 5 18 1 100 1 8072 2 24 2"]⟩,
    ⟨["XID_Continue", "xidc"],
      [ "48 10 7 26 4 1 1 26 47 1 10 1 1 1 2 1 5 23 1 31 1 458 4 12 14 5 7 1 1 1 17 117 1 2 3 3 1 1",
        "6 5 1 1 1 20 1 83 1 139 1 5 2 166 1 38 2 1 6 41 8 45 1 1 1 2 1 2 1 1 8 27 4 4 29 11 5 74",
        "4 102 1 8 2 10 1 19 2 1 16 59 2 101 14 54 4 1 2 1 2 46 18 28 4 11 5 24 1 6 8 75 1 129 2 10",
        "1 19 1 8 2 2 2 22 1 7 1 1 3 4 2 9 2 2 2 4 8 1 4 2 1 5 2 12 10 1 1 1 2 3 1 6 4 2 2 22 1 7",
        "1 2 1 2 1 2 2 1 1 5 4 2 2 3 3 1 7 4 1 1 7 16 11 3 1 9 1 3 1 22 1 7 1 2 1 5 2 10 1 3 1 3",
        "2 1 15 4 2 10 9 7 1 3 1 8 2 2 2 22 1 7 1 2 1 5 2 9 2 2 2 3 7 3 4 2 1 5 2 10 1 1 16 2 1 6",
        "3 3 1 4 3 2 1 1 1 2 3 2 3 3 3 12 4 5 3 3 1 4 2 1 6 1 14 10 16 13 1 3 1 23 1 16 2 9 1 3 1 4",
        "7 2 1 3 2 1 2 4 2 10 16 4 1 8 1 3 1 23 1 10 1 5 2 9 1 3 1 4 7 2 6 2 1 4 2 10 1 3 12 13 1 3",
        "1 51 1 3 1 5 5 4 7 5 2 10 10 6 1 3 1 18 3 24 1 9 1 1 2 7 3 1 4 6 1 1 1 8 6 10 2 2 13 58",
        "5 15 1 10 39 2 1 1 1 5 1 24 1 1 1 23 2 5 1 1 1 7 1 10 2 4 32 1 23 2 6 10 11 1 1 1 1 1 4 10",
        "1 36 4 20 1 18 1 36 9 1 57 74 6 78 2 38 1 1 5 1 2 43 1 333 1 4 2 7 1 1 1 4 2 41 1 4 2 33",
        "1 4 2 7 1 1 1 4 2 15 1 57 1 4 2 67 2 3 9 9 14 16 16 86 2 6 3 620 2 17 1 26 5 75 3 11 7 22",
        "9 22 11 20 12 13 1 3 1 2 12 84 3 1 4 2 2 10 33 3 1 11 6 89 7 43 5 70 10 31 1 12 4 12 10 40",
        "2 5 11 44 4 26 6 11 37 28 4 63 1 29 2 11 6 10 13 1 8 14 1 16 49 77 3 10 17 9 12 116 12 56",
        "8 10 3 49 2 11 5 43 2 3 16 3 1 39 5 534 2 6 2 38 2 6 2 8 1 1 1 1 1 1 1 31 2 53 1 7 1 1 3 3",
        "1 7 3 4 2 6 4 13 5 3 1 7 15 2 49 2 19 1 28 1 13 1 16 13 51 13 4 1 3 12 17 1 4 1 2 10 1 1",
        "2 6 6 1 1 1 1 1 1 16 2 4 5 5 4 1 17 41 2679 229 6 9 12 38 1 1 5 1 2 56 7 1 15 24 9 7 1 7",
        "1 7 1 7 1 7 1 7 1 7 1 7 1 32 517 3 25 15 1 5 2 5 4 86 2 2 2 3 1 95 5 43 1 94 17 32 48 16",
        "512 6592 64 22157 67 46 2 269 3 28 20 48 4 10 1 115 37 9 2 103 2 67 2 2 1 1 1 8 21 54 4 1",
        "19 52 12 70 10 10 6 24 3 1 1 49 2 36 12 29 3 65 14 11 6 31 1 55 9 14 2 10 6 23 3 73 24 3",
        "2 16 2 5 10 6 2 6 2 6 9 7 1 7 1 43 1 14 6 123 1 2 2 10 6 11172 12 23 4 49 8452 366 2 106",
        "38 7 12 5 5 12 1 13 1 5 1 1 1 2 1 2 1 108 33 139 6 218 18 64 2 54 40 10 6 16 16 16 3 2",
        "24 3 33 1 1 1 3 1 1 1 1 1 1 1 1 126 19 10 7 26 4 1 1 26 10 90 3 6 2 6 2 6 2 3 35 12 1 26",
        "1 19 1 2 1 15 2 14 34 123 69 53 136 1 130 29 3 49 15 1 31 32 13 30 5 43 5 30 2 36 4 8 1 5",
        "42 158 2 10 6 36 4 36 4 40 8 52 12 11 1 15 1 7 1 2 1 11 1 15 1 7 1 2 3 52 12 311 9 22 10 8",
        "24 6 1 42 1 9 69 6 2 1 1 44 1 2 3 1 2 23 10 23 9 31 65 19 1 2 10 22 10 26 70 56 6 2 64 4",
        "1 2 5 8 1 3 1 29 2 3 4 1 32 29 3 29 35 8 1 30 25 54 10 22 10 19 13 18 110 73 55 51 13 51",
        "13 40 8 10 6 38 3 5 1 23 250 42 1 2 3 2 16 3 55 33 10 1 8 33 31 22 42 21 27 23 9 71 31 16",
        "9 60 7 1 13 25 7 10 6 53 1 10 4 4 8 36 2 1 9 69 4 4 1 13 1 1 35 18 1 37 6 4 62 7 1 1 1 4",
        "1 15 1 10 7 59 5 10 6 4 1 8 2 2 2 22 1 7 1 2 1 5 1 10 2 2 2 3 2 1 6 1 5 7 2 7 3 5 11 10",
        "1 1 2 1 1 38 1 10 1 1 2 1 1 4 1 8 13 2 29 75 5 10 4 4 30 70 1 1 8 10 166 54 2 9 23 6 34 65",
        "3 1 11 10 38 57 7 10 6 20 28 27 2 15 4 10 6 7 185 59 101 74 21 8 2 1 2 8 1 2 1 30 1 2 2 9",
        "12 10 70 8 2 46 2 8 1 2 27 63 8 1 8 74 3 1 18 73 199 33 15 10 6 9 1 45 1 9 15 10 24 30",
        "2 22 1 14 73 7 1 2 1 44 3 1 1 2 1 9 8 10 6 6 1 2 1 37 1 2 1 6 7 10 310 23 9 17 1 41 3 5",
        "13 11 85 1 79 922 102 111 17 196 2636 97 15 1072 16 22 10 3995 5 583 6841 58 1734 569 7 31",
        "1 10 6 79 1 10 6 30 2 5 11 55 9 4 12 10 9 21 5 19 432 45 3 10 198 64 128 75 4 57 7 17 64 2",
        "1 2 11 2 14 6136 8 1238 41 10 8935 4 1 7 1 2 1 291 15 1 29 3 2 1 14 4 8 396 2308 107 5 13",
        "3 9 7 10 3 2 4177 10 518 46 2 23 542 5 3 6 8 8 2 7 30 4 148 3 443 85 1 71 1 2 2 1 2 2 2 4",
        "1 12 1 1 1 7 1 65 1 4 2 8 1 7 1 28 1 4 1 5 1 1 3 7 1 340 2 25 1 25 1 31 1 25 1 31 1 25",
        "1 31 1 25 1 31 1 25 1 8 2 50 512 55 4 50 8 1 14 1 22 5 1 15 1104 31 6 6 213 7 1 17 2 7 1 2",
        "1 5 5 62 33 1 112 45 3 14 2 10 4 1 321 31 17 58 470 42 214 43 485 7 1 4 1 2 1 15 1 197",
        "11 7 41 76 4 10 1190 4 1 27 1 2 1 1 2 1 1 10 1 4 1 1 1 1 6 1 4 1 1 1 1 1 1 3 1 2 1 1 2 1",
        "1 1 1 1 1 1 1 1 1 2 1 1 2 4 1 7 1 4 1 4 1 1 1 10 1 17 5 3 1 5 1 17 3380 10 1030 42720",
        "32 4154 6 222 2 5762 14 7473 15 622 2466 542 1506 4939 5 4192 712016 240" ]⟩,
    ⟨["XID_Start", "xids"],
      [ "65 26 6 26 47 1 10 1 4 1 5 23 1 31 1 458 4 12 14 5 7 1 1 1 129 5 1 2 3 3 1 1 6 1 1 3 1 1",
        "1 20 1 83 1 139 8 166 1 38 2 1 6 41 71 27 4 4 45 43 35 2 1 99 1 1 15 2 7 2 10 3 2 1 16 1",
        "1 30 29 89 11 1 24 33 9 2 4 1 5 22 4 1 9 1 3 1 23 25 7 11 5 24 1 6 17 42 58 54 3 1 18 1",
        "7 10 15 16 4 8 2 2 2 22 1 7 1 1 3 4 3 1 16 1 13 2 1 3 14 2 10 1 8 6 4 2 2 22 1 7 1 2 1 2",
        "1 2 31 4 1 1 19 3 16 9 1 3 1 22 1 7 1 2 1 5 3 1 18 1 15 2 23 1 11 8 2 2 2 22 1 7 1 2 1 5",
        "3 1 30 2 1 3 15 1 17 1 1 6 3 3 1 4 3 2 1 1 1 2 3 2 3 3 3 12 22 1 52 8 1 3 1 23 1 16 3 1",
        "26 3 2 1 2 2 30 1 4 8 1 3 1 23 1 10 1 5 3 1 31 2 1 2 15 2 17 9 1 3 1 41 2 1 16 1 5 3 8 3",
        "24 6 5 18 3 24 1 9 1 1 2 7 58 48 1 1 13 7 58 2 1 1 1 5 1 24 1 1 1 10 1 1 10 1 2 5 1 1 21 4",
        "32 1 63 8 1 36 27 5 115 43 20 1 16 6 4 4 3 1 3 2 7 3 4 13 12 1 17 38 1 1 5 1 2 43 1 333",
        "1 4 2 7 1 1 1 4 2 41 1 4 2 33 1 4 2 7 1 1 1 4 2 15 1 57 1 4 2 67 37 16 16 86 2 6 3 620",
        "2 17 1 26 5 75 3 11 7 18 13 19 14 18 14 13 1 3 15 52 35 1 4 1 67 89 7 41 1 1 5 70 10 31",
        "49 30 2 5 11 44 4 26 54 23 9 53 82 1 93 47 17 8 54 30 13 2 10 44 26 36 41 3 10 36 2 11",
        "5 43 2 3 41 4 1 6 1 2 3 1 5 192 64 278 2 6 2 38 2 6 2 8 1 1 1 1 1 1 1 31 2 53 1 7 1 1 3 3",
        "1 7 3 4 2 6 4 13 5 3 1 7 116 1 13 1 16 13 101 1 4 1 2 10 1 1 2 6 6 1 1 1 1 1 1 16 2 4 5 5",
        "4 1 17 41 2679 229 6 4 3 2 12 38 1 1 5 1 2 56 7 1 16 23 9 7 1 7 1 7 1 7 1 7 1 7 1 7 1 7",
        "550 3 25 9 7 5 2 5 4 86 6 3 1 90 1 4 5 43 1 94 17 32 48 16 512 6592 64 22157 67 46 2 269",
        "3 16 10 2 20 47 16 31 2 80 39 9 2 103 2 67 2 2 1 1 1 8 21 16 1 3 1 4 1 23 29 52 14 50 62 6",
        "3 1 1 2 11 28 10 23 25 29 7 47 28 1 16 5 1 10 10 5 1 41 23 3 1 8 20 23 3 1 3 50 1 1 3 2",
        "2 5 2 1 1 1 24 3 2 11 7 3 12 6 2 6 2 6 9 7 1 7 1 43 1 14 6 115 29 11172 12 23 4 49",
        "8452 366 2 106 38 7 12 5 5 1 1 10 1 13 1 5 1 1 1 2 1 2 1 108 33 139 6 218 18 64 2 54 40 10",
        "119 1 1 1 3 1 1 1 1 1 1 1 1 126 36 26 6 26 11 56 2 31 3 6 2 6 2 6 2 3 35 12 1 26 1 19 1 2",
        "1 15 2 14 34 123 69 53 267 29 3 49 47 32 13 30 5 38 10 30 2 36 4 8 1 5 42 158 18 36 4 36",
        "4 40 8 52 12 11 1 15 1 7 1 2 1 11 1 15 1 7 1 2 3 52 12 311 9 22 10 8 24 6 1 42 1 9 69 6",
        "2 1 1 44 1 2 3 1 2 23 10 23 9 31 65 19 1 2 10 22 10 26 70 56 6 2 64 1 15 4 1 3 1 29 42 29",
        "3 29 35 8 1 28 27 54 10 22 10 19 13 18 110 73 55 51 13 51 13 36 38 28 9 23 250 42 6 2 16 3",
        "59 29 10 1 8 22 42 18 46 21 27 23 12 53 57 2 2 1 13 45 32 25 26 36 29 1 2 1 8 35 3 1 12 48",
        "14 4 21 1 1 1 35 18 1 25 19 2 63 7 1 1 1 4 1 15 1 10 7 47 38 8 2 2 2 22 1 7 1 2 1 5 3 1",
        "18 1 12 5 30 10 1 1 2 1 1 38 1 1 25 1 1 1 44 53 18 4 20 3 30 48 20 2 1 1 184 47 41 4 36 48",
        "20 1 59 43 13 1 71 27 37 7 185 44 116 64 31 8 2 1 2 8 1 2 1 24 15 1 1 1 94 8 2 39 16 1 1 1",
        "28 1 10 40 7 1 21 1 11 46 19 1 18 73 199 33 31 9 1 37 17 1 49 30 112 7 1 2 1 38 21 1 25 6",
        "1 2 1 32 14 1 327 19 15 1 1 13 1 34 124 1 79 922 102 111 17 196 2636 97 15 1072 17 6",
        "25 3995 5 583 6841 30 1762 569 7 31 17 79 17 30 18 48 16 4 31 21 5 19 432 45 211 64 128 75",
        "5 1 66 13 64 2 1 1 28 6136 8 1238 41 10 8935 4 1 7 1 2 1 291 15 1 29 3 2 1 14 4 8 396",
        "2308 107 5 13 3 9 7 10 5990 85 1 71 1 2 2 1 2 2 2 4 1 12 1 1 1 7 1 65 1 4 2 8 1 7 1 28 1 4",
        "1 5 1 1 3 7 1 340 2 25 1 25 1 31 1 25 1 31 1 25 1 31 1 25 1 31 1 25 1 8 1844 31 6 6 261 62",
        "146 45 10 7 16 1 321 30 18 44 484 28 228 30 2 1 495 7 1 4 1 2 1 15 1 197 59 68 7 1 1204 4",
        "1 27 1 2 1 1 2 1 1 10 1 4 1 1 1 1 6 1 4 1 1 1 1 1 1 3 1 2 1 1 2 1 1 1 1 1 1 1 1 1 1 2 1 1",
        "2 4 1 7 1 4 1 4 1 1 1 10 1 17 5 3 1 5 1 17 4420 42720 32 4154 6 222 2 5762 14 7473 15 622",
        "2466 542 1506 4939 5 4192" ]⟩ ]

end GraphPattern.Unicode
