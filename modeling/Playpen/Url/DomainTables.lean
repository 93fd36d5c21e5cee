/-!
# Classes of characters in domains

Each class is written as the gaps between its edges, in hexadecimal.
-/

namespace Playpen.Url.DomainTables

/-- Characters beyond ASCII that no domain holds. -/
def disallowed : String := "
  80 20 2d8 2 6 4 7 1 1 1 14 1 18d 1 26 2 32 2 3 1 37 8 1b 4 6 11 16 1 c0 1 30 2 3b 2 65 e 3b 2 31 2 f 1 1c 2 1 1 b
  5 20 7 4b 1 a1 1 8 2 2 2 16 1 7 1 1 3 4 2 9 2 2 2 4 8 1 4 2 1 5 2 19 2 3 1 6 4 2 2 16 1 7 1 2 1 2 1 2 2 1 1 5 4 2
  2 3 3 1 7 4 1 1 7 11 a 3 1 9 1 3 1 16 1 7 1 2 1 5 2 a 1 3 1 3 2 1 f 4 2 c 7 7 1 3 1 8 2 2 2 16 1 7 1 2 1 5 2 9 2 2
  2 3 7 3 4 2 1 5 2 12 a 2 1 6 3 3 1 4 3 2 1 1 1 2 3 2 3 3 3 c 4 5 3 3 1 4 2 1 6 1 e 15 5 d 1 3 1 17 1 10 2 9 1 3 1
  4 7 2 1 3 1 2 2 4 2 a 7 16 1 3 1 17 1 a 1 5 2 9 1 3 1 4 7 2 5 3 1 4 2 a 1 3 c d 1 3 1 33 1 3 1 6 4 10 2 1a 1 3 1
  12 3 18 1 9 1 1 2 7 3 1 4 6 1 1 1 8 6 a 2 3 c 3a 4 1d 25 2 1 1 1 5 1 18 1 1 1 17 2 5 1 1 1 7 1 a 2 4 20 48 1 24 4
  27 1 24 1 f 1 d 25 c6 1 1 5 1 2 179 1 4 2 7 1 1 1 4 2 29 1 4 2 21 1 4 2 7 1 1 1 4 2 f 1 39 1 4 2 43 2 20 3 1a 6 56
  2 6 2 280 1 1c 3 59 7 16 9 18 9 14 c d 1 3 1 2 c 5e 2 a 6 a 6 1a 6 59 7 2b 5 46 a 1f 1 c 4 c 4 1 3 2a 2 5 b 2c 4
  1a 6 b 3 3e 2 41 1 1d 2 b 6 a 6 e 2 2e 2 c 14 4d 1 a6 8 3c 3 f 3 3e 5 2b 2 b 8 2b 5 216 2 6 2 26 2 6 2 8 1 1 1 1 1
  1 1 1f 2 35 1 f 1 e 2 6 1 13 2 3 1 9 1 e 2 14 3 1 7 36 5 8 2 1b 1 d 3 22 e 21 f 8c 4 29a 16 b 15 28 14 6d8 2 17e 5
  2d 1 1 5 1 2 38 7 2 e 18 9 7 1 7 1 7 1 7 1 7 1 7 1 7 1 7 1 7e 22 1a 1 59 c d6 2a 40 1 56 2 67 5 2b 1 5e 1 56 a 2f
  1 1a2 1 4 1 10 1 70b4 3 37 9 15c 14 b8 8 dd 14 3c 3 a 6 38 8 46 8 c 6 74 b 1e 3 4e 1 b 4 21 1 37 9 e 2 a 2 67 18
  1c a 6 2 6 2 6 9 7 1 7 1 3c 4 7e 2 a 6 2ba4 c 17 4 31 2104 16e 2 6a 26 7 c 5 5 1a 1 5 1 1 1 2 1 2 1 28a 20 22 1 6
  7 10 1 21 2 13 1 4 4 5 1 87 2 1 1 be 3 6 2 6 2 6 2 3 3 7 1 7 11 c 1 1a 1 13 1 2 1 f 2 e 22 7b 5 3 4 2d 3 58 1 d 3
  1 2f 2e 82 1d 3 31 f 1c 4 24 9 1e 5 2b 5 1e 1 25 4 e 2a 9e 2 a 6 24 4 24 4 28 8 34 b c 1 f 1 7 1 2 1 b 1 f 1 7 1 2
  3 34 c 137 9 16 a 8 18 6 1 2a 1 9 45 6 2 1 1 2c 1 2 3 1 2 17 1 48 8 9 30 13 1 2 5 21 3 1b 5 1b 26 38 4 14 2 32 1 2
  5 8 1 3 1 1d 2 3 4 a 7 9 7 40 20 27 4 c 9 36 3 1d 2 1b 5 1a 7 4 c 7 50 49 37 33 d 33 7 2e 8 a 6 26 3 1d 8 2 d0 1f
  1 2a 1 3 2 2 10 6 8 9 21 2e 8 2a 16 1a 26 1c 14 17 9 4e 4 24 9 3e 1 5 d 19 7 a 6 35 1 12 8 27 9 60 1 14 b 12 1 2f
  3e 7 1 1 1 4 1 f 1 b 6 3b 5 a 6 4 1 8 2 2 2 16 1 7 1 2 1 5 1 a 2 2 2 3 2 1 6 1 5 7 2 7 3 5 b a 1 1 2 1 1 26 1 a 1
  1 2 1 1 4 1 a 1 2 8 2 1d 5c 1 5 1e 48 8 a a6 36 2 26 22 45 b a 6 d 13 3a 6 a 6 14 1c 1b 2 f 4 17 b9 3c 64 53 c 8 2
  1 2 8 1 2 1 1e 1 2 2 c 9 a 46 8 2 2e 2 b 1b 48 8 53 d 49 7 a 56 8 58 22 e a 6 9 1 2d 1 e a 1d 3 20 2 16 1 e 49 7 1
  2 1 2c 3 1 1 2 1 9 8 a 6 6 1 2 1 25 1 2 1 6 7 a 6 2c 4 a f6 19 7 11 1 29 3 1d 55 1 f 32 d 39b 66 6f 1 5 b c4 a4c
  63 d 430 10 16 a f9b 5 247 1ab9 3a 6c6 239 7 1f 1 a 4 51 1 a 6 1e 2 6 a 46 a a 1 7 1 15 5 13 1b0 3a c6 5b 5 19 2
  19 2c 4b 4 39 7 11 40 5 b 7 9 1cd6 29 20 61 73 21fd 4 1 7 1 2 1 123 f 1 1d 3 2 1 e 4 8 18c 904 6b 5 d 3 9 7 a 2 8
  f5c fd 3 1b4 6 17 f 11 f 2e 2 17 9 74 3c f6 a 27 2 c2 15 46 7a 14 c 14 c 57 9 19 87 55 1 47 1 2 2 1 2 2 2 4 1 c 1
  1 1 7 1 41 1 4 2 8 1 7 1 1c 1 4 1 5 1 1 3 7 1 154 2 124 2 2be f 5 1 f 450 1f 6 6 d5 7 1 11 2 7 1 2 1 5 5 3e 21 1
  70 2d 3 e 2 a 4 2 140 1f 11 3a 5 1 1d0 2a d6 2b 4 1 c0 1f 1 16 8 2 e0 7 1 4 1 2 1 f 1 c5 2 10 29 4c 4 a 4 2 311 44
  4c 3d c2 4 1 1b 1 2 1 1 2 1 1 a 1 4 1 1 1 1 6 1 4 1 1 1 1 1 1 3 1 2 1 1 2 1 1 1 1 1 1 1 1 1 1 2 1 1 2 4 1 7 1 4 1
  4 1 1 1 a 1 11 5 3 1 5 1 11 34 2 10e 2c 4 64 c f 2 f 1 f 1 25 b ad 38 1d d 2c 4 9 7 2 e 6 9a 3d9 3 11 3 d 3 da 6 c
  4 1 f c 4 38 8 a 6 28 8 1e 2 c 4 2 e 9 27 158 8 e 2 d 3 b 3 39 1 1 4 10 2 c 4 a 7 93 1 67 405 a6e0 20 111e 2 168e
  2 1d31 f 26e 9a2 21e 5e2 134b 5 212a acc86 f0"

/-- Characters that vanish from domains. -/
def ignored : String := "
  ad 1 2a1 1 e0f 2 653 2 55 5 7fb 1 54 5 5 6 10f4 1 cc9b 10 ef 1 a0 1 bcff 4 14cf 8 c2f85 f0"

/-- Letters that are written from right to left. -/
def rightToLeft : String := "
  590 1 2d 1 1 1 2 1 2 1 1 38 8 1 2 1 1 1 d 30 22 3 1 65 f 2 7 2 a 17 1 1e 1b 5b b 3a 9 2 4 3 1 18 4 1 9 1 3 1 5 2b
  3 34 2 6 8 2a 1745 1 db0d 1 1 a 1 214 12 7f 21 d 73 8f 901 11f 1 e1 3 1 2 5 4 28 3 4 1 a5 2 52 7 1e4 4 8 a 126 1f
  2c 2 50 3 46 b 31 4 7a d800 d0 7 6d 7 5a5 2 10e"

/-- Digits that go with Arabic letters. -/
def arabicNumber : String := "
  600 6 5a a 1 2 70 1 1b2 2 50 1 1044d a 126 1f"

/-- Digits of European numbers. -/
def europeanNumber : String := "
  30 a 78 2 5 1 636 a 1976 1 3 6 6 a 3fe 14 da74 a 3c7 1b d4d2 32 1900 b ae5 a"

/-- Characters that take their direction from what stands around them: separators and signs of numbers, and other neutrals. -/
def neutral : String := "
  0 9 5 e 5 f a 7 1a 6 1a a 1 24 1 7 2 1 1 3 2 5 17 1 1f 1 1c1 2 7 e 2 e 5 9 1 11 74 2 8 1 5 2 1 1 6e 1 193 1 2 3 76
  2 1 2 1 1 1 2 5a 1 73 1 a 1 10c 4 1f8 2 7 1 f5 1 101 8 7d 7 1c0 1 fa 4 452 a 66 1 29a 2 13e 1 14 a 6 b 3 1 131 1 3
  2 98 22 5bd 1 1 3 b 3 d 3 d 3 d 2 c 3 2 18 7 30 1 6 4 6 a 5 b 5 11 30 30 2 1 4 1 2 a 1 1 3 5 6 1 1 1 1 1 1 4 1 b 2
  4 5 5 4 2 10 29 3 4 1a6 45 1a 1 91 19 b 15 28 62 1c2 1 153 100 274 2 20 1 69 e5 6 e 7 100 5e 22 1a 1 59 c d6 1a c
  5 4 3 19 f 1 5 2 5 3 5b 2 3 1 5a 1 c4 24 39 2 31 10 1c 3 32 f c 4 a7 4 63 2 1f 1 19c0 40 5690 37 146 3 63 1 a 2 80
  22 66 1 9f 4 c 2 3a 4 2f2 2 4fbd 1 214 12 7f 21 d 3 10 a 16 23 1 13 1 4 93 1 1 f a 7 1a 6 1a b 7a 7 1 7 1 10 101 1
  3e 4d 3 d 3 1 77e 1 219 7 512 14 5fa d 968 1d 4ff0 1 4cbd 4 14cf 8 6e 2 15 42 3 1 ba 57 384 1 39 1 39 1 39 1 39 1
  b3b 1 bf0 2 10e 2c 4 64 c f 2 f 1 f 1 25 15 5 1f 1 3a 6 3d 1 b2 6 9a 3d8 4 11 3 d 3 77 4 5f 6 c 4 1 f c 4 38 8 a 6
  28 8 1e 2 2 4e 154 c e 2 d 3 9 7 2e 1 7 8 e 4 9 7 9 7 93 1 37 433 2 fffe 2 fffe 2 fffe 2 fffe 2 fffe 2 fffe 2 fffe
  2 fffe 2 fffe 2 fffe 2 fffe 2 fffe 102 f0 e10 effe 2 fffe 2 fffe 2"

/-- Marks without a width of their own. -/
def nonspacing : String := "
  300 70 113 7 107 2d 1 1 1 2 1 2 1 1 48 b 30 15 10 1 65 7 2 6 2 2 1 4 23 1 1e 1b 5b b 3a 9 9 1 18 4 1 9 1 3 1 5 2b
  3 3c 8 2a 18 1 20 37 1 1 1 4 8 4 1 3 7 a 2 1d 1 3a 1 4 4 8 1 14 2 1a 1 2 2 39 1 4 2 4 2 2 3 3 1 1e 2 3 1 b 2 39 1
  4 5 1 2 4 1 14 2 16 6 1 1 3a 1 2 1 1 4 8 1 7 2 b 2 1e 1 3d 1 c 1 32 1 3 1 37 1 1 3 5 3 1 4 7 2 b 2 1d 1 3a 1 f 2
  14 2 1c 2 39 2 4 4 8 1 14 2 1d 1 48 1 7 3 1 1 5a 1 2 7 c 8 62 1 2 9 b 7 49 2 1b 1 1 1 1 1 37 e 1 5 1 2 5 b 1 24 9
  1 66 4 1 6 1 2 2 2 19 2 4 3 10 4 d 1 2 2 6 1 f 1 2bf 3 3b2 3 1d 2 1e 2 1e 2 40 2 1 7 8 1 2 b 9 1 2d 3 1 1 75 2 22
  1 76 3 4 2 9 1 6 3 db 2 2 1 3a 1 1 7 1 1 1 1 2 8 6 a 2 1 30 1f 31 4 30 1 1 5 1 1 5 1 28 9 c 2 20 4 2 2 1 3 38 1 1
  2 3 1 1 3 3a 8 2 2 98 3 1 d 1 7 4 1 6 1 3 2 c6 40 2d0 21 bfe 3 8d 1 60 20 22a 4 6b 2 75d4 4 1 a 20 2 50 2 110 1 3
  1 4 1 19 2 5 1 97 2 1a 12 d 1 26 8 19 b 2e 3 30 1 2 4 2 2 27 1 43 6 2 2 2 2 c 1 8 1 2f 1 33 1 1 3 2 2 5 2 1 1 2a 2
  8 1 ee 1 2 1 4 1 4f30 1 2e1 10 10 10 3cd 1 e2 1 95 5 686 3 1 2 5 4 28 3 4 1 a5 2 23d 4 183 2 50 3 46 b 31 4 7b 1
  36 f 29 1 2 2 a 3 31 4 2 2 7 1 3d 3 24 5 1 8 3e 1 c 2 34 9 a 4 2 1 5f 3 2 1 1 2 6 1 2 1 9d 1 3 8 15 2 39 2 3 1 25
  7 3 5 c3 8 2 3 1 1 17 1 54 6 1 1 4 2 1 2 ee 4 6 2 1 2 1b 2 55 8 2 1 1 2 6a 1 1 1 2 6 1 1 65 3 2 4 1 5 103 9 1 2
  100 2 1 1 4 1 90 4 2 2 4 1 20 6 2 2 28 6 2 4 8 1 9 6 2 3 2e d 1 2 196 7 1 6 54 16 2 7 1 2 1 2 7a 6 3 1 1 2 1 7 1 1
  48 2 3 1 1 1 15b 2 b 2 34 5 5 1 1 1 14fd 1 6 f 369a 5 3b 7 418 1 3f 4 51 1 4cb8 2 1261 2e 2 17 220 3 11 8 2 7 1e 4
  94 3 7bb 37 4 32 8 1 e 1 16 5 1 f 550 7 1 11 2 7 1 2 1 5 64 1 a0 7 177 1 3d 4 1fc 4 3e0 7 6d 7 c17b5 f0"

/-- Letters that join with the letter after them. -/
def joinsRight : String := "
  620 1 5 1 1 1 1 5 4 d 1 7 1 2 23 2 8 10 12 26 1 2 9 1 1 1 1 2 28 3 2 1 12 3 5 4 1 9 1 1 1 1 1 2 1f b 3 f 2 4 1 1 2
  3 2 6 4a 21 56 5 2 1 1 a 1 1 a 1 1 4 2 1 1d 1 2 5 12 a 5 2 2 6 1 f f3e 1 18 59 e 22 1 1 8f95 33 624d 5 8 1 5 a 1 3
  a 4 91 1 1 1 3 3 1 2 1 1 2 1 1c 2 151 22 1 1 20c 3 1 11 c 3 1c 4 2 c 2e 1 1 2 4 1 2 2 1 2 1 1 2 1 5 2 d934 44"

/-- Letters that join with the letter before them. -/
def joinsLeft : String := "
  620 1 1 1e 1 a 23 2 1 3 1 5f 1 1 18 2 a 3 2 1 10 1 1 1e 1d 33 4a 21 55 19 7 1 1 4 1 4 5 13 3 1 2 6 11 d 1 1b f3e 1
  18 59 e 22 1 1 8f95 32 624e 6 1 1 1 2 3 9 1 a 2 1 6 5 90 12 17 6 152 23 20c 15 c 4 1b 12 2e 1 1 5 1 8 1 4 4 2 d935
  44"

/-- Characters that letters join across. -/
def transparent : String := "
  ad 1 252 70 113 7 107 2d 1 1 1 2 1 2 1 1 48 b 1 1 2e 15 10 1 65 7 2 6 2 2 1 4 21 1 1 1 1e 1b 5b b 3a 9 9 1 18 4 1
  9 1 3 1 5 2b 3 3c 8 2a 18 1 20 37 1 1 1 4 8 4 1 3 7 a 2 1d 1 3a 1 4 4 8 1 14 2 1a 1 2 2 39 1 4 2 4 2 2 3 3 1 1e 2
  3 1 b 2 39 1 4 5 1 2 4 1 14 2 16 6 1 1 3a 1 2 1 1 4 8 1 7 2 b 2 1e 1 3d 1 c 1 32 1 3 1 37 1 1 3 5 3 1 4 7 2 b 2 1d
  1 3a 1 2 1 6 1 5 2 14 2 1c 2 39 2 4 4 8 1 14 2 1d 1 48 1 7 3 1 1 5a 1 2 7 c 8 62 1 2 9 b 7 49 2 1b 1 1 1 1 1 37 e
  1 5 1 2 5 b 1 24 9 1 66 4 1 6 1 2 2 2 19 2 4 3 10 4 d 1 2 2 6 1 f 1 2bf 3 3b2 3 1d 2 1e 2 1e 2 40 2 1 7 8 1 2 b 9
  1 2d 3 1 1 75 2 22 1 76 3 4 2 9 1 6 3 db 2 2 1 3a 1 1 7 1 1 1 1 2 8 6 a 2 1 30 1f 31 4 30 1 1 5 1 1 5 1 28 9 c 2
  20 4 2 2 1 3 38 1 1 2 3 1 1 3 3a 8 2 2 98 3 1 d 1 7 4 1 6 1 3 2 c6 40 20b 1 2 2 1a 5 31 5 5 6 60 21 bfe 3 8d 1 60
  20 22a 4 6b 2 75d4 4 1 a 20 2 50 2 110 1 3 1 4 1 19 2 5 1 97 2 1a 12 d 1 26 8 19 b 2e 3 30 1 2 4 2 2 27 1 43 6 2 2
  2 2 c 1 8 1 2f 1 33 1 1 3 2 2 5 2 1 1 2a 2 8 1 ee 1 2 1 4 1 4f30 1 2e1 10 10 10 cf 1 f9 3 201 1 e2 1 95 5 686 3 1
  2 5 4 28 3 4 1 a5 2 23d 4 183 2 50 3 46 b 31 4 7b 1 36 f 29 1 2 2 a 3 31 4 2 2 7 1 3d 3 24 5 1 8 3e 1 c 2 34 9 a 4
  2 1 5f 3 2 1 1 2 6 1 2 1 9d 1 3 8 15 2 39 2 3 1 25 7 3 5 c3 8 2 3 1 1 17 1 54 6 1 1 4 2 1 2 ee 4 6 2 1 2 1b 2 55 8
  2 1 1 2 6a 1 1 1 2 6 1 1 65 3 2 4 1 5 103 9 1 2 100 2 1 1 4 1 90 4 2 2 4 1 20 a 28 6 2 4 8 1 9 6 2 3 2e d 1 2 196
  7 1 6 1 1 52 16 2 7 1 2 1 2 7a 6 3 1 1 2 1 7 1 1 48 2 3 1 1 1 15b 2 b 2 34 5 5 1 1 1 14ed 11 6 f 369a 5 3b 7 418 1
  3f 4 51 1 4cb8 2 1 4 125c 2e 2 17 220 3 9 10 2 7 1e 4 94 3 7bb 37 4 32 8 1 e 1 16 5 1 f 550 7 1 11 2 7 1 2 1 5 64
  1 a0 7 177 1 3d 4 1fc 4 3e0 7 6d 8 c16b5 1 1e 60 80 f0"

/-- Marks, which no label begins with. -/
def mark : String := "
  300 70 113 7 107 2d 1 1 1 2 1 2 1 1 48 b 30 15 10 1 65 7 2 6 2 2 1 4 23 1 1e 1b 5b b 3a 9 9 1 18 4 1 9 1 3 1 5 2b
  3 3c 8 2a 18 1 21 36 3 1 12 1 7 a 2 1d 3 38 1 1 7 2 2 2 3 9 1 a 2 1a 1 2 3 38 1 1 5 4 2 2 3 3 1 1e 2 3 1 b 3 38 1
  1 8 1 3 1 3 14 2 16 6 1 3 38 1 1 7 2 2 2 3 7 3 a 2 1e 1 3b 5 3 3 1 4 9 1 28 5 37 1 1 7 1 3 1 4 7 2 b 2 1d 3 38 1 1
  7 1 3 1 4 7 2 b 2 f 1 c 4 37 2 1 7 1 3 1 4 9 1 a 2 1d 3 46 1 4 6 1 1 1 8 12 2 3d 1 2 7 c 8 62 1 2 9 b 7 49 2 1b 1
  1 1 1 1 4 2 31 14 1 2 5 b 1 24 9 1 64 14 17 4 4 3 1 3 2 7 3 4 d c 1 1 a 4 2bf 3 3b2 4 1c 3 1d 2 1e 2 40 20 9 1 2d
  3 1 1 75 2 22 1 76 c 4 c db 5 39 a 1 1d 2 1 30 1f 31 5 2f 11 26 9 c 3 1e d 38 e 30 14 98 3 1 15 4 1 6 1 2 3 c6 40
  2d0 21 bfe 3 8d 1 60 20 22a 6 69 2 75d4 4 1 a 20 2 50 2 110 1 3 1 4 1 17 5 4 1 53 2 32 12 1a 12 d 1 26 8 19 d 2c 4
  2f e 24 1 43 e c 1 8 2 2d 3 32 1 1 3 2 2 5 2 1 1 29 5 5 2 ec 8 1 2 4f30 1 2e1 10 10 10 3cd 1 e2 1 95 5 686 3 1 2 5
  4 28 3 4 1 a5 2 23d 4 183 2 50 3 46 b 31 4 7a 3 35 f 29 1 2 2 a 4 2d b 7 1 3d 3 24 e 10 2 2c 1 c 3 30 e 8 4 1 2 5c
  c 6 1 2 1 9d c 15 4 37 2 1 7 2 2 2 3 9 1 a 2 2 7 3 5 c0 12 17 1 51 14 eb 7 2 9 1b 2 52 11 6a d 65 f 100 f f5 6 1 2
  2 4 1 1 1 2 8d 7 2 7 3 1 1c a 28 7 1 4 8 1 9 b 2e 10 195 8 1 8 52 16 1 e 7a 6 3 1 1 2 1 7 1 1 42 5 1 2 1 5 15b 4 9
  2 1 1 30 7 3 5 14fd 1 6 f 369a 5 3b 7 418 1 1 37 7 4 51 1 b 2 4cab 2 1261 2e 2 17 21e 5 3 6 8 8 2 7 1e 4 94 3 7bb
  37 4 32 8 1 e 1 16 5 1 f 550 7 1 11 2 7 1 2 1 5 64 1 a0 7 177 1 3d 4 1fc 4 3e0 7 6d 7 c17b5 f0"

end Playpen.Url.DomainTables
