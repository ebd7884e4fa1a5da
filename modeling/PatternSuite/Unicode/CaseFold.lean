import PatternSuite.Unicode.CharSet

/-!
# Simple case folding

Two characters are case variants when simple case folding takes them to one character. The
variants form small classes; most have two members, `k` has three.

* `caseClasses`: the classes with more than one member.
* `CharSet.closeUnderCase`: adds the case variants of every member.
* `CharSet.closeUnderAsciiCase`: the same for the letters `A` to `Z` and `a` to `z` alone.
-/

namespace PatternSuite.Unicode

/-- The classes: for each its least member, counted from the least member of the class before,
then the steps to the following members, then a zero. -/
def caseClassRows : List String := [
  "41 20 0 1 20 0 1 20 0 1 20 0 1 20 0 1 20 0 1 20 0 1 20 0 1 20 0 1 20 0 1 20 20bf 0 1 20 0 1",
  "20 0 1 20 0 1 20 0 1 20 0 1 20 0 1 20 0 1 20 10c 0 1 20 0 1 20 0 1 20 0 1 20 0 1 20 0 1 20 0",
  "1 20 0 5b 2e7 20 0 b 20 0 1 20 0 1 20 0 1 20 0 1 20 0 1 20 2046 0 1 20 0 1 20 0 1 20 0 1 20",
  "0 1 20 0 1 20 0 1 20 0 1 20 0 1 20 0 1 20 0 1 20 0 1 20 0 1 20 0 1 20 0 1 20 0 1 20 0 1 20 0",
  "2 20 0 1 20 0 1 20 0 1 20 0 1 20 0 1 20 0 1 20 0 1 1dbf 0 20 79 0 1 1 0 2 1 0 2 1 0 2 1 0 2",
  "1 0 2 1 0 2 1 0 2 1 0 2 1 0 2 1 0 2 1 0 2 1 0 2 1 0 2 1 0 2 1 0 2 1 0 2 1 0 2 1 0 2 1 0 2 1",
  "0 2 1 0 2 1 0 2 1 0 2 1 0 4 1 0 2 1 0 2 1 0 3 1 0 2 1 0 2 1 0 2 1 0 2 1 0 2 1 0 2 1 0 2 1 0",
  "3 1 0 2 1 0 2 1 0 2 1 0 2 1 0 2 1 0 2 1 0 2 1 0 2 1 0 2 1 0 2 1 0 2 1 0 2 1 0 2 1 0 2 1 0 2",
  "1 0 2 1 0 2 1 0 2 1 0 2 1 0 2 1 0 2 1 0 2 1 0 3 1 0 2 1 0 2 1 0 3 c3 0 1 d2 0 1 1 0 2 1 0 2",
  "ce 0 1 1 0 2 cd 0 1 cd 0 1 1 0 3 4f 0 1 ca 0 1 cb 0 1 1 0 2 cd 0 1 cf 0 1 61 0 1 d3 0 1 d1 0",
  "1 1 0 2 a3 0 2 d3 0 1 d5 0 1 82 0 1 d6 0 1 1 0 2 1 0 2 1 0 2 da 0 1 1 0 2 da 0 3 1 0 2 da 0",
  "1 1 0 2 d9 0 1 d9 0 1 1 0 2 1 0 2 db 0 1 1 0 4 1 0 3 38 0 5 1 1 0 3 1 1 0 3 1 1 0 3 1 0 2 1",
  "0 2 1 0 2 1 0 2 1 0 2 1 0 2 1 0 2 1 0 3 1 0 2 1 0 2 1 0 2 1 0 2 1 0 2 1 0 2 1 0 2 1 0 2 1 0",
  "3 1 1 0 3 1 0 4 1 0 2 1 0 2 1 0 2 1 0 2 1 0 2 1 0 2 1 0 2 1 0 2 1 0 2 1 0 2 1 0 2 1 0 2 1 0",
  "2 1 0 2 1 0 2 1 0 2 1 0 2 1 0 2 1 0 2 1 0 4 1 0 2 1 0 2 1 0 2 1 0 2 1 0 2 1 0 2 1 0 2 1 0 2",
  "1 0 8 2a2b 0 1 1 0 3 2a28 0 1 2a3f 0 1 2a3f 0 1 1 0 3 45 0 1 47 0 1 1 0 2 1 0 2 1 0 2 1 0 2",
  "1 0 2 2a1f 0 1 2a1c 0 1 2a1e 0 a a54f 0 5 a54b 0 4 a528 0 1 a544 0 4 a544 0 1 29f7 0 1 a541",
  "0 5 29fd 0 c 29e7 0 5 a543 0 5 a52a 0 16 a515 0 1 a512 0 a7 54 20 1c05 0 2b 1 0 2 1 0 4 1 0",
  "5 82 0 1 82 0 1 82 0 2 74 0 7 26 0 2 25 0 1 25 0 1 25 0 2 40 0 2 3f 0 1 3f 0 2 20 0 1 20 1e",
  "0 1 20 0 1 20 0 1 20 40 0 1 20 0 1 20 0 1 20 19 23 0 2 20 36 0 1 20 0 2 20 0 1 20 0 1 20 0 1",
  "20 16 0 1 20 30 0 2 1f 1 0 1 20 0 1 20 0 1 20 f 0 1 20 0 1 20 0 1 20 1d5d 0 1 20 0 1 20 0 24",
  "8 0 9 1 0 2 1 0 2 1 0 2 1 0 2 1 0 2 1 0 2 1 0 2 1 0 2 1 0 2 1 0 2 1 0 2 1 0 4 7 0 5 1 0 3 1",
  "0 6 50 0 1 50 0 1 50 0 1 50 0 1 50 0 1 50 0 1 50 0 1 50 0 1 50 0 1 50 0 1 50 0 1 50 0 1 50 0",
  "1 50 0 1 50 0 1 50 0 1 20 0 1 20 0 1 20 184e 0 1 20 0 1 20 184d 0 1 20 0 1 20 0 1 20 0 1 20",
  "0 1 20 0 1 20 0 1 20 0 1 20 0 1 20 0 1 20 1844 0 1 20 0 1 20 0 1 20 1842 0 1 20 1842 1 0 1",
  "20 0 1 20 0 1 20 0 1 20 0 1 20 0 1 20 0 1 20 0 1 20 183c 0 1 20 0 1 20 0 1 20 0 1 20 0 1 20",
  "0 31 1 0 2 1 1824 0 2 1 0 2 1 0 2 1 0 2 1 0 2 1 0 2 1 0 2 1 0 2 1 0 2 1 0 2 1 0 2 1 0 2 1 0",
  "2 1 0 2 1 0 2 1 0 a 1 0 2 1 0 2 1 0 2 1 0 2 1 0 2 1 0 2 1 0 2 1 0 2 1 0 2 1 0 2 1 0 2 1 0 2",
  "1 0 2 1 0 2 1 0 2 1 0 2 1 0 2 1 0 2 1 0 2 1 0 2 1 0 2 1 0 2 1 0 2 1 0 2 1 0 2 1 0 2 1 0 2 f",
  "0 1 1 0 2 1 0 2 1 0 2 1 0 2 1 0 2 1 0 2 1 0 3 1 0 2 1 0 2 1 0 2 1 0 2 1 0 2 1 0 2 1 0 2 1 0",
  "2 1 0 2 1 0 2 1 0 2 1 0 2 1 0 2 1 0 2 1 0 2 1 0 2 1 0 2 1 0 2 1 0 2 1 0 2 1 0 2 1 0 2 1 0 2",
  "1 0 2 1 0 2 1 0 2 1 0 2 1 0 2 1 0 2 1 0 2 1 0 2 1 0 2 1 0 2 1 0 2 1 0 2 1 0 2 1 0 2 1 0 2 1",
  "0 2 1 0 2 1 0 2 1 0 2 1 0 2 1 0 2 1 0 2 1 0 2 1 0 2 1 0 3 30 0 1 30 0 1 30 0 1 30 0 1 30 0 1",
  "30 0 1 30 0 1 30 0 1 30 0 1 30 0 1 30 0 1 30 0 1 30 0 1 30 0 1 30 0 1 30 0 1 30 0 1 30 0 1",
  "30 0 1 30 0 1 30 0 1 30 0 1 30 0 1 30 0 1 30 0 1 30 0 1 30 0 1 30 0 1 30 0 1 30 0 1 30 0 1",
  "30 0 1 30 0 1 30 0 1 30 0 1 30 0 1 30 0 1 30 0 b4a 1c60 0 1 1c60 0 1 1c60 0 1 1c60 0 1 1c60",
  "0 1 1c60 0 1 1c60 0 1 1c60 0 1 1c60 0 1 1c60 0 1 1c60 0 1 1c60 0 1 1c60 0 1 1c60 0 1 1c60 0",
  "1 1c60 0 1 1c60 0 1 1c60 0 1 1c60 0 1 1c60 0 1 1c60 0 1 1c60 0 1 1c60 0 1 1c60 0 1 1c60 0 1",
  "1c60 0 1 1c60 0 1 1c60 0 1 1c60 0 1 1c60 0 1 1c60 0 1 1c60 0 1 1c60 0 1 1c60 0 1 1c60 0 1",
  "1c60 0 1 1c60 0 1 1c60 0 2 1c60 0 6 1c60 0 3 bc0 0 1 bc0 0 1 bc0 0 1 bc0 0 1 bc0 0 1 bc0 0 1",
  "bc0 0 1 bc0 0 1 bc0 0 1 bc0 0 1 bc0 0 1 bc0 0 1 bc0 0 1 bc0 0 1 bc0 0 1 bc0 0 1 bc0 0 1 bc0",
  "0 1 bc0 0 1 bc0 0 1 bc0 0 1 bc0 0 1 bc0 0 1 bc0 0 1 bc0 0 1 bc0 0 1 bc0 0 1 bc0 0 1 bc0 0 1",
  "bc0 0 1 bc0 0 1 bc0 0 1 bc0 0 1 bc0 0 1 bc0 0 1 bc0 0 1 bc0 0 1 bc0 0 1 bc0 0 1 bc0 0 1 bc0",
  "0 1 bc0 0 1 bc0 0 3 bc0 0 1 bc0 0 1 bc0 0 2a1 97d0 0 1 97d0 0 1 97d0 0 1 97d0 0 1 97d0 0 1",
  "97d0 0 1 97d0 0 1 97d0 0 1 97d0 0 1 97d0 0 1 97d0 0 1 97d0 0 1 97d0 0 1 97d0 0 1 97d0 0 1",
  "97d0 0 1 97d0 0 1 97d0 0 1 97d0 0 1 97d0 0 1 97d0 0 1 97d0 0 1 97d0 0 1 97d0 0 1 97d0 0 1",
  "97d0 0 1 97d0 0 1 97d0 0 1 97d0 0 1 97d0 0 1 97d0 0 1 97d0 0 1 97d0 0 1 97d0 0 1 97d0 0 1",
  "97d0 0 1 97d0 0 1 97d0 0 1 97d0 0 1 97d0 0 1 97d0 0 1 97d0 0 1 97d0 0 1 97d0 0 1 97d0 0 1",
  "97d0 0 1 97d0 0 1 97d0 0 1 97d0 0 1 97d0 0 1 97d0 0 1 97d0 0 1 97d0 0 1 97d0 0 1 97d0 0 1",
  "97d0 0 1 97d0 0 1 97d0 0 1 97d0 0 1 97d0 0 1 97d0 0 1 97d0 0 1 97d0 0 1 97d0 0 1 97d0 0 1",
  "97d0 0 1 97d0 0 1 97d0 0 1 97d0 0 1 97d0 0 1 97d0 0 1 97d0 0 1 97d0 0 1 97d0 0 1 97d0 0 1",
  "97d0 0 1 97d0 0 1 97d0 0 1 97d0 0 1 97d0 0 1 8 0 1 8 0 1 8 0 1 8 0 1 8 0 1 8 0 893 89c2 1 0",
  "f1 8a04 0 4 ee6 0 11 8a38 0 72 1 0 2 1 0 2 1 0 2 1 0 2 1 0 2 1 0 2 1 0 2 1 0 2 1 0 2 1 0 2 1",
  "0 2 1 0 2 1 0 2 1 0 2 1 0 2 1 0 2 1 0 2 1 0 2 1 0 2 1 0 2 1 0 2 1 0 2 1 0 2 1 0 2 1 0 2 1 0",
  "2 1 0 2 1 0 2 1 0 2 1 0 2 1 0 2 1 0 2 1 0 2 1 0 2 1 0 2 1 0 2 1 0 2 1 0 2 1 0 2 1 0 2 1 0 2",
  "1 0 2 1 0 2 1 0 2 1 0 2 1 0 2 1 0 2 1 0 2 1 3a 0 2 1 0 2 1 0 2 1 0 2 1 0 2 1 0 2 1 0 2 1 0 2",
  "1 0 2 1 0 2 1 0 2 1 0 2 1 0 2 1 0 2 1 0 2 1 0 2 1 0 2 1 0 2 1 0 2 1 0 2 1 0 2 1 0 2 1 0 2 1",
  "0 2 1 0 2 1 0 2 1 0 c 1 0 2 1 0 2 1 0 2 1 0 2 1 0 2 1 0 2 1 0 2 1 0 2 1 0 2 1 0 2 1 0 2 1 0",
  "2 1 0 2 1 0 2 1 0 2 1 0 2 1 0 2 1 0 2 1 0 2 1 0 2 1 0 2 1 0 2 1 0 2 1 0 2 1 0 2 1 0 2 1 0 2",
  "1 0 2 1 0 2 1 0 2 1 0 2 1 0 2 1 0 2 1 0 2 1 0 2 1 0 2 1 0 2 1 0 2 1 0 2 1 0 2 1 0 2 1 0 2 1",
  "0 2 1 0 2 1 0 2 1 0 2 1 0 2 1 0 2 8 0 1 8 0 1 8 0 1 8 0 1 8 0 1 8 0 1 8 0 1 8 0 9 8 0 1 8 0",
  "1 8 0 1 8 0 1 8 0 1 8 0 b 8 0 1 8 0 1 8 0 1 8 0 1 8 0 1 8 0 1 8 0 1 8 0 9 8 0 1 8 0 1 8 0 1",
  "8 0 1 8 0 1 8 0 1 8 0 1 8 0 9 8 0 1 8 0 1 8 0 1 8 0 1 8 0 1 8 0 c 8 0 2 8 0 2 8 0 2 8 0 9 8",
  "0 1 8 0 1 8 0 1 8 0 1 8 0 1 8 0 1 8 0 1 8 0 9 4a 0 1 4a 0 1 56 0 1 56 0 1 56 0 1 56 0 1 64 0",
  "1 64 0 1 80 0 1 80 0 1 70 0 1 70 0 1 7e 0 1 7e 0 3 8 0 1 8 0 1 8 0 1 8 0 1 8 0 1 8 0 1 8 0 1",
  "8 0 9 8 0 1 8 0 1 8 0 1 8 0 1 8 0 1 8 0 1 8 0 1 8 0 9 8 0 1 8 0 1 8 0 1 8 0 1 8 0 1 8 0 1 8",
  "0 1 8 0 9 8 0 1 8 0 2 9 0 10 9 0 d 8 0 1 8 0 f 8 0 1 8 0 4 7 0 e 9 0 13f 1c 0 2e 10 0 1 10 0",
  "1 10 0 1 10 0 1 10 0 1 10 0 1 10 0 1 10 0 1 10 0 1 10 0 1 10 0 1 10 0 1 10 0 1 10 0 1 10 0 1",
  "10 0 14 1 0 333 1a 0 1 1a 0 1 1a 0 1 1a 0 1 1a 0 1 1a 0 1 1a 0 1 1a 0 1 1a 0 1 1a 0 1 1a 0 1",
  "1a 0 1 1a 0 1 1a 0 1 1a 0 1 1a 0 1 1a 0 1 1a 0 1 1a 0 1 1a 0 1 1a 0 1 1a 0 1 1a 0 1 1a 0 1",
  "1a 0 1 1a 0 731 30 0 1 30 0 1 30 0 1 30 0 1 30 0 1 30 0 1 30 0 1 30 0 1 30 0 1 30 0 1 30 0 1",
  "30 0 1 30 0 1 30 0 1 30 0 1 30 0 1 30 0 1 30 0 1 30 0 1 30 0 1 30 0 1 30 0 1 30 0 1 30 0 1",
  "30 0 1 30 0 1 30 0 1 30 0 1 30 0 1 30 0 1 30 0 1 30 0 1 30 0 1 30 0 1 30 0 1 30 0 1 30 0 1",
  "30 0 1 30 0 1 30 0 1 30 0 1 30 0 1 30 0 1 30 0 1 30 0 1 30 0 1 30 0 1 30 0 31 1 0 7 1 0 2 1",
  "0 2 1 0 7 1 0 3 1 0 b 1 0 2 1 0 2 1 0 2 1 0 2 1 0 2 1 0 2 1 0 2 1 0 2 1 0 2 1 0 2 1 0 2 1 0",
  "2 1 0 2 1 0 2 1 0 2 1 0 2 1 0 2 1 0 2 1 0 2 1 0 2 1 0 2 1 0 2 1 0 2 1 0 2 1 0 2 1 0 2 1 0 2",
  "1 0 2 1 0 2 1 0 2 1 0 2 1 0 2 1 0 2 1 0 2 1 0 2 1 0 2 1 0 2 1 0 2 1 0 2 1 0 2 1 0 2 1 0 2 1",
  "0 2 1 0 2 1 0 2 1 0 2 1 0 2 1 0 2 1 0 2 1 0 9 1 0 2 1 0 5 1 0 794e 1 0 2 1 0 2 1 0 2 1 0 2 1",
  "0 4 1 0 2 1 0 2 1 0 2 1 0 2 1 0 2 1 0 2 1 0 2 1 0 2 1 0 2 1 0 2 1 0 2 1 0 2 1 0 2 1 0 2 1 0",
  "2 1 0 2 1 0 14 1 0 2 1 0 2 1 0 2 1 0 2 1 0 2 1 0 2 1 0 2 1 0 2 1 0 2 1 0 2 1 0 2 1 0 2 1 0 2",
  "1 0 88 1 0 2 1 0 2 1 0 2 1 0 2 1 0 2 1 0 2 1 0 4 1 0 2 1 0 2 1 0 2 1 0 2 1 0 2 1 0 2 1 0 2 1",
  "0 2 1 0 2 1 0 2 1 0 2 1 0 2 1 0 2 1 0 2 1 0 2 1 0 2 1 0 2 1 0 2 1 0 2 1 0 2 1 0 2 1 0 2 1 0",
  "2 1 0 2 1 0 2 1 0 2 1 0 2 1 0 2 1 0 2 1 0 2 1 0 b 1 0 2 1 0 3 1 0 2 1 0 2 1 0 2 1 0 2 1 0 5",
  "1 0 5 1 0 2 1 0 2 30 0 2 1 0 2 1 0 2 1 0 2 1 0 2 1 0 2 1 0 2 1 0 2 1 0 2 1 0 2 1 0 b 3a0 0 1",
  "1 0 2 1 0 2 1 0 2 1 0 2 1 0 2 1 0 2 1 0 2 1 0 5 1 0 2 1 0 7 1 0 6 1 0 2 1 0 1d 1 0 572c 20 0",
  "1 20 0 1 20 0 1 20 0 1 20 0 1 20 0 1 20 0 1 20 0 1 20 0 1 20 0 1 20 0 1 20 0 1 20 0 1 20 0 1",
  "20 0 1 20 0 1 20 0 1 20 0 1 20 0 1 20 0 1 20 0 1 20 0 1 20 0 1 20 0 1 20 0 1 20 0 4c6 28 0 1",
  "28 0 1 28 0 1 28 0 1 28 0 1 28 0 1 28 0 1 28 0 1 28 0 1 28 0 1 28 0 1 28 0 1 28 0 1 28 0 1",
  "28 0 1 28 0 1 28 0 1 28 0 1 28 0 1 28 0 1 28 0 1 28 0 1 28 0 1 28 0 1 28 0 1 28 0 1 28 0 1",
  "28 0 1 28 0 1 28 0 1 28 0 1 28 0 1 28 0 1 28 0 1 28 0 1 28 0 1 28 0 1 28 0 1 28 0 1 28 0 89",
  "28 0 1 28 0 1 28 0 1 28 0 1 28 0 1 28 0 1 28 0 1 28 0 1 28 0 1 28 0 1 28 0 1 28 0 1 28 0 1",
  "28 0 1 28 0 1 28 0 1 28 0 1 28 0 1 28 0 1 28 0 1 28 0 1 28 0 1 28 0 1 28 0 1 28 0 1 28 0 1",
  "28 0 1 28 0 1 28 0 1 28 0 1 28 0 1 28 0 1 28 0 1 28 0 1 28 0 1 28 0 9d 27 0 1 27 0 1 27 0 1",
  "27 0 1 27 0 1 27 0 1 27 0 1 27 0 1 27 0 1 27 0 1 27 0 2 27 0 1 27 0 1 27 0 1 27 0 1 27 0 1",
  "27 0 1 27 0 1 27 0 1 27 0 1 27 0 1 27 0 1 27 0 1 27 0 1 27 0 1 27 0 2 27 0 1 27 0 1 27 0 1",
  "27 0 1 27 0 1 27 0 1 27 0 2 27 0 1 27 0 6eb 40 0 1 40 0 1 40 0 1 40 0 1 40 0 1 40 0 1 40 0 1",
  "40 0 1 40 0 1 40 0 1 40 0 1 40 0 1 40 0 1 40 0 1 40 0 1 40 0 1 40 0 1 40 0 1 40 0 1 40 0 1",
  "40 0 1 40 0 1 40 0 1 40 0 1 40 0 1 40 0 1 40 0 1 40 0 1 40 0 1 40 0 1 40 0 1 40 0 1 40 0 1",
  "40 0 1 40 0 1 40 0 1 40 0 1 40 0 1 40 0 1 40 0 1 40 0 1 40 0 1 40 0 1 40 0 1 40 0 1 40 0 1",
  "40 0 1 40 0 1 40 0 1 40 0 1 40 0 bee 20 0 1 20 0 1 20 0 1 20 0 1 20 0 1 20 0 1 20 0 1 20 0 1",
  "20 0 1 20 0 1 20 0 1 20 0 1 20 0 1 20 0 1 20 0 1 20 0 1 20 0 1 20 0 1 20 0 1 20 0 1 20 0 1",
  "20 0 1 20 0 1 20 0 1 20 0 1 20 0 1 20 0 1 20 0 1 20 0 1 20 0 1 20 0 1 20 0 5581 20 0 1 20 0",
  "1 20 0 1 20 0 1 20 0 1 20 0 1 20 0 1 20 0 1 20 0 1 20 0 1 20 0 1 20 0 1 20 0 1 20 0 1 20 0 1",
  "20 0 1 20 0 1 20 0 1 20 0 1 20 0 1 20 0 1 20 0 1 20 0 1 20 0 1 20 0 1 20 0 1 20 0 1 20 0 1",
  "20 0 1 20 0 1 20 0 1 20 0 7aa1 22 0 1 22 0 1 22 0 1 22 0 1 22 0 1 22 0 1 22 0 1 22 0 1 22 0",
  "1 22 0 1 22 0 1 22 0 1 22 0 1 22 0 1 22 0 1 22 0 1 22 0 1 22 0 1 22 0 1 22 0 1 22 0 1 22 0 1",
  "22 0 1 22 0 1 22 0 1 22 0 1 22 0 1 22 0 1 22 0 1 22 0 1 22 0 1 22 0 1 22 0 1 22 0"]

/-- Splits a stream of words into classes of code points. -/
def readCaseClasses (least current : Nat) (members : List Nat) : List Nat → List (List Nat)
  | [] => []
  | w :: rest =>
    if members.isEmpty then readCaseClasses (least + w) (least + w) [least + w] rest
    else if w == 0 then members.reverse :: readCaseClasses least 0 [] rest
    else readCaseClasses least (current + w) ((current + w) :: members) rest

/-- The classes of case variants, each ascending. -/
def caseClasses : List (List Nat) := readCaseClasses 0 0 [] (caseClassRows.flatMap CharSet.readWords)

/-- Every character with case variants beside its class, ascending. -/
def caseVariants : Array (Nat × List Nat) :=
  ((caseClasses.flatMap fun cls => cls.map fun c => (c, cls)).mergeSort
    fun a b => a.1 ≤ b.1).toArray

/-- The first index from `lo` below `hi` whose character is at least `c`. -/
def firstVariantFrom (c : Nat) : Nat → Nat → Nat → Nat
  | 0, lo, _ => lo
  | fuel + 1, lo, hi =>
    if hi ≤ lo then lo
    else
      let mid := (lo + hi) / 2
      if (caseVariants.getD mid (0, [])).1 < c then firstVariantFrom c fuel (mid + 1) hi
      else firstVariantFrom c fuel lo mid

/-- The classes of the characters in an interval, gathered from index `i` on. -/
def variantsWithin (hi : Nat) : Nat → Nat → List (List Nat) → List (List Nat)
  | 0, _, found => found
  | fuel + 1, i, found =>
    match caseVariants[i]? with
    | some (c, cls) => if c ≤ hi then variantsWithin hi fuel (i + 1) (cls :: found) else found
    | none => found

/-- The classes of case variants that meet an interval. -/
def Interval.caseClasses (i : Interval) : List (List Nat) :=
  let first := firstVariantFrom i.lo caseVariants.size 0 caseVariants.size
  variantsWithin i.hi caseVariants.size first []

namespace CharSet

/-- The set with the case variants of its members. -/
def closeUnderCase (s : CharSet) : CharSet :=
  let extra := s.intervals.flatMap fun i => i.caseClasses.flatMap fun cls =>
    cls.map fun c => (⟨c, c⟩ : Interval)
  s.union (ofIntervals extra)

/-- The interval moved down or up by the distance between the two cases of ASCII letters. -/
def asciiShift (s : CharSet) (lo hi : Nat) (move : Nat → Nat) : CharSet :=
  ⟨(s.inter (range lo hi)).intervals.map fun i => ⟨move i.lo, move i.hi⟩⟩

/-- The set with the other case of its ASCII letters. -/
def closeUnderAsciiCase (s : CharSet) : CharSet :=
  (s.union (s.asciiShift 0x41 0x5A (· + 32))).union (s.asciiShift 0x61 0x7A (· - 32))

end CharSet

end PatternSuite.Unicode
