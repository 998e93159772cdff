import Newsfeed.Unicode.Table

/-!
# Writing direction

The bidirectional classes of characters, as far as the rules for domain labels tell them apart.
The data are those of Unicode 17, with additions of Unicode 18.

* `direction` : the class of a character.
-/

namespace Newsfeed.Unicode

/-- The bidirectional class of a character. -/
inductive Direction where
  | leftToRight
  | rightToLeft
  | arabicLetter
  | arabicNumber
  | europeanNumber
  | europeanSeparator
  | europeanTerminator
  | commonSeparator
  | neutral
  | boundaryNeutral
  | nonspacingMark
  | other
deriving DecidableEq, Repr

/-- The classes as runs of code points. -/
def directionText : String := "
9:B 5:x e:B 5:x 2:O 3:T 5:O 1:S 1:C 1:S 2:C a:E 1:C 6:O 1a:L 6:O 1a:L 4:O 6:B 1:x 1a:B 1:C 1:O 4:T
4:O 1:L 2:O 1:B 2:O 2:T 2:E 1:O 1:L 3:O 1:E 1:L 5:O 17:L 1:O 1f:L 1:O 1c1:L 2:O 7:L e:O 2:L e:O
5:L 9:O 1:L 11:O 70:M 4:L 2:O 8:L 1:O 5:L 2:O 1:L 1:O 6e:L 1:O 8c:L 7:M 100:L 1:O 2:L 2:O 1:T 1:R
2d:M 1:R 1:M 1:R 2:M 1:R 2:M 1:R 2:M 37:R 6:N 2:O 1:A 2:T 1:A 1:C 1:A 2:O b:M 30:A 15:M a:N 1:T
2:N 3:A 1:M 65:A 7:M 1:N 1:O 6:M 2:A 2:M 1:O 4:M 2:A a:E 17:A 1:M 1e:A 1b:M 5b:A b:M f:A 2b:R 9:M
2:R 4:O 3:R 1:M 18:R 4:M 1:R 9:M 1:R 3:M 1:R 5:M 2b:R 3:M 4:R 30:A 2:N 5:A 9:M 2a:A 18:M 1:N 20:M
37:L 1:M 1:L 1:M 4:L 8:M 4:L 1:M 3:L 7:M a:L 2:M 1d:L 1:M 3a:L 1:M 4:L 4:M 8:L 1:M 14:L 2:M e:L
2:T 7:L 1:T 2:L 1:M 2:L 2:M 39:L 1:M 4:L 2:M 4:L 2:M 2:L 3:M 3:L 1:M 1e:L 2:M 3:L 1:M b:L 2:M 39:L
1:M 4:L 5:M 1:L 2:M 4:L 1:M 14:L 2:M d:L 1:T 8:L 6:M 1:L 1:M 3a:L 1:M 2:L 1:M 1:L 4:M 8:L 1:M 5:L
4:M b:L 2:M 1e:L 1:M 3d:L 1:M c:L 1:M 25:L 6:O 1:T 1:O 5:L 1:M 3:L 1:M 37:L 1:M 1:L 3:M 5:L 3:M
1:L 4:M 7:L 2:M b:L 2:M 14:L 7:O 2:L 1:M 3a:L 1:M f:L 2:M 14:L 2:M 1c:L 2:M 39:L 2:M 4:L 4:M 8:L
1:M 14:L 2:M 1d:L 1:M 48:L 1:M 7:L 3:M 1:L 1:M 5a:L 1:M 2:L 7:M 4:L 1:T 7:L 8:M 62:L 1:M 2:L 9:M
b:L 7:M 49:L 2:M 1b:L 1:M 1:L 1:M 1:L 1:M 4:O 33:L e:M 1:L 5:M 1:L 2:M 5:L b:M 1:L 24:M 9:L 1:M
66:L 4:M 1:L 6:M 1:L 2:M 2:L 2:M 19:L 2:M 4:L 3:M 10:L 4:M d:L 1:M 2:L 2:M 6:L 1:M f:L 1:M 2bf:L
3:M 30:L a:O 66:L 1:O 27f:L 1:x 1a:L 2:O 75:L 3:M 1d:L 2:M 1e:L 2:M 1e:L 2:M 40:L 2:M 1:L 7:M 8:L
1:M 2:L b:M 7:L 1:T 1:L 1:M 12:L a:O 6:L b:O 3:M 1:B 1:M 75:L 2:M 22:L 1:M 76:L 3:M 4:L 2:M 9:L
1:M 6:L 3:M 4:L 1:O 3:L 2:O 98:L 22:O 17:L 2:M 2:L 1:M 3a:L 1:M 1:L 7:M 1:L 1:M 1:L 1:M 2:L 8:M
6:L a:M 2:L 1:M 30:L 2e:M 2:L d:M 13:L 4:M 30:L 1:M 1:L 5:M 1:L 1:M 5:L 1:M b:L 2:O 1b:L 9:M b:L
1:O 2:M 20:L 4:M 2:L 2:M 1:L 3:M 38:L 1:M 1:L 2:M 3:L 1:M 1:L 3:M 3a:L 8:M 2:L 2:M 98:L 3:M 1:L
d:M 1:L 7:M 4:L 1:M 6:L 1:M 3:L 2:M c6:L 40:M 1bd:L 1:O 1:L 3:O b:L 3:O d:L 3:O d:L 3:O d:L 2:O
1:L b:x 3:B 1:L 1:R 18:O 7:x 1:C 5:T f:O 1:C 1a:O 1:x 6:B 4:x 6:B 1:E 3:L 6:E 2:S 3:O 1:L a:E 2:S
3:O 11:L 30:T 21:M f:L 2:O 1:L 4:O 1:L 2:O a:L 1:O 1:L 3:O 5:L 6:O 1:L 1:O 1:L 1:O 1:L 1:O 4:L 1:T
b:L 2:O 4:L 5:O 5:L 4:O 2:L 10:O 29:L 3:O 4:L 82:O 1:S 1:T 122:O 45:L 1a:O 1:L 94:O 16:L b:O 15:L
28:O 14:E 4e:L 1c2:O 1:L 153:O 100:L 274:O 2:L 8a:O e5:L 6:O 4:L 3:M 7:L 7:O 7f:L 1:M 60:L 20:M
5e:O 22:L 1a:O 1:L 59:O c:L d6:O 1a:L 10:O 1:x 4:O 3:L 19:O 9:L 4:M 2:L 1:O 5:L 2:O 5:L 3:O 59:L
2:M 2:O 3:L 1:O 5a:L 1:O c4:L 26:O 9:L 1:O 2d:L 2:O 31:L 10:O 1c:L 3:O 32:L f:O c:L 4:O a7:L 4:O
63:L 2:O 1f:L 1:O 19c0:L 40:O 5690:L 37:O 146:L 3:O 5f:L 4:M 1:O a:M 2:O 1e:L 2:M 50:L 2:M e:L
22:O 66:L 1:O 79:L 1:M 3:L 1:M 4:L 1:M 19:L 2:M 1:L 4:O 1:M b:L 2:T 3a:L 4:O 4c:L 2:M 1a:L 12:M
d:L 1:M 26:L 8:M 19:L b:M 2e:L 3:M 30:L 1:M 2:L 4:M 2:L 2:M 27:L 1:M 43:L 6:M 2:L 2:M 2:L 2:M c:L
1:M 8:L 1:M 2f:L 1:M 33:L 1:M 1:L 3:M 2:L 2:M 5:L 2:M 1:L 1:M 2a:L 2:M 8:L 1:M 73:L 2:O 79:L 1:M
2:L 1:M 4:L 1:M 4f2f:L 1:R 1:M a:R 1:S 26:R 73:A 10:O 16b:A 12:O 40:A 2:O 36:A 8:O 20:B d:A 3:O
10:M a:O 6:L 10:M 20:O 1:C 1:O 1:C 1:L 1:O 1:C 9:O 1:T 2:O 2:S 3:O 1:L 1:O 2:T 1:O 4:L 8f:A 1:B
1:L 2:O 3:T 5:O 1:S 1:C 1:S 2:C a:E 1:C 6:O 1a:L 6:O 1a:L b:O 7a:L 2:T 3:O 2:T 1:L 7:O 1:L 9:B 5:O
2:B 101:L 1:O 3e:L 4d:O 3:L d:O 3:L 1:O 5c:L 1:M e2:L 1:M 1b:E 7a:L 5:M 485:L 11f:R 1:O e1:R 3:M
1:R 2:M 5:R 4:M 28:R 3:M 4:R 1:M a5:R 2:M 52:R 7:O 1c0:R 24:A 4:M 8:A a:N 6:A 29:R 5:M 1:O f1:R
1f:N 2c:R 2:M 13:R 10:A 9:O 17:A 10:M 30:R 16:A b:M 1f:A 12:R 4:M 7a:R 1:L 1:M 36:L f:M b:L 14:O
a:L 1:M 2:L 2:M a:L 3:M 31:L 4:M 2:L 2:M 7:L 1:M 3d:L 3:M 24:L 5:M 1:L 8:M 3e:L 1:M c:L 2:M 34:L
9:M a:L 4:M 2:L 1:M 5f:L 3:M 2:L 1:M 1:L 2:M 6:L 1:M 2:L 1:M 9d:L 1:M 3:L 8:M 15:L 2:M 39:L 2:M
3:L 1:M 25:L 7:M 3:L 5:M 46:L 6:M d:L 1:M 1:L 1:M 1:L 1:M 1:L 2:O 1:L 2:O 8:L 2:M 55:L 8:M 2:L 3:M
1:L 1:M 17:L 1:M 54:L 6:M 1:L 1:M 4:L 2:M 1:L 2:M ee:L 4:M 6:L 2:M 1:L 2:M 1b:L 2:M 55:L 8:M 2:L
1:M 1:L 2:M 1f:L d:O 3e:L 1:M 1:L 1:M 2:L 6:M 1:L 1:M 65:L 3:M 2:L 4:M 1:L 5:M 103:L 9:M 1:L 2:M
100:L 2:M 1:L 1:M 4:L 1:M 90:L 4:M 2:L 2:M 4:L 1:M 20:L 6:M 2:L 2:M 28:L 6:M 2:L 4:M 8:L 1:M 9:L
6:M 2:L 3:M 2e:L d:M 1:L 2:M c6:L 1:M 1:L 3:M 1:L 1:M 7a:L 1:O 4e:L 7:M 1:L 6:M 54:L 16:M 2:L 7:M
1:L 2:M 1:L 2:M 7a:L 6:M 3:L 1:M 1:L 2:M 1:L 7:M 1:L 1:M 48:L 2:M 3:L 1:M 1:L 1:M 15b:L 2:M b:L
2:M 34:L 5:M 5:L 1:M 1:L 1:M 17:L 1:M 7a:L 8:O 4:T 11:O 144e:L 1:M 6:L f:M 2cc8:L c:M 3:L 3:M
9c0:L 5:M 3b:L 7:M 236:L 3:O 1df:L 1:M 3f:L 4:M 4f:L 1:O 1:L 1:M 4cb8:L 2:M 1:L 4:B f5c:L f0:O a:L
3:O 3:L 1b4:O 6:L 17:O f:L 11:O f:L 2e:M 2:L 17:M 220:L 3:M 9:L 8:B 8:M 2:L 7:M 1e:L 4:M 3b:L 2:O
15:L 42:O 3:M 1:O ba:L 57:O 384:L 1:O 39:L 1:O 39:L 1:O 39:L 1:O 39:L 1:O a:L 32:E 200:L 37:M 4:L
32:M 8:L 1:M e:L 1:M 16:L 5:M 1:L f:M 550:L 7:M 1:L 11:M 2:L 7:M 1:L 2:M 1:L 5:M 64:L 1:M a0:L 7:M
177:L 1:M 3d:L 4:M f:L 1:T 1ec:L 4:M fe:L 2:M f:L 1:O e3:L 1:M 2:L 1:M 7:L 2:M 5:L 1:M 10a:L d0:R
7:M 6d:R 7:M 325:R 50:A 40:R 50:A b0:R f0:A 2:O e:A 100:R 2c:O 4:L 64:O c:L f:O 2:L f:O 1:L f:O
1:L 25:O a:L b:E 5:O 1f:L 1:O 3a:L 6:O 3d:L 1:O b2:L 6:O 9a:L 3da:O 2:L 11:O 3:L d:O 3:L da:O 6:L
c:O 4:L 1:O f:L c:O 4:L 38:O 8:L a:O 6:L 28:O 8:L 1e:O 2:L c:O 4:L 2:O e:L 9:O 27:L 158:O 8:L e:O
2:L d:O 3:L 47:O 1:L 1:O 3:L 12:O 1:L d:O 3:L c:O 5:L 93:O 1:L 5c:O a:E 1:O 403:L 2:B fffe:L 2:B
fffe:L 2:B fffe:L 2:B fffe:L 2:B fffe:L 2:B fffe:L 2:B fffe:L 2:B fffe:L 2:B fffe:L 2:B fffe:L 2:B
fffe:L 2:B fffe:L 102:B f0:M e10:B effe:L 2:B fffe:L 2:B fffe:L 2:B"

/-- Reads the value of one run. -/
def directionOfTag : List Char → Direction
  | ['L'] => .leftToRight
  | ['R'] => .rightToLeft
  | ['A'] => .arabicLetter
  | ['N'] => .arabicNumber
  | ['E'] => .europeanNumber
  | ['S'] => .europeanSeparator
  | ['T'] => .europeanTerminator
  | ['C'] => .commonSeparator
  | ['O'] => .neutral
  | ['B'] => .boundaryNeutral
  | ['M'] => .nonspacingMark
  | _ => .other

/-- The classes of all code points. -/
def directions : Table Direction := .ofRuns directionOfTag directionText

/-- The bidirectional class of a character. -/
def direction (c : Char) : Direction := (directions.floor? c.toNat).getD .other

end Newsfeed.Unicode
