import Newsfeed.Unicode.Table

/-!
# Marks and joining

Which characters are combining marks, and how characters join in cursive scripts. The data are
those of Unicode 17, with additions of Unicode 18.

* `isMark` : whether a character belongs to the general category of marks.
* `joiningType` : on which sides a character joins its neighbours.
-/

namespace Newsfeed.Unicode

/-- The marks as runs of code points. -/
def markText : String := "
300:x 70:M 113:x 7:M 107:x 2d:M 1:x 1:M 1:x 2:M 1:x 2:M 1:x 2:M 47:x b:M 30:x 15:M 10:x 1:M 65:x
7:M 2:x 6:M 2:x 2:M 1:x 4:M 23:x 1:M 1e:x 1b:M 5b:x b:M 3a:x 9:M 9:x 1:M 18:x 4:M 1:x 9:M 1:x 3:M
1:x 5:M 2b:x 3:M 3b:x 9:M 2a:x 18:M 1:x 21:M 36:x 3:M 1:x 12:M 1:x 7:M a:x 2:M 1d:x 3:M 38:x 1:M
1:x 7:M 2:x 2:M 2:x 3:M 9:x 1:M a:x 2:M 1a:x 1:M 2:x 3:M 38:x 1:M 1:x 5:M 4:x 2:M 2:x 3:M 3:x 1:M
1e:x 2:M 3:x 1:M b:x 3:M 38:x 1:M 1:x 8:M 1:x 3:M 1:x 3:M 14:x 2:M 16:x 6:M 1:x 3:M 38:x 1:M 1:x
7:M 2:x 2:M 2:x 3:M 5:x 5:M a:x 2:M 1e:x 1:M 3b:x 5:M 3:x 3:M 1:x 4:M 9:x 1:M 28:x 5:M 37:x 1:M
1:x 7:M 1:x 3:M 1:x 4:M 7:x 2:M b:x 2:M 1d:x 3:M 38:x 1:M 1:x 7:M 1:x 3:M 1:x 4:M 7:x 2:M b:x 2:M
f:x 1:M c:x 4:M 37:x 2:M 1:x 7:M 1:x 3:M 1:x 4:M 9:x 1:M a:x 2:M 1d:x 3:M 46:x 1:M 4:x 6:M 1:x 1:M
1:x 8:M 12:x 2:M 3d:x 1:M 2:x 7:M c:x 8:M 62:x 1:M 2:x 9:M b:x 7:M 49:x 2:M 1b:x 1:M 1:x 1:M 1:x
1:M 4:x 2:M 31:x 14:M 1:x 2:M 5:x b:M 1:x 24:M 9:x 1:M 64:x 14:M 17:x 4:M 4:x 3:M 1:x 3:M 2:x 7:M
3:x 4:M d:x c:M 1:x 1:M a:x 4:M 2bf:x 3:M 3b2:x 4:M 1c:x 3:M 1d:x 2:M 1e:x 2:M 40:x 20:M 9:x 1:M
2d:x 3:M 1:x 1:M 75:x 2:M 22:x 1:M 76:x c:M 4:x c:M db:x 5:M 39:x a:M 1:x 1d:M 2:x 1:M 30:x 2e:M
2:x d:M 13:x 5:M 2f:x 11:M 26:x 9:M c:x 3:M 1e:x d:M 38:x e:M 30:x 14:M 98:x 3:M 1:x 15:M 4:x 1:M
6:x 1:M 2:x 3:M c6:x 40:M 2d0:x 21:M bfe:x 3:M 8d:x 1:M 60:x 20:M 22a:x 6:M 69:x 2:M 75d4:x 4:M
1:x a:M 20:x 2:M 50:x 2:M 110:x 1:M 3:x 1:M 4:x 1:M 17:x 5:M 4:x 1:M 53:x 2:M 32:x 12:M 1a:x 12:M
d:x 1:M 26:x 8:M 19:x d:M 2c:x 4:M 2f:x e:M 24:x 1:M 43:x e:M c:x 1:M 8:x 2:M 2d:x 3:M 32:x 1:M
1:x 3:M 2:x 2:M 5:x 2:M 1:x 1:M 29:x 5:M 5:x 2:M ec:x 8:M 1:x 2:M 4f30:x 1:M 2e1:x 10:M 10:x 10:M
3cd:x 1:M e2:x 1:M 95:x 5:M 686:x 3:M 1:x 2:M 5:x 4:M 28:x 3:M 4:x 1:M a5:x 2:M 23d:x 4:M 41:x 5:M
13d:x 2:M 43:x 10:M 46:x b:M 31:x 4:M 7a:x 3:M 35:x f:M 29:x 1:M 2:x 2:M a:x 4:M 2d:x b:M 7:x 1:M
3d:x 3:M 24:x e:M 10:x 2:M 2c:x 1:M c:x 3:M 30:x e:M 8:x 4:M 1:x 2:M 5c:x c:M 6:x 1:M 2:x 1:M 9d:x
c:M 15:x 4:M 37:x 2:M 1:x 7:M 2:x 2:M 2:x 3:M 9:x 1:M a:x 2:M 2:x 7:M 3:x 5:M 43:x 9:M 1:x 1:M 2:x
1:M 1:x 4:M 1:x 5:M 1:x 1:M e:x 2:M 52:x 12:M 17:x 1:M 51:x 14:M eb:x 7:M 2:x 9:M 1b:x 2:M 52:x
11:M 6a:x d:M 65:x f:M 100:x f:M f5:x 6:M 1:x 2:M 2:x 4:M 1:x 1:M 1:x 2:M 8d:x 7:M 2:x 7:M 3:x 1:M
1c:x a:M 28:x 7:M 1:x 4:M 8:x 1:M 9:x b:M 2e:x 10:M c6:x 8:M c7:x 8:M 1:x 8:M 52:x 16:M 1:x e:M
7a:x 6:M 3:x 1:M 1:x 2:M 1:x 7:M 1:x 1:M 42:x 5:M 1:x 2:M 1:x 5:M 15b:x 4:M 9:x 2:M 1:x 1:M 30:x
7:M 3:x 5:M 17:x 1:M 14e5:x 1:M 6:x f:M 2cc8:x 12:M 9c0:x 5:M 3b:x 7:M 418:x 1:M 1:x 37:M 7:x 4:M
51:x 1:M b:x 2:M 4cab:x 2:M 1261:x 2e:M 2:x 17:M 21e:x 5:M 3:x 6:M 8:x 8:M 2:x 7:M 1e:x 4:M 94:x
3:M 7bb:x 37:M 4:x 32:M 8:x 1:M e:x 1:M 16:x 5:M 1:x f:M 550:x 7:M 1:x 11:M 2:x 7:M 1:x 2:M 1:x
5:M 64:x 1:M a0:x 7:M 177:x 1:M 3d:x 4:M 1fc:x 4:M fe:x 2:M f3:x 1:M 2:x 1:M 7:x 2:M 5:x 1:M 1da:x
7:M 6d:x 7:M c17b5:x f0:M 2fe10:x"

/-- Whether each code point is a mark. -/
def marks : Table Bool := .ofRuns (· == ['M']) markText

/-- Whether a character is a combining mark. -/
def isMark (c : Char) : Bool := (marks.floor? c.toNat).getD false

/-- How a character joins its neighbours. -/
inductive JoiningType where
  | left
  | right
  | dual
  | transparent
  | none
deriving DecidableEq, Repr

/-- The joining types as runs of code points. -/
def joiningText : String := "
ad:U 1:T 252:U 70:T 113:U 7:T 107:U 2d:T 1:U 1:T 1:U 2:T 1:U 2:T 1:U 2:T 47:U b:T 1:U 1:T 3:U 1:D
1:U 4:R 1:D 1:R 1:D 1:R 5:D 4:R d:D 1:U 7:D 1:R 2:D 15:T e:U 2:D 1:T 3:R 1:U 3:R 10:D 12:R 26:D
1:R 2:D 9:R 1:D 1:R 1:D 1:R 2:D 2:R 1:U 1:R 7:T 2:U 6:T 2:U 2:T 1:U 4:T 2:R a:U 3:D 2:U 1:D f:U
1:T 1:R 1:T 3:D 5:R 4:D 1:R 9:D 1:R 1:D 1:R 1:D 1:R 2:D 1:R 1b:T 2:U 1:R b:D 3:R f:D 2:R 4:D 1:R
1:D 2:R 3:D 2:R 6:D 26:U b:T 19:U 21:D 9:T 9:U 1:T 18:U 4:T 1:U 9:T 1:U 3:T 1:U 5:T 12:U 1:R 5:D
2:R 1:D 1:R a:D 1:R 1:D 3:R 3:T 4:U 1:D 1:U 4:D 1:U 1:R 1:D 2:R 5:U 13:R 3:U 1:D 2:U 5:D 1:R 1:D
7:U 9:T a:D 3:R 1:U 1:R 2:D 2:R 6:D 1:R f:D 1:U 18:T 1:U 20:T 37:U 1:T 1:U 1:T 4:U 8:T 4:U 1:T 3:U
7:T a:U 2:T 1d:U 1:T 3a:U 1:T 4:U 4:T 8:U 1:T 14:U 2:T 1a:U 1:T 2:U 2:T 39:U 1:T 4:U 2:T 4:U 2:T
2:U 3:T 3:U 1:T 1e:U 2:T 3:U 1:T b:U 2:T 39:U 1:T 4:U 5:T 1:U 2:T 4:U 1:T 14:U 2:T 16:U 6:T 1:U
1:T 3a:U 1:T 2:U 1:T 1:U 4:T 8:U 1:T 5:U 4:T b:U 2:T 1e:U 1:T 3d:U 1:T c:U 1:T 32:U 1:T 3:U 1:T
37:U 1:T 1:U 3:T 5:U 3:T 1:U 4:T 7:U 2:T b:U 2:T 1d:U 1:T 3a:U 1:T 2:U 1:T 6:U 1:T 5:U 2:T 14:U
2:T 1c:U 2:T 39:U 2:T 4:U 4:T 8:U 1:T 14:U 2:T 1d:U 1:T 48:U 1:T 7:U 3:T 1:U 1:T 5a:U 1:T 2:U 7:T
c:U 8:T 62:U 1:T 2:U 9:T b:U 7:T 49:U 2:T 1b:U 1:T 1:U 1:T 1:U 1:T 37:U e:T 1:U 5:T 1:U 2:T 5:U
b:T 1:U 24:T 9:U 1:T 66:U 4:T 1:U 6:T 1:U 2:T 2:U 2:T 19:U 2:T 4:U 3:T 10:U 4:T d:U 1:T 2:U 2:T
6:U 1:T f:U 1:T 2bf:U 3:T 3b2:U 3:T 1d:U 2:T 1e:U 2:T 1e:U 2:T 40:U 2:T 1:U 7:T 8:U 1:T 2:U b:T
9:U 1:T 29:U 1:D 3:U 3:T 1:U 1:T 10:U 59:D c:U 2:T 22:D 1:T 1:D 75:U 3:T 4:U 2:T 9:U 1:T 6:U 3:T
db:U 2:T 2:U 1:T 3a:U 1:T 1:U 7:T 1:U 1:T 1:U 1:T 2:U 8:T 6:U a:T 2:U 1:T 30:U 2e:T 2:U d:T 13:U
4:T 30:U 1:T 1:U 5:T 1:U 1:T 5:U 1:T 28:U 9:T c:U 2:T 20:U 4:T 2:U 2:T 1:U 3:T 38:U 1:T 1:U 2:T
3:U 1:T 1:U 3:T 3a:U 8:T 2:U 2:T 98:U 3:T 1:U d:T 1:U 7:T 4:U 1:T 6:U 1:T 3:U 2:T c6:U 40:T 20b:U
1:T 2:U 2:T 1a:U 5:T 31:U 5:T 5:U 6:T 60:U 21:T bfe:U 3:T 8d:U 1:T 60:U 20:T 22a:U 4:T 6b:U 2:T
75d4:U 4:T 1:U a:T 20:U 2:T 50:U 2:T 110:U 1:T 3:U 1:T 4:U 1:T 19:U 2:T 5:U 1:T 13:U 32:D 1:L 51:U
2:T 1a:U 12:T d:U 1:T 26:U 8:T 19:U b:T 2e:U 3:T 30:U 1:T 2:U 4:T 2:U 2:T 27:U 1:T 43:U 6:T 2:U
2:T 2:U 2:T c:U 1:T 8:U 1:T 2f:U 1:T 33:U 1:T 1:U 3:T 2:U 2:T 5:U 2:T 1:U 1:T 2a:U 2:T 8:U 1:T
ee:U 1:T 2:U 1:T 4:U 1:T 4f30:U 1:T 2e1:U 10:T 10:U 10:T cf:U 1:T f9:U 3:T 201:U 1:T e2:U 1:T 95:U
5:T 686:U 3:T 1:U 2:T 5:U 4:T 28:U 3:T 4:U 1:T 80:U 5:D 1:R 1:U 1:R 1:U 2:R 2:U 1:L 5:R 4:D 1:L
5:D 1:R 3:D 1:R 2:U 1:R 2:T 4:U 4:D 1:R 90:U 1:D 1:R 1:D 3:R 3:D 1:R 2:D 1:R 1:D 2:R 1:D 1:R 17:U
4:R 2:D 151:U 1:L 21:D 1:R 1:D 4:T 41:U 5:T 13d:U 2:T 15:U 1:R 2:D 1:U 2:D 28:U 10:T 30:U 3:D 1:R
11:D 1:U b:T 3:D 1:R 1b:U 4:D 2:R c:D 4:T 2a:U 1:D 1:U 2:D 3:R 1:U 1:D 2:R 2:D 1:R 2:D 1:U 1:D 2:R
1:D 4:U 1:R 1:D 1:L 35:U 1:T 36:U f:T 29:U 1:T 2:U 2:T a:U 3:T 31:U 4:T 2:U 2:T 7:U 1:T 3d:U 3:T
24:U 5:T 1:U 8:T 3e:U 1:T c:U 2:T 34:U 9:T a:U 4:T 2:U 1:T 5f:U 3:T 2:U 1:T 1:U 2:T 6:U 1:T 2:U
1:T 9d:U 1:T 3:U 8:T 15:U 2:T 39:U 2:T 3:U 1:T 25:U 7:T 3:U 5:T 46:U 6:T d:U 1:T 1:U 1:T 1:U 1:T
e:U 2:T 55:U 8:T 2:U 3:T 1:U 1:T 17:U 1:T 54:U 6:T 1:U 1:T 4:U 2:T 1:U 2:T ee:U 4:T 6:U 2:T 1:U
2:T 1b:U 2:T 55:U 8:T 2:U 1:T 1:U 2:T 6a:U 1:T 1:U 1:T 2:U 6:T 1:U 1:T 65:U 1:T 1:U 1:T 2:U 4:T
1:U 5:T 103:U 9:T 1:U 2:T 100:U 2:T 1:U 1:T 4:U 1:T 90:U 4:T 2:U 2:T 4:U 1:T 20:U a:T 28:U 6:T 2:U
4:T 8:U 1:T 9:U 6:T 2:U 3:T 2e:U d:T 1:U 2:T c6:U 1:T 1:U 3:T 1:U 1:T c9:U 7:T 1:U 6:T 1:U 1:T
52:U 16:T 2:U 7:T 1:U 2:T 1:U 2:T 7a:U 6:T 3:U 1:T 1:U 2:T 1:U 7:T 1:U 1:T 48:U 2:T 3:U 1:T 1:U
1:T 15b:U 2:T b:U 2:T 34:U 5:T 5:U 1:T 1:U 1:T 17:U 1:T 14d5:U 11:T 6:U f:T 2cc8:U c:T 3:U 3:T
9c0:U 5:T 3b:U 7:T 418:U 1:T 3f:U 4:T 51:U 1:T 4cb8:U 2:T 1:U 4:T 125c:U 2e:T 2:U 17:T 220:U 3:T
9:U 10:T 2:U 7:T 1e:U 4:T 94:U 3:T 7bb:U 37:T 4:U 32:T 8:U 1:T e:U 1:T 16:U 5:T 1:U f:T 550:U 7:T
1:U 11:T 2:U 7:T 1:U 2:T 1:U 5:T 64:U 1:T a0:U 7:T 177:U 1:T 3d:U 4:T 1fc:U 4:T fe:U 2:T f3:U 1:T
2:U 1:T 7:U 2:T 5:U 1:T 1da:U 7:T 29:U 44:D 8:T c16b5:U 1:T 1e:U 60:T 80:U f0:T 2fe10:U"

/-- Reads the value of one run. -/
def joiningOfTag : List Char → JoiningType
  | ['L'] => .left
  | ['R'] => .right
  | ['D'] => .dual
  | ['T'] => .transparent
  | _ => .none

/-- The joining types of all code points. -/
def joiningTypes : Table JoiningType := .ofRuns joiningOfTag joiningText

/-- How a character joins its neighbours. -/
def joiningType (c : Char) : JoiningType := (joiningTypes.floor? c.toNat).getD .none

end Newsfeed.Unicode
