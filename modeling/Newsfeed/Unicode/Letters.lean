import Newsfeed.Unicode.Table

/-!
# Letters and numbers

The characters with the property `Alphabetic` and those of the general categories of numbers. The
data are those of Unicode 17.

* `isLetterOrNumber` : whether a character is one of them.
-/

namespace Newsfeed.Unicode

/-- Letters and numbers as runs of code points. -/
def letterText : String := "
30:x a:A 7:x 1a:A 6:x 1a:A 2f:x 1:A 7:x 2:A 1:x 1:A 3:x 2:A 1:x 3:A 1:x 17:A 1:x 1f:A 1:x 1ca:A
4:x c:A e:x 5:A 7:x 1:A 1:x 1:A 56:x 1:A 1d:x 12:A 1:x 2:A 2:x 4:A 1:x 1:A 6:x 1:A 1:x 3:A 1:x 1:A
1:x 14:A 1:x 53:A 1:x 8b:A 8:x a6:A 1:x 26:A 2:x 1:A 6:x 29:A 27:x e:A 1:x 1:A 1:x 2:A 1:x 2:A 1:x
1:A 8:x 1b:A 4:x 4:A 1d:x b:A 5:x 38:A 1:x 11:A 4:x 66:A 1:x 8:A 4:x 8:A 4:x 10:A 2:x 1:A 10:x
30:A d:x 65:A e:x 2b:A 9:x 2:A 4:x 1:A 5:x 18:A 2:x 13:A 13:x 19:A 7:x b:A 5:x 18:A 1:x 7:A 7:x
1:A 8:x 2a:A a:x c:A 3:x 7:A 6:x 4c:A 1:x 10:A 1:x 3:A 4:x f:A 2:x a:A 1:x 13:A 1:x 8:A 2:x 2:A
2:x 16:A 1:x 7:A 1:x 1:A 3:x 4:A 3:x 8:A 2:x 2:A 2:x 2:A 1:x 1:A 8:x 1:A 4:x 2:A 1:x 5:A 2:x c:A
2:x 6:A 2:x 1:A 4:x 3:A 1:x 6:A 4:x 2:A 2:x 16:A 1:x 7:A 1:x 2:A 1:x 2:A 1:x 2:A 4:x 5:A 4:x 2:A
2:x 2:A 4:x 1:A 7:x 4:A 1:x 1:A 7:x 10:A b:x 3:A 1:x 9:A 1:x 3:A 1:x 16:A 1:x 7:A 1:x 2:A 1:x 5:A
3:x 9:A 1:x 3:A 1:x 2:A 3:x 1:A f:x 4:A 2:x a:A 9:x 4:A 4:x 3:A 1:x 8:A 2:x 2:A 2:x 16:A 1:x 7:A
1:x 2:A 1:x 5:A 3:x 8:A 2:x 2:A 2:x 2:A 9:x 2:A 4:x 2:A 1:x 5:A 2:x a:A 1:x 7:A a:x 2:A 1:x 6:A
3:x 3:A 1:x 4:A 3:x 2:A 1:x 1:A 1:x 2:A 3:x 2:A 3:x 3:A 3:x c:A 4:x 5:A 3:x 3:A 1:x 3:A 3:x 1:A
6:x 1:A e:x d:A d:x d:A 1:x 3:A 1:x 17:A 1:x 10:A 3:x 8:A 1:x 3:A 1:x 3:A 8:x 2:A 1:x 3:A 1:x 2:A
2:x 4:A 2:x a:A 8:x 7:A 1:x 4:A 1:x 8:A 1:x 3:A 1:x 17:A 1:x a:A 1:x 5:A 3:x 8:A 1:x 3:A 1:x 3:A
8:x 2:A 5:x 3:A 1:x 4:A 2:x a:A 1:x 3:A c:x d:A 1:x 3:A 1:x 29:A 2:x 8:A 1:x 3:A 1:x 3:A 1:x 1:A
5:x 10:A 2:x 13:A 1:x 6:A 1:x 3:A 1:x 12:A 3:x 18:A 1:x 9:A 1:x 1:A 2:x 7:A 8:x 6:A 1:x 1:A 1:x
8:A 6:x a:A 2:x 2:A d:x 3a:A 5:x 7:A 6:x 1:A 2:x a:A 27:x 2:A 1:x 1:A 1:x 5:A 1:x 18:A 1:x 1:A 1:x
13:A 1:x 3:A 2:x 5:A 1:x 1:A 6:x 1:A 2:x a:A 2:x 4:A 20:x 1:A 1f:x 14:A c:x 8:A 1:x 24:A 4:x 13:A
4:x 10:A 1:x 24:A 43:x 37:A 1:x 1:A 2:x f:A 6:x 4e:A 2:x 26:A 1:x 1:A 5:x 1:A 2:x 2b:A 1:x 14d:A
1:x 4:A 2:x 7:A 1:x 1:A 1:x 4:A 2:x 29:A 1:x 4:A 2:x 21:A 1:x 4:A 2:x 7:A 1:x 1:A 1:x 4:A 2:x f:A
1:x 39:A 1:x 4:A 2:x 43:A e:x 14:A 3:x 10:A 10:x 56:A 2:x 6:A 3:x 26c:A 2:x 11:A 1:x 1a:A 5:x 4b:A
3:x b:A 7:x 14:A b:x 15:A c:x 14:A c:x d:A 1:x 3:A 1:x 2:A c:x 34:A 2:x 13:A e:x 1:A 4:x 1:A 3:x
a:A 6:x a:A 16:x a:A 6:x 59:A 7:x 2b:A 5:x 46:A a:x 1f:A 1:x c:A 4:x 9:A d:x 28:A 2:x 5:A b:x 2c:A
4:x 1a:A 6:x b:A 25:x 1c:A 4:x 3f:A 2:x 14:A b:x a:A 6:x a:A d:x 1:A 17:x 2:A b:x 3:A 31:x 34:A
1:x f:A 1:x 8:A 3:x a:A 26:x 2a:A 2:x 3a:A 1:x b:A e:x 37:A 9:x a:A 3:x 31:A 2:x b:A 5:x 2b:A 2:x
3:A 29:x 4:A 1:x 6:A 1:x 2:A 3:x 1:A 5:x c0:A 13:x 22:A b:x 116:A 2:x 6:A 2:x 26:A 2:x 6:A 2:x 8:A
1:x 1:A 1:x 1:A 1:x 1:A 1:x 1f:A 2:x 35:A 1:x 7:A 1:x 1:A 3:x 3:A 1:x 7:A 3:x 4:A 2:x 6:A 4:x d:A
5:x 3:A 1:x 7:A 73:x 2:A 2:x 6:A 5:x b:A 6:x d:A 65:x 1:A 4:x 1:A 2:x a:A 1:x 1:A 3:x 5:A 6:x 1:A
1:x 1:A 1:x 1:A 1:x 4:A 1:x b:A 2:x 4:A 5:x 5:A 4:x 1:A 1:x 3a:A 2d6:x 3c:A 1a:x 4a:A 276:x 1e:A
46c:x e5:A 6:x 4:A 3:x 2:A 9:x 1:A 2:x 26:A 1:x 1:A 5:x 1:A 2:x 38:A 7:x 1:A 10:x 17:A 9:x 7:A 1:x
7:A 1:x 7:A 1:x 7:A 1:x 7:A 1:x 7:A 1:x 7:A 1:x 7:A 1:x 20:A 2f:x 1:A 1d5:x 3:A 19:x 9:A 7:x 5:A
2:x 5:A 4:x 56:A 6:x 3:A 1:x 5a:A 1:x 4:A 5:x 2b:A 1:x 5e:A 3:x 4:A a:x 20:A 30:x 10:A 20:x a:A
1e:x 8:A 1:x f:A 20:x a:A 27:x f:A 140:x 19c0:A 40:x 568d:A 43:x 2e:A 2:x 10d:A 3:x 1c:A 14:x 2f:A
5:x 8:A 3:x 71:A 27:x 9:A 2:x 67:A 2:x 52:A 14:x 15:A 1:x 21:A 8:x 6:A a:x 34:A c:x 44:A 1:x 1:A
a:x a:A 18:x 6:A 3:x 1:A 1:x 2e:A 5:x 23:A d:x 1d:A 3:x 33:A 1:x c:A f:x b:A 6:x 1f:A 1:x 37:A 9:x
e:A 2:x a:A 6:x 17:A 3:x 45:A 1:x 1:A 1:x 1:A 18:x 3:A 2:x 10:A 2:x 4:A b:x 6:A 2:x 6:A 2:x 6:A
9:x 7:A 1:x 7:A 1:x 2b:A 1:x e:A 6:x 7b:A 5:x a:A 6:x 2ba4:A c:x 17:A 4:x 31:A 2104:x 16e:A 2:x
6a:A 26:x 7:A c:x 5:A 5:x c:A 1:x d:A 1:x 5:A 1:x 1:A 1:x 2:A 1:x 2:A 1:x 6c:A 21:x 16b:A 12:x
40:A 2:x 36:A 28:x c:A 74:x 5:A 1:x 87:A 13:x a:A 7:x 1a:A 6:x 1a:A b:x 59:A 3:x 6:A 2:x 6:A 2:x
6:A 2:x 3:A 23:x c:A 1:x 1a:A 1:x 13:A 1:x 2:A 1:x f:A 2:x e:A 22:x 7b:A c:x 2d:A c:x 39:A 11:x
2:A f4:x 1d:A 3:x 31:A 10:x 1b:A 4:x 24:A 9:x 1e:A 5:x 2b:A 5:x 1e:A 2:x 24:A 4:x 8:A 1:x 5:A 2a:x
9e:A 2:x a:A 6:x 24:A 4:x 24:A 4:x 28:A 8:x 34:A c:x b:A 1:x f:A 1:x 7:A 1:x 2:A 1:x b:A 1:x f:A
1:x 7:A 1:x 2:A 3:x 34:A c:x 137:A 9:x 16:A a:x 8:A 18:x 6:A 1:x 2a:A 1:x 9:A 45:x 6:A 2:x 1:A 1:x
2c:A 1:x 2:A 3:x 1:A 2:x 17:A 2:x 1f:A 2:x 26:A 8:x 9:A 30:x 13:A 1:x 2:A 5:x 21:A 4:x 1a:A 6:x
1a:A 26:x 38:A 4:x 14:A 2:x 32:A 1:x 2:A 5:x 8:A 1:x 3:A 1:x 1d:A a:x 9:A 17:x 1f:A 1:x 20:A 20:x
8:A 1:x 1c:A 6:x 5:A 10:x 36:A a:x 16:A 2:x 1b:A 5:x 1a:A 17:x 7:A 50:x 49:A 37:x 33:A d:x 33:A
7:x 2e:A 8:x a:A 6:x 26:A 3:x 1:A 5:x 17:A da:x 1f:A 1:x 2a:A 1:x 2:A 3:x 2:A 10:x 6:A 32:x 3:A
3:x 28:A 8:x 16:A b:x 4:A 1b:x 12:A 2e:x 1c:A 14:x 17:A 9:x 46:A c:x 1e:A 1:x 5:A a:x 39:A 9:x 1:A
d:x 19:A 7:x a:A 6:x 33:A 3:x a:A 4:x 4:A 8:x 23:A 3:x 1:A 9:x 40:A 1:x 4:A 9:x d:A 1:x 1:A 4:x
14:A b:x 12:A 1:x 22:A 2:x 1:A 6:x 4:A 3e:x 7:A 1:x 1:A 1:x 4:A 1:x f:A 1:x a:A 7:x 39:A 7:x a:A
6:x 4:A 1:x 8:A 2:x 2:A 2:x 16:A 1:x 7:A 1:x 2:A 1:x 5:A 3:x 8:A 2:x 2:A 2:x 2:A 3:x 1:A 6:x 1:A
5:x 7:A 1c:x a:A 1:x 1:A 2:x 1:A 1:x 26:A 1:x a:A 1:x 1:A 2:x 1:A 1:x 4:A 1:x 2:A 3:x 1:A 1:x 1:A
2c:x 42:A 1:x 3:A 1:x 4:A 5:x a:A 5:x 3:A 1e:x 42:A 2:x 2:A 1:x 1:A 8:x a:A a6:x 36:A 2:x 7:A 19:x
6:A 22:x 3f:A 1:x 1:A 3:x 1:A b:x a:A 26:x 36:A 2:x 1:A 7:x a:A 6:x 14:A 1c:x 1b:A 2:x e:A 5:x c:A
4:x 7:A b9:x 39:A 67:x 53:A c:x 8:A 2:x 1:A 2:x 8:A 1:x 2:A 1:x 1e:A 1:x 2:A 2:x 2:A 2:x 4:A d:x
a:A 46:x 8:A 2:x 2e:A 2:x 6:A 1:x 1:A 1:x 2:A 1b:x 33:A 2:x a:A 11:x 48:A 5:x 1:A 12:x 49:A 67:x
8:A 58:x 21:A f:x a:A 6:x 9:A 1:x 2d:A 1:x 7:A 1:x 1:A f:x 1d:A 5:x 1e:A 2:x 16:A 1:x e:A 49:x 7:A
1:x 2:A 1:x 2c:A 3:x 1:A 1:x 2:A 1:x 3:A 1:x 1:A 2:x 2:A 8:x a:A 6:x 6:A 1:x 2:A 1:x 25:A 1:x 2:A
1:x 4:A 1:x 1:A 7:x a:A 6:x 2c:A 4:x a:A f6:x 17:A 9:x 11:A 1:x 29:A 3:x 3:A f:x a:A 56:x 1:A f:x
15:A 2b:x 39a:A 66:x 6f:A 11:x c4:A a4c:x 61:A f:x 430:A 11:x 6:A 19:x f9b:A 5:x 247:A 1ab9:x 2f:A
1:x a:A 6c6:x 239:A 7:x 1f:A 1:x a:A 6:x 4f:A 1:x a:A 6:x 1e:A 12:x 30:A 10:x 4:A c:x a:A 1:x 7:A
1:x 15:A 5:x 13:A 1b0:x 2d:A 3:x a:A c6:x 57:A 9:x 19:A 2:x 19:A 2c:x 4b:A 4:x 39:A 7:x 11:A 40:x
2:A 1:x 1:A c:x 7:A 9:x 1cd6:A 29:x 20:A 61:x 73:A 21fd:x 4:A 1:x 7:A 1:x 2:A 1:x 123:A f:x 1:A
1d:x 3:A 2:x 1:A e:x 4:A 8:x 18c:A 904:x 6b:A 5:x d:A 3:x 9:A 7:x a:A 4:x 1:A 1051:x a:A 5c6:x
14:A c:x 14:A 6c:x 19:A 87:x 55:A 1:x 47:A 1:x 2:A 2:x 1:A 2:x 2:A 2:x 4:A 1:x c:A 1:x 1:A 1:x 7:A
1:x 41:A 1:x 4:A 2:x 8:A 1:x 7:A 1:x 1c:A 1:x 4:A 1:x 5:A 1:x 1:A 3:x 7:A 1:x 154:A 2:x 19:A 1:x
19:A 1:x 1f:A 1:x 19:A 1:x 1f:A 1:x 19:A 1:x 1f:A 1:x 19:A 1:x 1f:A 1:x 19:A 1:x 8:A 2:x 32:A
700:x 1f:A 6:x 6:A d5:x 7:A 1:x 11:A 2:x 7:A 1:x 2:A 1:x 5:A 5:x 3e:A 21:x 1:A 70:x 2d:A a:x 7:A
2:x a:A 4:x 1:A 141:x 1e:A 12:x 2c:A 4:x a:A 1d6:x 1c:A 4:x a:A d6:x 1e:A 2:x b:A c5:x 1f:A 1:x
16:A 8:x 2:A e0:x 7:A 1:x 4:A 1:x 2:A 1:x f:A 1:x c5:A 2:x 9:A 30:x 44:A 3:x 1:A 3:x 1:A 4:x a:A
317:x 3b:A 1:x 3:A 1:x 4:A 4c:x 2d:A 1:x f:A c2:x 4:A 1:x 1b:A 1:x 2:A 1:x 1:A 2:x 1:A 1:x a:A 1:x
4:A 1:x 1:A 1:x 1:A 6:x 1:A 4:x 1:A 1:x 1:A 1:x 1:A 1:x 3:A 1:x 2:A 1:x 1:A 2:x 1:A 1:x 1:A 1:x
1:A 1:x 1:A 1:x 1:A 1:x 2:A 1:x 1:A 2:x 4:A 1:x 7:A 1:x 4:A 1:x 4:A 1:x 1:A 1:x a:A 1:x 11:A 5:x
3:A 1:x 5:A 1:x 11:A 244:x d:A 23:x 1a:A 6:x 1a:A 6:x 1a:A a66:x a:A 406:x a6e0:A 20:x 111e:A 2:x
168e:A 2:x 1d31:A f:x 26e:A 9a2:x 21e:A 5e2:x 134b:A 5:x 212a:A dcb86:x"

/-- Whether each code point is a letter or a number. -/
def letters : Table Bool := .ofRuns (· == ['A']) letterText

/-- Whether a character is a letter or a number. -/
def isLetterOrNumber (c : Char) : Bool := (letters.floor? c.toNat).getD false

end Newsfeed.Unicode
