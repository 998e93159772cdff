/-!
# Blank characters

The characters with the Unicode property `White_Space`, and texts made of nothing else. Zero-width
characters and the byte order mark are not blank.

* `trim_of_all_blank`, `trim_blank_append` : trimming a blank text leaves nothing, and blanks put
  in front of a text make no difference to it.
-/

namespace Newsfeed.Text

/-- The property `White_Space`. -/
def isBlank (c : Char) : Bool :=
  let n := c.toNat
  (0x09 ≤ n && n ≤ 0x0D) || n == 0x20 || n == 0x85 || n == 0xA0 || n == 0x1680 ||
  (0x2000 ≤ n && n ≤ 0x200A) || n == 0x2028 || n == 0x2029 || n == 0x202F || n == 0x205F ||
  n == 0x3000

/-- A text without its leading blanks. -/
def trimStart (s : List Char) : List Char := s.dropWhile isBlank

/-- A text without its trailing blanks. -/
def trimEnd (s : List Char) : List Char := (s.reverse.dropWhile isBlank).reverse

/-- A text without the blanks at its two ends. -/
def trim (s : List Char) : List Char := trimEnd (trimStart s)

/-- Whether a text holds blanks only. -/
def isAllBlank (s : List Char) : Bool := s.all isBlank

theorem trimStart_eq_nil_iff (s : List Char) : trimStart s = [] ↔ isAllBlank s = true := by
  induction s with
  | nil => simp [trimStart, isAllBlank]
  | cons c r ih => by_cases h : isBlank c = true <;> simp_all [trimStart, isAllBlank]

theorem trim_of_all_blank {s : List Char} (h : isAllBlank s = true) : trim s = [] := by
  simp [trim, trimEnd, (trimStart_eq_nil_iff s).2 h]

theorem trim_blank_append {b : List Char} (s : List Char) (h : isAllBlank b = true) :
    trim (b ++ s) = trim s := by
  have hb : b.dropWhile isBlank = [] := (trimStart_eq_nil_iff b).2 h
  have : trimStart (b ++ s) = trimStart s := by
    simp [trimStart, List.dropWhile_append, hb]
  simp [trim, this]

end Newsfeed.Text
