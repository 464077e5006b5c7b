/-
LeaseStore.Text.Blank — blank characters and trimming.

A character is blank when it has the property White_Space. `trim` removes
the blanks at both ends of a text and none from its middle.
-/

namespace LeaseStore.Text

/-- The characters with the property White_Space. -/
def isBlank (c : Char) : Bool :=
  let n := c.toNat
  (9 ≤ n && n ≤ 13) || n == 0x20 || n == 0x85 || n == 0xA0 || n == 0x1680 ||
    (0x2000 ≤ n && n ≤ 0x200A) || n == 0x2028 || n == 0x2029 || n == 0x202F ||
    n == 0x205F || n == 0x3000

/-- A text without its leading and trailing blanks. -/
def trim (cs : List Char) : List Char :=
  ((cs.dropWhile isBlank).reverse.dropWhile isBlank).reverse

/-- The string without its leading and trailing blanks. -/
def trimmed (s : String) : String := String.ofList (trim s.toList)

/-- The text with ASCII capitals made small; all other characters stay. -/
def lowered (s : String) : String := s.map Char.toLower

end LeaseStore.Text
