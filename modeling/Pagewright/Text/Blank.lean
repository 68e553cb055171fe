/-
# Blank characters

The white-space property of the character database: the five controls
`U+0009`–`U+000D`, the space, `U+0085`, `U+00A0`, `U+1680`, the spaces
`U+2000`–`U+200A`, the two separators, `U+202F`, `U+205F` and `U+3000`. The
zero-width space is not blank.
-/

namespace Pagewright
namespace Text

/-- Whether a character has the white-space property. -/
def isBlank (c : Char) : Bool :=
  let n := c.toNat
  (9 ≤ n && n ≤ 13) || n == 0x20 || n == 0x85 || n == 0xA0 || n == 0x1680 ||
    (0x2000 ≤ n && n ≤ 0x200A) || n == 0x2028 || n == 0x2029 || n == 0x202F ||
    n == 0x205F || n == 0x3000

/-- A text without the blanks at its end. -/
def trimEnd (s : List Char) : List Char := (s.reverse.dropWhile isBlank).reverse

/-- A text without the blanks at either end. -/
def trim (s : List Char) : List Char := trimEnd (s.dropWhile isBlank)

end Text
end Pagewright
