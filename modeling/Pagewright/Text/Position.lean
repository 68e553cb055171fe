/-
# Lines and columns

A place in a text, between two of its bytes, is given by the number of bytes before
it or by a line and a column. Lines count from one and end with a line feed; the
column is the number of bytes after the last line feed.
-/

namespace Pagewright
namespace Text

/-- A line and a column. -/
structure Position where
  line : Nat
  column : Nat
deriving DecidableEq

/-- The byte that ends a line. -/
def lineFeed : UInt8 := 10

/-- The position after the first `k` bytes. -/
def positionAt (bytes : List UInt8) (k : Nat) : Position :=
  let before := bytes.take k
  ⟨1 + before.count lineFeed, (before.reverse.takeWhile (· != lineFeed)).length⟩

/-- The number of bytes in the first lines of a text. -/
def lengthOfLines : Nat → List UInt8 → Nat
  | 0, _ => 0
  | _, [] => 0
  | n + 1, b :: bytes =>
    1 + if b = lineFeed then lengthOfLines n bytes else lengthOfLines (n + 1) bytes

/-- The number of bytes before the byte that a position is right behind; at the
start of a line, before the position itself. There is no line zero. -/
def offset? (bytes : List UInt8) (p : Position) : Option Nat :=
  if p.line = 0 then none
  else some (min (lengthOfLines (p.line - 1) bytes + (p.column - 1)) bytes.length)

end Text
end Pagewright
