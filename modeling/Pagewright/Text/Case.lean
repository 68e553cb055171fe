/-
# Letter case

Full case mappings: a character may become several (`ß` becomes `SS`, `İ`
becomes `i` and a dot above). Lower-casing a text has one rule that looks at
the neighbours, for the capital sigma: it becomes the final form `ς` when a
cased letter stands before it and none after it, case-ignorable characters
being skipped on both sides, and `σ` otherwise.
-/

import Pagewright.Text.CaseTable

namespace Pagewright
namespace Text

/-- The characters of a mapping's image. -/
def mapped (special : List (Nat × List Nat)) (runs : List CaseRun) (c : Char) : List Char :=
  match special.lookup c.toNat with
  | some image => image.map Char.ofNat
  | none => [((CaseRun.image? runs c.toNat).map Char.ofNat).getD c]

/-- The upper-case form of a character. -/
def upper (c : Char) : List Char :=
  if c.toNat < 128 then [c.toUpper] else mapped upperSpecial upperRuns c

/-- The lower-case form of a character, neighbours left aside. -/
def lower (c : Char) : List Char :=
  if c.toNat < 128 then [c.toLower] else mapped lowerSpecial lowerRuns c

/-- Whether the first character that is not case-ignorable is cased. -/
def seesCased (s : List Char) : Bool :=
  match s.dropWhile fun c => inRanges caseIgnorable c.toNat with
  | [] => false
  | c :: _ => inRanges cased c.toNat

/-- Lower-cases the rest of a text whose part `before` (in reverse) is done. -/
def lowercaseAfter (before : List Char) : List Char → List Char
  | [] => []
  | c :: rest =>
    let image :=
      if c = 'Σ' then [if seesCased before && !seesCased rest then 'ς' else 'σ']
      else lower c
    image ++ lowercaseAfter (c :: before) rest

/-- The lower-case form of a text. -/
def lowercase (s : String) : String := String.ofList (lowercaseAfter [] s.toList)

end Text
end Pagewright
