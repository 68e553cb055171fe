/-
# Reading page files

A page file is a page in its JSON form. Its name must have a character that is not
blank.
-/

import Pagewright.Component.Codec
import Pagewright.Manifest.Failure
import Pagewright.Text.Position

namespace Pagewright
namespace Manifest

/-- The bytes of a text. -/
def bytesOf (text : String) : List UInt8 := text.toByteArray.toList

/-- Reads a page. A text that is no page is marked at the last byte that was taken. -/
def parsePage (text : String) : Except Failure Page :=
  match Page.parse text with
  | .error taken =>
    let bytes := bytesOf text
    .error (.malformedPage (Text.offset? bytes (Text.positionAt bytes taken)))
  | .ok page =>
    if (Text.trim page.name.toList).isEmpty then .error .unnamedPage else .ok page

end Manifest
end Pagewright
