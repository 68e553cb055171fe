/-
# What becomes of a string

On mini programs and in browsers a string is kept unless it is one of these:

| attribute | platform | string | becomes |
| --- | --- | --- | --- |
| no colour | mini program | a number and `px` | the number and `rpx` |
| no colour | browser | a number and `rpx` | the number and `px` |
| a colour | mini program | an opaque colour with alpha | the colour without alpha |

The number is the one of a length (`IsNumber`), and there is nothing around it and its unit. There
may be blanks around the colour and behind its commas (`Rgba.IsWritten`), which are gone afterwards.
So `1.2.3px`, `1.px`, `1PX` and `0 1px` stay as they are, and so does `rgba(0 ,0,0,1)`.
-/

import Pagewright.Proofs.Style.Lengths
import Pagewright.Proofs.Style.Rgba

namespace Pagewright
namespace Style

variable {p : Platform} {key s t : String}

end Style
end Pagewright
