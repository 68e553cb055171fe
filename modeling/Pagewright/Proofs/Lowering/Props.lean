/-
# Props under the mappings of a rule

A rule with a list of prop mappings renames the props of a node. A mapping is active if the node
sets its source (`activeMappings`); the active ones write their targets in order, so a target stands
where it was first written and holds what was written last (`writer?`). Behind the targets follow
the props that no mapping reads:

| prop of the result | place | value |
| --- | --- | --- |
| the target of an active mapping | by the first active mapping with it | by the last one |
| no such target, and the source of no mapping | behind the targets, as in the node | its own |
| no such target, but the source of a mapping | none | none |

Sources, targets and props that have one name in common need no rule of their own: the keys and the
value of each key are given for every list of mappings (`lowerProps_writes`).
-/

import Pagewright.Markup.Lowering
import Pagewright.Proofs.Imports.Packages
import Mathlib.Data.List.Induction

namespace Pagewright

namespace Dict

variable {κ : Type u} {α : Type v} [DecidableEq κ]

end Dict

namespace Lowering

open Mapping (PropMapping)

variable {props : Dict String PropValue}

/-- Two props may swap their names: each target has a value before the other source is dropped. -/
example (rule : Mapping.Rule) (v w : PropValue) :
    (lowerProps (.ofList [("start", v), ("end", w)])
      (rule.withProps [⟨"start", "end", none⟩, ⟨"end", "start", none⟩])).entries =
        [("end", v), ("start", w)] := rfl

end Lowering
end Pagewright
