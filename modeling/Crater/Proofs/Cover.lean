import Mathlib.Data.List.Forall2
import Crater.Proofs.PlainMap
import Crater.Proofs.Sight

/-!
# Cover

More cover never hurts. Whom a blast hits and how near they are does not depend
on what stands between; how much of a body is in sight does, and with it the
damage, which rises with the exposure through every rounding of its formula.

Reports are compared impact by impact. That they list the same entities in the
same order is proved once, for any relation between impacts that looks at their
entities; what more cover does to one impact is proved apart.
-/

namespace Crater

open Numeral

/-! ## The damage curve -/

namespace ImpactRules

variable {rules : ImpactRules} {p q d : Float}

end ImpactRules

/-! ## Proximity -/

namespace ImpactRules

variable {explosion : Explosion} {s : Snapshot}

end ImpactRules

/-! ## One impact -/

namespace ImpactRules

variable {config : Config} {explosion : Explosion} {blocked blocked' : SightBlock}
  {candidates : List Snapshot} {s : Snapshot}

end ImpactRules

/-! ## Reports -/

namespace ImpactRules

section
variable {rules : ImpactRules} {explosion : Explosion} {blocked blocked' : SightBlock}
  {R : EntityImpact → EntityImpact → Prop} (hentity : ∀ i i', R i i' → i'.entity = i.entity)
include hentity

end

end ImpactRules

/-! ## A wall -/

end Crater
