import SafetyCenter.Proofs.Scenario.Conduct

set_option autoImplicit false

namespace SafetyCenter

namespace Scenario

/-- Receivers of calls take no steps, and end the calls in the given manner. -/
def World.Assigns (w : World) (cs : List Call) (manner : Call → Manner) : Prop :=
  ∀ c ∈ cs, w.conduct.steps c = [] ∧ w.conduct.manner c = manner c

end Scenario

end SafetyCenter
