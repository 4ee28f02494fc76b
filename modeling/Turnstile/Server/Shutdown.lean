import Turnstile.Activity

/-!
# Shutting a node down

A node that stops hands leadership over, for which it has a grace period.  Then it closes the
database and, unless that fails, itself; whether the handover succeeded does not matter.
-/

namespace Turnstile.Server

variable {I : Interface}

/-- Runs the second step only if the first one succeeds. -/
def closeInOrder (closeStore closeNode : Program I (Except Error Unit)) :
    Program I (Except Error Unit) :=
  closeStore.bind fun
    | .ok () => closeNode
    | .error e => .done (.error e)

/-- Shuts a node down, given its handover and the two closing steps. -/
def shutdown (grace : Nat) (handover closeStore closeNode : Program I (Except Error Unit)) :
    Activity I (Except Error Unit) :=
  .limited grace handover fun _ _ ↦ closeInOrder closeStore closeNode

end Turnstile.Server
