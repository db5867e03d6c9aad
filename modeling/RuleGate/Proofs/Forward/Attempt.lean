import RuleGate.Proofs.Forward.Target
import RuleGate.Proofs.Gateway.ContentType

/-! # Attempts to forward

Forwarding is watched like a gateway is: what is sent is written down beside the world in which the
backend acts. Where the substitution names no backend nothing is sent, whatever the request is, and
only after something has been sent is the gateway a bad one.
-/
namespace RuleGate

namespace Rule

section

variable {m : Type → Type} [Monad m]

end

variable {σ : Type}

variable {r : Rule} {hop url : Text} {request : Request} {o : Outbound} {fault : ForwardFault}
  {backend : Transport → Request → StateM σ (Option Response)} {world : σ}

end Rule

end RuleGate
