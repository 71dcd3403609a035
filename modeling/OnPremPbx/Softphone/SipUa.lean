import Mathlib.Tactic

/-!
# The SIP layer of the softphones

What a call handle reports (`sip-ua.ts`). The web softphone and the mobile app share it.
-/

namespace SipUa

inductive SipCallState
  | calling | progressing | inCall | ended | failed
  deriving DecidableEq, Repr

structure SipCallStateChange where
  state : SipCallState
  detail : Option String := none
  deriving DecidableEq, Repr

/-- The handle reports that its call is over. -/
def SipCallStateChange.isEnd (change : SipCallStateChange) : Bool :=
  change.state == .ended || change.state == .failed

end SipUa
