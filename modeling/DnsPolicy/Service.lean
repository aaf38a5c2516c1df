import DnsPolicy.Decision
import DnsPolicy.Failure
import DnsPolicy.Rule.NetworkRule

/-! Services that can be blocked as a whole. -/
namespace DnsPolicy

structure Service where
  name : String
  rules : List NetworkRule

namespace Service

def ofTexts (name : String) (texts : List String) : Except Failure Service :=
  match texts.mapM fun text => NetworkRule.parse text.toList 0 with
  | .ok rules => .ok { name, rules }
  | .error fault => .error (.badRule fault)

def rule? (service : Service) (host : String) : Option NetworkRule :=
  service.rules.find? fun rule => rule.covers host []

/-- The first service with a rule about `host` decides. -/
def decide (host : String) : List Service → Decision
  | [] => .none
  | service :: more =>
    match service.rule? host with
    | some rule =>
      { Decision.ofReason .service with rule := rule.text, service := service.name }
    | none => decide host more

end Service

end DnsPolicy
