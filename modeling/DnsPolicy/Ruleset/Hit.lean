import DnsPolicy.Decision
import DnsPolicy.RecordType
import DnsPolicy.Rule

/-! What a rule set says about a host, and the decision that follows for a query type. -/
namespace DnsPolicy

/-- Either the network rule that decides, or the host rules for the name, by family and in order. -/
inductive Hit where
  | network (rule : NetworkRule)
  | hosts (v4 v6 : List HostRule)

namespace Hit

def ofHostRules (rules : List HostRule) : Hit :=
  .hosts (rules.filter fun rule => rule.address.isV4) (rules.filter fun rule => rule.address.isV6)

def answering (v4 v6 : List HostRule) : RecordType → Option HostRule
  | .a => v4.head?
  | .aaaa => v6.head?
  | _ => none

def ofNetwork (rule : NetworkRule) : Decision :=
  { Decision.ofReason (if rule.allow then .allowed else .blocked) with
    rule := rule.text, listId := rule.listId }

def ofHostRule (rule : HostRule) (address : Option Address) : Decision :=
  { Decision.ofReason .blocked with rule := rule.text, listId := rule.listId, address }

/-- A name with addresses of the other family only is blocked all the same, without an answer. -/
def decision (qtype : RecordType) : Hit → Decision
  | .network rule => ofNetwork rule
  | .hosts v4 v6 =>
    match answering v4 v6 qtype with
    | some rule => ofHostRule rule (some rule.address)
    | none =>
      match v4.head?.or v6.head? with
      | some rule => ofHostRule rule none
      | none => .none

end Hit

end DnsPolicy
