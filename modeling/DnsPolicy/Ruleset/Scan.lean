import DnsPolicy.RuleList
import DnsPolicy.Ruleset.Hit

/-! The plain meaning of a rule set: all rules are gone through in order. -/
namespace DnsPolicy.Scan
open Text

def rulesOn (lists : List RuleList) : List Rule :=
  lists.flatMap fun list =>
    (lines list.contents.toList).filterMap fun line => (Rule.parseLine line list.id).toOption.join

def networkRules (rules : List Rule) : List NetworkRule :=
  rules.filterMap fun
    | .network rule => some rule
    | .host _ => none

def hostRules (rules : List Rule) : List HostRule :=
  rules.filterMap fun
    | .network _ => none
    | .host rule => some rule

def highest? : List NetworkRule → Option NetworkRule
  | [] => none
  | rule :: rest =>
    match highest? rest with
    | none => some rule
    | some best => if rule.priority < best.priority then some best else some rule

def lookup (rules : List Rule) (host : String) (client : List String) : Option Hit :=
  if host.isEmpty then none
  else
    match highest? ((networkRules rules).filter fun rule => rule.covers host client) with
    | some rule => some (.network rule)
    | none =>
      match (hostRules rules).filter fun rule => rule.covers host with
      | [] => none
      | found => some (.ofHostRules found)

/-- `rule` is of a higher rank than `other`, or of the same and only `rule` is for tagged clients. -/
def Outranks (rule other : NetworkRule) : Prop :=
  other.rank < rule.rank ∨ rule.rank = other.rank ∧ rule.tags.isSome ∧ other.tags.isNone

/-- Of the rules that pass, `best` is one that none outranks, and the first of these. -/
def IsChosen (passes : NetworkRule → Bool) (rules : List NetworkRule) (best : NetworkRule) : Prop :=
  ∃ front back, rules = front ++ best :: back ∧ passes best ∧
    (∀ rule ∈ front, passes rule → Outranks best rule) ∧
    ∀ rule ∈ back, passes rule → ¬ Outranks rule best

inductive Answers (rules : List Rule) (host : String) (client : List String) : Option Hit → Prop
  | noHost (empty : host = "") : Answers rules host client none
  | network (best : NetworkRule) (named : host ≠ "")
      (chosen : IsChosen (·.covers host client) (networkRules rules) best) :
      Answers rules host client (some (.network best))
  | hosts (named : host ≠ "") (uncovered : ∀ rule ∈ networkRules rules, ¬ rule.covers host client)
      (bound : ∃ rule ∈ hostRules rules, host ∈ rule.hostnames) :
      Answers rules host client (some (.hosts
        ((hostRules rules).filter fun rule => host ∈ rule.hostnames ∧ rule.address.isV4)
        ((hostRules rules).filter fun rule => host ∈ rule.hostnames ∧ rule.address.isV6)))
  | silent (named : host ≠ "") (uncovered : ∀ rule ∈ networkRules rules, ¬ rule.covers host client)
      (unbound : ∀ rule ∈ hostRules rules, host ∉ rule.hostnames) : Answers rules host client none

end DnsPolicy.Scan
