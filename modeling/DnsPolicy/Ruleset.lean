import DnsPolicy.RuleList
import DnsPolicy.Ruleset.Index

/-! Rule sets: lists that were loaded and the index over their rules. -/
namespace DnsPolicy

structure Ruleset where
  lists : List RuleList
  index : Index

namespace Ruleset

def rulesOf (lists : List RuleList) : Except Failure (List Rule) :=
  (lists.mapM RuleList.rules).map List.flatten

/-- Loads every list before the first line is read. -/
def build (sources : List ListSource) : Except Failure Ruleset := do
  let lists ← sources.mapM RuleList.load
  let rules ← rulesOf lists
  return { lists, index := .ofRules rules }

def decide (rules : Ruleset) (host : String) (qtype : RecordType) (client : List String) :
    Decision :=
  match rules.index.lookup host client with
  | some hit => hit.decision qtype
  | none => .none

end Ruleset

end DnsPolicy
