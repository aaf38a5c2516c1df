import DnsPolicy.Proofs.FirstFault
import DnsPolicy.Proofs.Rearranged

/-! A rule set built from two runs of lists is what the rule sets built from each of them are together:
it has the rules of both, and what it says of a host follows from what each of them says. -/
namespace DnsPolicy
open Text

/-- What two rule sets say together, of which the first stands in front. -/
def Hit.join : Option Hit → Option Hit → Option Hit
  | some (.network one), some (.network other) =>
    some (.network (if one.priority < other.priority then other else one))
  | some (.network one), _ => some (.network one)
  | _, some (.network other) => some (.network other)
  | some (.hosts v4 v6), some (.hosts otherV4 otherV6) => some (.hosts (v4 ++ otherV4) (v6 ++ otherV6))
  | some hit, none => some hit
  | none, hit => hit

private theorem Hit.join_ofHostRules (rules others : List HostRule) :
    join (some (ofHostRules rules)) (some (ofHostRules others)) = some (ofHostRules (rules ++ others)) := by
  simp only [join,ofHostRules,List.filter_append]

namespace Scan

/-- Of two rules the one with the higher priority, and the first if they have the same. -/
def higher : Option NetworkRule → Option NetworkRule → Option NetworkRule
  | none, other => other
  | one, none => one
  | some one, some other => if one.priority < other.priority then some other else some one

private theorem higher_none (one : Option NetworkRule) : higher one none = one := by
  cases one <;> rfl

private theorem higher_assoc (a b c : Option NetworkRule) :
    higher (higher a b) c = higher a (higher b c) := by
  cases a with
  | none => rfl
  | some a =>
    cases b with
    | none => rfl
    | some b =>
      cases c with
      | none => simp only [higher_none]
      | some c =>
        by_cases ab : a.priority < b.priority <;> by_cases bc : b.priority < c.priority <;>
          by_cases ac : a.priority < c.priority <;> simp [higher,ab,bc,ac] <;> omega

private theorem highest?_cons (rule : NetworkRule) (rules : List NetworkRule) :
    highest? (rule :: rules) = higher (some rule) (highest? rules) := by
  rw [highest?]
  cases highest? rules <;> rfl

private theorem highest?_append (rules others : List NetworkRule) :
    highest? (rules ++ others) = higher (highest? rules) (highest? others) := by
  induction rules with
  | nil => rfl
  | cons rule rules ih => rw [List.cons_append,highest?_cons,highest?_cons,ih,higher_assoc]

theorem lookup_append (rules others : List Rule) (host : String) (client : List String) :
    lookup (rules ++ others) host client =
      Hit.join (lookup rules host client) (lookup others host client) := by
  have network : networkRules (rules ++ others) = networkRules rules ++ networkRules others :=
    List.filterMap_append
  have hosts : hostRules (rules ++ others) = hostRules rules ++ hostRules others :=
    List.filterMap_append
  simp only [lookup,network,hosts,List.filter_append,highest?_append]
  split
  · rfl
  · cases highest? ((networkRules rules).filter fun rule => rule.covers host client) with
    | some one =>
      cases highest? ((networkRules others).filter fun rule => rule.covers host client) with
      | some other =>
        by_cases lower : one.priority < other.priority <;> simp [higher,Hit.join,lower]
      | none =>
        cases (hostRules others).filter fun rule => rule.covers host <;> rfl
    | none =>
      cases highest? ((networkRules others).filter fun rule => rule.covers host client) with
      | some other =>
        cases (hostRules rules).filter fun rule => rule.covers host <;> rfl
      | none =>
        cases (hostRules rules).filter fun rule => rule.covers host with
        | nil =>
          cases (hostRules others).filter fun rule => rule.covers host <;> rfl
        | cons first more =>
          cases (hostRules others).filter fun rule => rule.covers host with
          | nil => simp [higher,Hit.join,Hit.ofHostRules]
          | cons other others => exact (Hit.join_ofHostRules (first :: more) (other :: others)).symm

private theorem rulesOn_append (lists others : List RuleList) :
    rulesOn (lists ++ others) = rulesOn lists ++ rulesOn others := List.flatMap_append

end Scan

namespace Ruleset

variable {xs ys : List ListSource} {first second joined : Ruleset}

/-- The rules of the set, as they stand on the lines of its lists. -/
def rules (ruleset : Ruleset) : List Rule := Scan.rulesOn ruleset.lists

theorem networkRules_of_build (built : build xs = .ok first) :
    first.index.networkRules.toList = Scan.networkRules first.rules ∧
      first.index.hostRules.toList = Scan.hostRules first.rules := by
  obtain ⟨_,indexed⟩ := build_eq_ok built
  rw [indexed]
  have holds := Index.holds_ofRules (Scan.rulesOn first.lists)
  exact ⟨holds.networkRules,holds.hostRules⟩

theorem lookup_of_build (built : build xs = .ok first) (host : String) (client : List String) :
    first.index.lookup host client = Scan.lookup first.rules host client := by
  rw [(build_eq_ok built).2,Index.lookup_ofRules,rules]

theorem exists_build_append_iff :
    (∃ joined, build (xs ++ ys) = .ok joined) ↔
      (∃ first, build xs = .ok first) ∧ ∃ second, build ys = .ok second := by
  simp only [exists_build_iff,List.forall_mem_append]

theorem rules_append (built : build xs = .ok first) (also : build ys = .ok second)
    (both : build (xs ++ ys) = .ok joined) : joined.rules = first.rules ++ second.rules := by
  have loads := (build_eq_ok both).1
  rw [List.mapM_append,(build_eq_ok built).1,(build_eq_ok also).1] at loads
  have lists : first.lists ++ second.lists = joined.lists := Except.ok.inj loads
  rw [rules,← lists,Scan.rulesOn_append]
  rfl

theorem sizes_append (built : build xs = .ok first) (also : build ys = .ok second)
    (both : build (xs ++ ys) = .ok joined) :
    joined.index.networkRules.size = first.index.networkRules.size + second.index.networkRules.size ∧
      joined.index.hostRules.size = first.index.hostRules.size + second.index.hostRules.size := by
  simp only [← Array.length_toList,networkRules_of_build both,networkRules_of_build built,
    networkRules_of_build also,rules_append built also both]
  simp [Scan.networkRules,Scan.hostRules]

end Ruleset
end DnsPolicy
