import DnsPolicy.Proofs.Provenance

/-! What a rule set does to a host depends only on which kinds of rules it has about the host, and
not on their places. -/
namespace DnsPolicy

namespace Rule

/-- The rule blocks the host against all exceptions. -/
def insists (host : String) (client : List String) : Rule → Bool
  | .network rule => !rule.allow && rule.important && rule.covers host client
  | .host _ => false

/-- The rule is an exception for the host. -/
def excepts (host : String) (client : List String) : Rule → Bool
  | .network rule => rule.allow && rule.covers host client
  | .host _ => false

/-- The rule blocks the host, unless there is an exception. -/
def blocks (host : String) (client : List String) : Rule → Bool
  | .network rule => !rule.allow && rule.covers host client
  | .host rule => rule.covers host

end Rule

def Scan.reason (rules : List Rule) (host : String) (client : List String) : Reason :=
  if rules.any (Rule.insists host client) then .blocked
  else if rules.any (Rule.excepts host client) then .allowed
  else if rules.any (Rule.blocks host client) then .blocked
  else .notFound

/-- The reason of a decision, whatever type is queried. -/
def Hit.reason : Hit → Reason
  | .network rule => if rule.allow then .allowed else .blocked
  | .hosts [] [] => .notFound
  | .hosts _ _ => .blocked

private theorem Hit.reason_decision (hit : Hit) (qtype : RecordType) :
    (hit.decision qtype).reason = hit.reason := by
  cases hit with
  | network rule => rfl
  | hosts v4 v6 => cases v4 <;> cases v6 <;> cases qtype <;> rfl

private theorem Hit.filtered_decision (hit : Hit) (qtype : RecordType) :
    (hit.decision qtype).filtered = hit.reason.filters := by
  cases hit with
  | network rule => rfl
  | hosts v4 v6 => cases v4 <;> cases v6 <;> cases qtype <;> rfl

namespace Scan

variable {rules : List Rule} {host : String} {client : List String}

private theorem any_eq_false_of_uncovered (uncovered : ∀ rule ∈ networkRules rules, ¬ rule.covers host client) :
    rules.any (Rule.insists host client) = false ∧ rules.any (Rule.excepts host client) = false := by
  rw [List.any_eq_false,List.any_eq_false]
  constructor
  all_goals
    intro rule member
    cases rule with
    | network rule =>
      have misses := uncovered rule (mem_networkRules.mpr member)
      simp [Rule.insists,Rule.excepts,misses]
    | host rule => simp [Rule.insists,Rule.excepts]

private theorem any_blocks_iff_of_uncovered
    (uncovered : ∀ rule ∈ networkRules rules, ¬ rule.covers host client) :
    rules.any (Rule.blocks host client) = true ↔ ∃ rule ∈ hostRules rules, host ∈ rule.hostnames := by
  rw [List.any_eq_true]
  constructor
  · rintro ⟨rule,member,blocks⟩
    cases rule with
    | network rule =>
      have misses := uncovered rule (mem_networkRules.mpr member)
      simp [Rule.blocks,misses] at blocks
    | host rule => exact ⟨rule,mem_hostRules.mpr member,by simpa [Rule.blocks,HostRule.covers] using blocks⟩
  · rintro ⟨rule,member,listed⟩
    exact ⟨.host rule,mem_hostRules.mp member,by simpa [Rule.blocks,HostRule.covers] using listed⟩

private theorem rank_le_of_isChosen {best rule : NetworkRule}
    (chosen : IsChosen (·.covers host client) (networkRules rules) best)
    (member : rule ∈ networkRules rules) (covers : rule.covers host client = true) :
    rule.rank ≤ best.rank := by
  have below := chosen.not_outranked member covers
  by_contra above
  exact below (Or.inl (Nat.lt_of_not_le above))

/-- The chosen network rule is an exception where there is one and nothing insists. -/
theorem reason_of_isChosen {best : NetworkRule}
    (chosen : IsChosen (·.covers host client) (networkRules rules) best) :
    reason rules host client = (Hit.network best).reason := by
  obtain ⟨inside,covers⟩ := chosen.mem
  have present := mem_networkRules.mp inside
  have above : ∀ rule, Rule.network rule ∈ rules → rule.covers host client = true →
      rule.rank ≤ best.rank := fun rule member => rank_le_of_isChosen chosen (mem_networkRules.mpr member)
  cases allows : best.allow with
  | true =>
    have relents : rules.any (Rule.insists host client) = false := by
      rw [List.any_eq_false]
      intro rule member insists
      cases rule with
      | host rule => simp [Rule.insists] at insists
      | network rule =>
        simp only [Rule.insists,Bool.and_eq_true,Bool.not_eq_true'] at insists
        have low := above rule member insists.2
        simp [NetworkRule.rank,allows,insists] at low
    have excepts : rules.any (Rule.excepts host client) = true :=
      List.any_eq_true.mpr ⟨_,present,by simp [Rule.excepts,allows,covers]⟩
    simp [reason,Hit.reason,relents,excepts,allows]
  | false =>
    have blocks : rules.any (Rule.blocks host client) = true :=
      List.any_eq_true.mpr ⟨_,present,by simp [Rule.blocks,allows,covers]⟩
    cases important : best.important with
    | true =>
      have insists : rules.any (Rule.insists host client) = true :=
        List.any_eq_true.mpr ⟨_,present,by simp [Rule.insists,allows,important,covers]⟩
      simp [reason,Hit.reason,insists,allows]
    | false =>
      have excepts : rules.any (Rule.excepts host client) = false := by
        rw [List.any_eq_false]
        intro rule member excepts
        cases rule with
        | host rule => simp [Rule.excepts] at excepts
        | network rule =>
          simp only [Rule.excepts,Bool.and_eq_true] at excepts
          have low := above rule member excepts.2
          simp [NetworkRule.rank,allows,important,excepts.1] at low
      simp [reason,Hit.reason,blocks,excepts,allows]

private theorem reason_lookup (named : host ≠ "") (client : List String) :
    ((lookup rules host client).map Hit.reason).getD .notFound = reason rules host client := by
  have given := answers_lookup rules host client
  generalize lookup rules host client = answer at given
  cases given with
  | noHost empty => contradiction
  | network best _ chosen => exact (reason_of_isChosen chosen).symm
  | hosts _ uncovered bound =>
    obtain ⟨relents,excepts⟩ := any_eq_false_of_uncovered uncovered
    have blocks := (any_blocks_iff_of_uncovered uncovered).mpr bound
    have something := (Answers.hosts named uncovered bound).ne_nothing
    simp only [Option.map_some,Option.getD_some,reason,relents,excepts,blocks]
    unfold Hit.reason
    split
    · contradiction
    · next nothing => rw [nothing] at something; contradiction
    · rfl
  | silent _ uncovered unbound =>
    obtain ⟨relents,excepts⟩ := any_eq_false_of_uncovered uncovered
    have silent : rules.any (Rule.blocks host client) = false := by
      rw [Bool.eq_false_iff]
      intro blocks
      obtain ⟨rule,member,listed⟩ := (any_blocks_iff_of_uncovered uncovered).mp blocks
      exact unbound rule member listed
    simp [reason,relents,excepts,silent]

end Scan

namespace Ruleset

variable {sources : List ListSource} {ruleset : Ruleset} {host : String}

theorem reason_decide (built : Ruleset.build sources = .ok ruleset) (named : host ≠ "")
    (qtype : RecordType) (client : List String) :
    (ruleset.decide host qtype client).reason =
      Scan.reason (Scan.rulesOn ruleset.lists) host client := by
  rw [decide,(build_eq_ok built).2,Index.lookup_ofRules,← Scan.reason_lookup named]
  cases Scan.lookup (Scan.rulesOn ruleset.lists) host client with
  | none => rfl
  | some hit => exact hit.reason_decision qtype

theorem filtered_decide (ruleset : Ruleset) (host : String) (qtype : RecordType)
    (client : List String) :
    (ruleset.decide host qtype client).filtered = (ruleset.decide host qtype client).reason.filters := by
  rw [decide]
  split
  next hit found => rw [hit.filtered_decision,hit.reason_decision]
  next => rfl

end Ruleset

end DnsPolicy
