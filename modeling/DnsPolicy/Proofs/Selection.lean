import DnsPolicy.Ruleset.Index
import DnsPolicy.Ruleset.Scan
import Mathlib.Data.List.Basic

/-! How one network rule is chosen among several, by a scan and by a comparison of places. -/
namespace DnsPolicy.Scan

theorem priority_lt_iff {rule other : NetworkRule} :
    other.priority < rule.priority ↔ Outranks rule other := by
  unfold NetworkRule.priority Outranks
  cases other.tags <;> cases rule.tags <;> simp <;> omega

theorem highest?_eq_none_iff {rules : List NetworkRule} : highest? rules = none ↔ rules = [] := by
  cases rules with
  | nil => simp [highest?]
  | cons rule rest =>
    rw [highest?]
    split
    · simp
    · split <;> simp

private theorem isChosen_cons {passes : NetworkRule → Bool} {rule best : NetworkRule}
    {rest : List NetworkRule} :
    IsChosen passes (rule :: rest) best ↔
      (rule = best ∧ passes best ∧ ∀ other ∈ rest, passes other → ¬ Outranks other best) ∨
        (passes rule → Outranks best rule) ∧ IsChosen passes rest best := by
  constructor
  · rintro ⟨front,back,joined,passed,earlier,later⟩
    cases front with
    | nil =>
      obtain ⟨rfl,rfl⟩ := List.cons.inj joined
      exact Or.inl ⟨rfl,passed,later⟩
    | cons first front =>
      obtain ⟨rfl,rfl⟩ := List.cons.inj joined
      exact Or.inr ⟨earlier rule (by simp),front,back,rfl,passed,
        fun other member => earlier other (by simp [member]),later⟩
  · rintro (⟨rfl,passed,later⟩ | ⟨outranked,front,back,rfl,passed,earlier,later⟩)
    · exact ⟨[],rest,rfl,passed,by simp,later⟩
    · refine ⟨rule :: front,back,rfl,passed,?_,later⟩
      intro other member
      rcases List.mem_cons.mp member with rfl | inside
      · exact outranked
      · exact earlier other inside

theorem IsChosen.mem {passes : NetworkRule → Bool} {rules : List NetworkRule} {best : NetworkRule}
    (chosen : IsChosen passes rules best) : best ∈ rules ∧ passes best := by
  obtain ⟨front,back,rfl,passed,_⟩ := chosen
  exact ⟨by simp,passed⟩

theorem IsChosen.not_outranked {passes : NetworkRule → Bool} {rules : List NetworkRule}
    {best other : NetworkRule} (chosen : IsChosen passes rules best) (member : other ∈ rules)
    (passed : passes other) : ¬ Outranks other best := by
  obtain ⟨front,back,rfl,_,earlier,later⟩ := chosen
  rcases List.mem_append.mp member with before | rest
  · have above := priority_lt_iff.mpr (earlier other before passed)
    rw [← priority_lt_iff]
    omega
  · rcases List.mem_cons.mp rest with rfl | behind
    · simp [← priority_lt_iff]
    · exact later other behind passed

/-- The scan finds the chosen rule and no other. -/
theorem highest?_filter_eq_some_iff {passes : NetworkRule → Bool} {rules : List NetworkRule}
    {best : NetworkRule} :
    highest? (rules.filter passes) = some best ↔ IsChosen passes rules best := by
  induction rules generalizing best with
  | nil => simp [highest?,IsChosen]
  | cons rule rest ih =>
    rw [isChosen_cons]
    cases passed : passes rule with
    | false =>
      have refused : ¬ (rule = best ∧ passes best = true ∧
          ∀ other ∈ rest, passes other → ¬ Outranks other best) := by
        rintro ⟨rfl,held,_⟩
        simp [passed] at held
      simp [passed,ih,refused]
    | true =>
      rw [List.filter_cons_of_pos passed,highest?]
      cases scanned : highest? (rest.filter passes) with
      | none =>
        have alone : ∀ other ∈ rest, ¬ passes other :=
          List.filter_eq_nil_iff.mp (highest?_eq_none_iff.mp scanned)
        have nobody : ¬ IsChosen passes rest best := fun chosen =>
          alone best chosen.mem.1 chosen.mem.2
        simp only [Option.some.injEq,nobody,and_false,or_false]
        constructor
        · rintro rfl
          exact ⟨rfl,passed,fun other member held => absurd held (alone other member)⟩
        · exact fun found => found.1
      | some next =>
        have chosen : IsChosen passes rest next := ih.mp scanned
        have unique : IsChosen passes rest best ↔ next = best := by
          rw [← ih,scanned,Option.some.injEq]
        rw [unique]
        by_cases above : rule.priority < next.priority
        · have outranks := priority_lt_iff.mp above
          simp only [above,if_true,Option.some.injEq]
          constructor
          · rintro rfl
            exact Or.inr ⟨fun _ => outranks,rfl⟩
          · rintro (⟨rfl,_,highest⟩ | ⟨_,rfl⟩)
            · exact absurd outranks (highest next chosen.mem.1 chosen.mem.2)
            · rfl
        · simp only [above,if_false,Option.some.injEq]
          constructor
          · rintro rfl
            refine Or.inl ⟨rfl,passed,fun other member held => ?_⟩
            have below := chosen.not_outranked member held
            rw [← priority_lt_iff] at below ⊢
            omega
          · rintro (⟨rfl,_⟩ | ⟨outranks,rfl⟩)
            · rfl
            · exact absurd (priority_lt_iff.mpr (outranks trivial)) above

end DnsPolicy.Scan

namespace DnsPolicy.Index

private theorem not_precedes_trans {a b c : Nat × NetworkRule} (ab : precedes a b = false)
    (bc : precedes b c = false) : precedes a c = false := by
  simp only [precedes,Bool.or_eq_false_iff,Bool.and_eq_false_iff,decide_eq_false_iff_not,
    beq_eq_false_iff_ne] at *
  omega

private theorem first_spec (a b : Nat × NetworkRule) :
    (first a b = a ∨ first a b = b) ∧
      precedes a (first a b) = false ∧ precedes b (first a b) = false := by
  unfold first
  split
  next sooner =>
    refine ⟨Or.inr rfl,?_,by simp [precedes]⟩
    simp only [precedes,Bool.or_eq_true,Bool.and_eq_true,decide_eq_true_eq,beq_iff_eq,
      Bool.or_eq_false_iff,Bool.and_eq_false_iff,decide_eq_false_iff_not,beq_eq_false_iff_ne] at *
    omega
  next later => exact ⟨Or.inl rfl,by simp [precedes],by simpa using later⟩

/-- The winner of all comparisons is one of the rules, and no other precedes it. -/
theorem foldl_first (start : Nat × NetworkRule) (more : List (Nat × NetworkRule)) :
    more.foldl first start ∈ start :: more ∧
      ∀ other ∈ start :: more, precedes other (more.foldl first start) = false := by
  induction more generalizing start with
  | nil => simp [precedes]
  | cons next more ih =>
    obtain ⟨either,left,right⟩ := first_spec start next
    obtain ⟨member,least⟩ := ih (first start next)
    have reached := least (first start next) (by simp)
    rw [List.foldl_cons]
    constructor
    · rcases List.mem_cons.mp member with same | inside
      · rw [same]
        rcases either with kept | taken
        · simp [kept]
        · simp [taken]
      · simp [inside]
    · intro other present
      rw [List.mem_cons,List.mem_cons] at present
      rcases present with rfl | rfl | inside
      · exact not_precedes_trans left reached
      · exact not_precedes_trans right reached
      · exact least other (by simp [inside])

end DnsPolicy.Index
