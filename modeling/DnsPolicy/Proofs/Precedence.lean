import DnsPolicy.Policy
import DnsPolicy.Proofs.Lookup

/-! What each stage of a check says about a host, and which of them has the last word. -/
namespace DnsPolicy

def RulePair.decideBy (rules : Option Ruleset) (host : String) (qtype : RecordType)
    (client : List String) : Decision :=
  match rules with
  | none => .none
  | some rules => rules.decide host qtype client

namespace Policy

/-- What every stage would say, were it asked. -/
structure Findings where
  rewritten : Decision
  blocked : Decision
  allowed : Decision
  service : Decision
  verdict : Decision

def findings (policy : Policy) (host : String) (qtype : RecordType) (profile : Profile) :
    Findings :=
  let host := Hostname.lower host
  { rewritten := policy.settings.rewrites.resolve host qtype
    blocked := RulePair.decideBy policy.reloader.pair.block host qtype profile.tags
    allowed := RulePair.decideBy policy.reloader.pair.allow host qtype profile.tags
    service := Service.decide host profile.services
    verdict := (policy.panel.decide host (classifierOrder.filter profile.wants)).1 }

namespace Findings

/-- The block lists block, and the allow lists match in any way. -/
def lifted (findings : Findings) : Bool :=
  findings.blocked.reason == .blocked && findings.allowed.matched

def early (findings : Findings) (filtering : Bool) : Decision :=
  if findings.rewritten.matched then findings.rewritten
  else if filtering && findings.blocked.matched && !findings.lifted then findings.blocked
  else findings.service

/-- The first stage that matches, where rules count only if they are asked for and not lifted. -/
def outcome (findings : Findings) (filtering : Bool) : Decision :=
  if findings.rewritten.matched then findings.rewritten
  else if filtering && findings.blocked.matched && !findings.lifted then findings.blocked
  else if findings.service.matched then findings.service
  else findings.verdict

end Findings

def withoutAllow (policy : Policy) : Policy :=
  { policy with
    reloader := { policy.reloader with pair := { policy.reloader.pair with allow := none } } }

variable {policy : Policy} {host : String} {qtype : RecordType} {profile : Profile}

@[simp] theorem matched_none : Decision.none.matched = false := rfl

theorem distinct_wanted (profile : Profile) : (classifierOrder.filter profile.wants).Nodup :=
  List.Nodup.sublist List.filter_sublist (by decide)

private theorem matchRules_eq (pair : RulePair) (host : String) (qtype : RecordType)
    (client : List String) :
    matchRules pair host qtype client =
      if (RulePair.decideBy pair.block host qtype client).reason == .blocked &&
          (RulePair.decideBy pair.allow host qtype client).matched then .none
      else RulePair.decideBy pair.block host qtype client := by
  unfold matchRules
  cases pair.block with
  | none => simp [RulePair.decideBy]
  | some block =>
    by_cases blocked : (block.decide host qtype client).reason = .blocked
    · cases pair.allow <;> simp [RulePair.decideBy,blocked]
    · simp [RulePair.decideBy,blocked]

theorem decideEarly_eq (policy : Policy) (host : String) (qtype : RecordType) (profile : Profile) :
    policy.decideEarly (Hostname.lower host) qtype profile =
      (policy.findings host qtype profile).early profile.filtering := by
  have rewritten : policy.settings.rewrites.resolve (Hostname.lower host) qtype =
      (policy.findings host qtype profile).rewritten := rfl
  have ruled : matchRules policy.reloader.pair (Hostname.lower host) qtype profile.tags =
      if (policy.findings host qtype profile).lifted then .none
      else (policy.findings host qtype profile).blocked := matchRules_eq ..
  have service : Service.decide (Hostname.lower host) profile.services =
      (policy.findings host qtype profile).service := rfl
  simp only [decideEarly,rewritten,ruled,service,Findings.early]
  cases profile.filtering with
  | false => simp
  | true =>
    cases (policy.findings host qtype profile).lifted with
    | true => simp
    | false => simp

theorem check_eq (opened : policy.reloader.closing = false) (named : host ≠ "")
    (qtype : RecordType) (profile : Profile) :
    policy.check host qtype profile =
      if ((policy.findings host qtype profile).early profile.filtering).matched then
        (.ok ((policy.findings host qtype profile).early profile.filtering),policy)
      else (.ok (policy.findings host qtype profile).verdict,
        { policy with
          panel := (policy.panel.decide (Hostname.lower host)
            (classifierOrder.filter profile.wants)).2 }) := by
  have full : host.isEmpty = false := by simpa using named
  simp only [check,opened,full,decideEarly_eq,Bool.false_eq_true,if_false]
  rfl

theorem Findings.outcome_eq (findings : Findings) (filtering : Bool) :
    findings.outcome filtering =
      if (findings.early filtering).matched then findings.early filtering
      else findings.verdict := by
  unfold outcome early
  cases rewritten : findings.rewritten.matched with
  | true => simp [rewritten]
  | false =>
    cases ruled : filtering && findings.blocked.matched && !findings.lifted with
    | true =>
      simp only [Bool.and_eq_true] at ruled
      simp [ruled]
    | false => simp

theorem check_fst (opened : policy.reloader.closing = false) (named : host ≠ "")
    (qtype : RecordType) (profile : Profile) :
    (policy.check host qtype profile).1 =
      .ok ((policy.findings host qtype profile).outcome profile.filtering) := by
  rw [check_eq opened named,Findings.outcome_eq]
  split <;> rfl

theorem checkRules_eq (opened : policy.reloader.closing = false) (named : host ≠ "") :
    policy.checkRules host qtype profile =
      .ok (if profile.filtering then (policy.findings host qtype profile).blocked else .none) := by
  simp only [checkRules,findings,RulePair.decideBy,opened]
  cases profile.filtering with
  | false => simp
  | true => cases policy.reloader.pair.block <;> simp [named]

theorem check_eq_ok {decision : Decision} (given : (policy.check host qtype profile).1 = .ok decision) :
    decision = .none ∨ decision = (policy.findings host qtype profile).outcome profile.filtering := by
  cases opened : policy.reloader.closing with
  | true => simp [check,opened] at given
  | false =>
    by_cases named : host = ""
    · simp only [check,opened,named] at given
      exact Or.inl (Except.ok.inj given).symm
    · rw [check_fst opened named] at given
      exact Or.inr (Except.ok.inj given).symm

theorem checkRules_eq_ok {decision : Decision} (given : policy.checkRules host qtype profile = .ok decision) :
    decision = .none ∨ decision = (policy.findings host qtype profile).blocked := by
  cases opened : policy.reloader.closing with
  | true => simp [checkRules,opened] at given
  | false =>
    by_cases named : host = ""
    · simp [checkRules,opened,named] at given
      exact Or.inl given.symm
    · rw [checkRules_eq opened named] at given
      have same := Except.ok.inj given
      split at same
      · exact Or.inr same.symm
      · exact Or.inl same.symm

theorem check_fst_congr {other : Policy}
    (closing : other.reloader.closing = policy.reloader.closing)
    (same : host ≠ "" → other.findings host qtype profile = policy.findings host qtype profile) :
    (other.check host qtype profile).1 = (policy.check host qtype profile).1 := by
  cases opened : policy.reloader.closing with
  | true => simp [check,closing,opened]
  | false =>
    by_cases named : host = ""
    · simp [check,closing,opened,named]
    · rw [check_fst (closing.trans opened) named,check_fst opened named,same named]

theorem checkRules_congr {other : Policy}
    (closing : other.reloader.closing = policy.reloader.closing)
    (same : host ≠ "" → other.findings host qtype profile = policy.findings host qtype profile) :
    other.checkRules host qtype profile = policy.checkRules host qtype profile := by
  cases opened : policy.reloader.closing with
  | true => simp [checkRules,closing,opened]
  | false =>
    by_cases named : host = ""
    · simp [checkRules,closing,opened,named]
    · rw [checkRules_eq (closing.trans opened) named,checkRules_eq opened named,same named]

private theorem reason_ofNetwork {rule : NetworkRule} (exception : rule.allow = true) :
    (Hit.ofNetwork rule).reason = .allowed := by
  simp [Hit.ofNetwork,Decision.ofReason,exception]

private theorem Findings.lifted_of_allowed {findings : Findings}
    (allowed : findings.blocked.reason = .allowed) : findings.lifted = false := by
  simp [lifted,allowed]

private theorem Findings.outcome_of_not_lifted {findings : Findings}
    (unwritten : findings.rewritten.matched = false) (matched : findings.blocked.matched = true)
    (kept : findings.lifted = false) : findings.outcome true = findings.blocked := by
  simp [outcome,unwritten,matched,kept]

private theorem Findings.outcome_without_allowed {findings : Findings}
    (kept : findings.lifted = false) (filtering : Bool) :
    ({ findings with allowed := .none } : Findings).outcome filtering =
      findings.outcome filtering := by
  have other : ({ findings with allowed := .none } : Findings).lifted = false := by
    simp [lifted]
  simp only [outcome,other,kept]

private theorem findings_withoutAllow (policy : Policy) (host : String) (qtype : RecordType)
    (profile : Profile) :
    policy.withoutAllow.findings host qtype profile =
      { policy.findings host qtype profile with allowed := .none } := rfl

private theorem early_of_exception {block : Ruleset} {rule : NetworkRule}
    (installed : policy.reloader.pair.block = some block)
    (decides : block.index.lookup (Hostname.lower host) profile.tags = some (.network rule))
    (exception : rule.allow = true)
    (unwritten : (policy.findings host qtype profile).rewritten.matched = false) :
    (policy.findings host qtype profile).early true = Hit.ofNetwork rule := by
  have blocked : (policy.findings host qtype profile).blocked = Hit.ofNetwork rule := by
    simp only [findings,RulePair.decideBy,installed,Ruleset.decide,decides]
    rfl
  have reason := reason_ofNetwork exception
  have kept : (policy.findings host qtype profile).lifted = false :=
    Findings.lifted_of_allowed (by rw [blocked,reason])
  have matched : (Hit.ofNetwork rule).matched = true := by
    simp [Decision.matched,reason,Reason.matched]
  simp [Findings.early,unwritten,kept,blocked,matched]

/-- Where the allow lists lift a block, all is as if no rules were asked for. -/
theorem check_of_lifted (opened : policy.reloader.closing = false) (named : host ≠ "")
    (lifted : (policy.findings host qtype profile).lifted = true) :
    policy.check host qtype profile = policy.check host qtype { profile with filtering := false } := by
  have same : (policy.findings host qtype profile).early profile.filtering =
      (policy.findings host qtype { profile with filtering := false }).early false := by
    simp only [Findings.early,lifted,Bool.not_true,Bool.and_false,Bool.false_and]
    rfl
  rw [check_eq opened named,check_eq opened named,same]
  rfl

/-- Where they lift none, all is as if there were no allow lists. -/
theorem check_of_not_lifted (opened : policy.reloader.closing = false) (named : host ≠ "")
    (kept : (policy.findings host qtype profile).lifted = false) :
    (policy.check host qtype profile).1 = (policy.withoutAllow.check host qtype profile).1 := by
  have stillOpen : policy.withoutAllow.reloader.closing = false := opened
  rw [check_fst opened named,check_fst stillOpen named,findings_withoutAllow,
    Findings.outcome_without_allowed kept]

private theorem check_of_exception (opened : policy.reloader.closing = false) (named : host ≠ "")
    (filtering : profile.filtering = true)
    (unwritten : (policy.findings host qtype profile).rewritten.matched = false)
    {block : Ruleset} {rule : NetworkRule} (installed : policy.reloader.pair.block = some block)
    (decides : block.index.lookup (Hostname.lower host) profile.tags = some (.network rule))
    (exception : rule.allow = true) :
    policy.check host qtype profile = (.ok (Hit.ofNetwork rule),policy) := by
  rw [check_eq opened named,filtering,early_of_exception installed decides exception unwritten]
  simp [Decision.matched,reason_ofNetwork exception,Reason.matched]

private theorem check_of_checkRules (opened : policy.reloader.closing = false) (named : host ≠ "")
    (filtering : profile.filtering = true) {ruled : Decision}
    (given : policy.checkRules host qtype profile = .ok ruled) (matched : ruled.matched = true)
    (unwritten : (policy.findings host qtype profile).rewritten.matched = false)
    (kept : ¬ (ruled.reason = .blocked ∧
      (policy.findings host qtype profile).allowed.matched = true)) :
    (policy.check host qtype profile).1 = .ok ruled := by
  rw [checkRules_eq opened named,filtering] at given
  have same : (policy.findings host qtype profile).blocked = ruled := Except.ok.inj given
  rw [← same] at matched kept
  have unlifted : (policy.findings host qtype profile).lifted = false := by
    apply Bool.eq_false_iff.mpr
    intro lifted
    exact kept (by simpa [Findings.lifted] using lifted)
  rw [check_fst opened named,filtering,← same,
    Findings.outcome_of_not_lifted unwritten matched unlifted]

theorem lower_ne_empty (named : host ≠ "") : Hostname.lower host ≠ "" := by
  cases letters : host.toList with
  | nil => exact absurd (String.toList_eq_nil_iff.mp letters) named
  | cons c rest =>
    intro empty
    have none : Unicode.lower host.toList = [] := by simpa [Hostname.lower] using empty
    rw [letters,Unicode.lower,Unicode.lowerAfter,List.append_eq_nil_iff] at none
    have first := none.1
    split at first
    · contradiction
    · unfold Unicode.lowerChar at first
      split at first
      · contradiction
      · split at first <;> contradiction

private theorem exists_exception {rules : List Rule} {client : List String} {rule : NetworkRule}
    (named : host ≠ "") (member : rule ∈ Scan.networkRules rules)
    (covers : rule.covers host client = true) (exception : rule.allow = true)
    (unbeaten : ∀ other ∈ Scan.networkRules rules, other.covers host client = true →
      other.important = true → other.allow = true) :
    ∃ best ∈ Scan.networkRules rules, best.allow = true ∧ best.covers host client = true ∧
      Scan.lookup rules host client = some (.network best) := by
  have given := Scan.answers_lookup rules host client
  generalize Scan.lookup rules host client = answer at given
  cases given with
  | noHost empty => contradiction
  | hosts _ uncovered => exact absurd covers (uncovered rule member)
  | silent _ uncovered => exact absurd covers (uncovered rule member)
  | network best _ chosen =>
    obtain ⟨inside,covering⟩ := chosen.mem
    refine ⟨best,inside,?_,covering,rfl⟩
    by_contra blocks
    apply chosen.not_outranked member covers
    have ordinary : ¬ best.important = true := fun important =>
      blocks (unbeaten best inside covering important)
    exact Or.inl (by simp [NetworkRule.rank,exception,blocks,ordinary])

/-- An exception on any line of the block lists ends the check, unless an important rule is about
the host as well. -/
theorem check_of_exception_on_line (opened : policy.reloader.closing = false) (named : host ≠ "")
    (filtering : profile.filtering = true)
    (unwritten : (policy.findings host qtype profile).rewritten.matched = false)
    {sources : List ListSource} {block : Ruleset} (built : Ruleset.build sources = .ok block)
    (installed : policy.reloader.pair.block = some block) {rule : NetworkRule}
    (member : rule ∈ Scan.networkRules (Scan.rulesOn block.lists))
    (covers : rule.covers (Hostname.lower host) profile.tags = true)
    (exception : rule.allow = true)
    (unbeaten : ∀ other ∈ Scan.networkRules (Scan.rulesOn block.lists),
      other.covers (Hostname.lower host) profile.tags = true → other.important = true →
        other.allow = true) :
    ∃ best ∈ Scan.networkRules (Scan.rulesOn block.lists),
      best.allow = true ∧ best.covers (Hostname.lower host) profile.tags = true ∧
        policy.check host qtype profile = (.ok (Hit.ofNetwork best),policy) := by
  obtain ⟨best,inside,allows,covering,found⟩ :=
    exists_exception (lower_ne_empty named) member covers exception unbeaten
  have decides : block.index.lookup (Hostname.lower host) profile.tags = some (.network best) := by
    rw [(Ruleset.build_eq_ok built).2,Index.lookup_ofRules]
    exact found
  exact ⟨best,inside,allows,covering,
    check_of_exception opened named filtering unwritten installed decides allows⟩

/-- A policy that is not closed gives the decision of the first stage that matches: rewrites, then
the block lists unless the allow lists lift a block, then services, then classifiers. Allow lists
decide nothing themselves: where they lift a block all is as if no rules were asked for, and
elsewhere as if there were no allow lists. An exception that decides in the block lists ends the
check, and one of them does where an exception on some line has no important rule against it. What
the block lists alone say is what the check says, unless a rewrite matched or the block is lifted. -/
theorem check_precedence (policy : Policy) (host : String) (qtype : RecordType) (profile : Profile)
    (opened : policy.reloader.closing = false) (named : host ≠ "") :
    let found := policy.findings host qtype profile
    (policy.check host qtype profile).1 = .ok (found.outcome profile.filtering) ∧
    (found.lifted = true →
      policy.check host qtype profile = policy.check host qtype { profile with filtering := false }) ∧
    (found.lifted = false →
      (policy.check host qtype profile).1 = (policy.withoutAllow.check host qtype profile).1) ∧
    (profile.filtering = true → found.rewritten.matched = false →
      ∀ block, policy.reloader.pair.block = some block →
        (∀ rule, block.index.lookup (Hostname.lower host) profile.tags = some (.network rule) →
          rule.allow = true →
          policy.check host qtype profile = (.ok (Hit.ofNetwork rule),policy) ∧
            (Hit.ofNetwork rule).reason = .allowed) ∧
        ∀ sources, Ruleset.build sources = .ok block →
          (∃ rule ∈ Scan.networkRules (Scan.rulesOn block.lists),
            rule.covers (Hostname.lower host) profile.tags = true ∧ rule.allow = true) →
          (∀ rule ∈ Scan.networkRules (Scan.rulesOn block.lists),
            rule.covers (Hostname.lower host) profile.tags = true → rule.important = true →
              rule.allow = true) →
          ∃ best ∈ Scan.networkRules (Scan.rulesOn block.lists),
            best.allow = true ∧ best.covers (Hostname.lower host) profile.tags = true ∧
              policy.check host qtype profile = (.ok (Hit.ofNetwork best),policy)) ∧
    policy.checkRules host qtype profile =
      .ok (if profile.filtering then found.blocked else .none) ∧
    (profile.filtering = true → ∀ ruled, policy.checkRules host qtype profile = .ok ruled →
      ruled.matched = true → (policy.check host qtype profile).1 ≠ .ok ruled →
        found.rewritten.matched = true ∨
          ruled.reason = .blocked ∧ found.allowed.matched = true) := by
  intro found
  refine ⟨check_fst opened named qtype profile,check_of_lifted opened named,
    check_of_not_lifted opened named,?_,checkRules_eq opened named,?_⟩
  · intro filtering unwritten block installed
    constructor
    · intro rule decides exception
      exact ⟨check_of_exception opened named filtering unwritten installed decides exception,
        reason_ofNetwork exception⟩
    · rintro sources built ⟨rule,member,covers,exception⟩ unbeaten
      exact check_of_exception_on_line opened named filtering unwritten built installed member covers
        exception unbeaten
  · intro filtering ruled given matched differs
    by_contra neither
    obtain ⟨written,kept⟩ := not_or.mp neither
    have unwritten := Bool.eq_false_iff.mpr written
    exact differs (check_of_checkRules opened named filtering given matched unwritten kept)

/-- A policy with one blocking rule, and one in its allow lists for a part of what is blocked. -/
private def small : Policy :=
  ((ofSettings {}).setRules [{ id := 0, text := "||ads.example^" }]
    [{ id := 0, text := "||good.ads.example^" }] false).2

/-- The block of the name is lifted, so no rule decides, and the block lists alone would block. -/
theorem check_precedence_lifted :
    (small.check "Good.ads.example" .a { filtering := true }).1 = .ok .none ∧
      small.checkRules "Good.ads.example" .a { filtering := true } =
        .ok { Decision.ofReason .blocked with rule := "||ads.example^" } := by
  obtain ⟨checked,_,_,_,ruled,_⟩ := check_precedence small "Good.ads.example" .a { filtering := true }
    (by decide +kernel) (by decide)
  rw [checked,ruled]
  constructor <;> congr 1 <;> decide +kernel

end Policy
end DnsPolicy
