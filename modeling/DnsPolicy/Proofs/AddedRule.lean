import DnsPolicy.Proofs.Building
import DnsPolicy.Proofs.Precedence
import DnsPolicy.Proofs.Reasons

/-! A rule that is added to the lists moves decisions in its own direction only: a blocking rule lets
no host through that was filtered, and an exception or a rule of the allow lists filters none that
was not. -/
namespace DnsPolicy

namespace Rule

variable {rule : Rule} {host : String} {client : List String}

def isException : Rule → Bool
  | .network rule => rule.allow
  | .host _ => false

private theorem excepts_of_blocking (blocking : rule.isException = false) :
    rule.excepts host client = false := by
  cases rule with
  | network rule =>
    have blocks : rule.allow = false := blocking
    simp [excepts,blocks]
  | host rule => rfl

private theorem insists_and_blocks_of_isException (excepting : rule.isException = true) :
    rule.insists host client = false ∧ rule.blocks host client = false := by
  cases rule with
  | network rule =>
    have allows : rule.allow = true := excepting
    simp [insists,blocks,allows]
  | host rule => contradiction

end Rule

namespace Scan

variable {front back : List Rule} {rule : Rule} {host : String} {client : List String}

private theorem any_insert (front back : List Rule) (rule : Rule) (test : Rule → Bool) :
    (front ++ rule :: back).any test = ((front ++ back).any test || test rule) := by
  simp only [List.any_append,List.any_cons]
  cases front.any test <;> cases test rule <;> simp

private theorem reason_cases (rules : List Rule) (host : String) (client : List String) :
    reason rules host client = .blocked ∨ reason rules host client = .allowed ∨
      reason rules host client = .notFound := by
  unfold reason
  split
  · exact Or.inl rfl
  · split
    · exact Or.inr (Or.inl rfl)
    · split
      · exact Or.inl rfl
      · exact Or.inr (Or.inr rfl)

private theorem reason_eq_notFound_iff {rules : List Rule} :
    reason rules host client = .notFound ↔ rules.any (Rule.insists host client) = false ∧
      rules.any (Rule.excepts host client) = false ∧ rules.any (Rule.blocks host client) = false := by
  unfold reason
  cases rules.any (Rule.insists host client) <;> cases rules.any (Rule.excepts host client) <;>
    cases rules.any (Rule.blocks host client) <;> decide

private theorem reason_insert_ne_notFound (matched : reason (front ++ back) host client ≠ .notFound) :
    reason (front ++ rule :: back) host client ≠ .notFound := by
  intro nothing
  rw [reason_eq_notFound_iff] at nothing
  simp only [any_insert,Bool.or_eq_false_iff] at nothing
  exact matched (reason_eq_notFound_iff.mpr ⟨nothing.1.1,nothing.2.1.1,nothing.2.2.1⟩)

/-- A further blocking rule keeps what is blocked and allows nothing. -/
theorem reason_insert_blocking (front back : List Rule) (host : String) (client : List String)
    (blocking : rule.isException = false) :
    (reason (front ++ back) host client = .blocked →
      reason (front ++ rule :: back) host client = .blocked) ∧
    (reason (front ++ back) host client = .notFound →
      reason (front ++ rule :: back) host client ≠ .allowed) := by
  have excepts : rule.excepts host client = false := Rule.excepts_of_blocking blocking
  simp only [reason,any_insert,excepts,Bool.or_false]
  cases (front ++ back).any (Rule.insists host client) <;>
    cases (front ++ back).any (Rule.excepts host client) <;>
    cases (front ++ back).any (Rule.blocks host client) <;>
    cases rule.insists host client <;> cases rule.blocks host client <;> simp

/-- A further exception keeps what is allowed and blocks nothing. -/
theorem reason_insert_exception (front back : List Rule) (host : String) (client : List String)
    (excepting : rule.isException = true) :
    (reason (front ++ back) host client = .allowed →
      reason (front ++ rule :: back) host client = .allowed) ∧
    (reason (front ++ back) host client = .notFound →
      reason (front ++ rule :: back) host client ≠ .blocked) := by
  obtain ⟨relents,spares⟩ : rule.insists host client = false ∧ rule.blocks host client = false :=
    Rule.insists_and_blocks_of_isException excepting
  simp only [reason,any_insert,relents,spares,Bool.or_false]
  cases (front ++ back).any (Rule.insists host client) <;>
    cases (front ++ back).any (Rule.excepts host client) <;>
    cases (front ++ back).any (Rule.blocks host client) <;>
    cases rule.excepts host client <;> simp

end Scan

/-! ### What the stages make of the rules -/

/-- Whether a host is filtered that the block lists judge so: the allow lists may excuse a block, and
what is left open is for the stages beyond the rules. -/
def Reason.filtersUnless (reason : Reason) (excused beyond : Bool) : Bool :=
  match reason with
  | .blocked => !excused || beyond
  | .notFound => beyond
  | reason => reason.filters

private theorem Reason.filtersUnless_of_blocking {old new : Reason} {excused beyond : Bool}
    (range : new = .blocked ∨ new = .allowed ∨ new = .notFound)
    (kept : old = .blocked → new = .blocked) (shut : old = .notFound → new ≠ .allowed)
    (known : old = .blocked ∨ old = .allowed ∨ old = .notFound)
    (filters : old.filtersUnless excused beyond = true) :
    new.filtersUnless excused beyond = true := by
  rcases known with rfl | rfl | rfl
  · rw [kept rfl]
    exact filters
  · contradiction
  · have behind : beyond = true := filters
    rcases range with rfl | rfl | rfl
    · simp [filtersUnless,behind]
    · exact absurd rfl (shut rfl)
    · exact behind

private theorem Reason.filtersUnless_of_exception {old new : Reason} {excused beyond : Bool}
    (range : new = .blocked ∨ new = .allowed ∨ new = .notFound)
    (kept : old = .allowed → new = .allowed) (shut : old = .notFound → new ≠ .blocked)
    (known : old = .blocked ∨ old = .allowed ∨ old = .notFound)
    (passes : old.filtersUnless excused beyond = false) :
    new.filtersUnless excused beyond = false := by
  have behind : old ≠ .allowed → beyond = false := by
    intro different
    rcases known with rfl | rfl | rfl
    · exact (Bool.or_eq_false_iff.mp passes).2
    · contradiction
    · exact passes
  rcases range with rfl | rfl | rfl
  · rcases known with rfl | rfl | rfl
    · exact passes
    · exact absurd (kept rfl) (by decide)
    · exact absurd rfl (shut rfl)
  · rfl
  · by_cases allowed : old = .allowed
    · exact absurd (kept allowed) (by decide)
    · exact behind allowed

private theorem Reason.filtersUnless_of_excused {reason : Reason} {excused still beyond : Bool}
    (kept : excused = true → still = true)
    (passes : reason.filtersUnless excused beyond = false) :
    reason.filtersUnless still beyond = false := by
  cases reason with
  | blocked =>
    obtain ⟨spared,behind⟩ := Bool.or_eq_false_iff.mp passes
    have excused : excused = true := by simpa using spared
    simp [filtersUnless,kept excused,behind]
  | _ => exact passes

namespace Policy

def Findings.beyond (findings : Findings) : Decision :=
  if findings.service.matched then findings.service else findings.verdict

private theorem Findings.filtered_outcome (findings : Findings)
    (told : findings.blocked.filtered = findings.blocked.reason.filters) (filtering : Bool) :
    (findings.outcome filtering).filtered =
      if findings.rewritten.matched then findings.rewritten.filtered
      else if filtering then
        findings.blocked.reason.filtersUnless findings.allowed.matched findings.beyond.filtered
      else findings.beyond.filtered := by
  have behind : (if findings.service.matched then findings.service else findings.verdict) =
      findings.beyond := rfl
  have matched : findings.blocked.matched = findings.blocked.reason.matched := rfl
  simp only [outcome,lifted,behind,matched]
  cases findings.rewritten.matched with
  | true => rfl
  | false =>
    cases filtering with
    | false => rfl
    | true =>
      cases reason : findings.blocked.reason with
      | blocked =>
        rw [reason] at told
        cases findings.allowed.matched <;> simp [Reason.matched,Reason.filtersUnless,told,Reason.filters]
      | _ => simp [Reason.matched,Reason.filtersUnless,told,reason]

variable {policy : Policy} {host : String} {qtype : RecordType} {profile : Profile}

def under (policy : Policy) (pair : RulePair) : Policy :=
  { policy with reloader := { policy.reloader with pair } }

/-- The check gives a decision, and it filters the host or not. -/
def Filters (policy : Policy) (host : String) (qtype : RecordType) (profile : Profile)
    (filtered : Bool) : Prop :=
  ∃ decision, (policy.check host qtype profile).1 = .ok decision ∧ decision.filtered = filtered

private theorem filtered_decideBy (rules : Option Ruleset) (host : String) (qtype : RecordType)
    (client : List String) :
    (RulePair.decideBy rules host qtype client).filtered =
      (RulePair.decideBy rules host qtype client).reason.filters := by
  cases rules with
  | none => rfl
  | some ruleset => exact ruleset.filtered_decide host qtype client

/-- Other rules move a check only as far as what they say moves what the stages make of it. -/
theorem Filters.move {pair wider : RulePair} {filtered : Bool}
    (before : (policy.under pair).Filters host qtype profile filtered)
    (moves : host ≠ "" → ∀ beyond,
      ((policy.under pair).findings host qtype profile).blocked.reason.filtersUnless
        ((policy.under pair).findings host qtype profile).allowed.matched beyond = filtered →
      ((policy.under wider).findings host qtype profile).blocked.reason.filtersUnless
        ((policy.under wider).findings host qtype profile).allowed.matched beyond = filtered) :
    (policy.under wider).Filters host qtype profile filtered := by
  obtain ⟨decision,given,told⟩ := before
  by_cases named : host = ""
  · have same : ((policy.under wider).check host qtype profile).1 =
        ((policy.under pair).check host qtype profile).1 :=
      check_fst_congr rfl fun full => absurd named full
    exact ⟨decision,same.trans given,told⟩
  · cases closing : policy.reloader.closing with
    | true => simp [check,under,closing] at given
    | false =>
      have opened : (policy.under pair).reloader.closing = false := closing
      have stillOpen : (policy.under wider).reloader.closing = false := closing
      rw [check_fst opened named] at given
      obtain rfl := Except.ok.inj given
      refine ⟨_,check_fst stillOpen named qtype profile,?_⟩
      rw [Findings.filtered_outcome _ (filtered_decideBy ..)] at told ⊢
      -- Rewrites, services and classifiers do not look at the rules.
      have rewritten : ((policy.under wider).findings host qtype profile).rewritten =
          ((policy.under pair).findings host qtype profile).rewritten := rfl
      have beyond : ((policy.under wider).findings host qtype profile).beyond =
          ((policy.under pair).findings host qtype profile).beyond := rfl
      rw [rewritten,beyond]
      split
      next written => simpa [written] using told
      next unwritten =>
        rw [if_neg unwritten] at told
        split
        next asked => exact moves named _ (by simpa [asked] using told)
        next unasked => simpa [unasked] using told

private theorem findings_block {pair : RulePair} {sources : List ListSource} {ruleset : Ruleset}
    (built : Ruleset.build sources = .ok ruleset) (installed : pair.block = some ruleset)
    (named : host ≠ "") :
    ((policy.under pair).findings host qtype profile).blocked.reason =
      Scan.reason (Scan.rulesOn ruleset.lists) (Hostname.lower host) profile.tags := by
  simp only [findings,under,installed,RulePair.decideBy]
  exact Ruleset.reason_decide built (lower_ne_empty named) qtype profile.tags

private theorem findings_allow {pair : RulePair} {sources : List ListSource} {ruleset : Ruleset}
    (built : Ruleset.build sources = .ok ruleset) (installed : pair.allow = some ruleset)
    (named : host ≠ "") :
    ((policy.under pair).findings host qtype profile).allowed.matched = true ↔
      Scan.reason (Scan.rulesOn ruleset.lists) (Hostname.lower host) profile.tags ≠ .notFound := by
  have decides := Ruleset.reason_decide built (lower_ne_empty named) qtype profile.tags
  simp only [findings,under,installed,RulePair.decideBy,Decision.matched,decides,Reason.matched,
    bne_iff_ne]

private theorem decide_eq_of_rules {sources others : List ListSource} {ruleset other : Ruleset}
    (built : Ruleset.build sources = .ok ruleset) (also : Ruleset.build others = .ok other)
    (same : Scan.rulesOn other.lists = Scan.rulesOn ruleset.lists) :
    other.decide = ruleset.decide := by
  funext host qtype client
  rw [Ruleset.decide,Ruleset.decide,(Ruleset.build_eq_ok built).2,(Ruleset.build_eq_ok also).2,same]

variable {request : RuleRequest} {listId : Int} {line : List Char}

private theorem check_under_congr {pair wider : RulePair}
    (same : (policy.under wider).findings host qtype profile =
      (policy.under pair).findings host qtype profile) :
    ((policy.under wider).check host qtype profile).1 =
      ((policy.under pair).check host qtype profile).1 := by
  have closing : (policy.under wider).reloader.closing = (policy.under pair).reloader.closing := rfl
  exact check_fst_congr closing fun _ => same

private theorem check_added_to_block (policy : Policy) (host : String) (qtype : RecordType)
    (profile : Profile) {pair : RulePair} (built : request.build = .ok pair)
    {longer : List ListSource} (added : AddsLine listId line request.block longer)
    {found : Option Rule} (parsed : Rule.parseLine line listId = .ok found) :
    ∃ wider, ({ request with block := longer } : RuleRequest).build = .ok wider ∧
      (found = none → ((policy.under wider).check host qtype profile).1 =
        ((policy.under pair).check host qtype profile).1) ∧
      ∀ rule, found = some rule →
        (rule.isException = false → (policy.under pair).Filters host qtype profile true →
          (policy.under wider).Filters host qtype profile true) ∧
        (rule.isException = true → (policy.under pair).Filters host qtype profile false →
          (policy.under wider).Filters host qtype profile false) := by
  obtain ⟨block,allow,rfl,first,second⟩ := RuleRequest.build_eq_ok built
  obtain ⟨grown,also,front,back,old,new⟩ := added.build first parsed
  refine ⟨⟨some grown,some allow⟩,?_,?_,?_⟩
  · exact bind_eq_ok_iff.mpr ⟨grown,also,bind_eq_ok_iff.mpr ⟨allow,second,rfl⟩⟩
  · rintro rfl
    have same : grown.decide = block.decide := decide_eq_of_rules first also (by simp [old,new])
    apply check_under_congr
    simp only [findings,under,RulePair.decideBy,same]
  · rintro rule rfl
    -- What the block lists say moves one way, and the stages behind it follow.
    have range := Scan.reason_cases (front ++ back) (Hostname.lower host) profile.tags
    have others := Scan.reason_cases (front ++ rule :: back) (Hostname.lower host) profile.tags
    simp only [Option.toList_some,List.append_assoc,List.singleton_append] at new
    constructor
    · intro blocking before
      refine before.move fun named beyond filters => ?_
      obtain ⟨kept,shut⟩ := Scan.reason_insert_blocking front back (Hostname.lower host)
        profile.tags blocking
      rw [findings_block first rfl named,old] at filters
      rw [findings_block also rfl named,new]
      exact Reason.filtersUnless_of_blocking others kept shut range filters
    · intro excepting before
      refine before.move fun named beyond passes => ?_
      obtain ⟨kept,shut⟩ := Scan.reason_insert_exception front back (Hostname.lower host)
        profile.tags excepting
      rw [findings_block first rfl named,old] at passes
      rw [findings_block also rfl named,new]
      exact Reason.filtersUnless_of_exception others kept shut range passes

private theorem check_added_to_allow (policy : Policy) (host : String) (qtype : RecordType)
    (profile : Profile) {pair : RulePair} (built : request.build = .ok pair)
    {longer : List ListSource} (added : AddsLine listId line request.allow longer)
    {found : Option Rule} (parsed : Rule.parseLine line listId = .ok found) :
    ∃ wider, ({ request with allow := longer } : RuleRequest).build = .ok wider ∧
      (found = none → ((policy.under wider).check host qtype profile).1 =
        ((policy.under pair).check host qtype profile).1) ∧
      ((policy.under pair).Filters host qtype profile false →
        (policy.under wider).Filters host qtype profile false) := by
  obtain ⟨block,allow,rfl,first,second⟩ := RuleRequest.build_eq_ok built
  obtain ⟨grown,also,front,back,old,new⟩ := added.build second parsed
  have unchanged : found = none →
      ((policy.under ⟨some block,some grown⟩).check host qtype profile).1 =
        ((policy.under ⟨some block,some allow⟩).check host qtype profile).1 := by
    rintro rfl
    have same : grown.decide = allow.decide := decide_eq_of_rules second also (by simp [old,new])
    apply check_under_congr
    simp only [findings,under,RulePair.decideBy,same]
  refine ⟨⟨some block,some grown⟩,?_,unchanged,?_⟩
  · exact bind_eq_ok_iff.mpr ⟨block,first,bind_eq_ok_iff.mpr ⟨grown,also,rfl⟩⟩
  · intro before
    cases found with
    | none =>
      obtain ⟨decision,given,told⟩ := before
      exact ⟨decision,(unchanged rfl).trans given,told⟩
    | some rule =>
      simp only [Option.toList_some,List.append_assoc,List.singleton_append] at new
      refine before.move fun named beyond passes => ?_
      refine Reason.filtersUnless_of_excused (fun excused => ?_) passes
      rw [findings_allow second rfl named,old] at excused
      rw [findings_allow also rfl named,new]
      exact Scan.reason_insert_ne_notFound excused

/-- A line is added at any place to one of the lists that are in force. Where it is faulty the lists
cannot be used any more. Elsewhere they can: a line that says nothing changes no check, a blocking
rule in the block lists lets nothing through that was filtered, and neither an exception there nor
any rule in the allow lists filters what was not. -/
theorem check_added_line (policy : Policy) (host : String) (qtype : RecordType) (profile : Profile)
    {request : RuleRequest} {pair : RulePair} (built : request.build = .ok pair) (listId : Int)
    (line : List Char) :
    (∀ longer, AddsLine listId line request.block longer →
      (∀ fault, Rule.parseLine line listId = .error fault →
        ∃ failure, ({ request with block := longer } : RuleRequest).build = .error failure) ∧
      ∀ found, Rule.parseLine line listId = .ok found →
        ∃ wider, ({ request with block := longer } : RuleRequest).build = .ok wider ∧
          (found = none → ((policy.under wider).check host qtype profile).1 =
            ((policy.under pair).check host qtype profile).1) ∧
          ∀ rule, found = some rule →
            (rule.isException = false → (policy.under pair).Filters host qtype profile true →
              (policy.under wider).Filters host qtype profile true) ∧
            (rule.isException = true → (policy.under pair).Filters host qtype profile false →
              (policy.under wider).Filters host qtype profile false)) ∧
    ∀ longer, AddsLine listId line request.allow longer →
      (∀ fault, Rule.parseLine line listId = .error fault →
        ∃ failure, ({ request with allow := longer } : RuleRequest).build = .error failure) ∧
      ∀ found, Rule.parseLine line listId = .ok found →
        ∃ wider, ({ request with allow := longer } : RuleRequest).build = .ok wider ∧
          (found = none → ((policy.under wider).check host qtype profile).1 =
            ((policy.under pair).check host qtype profile).1) ∧
          ((policy.under pair).Filters host qtype profile false →
            (policy.under wider).Filters host qtype profile false) := by
  obtain ⟨block,allow,_,first,second⟩ := RuleRequest.build_eq_ok built
  constructor
  · intro longer added
    constructor
    · intro fault faulty
      obtain ⟨failure,failed⟩ := added.build_error first faulty
      exact ⟨failure,by simp [RuleRequest.build,failed,bind,Except.bind]⟩
    · intro found parsed
      exact check_added_to_block policy host qtype profile built added parsed
  · intro longer added
    constructor
    · intro fault faulty
      obtain ⟨failure,failed⟩ := added.build_error second faulty
      exact ⟨failure,by simp [RuleRequest.build,first,failed,bind,Except.bind]⟩
    · intro found parsed
      exact check_added_to_allow policy host qtype profile built added parsed

/-- Lists with a name that is blocked and a part of it that is not. -/
private def listed : RuleRequest :=
  { number := 1
    block := [{ id := 0, text := "||ads.example^\n@@||good.ads.example^\n" }]
    allow := [] }

private def stressed : RuleRequest :=
  { number := 1
    block := [{ id := 0, text := "||ads.example^\n||ads.example^$important\n@@||good.ads.example^\n" }]
    allow := [] }

theorem check_added_line_important :
    ∃ pair wider, listed.build = .ok pair ∧
      stressed.build = .ok wider ∧
      ((ofSettings {}).under pair).Filters "Ads.example" .a { filtering := true } true ∧
      ((ofSettings {}).under wider).Filters "Ads.example" .a { filtering := true } true := by
  have plain : listed.build = .ok (listed.build.toOption.getD {}) := by
    have usable : listed.build.isOk = true := by decide +kernel
    obtain ⟨pair,built⟩ := exists_of_isOk usable
    rw [built]
    rfl
  have before : ((ofSettings {}).under (listed.build.toOption.getD {})).Filters "Ads.example" .a
      { filtering := true } true :=
    ⟨{ Decision.ofReason .blocked with rule := "||ads.example^" },by decide +kernel,by decide +kernel⟩
  have added : AddsLine 0 "||ads.example^$important".toList listed.block
      stressed.block := by
    have ended : "||ads.example^\n".toList.getLast? = some '\n' := by decide +kernel
    have single : '\n' ∉ "||ads.example^$important".toList := by decide +kernel
    have bare : "||ads.example^$important".toList.getLast? ≠ some '\r' := by decide +kernel
    exact AddsLine.of_text [] (Or.inr ended) single bare
  obtain ⟨rule,parsed,blocking⟩ : ∃ rule, Rule.parseLine "||ads.example^$important".toList 0 =
      .ok (some rule) ∧ rule.isException = false := ⟨_,rfl,rfl⟩
  obtain ⟨blocks,_⟩ := check_added_line (ofSettings {}) "Ads.example" .a { filtering := true } plain
    0 "||ads.example^$important".toList
  obtain ⟨wider,built,_,moves⟩ := (blocks _ added).2 _ parsed
  exact ⟨_,wider,plain,built,before,(moves _ rfl).1 blocking before⟩

end Policy

end DnsPolicy
