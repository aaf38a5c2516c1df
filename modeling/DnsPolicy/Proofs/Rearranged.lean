import DnsPolicy.Proofs.AddedRule

/-! Neither the order of the lines nor the lists they stand on decide whether a host is blocked. Places
only tell rules of one priority apart, and from all of these a decision of the same kind follows. -/
namespace DnsPolicy
open Text

def NetworkRule.unlisted (rule : NetworkRule) : NetworkRule := { rule with listId := 0 }

def HostRule.unlisted (rule : HostRule) : HostRule := { rule with listId := 0 }

namespace Rule

/-- The rule, wherever it may stand. -/
def unlisted : Rule → Rule
  | .network rule => .network rule.unlisted
  | .host rule => .host rule.unlisted

private theorem parse_unlisted_host (line : List Char) (address : Address) (listId : Int) :
    (HostRule.parse line address listId).map HostRule.unlisted = HostRule.parse line address 0 := by
  simp only [HostRule.parse]
  cases ((words (upTo '#' (trim line))).drop 1).mapM HostRule.hostname with
  | error fault => rfl
  | ok hostnames =>
    cases hostnames with
    | nil => rfl
    | cons name names => rfl

private theorem parse_unlisted_network (text : List Char) (listId : Int) :
    (NetworkRule.parse text listId).map NetworkRule.unlisted = NetworkRule.parse text 0 := by
  simp only [NetworkRule.parse]
  cases Pattern.parse (NetworkRule.cutModifiers (NetworkRule.cutAllow (trim text)).2).1 with
  | error fault =>
    split
    · rfl
    · next modifiers _ => cases Modifiers.parse modifiers <;> rfl
  | ok pattern =>
    split
    · rfl
    · next modifiers _ => cases Modifiers.parse modifiers <;> rfl

/-- Apart from its number a list has no part in what a line on it says. -/
theorem parseLine_unlisted (line : List Char) (listId : Int) :
    (parseLine line listId).map (Option.map unlisted) = parseLine line 0 := by
  simp only [parseLine]
  split
  · rfl
  · split
    next address _ =>
      rw [← parse_unlisted_host _ address listId]
      cases HostRule.parse (trim line) address listId <;> rfl
    next =>
      rw [← parse_unlisted_network _ listId]
      cases NetworkRule.parse (trim line) listId <;> rfl

theorem exists_parseLine_iff {line : List Char} {listId : Int} :
    (∃ found, parseLine line listId = .ok found) ↔ ∃ found, parseLine line 0 = .ok found := by
  rw [← parseLine_unlisted line listId,exists_map_iff]

end Rule

namespace Scan

/-- The lines of all lists that do not pass for a comment or a blank. -/
def spokenLines (lists : List RuleList) : List (List Char) :=
  (lists.flatMap fun list => lines list.contents.toList).filter fun line => !Rule.isSilent (trim line)

private theorem mem_spokenLines {lists : List RuleList} {line : List Char} :
    line ∈ spokenLines lists ↔
      (∃ list ∈ lists, line ∈ lines list.contents.toList) ∧ Rule.parseLine line 0 ≠ .ok none := by
  rw [Ne,Rule.parseLine_eq_none_iff,spokenLines,List.mem_filter,List.mem_flatMap,Bool.not_eq_true']
  simp

private theorem readable_iff {lists : List RuleList} :
    (∀ list ∈ lists, list.Readable) ↔
      ∀ line ∈ spokenLines lists, ∃ found, Rule.parseLine line 0 = .ok found := by
  constructor
  · intro readable line spoken
    obtain ⟨⟨list,member,inside⟩,_⟩ := mem_spokenLines.mp spoken
    exact Rule.exists_parseLine_iff.mp (readable list member line inside)
  · intro readable list member line inside
    by_cases silent : Rule.parseLine line 0 = .ok none
    · exact Rule.exists_parseLine_iff.mpr ⟨none,silent⟩
    · have spoken : line ∈ spokenLines lists := mem_spokenLines.mpr ⟨⟨list,member,inside⟩,silent⟩
      exact Rule.exists_parseLine_iff.mpr (readable line spoken)

private theorem mem_unlisted_iff {lists : List RuleList} {rule : Rule} :
    rule ∈ (rulesOn lists).map Rule.unlisted ↔
      ∃ line ∈ spokenLines lists, Rule.parseLine line 0 = .ok (some rule) := by
  constructor
  · intro member
    obtain ⟨found,present,rfl⟩ := List.mem_map.mp member
    obtain ⟨list,listed,line,inside,parsed⟩ := mem_rulesOn.mp present
    have read : Rule.parseLine line 0 = .ok (some found.unlisted) := by
      rw [← Rule.parseLine_unlisted line list.id,parsed]
      rfl
    exact ⟨line,mem_spokenLines.mpr ⟨⟨list,listed,inside⟩,by simp [read]⟩,read⟩
  · rintro ⟨line,spoken,read⟩
    obtain ⟨⟨list,listed,inside⟩,_⟩ := mem_spokenLines.mp spoken
    rw [← Rule.parseLine_unlisted line list.id] at read
    obtain ⟨found,parsed,same⟩ := map_eq_ok_iff.mp read
    obtain ⟨other,rfl,equal⟩ := Option.map_eq_some_iff.mp same
    exact List.mem_map.mpr ⟨other,mem_rulesOn.mpr ⟨list,listed,line,inside,parsed⟩,equal⟩

/-- Rules that stand in one of these lists stand in the other, at any place and under any number. -/
def SameRules (rules others : List Rule) : Prop :=
  ∀ rule, rule ∈ rules.map Rule.unlisted ↔ rule ∈ others.map Rule.unlisted

private theorem sameRules_of_perm {lists others : List RuleList}
    (perm : (spokenLines lists).Perm (spokenLines others)) :
    SameRules (rulesOn lists) (rulesOn others) := by
  intro rule
  simp only [mem_unlisted_iff,perm.mem_iff]

variable {rules others : List Rule} {host : String} {client : List String}

private theorem SameRules.symm (same : SameRules rules others) : SameRules others rules :=
  fun rule => (same rule).symm

private theorem SameRules.networkRule (same : SameRules rules others) {rule : NetworkRule}
    (member : rule ∈ networkRules rules) :
    ∃ other ∈ networkRules others, other.unlisted = rule.unlisted := by
  have present : Rule.unlisted (.network rule) ∈ rules.map Rule.unlisted :=
    List.mem_map_of_mem (mem_networkRules.mp member)
  obtain ⟨found,inside,equal⟩ := List.mem_map.mp ((same _).mp present)
  cases found with
  | network other => exact ⟨other,mem_networkRules.mpr inside,Rule.network.inj equal⟩
  | host other => contradiction

private theorem SameRules.hostRule (same : SameRules rules others) {rule : HostRule}
    (member : rule ∈ hostRules rules) :
    ∃ other ∈ hostRules others, other.unlisted = rule.unlisted := by
  have present : Rule.unlisted (.host rule) ∈ rules.map Rule.unlisted :=
    List.mem_map_of_mem (mem_hostRules.mp member)
  obtain ⟨found,inside,equal⟩ := List.mem_map.mp ((same _).mp present)
  cases found with
  | network other => contradiction
  | host other => exact ⟨other,mem_hostRules.mpr inside,Rule.host.inj equal⟩

private theorem covers_of_unlisted {rule other : NetworkRule}
    (same : other.unlisted = rule.unlisted) :
    other.covers host client = rule.covers host client := by
  change other.unlisted.covers host client = rule.unlisted.covers host client
  rw [same]

private theorem priority_of_unlisted {rule other : NetworkRule}
    (same : other.unlisted = rule.unlisted) : other.priority = rule.priority := by
  change other.unlisted.priority = rule.unlisted.priority
  rw [same]

private theorem names_of_unlisted {rule other : HostRule} (same : other.unlisted = rule.unlisted) :
    other.hostnames = rule.hostnames ∧ other.address = rule.address := by
  change other.unlisted.hostnames = rule.unlisted.hostnames ∧ other.unlisted.address = rule.unlisted.address
  simp only [same,and_self]

private theorem SameRules.uncovered (same : SameRules rules others)
    (uncovered : ∀ rule ∈ networkRules rules, ¬ rule.covers host client) :
    ∀ rule ∈ networkRules others, ¬ rule.covers host client := by
  intro rule member
  obtain ⟨other,present,equal⟩ := same.symm.networkRule member
  rw [← covers_of_unlisted equal]
  exact uncovered other present

/-- Which host rules there are, as far as names and addresses go. -/
theorem SameRules.exists_host_iff (same : SameRules rules others)
    (test : List String → Address → Prop) :
    (∃ rule ∈ hostRules rules, test rule.hostnames rule.address) ↔
      ∃ rule ∈ hostRules others, test rule.hostnames rule.address := by
  have onward : ∀ {rules others : List Rule}, SameRules rules others →
      (∃ rule ∈ hostRules rules, test rule.hostnames rule.address) →
        ∃ rule ∈ hostRules others, test rule.hostnames rule.address := by
    rintro rules others same ⟨rule,member,passed⟩
    obtain ⟨other,present,equal⟩ := same.hostRule member
    obtain ⟨names,address⟩ := names_of_unlisted equal
    exact ⟨other,present,by rwa [names,address]⟩
  exact ⟨onward same,onward same.symm⟩

end Scan

/-! ### Answers of one kind -/

/-- Nothing on both sides, or network rules of one priority, or host rules for the same families. -/
inductive Hit.SameKind : Option Hit → Option Hit → Prop
  | silent : SameKind none none
  | network {rule other : NetworkRule} (rank : rule.rank = other.rank)
      (tagged : rule.tags.isSome = other.tags.isSome) :
      SameKind (some (.network rule)) (some (.network other))
  | hosts {v4 v6 otherV4 otherV6 : List HostRule} (first : v4 = [] ↔ otherV4 = [])
      (second : v6 = [] ↔ otherV6 = []) :
      SameKind (some (.hosts v4 v6)) (some (.hosts otherV4 otherV6))

namespace Scan

variable {rules others : List Rule} {host : String} {client : List String}

private theorem rank_of_priority {rule other : NetworkRule}
    (same : rule.priority = other.priority) :
    rule.rank = other.rank ∧ rule.tags.isSome = other.tags.isSome := by
  unfold NetworkRule.priority at same
  cases tagged : rule.tags.isSome <;> cases otherTagged : other.tags.isSome <;>
    simp [tagged,otherTagged] at same ⊢ <;> omega

/-- Each of the two stands among the rules that the other was chosen from, so neither outranks the
other. -/
theorem SameRules.priority_eq (same : SameRules rules others) {best other : NetworkRule}
    (chosen : IsChosen (·.covers host client) (networkRules rules) best)
    (also : IsChosen (·.covers host client) (networkRules others) other) :
    best.priority = other.priority := by
  have unbeaten : ∀ {rules others : List Rule} {best other : NetworkRule}, SameRules rules others →
      IsChosen (·.covers host client) (networkRules rules) best →
      IsChosen (·.covers host client) (networkRules others) other → best.priority ≤ other.priority := by
    intro rules others best other same chosen also
    obtain ⟨twin,present,equal⟩ := same.networkRule chosen.mem.1
    have below := also.not_outranked present ((covers_of_unlisted equal).trans chosen.mem.2)
    rw [← priority_lt_iff,priority_of_unlisted equal] at below
    exact Nat.le_of_not_lt below
  exact Nat.le_antisymm (unbeaten same chosen also) (unbeaten same.symm also chosen)

private theorem SameRules.families (same : SameRules rules others) (family : Address → Bool) :
    (hostRules rules).filter (fun rule => host ∈ rule.hostnames ∧ family rule.address) = [] ↔
      (hostRules others).filter (fun rule => host ∈ rule.hostnames ∧ family rule.address) = [] := by
  have listed := same.exists_host_iff fun names address => host ∈ names ∧ family address = true
  simp only [List.filter_eq_nil_iff,decide_eq_true_eq]
  simpa using not_congr listed

private theorem SameRules.sameKind (same : SameRules rules others) {one other : Option Hit}
    (first : Answers rules host client one) (second : Answers others host client other) :
    Hit.SameKind one other := by
  have bound : ∀ {rules others : List Rule}, SameRules rules others →
      (∃ rule ∈ hostRules rules, host ∈ rule.hostnames) →
        ∃ rule ∈ hostRules others, host ∈ rule.hostnames :=
    fun same => (same.exists_host_iff fun names _ => host ∈ names).mp
  cases first with
  | noHost empty =>
    cases second with
    | noHost | silent => exact .silent
    | network _ named | hosts named => exact absurd empty named
  | network best named chosen =>
    cases second with
    | noHost empty => exact absurd empty named
    | network other _ also =>
      obtain ⟨rank,tagged⟩ := rank_of_priority (same.priority_eq chosen also)
      exact .network rank tagged
    | hosts _ uncovered | silent _ uncovered =>
      exact absurd chosen.mem.2 (same.symm.uncovered uncovered best chosen.mem.1)
  | hosts named uncovered listed =>
    cases second with
    | noHost empty => exact absurd empty named
    | network other _ also => exact absurd also.mem.2 (same.uncovered uncovered other also.mem.1)
    | hosts => exact .hosts (same.families Address.isV4) (same.families Address.isV6)
    | silent _ _ unbound =>
      obtain ⟨rule,member,inside⟩ := bound same listed
      exact absurd inside (unbound rule member)
  | silent named uncovered unbound =>
    cases second with
    | noHost | silent => exact .silent
    | network other _ also => exact absurd also.mem.2 (same.uncovered uncovered other also.mem.1)
    | hosts _ _ listed =>
      obtain ⟨rule,member,inside⟩ := bound same.symm listed
      exact absurd inside (unbound rule member)

end Scan

/-! ### Decisions of one kind -/

/-- All is the same but the rule that is named, its list, and the address that is given. -/
structure Decision.SameKind (decision other : Decision) : Prop where
  filtered : decision.filtered = other.filtered
  reason : decision.reason = other.reason
  answered : decision.address.isSome = other.address.isSome
  canonicalName : decision.canonicalName = other.canonicalName
  addresses : decision.addresses = other.addresses
  service : decision.service = other.service

private theorem Decision.SameKind.refl (decision : Decision) : decision.SameKind decision :=
  ⟨rfl,rfl,rfl,rfl,rfl,rfl⟩

private theorem Decision.SameKind.matched {decision other : Decision}
    (same : decision.SameKind other) :
    decision.matched = other.matched := congrArg Reason.matched same.reason

private theorem NetworkRule.allow_of_rank {rule other : NetworkRule}
    (same : rule.rank = other.rank) : rule.allow = other.allow := by
  unfold rank at same
  cases allows : rule.allow <;> cases otherAllows : other.allow <;>
    simp only [allows,otherAllows,if_true,Bool.false_eq_true,if_false] at same ⊢
  all_goals split at same <;> contradiction

private theorem Hit.SameKind.decision {v4 v6 otherV4 otherV6 : List HostRule}
    (first : v4 = [] ↔ otherV4 = []) (second : v6 = [] ↔ otherV6 = []) (qtype : RecordType) :
    ((Hit.hosts v4 v6).decision qtype).SameKind ((Hit.hosts otherV4 otherV6).decision qtype) := by
  rcases v4 with _ | ⟨a,v4⟩ <;> rcases otherV4 with _ | ⟨b,otherV4⟩ <;> try simp at first
  all_goals
    rcases v6 with _ | ⟨c,v6⟩ <;> rcases otherV6 with _ | ⟨d,otherV6⟩ <;> try simp at second
    all_goals cases qtype <;> exact ⟨rfl,rfl,rfl,rfl,rfl,rfl⟩

private theorem Ruleset.decide_sameKind {rules others : Ruleset} {host : String}
    {client : List String}
    (same : Hit.SameKind (rules.index.lookup host client) (others.index.lookup host client))
    (qtype : RecordType) :
    (rules.decide host qtype client).SameKind (others.decide host qtype client) := by
  unfold decide
  generalize rules.index.lookup host client = one at same
  generalize others.index.lookup host client = other at same
  cases same with
  | silent => exact .refl _
  | network rank tagged =>
    have allow := NetworkRule.allow_of_rank rank
    simp only [Hit.decision,Hit.ofNetwork,allow]
    exact ⟨rfl,rfl,rfl,rfl,rfl,rfl⟩
  | hosts first second => exact Hit.SameKind.decision first second qtype

namespace Policy

/-- Decisions of one kind, or the same refusal. -/
inductive SameOutcome : Except Failure Decision → Except Failure Decision → Prop
  | refused (failure : Failure) : SameOutcome (.error failure) (.error failure)
  | decided {decision other : Decision} (same : decision.SameKind other) :
      SameOutcome (.ok decision) (.ok other)

/-- Only the rules have something else to say, and that is of the same kind. -/
structure Findings.SameKind (found others : Findings) : Prop where
  rewritten : found.rewritten = others.rewritten
  blocked : found.blocked.SameKind others.blocked
  allowed : found.allowed.SameKind others.allowed
  service : found.service = others.service
  verdict : found.verdict = others.verdict

private theorem Findings.SameKind.early {found others : Findings} (same : found.SameKind others)
    (filtering : Bool) : (found.early filtering).SameKind (others.early filtering) := by
  have lifted : found.lifted = others.lifted := by
    simp only [Findings.lifted,same.blocked.reason,same.allowed.matched]
  simp only [Findings.early,same.rewritten,same.blocked.matched,lifted,same.service]
  split
  · exact .refl _
  · split
    · exact same.blocked
    · exact .refl _

variable {policy : Policy} {pair moved : RulePair} {host : String} {qtype : RecordType}
  {profile : Profile}

/-- Findings of one kind lead to the same stage, so the classifiers are asked on both sides or on
neither. -/
theorem check_sameKind (same : host ≠ "" → ((policy.under pair).findings host qtype profile).SameKind
      ((policy.under moved).findings host qtype profile)) :
    SameOutcome ((policy.under pair).check host qtype profile).1
        ((policy.under moved).check host qtype profile).1 ∧
      ((policy.under pair).check host qtype profile).2.panel =
        ((policy.under moved).check host qtype profile).2.panel := by
  cases closing : policy.reloader.closing with
  | true =>
    simp only [check,under,closing,if_true]
    exact ⟨.refused _,trivial⟩
  | false =>
    by_cases named : host = ""
    · simp only [check,under,closing,named]
      exact ⟨.decided (.refl _),rfl⟩
    · have early := (same named).early profile.filtering
      have opened : (policy.under pair).reloader.closing = false := closing
      have stillOpened : (policy.under moved).reloader.closing = false := closing
      rw [check_eq opened named,check_eq stillOpened named,early.matched,(same named).verdict]
      split
      · exact ⟨.decided early,rfl⟩
      · exact ⟨.decided (.refl _),rfl⟩

private theorem checkRules_sameKind
    (same : host ≠ "" → ((policy.under pair).findings host qtype profile).SameKind
      ((policy.under moved).findings host qtype profile)) :
    SameOutcome ((policy.under pair).checkRules host qtype profile)
      ((policy.under moved).checkRules host qtype profile) := by
  cases closing : policy.reloader.closing with
  | true =>
    simp only [checkRules,under,closing,if_true]
    exact .refused _
  | false =>
    by_cases named : host = ""
    · simp only [checkRules,under,closing,named]
      simp [SameOutcome.decided (.refl _)]
    · have opened : (policy.under pair).reloader.closing = false := closing
      have stillOpened : (policy.under moved).reloader.closing = false := closing
      rw [checkRules_eq opened named,checkRules_eq stillOpened named]
      split
      · exact .decided (same named).blocked
      · exact .decided (.refl _)

end Policy

/-- Both can be loaded, and the lines that say something are the same, each as often, in whatever order
they stand and on whichever lists. -/
def SameLines (sources others : List ListSource) : Prop :=
  ∃ lists moved, sources.mapM RuleList.load = .ok lists ∧ others.mapM RuleList.load = .ok moved ∧
    (Scan.spokenLines lists).Perm (Scan.spokenLines moved)

section SameLines

variable {sources others : List ListSource}

private theorem SameLines.symm (same : SameLines sources others) : SameLines others sources := by
  obtain ⟨lists,moved,loaded,also,perm⟩ := same
  exact ⟨moved,lists,also,loaded,perm.symm⟩

private theorem SameLines.builds (same : SameLines sources others) {ruleset : Ruleset}
    (built : Ruleset.build sources = .ok ruleset) : ∃ other, Ruleset.build others = .ok other := by
  obtain ⟨lists,moved,loaded,also,perm⟩ := same
  obtain ⟨again,readable,_⟩ := Ruleset.build_eq_ok_iff.mp built
  obtain rfl := Except.ok.inj (loaded.symm.trans again)
  refine ⟨⟨moved,.ofRules (Scan.rulesOn moved)⟩,Ruleset.build_eq_ok_iff.mpr ⟨also,?_,rfl⟩⟩
  rw [Scan.readable_iff] at readable ⊢
  exact fun line spoken => readable line (perm.mem_iff.mpr spoken)

private theorem SameLines.lookup (same : SameLines sources others) {ruleset other : Ruleset}
    (built : Ruleset.build sources = .ok ruleset) (also : Ruleset.build others = .ok other)
    (host : String) (client : List String) :
    Hit.SameKind (ruleset.index.lookup host client) (other.index.lookup host client) := by
  obtain ⟨lists,moved,loaded,second,perm⟩ := same
  obtain ⟨first,indexed⟩ := Ruleset.build_eq_ok built
  obtain ⟨again,otherIndexed⟩ := Ruleset.build_eq_ok also
  rw [Except.ok.inj (loaded.symm.trans first)] at perm
  rw [Except.ok.inj (second.symm.trans again)] at perm
  rw [indexed,otherIndexed,Index.lookup_ofRules,Index.lookup_ofRules]
  exact (Scan.sameRules_of_perm perm).sameKind (Scan.answers_lookup ..) (Scan.answers_lookup ..)

end SameLines

namespace Policy

/-- Lines are moved within the block lists and within the allow lists, to other places or lists. The
lists can be used before if and only if they can afterwards. Then for every host, every query and
every client a check gives a decision of the same kind, or the same refusal, as does a check of the
block lists alone, and the classifiers are left as they would have been. Where a network rule is
found on one side one of the same rank is found on the other, and both are for tagged clients or
neither is. -/
theorem check_rearranged (policy : Policy) (host : String) (qtype : RecordType) (profile : Profile)
    {request other : RuleRequest} (block : SameLines request.block other.block)
    (allow : SameLines request.allow other.allow) :
    ((∃ pair, request.build = .ok pair) ↔ ∃ pair, other.build = .ok pair) ∧
    ∀ pair moved, request.build = .ok pair → other.build = .ok moved →
      SameOutcome ((policy.under pair).check host qtype profile).1
        ((policy.under moved).check host qtype profile).1 ∧
      SameOutcome ((policy.under pair).checkRules host qtype profile)
        ((policy.under moved).checkRules host qtype profile) ∧
      ((policy.under pair).check host qtype profile).2.panel =
        ((policy.under moved).check host qtype profile).2.panel ∧
      ∀ name client,
        Hit.SameKind (pair.block.bind (·.index.lookup name client))
          (moved.block.bind (·.index.lookup name client)) ∧
        Hit.SameKind (pair.allow.bind (·.index.lookup name client))
          (moved.allow.bind (·.index.lookup name client)) := by
  have onward : ∀ {request other : RuleRequest}, SameLines request.block other.block →
      SameLines request.allow other.allow → (∃ pair, request.build = .ok pair) →
        ∃ pair, other.build = .ok pair := by
    rintro request other block allow ⟨pair,built⟩
    obtain ⟨_,_,_,first,second⟩ := RuleRequest.build_eq_ok built
    obtain ⟨blocking,builtBlock⟩ := block.builds first
    obtain ⟨allowing,builtAllow⟩ := allow.builds second
    exact ⟨_,bind_eq_ok_iff.mpr ⟨blocking,builtBlock,bind_eq_ok_iff.mpr ⟨allowing,builtAllow,rfl⟩⟩⟩
  refine ⟨⟨onward block allow,onward block.symm allow.symm⟩,?_⟩
  intro pair moved built also
  obtain ⟨blocking,allowing,rfl,first,second⟩ := RuleRequest.build_eq_ok built
  obtain ⟨otherBlocking,otherAllowing,rfl,third,fourth⟩ := RuleRequest.build_eq_ok also
  have found : ((policy.under ⟨some blocking,some allowing⟩).findings host qtype profile).SameKind
      ((policy.under ⟨some otherBlocking,some otherAllowing⟩).findings host qtype profile) :=
    ⟨rfl,Ruleset.decide_sameKind (block.lookup first third _ _) qtype,
      Ruleset.decide_sameKind (allow.lookup second fourth _ _) qtype,rfl,rfl⟩
  obtain ⟨checked,panel⟩ := check_sameKind fun _ => found
  exact ⟨checked,checkRules_sameKind fun _ => found,panel,
    fun name client => ⟨block.lookup first third name client,allow.lookup second fourth name client⟩⟩

/-- Two rules of one priority about the same host, on one list. -/
private def together : RuleRequest :=
  { number := 1
    block := [{ id := 0, text := "! ads\n||ads.example^\n||example^\n::1 ads.example" }]
    allow := [] }

/-- The same rules on two lists, and in another order. -/
private def apart : RuleRequest :=
  { number := 1
    block := [{ id := 7, file := .bytes ("||example^\n".toList.map fun c => .ofNat c.toNat) },
      { id := 0, text := "::1 ads.example\n\n||ads.example^" }]
    allow := [] }

/-- Another rule on another list is named, and the host is blocked all the same. -/
theorem check_rearranged_tie :
    SameLines together.block apart.block ∧ SameLines together.allow apart.allow ∧
    ∃ pair moved, together.build = .ok pair ∧ apart.build = .ok moved ∧
      SameOutcome (((ofSettings {}).under pair).check "Ads.example" .a { filtering := true }).1
        (((ofSettings {}).under moved).check "Ads.example" .a { filtering := true }).1 ∧
      (((ofSettings {}).under pair).check "Ads.example" .a { filtering := true }).1 =
        .ok { Decision.ofReason .blocked with rule := "||ads.example^" } ∧
      (((ofSettings {}).under moved).check "Ads.example" .a { filtering := true }).1 =
        .ok { Decision.ofReason .blocked with rule := "||example^", listId := 7 } := by
  have block : SameLines together.block apart.block := ⟨_,_,rfl,rfl,by decide +kernel⟩
  have allow : SameLines together.allow apart.allow := ⟨_,_,rfl,rfl,by decide +kernel⟩
  have plain : together.build = .ok (together.build.toOption.getD {}) :=
    eq_ok_of_isOk (by decide +kernel) {}
  have moved : apart.build = .ok (apart.build.toOption.getD {}) := eq_ok_of_isOk (by decide +kernel) {}
  obtain ⟨_,agree⟩ := check_rearranged (ofSettings {}) "Ads.example" .a { filtering := true } block allow
  exact ⟨block,allow,_,_,plain,moved,(agree _ _ plain moved).1,by decide +kernel,by decide +kernel⟩

end Policy

end DnsPolicy
