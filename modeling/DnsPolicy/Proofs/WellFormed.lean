import DnsPolicy.Proofs.Rounds
import DnsPolicy.Proofs.Precedence
import DnsPolicy.Proofs.Provenance
import DnsPolicy.Proofs.RewriteWalk

/-! Decisions are well formed whichever stage gives them: each field is filled only where its reason
allows it, and no address is of another family than the queried type. Only what a classifier says is
taken as it comes. -/
namespace DnsPolicy

/-- The address is one that a query of this type asks for. -/
def RecordType.Asks (qtype : RecordType) (address : Address) : Prop :=
  qtype = .a ∧ address.isV4 = true ∨ qtype = .aaaa ∧ address.isV6 = true

structure Decision.WellFormed (qtype : RecordType) (decision : Decision) : Prop where
  filtered : decision.filtered = decision.reason.filters
  address : ∀ address, decision.address = some address →
    decision.reason = .blocked ∧ qtype.Asks address
  addresses : ∀ address ∈ decision.addresses, decision.reason = .rewritten ∧ qtype.Asks address
  canonicalName : decision.canonicalName ≠ "" → decision.reason = .rewritten
  rule : decision.rule ≠ "" ↔ decision.reason ∈ [.allowed,.blocked,.service]
  service : decision.service ≠ "" → decision.reason = .service
  listId : decision.listId ≠ 0 → decision.reason ∈ [.allowed,.blocked]
  unmatched : decision.matched = false → decision = .none

private theorem Decision.wellFormed_none (qtype : RecordType) : Decision.none.WellFormed qtype where
  filtered := rfl
  address := by simp [Decision.none]
  addresses := by simp [Decision.none]
  canonicalName := by simp [Decision.none]
  rule := by simp [Decision.none]
  service := by simp [Decision.none]
  listId := by simp [Decision.none]
  unmatched _ := rfl

/-! ### Rules -/

namespace Hit

variable {qtype : RecordType}

private theorem wellFormed_ofNetwork {rule : NetworkRule} (full : rule.text ≠ "") :
    (ofNetwork rule).WellFormed qtype := by
  cases allows : rule.allow with
  | true => constructor <;> simp [ofNetwork,Decision.ofReason,allows,full,Decision.matched,Reason.matched]
  | false => constructor <;> simp [ofNetwork,Decision.ofReason,allows,full,Decision.matched,Reason.matched]

private theorem wellFormed_ofHostRule {rule : HostRule} {address : Option Address}
    (full : rule.text ≠ "") (asked : ∀ given, address = some given → qtype.Asks given) :
    (ofHostRule rule address).WellFormed qtype where
  filtered := rfl
  address given found := ⟨rfl,asked given found⟩
  addresses := by simp [ofHostRule,Decision.ofReason]
  canonicalName := by simp [ofHostRule,Decision.ofReason]
  rule := by simp [ofHostRule,Decision.ofReason,full]
  service := by simp [ofHostRule,Decision.ofReason]
  listId := by simp [ofHostRule,Decision.ofReason]
  unmatched := by simp [ofHostRule,Decision.ofReason,Decision.matched,Reason.matched]

/-- Every rule has a text, and the host rules are sorted by family. -/
def Sorted : Hit → Prop
  | .network rule => rule.text ≠ ""
  | .hosts v4 v6 => (∀ rule ∈ v4, rule.text ≠ "" ∧ rule.address.isV4 = true) ∧
      ∀ rule ∈ v6, rule.text ≠ "" ∧ rule.address.isV6 = true

private theorem asks_of_answering {v4 v6 : List HostRule} (sorted : (hosts v4 v6).Sorted)
    {rule : HostRule}
    (found : answering v4 v6 qtype = some rule) : rule.text ≠ "" ∧ qtype.Asks rule.address := by
  cases qtype with
  | a =>
    obtain ⟨full,family⟩ := sorted.1 rule (List.mem_of_head? found)
    exact ⟨full,Or.inl ⟨rfl,family⟩⟩
  | aaaa =>
    obtain ⟨full,family⟩ := sorted.2 rule (List.mem_of_head? found)
    exact ⟨full,Or.inr ⟨rfl,family⟩⟩
  | cname => contradiction
  | other code => contradiction

private theorem wellFormed_decision {hit : Hit} (sorted : hit.Sorted) :
    (hit.decision qtype).WellFormed qtype := by
  cases hit with
  | network rule => exact wellFormed_ofNetwork sorted
  | hosts v4 v6 =>
    rw [decision]
    split
    next rule found =>
      obtain ⟨full,asks⟩ := asks_of_answering sorted found
      exact wellFormed_ofHostRule full fun given same => Option.some.inj same ▸ asks
    next =>
      split
      next rule found =>
        have full : rule.text ≠ "" := by
          rcases Option.or_eq_some_iff.mp found with first | ⟨_,first⟩
          · exact (sorted.1 rule (List.mem_of_head? first)).1
          · exact (sorted.2 rule (List.mem_of_head? first)).1
        exact wellFormed_ofHostRule full (by simp)
      next => exact Decision.wellFormed_none qtype

end Hit

private theorem Scan.sorted_of_lookup {lists : List RuleList} {host : String} {client : List String}
    {hit : Hit} (found : Scan.lookup (Scan.rulesOn lists) host client = some hit) : hit.Sorted := by
  have full : ∀ rule ∈ Scan.rulesOn lists, rule.text ≠ "" := by
    intro rule member
    obtain ⟨list,_,line,_,parsed⟩ := mem_rulesOn.mp member
    exact Rule.text_ne_empty parsed
  have present := mem_of_lookup found
  cases hit with
  | network rule => exact full _ present
  | hosts v4 v6 =>
    exact ⟨fun rule member => ⟨full _ (present.1 rule member).1,(present.1 rule member).2⟩,
      fun rule member => ⟨full _ (present.2 rule member).1,(present.2 rule member).2⟩⟩

private theorem Ruleset.wellFormed_decide {sources : List ListSource} {ruleset : Ruleset}
    (built : Ruleset.build sources = .ok ruleset) (host : String) (qtype : RecordType)
    (client : List String) : (ruleset.decide host qtype client).WellFormed qtype := by
  rw [decide,(build_eq_ok built).2,Index.lookup_ofRules]
  split
  next hit found => exact Hit.wellFormed_decision (Scan.sorted_of_lookup found)
  next => exact Decision.wellFormed_none qtype

private theorem RulePair.wellFormed_decideBy {rules : Option Ruleset}
    (built : ∀ ruleset, rules = some ruleset → ∃ sources, Ruleset.build sources = .ok ruleset)
    (host : String) (qtype : RecordType) (client : List String) :
    (decideBy rules host qtype client).WellFormed qtype := by
  cases rules with
  | none => exact Decision.wellFormed_none qtype
  | some ruleset =>
    obtain ⟨sources,built⟩ := built ruleset rfl
    exact Ruleset.wellFormed_decide built host qtype client

/-! ### Rewrites and services -/

private theorem RewriteTable.asks_of_addresses {qtype : RecordType} {found : List Rewrite}
    {address : Address} (member : address ∈ addresses qtype found) : qtype.Asks address := by
  obtain ⟨entry,kept,given⟩ := List.mem_filterMap.mp member
  have typed : entry.recordType = qtype := by simpa using (List.mem_filter.mp kept).2
  rw [Rewrite.recordType,given] at typed
  cases address with
  | v4 a b c d => exact Or.inl ⟨typed.symm,rfl⟩
  | v6 groups => exact Or.inr ⟨typed.symm,rfl⟩

private theorem RewriteTable.wellFormed_resolve (table : RewriteTable) (host : String)
    (qtype : RecordType) : (table.resolve host qtype).WellFormed qtype := by
  rw [resolve]
  split
  · exact Decision.wellFormed_none qtype
  · exact
      { filtered := rfl
        address := by simp [Decision.ofReason]
        addresses := fun address member => ⟨rfl,asks_of_addresses member⟩
        canonicalName := fun _ => rfl
        rule := by simp [Decision.ofReason]
        service := by simp [Decision.ofReason]
        listId := by simp [Decision.ofReason]
        unmatched := by simp [Decision.ofReason,Decision.matched,Reason.matched] }

/-- The rules of all services were read from texts, and there is no other way to one. -/
def Profile.Parsed (profile : Profile) : Prop :=
  ∀ service ∈ profile.services, ∀ rule ∈ service.rules,
    ∃ text listId, NetworkRule.parse text listId = .ok rule

private theorem Service.wellFormed_decide {services : List Service}
    (parsed : ∀ service ∈ services, ∀ rule ∈ service.rules,
      ∃ text listId, NetworkRule.parse text listId = .ok rule)
    (host : String) (qtype : RecordType) : (Service.decide host services).WellFormed qtype := by
  induction services with
  | nil => exact Decision.wellFormed_none qtype
  | cons service more ih =>
    rw [Service.decide]
    split
    next rule found =>
      obtain ⟨text,listId,read⟩ := parsed service (by simp) rule (List.mem_of_find?_eq_some found)
      have full := NetworkRule.text_ne_empty read
      constructor <;> simp [Decision.ofReason,full,Decision.matched,Reason.matched,Reason.filters]
    next => exact ih fun other member => parsed other (by simp [member])

private theorem Service.parsed_ofTexts {name : String} {texts : List String} {service : Service}
    (compiled : Service.ofTexts name texts = .ok service) :
    ∀ rule ∈ service.rules, ∃ text listId, NetworkRule.parse text listId = .ok rule := by
  rw [ofTexts] at compiled
  split at compiled
  next rules read =>
    have same := Except.ok.inj compiled
    subst same
    intro rule member
    obtain ⟨i,bound,rfl⟩ := List.getElem_of_mem member
    have related := mapM_eq_ok_iff.mp read
    exact ⟨_,_,(List.forall₂_iff_get.mp related).2 i (by rw [related.length_eq]; exact bound) bound⟩
  next => contradiction

/-! ### Checks -/

namespace Policy

variable {policy : Policy} {host : String} {qtype : RecordType} {profile : Profile}

/-- No stage before the classifiers matched, and the decision is a match that one of the classifiers
asked for gave. -/
def IsVerdict (policy : Policy) (host : String) (qtype : RecordType) (profile : Profile)
    (decision : Decision) : Prop :=
  (policy.decideEarly (Hostname.lower host) qtype profile).matched = false ∧
    decision.matched = true ∧ ∃ kind, profile.wants kind = true ∧
      (policy.panel.seat kind).answer? kind (Hostname.lower host) = some (.ok decision)

private theorem wellFormed_blocked (reachable : policy.Reachable) :
    (policy.findings host qtype profile).blocked.WellFormed qtype :=
  RulePair.wellFormed_decideBy (fun _ member => reachable.built.ruleset (Or.inl member)) _ _ _

private theorem wellFormed_decideEarly (reachable : policy.Reachable) (parsed : profile.Parsed) :
    (policy.decideEarly (Hostname.lower host) qtype profile).WellFormed qtype := by
  rw [decideEarly_eq,Findings.early]
  split
  · exact RewriteTable.wellFormed_resolve _ _ _
  · split
    · exact wellFormed_blocked reachable
    · exact Service.wellFormed_decide parsed _ _

theorem verdict_cases (policy : Policy) (host : String) (qtype : RecordType) (profile : Profile)
    (unmatched : (policy.decideEarly (Hostname.lower host) qtype profile).matched = false) :
    (policy.findings host qtype profile).verdict = .none ∨
      policy.IsVerdict host qtype profile (policy.findings host qtype profile).verdict := by
  rcases Panel.decide_cases (Hostname.lower host) (distinct_wanted profile) policy.panel with
    nothing | ⟨matched,kind,reached,given⟩
  · exact Or.inl nothing
  · exact Or.inr ⟨unmatched,matched,kind,(List.mem_filter.mp reached.1).2,given⟩

/-- In every state that calls can lead to, whatever is decided about a host is well formed for the
queried type, but for a classifier's verdict, and so is what the block lists alone say. -/
theorem check_wellFormed (policy : Policy) (host : String) (qtype : RecordType) (profile : Profile)
    (reachable : policy.Reachable) (parsed : profile.Parsed) :
    (∀ decision, (policy.check host qtype profile).1 = .ok decision →
      decision.WellFormed qtype ∨ policy.IsVerdict host qtype profile decision) ∧
    ∀ decision, policy.checkRules host qtype profile = .ok decision →
      decision.WellFormed qtype := by
  constructor
  · intro decision given
    by_cases named : host = ""
    · cases closing : policy.reloader.closing <;> simp [check,closing,named] at given
      exact Or.inl (given ▸ Decision.wellFormed_none qtype)
    · cases closing : policy.reloader.closing with
      | true => simp [check,closing] at given
      | false =>
        rw [check_fst closing named,Findings.outcome_eq,← decideEarly_eq] at given
        have same := Except.ok.inj given
        subst same
        split
        next => exact Or.inl (wellFormed_decideEarly reachable parsed)
        next unmatched =>
          rcases policy.verdict_cases host qtype profile (by simpa using unmatched) with nothing | verdict
          · exact Or.inl (nothing ▸ Decision.wellFormed_none qtype)
          · exact Or.inr verdict
  · intro decision given
    by_cases named : host = ""
    · cases closing : policy.reloader.closing <;> simp [checkRules,closing,named] at given
      exact given ▸ Decision.wellFormed_none qtype
    · cases closing : policy.reloader.closing with
      | true => simp [checkRules,closing] at given
      | false =>
        rw [checkRules_eq closing named] at given
        have same := Except.ok.inj given
        subst same
        split
        next => exact wellFormed_blocked reachable
        next => exact Decision.wellFormed_none qtype

/-- A policy with host rules of both families for one name, the first of the other family. -/
private def mixed : Policy :=
  ((ofSettings {}).setRules [{ id := 0, text := "1.2.3.4 mixed.example\n::2 mixed.example" }] []
    false).2

private def serviced : Profile :=
  { filtering := true, services := (Service.ofTexts "video" ["||video.example^"]).toOption.toList }

private theorem parsed_serviced : serviced.Parsed := by
  intro service member
  apply Service.parsed_ofTexts
  cases compiled : Service.ofTexts "video" ["||video.example^"] with
  | error failure => simp [serviced,compiled,Except.toOption] at member
  | ok other =>
    have same : service = other := by simpa [serviced,compiled,Except.toOption] using member
    rw [same]

/-- Only the rule of the queried family gives its address. -/
theorem check_wellFormed_mixed :
    (mixed.check "Mixed.example" .aaaa serviced).1 = .ok { Decision.ofReason .blocked with
      rule := "::2 mixed.example", address := some (.v6 #v[0,0,0,0,0,0,0,2]) } ∧
    Decision.WellFormed .aaaa { Decision.ofReason .blocked with
      rule := "::2 mixed.example", address := some (.v6 #v[0,0,0,0,0,0,0,2]) } := by
  have given : (mixed.check "Mixed.example" .aaaa serviced).1 =
      .ok { Decision.ofReason .blocked with
        rule := "::2 mixed.example", address := some (.v6 #v[0,0,0,0,0,0,0,2]) } := by
    decide +kernel
  have reachable : mixed.Reachable := (reachable_ofSettings {}).setRules _ _ _
  obtain ⟨checked,_⟩ := check_wellFormed mixed "Mixed.example" .aaaa serviced reachable parsed_serviced
  rcases checked _ given with formed | ⟨unmatched,_⟩
  · exact ⟨given,formed⟩
  · exact absurd unmatched (by decide +kernel)

end Policy

end DnsPolicy
