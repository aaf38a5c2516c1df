import DnsPolicy.Proofs.Ancestry
import DnsPolicy.Proofs.IndexInvariant
import DnsPolicy.Proofs.Selection
import DnsPolicy.Proofs.Success
import DnsPolicy.Ruleset

/-! A host is answered from the index as a scan over all lines of all lists would answer it. -/
namespace DnsPolicy
open Text

namespace Index

variable {index : Index} {rules : List Rule}

/-- The places that are tried stand on three kinds of shelves. -/
theorem mem_candidates_iff {host : String} {place : Nat} :
    place ∈ index.candidates host ↔
      place ∈ index.shelf (.exact host) ∨
        (∃ name ∈ Hostname.ancestry host.toList, place ∈ index.shelf (.domain (String.ofList name))) ∨
        place ∈ index.shelf .searches := by
  simp [candidates,shelf]

/-- A pattern that covers a host is on a shelf that is looked at for the host. -/
theorem mem_shelf_of_covers {rule : NetworkRule} {host : String} {client : List String}
    (covered : rule.covers host client) {place : Nat} (placed : place ∈ index.shelf rule.pattern.shelf) :
    place ∈ index.candidates host := by
  rw [mem_candidates_iff]
  rw [NetworkRule.covers,Bool.and_eq_true] at covered
  cases pattern : rule.pattern with
  | domain name =>
    rw [pattern] at placed covered
    exact Or.inr (Or.inl ⟨name.toList,Pattern.covers_domain_iff.mp covered.2,by simpa [Pattern.shelf] using placed⟩)
  | exact name =>
    rw [pattern] at placed covered
    have same : host = name := by simpa [Pattern.covers] using covered.2
    exact Or.inl (same ▸ placed)
  | search regex =>
    rw [pattern] at placed
    exact Or.inr (Or.inr placed)

def covering (index : Index) (host : String) (client : List String) : List (Nat × NetworkRule) :=
  (index.candidates host).filterMap fun place =>
    (index.networkRules[place]?).bind fun rule =>
      if rule.covers host client then some (place,rule) else none

/-- No rule for the host is missed by the walk over names. -/
theorem Holds.mem_covering_iff (holds : index.Holds rules) {host : String} {client : List String}
    {place : Nat} {rule : NetworkRule} :
    (place,rule) ∈ index.covering host client ↔
      (Scan.networkRules rules)[place]? = some rule ∧ rule.covers host client := by
  have stored : index.networkRules[place]? = (Scan.networkRules rules)[place]? := by
    rw [← holds.networkRules,Array.getElem?_toList]
  constructor
  · intro found
    obtain ⟨tried,_,present⟩ := List.mem_filterMap.mp found
    obtain ⟨other,lookup,kept⟩ := Option.bind_eq_some_iff.mp present
    split at kept
    next covered =>
      obtain ⟨rfl,rfl⟩ := Prod.mk.inj (Option.some.inj kept)
      exact ⟨stored ▸ lookup,covered⟩
    next => contradiction
  · rintro ⟨lookup,covered⟩
    have placed : place ∈ index.shelf rule.pattern.shelf := by
      obtain ⟨bound,same⟩ := List.getElem?_eq_some_iff.mp lookup
      rw [holds.shelves,List.mem_findIdxs_iff_exists_getElem_pos]
      exact ⟨bound,by simp [same]⟩
    refine List.mem_filterMap.mpr ⟨place,mem_shelf_of_covers covered placed,?_⟩
    simp [stored,lookup,covered]

/-- The rule taken from the index is the chosen one. -/
theorem Holds.isChosen (holds : index.Holds rules) {host : String} {client : List String}
    {best : NetworkRule} (taken : index.networkRule? host client = some best) :
    Scan.IsChosen (·.covers host client) (Scan.networkRules rules) best := by
  rw [networkRule?] at taken
  split at taken
  next => contradiction
  next start more found =>
    change index.covering host client = start :: more at found
    obtain ⟨member,least⟩ := foldl_first start more
    rw [← found] at member least
    generalize more.foldl first start = winner at taken member least
    obtain ⟨place,rule⟩ := winner
    have winner : rule = best := Option.some.inj taken
    subst winner
    obtain ⟨lookup,covered⟩ := holds.mem_covering_iff.mp member
    obtain ⟨bound,same⟩ := List.getElem?_eq_some_iff.mp lookup
    -- Whoever stands before the winner is of lower priority, and nobody behind it of a higher one.
    refine ⟨(Scan.networkRules rules).take place,(Scan.networkRules rules).drop (place+1),?_,covered,?_,?_⟩
    · rw [← same,List.getElem_cons_drop,List.take_append_drop]
    · intro other earlier passed
      obtain ⟨i,inside,rfl⟩ := List.mem_take_iff_getElem.mp earlier
      have lost := least (i,_) (holds.mem_covering_iff.mpr ⟨List.getElem?_eq_getElem (by omega),passed⟩)
      rw [← Scan.priority_lt_iff]
      simp only [precedes,Bool.or_eq_false_iff,Bool.and_eq_false_iff,decide_eq_false_iff_not,
        beq_eq_false_iff_ne] at lost
      omega
    · intro other later passed
      obtain ⟨i,inside,rfl⟩ := List.mem_drop_iff_getElem.mp later
      have lost := least (_,_) (holds.mem_covering_iff.mpr ⟨List.getElem?_eq_getElem (by omega),passed⟩)
      rw [← Scan.priority_lt_iff]
      simp only [precedes,Bool.or_eq_false_iff,decide_eq_false_iff_not] at lost
      exact lost.1

private theorem Holds.networkRule?_eq (holds : index.Holds rules) (host : String)
    (client : List String) : index.networkRule? host client =
      Scan.highest? ((Scan.networkRules rules).filter fun rule => rule.covers host client) := by
  cases taken : index.networkRule? host client with
  | some best => exact (Scan.highest?_filter_eq_some_iff.mpr (holds.isChosen taken)).symm
  | none =>
    rw [networkRule?] at taken
    split at taken
    next found =>
      change index.covering host client = [] at found
      symm
      rw [Scan.highest?_eq_none_iff,List.filter_eq_nil_iff]
      intro rule member covered
      obtain ⟨place,lookup⟩ := List.mem_iff_getElem?.mp member
      have present := holds.mem_covering_iff.mpr ⟨lookup,covered⟩
      simp [found] at present
    next => contradiction

private theorem filterMap_findIdxs {α : Type} (test : α → Bool) (items : List α) :
    (items.findIdxs test).filterMap (items[·]?) = items.filter test := by
  induction items with
  | nil => rfl
  | cons item items ih =>
    have shifted : (items.findIdxs test 1).filterMap ((item :: items)[·]?) = items.filter test := by
      rw [List.findIdxs_start,List.filterMap_map,← ih]
      rfl
    rw [List.findIdxs_cons]
    split
    next passed => simp [passed,shifted]
    next failed => simp [failed,shifted]

private theorem Holds.names_get? (holds : index.Holds rules) (host : String) :
    index.names.get? host = none ∧ (Scan.hostRules rules).filter (·.covers host) = [] ∨
      ∃ places, index.names.get? host = some places ∧
        (Scan.hostRules rules).filter (·.covers host) ≠ [] ∧
        places.toList.filterMap (index.hostRules[·]?) = (Scan.hostRules rules).filter (·.covers host) := by
  have listed : ∀ rule : HostRule, rule.covers host = decide (host ∈ rule.hostnames) := by
    intro rule
    simp [HostRule.covers]
  have empty : index.names.find host = #[] ↔ (Scan.hostRules rules).filter (·.covers host) = [] := by
    rw [← Array.toList_eq_nil_iff,holds.names,List.findIdxs_eq_nil_iff,List.filter_eq_nil_iff]
    simp [listed]
  cases found : index.names.get? host with
  | none => exact Or.inl ⟨rfl,empty.mp ((Buckets.get?_eq_none_iff holds.namesFull).mp found)⟩
  | some places =>
    have bucket : index.names.find host = places := Buckets.find_of_get? found
    refine Or.inr ⟨places,rfl,?_,?_⟩
    · rw [Ne,← empty,bucket]
      exact holds.namesFull host places found
    · have read : ∀ place : Nat, index.hostRules[place]? = (Scan.hostRules rules)[place]? := by
        intro place
        rw [← holds.hostRules,Array.getElem?_toList]
      rw [← bucket,holds.names]
      simp only [read,listed]
      exact filterMap_findIdxs _ _

/-- For every list of rules the index answers like the scan. -/
theorem lookup_ofRules (rules : List Rule) (host : String) (client : List String) :
    (ofRules rules).lookup host client = Scan.lookup rules host client := by
  have holds := holds_ofRules rules
  rw [lookup,Scan.lookup,holds.networkRule?_eq]
  cases Scan.highest? ((Scan.networkRules rules).filter fun rule => rule.covers host client) with
  | some best => rfl
  | none =>
    rcases holds.names_get? host with ⟨absent,nothing⟩ | ⟨places,present,something,read⟩
    · simp only [absent,nothing]
    · simp only [present,read]

end Index

namespace Scan

variable {rules : List Rule} {host : String} {client : List String}

private theorem highest?_covering_eq_none_iff :
    highest? ((networkRules rules).filter fun rule => rule.covers host client) = none ↔
      ∀ rule ∈ networkRules rules, ¬ rule.covers host client := by
  rw [highest?_eq_none_iff,List.filter_eq_nil_iff]

private theorem ofHostRules_filter (rules : List HostRule) (host : String) :
    Hit.ofHostRules (rules.filter fun rule => rule.covers host) =
      .hosts (rules.filter fun rule => host ∈ rule.hostnames ∧ rule.address.isV4)
        (rules.filter fun rule => host ∈ rule.hostnames ∧ rule.address.isV6) := by
  simp [Hit.ofHostRules,HostRule.covers,List.filter_filter,Bool.and_comm]

theorem answers_lookup (rules : List Rule) (host : String) (client : List String) :
    Answers rules host client (lookup rules host client) := by
  rw [lookup]
  split
  next empty => exact .noHost (by simpa using empty)
  next full =>
    have named : host ≠ "" := by simpa using full
    split
    next best taken => exact .network best named (highest?_filter_eq_some_iff.mp taken)
    next uncovered =>
      have uncovered := highest?_covering_eq_none_iff.mp uncovered
      split
      next nothing =>
        refine .silent named uncovered fun rule member listed => ?_
        exact List.filter_eq_nil_iff.mp nothing rule member (by simpa [HostRule.covers] using listed)
      next something =>
        have bound : ∃ rule ∈ hostRules rules, host ∈ rule.hostnames := by
          obtain ⟨rule,member⟩ := List.exists_mem_of_ne_nil _ something
          obtain ⟨present,covered⟩ := List.mem_filter.mp member
          exact ⟨rule,present,by simpa [HostRule.covers] using covered⟩
        rw [ofHostRules_filter]
        exact .hosts named uncovered bound

private theorem Answers.unique {one other : Option Hit} (first : Answers rules host client one)
    (second : Answers rules host client other) : one = other := by
  cases first with
  | noHost empty =>
    cases second with
    | noHost => rfl
    | network _ named => exact absurd empty named
    | hosts named => exact absurd empty named
    | silent => rfl
  | network best named chosen =>
    cases second with
    | noHost empty => exact absurd empty named
    | network another _ also =>
      rw [← highest?_filter_eq_some_iff] at chosen also
      rw [Option.some.inj (chosen.symm.trans also)]
    | hosts _ uncovered => exact absurd chosen.mem.2 (uncovered best chosen.mem.1)
    | silent _ uncovered => exact absurd chosen.mem.2 (uncovered best chosen.mem.1)
  | hosts named uncovered bound =>
    obtain ⟨rule,member,listed⟩ := bound
    cases second with
    | noHost empty => exact absurd empty named
    | network another _ also => exact absurd also.mem.2 (uncovered another also.mem.1)
    | hosts => rfl
    | silent _ _ unbound => exact absurd listed (unbound rule member)
  | silent named uncovered unbound =>
    cases second with
    | noHost => rfl
    | network another _ also => exact absurd also.mem.2 (uncovered another also.mem.1)
    | hosts _ _ bound =>
      obtain ⟨rule,member,listed⟩ := bound
      exact absurd listed (unbound rule member)
    | silent => rfl

private theorem answers_iff {answer : Option Hit} :
    Answers rules host client answer ↔ lookup rules host client = answer := by
  constructor
  · exact (answers_lookup rules host client).unique
  · rintro rfl
    exact answers_lookup rules host client

theorem Answers.ne_nothing {answer : Option Hit} (given : Answers rules host client answer) :
    answer ≠ some (.hosts [] []) := by
  cases given with
  | noHost | network | silent => simp
  | hosts named uncovered bound =>
    obtain ⟨rule,member,listed⟩ := bound
    intro nothing
    obtain ⟨v4,v6⟩ := Hit.hosts.inj (Option.some.inj nothing)
    rw [List.filter_eq_nil_iff] at v4 v6
    have notV4 := v4 rule member
    have notV6 := v6 rule member
    simp [listed,Address.isV6] at notV4 notV6
    simp [notV4] at notV6

/-! ### From lines to rules -/

theorem rulesFrom_eq_ok {id : Int} {line : Nat} {texts : List (List Char)} {rules : List Rule}
    (read : RuleList.rulesFrom id line texts = .ok rules) :
    rules = texts.filterMap fun text => (Rule.parseLine text id).toOption.join := by
  induction texts generalizing line rules with
  | nil => exact (Except.ok.inj read).symm
  | cons text rest ih =>
    rw [RuleList.rulesFrom] at read
    split at read
    next => contradiction
    next found parsed =>
      obtain ⟨others,more,rfl⟩ := map_eq_ok_iff.mp read
      rw [ih more]
      cases found <;> simp [parsed,Except.toOption]

theorem rulesOf_eq_ok {lists : List RuleList} {rules : List Rule}
    (read : Ruleset.rulesOf lists = .ok rules) : rules = rulesOn lists := by
  obtain ⟨groups,mapped,rfl⟩ := map_eq_ok_iff.mp read
  have related := mapM_eq_ok_iff.mp mapped
  clear read mapped
  rw [rulesOn]
  induction related with
  | nil => rfl
  | cons head tail ih => rw [List.flatten_cons,List.flatMap_cons,ih,rulesFrom_eq_ok head]

end Scan

/-- A rule set that was built holds its lists as they were loaded, and its index is the one of the
rules on their lines. -/
theorem Ruleset.build_eq_ok {sources : List ListSource} {ruleset : Ruleset}
    (built : Ruleset.build sources = .ok ruleset) :
    sources.mapM RuleList.load = .ok ruleset.lists ∧
      ruleset.index = .ofRules (Scan.rulesOn ruleset.lists) := by
  obtain ⟨lists,loaded,rest⟩ := bind_eq_ok_iff.mp built
  obtain ⟨rules,read,done⟩ := bind_eq_ok_iff.mp rest
  rw [← Except.ok.inj done]
  exact ⟨loaded,by rw [Scan.rulesOf_eq_ok read]⟩

/-- An accepted rule set answers every host for every client as a scan over all lines of all its
lists does: with the first of the best network rules, or else with all host rules for the name. -/
theorem lookup_eq_scan {sources : List ListSource} {ruleset : Ruleset}
    (built : Ruleset.build sources = .ok ruleset) (host : String) (client : List String) :
    sources.mapM RuleList.load = .ok ruleset.lists ∧
      ruleset.index.lookup host client = Scan.lookup (Scan.rulesOn ruleset.lists) host client ∧
      (∀ answer, ruleset.index.lookup host client = answer ↔
        Scan.Answers (Scan.rulesOn ruleset.lists) host client answer) ∧
      ruleset.index.lookup host client ≠ some (.hosts [] []) := by
  obtain ⟨loaded,indexed⟩ := Ruleset.build_eq_ok built
  have same : ruleset.index.lookup host client =
      Scan.lookup (Scan.rulesOn ruleset.lists) host client := by
    rw [indexed,Index.lookup_ofRules]
  refine ⟨loaded,same,fun answer => ?_,?_⟩
  · rw [same,Scan.answers_iff]
  · rw [same]
    exact (Scan.answers_lookup _ _ _).ne_nothing

/-- The wider network rule on the second line hides the host rule on the first. -/
theorem lookup_eq_scan_hidden_host :
    ∃ ruleset, Ruleset.build [{ id := 0, text := "0.0.0.0 ads.example\n||example^" }] = .ok ruleset ∧
      (ruleset.index.lookup "ads.example" []).map (fun hit => (hit.decision .a).rule) =
        some "||example^" := by
  obtain ⟨ruleset,built⟩ := exists_of_isOk (by decide +kernel :
    (Ruleset.build [{ id := 0, text := "0.0.0.0 ads.example\n||example^" }]).isOk = true)
  obtain ⟨loaded,same,_⟩ := lookup_eq_scan built "ads.example" []
  have lists : ruleset.lists = [⟨0,"0.0.0.0 ads.example\n||example^",false⟩] :=
    (Except.ok.inj loaded).symm
  refine ⟨ruleset,built,?_⟩
  rw [same,lists]
  decide +kernel

end DnsPolicy
