import DnsPolicy.Policy
import DnsPolicy.Proofs.InstallOrder
import DnsPolicy.Proofs.Lookup

/-! Where the rules of a policy come from: in every state that calls can lead to, a rule in force
was read from a line of a list, so its text is not empty. -/
namespace DnsPolicy
open Text

private theorem ofList_ne_empty {text : List Char} (full : text ≠ []) :
    String.ofList text ≠ "" := by
  intro empty
  have letters := congrArg String.toList empty
  rw [String.toList_ofList] at letters
  exact full letters

theorem NetworkRule.parse_eq_ok {text : List Char} {listId : Int} {rule : NetworkRule}
    (parsed : NetworkRule.parse text listId = .ok rule) :
    rule.text = String.ofList (trim text) ∧
      Pattern.parse (cutModifiers (cutAllow (trim text)).2).1 = .ok rule.pattern := by
  simp only [NetworkRule.parse] at parsed
  split at parsed
  all_goals
    obtain ⟨found,_,rest⟩ := bind_eq_ok_iff.mp parsed
    obtain ⟨pattern,read,built⟩ := bind_eq_ok_iff.mp rest
    have same := Except.ok.inj built
    subst same
    exact ⟨rfl,read⟩

theorem NetworkRule.text_ne_empty {text : List Char} {listId : Int} {rule : NetworkRule}
    (parsed : NetworkRule.parse text listId = .ok rule) : rule.text ≠ "" := by
  obtain ⟨same,read⟩ := parse_eq_ok parsed
  rw [same]
  apply ofList_ne_empty
  intro nothing
  rw [nothing] at read
  contradiction

theorem HostRule.parse_eq_ok_iff {line : List Char} {address : Address} {listId : Int}
    {rule : HostRule} : HostRule.parse line address listId = .ok rule ↔
      ∃ hostnames, ((words (upTo '#' (trim line))).drop 1).mapM hostname = .ok hostnames ∧ hostnames ≠ [] ∧
        rule = ⟨String.ofList (trim line),listId,address,hostnames⟩ := by
  simp only [HostRule.parse,bind_eq_ok_iff]
  apply exists_congr
  intro hostnames
  apply and_congr_right
  intro _
  cases hostnames with
  | nil => exact iff_of_false (fun parsed => by contradiction) fun parsed => parsed.1 rfl
  | cons name names =>
    constructor
    · intro parsed
      exact ⟨List.cons_ne_nil name names,(Except.ok.inj parsed).symm⟩
    · rintro ⟨_,rfl⟩
      rfl

private theorem HostRule.text_ne_empty {line : List Char} {address : Address} {listId : Int}
    {rule : HostRule} (parsed : HostRule.parse line address listId = .ok rule) : rule.text ≠ "" := by
  obtain ⟨hostnames,read,named,rfl⟩ := parse_eq_ok_iff.mp parsed
  apply ofList_ne_empty
  intro nothing
  rw [nothing] at read
  exact named (Except.ok.inj read).symm

/-! ### Rules on lines -/

theorem Rule.parseLine_eq_none_iff {line : List Char} {listId : Int} :
    Rule.parseLine line listId = .ok none ↔ isSilent (trim line) = true := by
  simp only [Rule.parseLine]
  split
  next silent => simp [silent]
  next loud =>
    split <;> simp [loud,map_eq_ok_iff]

theorem Rule.parseLine_eq_some_iff {line : List Char} {listId : Int} {rule : Rule} :
    Rule.parseLine line listId = .ok (some rule) ↔ isSilent (trim line) = false ∧
      ((∃ address host, (words (trim line)).head?.bind Address.read? = some address ∧
          HostRule.parse (trim line) address listId = .ok host ∧ .host host = rule) ∨
        ∃ network, (words (trim line)).head?.bind Address.read? = none ∧
          NetworkRule.parse (trim line) listId = .ok network ∧ .network network = rule) := by
  simp only [Rule.parseLine]
  split
  next silent => simp [silent]
  next loud =>
    cases (words (trim line)).head?.bind Address.read? with
    | none => simp [loud,map_eq_ok_iff]
    | some address => simp [loud,map_eq_ok_iff]

theorem Rule.text_ne_empty {line : List Char} {listId : Int} {rule : Rule}
    (parsed : Rule.parseLine line listId = .ok (some rule)) : rule.text ≠ "" := by
  rcases (parseLine_eq_some_iff.mp parsed).2 with ⟨_,host,_,read,rfl⟩ | ⟨network,_,read,rfl⟩
  · exact HostRule.text_ne_empty read
  · exact NetworkRule.text_ne_empty read

theorem Scan.mem_rulesOn {lists : List RuleList} {rule : Rule} :
    rule ∈ Scan.rulesOn lists ↔ ∃ list ∈ lists, ∃ line ∈ lines list.contents.toList,
      Rule.parseLine line list.id = .ok (some rule) := by
  have read : ∀ result : Except RuleFault (Option Rule),
      result.toOption.join = some rule ↔ result = .ok (some rule) := by
    intro result
    cases result <;> simp [Except.toOption]
  simp [Scan.rulesOn,read]

theorem Scan.mem_networkRules {rules : List Rule} {rule : NetworkRule} :
    rule ∈ Scan.networkRules rules ↔ Rule.network rule ∈ rules := by
  rw [Scan.networkRules,List.mem_filterMap]
  constructor
  · rintro ⟨other,member,same⟩
    cases other <;> simp_all
  · exact fun member => ⟨_,member,rfl⟩

theorem Scan.mem_hostRules {rules : List Rule} {rule : HostRule} :
    rule ∈ Scan.hostRules rules ↔ Rule.host rule ∈ rules := by
  rw [Scan.hostRules,List.mem_filterMap]
  constructor
  · rintro ⟨other,member,same⟩
    cases other <;> simp_all
  · exact fun member => ⟨_,member,rfl⟩

/-- The rules on which a rule set's answer rests stand on its lines. -/
theorem Scan.mem_of_lookup {rules : List Rule} {host : String} {client : List String} {hit : Hit}
    (found : Scan.lookup rules host client = some hit) :
    match hit with
    | .network rule => Rule.network rule ∈ rules
    | .hosts v4 v6 => (∀ rule ∈ v4, Rule.host rule ∈ rules ∧ rule.address.isV4 = true) ∧
        ∀ rule ∈ v6, Rule.host rule ∈ rules ∧ rule.address.isV6 = true := by
  have given := Scan.answers_lookup rules host client
  rw [found] at given
  cases given with
  | network best _ chosen => exact mem_networkRules.mp chosen.mem.1
  | hosts _ _ _ =>
    constructor
    · intro rule member
      obtain ⟨present,kept⟩ := List.mem_filter.mp member
      simp only [decide_eq_true_eq] at kept
      exact ⟨mem_hostRules.mp present,kept.2⟩
    · intro rule member
      obtain ⟨present,kept⟩ := List.mem_filter.mp member
      simp only [decide_eq_true_eq] at kept
      exact ⟨mem_hostRules.mp present,kept.2⟩

/-! ### Policies that calls can lead to -/

/-- The pair is empty, or both of its rule sets were built. -/
def RulePair.Built (pair : RulePair) : Prop :=
  pair = {} ∨ ∃ request : RuleRequest, request.build = .ok pair

theorem RuleRequest.build_eq_ok {request : RuleRequest} {pair : RulePair}
    (built : request.build = .ok pair) :
    ∃ block allow, pair = ⟨some block,some allow⟩ ∧ Ruleset.build request.block = .ok block ∧
      Ruleset.build request.allow = .ok allow := by
  obtain ⟨block,first,rest⟩ := bind_eq_ok_iff.mp built
  obtain ⟨allow,second,done⟩ := bind_eq_ok_iff.mp rest
  exact ⟨block,allow,(Except.ok.inj done).symm,first,second⟩

theorem RulePair.Built.ruleset {pair : RulePair} (built : pair.Built) {ruleset : Ruleset}
    (member : pair.block = some ruleset ∨ pair.allow = some ruleset) :
    ∃ sources, Ruleset.build sources = .ok ruleset := by
  rcases built with rfl | ⟨request,built⟩
  · simp at member
  · obtain ⟨block,allow,rfl,first,second⟩ := RuleRequest.build_eq_ok built
    rcases member with same | same
    · exact ⟨_,Option.some.inj same ▸ first⟩
    · exact ⟨_,Option.some.inj same ▸ second⟩

namespace Reloader.Scene

/-- Over every run, and also while a close is under way, only pairs that were built are in force. -/
theorem pair_built (actions : List Action) : (run {} actions).reloader.pair.Built := by
  have shows := (account_run actions).shows
  cases closed : (run {} actions).reloader.closed with
  | true => exact Or.inl (shows.empty (Or.inl closed))
  | false =>
    cases last : (Scene.installs {} actions).getLast? with
    | none => exact Or.inl (shows.empty (Or.inr (List.getLast?_eq_none_iff.mp last)))
    | some request => exact Or.inr ⟨request,shows.last closed request last⟩

/-- A call that is run at once is a run of a few actions, whoever else is under way. -/
theorem exists_run_setRules (scene : Scene) (block allow : List ListSource) (background : Bool) :
    ∃ actions, (scene.run actions).reloader = (scene.reloader.setRules block allow background).2 := by
  cases background with
  | true => exact ⟨[.enqueue block allow],rfl⟩
  | false =>
    cases closing : scene.reloader.closing with
    | true => exact ⟨[],by simp [run,setRules,submit,closing]⟩
    | false =>
      refine ⟨[.enter,.draw block allow,.build (scene.reloader.submitted + 1)],?_⟩
      simp [run,step,Scene.enter,Scene.draw,Scene.build,setRules,submit,Reloader.draw,closing]

end Reloader.Scene

namespace Policy

/-- The reloader is in a state that some run of callers and worker leads to. Settings and panel may
be any. -/
def Reachable (policy : Policy) : Prop :=
  ∃ actions, policy.reloader = (Reloader.Scene.run {} actions).reloader

variable {policy : Policy}

theorem reachable_ofSettings (settings : Settings) : (ofSettings settings).Reachable := ⟨[],rfl⟩

private theorem Reachable.run (reachable : policy.Reachable) {reloader : Reloader}
    (more : ∀ scene : Reloader.Scene, scene.reloader = policy.reloader →
      ∃ actions, (scene.run actions).reloader = reloader) :
    ({ policy with reloader } : Policy).Reachable := by
  obtain ⟨actions,same⟩ := reachable
  obtain ⟨onward,reached⟩ := more _ same.symm
  exact ⟨actions ++ onward,by rw [Reloader.Scene.run_append,reached]⟩

theorem Reachable.setRules (reachable : policy.Reachable) (block allow : List ListSource)
    (background : Bool) : (policy.setRules block allow background).2.Reachable := by
  refine reachable.run fun scene same => ?_
  rw [← same]
  exact scene.exists_run_setRules block allow background

theorem Reachable.start (reachable : policy.Reachable) : policy.start.2.Reachable :=
  reachable.run fun _ same => ⟨[.start],same ▸ rfl⟩

theorem Reachable.settle (reachable : policy.Reachable) : policy.settle.Reachable :=
  reachable.run fun _ same => ⟨[.take,.finish],same ▸ rfl⟩

theorem Reachable.close (reachable : policy.Reachable) : policy.close.Reachable :=
  reachable.run fun _ same => ⟨[.beginClose,.finish,.endClose],same ▸ rfl⟩

theorem Reachable.built (reachable : policy.Reachable) : policy.reloader.pair.Built := by
  obtain ⟨actions,same⟩ := reachable
  rw [same]
  exact Reloader.Scene.pair_built actions

end Policy

end DnsPolicy
