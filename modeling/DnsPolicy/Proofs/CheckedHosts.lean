import DnsPolicy.Proofs.CachedVerdicts
import DnsPolicy.Proofs.DecisionText
import DnsPolicy.Proofs.ValidatedFiles
import DnsPolicy.Proofs.WellFormed

/-! A check is refused before any host is looked at, or answers every host in order with what the policy
decides. Rules that decide are told of by their lines and by the places of their files. -/
namespace DnsPolicy
open Text

/-! ### Lines behind decisions -/

/-- The rule is about the host, for a client with these tags. -/
def Rule.covers (rule : Rule) (name : String) (client : List String) : Bool :=
  match rule with
  | .network rule => rule.covers name client
  | .host rule => rule.covers name

private theorem Rule.text_of_parseLine {line : List Char} {listId : Int} {rule : Rule}
    (parsed : Rule.parseLine line listId = .ok (some rule)) : rule.text = String.ofList (trim line) := by
  rcases (parseLine_eq_some_iff.mp parsed).2 with ⟨_,host,_,read,rfl⟩ | ⟨network,_,read,rfl⟩
  · obtain ⟨_,_,_,rfl⟩ := HostRule.parse_eq_ok_iff.mp read
    exact congrArg String.ofList (trim_trim line)
  · exact (NetworkRule.parse_eq_ok read).1.trans (congrArg String.ofList (trim_trim line))

namespace Hit

def rules : Hit → List Rule
  | .network rule => [.network rule]
  | .hosts v4 v6 => (v4 ++ v6).map Rule.host

private theorem mem_of_answering {v4 v6 : List HostRule} {qtype : RecordType} {rule : HostRule}
    (found : answering v4 v6 qtype = some rule) : rule ∈ v4 ++ v6 := by
  cases qtype with
  | a => exact List.mem_append_left v6 (List.mem_of_head? found)
  | aaaa => exact List.mem_append_right v4 (List.mem_of_head? found)
  | cname => contradiction
  | other code => contradiction

/-- What is decided names one of the rules that were hit. -/
theorem decision_names (hit : Hit) (qtype : RecordType) : hit.decision qtype = .none ∨
    ∃ rule ∈ hit.rules, (hit.decision qtype).rule = rule.text ∧ (hit.decision qtype).listId = rule.listId := by
  cases hit with
  | network rule => exact Or.inr ⟨.network rule,List.mem_singleton.mpr rfl,rfl,rfl⟩
  | hosts v4 v6 =>
    rw [decision]
    split
    next rule found => exact Or.inr ⟨.host rule,List.mem_map_of_mem (mem_of_answering found),rfl,rfl⟩
    next =>
      split
      next rule found =>
        have listed : rule ∈ v4 ++ v6 := by
          rcases Option.or_eq_some_iff.mp found with first | ⟨_,first⟩
          · exact List.mem_append_left v6 (List.mem_of_head? first)
          · exact List.mem_append_right v4 (List.mem_of_head? first)
        exact Or.inr ⟨.host rule,List.mem_map_of_mem listed,rfl,rfl⟩
      next => exact Or.inl rfl

end Hit

/-- Only rules about the host are hit. -/
theorem Scan.covers_of_lookup {rules : List Rule} {host : String} {client : List String} {hit : Hit}
    (found : Scan.lookup rules host client = some hit) {rule : Rule} (member : rule ∈ hit.rules) :
    rule ∈ rules ∧ rule.covers host client = true := by
  have given := Scan.answers_lookup rules host client
  rw [found] at given
  cases given with
  | network best _ chosen =>
    obtain rfl := List.mem_singleton.mp member
    exact ⟨mem_networkRules.mp chosen.mem.1,chosen.mem.2⟩
  | hosts _ _ _ =>
    obtain ⟨bound,listed,rfl⟩ := List.mem_map.mp member
    rw [List.mem_append,List.mem_filter,List.mem_filter,← and_or_left] at listed
    obtain ⟨present,kept⟩ := listed
    have named : host ∈ bound.hostnames := by
      simp only [decide_eq_true_eq] at kept
      exact kept.elim And.left And.left
    exact ⟨mem_hostRules.mp present,List.contains_iff_mem.mpr named⟩

/-- The decision names a line of this list, and the rule on the line is about the host. -/
def ListSource.Names (source : ListSource) (host : String) (client : List String) (decision : Decision)
    (line : List Char) : Prop :=
  ∃ text, source.Says text ∧ line ∈ lines text.toList ∧ decision.rule = String.ofList (trim line) ∧
    decision.listId = source.id ∧
    ∃ rule, Rule.parseLine line source.id = .ok (some rule) ∧ rule.covers host client = true

private theorem Ruleset.exists_line_of_decide {sources : List ListSource} {ruleset : Ruleset}
    (built : Ruleset.build sources = .ok ruleset) {host : String} {qtype : RecordType} {client : List String}
    (decided : ruleset.decide host qtype client ≠ .none) :
    ∃ source ∈ sources, ∃ line, source.Names host client (ruleset.decide host qtype client) line := by
  obtain ⟨loaded,indexed⟩ := build_eq_ok built
  have scanned : ruleset.index.lookup host client = Scan.lookup (Scan.rulesOn ruleset.lists) host client := by
    rw [indexed,Index.lookup_ofRules]
  rw [decide,scanned] at decided ⊢
  cases found : Scan.lookup (Scan.rulesOn ruleset.lists) host client with
  | none =>
    rw [found] at decided
    contradiction
  | some hit =>
    rw [found] at decided
    obtain ⟨rule,member,text,listId⟩ := (hit.decision_names qtype).resolve_left decided
    obtain ⟨present,covers⟩ := Scan.covers_of_lookup found member
    obtain ⟨list,opened,line,listed,parsed⟩ := Scan.mem_rulesOn.mp present
    obtain ⟨source,given,loads⟩ := exists_of_mem_mapM loaded opened
    obtain ⟨numbered,told⟩ := ListSource.load_eq_ok loads
    rw [numbered] at parsed
    exact ⟨source,given,line,list.contents,told,listed,text.trans (Rule.text_of_parseLine parsed),
      listId.trans (Rule.listId_of_parseLine parsed),rule,parsed,covers⟩

/-! ### Which stage decides -/

private theorem SafeSearch.reason_classify (host : String) :
    (classify host).reason ∉ [.allowed,.blocked] := by
  rw [classify]
  split
  · change Reason.safeSearch ∉ _
    decide
  · decide

private theorem RewriteTable.reason_resolve (table : RewriteTable) (host : String)
    (qtype : RecordType) : (table.resolve host qtype).reason ∉ [.allowed,.blocked] := by
  rw [resolve]
  split
  · decide
  · change Reason.rewritten ∉ _
    decide

private theorem Service.reason_decide (host : String) (services : List Service) :
    (Service.decide host services).reason ∉ [.allowed,.blocked] := by
  induction services with
  | nil =>
    change Reason.notFound ∉ _
    decide
  | cons service more ih =>
    rw [Service.decide]
    split
    · change Reason.service ∉ _
      decide
    · exact ih

namespace Policy

variable {policy : Policy} {host : String} {qtype : RecordType} {profile : Profile} {decision : Decision}

/-- The seats are those of a new policy, and no cache says anything else than the table of search engines. -/
def SearchesOnly (policy : Policy) : Prop :=
  policy.panel.Faithful fun kind => if kind = .safeSearch then some .safeSearch else none

private theorem searchesOnly_ofSettings (settings : Settings) :
    (ofSettings settings).SearchesOnly := by
  apply faithful_of_empty
  · intro kind host
    simp only [ofSettings,Panel.cached?_register,Panel.cached?_ofSettings]
  · intro kind
    cases kind <;> rfl

private theorem SearchesOnly.reason_verdict (searches : policy.SearchesOnly)
    (unmatched : (policy.decideEarly (Hostname.lower host) qtype profile).matched = false) :
    (policy.findings host qtype profile).verdict.reason ∉ [.allowed,.blocked] := by
  rcases policy.verdict_cases host qtype profile unmatched with nothing | ⟨_,_,kind,_,given⟩
  · rw [nothing]
    decide
  · rw [(searches kind).answer] at given
    obtain ⟨classifier,seated,said⟩ := Option.map_eq_some_iff.mp given
    obtain ⟨_,same⟩ := Option.ite_none_right_eq_some.mp seated
    rw [← Option.some.inj same] at said
    rw [← Except.ok.inj said]
    exact SafeSearch.reason_classify _

/-- In such a policy only the block lists tell of rules that block or allow. -/
theorem SearchesOnly.eq_blocked_of_check (searches : policy.SearchesOnly)
    (given : (policy.check host qtype profile).1 = .ok decision)
    (ruled : decision.reason ∈ [.allowed,.blocked]) :
    decision = (policy.findings host qtype profile).blocked := by
  rcases check_eq_ok given with rfl | rfl
  · exact absurd ruled (by decide)
  · rw [Findings.outcome_eq,← decideEarly_eq] at ruled ⊢
    split at ruled
    next early =>
      rw [if_pos early]
      rw [decideEarly_eq,Findings.early] at ruled ⊢
      split at ruled
      next => exact absurd ruled (RewriteTable.reason_resolve _ _ _)
      next unwritten =>
        rw [if_neg unwritten]
        split at ruled
        next blocks => rw [if_pos blocks]
        next => exact absurd ruled (Service.reason_decide _ _)
    next undecided => exact absurd ruled (searches.reason_verdict (by simpa using undecided))

end Policy

/-! ### Runs -/

namespace CommandLine

variable {files : Files} {options : CheckOptions} {qtype : RecordType} {profile : Profile} {rulesOnly : Bool}

/-- What is wrong before any host is looked at. Lists are the last to be opened, block lists before others. -/
inductive Refuses (files : Files) (options : CheckOptions) : String → Prop
  | unknownType (unknown : RecordType.parse? (options.qtype.getD "A") = none) :
      Refuses files options ("unknown query type: " ++ options.qtype.getD "A")
  | badSettings {failure : Failure} (known : (RecordType.parse? (options.qtype.getD "A")).isSome)
      (bad : loadSettings files options.config = .error failure) : Refuses files options failure.message
  | badList {failure : Failure} {settings : Settings}
      (known : (RecordType.parse? (options.qtype.getD "A")).isSome)
      (configured : loadSettings files options.config = .ok settings)
      (bad : Ruleset.build (sources files 1 options.block) = .error failure ∨
        (∃ block, Ruleset.build (sources files 1 options.block) = .ok block) ∧
          Ruleset.build (sources files (options.block.length + 1) options.allow) = .error failure) :
      Refuses files options failure.message

/-- What a policy decides about a host, asked for nothing else. -/
def askOnce (rulesOnly : Bool) (qtype : RecordType) (profile : Profile) (policy : Policy) (host : String) :
    Except Failure Decision :=
  if rulesOnly then policy.checkRules host qtype profile else (policy.check host qtype profile).1

def answerLine (host : String) (decision : Decision) : String := host ++ "\t" ++ decision.toJson ++ "\n"

private theorem exists_askOnce {policy : Policy} (opened : policy.reloader.closing = false)
    (host : String) : ∃ decision, askOnce rulesOnly qtype profile policy host = .ok decision := by
  by_cases named : host = ""
  · cases rulesOnly <;> simp [askOnce,Policy.check,Policy.checkRules,opened,named]
  · cases rulesOnly with
    | true => exact ⟨_,Policy.checkRules_eq opened named⟩
    | false => exact ⟨_,Policy.check_fst opened named qtype profile⟩

private theorem checkHosts_cons (host : String) (more : List String) (policy : Policy) :
    checkHosts rulesOnly qtype profile (host :: more) policy = do
      let decision ← askOnce rulesOnly qtype profile policy host
      let lines ← checkHosts rulesOnly qtype profile more
        (if rulesOnly then policy else (policy.check host qtype profile).2)
      return answerLine host decision :: lines := by
  cases rulesOnly <;> rfl

section

variable {policy now : Policy} {seated : ClassifierKind → Option Classifier}

private theorem askOnce_congr (alike : Policy.Alike Eq seated now policy) (host : String) :
    askOnce rulesOnly qtype profile now host = askOnce rulesOnly qtype profile policy host := by
  cases rulesOnly with
  | true =>
    apply Policy.checkRules_congr
    · rw [alike.reloader]
    · exact fun _ => alike.findings Settings.comparison_eq host qtype profile
  | false => exact (alike.check Settings.comparison_eq host qtype profile).1

private theorem alike_check (alike : Policy.Alike Eq seated now policy) (host : String) :
    Policy.Alike Eq seated (now.check host qtype profile).2 policy := by
  have kept := now.check_keeps_rest host qtype profile
  refine ⟨?_,?_,Policy.faithful_check alike.left host qtype profile,alike.right⟩
  · exact (congrArg Policy.settings kept).trans alike.settings
  · exact (congrArg Policy.reloader kept).trans alike.reloader

/-- The policy that is asked may by now hold verdicts that a new one does not. -/
theorem checkHosts_eq_ok (opened : policy.reloader.closing = false)
    (alike : Policy.Alike Eq seated now policy) (hosts : List String) : ∃ decisions,
      checkHosts rulesOnly qtype profile hosts now = .ok (List.zipWith answerLine hosts decisions) ∧
        List.Forall₂ (fun host decision => askOnce rulesOnly qtype profile policy host = .ok decision)
          hosts decisions := by
  induction hosts generalizing now with
  | nil => exact ⟨[],rfl,.nil⟩
  | cons host more ih =>
    obtain ⟨decision,given⟩ : ∃ decision, askOnce rulesOnly qtype profile policy host = .ok decision :=
      exists_askOnce opened host
    have next : Policy.Alike Eq seated (if rulesOnly then now else (now.check host qtype profile).2) policy := by
      split
      · exact alike
      · exact alike_check alike host
    obtain ⟨decisions,lines,rest⟩ := ih next
    refine ⟨decision :: decisions,?_,.cons given rest⟩
    rw [checkHosts_cons,askOnce_congr alike,given,lines]
    rfl

end

/-- The decision names a line of the block file with this number, and the rule on it is about the host. -/
structure NamesLine (files : Files) (options : CheckOptions) (host : String) (decision : Decision)
    (number : Nat) (line : List Char) : Prop where
  first : 1 ≤ number
  last : number ≤ options.block.length
  listId : decision.listId = number
  rule : decision.rule = String.ofList (trim line)
  onFile : ∃ path text : String, options.block[number - 1]? = some path ∧
    files path = .bytes text.toUTF8.data.toList ∧ line ∈ lines text.toList
  parsed : ∃ rule, Rule.parseLine line number = .ok (some rule) ∧
    rule.covers (Hostname.lower host) options.tags = true

private theorem exists_of_mem_sources {first : Nat} {paths : List String} {source : ListSource}
    (member : source ∈ sources files first paths) :
    ∃ i path, paths[i]? = some path ∧ source = { id := ((first + i : Nat) : Int), file := files path } := by
  obtain ⟨⟨path,number⟩,listed,rfl⟩ := List.mem_map.mp member
  obtain ⟨i,found⟩ := List.mem_iff_getElem?.mp listed
  rw [List.getElem?_zipIdx] at found
  obtain ⟨same,here,entry⟩ := Option.map_eq_some_iff.mp found
  obtain ⟨rfl,rfl⟩ := Prod.mk.inj entry
  exact ⟨i,same,here,rfl⟩

private theorem exists_namesLine {block : Ruleset}
    (built : Ruleset.build (sources files 1 options.block) = .ok block)
    {host : String} (decided : block.decide (Hostname.lower host) qtype options.tags ≠ .none) :
    ∃ number line, NamesLine files options host (block.decide (Hostname.lower host) qtype options.tags) number line := by
  obtain ⟨source,member,line,text,told,listed,rule,listId,parsed⟩ := Ruleset.exists_line_of_decide built decided
  obtain ⟨i,path,found,rfl⟩ := exists_of_mem_sources member
  refine ⟨1 + i,line,Nat.le_add_right 1 i,?_,listId,rule,⟨path,text,?_,?_,listed⟩,parsed⟩
  · have := (List.getElem?_eq_some_iff.mp found).1
    omega
  · rw [Nat.add_sub_cancel_left,found]
  · cases told with
    | inline zero => exact absurd zero (by dsimp only; omega)
    | missing _ _ => contradiction
    | file _ present => exact present

private theorem refuses_of_loadPolicy {failure : Failure}
    (known : (RecordType.parse? (options.qtype.getD "A")).isSome)
    (refused : loadPolicy files options = .error failure) : Refuses files options failure.message := by
  rw [loadPolicy_eq] at refused
  rcases bind_eq_error_iff.mp refused with bad | ⟨settings,configured,refused⟩
  · exact .badSettings known bad
  · rcases bind_eq_error_iff.mp refused with refused | ⟨_,_,done⟩
    · apply Refuses.badList known configured
      rcases bind_eq_error_iff.mp refused with bad | ⟨block,built,refused⟩
      · exact Or.inl bad
      · rcases bind_eq_error_iff.mp refused with bad | ⟨_,_,done⟩
        · exact Or.inr ⟨⟨block,built⟩,bad⟩
        · contradiction
    · contradiction

private theorem loadPolicy_eq_ok {policy : Policy}
    (loaded : loadPolicy files options = .ok policy) :
    policy.reloader.closing = false ∧ policy.SearchesOnly ∧ ∃ block,
      Ruleset.build (sources files 1 options.block) = .ok block ∧ policy.reloader.pair.block = some block := by
  rw [loadPolicy_eq] at loaded
  obtain ⟨settings,_,rest⟩ := bind_eq_ok_iff.mp loaded
  obtain ⟨pair,built,made⟩ := bind_eq_ok_iff.mp rest
  obtain rfl := Except.ok.inj made
  obtain ⟨block,allow,rfl,first,_⟩ := RuleRequest.build_eq_ok built
  exact ⟨rfl,Policy.searchesOnly_ofSettings settings,block,first,rfl⟩

private theorem askOnce_names {policy : Policy} (loaded : loadPolicy files options = .ok policy)
    {host : String} {decision : Decision} (tags : profile.tags = options.tags)
    (given : askOnce rulesOnly qtype profile policy host = .ok decision)
    (ruled : decision.reason ∈ [.allowed,.blocked]) :
    ∃ number line, NamesLine files options host decision number line := by
  obtain ⟨_,searches,block,built,inForce⟩ := loadPolicy_eq_ok loaded
  have same : decision = (policy.findings host qtype profile).blocked := by
    cases rulesOnly with
    | true =>
      refine (Policy.checkRules_eq_ok given).resolve_left ?_
      rintro rfl
      exact absurd ruled (by decide)
    | false => exact searches.eq_blocked_of_check given ruled
  have decides : decision = block.decide (Hostname.lower host) qtype options.tags := by
    rw [same,Policy.findings,inForce,← tags]
    rfl
  rw [decides] at ruled ⊢
  apply exists_namesLine built
  intro nothing
  rw [nothing] at ruled
  exact absurd ruled (by decide)

/-- A run fails without output, where the first thing that is wrong is told, or it gives each host in order
a line with what the policy decides about it. A rule that blocks the host or allows it is the one on the
line that is named, in the block file that is named. -/
theorem check_tells_lines (files : Files) (options : CheckOptions) :
    (∃ message, Refuses files options message ∧ check files options = failed message) ∨
    ∃ qtype policy decisions, RecordType.parse? (options.qtype.getD "A") = some qtype ∧
      loadPolicy files options = .ok policy ∧
      check files options = { stdout := String.join (List.zipWith answerLine options.hosts decisions) } ∧
      List.Forall₂ (fun host decision =>
        askOnce options.rulesOnly qtype
          { policy.settings.profile with filtering := true, tags := options.tags } policy host = .ok decision ∧
        Json.Printed decision.toJson.toList ∧
        (decision.reason ∈ [.allowed,.blocked] →
          ∃ number line, NamesLine files options host decision number line)) options.hosts decisions := by
  cases typed : RecordType.parse? (options.qtype.getD "A") with
  | none => exact Or.inl ⟨_,.unknownType typed,by simp only [check,typed]⟩
  | some qtype =>
    cases loaded : loadPolicy files options with
    | error failure =>
      have refused := refuses_of_loadPolicy (by rw [typed]; rfl) loaded
      exact Or.inl ⟨_,refused,by simp only [check,typed,loaded]⟩
    | ok policy =>
      obtain ⟨opened,searches,_⟩ := loadPolicy_eq_ok loaded
      have alike : Policy.Alike Eq _ policy policy := ⟨rfl,rfl,searches,searches⟩
      obtain ⟨decisions,lines,decides⟩ : ∃ decisions,
          checkHosts options.rulesOnly qtype
              { policy.settings.profile with filtering := true, tags := options.tags } options.hosts policy =
            .ok (List.zipWith answerLine options.hosts decisions) ∧ _ :=
        checkHosts_eq_ok opened alike options.hosts
      have answered : check files options =
          { stdout := String.join (List.zipWith answerLine options.hosts decisions) } := by
        simp only [check,typed,loaded,lines]
      refine Or.inr ⟨qtype,policy,decisions,rfl,rfl,answered,?_⟩
      apply decides.imp
      intro host decision given
      exact ⟨given,decision.printed_toJson,askOnce_names loaded rfl given⟩

example :
    let files : Files := fun path => if path = "two" then .bytes "||ads.example^\n".toUTF8.data.toList else .missing
    (check files { hosts := ["Ads.Example","a.b"], block := ["one","two"] }).stdout =
      "Ads.Example\t\x7b\"IsFiltered\":true,\"Reason\":3,\"Rule\":\"||ads.example^\",\"FilterID\":2\x7d\n" ++
        "a.b\t\x7b\x7d\n" := by
  decide +kernel

end CommandLine

end DnsPolicy
