import DnsPolicy.Proofs.Building
import DnsPolicy.Proofs.Provenance
import DnsPolicy.Proofs.Utf8Text
import Mathlib.Data.List.ReduceOption

/-! What stands in the way of a rule set is told of the first place where it comes up: lists that are
not text before any line, and lines in the order of lists and numbers. Where nothing does, no rule is
lost and none is taken for one of another list. -/
namespace DnsPolicy
open Text

/-- A file could not be read, or is no text. -/
def Failure.isIo : Failure → Bool
  | .badBytes _ | .missingFile | .unreadable _ | .notText => true
  | _ => false

/-- The text of a list: its own for the number zero, and otherwise the one that its file encodes, which
is empty where there is no file. A file that cannot be read, or is not UTF-8, has none. -/
inductive ListSource.Says (source : ListSource) : String → Prop
  | inline (zero : source.id = 0) : source.Says source.text
  | missing (other : source.id ≠ 0) (absent : source.file = .missing) : source.Says ""
  | file {text : String} (other : source.id ≠ 0)
      (present : source.file = .bytes text.toUTF8.data.toList) : source.Says text

namespace ListSource

variable {source : ListSource} {text : String}

def IsText (source : ListSource) : Prop := ∃ text, source.Says text

/-- Every line is a rule, or says nothing. -/
def IsClean (source : ListSource) : Prop :=
  ∃ text, source.Says text ∧
    ∀ line ∈ lines text.toList, ∃ found, Rule.parseLine line source.id = .ok found

def HasBadLine (source : ListSource) : Prop :=
  ∃ text, source.Says text ∧
    ∃ line ∈ lines text.toList, ∃ fault, Rule.parseLine line source.id = .error fault

/-- The first line that is no rule has this number, counted from one, and this fault. -/
def FirstBadLine (source : ListSource) (number : Nat) (fault : RuleFault) : Prop :=
  ∃ text above line below, source.Says text ∧ lines text.toList = above ++ line :: below ∧
    (∀ other ∈ above, ∃ found, Rule.parseLine other source.id = .ok found) ∧
    Rule.parseLine line source.id = .error fault ∧ number = above.length + 1

/-- The rules on all lines, in order. -/
def Yields (source : ListSource) (rules : List Rule) : Prop :=
  ∃ text found, source.Says text ∧
    List.Forall₂ (fun line rule => Rule.parseLine line source.id = .ok rule) (lines text.toList) found ∧
    rules = found.reduceOption

theorem load_eq_ok {list : RuleList} (loaded : RuleList.load source = .ok list) :
    list.id = source.id ∧ source.Says list.contents := by
  rw [RuleList.load] at loaded
  split at loaded
  next zero =>
    obtain rfl := Except.ok.inj loaded
    exact ⟨zero.symm,.inline zero⟩
  next other =>
    split at loaded
    next absent =>
      obtain rfl := Except.ok.inj loaded
      exact ⟨rfl,.missing other absent⟩
    next empty =>
      obtain rfl := Except.ok.inj loaded
      exact ⟨rfl,.file other (by rw [empty]; rfl)⟩
    next => contradiction
    next bytes present =>
      split at loaded
      next contents decoded =>
        obtain rfl := Except.ok.inj loaded
        rw [decode_eq_ok_iff.mp decoded] at present
        exact ⟨rfl,.file other present⟩
      next => contradiction

private theorem Says.load (told : source.Says text) :
    ∃ list, RuleList.load source = .ok list ∧ list.id = source.id ∧ list.contents = text := by
  cases told with
  | inline zero => exact ⟨⟨0,source.text,false⟩,by rw [RuleList.load,if_pos zero],zero.symm,rfl⟩
  | missing other absent =>
    refine ⟨⟨source.id,"",false⟩,?_,rfl,rfl⟩
    rw [RuleList.load,if_neg other,absent]
  | file other present =>
    have decoded : decode text.toUTF8.data.toList = .ok text := decode_eq_ok_iff.mpr rfl
    rw [RuleList.load,if_neg other,present]
    generalize text.toUTF8.data.toList = bytes at decoded
    cases bytes with
    | nil =>
      obtain rfl : "" = text := Except.ok.inj decoded
      exact ⟨_,rfl,rfl,rfl⟩
    | cons byte bytes =>
      dsimp only
      rw [decoded]
      exact ⟨_,rfl,rfl,rfl⟩

private theorem load_eq_error {failure : Failure} (failed : RuleList.load source = .error failure) :
    (∃ fault, failure = .badBytes fault) ∨
      ∃ reason, failure = .unreadable reason ∧ source.id ≠ 0 ∧ source.file = .unreadable reason := by
  rw [RuleList.load] at failed
  split at failed
  next => contradiction
  next other =>
    split at failed
    next => contradiction
    next => contradiction
    next reason unread => exact .inr ⟨reason,(Except.error.inj failed).symm,other,unread⟩
    next =>
      split at failed
      next => contradiction
      next fault _ => exact .inl ⟨fault,(Except.error.inj failed).symm⟩

private theorem not_isText {reason : String} (numbered : source.id ≠ 0)
    (unread : source.file = .unreadable reason) : ¬ source.IsText := by
  rintro ⟨text,told⟩
  cases told with
  | inline zero => exact numbered zero
  | missing _ absent => exact File.noConfusion (unread.symm.trans absent)
  | file _ present => exact File.noConfusion (unread.symm.trans present)

private theorem isIo_of_load {failure : Failure} (failed : RuleList.load source = .error failure) :
    failure.isIo = true := by
  rcases load_eq_error failed with ⟨fault,rfl⟩ | ⟨reason,rfl,_⟩ <;> rfl

private theorem isText_iff : source.IsText ↔ ∃ list, RuleList.load source = .ok list := by
  constructor
  · rintro ⟨text,told⟩
    obtain ⟨list,loaded,_⟩ := told.load
    exact ⟨list,loaded⟩
  · rintro ⟨list,loaded⟩
    exact ⟨_,(load_eq_ok loaded).2⟩

/-- What is loaded is what the list says. -/
theorem Says.contents_eq (told : source.Says text) {list : RuleList}
    (loaded : RuleList.load source = .ok list) : list.contents = text := by
  obtain ⟨other,also,_,same⟩ := told.load
  obtain rfl := Except.ok.inj (loaded.symm.trans also)
  exact same

private theorem isClean_iff {list : RuleList} (loaded : RuleList.load source = .ok list) :
    source.IsClean ↔ list.Readable := by
  obtain ⟨id,told⟩ := load_eq_ok loaded
  rw [IsClean,RuleList.Readable,id]
  constructor
  · rintro ⟨text,also,clean⟩
    rwa [also.contents_eq loaded]
  · exact fun readable => ⟨_,told,readable⟩

private theorem hasBadLine_iff (text : source.IsText) : source.HasBadLine ↔ ¬ source.IsClean := by
  obtain ⟨list,loaded⟩ := isText_iff.mp text
  obtain ⟨id,told⟩ := load_eq_ok loaded
  have rejected (line : List Char) : (∃ fault, Rule.parseLine line source.id = .error fault) ↔
      ¬ ∃ found, Rule.parseLine line source.id = .ok found := by
    cases Rule.parseLine line source.id <;> simp
  rw [isClean_iff loaded,RuleList.Readable,id,HasBadLine]
  simp only [rejected]
  constructor
  · rintro ⟨other,also,line,member,bad⟩ clean
    rw [← also.contents_eq loaded] at member
    exact bad (clean line member)
  · intro unclean
    push Not at unclean
    obtain ⟨line,member,bad⟩ := unclean
    exact ⟨_,told,line,member,by push Not; exact bad⟩

private theorem isClean_iff_not_hasBadLine : source.IsClean ↔
    source.IsText ∧ ¬ source.HasBadLine := by
  constructor
  · intro clean
    have text : source.IsText := clean.imp fun _ => And.left
    exact ⟨text,fun bad => (hasBadLine_iff text).mp bad clean⟩
  · rintro ⟨text,clean⟩
    exact not_not.mp (mt (hasBadLine_iff text).mpr clean)

private theorem FirstBadLine.hasBadLine {number : Nat} {fault : RuleFault}
    (first : source.FirstBadLine number fault) : source.HasBadLine := by
  obtain ⟨text,above,line,below,told,joined,_,bad,_⟩ := first
  exact ⟨text,told,line,by simp [joined],fault,bad⟩

end ListSource

namespace RuleList

private theorem rulesFrom_eq_error_iff {id : Int} {start : Nat} {texts : List (List Char)}
    {failure : Failure} :
    rulesFrom id start texts = .error failure ↔ ∃ above line below fault,
      texts = above ++ line :: below ∧
      (∀ other ∈ above, ∃ found, Rule.parseLine other id = .ok found) ∧
      Rule.parseLine line id = .error fault ∧
      failure = .badLine id (start + above.length) fault := by
  induction texts generalizing start with
  | nil => simp [rulesFrom]
  | cons text rest ih =>
    rw [rulesFrom]
    cases parsed : Rule.parseLine text id with
    | error fault =>
      constructor
      · intro same
        exact ⟨[],text,rest,fault,rfl,by simp,parsed,(Except.error.inj same).symm⟩
      · rintro ⟨above,line,below,other,joined,earlier,bad,rfl⟩
        cases above with
        | nil =>
          obtain ⟨rfl,rfl⟩ := List.cons.inj joined
          obtain rfl := Except.error.inj (parsed.symm.trans bad)
          rfl
        | cons first above =>
          obtain ⟨rfl,rfl⟩ := List.cons.inj joined
          obtain ⟨found,passed⟩ := earlier text (by simp)
          simp [parsed] at passed
    | ok found =>
      have onward : (rulesFrom id (start + 1) rest).map (found.toList ++ ·) = .error failure ↔
          rulesFrom id (start + 1) rest = .error failure := by
        cases rulesFrom id (start + 1) rest <;> simp [Except.map]
      refine onward.trans (ih.trans ?_)
      constructor
      · rintro ⟨above,line,below,fault,rfl,earlier,bad,rfl⟩
        refine ⟨text :: above,line,below,fault,rfl,?_,bad,?_⟩
        · rw [List.forall_mem_cons]
          exact ⟨⟨found,parsed⟩,earlier⟩
        · rw [List.length_cons,Nat.add_assoc,Nat.add_comm 1]
      · rintro ⟨above,line,below,fault,joined,earlier,bad,rfl⟩
        cases above with
        | nil =>
          obtain ⟨rfl,rfl⟩ := List.cons.inj joined
          simp [parsed] at bad
        | cons first above =>
          obtain ⟨rfl,rfl⟩ := List.cons.inj joined
          refine ⟨above,line,below,fault,rfl,fun other member => earlier other (by simp [member]),bad,?_⟩
          rw [List.length_cons,Nat.add_assoc,Nat.add_comm 1]

end RuleList

/-! ### One list -/

private theorem NetworkRule.listId_of_parse {text : List Char} {listId : Int} {rule : NetworkRule}
    (parsed : NetworkRule.parse text listId = .ok rule) : rule.listId = listId := by
  simp only [NetworkRule.parse] at parsed
  split at parsed
  all_goals
    obtain ⟨found,_,rest⟩ := bind_eq_ok_iff.mp parsed
    obtain ⟨pattern,_,built⟩ := bind_eq_ok_iff.mp rest
    exact congrArg NetworkRule.listId (Except.ok.inj built).symm

theorem Rule.listId_of_parseLine {line : List Char} {listId : Int} {rule : Rule}
    (parsed : Rule.parseLine line listId = .ok (some rule)) : rule.listId = listId := by
  rcases (parseLine_eq_some_iff.mp parsed).2 with ⟨_,host,_,read,rfl⟩ | ⟨network,_,read,rfl⟩
  · obtain ⟨_,_,_,rfl⟩ := HostRule.parse_eq_ok_iff.mp read
    rfl
  · exact NetworkRule.listId_of_parse read

namespace ListSource

variable {source : ListSource}

def rules (source : ListSource) : Except Failure (List Rule) :=
  RuleList.load source >>= RuleList.rules

private theorem exists_rules_iff : (∃ rules, source.rules = .ok rules) ↔ source.IsClean := by
  constructor
  · rintro ⟨rules,read⟩
    obtain ⟨list,loaded,read⟩ := bind_eq_ok_iff.mp read
    exact (isClean_iff loaded).mpr (RuleList.exists_rulesFrom_iff.mp ⟨rules,read⟩)
  · intro clean
    have text : source.IsText := clean.imp fun _ => And.left
    obtain ⟨list,loaded⟩ := isText_iff.mp text
    obtain ⟨rules,read⟩ := RuleList.exists_rulesFrom_iff.mpr ((isClean_iff loaded).mp clean)
    exact ⟨rules,bind_eq_ok_iff.mpr ⟨list,loaded,read⟩⟩

private theorem yields_of_rules {rules : List Rule} (read : source.rules = .ok rules) :
    source.Yields rules := by
  obtain ⟨list,loaded,read⟩ := bind_eq_ok_iff.mp read
  obtain ⟨id,told⟩ := load_eq_ok loaded
  have readable := RuleList.exists_rulesFrom_iff.mp ⟨rules,read⟩
  obtain ⟨found,parsed⟩ := exists_mapM_iff.mpr readable
  rw [mapM_eq_ok_iff] at parsed
  refine ⟨_,found,told,id ▸ parsed,?_⟩
  rw [Scan.rulesFrom_eq_ok read]
  clear read readable
  generalize lines list.contents.toList = texts at parsed
  induction parsed with
  | nil => rfl
  | @cons line rule _ _ head _ ih =>
    rw [List.filterMap_cons,head,ih]
    cases rule <;> rfl

private theorem Yields.listId {rules : List Rule} (yields : source.Yields rules) :
    ∀ rule ∈ rules, rule.listId = source.id := by
  obtain ⟨text,found,_,parsed,rfl⟩ := yields
  intro rule member
  rw [List.reduceOption_mem_iff] at member
  obtain ⟨line,_,same⟩ := exists_of_mem_mapM (mapM_eq_ok_iff.mpr parsed) member
  exact Rule.listId_of_parseLine same

private theorem rules_eq_error_iff (text : source.IsText) {failure : Failure} :
    source.rules = .error failure ↔ ∃ number fault,
      failure = .badLine source.id number fault ∧ source.FirstBadLine number fault := by
  obtain ⟨list,loaded⟩ := isText_iff.mp text
  obtain ⟨id,told⟩ := load_eq_ok loaded
  have same : source.rules = list.rules := by rw [rules,loaded]; rfl
  rw [same,RuleList.rules,RuleList.rulesFrom_eq_error_iff,id]
  constructor
  · rintro ⟨above,line,below,fault,joined,earlier,bad,rfl⟩
    refine ⟨_,fault,rfl,_,above,line,below,told,joined,earlier,bad,?_⟩
    rw [Nat.add_comm]
  · rintro ⟨number,fault,rfl,other,above,line,below,also,joined,earlier,bad,rfl⟩
    rw [← also.contents_eq loaded] at joined
    exact ⟨above,line,below,fault,joined,earlier,bad,by rw [Nat.add_comm]⟩

end ListSource

/-! ### All lists -/

private theorem Scan.length_networkRules_add (rules : List Rule) :
    (networkRules rules).length + (hostRules rules).length = rules.length := by
  induction rules with
  | nil => rfl
  | cons rule rules ih =>
    cases rule with
    | network rule =>
      change (networkRules rules).length + 1 + (hostRules rules).length = rules.length + 1
      omega
    | host rule =>
      change (networkRules rules).length + ((hostRules rules).length + 1) = rules.length + 1
      omega

namespace Ruleset

/-- What comes of building from these lists. -/
def Reports (sources : List ListSource) : Except Failure Ruleset → Prop
  | .error (.badBytes fault) => ∃ front source back, sources = front ++ source :: back ∧
      (∀ other ∈ front, other.IsText) ∧ ¬ source.IsText ∧
      RuleList.load source = .error (.badBytes fault)
  | .error (.unreadable reason) => ∃ front source back, sources = front ++ source :: back ∧
      (∀ other ∈ front, other.IsText) ∧ source.id ≠ 0 ∧ source.file = .unreadable reason
  | .error (.badLine id number fault) => (∀ source ∈ sources, source.IsText) ∧
      ∃ front source back, sources = front ++ source :: back ∧ (∀ other ∈ front, other.IsClean) ∧
        id = source.id ∧ source.FirstBadLine number fault
  | .error _ => False
  | .ok ruleset => ∃ groups, List.Forall₂ ListSource.Yields sources groups ∧
      ruleset.index.networkRules.toList = Scan.networkRules groups.flatten ∧
      ruleset.index.hostRules.toList = Scan.hostRules groups.flatten ∧
      ruleset.index.networkRules.size + ruleset.index.hostRules.size = groups.flatten.length ∧
      List.Forall₂ (fun source group => ∀ rule ∈ group, rule.listId = source.id) sources groups

variable {sources : List ListSource}

private theorem build_of_isText (text : ∀ source ∈ sources, source.IsText) :
    ∃ lists, build sources = (sources.mapM ListSource.rules).map fun groups =>
      ⟨lists,.ofRules groups.flatten⟩ := by
  obtain ⟨lists,loaded⟩ := exists_mapM_iff.mpr fun source member =>
    ListSource.isText_iff.mp (text source member)
  have same : lists.mapM RuleList.rules = sources.mapM ListSource.rules := by
    have related := mapM_eq_ok_iff.mp loaded
    clear text loaded
    induction related with
    | nil => rfl
    | cons head _ ih => rw [List.mapM_cons,List.mapM_cons,ih,ListSource.rules,head]; rfl
  refine ⟨lists,?_⟩
  have rules : rulesOf lists = (sources.mapM ListSource.rules).map List.flatten := by
    rw [rulesOf,same]
  rw [build,loaded]
  change (rulesOf lists >>= fun rules => _) = _
  rw [rules]
  cases sources.mapM ListSource.rules <;> rfl

private theorem build_of_not_isText (bad : ∃ source ∈ sources, ¬ source.IsText) :
    ∃ failure, build sources = .error failure ∧ failure.isIo = true ∧
      sources.mapM RuleList.load = .error failure := by
  cases loaded : sources.mapM RuleList.load with
  | ok lists =>
    obtain ⟨source,member,bad⟩ := bad
    exact absurd (ListSource.isText_iff.mpr (exists_result_of_mapM loaded member)) bad
  | error failure =>
    obtain ⟨_,source,_,_,_,failed⟩ := mapM_eq_error_iff.mp loaded
    exact ⟨failure,by rw [build,loaded]; rfl,ListSource.isIo_of_load failed,rfl⟩

theorem exists_build_iff :
    (∃ ruleset, build sources = .ok ruleset) ↔ ∀ source ∈ sources, source.IsClean := by
  by_cases text : ∀ source ∈ sources, source.IsText
  · obtain ⟨lists,same⟩ := build_of_isText text
    rw [same,exists_map_iff,exists_mapM_iff]
    simp only [ListSource.exists_rules_iff]
  · push Not at text
    obtain ⟨failure,same,_⟩ := build_of_not_isText text
    obtain ⟨source,member,bad⟩ := text
    simp only [same,reduceCtorEq,exists_false,false_iff]
    exact fun clean => bad ((clean source member).imp fun _ => And.left)

private theorem reports_build (sources : List ListSource) : Reports sources (build sources) := by
  by_cases text : ∀ source ∈ sources, source.IsText
  · obtain ⟨lists,same⟩ := build_of_isText text
    rw [same]
    cases read : sources.mapM ListSource.rules with
    | ok groups =>
      have holds := Index.holds_ofRules groups.flatten
      have related := mapM_eq_ok_iff.mp read
      refine ⟨groups,related.imp fun _ _ => ListSource.yields_of_rules,holds.networkRules,
        holds.hostRules,?_,related.imp fun _ _ rules => (ListSource.yields_of_rules rules).listId⟩
      rw [← Scan.length_networkRules_add,← holds.networkRules,← holds.hostRules]
      rfl
    | error failure =>
      obtain ⟨front,source,back,joined,earlier,failed⟩ := mapM_eq_error_iff.mp read
      have member : source ∈ sources := by simp [joined]
      obtain ⟨number,fault,rfl,first⟩ :=
        (ListSource.rules_eq_error_iff (text source member)).mp failed
      exact ⟨text,front,source,back,joined,
        fun other member => ListSource.exists_rules_iff.mp (earlier other member),rfl,first⟩
  · push Not at text
    obtain ⟨failure,same,_,failed⟩ := build_of_not_isText text
    rw [same]
    obtain ⟨front,source,back,joined,earlier,bad⟩ := mapM_eq_error_iff.mp failed
    have texts : ∀ other ∈ front, other.IsText :=
      fun other member => ListSource.isText_iff.mpr (earlier other member)
    rcases ListSource.load_eq_error bad with ⟨fault,rfl⟩ | ⟨reason,rfl,numbered,unread⟩
    · refine ⟨front,source,back,joined,texts,?_,bad⟩
      rw [ListSource.isText_iff,bad]
      simp
    · exact ⟨front,source,back,joined,texts,numbered,unread⟩

private theorem exists_not_isText {failure : Failure} (reports : Reports sources (.error failure))
    (io : failure.isIo = true) : ∃ source ∈ sources, ¬ source.IsText := by
  cases failure with
  | badBytes fault =>
    obtain ⟨front,source,back,rfl,_,bad,_⟩ := reports
    exact ⟨source,by simp,bad⟩
  | unreadable reason =>
    obtain ⟨front,source,back,rfl,_,numbered,unread⟩ := reports
    exact ⟨source,by simp,ListSource.not_isText numbered unread⟩
  | missingFile | notText => exact reports.elim
  | _ => contradiction

/-- Lists that are not text are told before any line, and of several the first. Where all are text, the
first bad line of the first list that has one is told by its number. Otherwise the rule set holds
the rules of all lines of all lists in order, each under the number of its list. -/
theorem build_reports_first (sources : List ListSource) :
    Reports sources (build sources) ∧
    ((∃ failure, build sources = .error failure ∧ failure.isIo = true) ↔ ∃ source ∈ sources, ¬ source.IsText) ∧
    ((∃ id line fault, build sources = .error (.badLine id line fault)) ↔
      (∀ source ∈ sources, source.IsText) ∧ ∃ source ∈ sources, source.HasBadLine) ∧
    ((∃ ruleset, build sources = .ok ruleset) ↔
      (∀ source ∈ sources, source.IsText) ∧ ¬ ∃ source ∈ sources, source.HasBadLine) := by
  have reports := reports_build sources
  have built : (∃ ruleset, build sources = .ok ruleset) ↔
      (∀ source ∈ sources, source.IsText) ∧ ¬ ∃ source ∈ sources, source.HasBadLine := by
    rw [exists_build_iff]
    simp only [ListSource.isClean_iff_not_hasBadLine]
    grind
  refine ⟨reports,⟨?_,?_⟩,⟨?_,?_⟩,built⟩
  · rintro ⟨failure,failed,io⟩
    exact exists_not_isText (failed ▸ reports) io
  · intro bad
    obtain ⟨failure,failed,io,_⟩ := build_of_not_isText bad
    exact ⟨failure,failed,io⟩
  · rintro ⟨id,line,fault,failed⟩
    rw [failed] at reports
    obtain ⟨text,front,source,back,rfl,_,_,first⟩ := reports
    exact ⟨text,source,by simp,first.hasBadLine⟩
  · rintro ⟨text,bad⟩
    cases result : build sources with
    | ok ruleset => exact absurd bad (built.mp ⟨ruleset,result⟩).2
    | error failure =>
      rw [result] at reports
      have readable : ¬ failure.isIo = true := by
        intro io
        obtain ⟨source,member,unread⟩ := exists_not_isText reports io
        exact unread (text source member)
      cases failure with
      | badLine id line fault => exact ⟨id,line,fault,rfl⟩
      | badBytes | unreadable => exact absurd rfl readable
      | _ => exact reports.elim

/-- The third list is told of before the bad line of the second. -/
example : build [{ id := 0, text := "||a.example^" },{ id := 1, file := .bytes [0x20,0x2f,0x0a] },
    { id := 2, file := .bytes [0xff] }] = .error (.badBytes (.invalid 1 0)) := by
  rfl

end Ruleset
end DnsPolicy
