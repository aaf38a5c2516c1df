import DnsPolicy.Proofs.Lookup

/-! When rule sets can be built, and what becomes of them where a line is added to a list. -/
namespace DnsPolicy
open Text

namespace RuleList

/-- Every line is a rule, or says nothing. -/
def Readable (list : RuleList) : Prop :=
  ∀ line ∈ lines list.contents.toList, ∃ found, Rule.parseLine line list.id = .ok found

theorem exists_rulesFrom_iff {id : Int} {line : Nat} {texts : List (List Char)} :
    (∃ rules, rulesFrom id line texts = .ok rules) ↔
      ∀ text ∈ texts, ∃ found, Rule.parseLine text id = .ok found := by
  induction texts generalizing line with
  | nil => simp [rulesFrom]
  | cons text rest ih =>
    have others : (∃ rules, rulesFrom id (line + 1) rest = .ok rules) ↔
        ∀ text ∈ rest, ∃ found, Rule.parseLine text id = .ok found := ih
    rw [List.forall_mem_cons,← others,rulesFrom]
    cases parsed : Rule.parseLine text id with
    | error fault => simp
    | ok found => simp [map_eq_ok_iff]

end RuleList

namespace Ruleset

private theorem exists_rulesOf_iff {lists : List RuleList} :
    (∃ rules, rulesOf lists = .ok rules) ↔ ∀ list ∈ lists, list.Readable := by
  have mapped : (∃ rules, rulesOf lists = .ok rules) ↔
      ∃ groups, lists.mapM RuleList.rules = .ok groups := by
    simp [rulesOf,map_eq_ok_iff]
  rw [mapped]
  clear mapped
  induction lists with
  | nil => simp [pure,Except.pure]
  | cons list lists ih =>
    have first : (∃ rules, list.rules = .ok rules) ↔ list.Readable := RuleList.exists_rulesFrom_iff
    rw [List.forall_mem_cons]
    simp only [List.mapM_cons,bind_eq_ok_iff]
    constructor
    · rintro ⟨_,rules,read,groups,rest,_⟩
      exact ⟨first.mp ⟨rules,read⟩,ih.mp ⟨groups,rest⟩⟩
    · rintro ⟨readable,others⟩
      obtain ⟨rules,read⟩ := first.mpr readable
      obtain ⟨groups,rest⟩ := ih.mpr others
      exact ⟨_,rules,read,groups,rest,rfl⟩

/-- A rule set is built from lists that can be loaded and read, and holds them and their rules. -/
theorem build_eq_ok_iff {sources : List ListSource} {ruleset : Ruleset} :
    build sources = .ok ruleset ↔ sources.mapM RuleList.load = .ok ruleset.lists ∧
      (∀ list ∈ ruleset.lists, list.Readable) ∧
        ruleset.index = .ofRules (Scan.rulesOn ruleset.lists) := by
  constructor
  · intro built
    obtain ⟨loaded,indexed⟩ := build_eq_ok built
    refine ⟨loaded,?_,indexed⟩
    obtain ⟨lists,same,rest⟩ := bind_eq_ok_iff.mp built
    obtain ⟨rules,read,_⟩ := bind_eq_ok_iff.mp rest
    obtain rfl := Except.ok.inj (same.symm.trans loaded)
    exact exists_rulesOf_iff.mp ⟨rules,read⟩
  · rintro ⟨loaded,readable,indexed⟩
    obtain ⟨rules,read⟩ := exists_rulesOf_iff.mpr readable
    refine bind_eq_ok_iff.mpr ⟨ruleset.lists,loaded,bind_eq_ok_iff.mpr ⟨rules,read,?_⟩⟩
    rw [Scan.rulesOf_eq_ok read,← indexed]
    rfl

end Ruleset

/-! ### One more line -/

/-- `longer` has one more line, at any place. -/
structure RuleList.AddsLine (listId : Int) (line : List Char) (shorter longer : RuleList) : Prop where
  id : shorter.id = listId
  sameId : longer.id = listId
  lines : ∃ above below, Text.lines shorter.contents.toList = above ++ below ∧
    Text.lines longer.contents.toList = above ++ line :: below

/-- One of the lists, with this number, has one more line. -/
inductive AddsLine (listId : Int) (line : List Char) : List ListSource → List ListSource → Prop
  | here {shorter longer : ListSource} {list other : RuleList} (sources : List ListSource)
      (loaded : RuleList.load shorter = .ok list) (also : RuleList.load longer = .ok other)
      (added : list.AddsLine listId line other) : AddsLine listId line (shorter :: sources) (longer :: sources)
  | there {shorter longer : List ListSource} (source : ListSource)
      (added : AddsLine listId line shorter longer) :
      AddsLine listId line (source :: shorter) (source :: longer)

variable {listId : Int} {line : List Char}

private theorem RuleList.AddsLine.readable_iff {shorter longer : RuleList}
    (added : shorter.AddsLine listId line longer) :
    longer.Readable ↔ shorter.Readable ∧ ∃ found, Rule.parseLine line listId = .ok found := by
  obtain ⟨above,below,old,new⟩ := added.lines
  unfold Readable
  rw [old,new,added.id,added.sameId]
  simp only [List.forall_mem_append,List.forall_mem_cons]
  tauto

private theorem RuleList.AddsLine.rulesOn {shorter longer : RuleList}
    (added : shorter.AddsLine listId line longer) {found : Option Rule}
    (parsed : Rule.parseLine line listId = .ok found) :
    ∃ front back, Scan.rulesOn [shorter] = front ++ back ∧
      Scan.rulesOn [longer] = front ++ found.toList ++ back := by
  obtain ⟨above,below,old,new⟩ := added.lines
  refine ⟨above.filterMap fun line => (Rule.parseLine line listId).toOption.join,
    below.filterMap fun line => (Rule.parseLine line listId).toOption.join,?_,?_⟩
  · simp [Scan.rulesOn,old,added.id]
  · cases found <;> simp [Scan.rulesOn,new,added.sameId,parsed,Except.toOption]

private theorem AddsLine.load {shorter longer : List ListSource}
    (added : AddsLine listId line shorter longer)
    {lists : List RuleList} (loaded : shorter.mapM RuleList.load = .ok lists) :
    ∃ front list other back, lists = front ++ list :: back ∧
      longer.mapM RuleList.load = .ok (front ++ other :: back) ∧ list.AddsLine listId line other := by
  simp only [mapM_eq_ok_iff] at loaded ⊢
  induction added generalizing lists with
  | @here _ longer list other sources first also added =>
    obtain ⟨opened,rest,same,loads,rfl⟩ := List.forall₂_cons_left_iff.mp loaded
    obtain rfl := Except.ok.inj (first.symm.trans same)
    exact ⟨[],list,other,rest,rfl,.cons also loads,added⟩
  | there source _ ih =>
    obtain ⟨opened,rest,first,loads,rfl⟩ := List.forall₂_cons_left_iff.mp loaded
    obtain ⟨front,list,other,back,rfl,grown,added⟩ := ih loads
    exact ⟨opened :: front,list,other,back,rfl,.cons first grown,added⟩

/-- With a line that can be read the rule set is still built, and its rules are those from before
with the one on the line, if there is one, at some place among them. -/
theorem AddsLine.build {shorter longer : List ListSource}
    (added : AddsLine listId line shorter longer)
    {ruleset : Ruleset} (built : Ruleset.build shorter = .ok ruleset) {found : Option Rule}
    (parsed : Rule.parseLine line listId = .ok found) :
    ∃ grown, Ruleset.build longer = .ok grown ∧ ∃ front back,
      Scan.rulesOn ruleset.lists = front ++ back ∧
        Scan.rulesOn grown.lists = front ++ found.toList ++ back := by
  obtain ⟨loaded,readable,_⟩ := Ruleset.build_eq_ok_iff.mp built
  obtain ⟨before,list,other,after,lists,loads,added⟩ := added.load loaded
  have joined : ∀ list, Scan.rulesOn (before ++ list :: after) =
      Scan.rulesOn before ++ Scan.rulesOn [list] ++ Scan.rulesOn after := by
    intro list
    simp [Scan.rulesOn]
  rw [lists] at readable ⊢
  refine ⟨⟨before ++ other :: after,.ofRules (Scan.rulesOn (before ++ other :: after))⟩,?_,?_⟩
  · refine Ruleset.build_eq_ok_iff.mpr ⟨loads,?_,rfl⟩
    simp only [List.forall_mem_append,List.forall_mem_cons] at readable ⊢
    exact ⟨readable.1,added.readable_iff.mpr ⟨readable.2.1,found,parsed⟩,readable.2.2⟩
  · obtain ⟨front,back,old,new⟩ := added.rulesOn parsed
    refine ⟨Scan.rulesOn before ++ front,back ++ Scan.rulesOn after,?_,?_⟩
    · rw [joined,old]
      simp only [List.append_assoc]
    · rw [joined,new]
      simp only [List.append_assoc]

theorem AddsLine.build_error {shorter longer : List ListSource}
    (added : AddsLine listId line shorter longer) {ruleset : Ruleset}
    (built : Ruleset.build shorter = .ok ruleset) {fault : RuleFault}
    (faulty : Rule.parseLine line listId = .error fault) :
    ∃ failure, Ruleset.build longer = .error failure := by
  obtain ⟨loaded,_⟩ := Ruleset.build_eq_ok_iff.mp built
  obtain ⟨before,list,other,after,_,loads,added⟩ := added.load loaded
  cases grown : Ruleset.build longer with
  | error failure => exact ⟨failure,rfl⟩
  | ok ruleset =>
    obtain ⟨again,readable,_⟩ := Ruleset.build_eq_ok_iff.mp grown
    rw [← Except.ok.inj (loads.symm.trans again)] at readable
    obtain ⟨_,found,parsed⟩ := added.readable_iff.mp (readable other (by simp))
    simp [faulty] at parsed

/-! ### Lines of texts -/

private theorem lines_eq_nil_iff {text : List Char} : lines text = [] ↔ text = [] := by
  fun_cases lines text <;> simp_all

private theorem lines_append {front : List Char} (ended : front = [] ∨ front.getLast? = some '\n')
    (back : List Char) : lines (front ++ back) = lines front ++ lines back := by
  have shorter : ∀ {c : Char} {rest : List Char}, c ≠ '\n' →
      c :: rest = [] ∨ (c :: rest).getLast? = some '\n' → rest.getLast? = some '\n' := by
    rintro c (_ | ⟨d,rest⟩) different ended <;> simp_all
  fun_induction lines front with
  | case1 => rfl
  | case2 rest ih =>
    have onward : rest = [] ∨ rest.getLast? = some '\n' := by
      cases rest <;> simp_all
    simpa [lines] using ih onward
  | case3 rest ih =>
    have onward : rest = [] ∨ rest.getLast? = some '\n' := by
      cases rest <;> simp_all
    simpa [lines] using ih onward
  | case4 c rest different single none ih =>
    have last := shorter different ended
    simp [lines_eq_nil_iff.mp none] at last
  | case5 c rest different single line more found ih =>
    have last := shorter different ended
    have full : rest ≠ [] := by
      rintro rfl
      contradiction
    -- The two characters of a line end stay together.
    have apart : ∀ others, c = '\r' → rest ++ back = '\n' :: others → False := by
      intro others return_ starts
      obtain ⟨d,tail,rfl⟩ := List.exists_cons_of_ne_nil full
      exact single tail return_ (by simp_all)
    rw [List.cons_append,lines.eq_4 c _ different apart,ih (Or.inr last),found]
    rfl

private theorem lines_line {line : List Char} (single : '\n' ∉ line)
    (bare : line.getLast? ≠ some '\r')
    (back : List Char) : lines (line ++ '\n' :: back) = line :: lines back := by
  induction line with
  | nil => rfl
  | cons c line ih =>
    rw [List.mem_cons,not_or] at single
    have apart : ∀ others, c = '\r' → line ++ '\n' :: back = '\n' :: others → False := by
      intro others same starts
      cases line with
      | nil => exact bare (by simp [same])
      | cons d line =>
        obtain ⟨rfl,_⟩ := List.cons.inj starts
        exact single.2 (by simp)
    have onward : line.getLast? ≠ some '\r' := by
      intro last
      apply bare
      rw [List.getLast?_cons,last]
      rfl
    rw [List.cons_append,lines.eq_4 c _ (Ne.symm single.1) apart,ih single.2 onward]

/-- A line that is put into a text between two lines is one more line. -/
theorem AddsLine.of_text (sources : List ListSource) {above below : List Char}
    (ended : above = [] ∨ above.getLast? = some '\n') (single : '\n' ∉ line)
    (bare : line.getLast? ≠ some '\r') :
    AddsLine 0 line ({ id := 0, text := String.ofList (above ++ below) } :: sources)
      ({ id := 0, text := String.ofList (above ++ (line ++ '\n' :: below)) } :: sources) := by
  refine .here sources rfl rfl ⟨rfl,rfl,lines above,lines below,?_,?_⟩
  · rw [String.toList_ofList,lines_append ended]
  · rw [String.toList_ofList,lines_append ended,lines_line single bare]

end DnsPolicy
