import DnsPolicy.CommandLine
import DnsPolicy.Proofs.JoinedLists
import Mathlib.Algebra.GroupWithZero.Nat

/-! Files that are validated one by one are those that can be loaded together, and what is counted of
each adds up to what is counted of all. -/
namespace DnsPolicy
open Text

/-! ### Numbers of lists do not count -/

namespace Scan

private theorem map_unlisted_rulesOn (lists : List RuleList) :
    (rulesOn lists).map Rule.unlisted = lists.flatMap fun list =>
      (lines list.contents.toList).filterMap fun line => (Rule.parseLine line 0).toOption.join := by
  rw [rulesOn,List.map_flatMap]
  congr 1
  funext list
  rw [List.map_filterMap]
  congr 1
  funext line
  rw [← Rule.parseLine_unlisted line list.id]
  rcases Rule.parseLine line list.id with _ | (_ | _) <;> rfl

private theorem length_networkRules_unlisted (rules : List Rule) :
    (networkRules (rules.map Rule.unlisted)).length = (networkRules rules).length ∧
      (hostRules (rules.map Rule.unlisted)).length = (hostRules rules).length := by
  induction rules with
  | nil => exact ⟨rfl,rfl⟩
  | cons rule rules ih =>
    cases rule with
    | network rule => exact ⟨congrArg (· + 1) ih.1,ih.2⟩
    | host rule => exact ⟨ih.1,congrArg (· + 1) ih.2⟩

end Scan

/-- Both lists have the same file, if they have one, and neither has a text of its own. -/
structure ListSource.SameFile (source other : ListSource) : Prop where
  numbered : source.id ≠ 0
  renumbered : other.id ≠ 0
  file : source.file = other.file

namespace ListSource.SameFile

variable {source other : ListSource} {text : String} {ruleset renumbered : Ruleset}

private theorem symm (same : source.SameFile other) : other.SameFile source :=
  ⟨same.renumbered,same.numbered,same.file.symm⟩

private theorem tell (same : source.SameFile other) (told : source.Says text) :
    other.Says text := by
  cases told with
  | inline zero => exact absurd zero same.numbered
  | missing _ absent => exact .missing same.renumbered (same.file ▸ absent)
  | file _ present => exact .file same.renumbered (same.file ▸ present)

private theorem isClean (same : source.SameFile other) (clean : source.IsClean) :
    other.IsClean := by
  obtain ⟨text,told,readable⟩ := clean
  refine ⟨text,same.tell told,fun line member => ?_⟩
  exact Rule.exists_parseLine_iff.mpr (Rule.exists_parseLine_iff.mp (readable line member))

private theorem builds_iff (same : source.SameFile other) :
    (∃ ruleset, Ruleset.build [source] = .ok ruleset) ↔ ∃ ruleset, Ruleset.build [other] = .ok ruleset := by
  simp only [Ruleset.exists_build_iff,List.mem_singleton,forall_eq]
  exact ⟨same.isClean,same.symm.isClean⟩

/-- Under any other number the file gives as many rules of each kind. -/
theorem sizes_eq (same : source.SameFile other) (built : Ruleset.build [source] = .ok ruleset)
    (rebuilt : Ruleset.build [other] = .ok renumbered) :
    ruleset.index.networkRules.size = renumbered.index.networkRules.size ∧
      ruleset.index.hostRules.size = renumbered.index.hostRules.size := by
  obtain ⟨list,_,loaded,empty,lists⟩ :=
    List.forall₂_cons_left_iff.mp (mapM_eq_ok_iff.mp (Ruleset.build_eq_ok built).1)
  obtain ⟨again,_,reloaded,empty',relists⟩ :=
    List.forall₂_cons_left_iff.mp (mapM_eq_ok_iff.mp (Ruleset.build_eq_ok rebuilt).1)
  rw [List.forall₂_nil_left_iff] at empty empty'
  have contents : again.contents = list.contents :=
    (same.tell (load_eq_ok loaded).2).contents_eq reloaded
  have rules : ruleset.rules.map Rule.unlisted = renumbered.rules.map Rule.unlisted := by
    simp only [Ruleset.rules,lists,relists,empty,empty',Scan.map_unlisted_rulesOn,
      List.flatMap_singleton,contents]
  obtain ⟨networks,hosts⟩ := Scan.length_networkRules_unlisted ruleset.rules
  obtain ⟨renetworks,rehosts⟩ := Scan.length_networkRules_unlisted renumbered.rules
  simp only [← Array.length_toList,Ruleset.networkRules_of_build built,
    Ruleset.networkRules_of_build rebuilt]
  rw [← networks,← hosts,rules]
  exact ⟨renetworks,rehosts⟩

end ListSource.SameFile

namespace CommandLine

variable {files : Files} {paths : List String}

private theorem sources_cons (first : Nat) (path : String) :
    sources files first (path :: paths) =
      { id := (first : Int), file := files path } :: sources files (first + 1) paths := by
  rw [sources,List.zipIdx_cons,List.map_cons,sources]

private theorem sameFile (files : Files) (path : String) {first start : Nat} (numbered : first ≠ 0)
    (renumbered : start ≠ 0) :
    ListSource.SameFile { id := (start : Int), file := files path }
      { id := (first : Int), file := files path } :=
  ⟨Int.natCast_ne_zero.mpr renumbered,Int.natCast_ne_zero.mpr numbered,rfl⟩

/-! ### Reports on single files -/

/-- The file is there, and a rule set of its own can be built from it. -/
def IsGood (files : Files) (path : String) (id : Nat) : Prop :=
  files path ≠ .missing ∧ ∃ ruleset, Ruleset.build [{ id := (id : Int), file := files path }] = .ok ruleset

def countText (networks hosts : Nat) : String :=
  toString networks ++ " network rules, " ++ toString hosts ++ " host rules"

private theorem report_good {path : String} {id : Nat} :
    (report files path id).1 = true ↔ IsGood files path id := by
  rw [report,IsGood]
  split
  next absent => simp [absent]
  next present =>
    rw [and_iff_right present]
    cases Ruleset.build [{ id := (id : Int), file := files path }] <;> simp

private theorem report_of_build {path : String} {id : Nat} {ruleset : Ruleset}
    (present : files path ≠ .missing)
    (built : Ruleset.build [{ id := (id : Int), file := files path }] = .ok ruleset) :
    (report files path id).2 =
      countText ruleset.index.networkRules.size ruleset.index.hostRules.size := by
  rw [report]
  split
  next absent => exact absurd absent present
  next => simp only [built,countText]

private theorem validate_status :
    (validate files paths).status = 0 ↔
      ∀ path id, (path,id) ∈ paths.zipIdx 1 → IsGood files path id := by
  have none_bad : (validate files paths).status = 0 ↔
      (((paths.zipIdx 1).map fun entry => (entry.1,report files entry.1 entry.2)).filter
        fun told => !told.2.1).length = 0 := by
    rw [validate]
    split
    next zero => simp only [zero]
    next bad => simp only [bad,failed,iff_false]; decide
  rw [none_bad,List.length_eq_zero_iff,List.filter_eq_nil_iff]
  simp only [List.mem_map,Prod.exists]
  constructor
  · intro good path id member
    have := good _ ⟨path,id,member,rfl⟩
    rw [← report_good]
    simpa using this
  · rintro good _ ⟨path,id,member,rfl⟩
    simpa using report_good.mpr (good path id member)

/-! ### Reports and rule sets of all files -/

private theorem exists_build_sources_iff {first start : Nat} (numbered : first ≠ 0)
    (renumbered : start ≠ 0) (present : ∀ path ∈ paths, files path ≠ .missing) :
    (∃ ruleset, Ruleset.build (sources files start paths) = .ok ruleset) ↔
      ∀ path id, (path,id) ∈ paths.zipIdx first → IsGood files path id := by
  induction paths generalizing first start with
  | nil => simp [sources,Ruleset.exists_build_iff]
  | cons path paths ih =>
    rw [List.forall_mem_cons] at present
    have head : (∃ ruleset, Ruleset.build [{ id := (start : Int), file := files path }] = .ok ruleset) ↔
        IsGood files path first := by
      rw [(sameFile files path numbered renumbered).builds_iff,IsGood,and_iff_right present.1]
    have tail := ih (Nat.succ_ne_zero first) (Nat.succ_ne_zero start) present.2
    rw [sources_cons,← List.singleton_append,Ruleset.exists_build_append_iff,head,tail,
      List.zipIdx_cons]
    simp only [List.mem_cons,Prod.mk.injEq]
    grind

/-- For each file the numbers that its report tells, which add up to those of the rule set. -/
theorem exists_counts {first start : Nat} {ruleset : Ruleset} (numbered : first ≠ 0)
    (renumbered : start ≠ 0) (present : ∀ path ∈ paths, files path ≠ .missing)
    (built : Ruleset.build (sources files start paths) = .ok ruleset) :
    ∃ counts : List (Nat × Nat),
      List.Forall₂ (fun entry count =>
        (report files entry.1 entry.2).2 = countText count.1 count.2) (paths.zipIdx first) counts ∧
      (counts.map Prod.fst).sum = ruleset.index.networkRules.size ∧
      (counts.map Prod.snd).sum = ruleset.index.hostRules.size := by
  induction paths generalizing first start ruleset with
  | nil =>
    obtain rfl := Except.ok.inj built
    exact ⟨[],.nil,rfl,rfl⟩
  | cons path paths ih =>
    rw [List.forall_mem_cons] at present
    rw [sources_cons,← List.singleton_append] at built
    obtain ⟨⟨one,alone⟩,others,rest⟩ := Ruleset.exists_build_append_iff.mp ⟨ruleset,built⟩
    obtain ⟨counts,told,networks,hosts⟩ :=
      ih (Nat.succ_ne_zero first) (Nat.succ_ne_zero start) present.2 rest
    have same := sameFile files path numbered renumbered
    obtain ⟨again,rebuilt⟩ := same.builds_iff.mp ⟨one,alone⟩
    obtain ⟨sameNetworks,sameHosts⟩ := same.sizes_eq alone rebuilt
    obtain ⟨allNetworks,allHosts⟩ := Ruleset.sizes_append alone rest built
    refine ⟨(again.index.networkRules.size,again.index.hostRules.size) :: counts,
      .cons (report_of_build present.1 rebuilt) told,?_,?_⟩
    · rw [List.map_cons,List.sum_cons,networks,allNetworks,sameNetworks]
    · rw [List.map_cons,List.sum_cons,hosts,allHosts,sameHosts]

/-- The files are told of one by one with numbers that add up to those of the rule set. -/
def AddsUp (files : Files) (paths : List String) (ruleset : Ruleset) : Prop :=
  ∃ counts : List (Nat × Nat), counts.length = paths.length ∧
    (validate files paths).stdout = String.join (List.zipWith (fun path count =>
      path ++ ": " ++ countText count.1 count.2 ++ "\n") paths counts) ∧
    (counts.map Prod.fst).sum = ruleset.index.networkRules.size ∧
    (counts.map Prod.snd).sum = ruleset.index.hostRules.size

private theorem addsUp_of_build {start : Nat} {ruleset : Ruleset} (renumbered : start ≠ 0)
    (present : ∀ path ∈ paths, files path ≠ .missing)
    (built : Ruleset.build (sources files start paths) = .ok ruleset) :
    AddsUp files paths ruleset := by
  obtain ⟨counts,told,networks,hosts⟩ := exists_counts Nat.one_ne_zero renumbered present built
  have stdout : (validate files paths).stdout = String.join ((paths.zipIdx 1).map fun entry =>
      entry.1 ++ ": " ++ (report files entry.1 entry.2).2 ++ "\n") := by
    rw [validate]
    split <;> simp only [failed,List.map_map] <;> rfl
  have lines : (paths.zipIdx 1).map (fun entry =>
      entry.1 ++ ": " ++ (report files entry.1 entry.2).2 ++ "\n") =
      List.zipWith (fun path count => path ++ ": " ++ countText count.1 count.2 ++ "\n")
        ((paths.zipIdx 1).map Prod.fst) counts := by
    clear networks hosts
    generalize paths.zipIdx 1 = entries at told
    induction told with
    | nil => rfl
    | cons head _ ih => rw [List.map_cons,List.map_cons,List.zipWith_cons_cons,ih,head]
  rw [List.zipIdx_map_fst] at lines
  exact ⟨counts,by rw [← told.length_eq,List.length_zipIdx],by rw [stdout,lines],networks,hosts⟩

/-! ### The policy of a check -/

section

variable {options : CheckOptions} {settings : Settings}

/-- A new policy for the settings, with the rule sets of both runs of lists in force. -/
theorem loadPolicy_eq (files : Files) (options : CheckOptions) :
    loadPolicy files options = do
      let settings ← loadSettings files options.config
      let pair ← RuleRequest.build ⟨1,sources files 1 options.block,
        sources files (options.block.length + 1) options.allow⟩
      return { Policy.ofSettings settings with
        reloader := { pair, installed := 1, generation := 1, submitted := 1 } } := by
  rw [loadPolicy]
  cases loadSettings files options.config with
  | error failure => rfl
  | ok settings =>
    cases built : RuleRequest.build ⟨1,sources files 1 options.block,
        sources files (options.block.length + 1) options.allow⟩ <;>
      simp [Policy.setRules,Policy.ofSettings,Reloader.setRules,Reloader.submit,Reloader.draw,
        Reloader.rebuild,built,bind,Except.bind,throw,throwThe,MonadExceptOf.throw,pure,Except.pure]

/-- The rule sets of a check are those of its two runs of lists, or what is wrong with these. -/
theorem map_pair_loadPolicy (configured : loadSettings files options.config = .ok settings) :
    (loadPolicy files options).map (·.reloader.pair) =
      RuleRequest.build ⟨1,sources files 1 options.block,
        sources files (options.block.length + 1) options.allow⟩ := by
  rw [loadPolicy_eq,configured]
  cases RuleRequest.build ⟨1,sources files 1 options.block,
    sources files (options.block.length + 1) options.allow⟩ <;> rfl

private theorem loadPolicy_iff_validate (configured : loadSettings files options.config = .ok settings)
    (present : ∀ path ∈ options.block ++ options.allow, files path ≠ .missing) :
    (∃ policy, loadPolicy files options = .ok policy) ↔
      (validate files options.block).status = 0 ∧ (validate files options.allow).status = 0 := by
  rw [List.forall_mem_append] at present
  rw [← exists_map_iff,map_pair_loadPolicy configured,validate_status,validate_status,
    ← exists_build_sources_iff Nat.one_ne_zero Nat.one_ne_zero present.1,
    ← exists_build_sources_iff Nat.one_ne_zero (Nat.succ_ne_zero options.block.length) present.2]
  constructor
  · rintro ⟨pair,built⟩
    obtain ⟨block,allow,_,first,second⟩ := RuleRequest.build_eq_ok built
    exact ⟨⟨block,first⟩,allow,second⟩
  · rintro ⟨⟨block,first⟩,allow,second⟩
    exact ⟨⟨some block,some allow⟩,bind_eq_ok_iff.mpr ⟨block,first,bind_eq_ok_iff.mpr ⟨allow,second,rfl⟩⟩⟩

private theorem addsUp_of_loadPolicy (configured : loadSettings files options.config = .ok settings)
    (present : ∀ path ∈ options.block ++ options.allow, files path ≠ .missing) {policy : Policy}
    (loaded : loadPolicy files options = .ok policy) :
    ∃ block allow, policy.reloader.pair = ⟨some block,some allow⟩ ∧
      AddsUp files options.block block ∧ AddsUp files options.allow allow := by
  rw [List.forall_mem_append] at present
  have built := map_pair_loadPolicy configured
  rw [loaded] at built
  obtain ⟨block,allow,pair,first,second⟩ := RuleRequest.build_eq_ok built.symm
  exact ⟨block,allow,pair,addsUp_of_build Nat.one_ne_zero present.1 first,
    addsUp_of_build (Nat.succ_ne_zero _) present.2 second⟩

end

/-- Lists are built together just when they can be built apart; then the rules add up, and what is said of
a host is what both rule sets say of it together. So files that are there can be used in a check just
when nothing is wrong with any of them, and the rules that are counted are those that the check uses. -/
theorem lists_compose (xs ys : List ListSource) (files : Files) :
    ((∃ joined, Ruleset.build (xs ++ ys) = .ok joined) ↔
      (∃ first, Ruleset.build xs = .ok first) ∧ ∃ second, Ruleset.build ys = .ok second) ∧
    (∀ first second joined, Ruleset.build xs = .ok first → Ruleset.build ys = .ok second →
      Ruleset.build (xs ++ ys) = .ok joined →
      joined.index.networkRules.size =
        first.index.networkRules.size + second.index.networkRules.size ∧
      joined.index.hostRules.size = first.index.hostRules.size + second.index.hostRules.size ∧
      ∀ host client, joined.index.lookup host client =
        Hit.join (first.index.lookup host client) (second.index.lookup host client)) ∧
    ∀ options settings, loadSettings files options.config = .ok settings →
      (∀ path ∈ options.block ++ options.allow, files path ≠ .missing) →
      ((∃ policy, loadPolicy files options = .ok policy) ↔
        (validate files options.block).status = 0 ∧ (validate files options.allow).status = 0) ∧
      ∀ policy, loadPolicy files options = .ok policy →
        ∃ block allow, policy.reloader.pair = ⟨some block,some allow⟩ ∧
          AddsUp files options.block block ∧ AddsUp files options.allow allow := by
  refine ⟨Ruleset.exists_build_append_iff,?_,?_⟩
  · intro first second joined built also both
    obtain ⟨networks,hosts⟩ := Ruleset.sizes_append built also both
    refine ⟨networks,hosts,fun host client => ?_⟩
    rw [Ruleset.lookup_of_build both,Ruleset.lookup_of_build built,Ruleset.lookup_of_build also,
      Ruleset.rules_append built also both,Scan.lookup_append]
  · intro options settings configured present
    exact ⟨loadPolicy_iff_validate configured present,
      fun policy => addsUp_of_loadPolicy configured present⟩

/-- Two lists with rules for one host, and a file with a name that is used beside a file with a rule. -/
theorem lists_compose_two_files :
    let xs : List ListSource := [{ id := 0, text := "||a.b^" }]
    let ys : List ListSource := [{ id := 0, text := "@@||a.b^$important" }]
    let files : Files := fun path =>
      if path = "one" then .bytes [0x61,0x2e,0x62]
      else if path = "two" then .bytes [0x7c,0x7c,0x63,0x5e,0x0a] else .missing
    (∃ first second joined : Ruleset, Ruleset.build (xs ++ ys) = .ok joined ∧
      joined.index.lookup "a.b" [] =
        Hit.join (first.index.lookup "a.b" []) (second.index.lookup "a.b" [])) ∧
    ∃ policy block allow,
      loadPolicy files { hosts := ["a.b"], block := ["one"], allow := ["two"] } = .ok policy ∧
      policy.reloader.pair = ⟨some block,some allow⟩ ∧
      AddsUp files ["one"] block ∧ AddsUp files ["two"] allow := by
  intro xs ys files
  obtain ⟨apart,lookups,load⟩ := lists_compose xs ys files
  constructor
  · have built : ∃ first, Ruleset.build xs = .ok first := ⟨_,rfl⟩
    have also : ∃ second, Ruleset.build ys = .ok second := ⟨_,rfl⟩
    obtain ⟨joined,both⟩ := apart.mpr ⟨built,also⟩
    obtain ⟨first,built⟩ := built
    obtain ⟨second,also⟩ := also
    exact ⟨first,second,joined,both,(lookups _ _ _ built also both).2.2 "a.b" []⟩
  · obtain ⟨iff,counted⟩ := load { hosts := ["a.b"], block := ["one"], allow := ["two"] } {} rfl
      (by decide)
    obtain ⟨policy,loaded⟩ := iff.mpr ⟨by decide +kernel,by decide +kernel⟩
    obtain ⟨block,allow,pair,first,second⟩ := counted policy loaded
    exact ⟨policy,block,allow,loaded,pair,first,second⟩

end CommandLine
end DnsPolicy
