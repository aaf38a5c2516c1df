import DnsPolicy.Proofs.Closing
import DnsPolicy.Proofs.Precedence
import DnsPolicy.Proofs.Respelling

/-! The case of ASCII letters plays no part from end to end. Calls that spell hosts, rules and rewrites
in other letters get the same replies, up to the texts of rules, and leave a policy that differs in
nothing else. -/
namespace DnsPolicy
open Text

/-! ### Rewrites -/

structure Rewrite.Respelled (rewrite other : Rewrite) : Prop where
  domain : SameLetters rewrite.domain.toList other.domain.toList
  answer : SameLetters rewrite.answer.toList other.answer.toList

private theorem Rewrite.Respelled.normalize {rewrite other : Rewrite}
    (respelled : rewrite.Respelled other) : rewrite.normalize = other.normalize := by
  have domain := respelled.domain.trim.trimDots.lower
  have answer := respelled.answer.trim.lower
  rw [Rewrite.normalize,Rewrite.normalize,domain,answer]

private theorem RewriteTable.ofList_respelled {entries others : List Rewrite}
    (respelled : List.Forall₂ Rewrite.Respelled entries others) : ofList entries = ofList others := by
  have normals : entries.mapM Rewrite.normalize = others.mapM Rewrite.normalize := by
    induction respelled with
    | nil => rfl
    | cons head _ ih => rw [List.mapM_cons,List.mapM_cons,head.normalize,ih]
  rw [ofList,ofList,normals]

/-- Settings that differ in the letters of their rewrites alone. -/
structure Settings.Respelled (settings other : Settings) : Prop where
  rest : other = { settings with rewrites := other.rewrites }
  rewrites : List.Forall₂ Rewrite.Respelled settings.rewrites.entries other.rewrites.entries

private theorem Settings.Respelled.prepare {settings other : Settings}
    (respelled : settings.Respelled other) : settings.prepare = other.prepare := by
  rw [Settings.prepare,Settings.prepare,RewriteTable.ofList_respelled respelled.rewrites]
  cases RewriteTable.ofList other.rewrites.entries with
  | error fault => rfl
  | ok rewrites =>
    have same : { other with rewrites } = { settings with rewrites } := by rw [respelled.rest]
    exact congrArg Except.ok same.symm

inductive Edit.Respelled : Edit → Edit → Prop
  | update {change other : Settings → Settings}
      (respelled : ∀ settings, (change settings).Respelled (other settings)) :
      Respelled (.update change) (.update other)
  | setRewrites {entries others : List Rewrite}
      (respelled : List.Forall₂ Rewrite.Respelled entries others) :
      Respelled (.setRewrites entries) (.setRewrites others)
  | addRewrite {rewrite other : Rewrite} (respelled : rewrite.Respelled other) :
      Respelled (.addRewrite rewrite) (.addRewrite other)
  | removeRewrite {rewrite other : Rewrite} (respelled : rewrite.Respelled other) :
      Respelled (.removeRewrite rewrite) (.removeRewrite other)

private theorem Edit.Respelled.edit {edit other : Edit} (respelled : edit.Respelled other)
    (policy : Policy) : policy.edit edit = policy.edit other := by
  have updated : ∀ change other : Settings → Settings,
      (change policy.settings).Respelled (other policy.settings) →
        policy.update change = policy.update other := by
    intro change other respelled
    rw [Policy.update,Policy.update,respelled.prepare]
  cases respelled with
  | update respelled => simp only [Policy.edit,updated _ _ (respelled policy.settings)]
  | @setRewrites entries others respelled =>
    have table : policy.setRewrites entries = policy.setRewrites others :=
      updated _ (fun settings => { settings with rewrites := ⟨others⟩ }) ⟨rfl,respelled⟩
    simp only [Policy.edit,table]
  | addRewrite respelled =>
    simp only [Policy.edit_addRewrite,Policy.editRewrites,RewriteTable.add,respelled.normalize]
  | removeRewrite respelled =>
    simp only [Policy.edit_removeRewrite,Policy.editRewrites,RewriteTable.remove,respelled.normalize]

/-! ### Rules in force and on the way -/

structure RulePair.SameAnswers (pair other : RulePair) : Prop where
  block : Option.Rel Ruleset.SameAnswers pair.block other.block
  allow : Option.Rel Ruleset.SameAnswers pair.allow other.allow

structure RuleRequest.Respelled (request other : RuleRequest) : Prop where
  number : request.number = other.number
  block : List.Forall₂ ListSource.Respelled request.block other.block
  allow : List.Forall₂ ListSource.Respelled request.allow other.allow

private theorem RuleRequest.Respelled.build {request other : RuleRequest}
    (respelled : request.Respelled other) :
    Agree RulePair.SameAnswers request.build other.build := by
  rw [RuleRequest.build,RuleRequest.build]
  apply (Ruleset.build_respelled respelled.block).bind
  intro block otherBlock blocks
  apply (Ruleset.build_respelled respelled.allow).bind
  intro allow otherAllow allows
  exact .ok ⟨.some blocks,.some allows⟩

private theorem RulePair.SameAnswers.decideBy {rules others : Option Ruleset}
    (same : Option.Rel Ruleset.SameAnswers rules others) (host : String) (qtype : RecordType)
    (client : List String) :
    (RulePair.decideBy rules host qtype client).untitled =
      (RulePair.decideBy others host qtype client).untitled := by
  cases same with
  | none => rfl
  | some same => exact Ruleset.decide_sameAnswers same host qtype client

namespace Reloader

structure SameButTexts (reloader other : Reloader) : Prop where
  pair : reloader.pair.SameAnswers other.pair
  installed : reloader.installed = other.installed
  generation : reloader.generation = other.generation
  submitted : reloader.submitted = other.submitted
  waiting : Option.Rel RuleRequest.Respelled reloader.waiting other.waiting
  taken : Option.Rel RuleRequest.Respelled reloader.taken other.taken
  started : reloader.started = other.started
  closing : reloader.closing = other.closing
  closed : reloader.closed = other.closed

/-- Both succeed or both fail, and what is left is the same but for texts. -/
def SameStep (left right : Except Failure Unit × Reloader) : Prop :=
  Agree (fun _ _ => True) left.1 right.1 ∧ left.2.SameButTexts right.2

namespace SameButTexts

variable {reloader other : Reloader}

private theorem refl (reloader : Reloader) : reloader.SameButTexts reloader := by
  have rules : ∀ rules : Option Ruleset, Option.Rel Ruleset.SameAnswers rules rules := by
    rintro (_ | rules)
    · exact .none
    · exact .some fun _ _ => rfl
  have sources : ∀ sources : List ListSource, List.Forall₂ ListSource.Respelled sources sources :=
    fun sources => List.forall₂_same.mpr fun _ _ => .same rfl
  have request : ∀ request : Option RuleRequest, Option.Rel RuleRequest.Respelled request request := by
    rintro (_ | request)
    · exact .none
    · exact .some ⟨rfl,sources _,sources _⟩
  exact ⟨⟨rules _,rules _⟩,rfl,rfl,rfl,request _,request _,rfl,rfl,rfl⟩

private theorem rebuild (same : reloader.SameButTexts other) {request otherRequest : RuleRequest}
    (respelled : request.Respelled otherRequest) :
    SameStep (reloader.rebuild request) (other.rebuild otherRequest) := by
  rw [Reloader.rebuild,Reloader.rebuild,same.closed,same.installed,respelled.number]
  split
  · exact ⟨.ok trivial,same⟩
  · have built := respelled.build
    generalize request.build = one at built
    generalize otherRequest.build = another at built
    cases built with
    | error failure otherFailure => exact ⟨.error _ _,same⟩
    | ok pairs =>
      exact
        ⟨.ok trivial,
          { same with
            pair := pairs
            installed := rfl
            generation := congrArg (· + 1) same.generation
            closed := rfl }⟩

private theorem setRules (same : reloader.SameButTexts other)
    {block otherBlock allow otherAllow : List ListSource}
    (blocks : List.Forall₂ ListSource.Respelled block otherBlock)
    (allows : List.Forall₂ ListSource.Respelled allow otherAllow) (background : Bool) :
    SameStep (reloader.setRules block allow background)
      (other.setRules otherBlock otherAllow background) := by
  have request : RuleRequest.Respelled (reloader.draw block allow).1
      (other.draw otherBlock otherAllow).1 := ⟨congrArg (· + 1) same.submitted,blocks,allows⟩
  have drawn : (reloader.draw block allow).2.SameButTexts (other.draw otherBlock otherAllow).2 :=
    { same with submitted := congrArg (· + 1) same.submitted }
  cases background with
  | true =>
    simp only [Reloader.setRules,enqueue,same.closing,if_true]
    split
    · exact ⟨.error _ _,same⟩
    · exact ⟨.ok trivial,{ drawn with waiting := .some request }⟩
  | false =>
    simp only [Reloader.setRules,submit,same.closing,Bool.false_eq_true,if_false]
    cases other.closing with
    | true => exact ⟨.error _ _,same⟩
    | false => exact drawn.rebuild request

private theorem start (same : reloader.SameButTexts other) :
    SameStep reloader.start other.start := by
  rw [Reloader.start,Reloader.start,same.started,same.closing]
  split
  · exact ⟨.ok trivial,same⟩
  · split
    · exact ⟨.error _ _,same⟩
    · exact ⟨.ok trivial,{ same with started := rfl, closing := rfl }⟩

private theorem isNone_taken (same : reloader.SameButTexts other) :
    reloader.taken.isNone = other.taken.isNone := by
  have taken := same.taken
  generalize reloader.taken = one at taken
  generalize other.taken = another at taken
  cases taken <;> rfl

private theorem take (same : reloader.SameButTexts other) :
    reloader.take.SameButTexts other.take := by
  rw [Reloader.take,Reloader.take,same.started,same.closing,same.isNone_taken]
  split
  · exact { same with waiting := .none, taken := same.waiting, started := rfl, closing := rfl }
  · exact same

private theorem finish (same : reloader.SameButTexts other) :
    reloader.finish.SameButTexts other.finish := by
  have taken := same.taken
  rw [Reloader.finish,Reloader.finish]
  generalize reloader.taken = one at taken
  generalize other.taken = another at taken
  cases taken with
  | none => exact same
  | some request => exact { (same.rebuild request).2 with taken := .none }

private theorem beginClose (same : reloader.SameButTexts other) :
    reloader.beginClose.SameButTexts other.beginClose := by
  rw [Reloader.beginClose,Reloader.beginClose,same.closing]
  split
  · exact same
  · exact { same with waiting := .none, closing := rfl }

private theorem endClose (same : reloader.SameButTexts other) :
    reloader.endClose.SameButTexts other.endClose := by
  rw [Reloader.endClose,Reloader.endClose,same.closing,same.isNone_taken]
  split
  · exact { same with started := rfl, closing := rfl, closed := rfl, pair := ⟨.none,.none⟩ }
  · exact same

end SameButTexts

end Reloader

/-! ### Checks -/

private theorem Text.SameLetters.eq_empty_iff {host other : String}
    (same : SameLetters host.toList other.toList) : host = "" ↔ other = "" := by
  have lengths := congrArg List.length same
  rw [length_asciiLower,length_asciiLower] at lengths
  rw [← String.toList_eq_nil_iff,← String.toList_eq_nil_iff,← List.length_eq_zero_iff,lengths,
    List.length_eq_zero_iff]

private theorem Text.SameLetters.hostname {host other : String}
    (same : SameLetters host.toList other.toList) : Hostname.lower host = Hostname.lower other :=
  congrArg String.ofList same.lower

/-- Profiles that differ in the texts of rules of services alone. -/
structure Profile.SameButTexts (profile other : Profile) : Prop where
  rest : other = { profile with services := other.services }
  services : profile.services.map Service.untitled = other.services.map Service.untitled

namespace Profile.SameButTexts

variable {profile other : Profile}

private theorem filtering (same : profile.SameButTexts other) :
    other.filtering = profile.filtering := by
  rw [same.rest]

private theorem tags (same : profile.SameButTexts other) : other.tags = profile.tags := by
  rw [same.rest]

private theorem wants (same : profile.SameButTexts other) : other.wants = profile.wants := by
  rw [same.rest]
  rfl

end Profile.SameButTexts

namespace Policy

def Findings.untitled (findings : Findings) : Findings :=
  { rewritten := findings.rewritten.untitled
    blocked := findings.blocked.untitled
    allowed := findings.allowed.untitled
    service := findings.service.untitled
    verdict := findings.verdict.untitled }

/-- The text of a rule has no part in which stage decides. -/
theorem Findings.early_untitled (findings : Findings) (filtering : Bool) :
    findings.untitled.early filtering = (findings.early filtering).untitled := by
  have matched : ∀ decision : Decision, decision.untitled.matched = decision.matched := fun _ => rfl
  have lifted : findings.untitled.lifted = findings.lifted := rfl
  rw [early,early,lifted]
  simp only [untitled,matched]
  split
  · rfl
  · split <;> rfl

/-- Policies that differ in the texts of their rules alone. -/
structure SameButTexts (policy other : Policy) : Prop where
  settings : policy.settings = other.settings
  notices : policy.notices = other.notices
  reloader : policy.reloader.SameButTexts other.reloader
  panel : policy.panel = other.panel

namespace SameButTexts

variable {policy other : Policy} {host otherHost : String} {profile otherProfile : Profile}

private theorem findings (same : policy.SameButTexts other)
    (letters : SameLetters host.toList otherHost.toList) (qtype : RecordType)
    (profiles : profile.SameButTexts otherProfile) :
    (policy.findings host qtype profile).untitled =
      (other.findings otherHost qtype otherProfile).untitled := by
  have blocked := RulePair.SameAnswers.decideBy same.reloader.pair.block (Hostname.lower otherHost) qtype
    profile.tags
  have allowed := RulePair.SameAnswers.decideBy same.reloader.pair.allow (Hostname.lower otherHost) qtype
    profile.tags
  have service : (Service.decide (Hostname.lower otherHost) profile.services).untitled =
      (Service.decide (Hostname.lower otherHost) otherProfile.services).untitled := by
    rw [← Service.decide_untitled,profiles.services,Service.decide_untitled]
  simp only [Policy.findings,Findings.untitled,letters.hostname,profiles.tags,profiles.wants,same.panel,
    same.settings,blocked,allowed,service]

private theorem check (same : policy.SameButTexts other)
    (letters : SameLetters host.toList otherHost.toList)
    (qtype : RecordType) (profiles : profile.SameButTexts otherProfile) :
    (policy.check host qtype profile).1.map Decision.untitled =
        (other.check otherHost qtype otherProfile).1.map Decision.untitled ∧
      (policy.check host qtype profile).2.SameButTexts (other.check otherHost qtype otherProfile).2 := by
  have findings := same.findings letters qtype profiles
  have early := congrArg (fun findings : Findings => findings.early profile.filtering) findings
  have verdict := congrArg Findings.verdict findings
  simp only [Findings.early_untitled] at early
  have matched : ((policy.findings host qtype profile).early profile.filtering).matched =
      ((other.findings otherHost qtype otherProfile).early profile.filtering).matched :=
    congrArg (·.reason.matched) early
  have panel : (policy.panel.decide (Hostname.lower host) (classifierOrder.filter profile.wants)).2 =
      (other.panel.decide (Hostname.lower otherHost) (classifierOrder.filter otherProfile.wants)).2 := by
    rw [letters.hostname,same.panel,profiles.wants]
  cases opened : policy.reloader.closing with
  | true =>
    have otherOpened : other.reloader.closing = true := same.reloader.closing.symm.trans opened
    rw [Policy.check,Policy.check,if_pos opened,if_pos otherOpened]
    exact ⟨rfl,same⟩
  | false =>
    have otherOpened : other.reloader.closing = false := same.reloader.closing.symm.trans opened
    by_cases named : host = ""
    · obtain rfl := letters.eq_empty_iff.mp named
      subst named
      simp only [Policy.check,opened,otherOpened]
      exact ⟨rfl,same⟩
    · rw [check_eq opened named,check_eq otherOpened (mt letters.eq_empty_iff.mpr named),
        profiles.filtering,matched]
      -- Both are decided early, or both ask their classifiers, which are the same.
      split
      · exact ⟨congrArg Except.ok early,same⟩
      · exact ⟨congrArg Except.ok verdict,{ same with panel := panel }⟩

private theorem checkRules (same : policy.SameButTexts other)
    (letters : SameLetters host.toList otherHost.toList) (qtype : RecordType)
    (profiles : profile.SameButTexts otherProfile) :
    (policy.checkRules host qtype profile).map Decision.untitled =
      (other.checkRules otherHost qtype otherProfile).map Decision.untitled := by
  have findings := same.findings letters qtype profiles
  have blocked := congrArg Findings.blocked findings
  cases opened : policy.reloader.closing with
  | true =>
    have otherOpened : other.reloader.closing = true := same.reloader.closing.symm.trans opened
    rw [Policy.checkRules,Policy.checkRules,if_pos opened,if_pos otherOpened]
  | false =>
    have otherOpened : other.reloader.closing = false := same.reloader.closing.symm.trans opened
    by_cases named : host = ""
    · obtain rfl := letters.eq_empty_iff.mp named
      subst named
      simp [Policy.checkRules,opened,otherOpened]
    · rw [checkRules_eq opened named,checkRules_eq otherOpened (mt letters.eq_empty_iff.mpr named),
        profiles.filtering]
      split
      · exact congrArg Except.ok blocked
      · rfl

end SameButTexts

/-! ### Calls -/

/-- The same call, with hosts, rules and rewrites spelt in other letters. -/
inductive Call.Respelled : Call → Call → Prop
  | check {host other : String} (letters : SameLetters host.toList other.toList) (qtype : RecordType)
      {profile otherProfile : Profile} (profiles : profile.SameButTexts otherProfile) :
      Respelled (.check host qtype profile) (.check other qtype otherProfile)
  | checkRules {host other : String} (letters : SameLetters host.toList other.toList)
      (qtype : RecordType) {profile otherProfile : Profile}
      (profiles : profile.SameButTexts otherProfile) :
      Respelled (.checkRules host qtype profile) (.checkRules other qtype otherProfile)
  | setRules {block otherBlock allow otherAllow : List ListSource}
      (blocks : List.Forall₂ ListSource.Respelled block otherBlock)
      (allows : List.Forall₂ ListSource.Respelled allow otherAllow) (background : Bool) :
      Respelled (.setRules block allow background) (.setRules otherBlock otherAllow background)
  | start : Respelled .start .start
  | settle : Respelled .settle .settle
  | close : Respelled .close .close
  | edit {edit other : Edit} (respelled : edit.Respelled other) : Respelled (.edit edit) (.edit other)
  | clear (kind : ClassifierKind) : Respelled (.clear kind) (.clear kind)
  | reset : Respelled .reset .reset

/-- Decisions may name rules by other texts, and a failure may be told in another way. -/
inductive Reply.SameButTexts : Reply → Reply → Prop
  | decision {result other : Except Failure Decision}
      (same : result.map Decision.untitled = other.map Decision.untitled) :
      SameButTexts (.decision result) (.decision other)
  | done {result other : Except Failure Unit} (agree : Agree (fun _ _ => True) result other) :
      SameButTexts (.done result) (.done other)
  | changed (result : Except Failure Bool) : SameButTexts (.changed result) (.changed result)

namespace SameButTexts

variable {policy other : Policy}

private theorem refl (policy : Policy) : policy.SameButTexts policy := ⟨rfl,rfl,.refl _,rfl⟩

private theorem edit (same : policy.SameButTexts other) {edit otherEdit : Edit}
    (respelled : edit.Respelled otherEdit) :
    (policy.edit edit).1 = (other.edit otherEdit).1 ∧
      (policy.edit edit).2.SameButTexts (other.edit otherEdit).2 := by
  rw [← respelled.edit other]
  have start : SameSettings policy other := ⟨same.settings,same.notices⟩
  obtain ⟨result,after⟩ := start.edit edit
  obtain ⟨reloader,panel⟩ := (policy.edited_edit edit).elsewhere
  obtain ⟨otherReloader,otherPanel⟩ := (other.edited_edit edit).elsewhere
  refine ⟨result,after.settings,after.notices,?_,?_⟩
  · rw [reloader,otherReloader]
    exact same.reloader
  · rw [panel,otherPanel,same.panel]

private theorem call (same : policy.SameButTexts other) {call otherCall : Call}
    (respelled : call.Respelled otherCall) :
    Reply.SameButTexts (policy.call call).1 (other.call otherCall).1 ∧
      (policy.call call).2.SameButTexts (other.call otherCall).2 := by
  cases respelled with
  | check letters qtype profiles =>
    obtain ⟨result,after⟩ := same.check letters qtype profiles
    exact ⟨.decision result,after⟩
  | checkRules letters qtype profiles => exact ⟨.decision (same.checkRules letters qtype profiles),same⟩
  | setRules blocks allows background =>
    obtain ⟨result,after⟩ := same.reloader.setRules blocks allows background
    exact ⟨.done result,{ same with reloader := after }⟩
  | start =>
    obtain ⟨result,after⟩ := same.reloader.start
    exact ⟨.done result,{ same with reloader := after }⟩
  | settle => exact ⟨.done (.ok trivial),{ same with reloader := same.reloader.take.finish }⟩
  | close =>
    exact ⟨.done (.ok trivial),{ same with reloader := same.reloader.beginClose.finish.endClose }⟩
  | edit respelled =>
    obtain ⟨result,after⟩ := same.edit respelled
    simp only [Policy.call,result]
    exact ⟨.changed _,after⟩
  | clear kind =>
    exact ⟨.done (.ok trivial),{ same with panel := congrArg (Panel.clear · kind) same.panel }⟩
  | reset => exact ⟨.done (.ok trivial),{ same with panel := congrArg Panel.reset same.panel }⟩

private theorem run (same : policy.SameButTexts other) {calls others : List Call}
    (respelled : List.Forall₂ Call.Respelled calls others) (time : Nat → Panel → Panel) :
    List.Forall₂ Reply.SameButTexts (policy.run time calls).1 (other.run time others).1 ∧
      (policy.run time calls).2.SameButTexts (other.run time others).2 := by
  induction respelled generalizing policy other time with
  | nil => exact ⟨.nil,same⟩
  | cons head _ ih =>
    -- What became of the panel before the call is the same on both sides.
    have later : SameButTexts { policy with panel := time 0 policy.panel }
        { other with panel := time 0 other.panel } :=
      { same with panel := congrArg (time 0) same.panel }
    obtain ⟨reply,next⟩ := later.call head
    obtain ⟨replies,last⟩ := ih next fun n => time (n + 1)
    exact ⟨.cons reply replies,last⟩

end SameButTexts

/-- Lists, services and rewrites that are spelt in other letters are accepted or turned away alike, and
in normal form rewrites are the same. Policies that are the same but for texts, as two new ones with
the same settings are, give the same replies but for texts to calls that are spelt in other letters.
They are still the same but for texts in the end, and their panels are the same altogether. -/
theorem run_ignores_case :
    (∀ sources others, List.Forall₂ ListSource.Respelled sources others →
      ((∃ rules, Ruleset.build sources = .ok rules) ↔ ∃ rules, Ruleset.build others = .ok rules)) ∧
    (∀ name (texts others : List String),
      List.Forall₂ (fun text other : String => NetworkRule.Respelled text.toList other.toList) texts
        others →
      Agree (fun service other => service.untitled = other.untitled) (Service.ofTexts name texts)
        (Service.ofTexts name others)) ∧
    (∀ rewrite other : Rewrite, rewrite.Respelled other → rewrite.normalize = other.normalize) ∧
    (∀ settings other : Settings, settings.Respelled other → settings.prepare = other.prepare) ∧
    (∀ policy : Policy, policy.SameButTexts policy) ∧
    ∀ (policy other : Policy) (calls others : List Call) (time : Nat → Panel → Panel),
      policy.SameButTexts other → List.Forall₂ Call.Respelled calls others →
        List.Forall₂ Reply.SameButTexts (policy.run time calls).1 (other.run time others).1 ∧
          (policy.run time calls).2.SameButTexts (other.run time others).2 := by
  refine ⟨?_,?_,?_,?_,SameButTexts.refl,?_⟩
  · exact fun sources others respelled => (Ruleset.build_respelled respelled).exists_iff
  · exact fun name texts others respelled => Service.ofTexts_respelled name respelled
  · exact fun rewrite other respelled => respelled.normalize
  · exact fun settings other respelled => respelled.prepare
  · exact fun policy other calls others time same respelled => same.run respelled time

/-- One list of rules, one rewrite, and a question about a host. -/
private def spelt (rules domain host : String) : List Call :=
  [.setRules [{ id := 0, text := rules }] [] false,
   .edit (.addRewrite { domain, answer := "Host.example" }),
   .check host .a { filtering := true }]

/-- The host is blocked by rules with different texts. -/
theorem run_ignores_case_spelt :
    let calls := spelt "||Ads.example^\n0.0.0.0 Tracker.example" "Home.example" "ads.Example"
    let others := spelt "||ADS.EXAMPLE^\n0.0.0.0 tracker.example" "HOME.example" "Ads.example"
    List.Forall₂ Reply.SameButTexts ((ofSettings {}).run (fun _ => id) calls).1
        ((ofSettings {}).run (fun _ => id) others).1 ∧
      (((ofSettings {}).run (fun _ => id) calls).2.check "ads.Example" .a { filtering := true }).1 =
        .ok { Decision.ofReason .blocked with rule := "||Ads.example^" } ∧
      (((ofSettings {}).run (fun _ => id) others).2.check "Ads.example" .a { filtering := true }).1 =
        .ok { Decision.ofReason .blocked with rule := "||ADS.EXAMPLE^" } := by
  intro calls others
  have pattern : Rule.Respelled "||Ads.example^".toList "||ADS.EXAMPLE^".toList :=
    .network ⟨by decide,by decide,Or.inl (by decide)⟩
  have names : Rule.Respelled "0.0.0.0 Tracker.example".toList "0.0.0.0 tracker.example".toList :=
    .host (by decide) (.v4 0 0 0 0) (by decide)
  have rules : ListSource.Respelled { id := 0, text := "||Ads.example^\n0.0.0.0 Tracker.example" }
      { id := 0, text := "||ADS.EXAMPLE^\n0.0.0.0 tracker.example" } :=
    .loaded _ _ rfl rfl ⟨rfl,.cons pattern (.cons names .nil)⟩
  have rewrite : Rewrite.Respelled { domain := "Home.example", answer := "Host.example" }
      { domain := "HOME.example", answer := "Host.example" } := ⟨by decide,by decide⟩
  have respelled : List.Forall₂ Call.Respelled calls others :=
    .cons (.setRules (.cons rules .nil) .nil false)
      (.cons (.edit (.addRewrite rewrite))
        (.cons (.check (by decide) .a ⟨rfl,rfl⟩) .nil))
  obtain ⟨_,_,_,_,start,run⟩ := run_ignores_case
  obtain ⟨replies,_⟩ := run (ofSettings {}) (ofSettings {}) calls others (fun _ => id) (start _) respelled
  exact ⟨replies,by decide +kernel,by decide +kernel⟩

end Policy

end DnsPolicy
