import DnsPolicy.Proofs.LetterCase
import DnsPolicy.Proofs.Lookup
import DnsPolicy.Service

/-! Rules whose names are spelt in other letters. What is read from them is the same but for the text
that is kept of them, so that rule sets and services decide the same about every host. -/
namespace DnsPolicy
open Text

/-! ### Rules without their texts -/

def NetworkRule.untitled (rule : NetworkRule) : NetworkRule := { rule with text := "" }

def HostRule.untitled (rule : HostRule) : HostRule := { rule with text := "" }

/-- What a rule says, apart from how it is spelt. -/
def Rule.untitled : Rule → Rule
  | .network rule => .network rule.untitled
  | .host rule => .host rule.untitled

def Hit.untitled : Hit → Hit
  | .network rule => .network rule.untitled
  | .hosts v4 v6 => .hosts (v4.map HostRule.untitled) (v6.map HostRule.untitled)

def Decision.untitled (decision : Decision) : Decision := { decision with rule := "" }

def Service.untitled (service : Service) : Service :=
  { service with rules := service.rules.map NetworkRule.untitled }

/-! ### What is read from a rule -/

@[simp] theorem HostRule.hostname_asciiLower (word : List Char) :
    hostname (asciiLower word) = hostname word := by
  rw [hostname,hostname,trimDots_asciiLower,Unicode.lower_asciiLower]

private theorem HostRule.hostnames_asciiLower (line : List Char) :
    ((words (upTo '#' (trim (asciiLower line)))).drop 1).mapM hostname =
      ((words (upTo '#' (trim line))).drop 1).mapM hostname := by
  rw [trim_asciiLower,upTo_asciiLower (by decide),words_asciiLower,← List.map_drop,List.mapM_map]
  simp only [Function.comp_def,hostname_asciiLower]

private theorem HostRule.parse_sameLetters {line other : List Char} (same : SameLetters line other)
    (address : Address) (listId : Int) :
    Agree (fun rule otherRule => rule.untitled = otherRule.untitled) (parse line address listId)
      (parse other address listId) := by
  have names : ((words (upTo '#' (trim line))).drop 1).mapM hostname =
      ((words (upTo '#' (trim other))).drop 1).mapM hostname := by
    rw [← hostnames_asciiLower line,same,hostnames_asciiLower]
  simp only [parse,names]
  cases ((words (upTo '#' (trim other))).drop 1).mapM hostname with
  | error fault => exact .error _ _
  | ok hostnames =>
    cases hostnames with
    | nil => exact .error _ _
    | cons name names => exact .ok rfl

namespace NetworkRule

@[simp] theorem cutAllow_asciiLower (text : List Char) :
    cutAllow (asciiLower text) = ((cutAllow text).1,asciiLower (cutAllow text).2) := by
  have unmarked : ∀ text : List Char, ¬ (∃ rest, text = '@' :: '@' :: rest) →
      cutAllow text = (false,text) := by
    intro text unmarked
    rw [cutAllow]
    exact fun rest same => unmarked ⟨rest,same⟩
  by_cases marked : ∃ rest, text = '@' :: '@' :: rest
  · obtain ⟨rest,rfl⟩ := marked
    rfl
  · have still := mt (starts_two_asciiLower_iff (by decide) (by decide)).mp marked
    rw [unmarked text marked,unmarked _ still]

private theorem cutClosing?_asciiLower (text : List Char) :
    cutClosing? (asciiLower text) =
      (cutClosing? text).map fun (front,back) => (asciiLower front,asciiLower back) := by
  have further : ∀ (c : Char) (rest : List Char), ¬ (∃ back, c :: rest = '/' :: '$' :: back) →
      cutClosing? (c :: rest) = (cutClosing? rest).map fun (front,back) => (c :: front,back) := by
    intro c rest further
    rw [cutClosing?]
    · cases cutClosing? rest <;> rfl
    · exact fun back slash dollar => further ⟨back,by rw [slash,dollar]⟩
  induction text with
  | nil => rfl
  | cons c rest ih =>
    by_cases closing : ∃ back, c :: rest = '/' :: '$' :: back
    · obtain ⟨back,same⟩ := closing
      obtain ⟨rfl,rfl⟩ := List.cons.inj same
      have closed : asciiLower ('$' :: back) = '$' :: asciiLower back := rfl
      rw [closed] at ih
      change cutClosing? ('/' :: '$' :: asciiLower back) = _
      rw [cutClosing?,cutClosing?,ih]
      cases cutClosing? ('$' :: back) <;> rfl
    · have still := mt (starts_two_asciiLower_iff (by decide) (by decide)).mp closing
      rw [further c rest closing,asciiLower_cons,further c.toLower (asciiLower rest) still,ih]
      cases cutClosing? rest <;> rfl

private theorem cutModifiers_asciiLower (text : List Char) :
    cutModifiers (asciiLower text) =
      (asciiLower (cutModifiers text).1,(cutModifiers text).2.map asciiLower) := by
  have unslashed : ∀ text : List Char, ¬ (∃ rest, text = '/' :: rest) →
      cutModifiers text = (cut? '$' text).elim (text,none) fun cut => (cut.1,some cut.2) := by
    intro text unslashed
    unfold cutModifiers
    split
    · exact absurd ⟨_,rfl⟩ unslashed
    · cases cut? '$' text <;> rfl
  by_cases slashed : ∃ rest, text = '/' :: rest
  · obtain ⟨rest,rfl⟩ := slashed
    have slash : asciiLower ('/' :: rest) = '/' :: asciiLower rest := rfl
    rw [slash,cutModifiers,cutModifiers,cutClosing?_asciiLower]
    cases cutClosing? rest <;> rfl
  · have still := mt (starts_asciiLower_iff (by decide)).mp slashed
    rw [unslashed text slashed,unslashed _ still,cut?_asciiLower (by decide)]
    cases cut? '$' text <;> rfl

end NetworkRule

namespace Pattern

private theorem source?_asciiLower (text : List Char) :
    source? (asciiLower text) = (source? text).map asciiLower := by
  by_cases slashed : ∃ rest, text = '/' :: rest
  · obtain ⟨rest,rfl⟩ := slashed
    have slash : asciiLower ('/' :: rest) = '/' :: asciiLower rest := rfl
    have last : (asciiLower rest).getLast? = some '/' ↔ rest.getLast? = some '/' := by
      have slash : ∀ c : Char, c.toLower = '/' ↔ c = '/' := toLower_eq_iff (by decide)
      simp only [asciiLower,List.getLast?_map,Option.map_eq_some_iff,slash,exists_eq_right]
    rw [slash,source?,source?,length_asciiLower]
    simp only [last]
    split
    · exact congrArg some List.map_dropLast.symm
    · rfl
  · have still := mt (starts_asciiLower_iff (by decide)).mp slashed
    rw [source?,source?]
    · rfl
    · exact fun rest same => slashed ⟨rest,same⟩
    · exact fun rest same => still ⟨rest,same⟩

private theorem cutBars_asciiLower (text : List Char) :
    cutBars (asciiLower text) = ((cutBars text).1,asciiLower (cutBars text).2) := by
  have barless : ∀ text : List Char, ¬ (∃ rest, text = '|' :: rest) → cutBars text = (false,text) := by
    intro text barless
    rw [cutBars]
    · exact fun rest same => barless ⟨_,same⟩
    · exact fun rest same => barless ⟨rest,same⟩
  have single : ∀ rest : List Char, ¬ (∃ more, rest = '|' :: more) →
      cutBars ('|' :: rest) = (true,rest) := by
    intro rest single
    rw [cutBars]
    exact fun more same => single ⟨more,same⟩
  by_cases barred : ∃ rest, text = '|' :: rest
  · obtain ⟨rest,rfl⟩ := barred
    have bar : asciiLower ('|' :: rest) = '|' :: asciiLower rest := rfl
    by_cases double : ∃ more, rest = '|' :: more
    · obtain ⟨more,rfl⟩ := double
      rfl
    · have still := mt (starts_asciiLower_iff (by decide)).mp double
      rw [bar,single rest double,single _ still]
  · have still := mt (starts_asciiLower_iff (by decide)).mp barred
    rw [barless text barred,barless _ still]

private theorem parse_sameLetters {text other : List Char} (same : SameLetters text other)
    (plain : source? text = none) : Agree (· = ·) (parse text) (parse other) := by
  have otherPlain : source? other = none := by
    have both : (source? text).map asciiLower = (source? other).map asciiLower := by
      rw [← source?_asciiLower,same,source?_asciiLower]
    rw [plain] at both
    exact Option.map_eq_none_iff.mp both.symm
  have bars : (cutBars text).1 = (cutBars other).1 ∧
      SameLetters (cutBars text).2 (cutBars other).2 := by
    have both := cutBars_asciiLower text
    rw [same,cutBars_asciiLower other] at both
    exact ⟨(congrArg Prod.fst both).symm,(congrArg Prod.snd both).symm⟩
  have ending : ∀ c : Char, (c.toLower == '^' || c.toLower == '|') = (c == '^' || c == '|') :=
    fun c => by rw [beq_toLower (by decide),beq_toLower (by decide)]
  have name : Unicode.lower (trimEndWhile (fun c => c == '^' || c == '|') (cutBars text).2) =
      Unicode.lower (trimEndWhile (fun c => c == '^' || c == '|') (cutBars other).2) := by
    apply SameLetters.lower
    rw [SameLetters,← trimEndWhile_asciiLower ending,bars.2,trimEndWhile_asciiLower ending]
  simp only [parse,plain,otherPlain,bars.1,name]
  split
  · exact .error _ _
  · split
    · exact .error _ _
    · exact .refl (fun _ => rfl) _

end Pattern

/-! ### Rules spelt otherwise -/

namespace NetworkRule

/-- The pattern of a rule and its modifiers, as they stand in its text. -/
def parts (text : List Char) : List Char × Option (List Char) :=
  cutModifiers (cutAllow (trim text)).2

/-- The letters of the pattern are of other case, unless it is a regular expression. -/
structure Respelled (text other : List Char) : Prop where
  letters : SameLetters text other
  modifiers : (parts text).2 = (parts other).2
  pattern : Pattern.source? (parts text).1 = none ∨ (parts text).1 = (parts other).1

private theorem Respelled.refl (text : List Char) : Respelled text text :=
    ⟨.refl text,rfl,Or.inr rfl⟩

private theorem parts_asciiLower (text : List Char) :
    parts (asciiLower text) = (asciiLower (parts text).1,(parts text).2.map asciiLower) := by
  rw [parts,trim_asciiLower,cutAllow_asciiLower,cutModifiers_asciiLower]
  rfl

private theorem Respelled.parse {text other : List Char} (respelled : Respelled text other)
    (listId : Int) :
    Agree (fun rule otherRule => rule.untitled = otherRule.untitled) (NetworkRule.parse text listId)
      (NetworkRule.parse other listId) := by
  have allow : (cutAllow (trim text)).1 = (cutAllow (trim other)).1 := by
    have both := cutAllow_asciiLower (trim text)
    rw [respelled.letters.trim,cutAllow_asciiLower] at both
    exact (congrArg Prod.fst both).symm
  have letters : SameLetters (parts text).1 (parts other).1 := by
    have both := parts_asciiLower text
    rw [respelled.letters,parts_asciiLower] at both
    exact (congrArg Prod.fst both).symm
  have patterns : Agree (· = ·) (Pattern.parse (parts text).1) (Pattern.parse (parts other).1) := by
    rcases respelled.pattern with plain | same
    · exact Pattern.parse_sameLetters letters plain
    · rw [same]
      exact .refl (fun _ => rfl) _
  have modifiers := respelled.modifiers
  unfold parts at modifiers patterns
  have same : ∀ found : Except RuleFault Modifiers, Agree (· = ·) found found :=
    Agree.refl fun _ => rfl
  simp only [NetworkRule.parse,allow,modifiers]
  cases (cutModifiers (cutAllow (trim other)).2).2 with
  | none =>
    apply (same (pure {})).bind
    rintro found _ rfl
    apply patterns.bind
    rintro pattern _ rfl
    exact .ok rfl
  | some modifiers =>
    apply (same (Modifiers.parse modifiers)).bind
    rintro found _ rfl
    apply patterns.bind
    rintro pattern _ rfl
    exact .ok rfl

end NetworkRule

namespace Rule

@[simp] theorem isSilent_asciiLower (line : List Char) :
    isSilent (asciiLower line) = isSilent line := by
  have plain : cosmeticMarks.all (fun marks => marks.all fun mark => !mark.isAlpha) = true := by decide
  simp only [List.all_eq_true,Bool.not_eq_true'] at plain
  have marked : cosmeticMarks.any (mentions · (asciiLower line)) = cosmeticMarks.any (mentions · line) := by
    rw [Bool.eq_iff_iff,List.any_eq_true,List.any_eq_true]
    apply exists_congr
    intro marks
    apply and_congr_right
    intro member
    rw [mentions_asciiLower (plain marks member)]
  have starts : ∀ mark : Char, mark.isAlpha = false →
      ((asciiLower line).head? == some mark) = (line.head? == some mark) := by
    intro mark plain
    cases line with
    | nil => rfl
    | cons c rest => simp [beq_toLower plain]
  rw [isSilent,isSilent,isEmpty_asciiLower,marked,starts _ (by decide),starts _ (by decide)]

/-- Where the first word of a line is an address, the rest are names. Else the line is a network rule. -/
inductive Respelled (line other : List Char) : Prop
  | host (letters : SameLetters line other) (address : Address)
      (starts : (words (trim line)).head?.bind Address.read? = some address)
  | network (respelled : NetworkRule.Respelled (trim line) (trim other))

private theorem Respelled.refl (line : List Char) : Respelled line line := .network (.refl _)

private theorem Respelled.letters {line other : List Char} (respelled : Respelled line other) :
    SameLetters (trim line) (trim other) := by
  cases respelled with
  | host letters => exact letters.trim
  | network respelled => exact respelled.letters

private theorem address_sameLetters {line other : List Char} (same : SameLetters line other) :
    (words line).head?.bind Address.read? = (words other).head?.bind Address.read? := by
  have lowered : ∀ line : List Char, (words (asciiLower line)).head?.bind Address.read? =
      (words line).head?.bind Address.read? := by
    intro line
    rw [words_asciiLower]
    cases words line with
    | nil => rfl
    | cons word more => exact Address.read?_asciiLower word
  rw [← lowered line,same,lowered]

/-- Both lines are faulty, or the same is read from them but for the texts of rules. -/
def ReadsAs (listId : Int) (line other : List Char) : Prop :=
  Agree (fun found otherFound => found.map untitled = otherFound.map untitled)
    (Rule.parseLine line listId) (Rule.parseLine other listId)

theorem ReadsAs.refl (listId : Int) (line : List Char) : ReadsAs listId line line := by
  apply Agree.refl
  exact fun _ => rfl

private theorem Respelled.parseLine {line other : List Char} (respelled : Respelled line other)
    (listId : Int) : ReadsAs listId line other := by
  have letters := respelled.letters
  have silent : isSilent (trim line) = isSilent (trim other) := by
    rw [← isSilent_asciiLower,letters,isSilent_asciiLower]
  have address := address_sameLetters letters
  simp only [ReadsAs,Rule.parseLine,silent,address]
  split
  · exact .ok rfl
  · split
    next found starts =>
      apply (HostRule.parse_sameLetters letters found listId).map
      intro rule otherRule same
      exact congrArg (fun rule => some (Rule.host rule)) same
    next unbound =>
      cases respelled with
      | host _ found starts =>
        rw [address,unbound] at starts
        contradiction
      | network respelled =>
        apply (respelled.parse listId).map
        intro rule otherRule same
        exact congrArg (fun rule => some (Rule.network rule)) same

end Rule

/-! ### Lists and rule sets -/

structure RuleList.Respelled (list other : RuleList) : Prop where
  numbered : list.id = other.id
  lines : List.Forall₂ Rule.Respelled (lines list.contents.toList) (Text.lines other.contents.toList)

/-- The lists are the same, or both can be read and their lines are spelt otherwise. -/
inductive ListSource.Respelled (source other : ListSource) : Prop
  | same (equal : source = other)
  | loaded (list otherList : RuleList) (first : RuleList.load source = .ok list)
      (second : RuleList.load other = .ok otherList) (respelled : list.Respelled otherList)

namespace RuleList

/-- The rules of both lists are the same but for their texts. -/
def SameRules (rules others : List Rule) : Prop := rules.map Rule.untitled = others.map Rule.untitled

structure ReadsAs (list other : RuleList) : Prop where
  numbered : list.id = other.id
  lines : List.Forall₂ (Rule.ReadsAs list.id) (lines list.contents.toList) (Text.lines other.contents.toList)

private theorem Respelled.readsAs {list other : RuleList} (respelled : list.Respelled other) :
    list.ReadsAs other :=
  ⟨respelled.numbered,respelled.lines.imp fun _ _ line => line.parseLine list.id⟩

private theorem rulesFrom_readsAs {lines others : List (List Char)} {listId : Int}
    (alike : List.Forall₂ (Rule.ReadsAs listId) lines others) (number : Nat) :
    Agree SameRules (rulesFrom listId number lines) (rulesFrom listId number others) := by
  induction alike generalizing number with
  | nil => exact .ok rfl
  | @cons text other _ _ parsed _ ih =>
    unfold Rule.ReadsAs at parsed
    rw [rulesFrom,rulesFrom]
    generalize Rule.parseLine text listId = one at parsed
    generalize Rule.parseLine other listId = another at parsed
    cases parsed with
    | error fault otherFault => exact .error _ _
    | @ok found otherFound same =>
      apply (ih (number + 1)).map
      intro rules others rest
      have heads : found.toList.map Rule.untitled = otherFound.toList.map Rule.untitled := by
        rw [← Option.toList_map,same,Option.toList_map]
      rw [SameRules,List.map_append,List.map_append,heads,rest]

end RuleList

private theorem ListSource.Respelled.load {source other : ListSource}
    (respelled : source.Respelled other) :
    Agree RuleList.Respelled (RuleList.load source) (RuleList.load other) := by
  cases respelled with
  | same equal =>
    rw [equal]
    exact .refl (fun _ => ⟨rfl,List.forall₂_same.mpr fun line _ => .refl line⟩) _
  | loaded list otherList first second respelled =>
    rw [first,second]
    exact .ok respelled

namespace Scan

private theorem networkRules_untitled (rules : List Rule) :
    networkRules (rules.map Rule.untitled) = (networkRules rules).map NetworkRule.untitled := by
  induction rules with
  | nil => rfl
  | cons rule rest ih =>
    cases rule with
    | network rule => exact congrArg (rule.untitled :: ·) ih
    | host rule => exact ih

private theorem hostRules_untitled (rules : List Rule) :
    hostRules (rules.map Rule.untitled) = (hostRules rules).map HostRule.untitled := by
  induction rules with
  | nil => rfl
  | cons rule rest ih =>
    cases rule with
    | network rule => exact ih
    | host rule => exact congrArg (rule.untitled :: ·) ih

private theorem highest?_untitled (rules : List NetworkRule) :
    highest? (rules.map NetworkRule.untitled) = (highest? rules).map NetworkRule.untitled := by
  induction rules with
  | nil => rfl
  | cons rule rest ih =>
    rw [List.map_cons,highest?,highest?,ih]
    cases highest? rest with
    | none => rfl
    | some best =>
      have priority : ∀ rule : NetworkRule, rule.untitled.priority = rule.priority := fun _ => rfl
      simp only [Option.map_some,priority]
      split <;> rfl

private theorem ofHostRules_untitled (rules : List HostRule) :
    Hit.ofHostRules (rules.map HostRule.untitled) = (Hit.ofHostRules rules).untitled := by
  simp only [Hit.ofHostRules,List.filter_map]
  rfl

/-- No text has a part in what is found. -/
theorem lookup_untitled (rules : List Rule) (host : String) (client : List String) :
    lookup (rules.map Rule.untitled) host client = (lookup rules host client).map Hit.untitled := by
  have covers : (fun rule : NetworkRule => rule.covers host client) ∘ NetworkRule.untitled =
      fun rule => rule.covers host client := rfl
  have binds : (fun rule : HostRule => rule.covers host) ∘ HostRule.untitled =
      fun rule => rule.covers host := rfl
  rw [lookup,lookup,networkRules_untitled,hostRules_untitled,List.filter_map,List.filter_map,covers,
    binds,highest?_untitled]
  split
  · rfl
  · cases highest? ((networkRules rules).filter fun rule => rule.covers host client) with
    | some best => rfl
    | none =>
      cases (hostRules rules).filter fun rule => rule.covers host with
      | nil => rfl
      | cons rule more => exact congrArg some (ofHostRules_untitled (rule :: more))

end Scan

private theorem Hit.decision_untitled (hit : Hit) (qtype : RecordType) :
    hit.untitled.decision qtype = (hit.decision qtype).untitled := by
  cases hit with
  | network rule => rfl
  | hosts v4 v6 => cases qtype <;> rcases v4 with _ | ⟨a,v4⟩ <;> rcases v6 with _ | ⟨b,v6⟩ <;> rfl

namespace Ruleset

/-- The answers are the same but for the texts of the rules. -/
def SameAnswers (ruleset other : Ruleset) : Prop :=
  ∀ host client, (ruleset.index.lookup host client).map Hit.untitled =
    (other.index.lookup host client).map Hit.untitled

private theorem rulesOf_readsAs {lists others : List RuleList}
    (alike : List.Forall₂ RuleList.ReadsAs lists others) :
    Agree RuleList.SameRules (rulesOf lists) (rulesOf others) := by
  have each : List.Forall₂ (fun list other : RuleList =>
      Agree RuleList.SameRules list.rules other.rules) lists others := by
    apply alike.imp
    intro list other same
    have read := RuleList.rulesFrom_readsAs same.lines 1
    rw [RuleList.rules,RuleList.rules,← same.numbered]
    exact read
  apply (Agree.mapM each).map
  intro rules others same
  induction same with
  | nil => rfl
  | cons head _ ih =>
    rw [RuleList.SameRules,List.flatten_cons,List.flatten_cons,List.map_append,List.map_append,head,ih]

theorem build_readsAs {sources others : List ListSource}
    (loaded : Agree (List.Forall₂ RuleList.ReadsAs) (sources.mapM RuleList.load) (others.mapM RuleList.load)) :
    Agree SameAnswers (build sources) (build others) := by
  rw [build,build]
  apply loaded.bind
  intro lists otherLists same
  apply (rulesOf_readsAs same).bind
  intro rules otherRules same
  refine .ok fun host client => ?_
  rw [Index.lookup_ofRules,Index.lookup_ofRules,← Scan.lookup_untitled,same,Scan.lookup_untitled]

theorem build_respelled {sources others : List ListSource}
    (respelled : List.Forall₂ ListSource.Respelled sources others) :
    Agree SameAnswers (build sources) (build others) := by
  apply build_readsAs
  apply Agree.mapM
  apply respelled.imp
  intro source other respelled
  exact respelled.load.imp fun _ _ respelled => respelled.readsAs

theorem decide_sameAnswers {ruleset other : Ruleset} (same : ruleset.SameAnswers other)
    (host : String) (qtype : RecordType) (client : List String) :
    (ruleset.decide host qtype client).untitled = (other.decide host qtype client).untitled := by
  have answers : ∀ ruleset : Ruleset, (ruleset.decide host qtype client).untitled =
      (((ruleset.index.lookup host client).map Hit.untitled).map fun hit => hit.decision qtype).getD
        Decision.none := by
    intro ruleset
    rw [decide]
    cases ruleset.index.lookup host client with
    | none => rfl
    | some hit => exact (hit.decision_untitled qtype).symm
  rw [answers,answers,same]

end Ruleset

/-! ### Services -/

namespace Service

theorem ofTexts_respelled (name : String) {texts others : List String}
    (respelled : List.Forall₂ (fun text other : String =>
      NetworkRule.Respelled text.toList other.toList) texts others) :
    Agree (fun service other => service.untitled = other.untitled) (ofTexts name texts)
      (ofTexts name others) := by
  have parsed := Agree.mapM (respelled.imp fun _ _ respelled => respelled.parse 0)
  rw [ofTexts,ofTexts]
  generalize texts.mapM (fun text => NetworkRule.parse text.toList 0) = one at parsed
  generalize others.mapM (fun text => NetworkRule.parse text.toList 0) = another at parsed
  cases parsed with
  | error fault otherFault => exact .error _ _
  | @ok rules otherRules same =>
    have rules : rules.map NetworkRule.untitled = otherRules.map NetworkRule.untitled := by
      rw [← List.forall₂_eq_eq_eq,List.forall₂_map_left_iff,List.forall₂_map_right_iff]
      exact same
    exact .ok (congrArg (Service.mk name) rules)

theorem decide_untitled (host : String) (services : List Service) :
    decide host (services.map untitled) = (decide host services).untitled := by
  induction services with
  | nil => rfl
  | cons service more ih =>
    have rule : service.untitled.rule? host = (service.rule? host).map NetworkRule.untitled := by
      rw [rule?,rule?,untitled,List.find?_map]
      rfl
    rw [List.map_cons,decide,decide,rule,ih]
    cases service.rule? host <;> rfl

end Service

end DnsPolicy
