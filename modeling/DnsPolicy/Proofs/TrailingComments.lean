import DnsPolicy.Proofs.Provenance
import DnsPolicy.Proofs.Respelling
import DnsPolicy.Proofs.Trimming

/-! Comments behind host rules. The names on such a line stay what they are, and so does what a rule set
decides, unless the mark of a rule about a page comes up in the comment: then nothing is read from the line. -/
namespace DnsPolicy

namespace Text
open Unicode

variable {c mark : Char} {text front back part : List Char}

private theorem words_append (blank : isBlank c = true) (front back : List Char) :
    words (front ++ c :: back) = words front ++ words back := by
  rw [words,List.splitOnP_append_cons front back blank,List.filter_append]
  rfl

private theorem words_of_blanks (blank : ∀ c ∈ text, isBlank c = true) : words text = [] := by
  induction text with
  | nil => rfl
  | cons c rest ih =>
    obtain ⟨here,later⟩ := List.forall_mem_cons.mp blank
    exact (words_append here [] rest).trans (ih later)

private theorem words_append_blanks (blank : ∀ c ∈ back, isBlank c = true) (front : List Char) :
    words (front ++ back) = words front := by
  cases back with
  | nil => rw [List.append_nil]
  | cons c rest =>
    obtain ⟨here,later⟩ := List.forall_mem_cons.mp blank
    rw [words_append here,words_of_blanks later,List.append_nil]

private theorem mentions_iff : mentions part text = true ↔ part <:+: text := by
  induction text with
  | nil => cases part <;> simp [mentions]
  | cons c rest ih => rw [mentions,Bool.or_eq_true,List.isPrefixOf_iff_prefix,ih,List.infix_cons_iff]

/-- What starts with a character that is nowhere in `front` does not reach into it. -/
theorem infix_append_iff (starts : part.head? = some mark) (absent : mark ∉ front) :
    part <:+: front ++ back ↔ part <:+: back := by
  induction front with
  | nil => rfl
  | cons c front ih =>
    rw [List.mem_cons,not_or] at absent
    rw [List.cons_append,List.infix_cons_iff,ih absent.2]
    refine or_iff_right fun here => ?_
    obtain ⟨rest,rfl⟩ := List.head?_eq_some_iff.mp starts
    exact absent.1 (List.cons_prefix_cons.mp here).1

private theorem append_infix_iff (ends : part.getLast? = some mark) (absent : mark ∉ back) :
    part <:+: front ++ back ↔ part <:+: front := by
  have starts : part.reverse.head? = some mark := by rwa [List.head?_reverse]
  have turned : mark ∉ back.reverse := by rwa [List.mem_reverse]
  rw [← List.reverse_infix,List.reverse_append]
  exact (infix_append_iff starts turned).trans List.reverse_infix

private theorem upTo_append (absent : mark ∉ front) (back : List Char) :
    upTo mark (front ++ mark :: back) = front := by
  have onward : ∀ c ∈ front, (c != mark) = true := by
    intro c member
    exact bne_iff_ne.mpr fun same => absent (same ▸ member)
  rw [upTo,List.takeWhile_append_of_pos onward,List.takeWhile_cons_of_neg (by simp),List.append_nil]

private theorem upTo_eq_self (absent : mark ∉ text) : upTo mark text = text := by
  rw [upTo,List.takeWhile_eq_self_iff]
  intro c member
  exact bne_iff_ne.mpr fun same => absent (same ▸ member)

end Text

namespace Rule
open Text Unicode

def withComment (line comment : List Char) : List Char := line ++ ' ' :: '#' :: comment

/-- With its hash the comment has the mark of a rule about a page in it. -/
def isMarked (comment : List Char) : Bool := cosmeticMarks.any (mentions · ('#' :: comment))

variable {line comment : List Char} {listId : Int} {rule : HostRule}

private theorem exists_trim_withComment (filled : trim line ≠ []) (comment : List Char) :
    ∃ gap rest blanks, trim (withComment line comment) = trim line ++ gap ++ ' ' :: '#' :: rest ∧
      comment = rest ++ blanks ∧ (∀ c ∈ gap, isBlank c = true) ∧ ∀ c ∈ blanks, isBlank c = true := by
  obtain ⟨ahead,gap,around,blankAhead,blankGap⟩ := exists_trim_around line
  obtain ⟨rest,blanks,starts,rfl,blankBlanks⟩ := exists_trim_cons (by decide : isBlank '#' = false) comment
  refine ⟨gap,rest,blanks,?_,rfl,blankGap,blankBlanks⟩
  have joined : withComment line (rest ++ blanks) =
      ahead ++ (trim line ++ gap ++ ' ' :: '#' :: rest ++ blanks) := by
    conv_lhs => rw [withComment,around]
    simp only [List.append_assoc,List.cons_append]
  rw [joined]
  apply trim_around blankAhead blankBlanks
  · intro c first
    rw [List.append_assoc,List.head?_append_of_ne_nil _ filled] at first
    exact head?_trim first
  · intro c last
    rw [List.append_cons,List.getLast?_append_of_ne_nil _ (List.cons_ne_nil _ _),← starts] at last
    exact getLast?_trim last

private theorem hash_not_mem (bare : '#' ∉ line) {gap : List Char}
    (blank : ∀ c ∈ gap, isBlank c = true) : '#' ∉ trim line ++ gap ++ [' '] := by
  rw [List.mem_append,List.mem_append,List.mem_singleton]
  rintro ((inside | inside) | inside)
  · exact bare (mem_of_mem_trim inside)
  · exact absurd (blank '#' inside) (by decide)
  · contradiction

private theorem cosmeticMarks_hashed : ∀ part ∈ cosmeticMarks, part.head? = some '#' ∧
    part.getLast? = some '#' := by
  decide

private theorem isSilent_withComment (bare : '#' ∉ line) (loud : isSilent (trim line) = false)
    (comment : List Char) : isSilent (trim (withComment line comment)) = isMarked comment := by
  simp only [isSilent,Bool.or_eq_false_iff] at loud
  obtain ⟨⟨⟨filled,bang⟩,hash⟩,_⟩ := loud
  have filled : trim line ≠ [] := List.isEmpty_eq_false_iff.mp filled
  obtain ⟨gap,rest,blanks,trimmed,rfl,blankGap,blankBlanks⟩ := exists_trim_withComment filled comment
  have ahead := hash_not_mem bare blankGap
  have behind : '#' ∉ blanks := fun inside => absurd (blankBlanks '#' inside) (by decide)
  have marks : cosmeticMarks.any (mentions · (trim (withComment line (rest ++ blanks)))) =
      isMarked (rest ++ blanks) := by
    rw [trimmed,isMarked,Bool.eq_iff_iff,List.any_eq_true,List.any_eq_true]
    apply exists_congr
    intro part
    apply and_congr_right
    intro member
    obtain ⟨starts,ends⟩ := cosmeticMarks_hashed part member
    rw [mentions_iff,mentions_iff,List.append_cons,infix_append_iff starts ahead,← List.cons_append,
      append_infix_iff ends behind]
  have head : (trim (withComment line (rest ++ blanks))).head? = (trim line).head? := by
    rw [trimmed,List.append_assoc,List.head?_append_of_ne_nil _ filled]
  have some : (trim (withComment line (rest ++ blanks))).isEmpty = false := by
    rw [trimmed]
    simp
  rw [isSilent,head,bang,hash,marks,some]
  rfl

/-- The first word and the names on a line are those of the line without its comment. -/
theorem words_withComment (bare : '#' ∉ line) (filled : trim line ≠ []) (comment : List Char) :
    words (upTo '#' (trim (withComment line comment))) = words (trim line) ∧
      ∃ more, words (trim (withComment line comment)) = words (trim line) ++ more := by
  obtain ⟨gap,rest,blanks,trimmed,_,blankGap,_⟩ := exists_trim_withComment filled comment
  have space : isBlank ' ' = true := by decide
  constructor
  · rw [trimmed,List.append_cons,upTo_append (hash_not_mem bare blankGap),words_append space,
      words_append_blanks blankGap]
    exact List.append_nil _
  · rw [trimmed,words_append space,words_append_blanks blankGap]
    exact ⟨_,rfl⟩

private theorem parseLine_withComment (bare : '#' ∉ line)
    (parsed : parseLine line listId = .ok (some (.host rule))) (comment : List Char) :
    parseLine (withComment line comment) listId = .ok (if isMarked comment then none
      else some (.host { rule with text := String.ofList (trim (withComment line comment)) })) := by
  obtain ⟨loud,⟨address,host,starts,read,same⟩ | ⟨_,_,_,same⟩⟩ := parseLine_eq_some_iff.mp parsed
  · obtain rfl := Rule.host.inj same
    obtain ⟨names,given,named,rfl⟩ := HostRule.parse_eq_ok_iff.mp read
    have filled : trim line ≠ [] := by
      intro nothing
      rw [nothing] at starts
      contradiction
    have silent := isSilent_withComment bare loud comment
    obtain ⟨kept,more,further⟩ := words_withComment bare filled comment
    split
    next marked => exact parseLine_eq_none_iff.mpr (silent.trans marked)
    next unmarked =>
      rw [Bool.not_eq_true] at unmarked
      refine parseLine_eq_some_iff.mpr ⟨silent.trans unmarked,Or.inl ⟨address,_,?_,?_,rfl⟩⟩
      · obtain ⟨word,first,address⟩ := Option.bind_eq_some_iff.mp starts
        rw [further,List.head?_append,first]
        exact address
      · refine HostRule.parse_eq_ok_iff.mpr ⟨names,?_,named,by simp only [trim_trim]⟩
        have hashless : '#' ∉ trim line := fun inside => bare (mem_of_mem_trim inside)
        rw [trim_trim,upTo_eq_self hashless] at given
        rw [trim_trim,kept,given]
  · contradiction

end Rule

/-! ### Rule sets -/

/-- In a list with this number the one line may stand in the place of the other. -/
structure RuleList.Replaces (listId : Int) (line other : List Char) (list edited : RuleList) : Prop where
  numbered : list.id = edited.id
  lines : List.Forall₂ (fun text edit => text = edit ∨ list.id = listId ∧ text = line ∧ edit = other)
    (Text.lines list.contents.toList) (Text.lines edited.contents.toList)

private theorem RuleList.Replaces.readsAs {listId : Int} {line other : List Char}
    {list edited : RuleList}
    (replaces : list.Replaces listId line other edited) (alike : Rule.ReadsAs listId line other) :
    list.ReadsAs edited := by
  refine ⟨replaces.numbered,replaces.lines.imp ?_⟩
  rintro text _ (rfl | ⟨rfl,rfl,rfl⟩)
  · exact Rule.ReadsAs.refl list.id text
  · exact alike

namespace Ruleset
open Text Rule

/-- The decisions are the same but for the texts of the rules. -/
def SameDecisions (ruleset other : Ruleset) : Prop := ∀ host qtype client,
  (ruleset.decide host qtype client).untitled = (other.decide host qtype client).untitled

private theorem build_replaced {listId : Int} {line other : List Char}
    (alike : Rule.ReadsAs listId line other)
    {sources edited : List ListSource} {lists editedLists : List RuleList}
    (loaded : sources.mapM RuleList.load = .ok lists) (also : edited.mapM RuleList.load = .ok editedLists)
    (replaced : List.Forall₂ (RuleList.Replaces listId line other) lists editedLists) :
    Agree SameDecisions (build sources) (build edited) := by
  have loads : Agree (List.Forall₂ RuleList.ReadsAs) (sources.mapM RuleList.load) (edited.mapM RuleList.load) := by
    rw [loaded,also]
    exact .ok (replaced.imp fun _ _ replaces => replaces.readsAs alike)
  exact (build_readsAs loads).imp fun _ _ same => decide_sameAnswers same

/-- A comment behind a host rule changes neither address nor names, and no decision of a rule set, except
where it has the mark of a rule about a page: such a line is as good as an empty one. -/
theorem trailing_comment {line : List Char} {listId : Int} {rule : HostRule} (bare : '#' ∉ line)
    (parsed : parseLine line listId = .ok (some (.host rule))) (comment : List Char) :
    parseLine (withComment line comment) listId = .ok (if isMarked comment then none
      else some (.host { rule with text := String.ofList (trim (withComment line comment)) })) ∧
    ∀ sources commented lists commentedLists,
      sources.mapM RuleList.load = .ok lists → commented.mapM RuleList.load = .ok commentedLists →
      List.Forall₂ (RuleList.Replaces listId (if isMarked comment then [] else line)
        (withComment line comment)) lists commentedLists →
      Agree SameDecisions (build sources) (build commented) := by
  have read := parseLine_withComment bare parsed comment
  refine ⟨read,fun sources commented lists commentedLists loaded also replaced => ?_⟩
  apply build_replaced _ loaded also replaced
  rw [ReadsAs,read]
  split
  · exact .ok rfl
  · rw [parsed]
    exact .ok rfl

/-- Later hashes are part of the comment. -/
theorem trailing_comment_hashed :
    let line := "0.0.0.0 Ads.example tracker.example.".toList
    let comment := " ad server # see #4 ".toList
    let rule : HostRule := ⟨String.ofList line,0,.v4 0 0 0 0,["ads.example","tracker.example"]⟩
    let source text : ListSource := { id := 0, text := "||x.y^\n" ++ String.ofList text }
    '#' ∉ line ∧ parseLine line 0 = .ok (some (.host rule)) ∧ isMarked comment = false ∧
      parseLine (withComment line comment) 0 = .ok (some (.host { rule with
        text := "0.0.0.0 Ads.example tracker.example. # ad server # see #4" })) ∧
      Agree SameDecisions (build [source line]) (build [source (withComment line comment)]) := by
  intro line comment rule source
  have bare : '#' ∉ line := by decide
  have parsed : parseLine line 0 = .ok (some (.host rule)) := rfl
  obtain ⟨read,decides⟩ := trailing_comment bare parsed comment
  have before : lines (source line).text.toList = ["||x.y^".toList,line] := by decide +kernel
  have after : lines (source (withComment line comment)).text.toList =
      ["||x.y^".toList,withComment line comment] := by decide +kernel
  have replaced : RuleList.Replaces 0 line (withComment line comment) ⟨0,(source line).text,false⟩
      ⟨0,(source (withComment line comment)).text,false⟩ := by
    refine ⟨rfl,?_⟩
    rw [before,after]
    exact .cons (Or.inl rfl) (.cons (Or.inr ⟨rfl,rfl,rfl⟩) .nil)
  exact ⟨bare,parsed,by decide,read,decides _ _ _ _ rfl rfl (.cons replaced .nil)⟩

/-- Where a comment starts with a second hash nothing is read from the line, so the host is blocked no longer. -/
theorem trailing_comment_marked :
    let line := "0.0.0.0 ads.example".toList
    let commented := line ++ " #".toList ++ "# ad server".toList
    let reason text := (build [{ id := 0, text := String.ofList text }]).toOption.map fun ruleset =>
      (ruleset.decide "ads.example" .a []).reason
    '#' ∉ line ∧ parseLine line 1 = .ok (some (.host ⟨String.ofList line,1,.v4 0 0 0 0,["ads.example"]⟩)) ∧
      parseLine commented 1 = .ok none ∧ reason line = some .blocked ∧ reason commented = some .notFound := by
  refine ⟨by decide,rfl,rfl,by decide +kernel,by decide +kernel⟩

end Ruleset

end DnsPolicy
