import DnsPolicy.Proofs.Ancestry
import DnsPolicy.Proofs.PlainChars
import DnsPolicy.Proofs.RegexSearch
import DnsPolicy.Proofs.Success
import DnsPolicy.Proofs.WildcardSource
import DnsPolicy.Rule.NetworkRule

/-! Names with asterisks and names without them follow one law: a rule covers the hosts that its name
matches as a glob, and unless it is for the whole host also those that end in such a name behind a dot. -/
namespace DnsPolicy
open Text

/-- The text matches the name, where an asterisk stands for any run of characters. -/
inductive Glob : List Char → List Char → Prop
  | nil : Glob [] []
  | run {name text : List Char} (run : List Char) (rest : Glob name text) : Glob ('*' :: name) (run ++ text)
  | char {c : Char} {name text : List Char} (plain : c ≠ '*') (rest : Glob name text) :
    Glob (c :: name) (c :: text)

namespace Glob

variable {c : Char} {name text : List Char}

@[simp] theorem nil_iff : Glob [] text ↔ text = [] := by
  constructor
  · intro glob
    cases glob
    rfl
  · rintro rfl
    exact .nil

private theorem run_iff : Glob ('*' :: name) text ↔
    ∃ run rest, text = run ++ rest ∧ Glob name rest := by
  constructor
  · intro glob
    cases glob with
    | run run rest => exact ⟨run,_,rfl,rest⟩
    | char plain => exact absurd rfl plain
  · rintro ⟨run,rest,rfl,glob⟩
    exact .run run glob

private theorem char_iff (plain : c ≠ '*') : Glob (c :: name) text ↔
    ∃ rest, text = c :: rest ∧ Glob name rest := by
  constructor
  · intro glob
    cases glob with
    | run => exact absurd rfl plain
    | char _ rest => exact ⟨_,rfl,rest⟩
  · rintro ⟨rest,rfl,glob⟩
    exact .char plain glob

/-- Without asterisks only the name itself matches. -/
theorem iff_eq (plain : '*' ∉ name) : Glob name text ↔ text = name := by
  induction name generalizing text with
  | nil => exact nil_iff
  | cons c name ih =>
    rw [List.mem_cons,not_or] at plain
    rw [char_iff (Ne.symm plain.1)]
    simp only [ih plain.2,exists_eq_right]

end Glob

/-! ### The expression of a name with asterisks -/

namespace Regex

variable {name front middle back : List Char}

private theorem spans_run : Spans (.repeated (.char .notLineFeed) 0 none) front middle back ↔
    '\n' ∉ middle := by
  have dot (c : Char) : CharSet.notLineFeed.contains c = true ↔ c ≠ '\n' := by
    simp [CharSet.notLineFeed,CharSet.contains]
  constructor
  · rintro ⟨count,_,runs⟩
    rw [Nat.zero_add] at runs
    induction runs with
    | none => simp
    | more first _ ih =>
      obtain ⟨c,rfl,inside⟩ := first
      simpa [Ne.symm ((dot c).mp inside)] using ih
  · intro line
    refine ⟨middle.length,by simp,?_⟩
    rw [Nat.zero_add]
    induction middle generalizing front with
    | nil => exact .none
    | cons c middle ih =>
      rw [List.mem_cons,not_or] at line
      have first : Spans (.char .notLineFeed) front [c] (middle ++ back) :=
        ⟨c,rfl,(dot c).mpr (Ne.symm line.1)⟩
      exact .more first (ih line.2)

private theorem spans_char {c : Char} : Spans (.char (.oneOf [c])) front middle back ↔
    middle = [c] := by
  constructor
  · rintro ⟨d,rfl,same⟩
    obtain rfl : d = c := by simpa [CharSet.contains] using same
    rfl
  · rintro rfl
    exact ⟨c,rfl,by simp [CharSet.contains]⟩

/-- Behind its start the expression spans the glob, up to the end of the host. -/
theorem spans_name (line : '\n' ∉ middle) :
    Spans ((name.map wildcardPart ++ [wildcardEnd]).foldr (fun part rest => .seq part.regex rest) .empty)
      front middle back ↔ Glob name middle ∧ back = [] := by
  induction name generalizing front middle with
  | nil =>
    have atEnd : back.head?.isNone = true ↔ back = [] := by cases back <;> simp
    simp [wildcardEnd,Spans,Anchor.holds,atEnd]
  | cons c name ih =>
    rw [List.map_cons,List.cons_append,List.foldr_cons,wildcardPart]
    split
    next star =>
      rw [star,Glob.run_iff]
      constructor
      · rintro ⟨run,rest,rfl,_,spans⟩
        rw [List.mem_append,not_or] at line
        obtain ⟨glob,rfl⟩ := (ih line.2).mp spans
        exact ⟨⟨run,rest,rfl,glob⟩,rfl⟩
      · rintro ⟨⟨run,rest,rfl,glob⟩,ended⟩
        rw [List.mem_append,not_or] at line
        exact ⟨run,rest,rfl,spans_run.mpr line.1,(ih line.2).mpr ⟨glob,ended⟩⟩
    next plain =>
      rw [Glob.char_iff plain]
      constructor
      · rintro ⟨one,rest,rfl,first,spans⟩
        obtain rfl := spans_char.mp first
        rw [List.mem_append,not_or] at line
        obtain ⟨glob,rfl⟩ := (ih line.2).mp spans
        exact ⟨⟨rest,rfl,glob⟩,rfl⟩
      · rintro ⟨⟨rest,rfl,glob⟩,ended⟩
        rw [List.mem_cons,not_or] at line
        exact ⟨[c],rest,rfl,spans_char.mpr rfl,(ih line.2).mpr ⟨glob,ended⟩⟩

private theorem spans_start {whole : Bool} : Spans (wildcardStart whole).regex front middle back ↔
    middle = [] ∧ front = [] ∨ whole = false ∧ middle = ['.'] := by
  have begun : (Spans (.anchor .textStart) front middle back) ↔ middle = [] ∧ front = [] := by
    simp [Spans,Anchor.holds]
  cases whole with
  | true => simp [wildcardStart,begun]
  | false =>
    rw [wildcardStart]
    exact or_congr begun (by simpa using spans_char)

private theorem finds_wildcardRegex (whole : Bool) {host : List Char} (line : '\n' ∉ host) :
    (wildcardRegex whole name).finds host = true ↔
      Glob name host ∨ whole = false ∧ ∃ front rest, host = front ++ '.' :: rest ∧ Glob name rest := by
  rw [finds_iff]
  constructor
  · rintro ⟨front,_,back,rfl,start,middle,rfl,begun,spans⟩
    simp only [List.mem_append,not_or] at line
    obtain ⟨glob,rfl⟩ := (spans_name line.1.2.2).mp spans
    rcases spans_start.mp begun with ⟨rfl,rfl⟩ | ⟨rfl,rfl⟩
    · exact .inl (by simpa using glob)
    · exact .inr ⟨rfl,front,middle,by simp,glob⟩
  · rintro (glob | ⟨rfl,front,rest,rfl,glob⟩)
    · exact ⟨[],host,[],by simp,[],host,rfl,spans_start.mpr (.inl ⟨rfl,rfl⟩),(spans_name line).mpr ⟨glob,rfl⟩⟩
    · simp only [List.mem_append,List.mem_cons,not_or] at line
      exact ⟨front,'.' :: rest,[],by simp,['.'],rest,rfl,spans_start.mpr (.inr ⟨rfl,rfl⟩),
        (spans_name line.2.2).mpr ⟨glob,rfl⟩⟩

end Regex

namespace Pattern

variable {name front source text : List Char} {whole : Bool} {pattern : Pattern}

theorem compile_eq_ok_iff : compile front source = .ok pattern ↔
    ∃ regex, Regex.parse? (front ++ source) = some regex ∧ pattern = .search regex := by
  rw [compile]
  cases Regex.parse? (front ++ source) <;> simp [eq_comm]

/-- One law for names with asterisks and for names without. -/
theorem covers_ofName (named : ∀ c ∈ name, Hostname.isPatternChar c = true)
    (made : ofName whole name = .ok pattern) {host : String} (line : '\n' ∉ host.toList) :
    pattern.covers host = true ↔ Glob name host.toList ∨
      whole = false ∧ ∃ front rest, host.toList = front ++ '.' :: rest ∧ Glob name rest := by
  rw [ofName] at made
  split at made
  next =>
    obtain ⟨regex,read,rfl⟩ := compile_eq_ok_iff.mp made
    rw [List.nil_append,Regex.parse?_wildcardSource whole named] at read
    obtain ⟨_,same⟩ := Option.ite_none_right_eq_some.mp read
    obtain rfl := Option.some.inj same
    exact Regex.finds_wildcardRegex whole line
  next plain =>
    have plain : '*' ∉ name := by simpa using plain
    simp only [Glob.iff_eq plain]
    split at made
    next exact =>
      obtain rfl := Except.ok.inj made
      simp [covers,exact,← String.toList_inj]
    next below =>
      obtain rfl := Except.ok.inj made
      simp only [covers,isBelow,String.toList_ofList,Bool.or_eq_true,beq_iff_eq,
        List.isSuffixOf_iff_suffix,below,true_and,exists_eq_right]
      exact or_congr Iff.rfl (exists_congr fun front => eq_comm)

/-- What stands behind a name and says nothing. -/
def isMark (c : Char) : Bool := c == '^' || c == '|'

@[simp] theorem isMark_iff {c : Char} : isMark c = true ↔ c = '^' ∨ c = '|' := by
  simp [isMark]

theorem source?_eq_none {text : List Char} (unslashed : '/' ∉ text) : source? text = none := by
  rw [source?]
  rintro rest rfl
  simp at unslashed

/-- A pattern is the expression between two slashes, or it is for a name of pattern characters that
does not begin with a dot. -/
theorem parse_eq_ok_iff :
    parse text = .ok pattern ↔
      (∃ source regex, source? text = some source ∧
        Regex.parse? ("(?i)".toList ++ source) = some regex ∧ pattern = .search regex) ∨
      source? text = none ∧ ∃ name, Unicode.lower (trimEndWhile isMark (cutBars text).2) = name ∧
        Hostname.isPattern name = true ∧ name.head? ≠ some '.' ∧
        ofName (cutBars text).1 name = .ok pattern := by
  constructor
  · intro parsed
    rw [parse] at parsed
    split at parsed
    next source slashed =>
      obtain ⟨regex,read,same⟩ := compile_eq_ok_iff.mp parsed
      exact .inl ⟨source,regex,slashed,read,same⟩
    next plain =>
      dsimp only at parsed
      split at parsed
      · contradiction
      · split at parsed
        · contradiction
        next fits =>
          rw [Bool.or_eq_true,not_or,Bool.not_eq_true',Bool.not_eq_false,beq_iff_eq] at fits
          exact .inr ⟨plain,_,rfl,fits.1,fits.2,parsed⟩
  · rintro (⟨source,regex,slashed,read,rfl⟩ | ⟨plain,name,cut,named,undotted,made⟩)
    · simp only [parse,slashed]
      exact compile_eq_ok_iff.mpr ⟨regex,read,rfl⟩
    · have lowered : Unicode.lower
          (trimEndWhile (fun c => c == '^' || c == '|') (cutBars text).2) = name := cut
      have filled := List.isEmpty_eq_false_iff.mpr (Hostname.isPattern_iff.mp named).1
      simp only [parse,plain,lowered,filled,named]
      simp [undotted,made]

private theorem parse_eq_ok (unslashed : '/' ∉ text) (parsed : parse text = .ok pattern) :
    Hostname.isPattern (Unicode.lower (trimEndWhile isMark (cutBars text).2)) = true ∧
      ofName (cutBars text).1 (Unicode.lower (trimEndWhile isMark (cutBars text).2)) = .ok pattern := by
  rcases parse_eq_ok_iff.mp parsed with ⟨_,_,slashed,_⟩ | ⟨_,_,rfl,named,_,made⟩
  · rw [source?_eq_none unslashed] at slashed
    contradiction
  · exact ⟨named,made⟩

theorem trimEndWhile_marks {name marks : List Char}
    (named : ∀ c ∈ name, Hostname.isPatternChar c = true)
    (marked : ∀ c ∈ marks, isMark c = true) : trimEndWhile isMark (name ++ marks) = name := by
  refine trimEndWhile_append ?_ marked
  intro c last
  have letter := named c (List.mem_of_getLast? last)
  by_contra mark
  rcases isMark_iff.mp (Bool.not_eq_false _ ▸ mark) with rfl | rfl <;> contradiction

/-- Marks alone are trimmed to nothing, which is no name. -/
private theorem not_isPattern_of_marks {marks : List Char} (marked : ∀ c ∈ marks, isMark c = true) :
    ¬ Hostname.isPattern (Unicode.lower (trimEndWhile isMark marks)) = true := by
  have nothing := trimEndWhile_marks (List.forall_mem_nil _) marked
  rw [List.nil_append] at nothing
  rw [nothing]
  decide

private theorem mem_of_mem_cutBars {text : List Char} {c : Char} (member : c ∈ (cutBars text).2) :
    c ∈ text := by
  rw [cutBars.eq_def] at member
  split at member
  · exact List.mem_cons_of_mem _ (List.mem_cons_of_mem _ member)
  · exact List.mem_cons_of_mem _ member
  · exact member

/-- Behind any bars in front of it a name is for the whole host just when there is one bar. -/
theorem cutBars_name {c : Char} {rest : List Char} (named : Hostname.isPatternChar c = true) :
    cutBars ('|' :: '|' :: c :: rest) = (false,c :: rest) ∧
      cutBars ('|' :: c :: rest) = (true,c :: rest) ∧ cutBars (c :: rest) = (false,c :: rest) := by
  have other : c ≠ '|' := by
    rintro rfl
    contradiction
  refine ⟨rfl,?_,?_⟩ <;> rw [cutBars] <;> simp_all

end Pattern

/-! ### Rules for a name -/

namespace NetworkRule

open Hostname (isPatternChar)
open Pattern (isMark)

variable {name marks text : List Char} {listId : Int} {rule : NetworkRule} {host : String}

theorem cutAllow_eq_self (first : text.head? ≠ some '@') : cutAllow text = (false,text) := by
  rw [cutAllow]
  rintro rest rfl
  simp at first

theorem cutModifiers_eq (first : text.head? ≠ some '/') : cutModifiers text =
    ((cut? '$' text).elim text Prod.fst,(cut? '$' text).map Prod.snd) := by
  rw [cutModifiers]
  · cases cut? '$' text <;> rfl
  · rintro rest rfl
    simp at first

/-- All characters are those of a name or marks around one. -/
def Bare (text : List Char) : Prop := ∀ c ∈ text, isPatternChar c = true ∨ isMark c = true

theorem Bare.not_mem {c : Char} (bare : Bare text)
    (other : isPatternChar c = false ∧ isMark c = false) : c ∉ text := by
  intro member
  simpa [other] using bare c member

theorem Bare.trim (bare : Bare text) : Text.trim text = text := by
  refine trim_eq_self fun c member => ?_
  rcases bare c member with named | mark
  · exact (Hostname.solid_of_isPatternChar named).2
  · rcases Pattern.isMark_iff.mp mark with rfl | rfl <;> decide

private theorem Bare.cutAllow (bare : Bare text) : cutAllow text = (false,text) :=
  cutAllow_eq_self fun first => bare.not_mem (by decide) (List.mem_of_head? first)

private theorem parse_name (bare : Bare text) (parsed : parse text listId = .ok rule) :
    rule.tags = none ∧ Pattern.parse text = .ok rule.pattern := by
  have slash : text.head? ≠ some '/' := fun first => bare.not_mem (by decide) (List.mem_of_head? first)
  have whole : cut? '$' text = none := Hostname.cut?_eq_none_iff.mpr (bare.not_mem (by decide))
  simp only [parse,bare.trim,bare.cutAllow,cutModifiers_eq slash,whole] at parsed
  obtain ⟨found,none,rest⟩ := bind_eq_ok_iff.mp parsed
  obtain ⟨pattern,read,built⟩ := bind_eq_ok_iff.mp rest
  obtain rfl := Except.ok.inj built
  obtain rfl := Except.ok.inj none
  exact ⟨rfl,read⟩

/-- The bars in front of a name tell whether it is for the whole host. -/
inductive Bars : List Char → Bool → Prop
  | none : Bars [] false
  | one : Bars ['|'] true
  | two : Bars ['|','|'] false

private theorem pattern_of_name {bars : List Char} {whole : Bool} (start : Bars bars whole)
    (named : ∀ c ∈ name, isPatternChar c = true) (marked : ∀ c ∈ marks, isMark c = true)
    (parsed : parse (bars ++ name ++ marks) listId = .ok rule) :
    rule.tags = Option.none ∧ Hostname.isPattern (Unicode.lower name) = true ∧
      Pattern.ofName whole (Unicode.lower name) = .ok rule.pattern := by
  have barred : ∀ c ∈ bars, c = '|' := by cases start <;> simp
  have bare : Bare (bars ++ name ++ marks) := by
    intro c member
    simp only [List.mem_append] at member
    rcases member with (bar | letter) | mark
    · exact .inr (Pattern.isMark_iff.mpr (.inr (barred c bar)))
    · exact .inl (named c letter)
    · exact .inr (marked c mark)
  obtain ⟨untagged,read⟩ := parse_name bare parsed
  have slash : '/' ∉ bars ++ name ++ marks := bare.not_mem (by decide)
  refine ⟨untagged,?_⟩
  cases name with
  | nil =>
    refine absurd (Pattern.parse_eq_ok slash read).1 (Pattern.not_isPattern_of_marks fun c member => ?_)
    have there := Pattern.mem_of_mem_cutBars member
    simp only [List.append_nil,List.mem_append] at there
    exact there.elim (fun bar => Pattern.isMark_iff.mpr (.inr (barred c bar))) (marked c)
  | cons c name =>
    have cut : Pattern.cutBars (bars ++ c :: name ++ marks) = (whole,c :: name ++ marks) := by
      cases start with
      | none => exact (Pattern.cutBars_name (named c (by simp))).2.2
      | one => exact (Pattern.cutBars_name (named c (by simp))).2.1
      | two => exact (Pattern.cutBars_name (named c (by simp))).1
    simpa only [cut,Pattern.trimEndWhile_marks named marked] using Pattern.parse_eq_ok slash read

/-- Whether the rule covers a host is a matter of the glob alone, and takes no client. -/
theorem covers_iff_of_name {bars : List Char} {whole : Bool} (start : Bars bars whole)
    (named : ∀ c ∈ name, isPatternChar c = true) (marked : ∀ c ∈ marks, isMark c = true)
    (parsed : parse (bars ++ name ++ marks) listId = .ok rule) (line : '\n' ∉ host.toList)
    (client : List String) : rule.covers host client = true ↔ Glob (Unicode.lower name) host.toList ∨
      whole = false ∧ ∃ front rest, host.toList = front ++ '.' :: rest ∧ Glob (Unicode.lower name) rest := by
  obtain ⟨untagged,lowered,made⟩ := pattern_of_name start named marked parsed
  rw [covers,untagged,Bool.true_and]
  exact Pattern.covers_ofName (Hostname.isPattern_iff.mp lowered).2 made line

/-- A rule for a name covers the hosts that match it as a glob, and with one bar in front of it no
others. Otherwise it covers also the hosts that end in such a name behind a dot. -/
theorem covers_iff_glob (named : ∀ c ∈ name, isPatternChar c = true)
    (marked : ∀ c ∈ marks, isMark c = true) (line : '\n' ∉ host.toList) (client : List String) :
    (parse (['|'] ++ name ++ marks) listId = .ok rule →
      (rule.covers host client = true ↔ Glob (Unicode.lower name) host.toList)) ∧
    ∀ bars ∈ [['|','|'],[]], parse (bars ++ name ++ marks) listId = .ok rule →
      (rule.covers host client = true ↔ Glob (Unicode.lower name) host.toList ∨
        ∃ front rest, host.toList = front ++ '.' :: rest ∧ Glob (Unicode.lower name) rest) := by
  constructor
  · intro parsed
    simpa using covers_iff_of_name .one named marked parsed line client
  · intro bars member parsed
    have start : Bars bars false := by
      rcases List.mem_pair.mp member with rfl | rfl
      · exact .two
      · exact .none
    simpa using covers_iff_of_name start named marked parsed line client

theorem covers_iff_glob_leading :
    let name := "*.ads-*.example".toList
    let host := "x.ads-1.ads-2.example"
    ∃ rule other, parse (['|'] ++ name ++ ['^']) 1 = .ok rule ∧ parse ([] ++ name ++ ['^']) 1 = .ok other ∧
      (rule.covers host [] = true ↔ Glob (Unicode.lower name) host.toList) ∧
      (other.covers host [] = true ↔ Glob (Unicode.lower name) host.toList ∨
        ∃ front rest, host.toList = front ++ '.' :: rest ∧ Glob (Unicode.lower name) rest) := by
  intro name host
  have named : ∀ c ∈ name, isPatternChar c = true := List.all_eq_true.mp (by decide)
  have marked : ∀ c ∈ ['^'], isMark c = true := List.all_eq_true.mp (by decide)
  have line : '\n' ∉ host.toList := by decide
  have rule : ∃ rule, parse (['|'] ++ name ++ ['^']) 1 = .ok rule := ⟨_,rfl⟩
  have other : ∃ rule, parse ([] ++ name ++ ['^']) 1 = .ok rule := ⟨_,rfl⟩
  obtain ⟨rule,parsed⟩ := rule
  obtain ⟨other,read⟩ := other
  exact ⟨rule,other,parsed,read,(covers_iff_glob named marked line []).1 parsed,
    (covers_iff_glob named marked line []).2 [] (by simp) read⟩

end NetworkRule
end DnsPolicy
