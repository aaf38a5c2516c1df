import DnsPolicy.Proofs.Globs
import DnsPolicy.Proofs.LetterCase
import DnsPolicy.Proofs.ModifierText

/-! Reading the text that is written for the parts of a rule gives the rule that they say. Each mark
that separates parts may also stand within one that is read later, so every layer is read on its own. -/
namespace DnsPolicy
open Text

/-! ### Targets -/

namespace Hostname

variable {name : List Char}

private theorem lower_eq (named : isPattern name = true) :
    Unicode.lower name = asciiLower name := by
  have letters := (isPattern_iff.mp named).2
  exact Unicode.lower_of_ascii fun c member => (solid_of_isPatternChar (letters c member)).1

@[simp] theorem isPattern_asciiLower (name : List Char) :
    isPattern (asciiLower name) = isPattern name := by
  have same : isPatternChar ∘ Char.toLower = isPatternChar :=
    funext fun c => (caseless_toLower c).isPatternChar
  rw [isPattern,isPattern,isEmpty_asciiLower,asciiLower,List.all_map,same]

private theorem mem_asciiLower_iff {mark : Char} (plain : mark.isAlpha = false) :
    mark ∈ asciiLower name ↔ mark ∈ name := by
  simp only [asciiLower,List.mem_map,toLower_eq_iff plain,exists_eq_right]

private theorem head?_asciiLower_iff {mark : Char} (plain : mark.isAlpha = false) :
    (asciiLower name).head? = some mark ↔ name.head? = some mark := by
  cases name with
  | nil => simp [asciiLower]
  | cons c rest => simp [asciiLower,toLower_eq_iff plain]

end Hostname

namespace Target

open Hostname (isPattern isPatternChar)
open NetworkRule (Bare)
open Pattern (isMark)

variable {bars : Fin 3} {name source : String} {marks : List Char} {target : Target}

private theorem bare_host (writable : (host bars name marks).Writable) :
    Bare (host bars name marks).write := by
  obtain ⟨named,_,marked,_⟩ := writable
  have letters := (Hostname.isPattern_iff.mp named).2
  intro c member
  simp only [write,List.mem_append,List.mem_replicate] at member
  rcases member with (⟨_,rfl⟩ | letter) | mark
  · exact .inr rfl
  · exact .inl (letters c letter)
  · exact .inr (Pattern.isMark_iff.mpr (marked c mark))

private theorem trim_write (writable : target.Writable) : trim target.write = target.write := by
  cases target with
  | host bars name marks => exact (bare_host writable).trim
  | regex source =>
    rw [trim_eq_self_iff,write,← List.cons_append,List.getLast?_concat]
    constructor <;> rintro c ⟨rfl⟩ <;> decide

private theorem cutBars_write {c : Char} {rest : List Char} (bars : Fin 3)
    (named : isPatternChar c = true) :
    Pattern.cutBars (List.replicate bars '|' ++ c :: rest) = (decide (bars = 1),c :: rest) := by
  obtain ⟨two,one,none⟩ := @Pattern.cutBars_name c rest named
  match bars with
  | 0 => exact none
  | 1 => exact one
  | 2 => exact two

private theorem parse_host {pattern : Pattern} (writable : (host bars name marks).Writable)
    (made : Pattern.ofName (decide (bars = 1)) (Unicode.lower name.toList) = .ok pattern) :
    Pattern.parse (host bars name marks).write = .ok pattern := by
  have plain := Pattern.source?_eq_none ((bare_host writable).not_mem (by decide))
  obtain ⟨named,undotted,marked,_⟩ := writable
  have lowered : isPattern (Unicode.lower name.toList) = true := by
    rw [Hostname.lower_eq named,Hostname.isPattern_asciiLower,named]
  have start : (Unicode.lower name.toList).head? ≠ some '.' := by
    rw [Hostname.lower_eq named]
    exact mt (Hostname.head?_asciiLower_iff (by decide)).mp undotted
  obtain ⟨some,letters⟩ := Hostname.isPattern_iff.mp named
  have cut : Pattern.cutBars (host bars name marks).write = (decide (bars = 1),name.toList ++ marks) := by
    obtain ⟨c,rest,first⟩ := List.exists_cons_of_ne_nil some
    rw [write,List.append_assoc,first]
    exact cutBars_write bars (letters c (first ▸ List.mem_cons_self))
  have trimmed : trimEndWhile isMark (name.toList ++ marks) = name.toList :=
    Pattern.trimEndWhile_marks letters fun c member => Pattern.isMark_iff.mpr (marked c member)
  refine Pattern.parse_eq_ok_iff.mpr (.inr ⟨plain,_,?_,lowered,start,?_⟩)
  · rw [cut,trimmed]
  · rw [cut,made]

theorem source?_regex (filled : source ≠ "") : Pattern.source? (regex source).write =
    some source.toList := by
  have long : 2 ≤ (source.toList ++ ['/']).length := by
    have some := List.length_pos_of_ne_nil (mt String.toList_eq_nil_iff.mp filled)
    simp only [List.length_append,List.length_cons,List.length_nil]
    omega
  rw [write,Pattern.source?,List.getLast?_concat,List.dropLast_concat,if_pos ⟨long,rfl⟩]

private theorem ofName_host (writable : (host bars name marks).Writable) :
    ∃ pattern, Pattern.ofName (decide (bars = 1)) (Unicode.lower name.toList) = .ok pattern ∧
      (host bars name marks).Means pattern := by
  obtain ⟨named,_,_,compiles⟩ := writable
  have starred : (Unicode.lower name.toList).contains '*' = true ↔ '*' ∈ name.toList := by
    rw [List.contains_iff_mem,Hostname.lower_eq named,Hostname.mem_asciiLower_iff (by decide)]
  rw [Pattern.ofName]
  split
  next star =>
    obtain ⟨expression,compiled⟩ := Option.isSome_iff_exists.mp (compiles (starred.mp star))
    exact ⟨_,Pattern.compile_eq_ok_iff.mpr ⟨expression,compiled,rfl⟩,.wildcard (starred.mp star) compiled⟩
  next plain =>
    have plain := mt starred.mpr plain
    split
    next whole =>
      obtain rfl := of_decide_eq_true whole
      exact ⟨_,rfl,.exact plain⟩
    next below => exact ⟨_,rfl,.domain plain (by simpa using below)⟩

private theorem parse_write (writable : target.Writable) :
    ∃ pattern, Pattern.parse target.write = .ok pattern ∧ target.Means pattern := by
  cases target with
  | host bars name marks =>
    obtain ⟨pattern,made,means⟩ := ofName_host writable
    exact ⟨pattern,parse_host writable made,means⟩
  | regex source =>
    obtain ⟨expression,compiled⟩ := Option.isSome_iff_exists.mp writable.2
    refine ⟨.search expression,?_,.regex compiled⟩
    exact Pattern.parse_eq_ok_iff.mpr (.inl ⟨_,_,source?_regex writable.1,compiled,rfl⟩)

end Target

/-! ### Rules -/

namespace RuleParts

open NetworkRule (Unclosed)

variable {parts : RuleParts} {listId : Int}

private theorem trim_write (writable : parts.Writable) : trim parts.write = parts.write := by
  have ahead : trim (if parts.allow then ['@','@'] else []) = if parts.allow then ['@','@'] else [] := by
    split <;> decide
  refine trim_append ahead (trim_append (Target.trim_write writable.target) ?_)
  rw [joined?]
  split
  next => rfl
  next =>
    refine trim_append (by decide : trim ['$'] = ['$']) (trim_intercalate (by decide) ?_)
    intro part listed
    obtain ⟨modifier,member,rfl⟩ := List.mem_map.mp listed
    exact Modifier.trim_write (writable.modifiers modifier member)

/-- What reading the parts of a rule comes to. -/
def rule (parts : RuleParts) (listId : Int) (found : Modifiers) (pattern : Pattern) : NetworkRule :=
  { text := String.ofList parts.write
    listId
    allow := parts.allow
    important := found.important
    tags := found.tags
    pattern }

private theorem covers_iff {found : Modifiers} {pattern : Pattern}
    (follows : Modifiers.Follows {} found parts.modifiers) (host : String) (client : List String) :
    (parts.rule listId found pattern).covers host client = true ↔
      pattern.covers host = true ∧ parts.Admits client := by
  rw [NetworkRule.covers,Bool.and_eq_true,and_comm]
  refine and_congr_right fun _ => ?_
  have tags : (parts.rule listId found pattern).tags = found.tags := rfl
  rw [tags]
  by_cases tagged : ∃ clauses, .tags clauses ∈ parts.modifiers
  · obtain ⟨clauses,listed⟩ := tagged
    obtain ⟨tags,same,gains⟩ := follows.tagged clauses listed
    rw [same]
    constructor
    · intro allowed others more
      obtain ⟨_,again,gained⟩ := follows.tagged others more
      obtain rfl := Option.some.inj (same.symm.trans again)
      exact (gained.allows_iff client).mp allowed
    · exact fun admits => (gains.allows_iff client).mpr (admits clauses listed)
  · rw [not_exists] at tagged
    rw [follows.untagged tagged]
    exact iff_of_true rfl fun clauses listed => absurd listed (tagged clauses)

end RuleParts

end DnsPolicy
