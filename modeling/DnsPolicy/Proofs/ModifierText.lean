import DnsPolicy.Proofs.Ancestry
import DnsPolicy.Proofs.Trimming
import DnsPolicy.Rule.Printer
import Mathlib.Data.List.Chain

/-! Reading the text that is written for modifiers: one tag after the other, then one modifier after the
other, and behind a regular expression from the last slash that has a dollar sign behind it. -/
namespace DnsPolicy
open Text

/-! ### Tags -/

namespace ClientTags

variable {tags more last : ClientTags} {clause : TagClause} {clauses : List TagClause}

/-- The tags have become more by those that the clauses name. -/
structure Gains (tags more : ClientTags) (clauses : List TagClause) : Prop where
  permitted : ∀ name, name ∈ more.permitted ↔ name ∈ tags.permitted ∨ .permitted name ∈ clauses
  restricted : ∀ name, name ∈ more.restricted ↔ name ∈ tags.restricted ∨ .restricted name ∈ clauses

private theorem Gains.trans (first : Gains tags more [clause]) (rest : Gains more last clauses) :
    Gains tags last (clause :: clauses) where
  permitted name := by rw [rest.permitted,first.permitted,List.mem_singleton,List.mem_cons,or_assoc]
  restricted name := by rw [rest.restricted,first.restricted,List.mem_singleton,List.mem_cons,or_assoc]

private theorem add_write (tags : ClientTags) (writable : clause.Writable) :
    ∃ more, add tags clause.write = some more ∧ Gains tags more [clause] := by
  rw [add,writable.trimmed]
  cases clause with
  | permitted name =>
    have plain := writable.plain rfl
    refine ⟨{ tags with permitted := tags.permitted ++ [name] },?_,by simp,by simp⟩
    rw [TagClause.write]
    split
    next none => exact absurd (String.toList_eq_nil_iff.mp none) writable.filled
    next tilde => simp [TagClause.name,tilde] at plain
    next tilde => simp [TagClause.name,tilde] at plain
    next => rw [String.ofList_toList]
  | restricted name =>
    refine ⟨{ tags with restricted := tags.restricted ++ [name] },?_,by simp,by simp⟩
    rw [TagClause.write]
    split
    next none => contradiction
    next alone =>
      have none := (List.cons.inj alone).2
      exact absurd (String.toList_eq_nil_iff.mp none) writable.filled
    next tag _ same => rw [← (List.cons.inj same).2,String.ofList_toList]
    next other => exact absurd rfl (other name.toList)

private theorem foldlM_write (tags : ClientTags) (writable : ∀ clause ∈ clauses, clause.Writable) :
    ∃ more, (clauses.map TagClause.write).foldlM add tags = some more ∧ Gains tags more clauses := by
  induction clauses generalizing tags with
  | nil => exact ⟨tags,rfl,by simp,by simp⟩
  | cons clause clauses ih =>
    obtain ⟨more,added,first⟩ := add_write tags (writable clause (by simp))
    obtain ⟨last,read,rest⟩ := ih more fun clause listed => writable clause (List.mem_cons_of_mem _ listed)
    refine ⟨last,?_,first.trans rest⟩
    rw [List.map_cons,List.foldlM_cons,added]
    exact read

private theorem parse_write (some : clauses ≠ []) (writable : ∀ clause ∈ clauses, clause.Writable) :
    ∃ tags, parse (List.intercalate ['|'] (clauses.map TagClause.write)) = .ok tags ∧
      Gains {} tags clauses := by
  have pieces : (List.intercalate ['|'] (clauses.map TagClause.write)).splitOn '|' =
      clauses.map TagClause.write := by
    refine List.splitOn_intercalate '|' ?_ (by simpa using some)
    intro part listed
    obtain ⟨clause,member,rfl⟩ := List.mem_map.mp listed
    exact (writable clause member).uncut.2
  obtain ⟨tags,read,gains⟩ := foldlM_write {} writable
  exact ⟨tags,by rw [parse,pieces,read],gains⟩

theorem Gains.allows_iff (gains : Gains {} tags clauses) (client : List String) :
    tags.allows client = true ↔ TagClause.Admit clauses client := by
  have permitted (name : String) : name ∈ tags.permitted ↔ .permitted name ∈ clauses := by
    simpa using gains.permitted name
  have restricted (name : String) : name ∈ tags.restricted ↔ .restricted name ∈ clauses := by
    simpa using gains.restricted name
  have none : tags.permitted = [] ↔ ∀ name, .permitted name ∉ clauses := by
    simp only [List.eq_nil_iff_forall_not_mem,permitted]
  simp only [allows,TagClause.Admit,Bool.and_eq_true,Bool.not_eq_true',List.any_eq_false,Bool.or_eq_true,
    List.isEmpty_iff,List.any_eq_true,List.contains_iff_mem,none,permitted,restricted]

end ClientTags

/-! ### Modifiers -/

namespace Modifier

variable {modifier : Modifier}

theorem trim_write (writable : modifier.Writable) : trim modifier.write = modifier.write := by
  cases modifier with
  | important => decide
  | tags clauses =>
    refine trim_append (by decide) (trim_intercalate (by decide) ?_)
    intro part listed
    obtain ⟨clause,member,rfl⟩ := List.mem_map.mp listed
    exact (writable.2 clause member).trimmed

private theorem comma_not_mem_write (writable : modifier.Writable) : ',' ∉ modifier.write := by
  cases modifier with
  | important => decide
  | tags clauses =>
    intro comma
    rcases List.mem_append.mp comma with name | value
    · exact absurd name (by decide)
    · rcases mem_intercalate value with bar | ⟨part,listed,inside⟩
      · contradiction
      · obtain ⟨clause,member,rfl⟩ := List.mem_map.mp listed
        exact (writable.2 clause member).uncut.1 inside

end Modifier

namespace Modifiers

variable {before found after : Modifiers} {modifier : Modifier} {modifiers : List Modifier}

/-- What has been found after some more modifiers were read. -/
structure Follows (before after : Modifiers) (modifiers : List Modifier) : Prop where
  important : after.important = true ↔ before.important = true ∨ .important ∈ modifiers
  tagged : ∀ clauses, .tags clauses ∈ modifiers →
    ∃ tags, after.tags = some tags ∧ ClientTags.Gains {} tags clauses
  untagged : (∀ clauses, .tags clauses ∉ modifiers) → after.tags = before.tags

private theorem add_write (before : Modifiers) (writable : modifier.Writable) :
    ∃ after, add before modifier.write = .ok after ∧ Follows before after [modifier] := by
  simp only [add,Modifier.trim_write writable]
  cases modifier with
  | important => exact ⟨{ before with important := true },rfl,by simp,by simp,by simp⟩
  | tags clauses =>
    obtain ⟨tags,read,gains⟩ := ClientTags.parse_write writable.1 writable.2
    refine ⟨{ before with tags },?_,by simp,?_,by simp⟩
    · have cut : cut? '=' (Modifier.tags clauses).write =
          some ("ctag".toList,List.intercalate ['|'] (clauses.map TagClause.write)) :=
        Hostname.cut?_append (by decide : '=' ∉ "ctag".toList)
      rw [cut]
      simp only [if_true,read]
      rfl
    · intro others same
      obtain rfl := Modifier.tags.inj (List.mem_singleton.mp same)
      exact ⟨tags,rfl,gains⟩

private theorem Follows.trans (first : Follows before found [modifier])
    (rest : Follows found after modifiers)
    (distinct : ((modifier :: modifiers).map Modifier.isTags).Nodup) :
    Follows before after (modifier :: modifiers) where
  important := by rw [rest.important,first.important,List.mem_singleton,List.mem_cons,or_assoc]
  tagged clauses listed := by
    rcases List.mem_cons.mp listed with same | later
    · obtain ⟨tags,read,gains⟩ := first.tagged clauses (List.mem_singleton.mpr same)
      -- A second list would take the place of this one.
      have untagged : ∀ others, .tags others ∉ modifiers := by
        intro others more
        rw [List.map_cons,List.nodup_cons,← same] at distinct
        exact distinct.1 (List.mem_map.mpr ⟨.tags others,more,rfl⟩)
      exact ⟨tags,(rest.untagged untagged).trans read,gains⟩
    · exact rest.tagged clauses later
  untagged none := by
    rw [rest.untagged fun clauses listed => none clauses (List.mem_cons_of_mem _ listed)]
    refine first.untagged fun clauses same => none clauses ?_
    rw [List.mem_singleton.mp same]
    exact List.mem_cons_self

private theorem foldlM_write (before : Modifiers) (writable : ∀ modifier ∈ modifiers, modifier.Writable)
    (distinct : (modifiers.map Modifier.isTags).Nodup) :
    ∃ after, (modifiers.map Modifier.write).foldlM add before = .ok after ∧
      Follows before after modifiers := by
  induction modifiers generalizing before with
  | nil => exact ⟨before,rfl,by simp,by simp,by simp⟩
  | cons modifier modifiers ih =>
    obtain ⟨found,added,first⟩ := add_write before (writable modifier (by simp))
    obtain ⟨after,read,rest⟩ := ih found
      (fun modifier listed => writable modifier (List.mem_cons_of_mem _ listed)) (List.nodup_cons.mp distinct).2
    refine ⟨after,?_,first.trans rest distinct⟩
    rw [List.map_cons,List.foldlM_cons,added]
    exact read

theorem parse_write (some : modifiers ≠ []) (writable : ∀ modifier ∈ modifiers, modifier.Writable)
    (distinct : (modifiers.map Modifier.isTags).Nodup) :
    ∃ found, parse (List.intercalate [','] (modifiers.map Modifier.write)) = .ok found ∧
      Follows {} found modifiers := by
  have pieces : (List.intercalate [','] (modifiers.map Modifier.write)).splitOn ',' =
      modifiers.map Modifier.write := by
    refine List.splitOn_intercalate ',' ?_ (by simpa using some)
    intro part listed
    obtain ⟨modifier,member,rfl⟩ := List.mem_map.mp listed
    exact Modifier.comma_not_mem_write (writable modifier member)
  obtain ⟨found,read,follows⟩ := foldlM_write {} writable distinct
  exact ⟨found,by rw [parse,pieces,read],follows⟩

end Modifiers

/-! ### The end of a regular expression -/

namespace NetworkRule

variable {mark : Char} {text front back : List Char} {parts : List (List Char)}

/-- No slash has a dollar sign right behind it. -/
def Unclosed (text : List Char) : Prop := text.IsChain fun c d => ¬ (c = '/' ∧ d = '$')

theorem unclosed_iff : Unclosed text ↔ ¬ ['/','$'] <:+: text := by
  induction text with
  | nil => simp [Unclosed]
  | cons c rest ih =>
    rw [List.infix_cons_iff,not_or,← ih]
    cases rest with
    | nil => simp [Unclosed]
    | cons d more => simp [Unclosed,List.isChain_cons_cons,List.cons_prefix_cons,eq_comm]

private theorem Unclosed.append (other : mark ≠ '/' ∧ mark ≠ '$') (first : Unclosed front)
    (rest : Unclosed back) : Unclosed (front ++ mark :: back) := by
  refine List.isChain_append.mpr ⟨first,List.isChain_cons.mpr ⟨?_,rest⟩,?_⟩
  · rintro d _ ⟨slash,_⟩
    exact other.1 slash
  · rintro c _ d found ⟨_,dollar⟩
    obtain rfl : mark = d := Option.some.inj found
    exact other.2 dollar

theorem Unclosed.intercalate (other : mark ≠ '/' ∧ mark ≠ '$')
    (unclosed : ∀ part ∈ parts, Unclosed part) : Unclosed (List.intercalate [mark] parts) := by
  induction parts with
  | nil => exact .nil
  | cons part parts ih =>
    have first := unclosed part (by simp)
    cases parts with
    | nil => simpa using first
    | cons next more =>
      rw [List.intercalate_cons_cons,List.append_assoc]
      exact first.append other (ih fun part listed => unclosed part (List.mem_cons_of_mem _ listed))

theorem Unclosed.cutClosing? (unclosed : Unclosed text) : cutClosing? text = none := by
  induction text with
  | nil => rfl
  | cons c rest ih =>
    rw [NetworkRule.cutClosing?,ih unclosed.tail]
    rintro back rfl rfl
    exact (List.isChain_cons_cons.mp unclosed).1 ⟨rfl,rfl⟩

/-- Whatever stands in front of it, the last slash with a dollar sign behind it is found. -/
theorem cutClosing?_append (front : List Char) (unclosed : Unclosed back) :
    cutClosing? (front ++ '/' :: '$' :: back) = some (front ++ ['/'],back) := by
  induction front with
  | nil =>
    -- The search goes on behind the slash, so what is there must not close as well.
    have dollar : Unclosed ('$' :: back) := List.isChain_cons.mpr ⟨by simp,unclosed⟩
    rw [List.nil_append,cutClosing?,dollar.cutClosing?]
    rfl
  | cons c front ih =>
    simp only [List.cons_append,cutClosing?,ih]

end NetworkRule

end DnsPolicy
