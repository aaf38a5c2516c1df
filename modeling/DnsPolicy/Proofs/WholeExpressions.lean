import DnsPolicy.Proofs.Success
import DnsPolicy.Proofs.RuleText
import DnsPolicy.Ruleset

/-! Rules that are an expression and nothing else. The expression is taken whole just when no slash in it
has a dollar sign right behind it. Otherwise the last such slash is read as the closing one, and what
follows as modifiers, which then say something about tags if they can be read at all. -/
namespace DnsPolicy
open Text

namespace Modifiers

variable {before found : Modifiers} {text : List Char}

/-- A modifier that ends in a slash can only be one of tags. -/
theorem isSome_tags_of_add (added : add before (text ++ ['/']) = .ok found) :
    found.tags.isSome = true := by
  have slash : '/' ∈ trim (text ++ ['/']) := mem_trim (by simp) (by decide)
  simp only [add] at added
  split at added
  next =>
    split at added
    next important =>
      rw [important] at slash
      exact absurd slash (by decide)
    next => contradiction
  next name value _ =>
    split at added
    next =>
      obtain ⟨tags,_,rfl⟩ := map_eq_ok_iff.mp added
      rfl
    next => contradiction

private theorem isSome_tags_of_parse (read : parse (text ++ ['/']) = .ok found) :
    found.tags.isSome = true := by
  obtain ⟨pieces,last,_,split⟩ := splitOn_concat (by decide : '/' ≠ ',') text
  rw [parse,split,List.foldlM_append] at read
  obtain ⟨before,_,added⟩ := bind_eq_ok_iff.mp read
  rw [List.foldlM_cons] at added
  obtain ⟨after,added,same⟩ := bind_eq_ok_iff.mp added
  rw [← Except.ok.inj same]
  exact isSome_tags_of_add added

end Modifiers

namespace NetworkRule

variable {text back : List Char} {listId : Int}

private theorem Unclosed.concat_slash (unclosed : Unclosed text) : Unclosed (text ++ ['/']) := by
  refine List.isChain_append.mpr ⟨unclosed,.singleton _,?_⟩
  rintro c _ d found ⟨_,dollar⟩
  obtain rfl : '/' = d := Option.some.inj found
  contradiction

/-- Of the slashes with a dollar sign right behind them there is a last one. -/
theorem exists_last_closing (closed : ['/','$'] <:+: text) :
    ∃ front back, text = front ++ '/' :: '$' :: back ∧ Unclosed back := by
  induction text with
  | nil => simp at closed
  | cons c rest ih =>
    by_cases later : ['/','$'] <:+: rest
    · obtain ⟨front,back,rfl,unclosed⟩ := ih later
      exact ⟨c :: front,back,rfl,unclosed⟩
    · obtain ⟨back,starts⟩ := (List.infix_cons_iff.mp closed).resolve_right later
      obtain ⟨rfl,rfl⟩ := List.cons.inj starts
      exact ⟨[],back,rfl,(unclosed_iff.mpr later).tail⟩

variable {allow : Bool} {source : String} {rule : NetworkRule} {regex : Regex}

/-- The text of a rule that is an expression and nothing else. -/
def expressionText (allow : Bool) (source : String) : List Char :=
  (if allow then ['@','@'] else []) ++ '/' :: (source.toList ++ ['/'])

private theorem trim_expressionText (allow : Bool) (source : String) :
    trim (expressionText allow source) = expressionText allow source := by
  have ahead : trim (if allow then ['@','@'] else []) = if allow then ['@','@'] else [] := by
    split <;> decide
  have slashed : trim ('/' :: (source.toList ++ ['/'])) = '/' :: (source.toList ++ ['/']) := by
    rw [trim_eq_self_iff,← List.cons_append,List.getLast?_concat]
    constructor <;> rintro c ⟨rfl⟩ <;> decide
  exact trim_append ahead slashed

private theorem cutAllow_expressionText (allow : Bool) (source : String) :
    cutAllow (expressionText allow source) = (allow,'/' :: (source.toList ++ ['/'])) := by
  cases allow <;> rfl

/-- The rule is read from the parts that the text is cut into. -/
theorem parse_expressionText_iff {modifiers : Option (List Char)} {pattern : List Char}
    (cut : cutModifiers ('/' :: (source.toList ++ ['/'])) = (pattern,modifiers)) :
    parse (expressionText allow source) listId = .ok rule ↔
      ∃ found : Modifiers, modifiers.elim (.ok {}) Modifiers.parse = .ok found ∧
        ∃ read, Pattern.parse pattern = .ok read ∧
          ⟨String.ofList (expressionText allow source),listId,allow,found.important,found.tags,read⟩ = rule := by
  simp only [parse,trim_expressionText,cutAllow_expressionText,cut]
  cases modifiers <;>
    simp only [bind_eq_ok_iff,Option.elim,pure,Except.pure,Except.ok.injEq]

private theorem parse_of_unclosed (filled : source ≠ "")
    (compiled : Regex.parse? ("(?i)".toList ++ source.toList) = some regex)
    (unclosed : Unclosed source.toList) :
    parse (expressionText allow source) listId =
      .ok ⟨String.ofList (expressionText allow source),listId,allow,false,none,.search regex⟩ := by
  have cut : cutModifiers ('/' :: (source.toList ++ ['/'])) = ('/' :: (source.toList ++ ['/']),none) := by
    rw [cutModifiers,unclosed.concat_slash.cutClosing?]
  have between : Pattern.source? ('/' :: (source.toList ++ ['/'])) = some source.toList :=
    Target.source?_regex filled
  have read : Pattern.parse ('/' :: (source.toList ++ ['/'])) = .ok (.search regex) :=
    Pattern.parse_eq_ok_iff.mpr (.inl ⟨_,_,between,compiled,rfl⟩)
  exact (parse_expressionText_iff cut).mpr ⟨{},rfl,_,read,rfl⟩

/-- Where a slash has a dollar sign behind it, all behind the last of them is read as modifiers. -/
theorem isSome_tags_of_closed (closed : ['/','$'] <:+: source.toList)
    (parsed : parse (expressionText allow source) listId = .ok rule) : rule.tags.isSome = true := by
  obtain ⟨front,back,joined,unclosed⟩ := exists_last_closing closed
  have cut : cutModifiers ('/' :: (source.toList ++ ['/'])) = ('/' :: (front ++ ['/']),some (back ++ ['/'])) := by
    rw [joined,List.append_assoc,List.cons_append,List.cons_append,cutModifiers,
      cutClosing?_append front unclosed.concat_slash]
  obtain ⟨found,modified,read,_,rfl⟩ := (parse_expressionText_iff cut).mp parsed
  exact Modifiers.isSome_tags_of_parse modified

/-- An expression that compiles is a rule without modifiers, which blocks or allows every host that it finds
a match in, just when no slash in it has a dollar sign right behind it. Dollar signs anywhere else are anchors. -/
theorem parse_whole_expression (allow : Bool) (source : String) (listId : Int)
    (filled : source ≠ "") (compiled : Regex.parse? ("(?i)".toList ++ source.toList) = some regex) :
    let text := (if allow then ['@','@'] else []) ++ '/' :: (source.toList ++ ['/'])
    (¬ ['/','$'] <:+: source.toList → ∃ rule, parse text listId = .ok rule ∧
      rule.text = String.ofList text ∧ rule.listId = listId ∧ rule.allow = allow ∧
      rule.important = false ∧ rule.tags = none ∧
      ∀ host client, rule.covers host client = regex.finds host.toList) ∧
    (['/','$'] <:+: source.toList → ∀ rule, parse text listId = .ok rule → rule.tags.isSome = true) := by
  intro text
  constructor
  · intro unclosed
    refine ⟨_,parse_of_unclosed filled compiled (unclosed_iff.mpr unclosed),rfl,rfl,rfl,rfl,rfl,?_⟩
    intro host client
    rfl
  · intro closed rule parsed
    exact isSome_tags_of_closed closed parsed

/-- Anchors in front of a slash and at the end, and a slash that ends the expression. -/
theorem parse_whole_expression_anchored :
    let source := "^ads$/|b/c$|^(x|y$)/"
    ¬ ['/','$'] <:+: source.toList ∧ ∃ rule,
      parse ("@@/".toList ++ source.toList ++ ['/']) 7 = .ok rule ∧ rule.tags = none ∧
        rule.covers "xB/c" ["kids"] = true := by
  intro source
  have found : (Regex.parse? ("(?i)".toList ++ source.toList)).map (·.finds "xB/c".toList) = some true := by
    decide +kernel
  obtain ⟨regex,compiled,found⟩ := Option.map_eq_some_iff.mp found
  have unclosed : ¬ ['/','$'] <:+: source.toList := by decide
  obtain ⟨rule,parsed,_,_,_,_,untagged,covers⟩ :=
    (parse_whole_expression true source 7 (by decide) compiled).1 unclosed
  exact ⟨unclosed,rule,parsed,untagged,(covers "xB/c" ["kids"]).trans found⟩

/-- The anchor behind the slash in the expression is taken for the start of modifiers, which cannot be read
or become tags. A list with such a line is not accepted. -/
theorem parse_whole_expression_cut :
    let source := "ads|/$"
    (Regex.parse? ("(?i)".toList ++ source.toList)).map (·.finds "ads.example".toList) = some true ∧
      parse ('/' :: (source.toList ++ ['/'])) 1 = .error (.badModifier "/") ∧
      parse ('@' :: '@' :: '/' :: (source.toList ++ ['/'])) 1 = .error (.badModifier "/") ∧
      Ruleset.build [{ id := 0, text := "||a.example^\n/ads|/$/" }] = .error (.badLine 0 2 (.badModifier "/")) ∧
      (parse ('/' :: ((source ++ "ctag=x").toList ++ ['/'])) 1).toOption.map (·.tags) =
        some (some { permitted := ["x/"] }) := by
  refine ⟨by decide +kernel,rfl,rfl,rfl,by decide +kernel⟩

end NetworkRule

end DnsPolicy
