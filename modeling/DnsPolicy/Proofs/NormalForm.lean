import DnsPolicy.Proofs.PlainChars
import DnsPolicy.Proofs.Success
import DnsPolicy.Rewrite.Table

/-! The normal form of a rewrite is reached at once: normalizing it again gives it back. What is left
of a domain or an answer is ASCII in lower case, with nothing to trim at its ends. -/
namespace DnsPolicy

namespace Rewrite
open Text
open Unicode (Solid Settled)

/-- Normalizing gives the rewrite itself. -/
def Normal (rewrite : Rewrite) : Prop := rewrite.normalize = .ok rewrite

theorem isPatternChar_of_stem {domain : List Char} (named : Hostname.isName (stem domain) = true) :
    ∀ c ∈ domain, Hostname.isPatternChar c = true := by
  have letters := Hostname.isPatternChar_of_isName named
  intro c member
  unfold stem at letters
  split at letters
  next rest =>
    simp only [List.mem_cons] at member
    rcases member with rfl | rfl | later
    · decide
    · decide
    · exact letters c later
  next => exact letters c member

/-- Nothing to trim at either end, and nothing to be put into lower case. -/
structure Plain (text : List Char) : Prop where
  undotted : text.getLast? ≠ some '.'
  solid : ∀ c ∈ text, Solid c
  settled : ∀ c ∈ text, Settled c

/-- What normalizing makes of the two sides of a rewrite. -/
structure Formed (rewrite : Rewrite) : Prop where
  domain : Plain rewrite.domain.toList
  answer : Plain rewrite.answer.toList
  stem : Hostname.isName (stem rewrite.domain.toList) = true
  read_or_named : (Address.read? rewrite.answer.toList).isSome = true ∨
    Hostname.isName rewrite.answer.toList = true

variable {rewrite normal : Rewrite} {dots : Nat}

private theorem plain_of_lower {text : List Char} (source : List Char)
    (sub : ∀ c ∈ text, c ∈ Unicode.lower source)
    (solid : ∀ c ∈ text, Solid c) (undotted : text.getLast? ≠ some '.') : Plain text where
  undotted := undotted
  solid := solid
  settled c member := (Unicode.mem_lowerAfter (sub c member)).resolve_left (Nat.not_le.mpr (solid c member).1)

private theorem plain_of_normalAnswer {domain source answer : List Char}
    (given : normalAnswer domain (Unicode.lower source) = .ok answer) :
    Plain answer ∧ ((Address.read? answer).isSome = true ∨ Hostname.isName answer = true) := by
  rw [normalAnswer] at given
  split at given
  next => contradiction
  next =>
    split at given
    next address =>
      obtain rfl := Except.ok.inj given
      obtain ⟨found,read⟩ := Option.isSome_iff_exists.mp address
      refine ⟨plain_of_lower source (fun _ => id) ?_ (Address.getLast?_of_read? read),.inl address⟩
      exact fun c member => (Address.isAddressChar_of_read? read c member).solid
    next =>
      simp only at given
      split at given
      next named =>
        obtain rfl := Except.ok.inj given
        refine ⟨plain_of_lower source (fun _ => mem_of_mem_trimDots) ?_ (getLast?_trimDots _),.inr named⟩
        exact fun c member =>
          Hostname.solid_of_isPatternChar (Hostname.isPatternChar_of_isName named c member)
      next => contradiction

theorem formed_of_normalize (given : rewrite.normalize = .ok normal) : normal.Formed := by
  simp only [normalize] at given
  split at given
  next named =>
    obtain ⟨answer,answered,rfl⟩ := map_eq_ok_iff.mp given
    obtain ⟨plain,read_or_named⟩ := plain_of_normalAnswer answered
    have letters := isPatternChar_of_stem named
    have domain := plain_of_lower _ (fun _ => id)
      (fun c member => Hostname.solid_of_isPatternChar (letters c member))
      (mt Unicode.getLast?_lower (getLast?_trimDots (trim rewrite.domain.toList)))
    constructor <;> rw [String.toList_ofList]
    · exact domain
    · exact plain
    · exact named
    · exact read_or_named
  next => contradiction

theorem trimDots_append_replicate {text : List Char} (undotted : text.getLast? ≠ some '.')
    (dots : Nat) : trimDots (text ++ List.replicate dots '.') = text := by
  apply trimEndWhile_append
  · intro c last
    apply beq_false_of_ne
    rintro rfl
    exact undotted last
  · intro c member
    rw [List.eq_of_mem_replicate member]
    rfl

theorem normalAnswer_dotted (domain : List Char) {answer : List Char} (plain : Plain answer)
    (read_or_named : (Address.read? answer).isSome = true ∨ Hostname.isName answer = true)
    (named : dots ≠ 0 → Hostname.isName answer = true) :
    normalAnswer domain (answer ++ List.replicate dots '.') = .ok answer := by
  have filled : answer ≠ [] := by
    rintro rfl
    rcases read_or_named with read | named <;> contradiction
  have full : ¬ (answer ++ List.replicate dots '.').isEmpty = true := by simp [filled]
  rw [normalAnswer,if_neg full,trimDots_append_replicate plain.undotted]
  split
  next read =>
    cases dots with
    | zero => simp
    | succ dots =>
      rw [List.replicate_succ',← List.append_assoc,Address.read?_concat_dot] at read
      contradiction
  next unread =>
    have named : Hostname.isName answer = true := by
      cases dots with
      | zero => exact read_or_named.resolve_left (by simpa using unread)
      | succ dots => exact named (Nat.succ_ne_zero dots)
    simp only [named,if_true]

private theorem Plain.lower {text : List Char} (plain : Plain text) : Unicode.lower text = text :=
  Unicode.lowerAfter_eq_self plain.settled

private theorem Plain.trim {text : List Char} (plain : Plain text) : Text.trim text = text :=
  trim_eq_self fun c member => (plain.solid c member).2

private theorem Formed.isNormal (formed : rewrite.Formed) : rewrite.Normal := by
  have answer : normalAnswer rewrite.domain.toList rewrite.answer.toList = .ok rewrite.answer.toList := by
    have undotted : (0 : Nat) ≠ 0 → Hostname.isName rewrite.answer.toList = true := by simp
    simpa using normalAnswer_dotted rewrite.domain.toList formed.answer formed.read_or_named undotted
  simp only [Normal,normalize,formed.domain.trim,trimDots_eq_self formed.domain.undotted,
    formed.domain.lower,formed.answer.trim,formed.answer.lower,formed.stem,if_true,answer]
  rw [Except.map,String.ofList_toList,String.ofList_toList]

/-- A normal form is its own normal form. -/
theorem normal_of_normalize (given : rewrite.normalize = .ok normal) : normal.Normal :=
  (formed_of_normalize given).isNormal

end Rewrite

end DnsPolicy
