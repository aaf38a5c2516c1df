import DnsPolicy.Rule.Pattern
import Mathlib.Data.List.Infix

/-! The walk from a host up to its parents and the comparison of endings are the same notion of
standing below a name. -/
namespace DnsPolicy.Hostname
open Text

theorem cut?_eq_none_iff {mark : Char} {text : List Char} :
    cut? mark text = none ↔ mark ∉ text := by
  induction text with
  | nil => simp [cut?]
  | cons c rest ih =>
    by_cases here : c = mark
    · simp [cut?,here]
    · simp [cut?,here,ih,Ne.symm here]

theorem cut?_eq_some {mark : Char} {text front back : List Char}
    (cut : cut? mark text = some (front,back)) : text = front ++ mark :: back ∧ mark ∉ front := by
  induction text generalizing front with
  | nil => simp [cut?] at cut
  | cons c rest ih =>
    by_cases here : c = mark
    · simp only [cut?,here,if_true,Option.some.injEq,Prod.mk.injEq] at cut
      obtain ⟨rfl,rfl⟩ := cut
      simp [here]
    · simp only [cut?,here,if_false,Option.map_eq_some_iff,Prod.mk.injEq] at cut
      obtain ⟨⟨before,after⟩,found,rfl,rfl⟩ := cut
      obtain ⟨joined,absent⟩ := ih found
      simp [joined,absent,Ne.symm here]

theorem cut?_append {mark : Char} {front back : List Char} (absent : mark ∉ front) :
    cut? mark (front ++ mark :: back) = some (front,back) := by
  induction front with
  | nil => simp [cut?]
  | cons c front ih =>
    rw [List.mem_cons,not_or] at absent
    rw [List.cons_append,cut?,if_neg (Ne.symm absent.1),ih absent.2]
    rfl

/-- An ending behind a dot begins at the first dot or behind it. -/
theorem dot_suffix_iff {name front parent : List Char} (dotless : '.' ∉ front) :
    ('.' :: name) <:+ front ++ '.' :: parent ↔ name = parent ∨ ('.' :: name) <:+ parent := by
  induction front with
  | nil => simp [List.suffix_cons_iff]
  | cons c front ih =>
    rw [List.mem_cons,not_or] at dotless
    rw [List.cons_append,List.suffix_cons_iff,ih dotless.2]
    simp [dotless.1]

/-- The walk up from a host meets the host itself and what follows each of its dots. -/
theorem mem_ancestry_iff {name host : List Char} :
    name ∈ ancestry host ↔ name = host ∨ ('.' :: name) <:+ host := by
  fun_induction ancestry host with
  | case1 host ih =>
    split
    next cut =>
      have dotless := cut?_eq_none_iff.mp cut
      have outside : ¬ ('.' :: name) <:+ host := fun suffix => dotless (suffix.subset (by simp))
      simp [outside]
    next front parent cut =>
      obtain ⟨joined,dotless⟩ := cut?_eq_some cut
      rw [List.mem_cons,ih front parent cut]
      conv_rhs => rw [joined,dot_suffix_iff dotless]
      simp [joined]

end DnsPolicy.Hostname

namespace DnsPolicy.Pattern

theorem covers_domain_iff {name host : String} :
    (domain name).covers host = true ↔ name.toList ∈ Hostname.ancestry host.toList := by
  simp only [covers,isBelow,Bool.or_eq_true,beq_iff_eq,List.isSuffixOf_iff_suffix]
  rw [Hostname.mem_ancestry_iff,eq_comm]

end DnsPolicy.Pattern
