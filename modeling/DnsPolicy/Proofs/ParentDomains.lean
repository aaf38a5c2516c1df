import DnsPolicy.Proofs.Globs
import DnsPolicy.Proofs.Utf8Text

/-! The walk up from a host goes through the host and what follows each of its dots, once each, and a
pattern for a domain covers the hosts whose walk meets its name. -/
namespace DnsPolicy

/-! ### The walk -/

namespace Hostname
open Text

variable {host : List Char}

/-- The domain right above a host. -/
def parent? (host : List Char) : Option (List Char) := (cut? '.' host).map Prod.snd

/-- Where the walk up is after a number of steps, unless it has ended before. -/
def climb (host : List Char) : Nat → Option (List Char)
  | 0 => some host
  | steps + 1 => (climb host steps).bind parent?

private theorem climb_succ (host : List Char) (steps : Nat) :
    climb host (steps + 1) = (parent? host).bind (climb · steps) := by
  induction steps with
  | zero => simp [climb]
  | succ steps ih =>
    rw [climb,ih,Option.bind_assoc]
    rfl

/-- The list of all domains is the walk from its beginning to its end. -/
theorem getElem?_ancestry (host : List Char) (steps : Nat) :
    (ancestry host)[steps]? = climb host steps := by
  fun_induction ancestry host generalizing steps with
  | case1 host ih =>
    cases steps with
    | zero => rfl
    | succ steps =>
      rw [List.getElem?_cons_succ,climb_succ,parent?]
      split
      next cut => simp [cut]
      next front parent cut => simp [cut,ih front parent cut]

private theorem idxsOf_dotless {front : List Char} (dotless : '.' ∉ front) :
    front.idxsOf '.' = [] := by
  rw [← List.length_eq_zero_iff,List.length_idxsOf,List.count_eq_zero.mpr dotless]

private theorem idxsOf_first_dot {front parent : List Char} (dotless : '.' ∉ front) :
    (front ++ '.' :: parent).idxsOf '.' =
      front.length :: (parent.idxsOf '.').map (front.length + 1 + ·) := by
  rw [List.idxsOf_append,idxsOf_dotless dotless,List.idxsOf_cons,List.idxsOf_start]
  simp [Nat.add_comm]

private theorem drop_first_dot (front parent : List Char) (more : Nat) :
    (front ++ '.' :: parent).drop (front.length + 1 + more) = parent.drop more := by
  rw [← List.drop_drop,List.drop_length_add_append]
  rfl

/-- The walk goes from dot to dot. -/
theorem ancestry_eq (host : List Char) :
    ancestry host = host :: (host.idxsOf '.').map fun dot => host.drop (dot + 1) := by
  fun_induction ancestry host with
  | case1 host ih =>
    congr 1
    split
    next cut =>
      rw [idxsOf_dotless (cut?_eq_none_iff.mp cut)]
      rfl
    next front parent cut =>
      obtain ⟨rfl,dotless⟩ := cut?_eq_some cut
      have nearest : (front ++ '.' :: parent).drop (front.length + 1) = parent :=
        drop_first_dot front parent 0
      rw [ih front parent cut,idxsOf_first_dot dotless,List.map_cons,nearest,List.map_map]
      exact congrArg _ (List.map_congr_left fun dot _ => (drop_first_dot front parent (dot + 1)).symm)

/-- Each step up makes the name shorter, so the walk meets no name twice. -/
theorem nodup_ancestry (host : List Char) : (ancestry host).Nodup := by
  fun_induction ancestry host with
  | case1 host ih =>
    split
    next => simp
    next front parent cut =>
      refine List.nodup_cons.mpr ⟨fun again => ?_,ih front parent cut⟩
      have shorter := length_of_cut cut
      rcases mem_ancestry_iff.mp again with rfl | suffix
      · exact lt_irrefl _ shorter
      · have longer := suffix.length_le
        simp only [List.length_cons] at longer
        omega

/-- The walk ends: a step is taken for each dot and then no more. -/
theorem climb_eq_none_iff {steps : Nat} : climb host steps = none ↔ host.count '.' < steps := by
  rw [← getElem?_ancestry,List.getElem?_eq_none_iff,ancestry_eq,List.length_cons,List.length_map,
    List.length_idxsOf,Nat.succ_le_iff]

end Hostname

/-! ### Endings as bytes -/

namespace Text

/-- What stands behind a front that ends in `mark`. -/
theorem cons_suffix_iff {α : Type} {mark : α} {back text : List α} :
    (mark :: back) <:+ text ↔
      back.length < text.length ∧ back <:+ text ∧ text[text.length - back.length - 1]? = some mark := by
  constructor
  · rintro ⟨front,rfl⟩
    have size : (front ++ mark :: back).length = front.length + back.length + 1 := by
      rw [List.length_append,List.length_cons,Nat.add_assoc]
    refine ⟨by omega,⟨front ++ [mark],by simp⟩,?_⟩
    have place : (front ++ mark :: back).length - back.length - 1 = front.length := by omega
    rw [place,List.getElem?_append_right (Nat.le_refl _)]
    simp
  · rintro ⟨longer,⟨front,rfl⟩,marked⟩
    have place : (front ++ back).length - back.length - 1 = front.length - 1 := by simp
    have filled : front.length - 1 < front.length := by
      rw [List.length_append] at longer
      omega
    rw [place,List.getElem?_append_left filled,← List.getLast?_eq_getElem?] at marked
    obtain ⟨before,rfl⟩ := List.getLast?_eq_some_iff.mp marked
    exact ⟨before,by simp⟩

end Text

namespace Pattern

/-- The bytes of `host` are those of `name`, or they are more, end in those of `name` and have a dot
in front of them. -/
def isBelowInBytes (name host : List UInt8) : Bool :=
  host == name ||
    (decide (name.length < host.length) && name.isSuffixOf host &&
      host[host.length - name.length - 1]? == some '.'.toUInt8)

private theorem isBelow_eq_isBelowInBytes (name host : List Char) :
    isBelow name host =
      isBelowInBytes (name.flatMap String.utf8EncodeChar) (host.flatMap String.utf8EncodeChar) := by
  have dotted : ('.' :: name).flatMap String.utf8EncodeChar =
      '.'.toUInt8 :: name.flatMap String.utf8EncodeChar := rfl
  rw [Bool.eq_iff_iff]
  simp only [isBelow,isBelowInBytes,Bool.or_eq_true,Bool.and_eq_true,beq_iff_eq,decide_eq_true_eq,
    List.isSuffixOf_iff_suffix,Text.encode_inj,and_assoc]
  rw [← Text.cons_suffix_iff,← dotted,Text.encode_suffix_iff]

/-- A name that a pattern is read for has a character and does not begin with a dot. -/
theorem named_of_parse_domain {text : List Char} {name : String}
    (parsed : parse text = .ok (.domain name)) : name ≠ "" ∧ name.toList.head? ≠ some '.' := by
  rcases parse_eq_ok_iff.mp parsed with ⟨_,_,_,_,searched⟩ | ⟨_,letters,_,named,undotted,made⟩
  · contradiction
  · rw [ofName] at made
    split at made
    next =>
      obtain ⟨_,_,searched⟩ := compile_eq_ok_iff.mp made
      contradiction
    next =>
      split at made
      · exact Pattern.noConfusion (Except.ok.inj made)
      · rw [← domain.inj (Except.ok.inj made),Ne,← String.toList_inj,String.toList_ofList]
        exact ⟨(Hostname.isPattern_iff.mp named).1,undotted⟩

/-- The walk up from a host ends, meets the host and the rest behind each of its dots once each, and
meets a name, whatever the name, just when a pattern for the domain of that name covers the host. -/
theorem covers_iff_walked (host : String) :
    (∀ steps, (Hostname.ancestry host.toList)[steps]? = Hostname.climb host.toList steps) ∧
      (∀ steps, Hostname.climb host.toList steps = none ↔ host.toList.count '.' < steps) ∧
      Hostname.ancestry host.toList =
        host.toList :: (host.toList.idxsOf '.').map (fun dot => host.toList.drop (dot + 1)) ∧
      (Hostname.ancestry host.toList).Nodup ∧
      (∀ name : String,
        ((domain name).covers host = true ↔ name.toList ∈ Hostname.ancestry host.toList) ∧
          (domain name).covers host =
            isBelowInBytes name.toUTF8.data.toList host.toUTF8.data.toList) ∧
      ∀ text name, parse text = .ok (.domain name) → name ≠ "" ∧ name.toList.head? ≠ some '.' := by
  refine ⟨Hostname.getElem?_ancestry host.toList,fun steps => Hostname.climb_eq_none_iff,
    Hostname.ancestry_eq host.toList,Hostname.nodup_ancestry host.toList,fun name => ?_,
    fun text name => named_of_parse_domain⟩
  refine ⟨covers_domain_iff,?_⟩
  rw [Text.toUTF8_eq,Text.toUTF8_eq,← isBelow_eq_isBelowInBytes]
  rfl

/-- A host with two dots in a row and one at its end, and a pattern in capitals. -/
theorem covers_iff_walked_dots :
    Hostname.ancestry "é..b.".toList = ["é..b.",".b.","b.",""].map String.toList ∧
      (domain "b.").covers "é..b." = true ∧ (domain ".").covers "é..b." = false ∧
      ∃ name, parse "||B.C^".toList = .ok (.domain name) ∧
        name ≠ "" ∧ name.toList.head? ≠ some '.' := by
  obtain ⟨_,_,walk,_,met,named⟩ := covers_iff_walked "é..b."
  have walked : Hostname.ancestry "é..b.".toList = ["é..b.",".b.","b.",""].map String.toList := by
    rw [walk]
    decide
  have read : parse "||B.C^".toList = .ok (.domain "b.c") := rfl
  refine ⟨walked,(met "b.").1.mpr ?_,?_,"b.c",read,named _ _ read⟩
  · rw [walked]
    decide
  · rw [Bool.eq_false_iff,Ne,(met ".").1,walked]
    decide

end Pattern

end DnsPolicy
