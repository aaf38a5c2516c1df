import DnsPolicy.Address.Reader
import DnsPolicy.Hostname
import DnsPolicy.Proofs.Lowercasing
import DnsPolicy.Proofs.Trimming

/-! Names and addresses are written in ASCII without white space. No address has a dot at its end. -/
namespace DnsPolicy

/-- An ASCII character that is not trimmed. -/
def Unicode.Solid (c : Char) : Prop := c.toNat < 0x80 ∧ isBlank c = false

open Unicode (Solid)

private theorem Unicode.solid_of_printed {c : Char} (above : 0x20 < c.toNat)
    (below : c.toNat < 0x80) : Solid c := by
  refine ⟨below,?_⟩
  simp [isBlank,blankRanges,Ranges.contains,Ranges.has]
  omega

private theorem isAlphanum_iff {c : Char} : c.isAlphanum = true ↔
    ('A' ≤ c ∧ c ≤ 'Z' ∨ 'a' ≤ c ∧ c ≤ 'z') ∨ '0' ≤ c ∧ c ≤ '9' := by
  change ((decide (c.val ≥ 'A'.val ∧ c.val ≤ 'Z'.val) || (c.val ≥ 'a'.val && c.val ≤ 'z'.val)) ||
    (c.val ≥ '0'.val && c.val ≤ '9'.val)) = true ↔ _
  simp only [Bool.or_eq_true,Bool.and_eq_true,decide_eq_true_eq]
  exact Iff.rfl

theorem Hostname.printed_of_isPatternChar {c : Char} (named : isPatternChar c = true) :
    0x20 < c.toNat ∧ c.toNat < 0x7f := by
  have cases : (c.isAlphanum = true ∨ c = '.' ∨ c = '-' ∨ c = '_') ∨ c = '*' := by
    simpa [isPatternChar,isNameChar,or_assoc] using named
  rcases cases with (letter | rfl | rfl | rfl) | rfl
  · have between {first last : Char} (range : first ≤ c ∧ c ≤ last)
        (printed : 0x20 < first.toNat ∧ last.toNat < 0x7f) : 0x20 < c.toNat ∧ c.toNat < 0x7f :=
      ⟨Nat.lt_of_lt_of_le printed.1 (Char.le_def.mp range.1),
        Nat.lt_of_le_of_lt (Char.le_def.mp range.2) printed.2⟩
    rcases isAlphanum_iff.mp letter with (upper | lower) | digit
    · exact between upper (by decide)
    · exact between lower (by decide)
    · exact between digit (by decide)
  all_goals decide

theorem Hostname.solid_of_isPatternChar {c : Char} (named : isPatternChar c = true) : Solid c := by
  obtain ⟨above,below⟩ := printed_of_isPatternChar named
  exact Unicode.solid_of_printed above (by omega)

theorem Hostname.isName_iff {text : List Char} :
    isName text = true ↔ text ≠ [] ∧ ∀ c ∈ text, isNameChar c = true := by
  simp only [isName,Bool.and_eq_true,Bool.not_eq_true',List.isEmpty_eq_false_iff,List.all_eq_true]

theorem Hostname.isPattern_iff {text : List Char} :
    isPattern text = true ↔ text ≠ [] ∧ ∀ c ∈ text, isPatternChar c = true := by
  simp only [isPattern,Bool.and_eq_true,Bool.not_eq_true',List.isEmpty_eq_false_iff,List.all_eq_true]

theorem Hostname.isPatternChar_of_isName {text : List Char} (named : isName text = true) :
    ∀ c ∈ text, isPatternChar c = true := by
  intro c member
  simp [isPatternChar,(isName_iff.mp named).2 c member]

namespace Address
open Text

/-- A hexadecimal digit or a mark between the parts of an address. -/
def IsAddressChar (c : Char) : Prop := isDigitOf 16 c = true ∨ c = '.' ∨ c = ':'

private theorem isNameChar_of_isDigitOf {c : Char} (digit : isDigitOf 16 c = true) :
    Hostname.isNameChar c = true := by
  have alphanum : c.isAlphanum = true := by
    rw [isAlphanum_iff]
    have small : digitValue c < 16 := of_decide_eq_true digit
    rw [digitValue] at small
    split at small
    next range => exact .inr range
    next =>
      split at small
      next range => exact .inl (.inr range)
      next =>
        split at small
        next range => exact .inl (.inl range)
        next => contradiction
  simp [Hostname.isNameChar,alphanum]

theorem IsAddressChar.isPatternChar {c : Char} (written : IsAddressChar c) (other : c ≠ ':') :
    Hostname.isPatternChar c = true := by
  rw [Hostname.isPatternChar,Bool.or_eq_true]
  rcases written with digit | rfl | rfl
  · exact .inl (isNameChar_of_isDigitOf digit)
  · exact .inl (by decide)
  · contradiction

theorem IsAddressChar.solid {c : Char} (written : IsAddressChar c) : Solid c := by
  by_cases colon : c = ':'
  · subst colon
    exact ⟨by decide,by decide⟩
  · exact Hostname.solid_of_isPatternChar (written.isPatternChar colon)

private theorem isDigitOf_of_number? {base n : Nat} {text : List Char}
    (read : number? base text = some n) : ∀ c ∈ text, isDigitOf base c = true := by
  rw [number?] at read
  split at read
  next digits =>
    simp only [Bool.and_eq_true,List.all_eq_true] at digits
    exact digits.2
  next => contradiction

private theorem isDigitOf_of_octet? {text : List Char} {octet : UInt8}
    (read : octet? text = some octet) : ∀ c ∈ text, isDigitOf 10 c = true := by
  rw [octet?] at read
  split at read
  next => contradiction
  next n digits => exact isDigitOf_of_number? digits

private theorem forall_of_dotted? {P : Char → Prop} {text : List Char}
    {octets : UInt8 × UInt8 × UInt8 × UInt8}
    (dot : P '.') (digit : ∀ c, isDigitOf 10 c = true → P c) (read : dotted? text = some octets) :
    ∀ c ∈ text, P c := by
  refine forall_of_splitOn '.' dot ?_
  rw [dotted?] at read
  split at read
  next a b c d parts =>
    simp only [bind,Option.bind_eq_some_iff] at read
    obtain ⟨_,first,_,second,_,third,_,fourth,_⟩ := read
    rw [parts]
    intro part listed c member
    apply digit
    simp only [List.mem_cons,List.not_mem_nil,or_false] at listed
    rcases listed with rfl | rfl | rfl | rfl
    · exact isDigitOf_of_octet? first c member
    · exact isDigitOf_of_octet? second c member
    · exact isDigitOf_of_octet? third c member
    · exact isDigitOf_of_octet? fourth c member
  next => contradiction

private theorem isAddressChar_of_dotted? {text : List Char} {octets : UInt8 × UInt8 × UInt8 × UInt8}
    (read : dotted? text = some octets) : ∀ c ∈ text, IsAddressChar c := by
  refine forall_of_dotted? (Or.inr (Or.inl rfl)) ?_ read
  intro c digit
  simp only [isDigitOf,decide_eq_true_eq] at digit
  exact Or.inl (by simp only [isDigitOf,decide_eq_true_eq]; omega)

private theorem isAddressChar_of_group? {text : List Char} {group : UInt16}
    (read : group? text = some group) : ∀ c ∈ text, IsAddressChar c := by
  intro c member
  rw [group?] at read
  split at read
  next =>
    obtain ⟨n,digits,_⟩ := Option.map_eq_some_iff.mp read
    exact Or.inl (isDigitOf_of_number? digits c member)
  next => contradiction

private theorem isAddressChar_of_groupsOf? {tail : Bool} {parts : List (List Char)}
    {groups : List UInt16}
    (read : groupsOf? tail parts = some groups) : ∀ part ∈ parts, ∀ c ∈ part, IsAddressChar c := by
  induction parts generalizing groups with
  | nil => simp
  | cons part parts ih =>
    cases parts with
    | nil =>
      intro other listed
      rw [List.mem_singleton.mp listed]
      rw [groupsOf?] at read
      split at read
      next group last => exact isAddressChar_of_group? last
      next =>
        split at read
        next =>
          obtain ⟨octets,dotted,_⟩ := Option.map_eq_some_iff.mp read
          exact isAddressChar_of_dotted? dotted
        next => contradiction
    | cons next more =>
      simp only [groupsOf?,bind,Option.bind_eq_some_iff] at read
      obtain ⟨_,first,_,rest,_⟩ := read
      intro other listed
      rcases List.mem_cons.mp listed with rfl | later
      · exact isAddressChar_of_group? first
      · exact ih rest other later

private theorem isAddressChar_of_groups? {tail : Bool} {text : List Char} {groups : List UInt16}
    (read : groups? tail text = some groups) : ∀ c ∈ text, IsAddressChar c := by
  rw [groups?] at read
  split at read
  next empty =>
    rw [List.isEmpty_iff.mp empty]
    simp
  next =>
    exact forall_of_splitOn ':' (Or.inr (Or.inr rfl)) (isAddressChar_of_groupsOf? read)

private theorem cutDouble?_eq_some {text front back : List Char}
    (cut : cutDouble? text = some (front,back)) : text = front ++ ':' :: ':' :: back := by
  fun_induction cutDouble? text generalizing front with
  | case1 rest =>
    obtain ⟨rfl,rfl⟩ := Prod.mk.inj (Option.some.inj cut)
    rfl
  | case2 => contradiction
  | case3 c rest _ ih =>
    obtain ⟨⟨ahead,after⟩,found,same⟩ := Option.map_eq_some_iff.mp cut
    obtain ⟨rfl,rfl⟩ := Prod.mk.inj same
    rw [ih found]
    rfl

private theorem isAddressChar_of_sixteen? {text : List Char} {address : Address}
    (read : sixteen? text = some address) : ∀ c ∈ text, IsAddressChar c := by
  rw [sixteen?] at read
  split at read
  next =>
    obtain ⟨groups,given,_⟩ := Option.bind_eq_some_iff.mp read
    exact isAddressChar_of_groups? given
  next front back cut =>
    split at read
    next head tail ahead after =>
      intro c member
      rw [cutDouble?_eq_some cut,List.mem_append] at member
      rcases member with first | later
      · exact isAddressChar_of_groups? ahead c first
      · simp only [List.mem_cons] at later
        rcases later with rfl | rfl | last
        · exact Or.inr (Or.inr rfl)
        · exact Or.inr (Or.inr rfl)
        · exact isAddressChar_of_groups? after c last
    next => contradiction

/-- The text of an address has no other characters than digits, dots and colons. -/
theorem isAddressChar_of_read? {text : List Char} {address : Address}
    (read : read? text = some address) : ∀ c ∈ text, IsAddressChar c := by
  rw [read?] at read
  split at read
  next a b c d dotted => exact isAddressChar_of_dotted? dotted
  next => exact isAddressChar_of_sixteen? read

private theorem isV6_of_sixteen? {text : List Char} {address : Address}
    (read : sixteen? text = some address) : address.isV6 = true := by
  have grouped {groups : List UInt16} (made : ofGroups? groups = some address) : address.isV6 = true := by
    rw [ofGroups?] at made
    split at made
    · obtain rfl := Option.some.inj made
      rfl
    · contradiction
  rw [sixteen?] at read
  split at read
  next =>
    obtain ⟨groups,_,made⟩ := Option.bind_eq_some_iff.mp read
    exact grouped made
  next =>
    split at read
    next =>
      simp only at read
      split at read
      · exact grouped read
      · contradiction
    next => contradiction

/-- The text of an IPv4 address passes as a name. -/
theorem isName_of_read? {text : List Char} {address : Address} (read : read? text = some address)
    (four : address.isV4 = true) : Hostname.isName text = true := by
  have named (c : Char) (digit : isDigitOf 10 c = true) : Hostname.isNameChar c = true := by
    apply isNameChar_of_isDigitOf
    simp only [isDigitOf,decide_eq_true_eq] at digit ⊢
    omega
  rw [read?] at read
  split at read
  next a b c d dotted =>
    have filled : text ≠ [] := by
      rintro rfl
      simp [dotted?] at dotted
    exact Hostname.isName_iff.mpr ⟨filled,forall_of_dotted? (by decide) named dotted⟩
  next =>
    have six := isV6_of_sixteen? read
    simp [isV6,four] at six

/-! ### Dots behind an address -/

@[simp] theorem octet?_nil : octet? [] = none := rfl

private theorem dotted?_concat_dot (text : List Char) : dotted? (text ++ ['.']) = none := by
  have pieces : (text ++ ['.']).splitOn '.' = text.splitOn '.' ++ [[]] :=
    List.splitOn_append_cons_self text []
  rw [dotted?,pieces]
  split
  next a b c d four =>
    have last : d = [] := by
      have ends := congrArg List.getLast? four
      simpa [eq_comm] using ends
    rw [last,octet?_nil]
    cases octet? a <;> cases octet? b <;> cases octet? c <;> rfl
  next => rfl

private theorem group?_concat_dot (text : List Char) : group? (text ++ ['.']) = none := by
  have unread : number? 16 (text ++ ['.']) = none := by
    have spoilt : (text ++ ['.']).all (isDigitOf 16) = false := by
      simp [isDigitOf,digitValue]
    rw [number?,spoilt,Bool.and_false]
    rfl
  simp [group?,unread]

private theorem groupsOf?_concat_dot (tail : Bool) (parts : List (List Char)) (last : List Char) :
    groupsOf? tail (parts ++ [last ++ ['.']]) = none := by
  induction parts with
  | nil => simp [groupsOf?,group?_concat_dot,dotted?_concat_dot]
  | cons part parts ih =>
    rw [List.cons_append,groupsOf?,ih]
    · cases group? part <;> rfl
    · simp

private theorem groups?_concat_dot (tail : Bool) (text : List Char) :
    groups? tail (text ++ ['.']) = none := by
  obtain ⟨pieces,last,_,longer⟩ := splitOn_concat (by decide : '.' ≠ ':') text
  rw [groups?,longer,groupsOf?_concat_dot]
  simp

/-- No address has a dot at its end. -/
theorem read?_concat_dot (text : List Char) : read? (text ++ ['.']) = none := by
  have unread : sixteen? (text ++ ['.']) = none := by
    rw [sixteen?]
    split
    next => rw [groups?_concat_dot]; rfl
    next front back cut =>
      have ends := congrArg List.getLast? (cutDouble?_eq_some cut)
      rcases List.eq_nil_or_concat' back with rfl | ⟨more,c,rfl⟩
      · simp at ends
      · obtain rfl : c = '.' := by
          rw [← List.cons_append,← List.cons_append,← List.append_assoc] at ends
          simpa only [List.getLast?_concat,Option.some.injEq,eq_comm] using ends
        rw [groups?_concat_dot]
        split <;> simp_all
  rw [read?,dotted?_concat_dot]
  exact unread

theorem getLast?_of_read? {text : List Char} {address : Address}
    (read : read? text = some address) : text.getLast? ≠ some '.' := by
  intro dot
  obtain ⟨front,rfl⟩ := List.getLast?_eq_some_iff.mp dot
  simp [read?_concat_dot] at read

end Address

end DnsPolicy
