import DnsPolicy.Proofs.Digits
import DnsPolicy.Proofs.PlainChars
import DnsPolicy.Yaml.Scalar
import DnsPolicy.Yaml.Token

/-! Words of the characters that names, addresses and numbers have, as scalars: written plain or in
quotes, they are read back as they are, and the scanner stops right behind them. -/
namespace DnsPolicy.Yaml
open DnsPolicy.Text

/-! ### Characters of words -/

def isWordChar (c : Char) : Bool := Hostname.isPatternChar c || c == ':'

def IsWord (text : List Char) : Prop := ∀ c ∈ text, isWordChar c = true

theorem isWord_of_all {text : List Char} (all : text.all isWordChar = true) : IsWord text :=
  List.all_eq_true.mp all

theorem isWordChar_of_isAddressChar {c : Char} (written : Address.IsAddressChar c) :
    isWordChar c = true := by
  by_cases colon : c = ':'
  · simp [isWordChar,colon]
  · simp [isWordChar,written.isPatternChar colon]

theorem printed_of_isWordChar {c : Char} (word : isWordChar c = true) :
    0x20 < c.toNat ∧ c.toNat < 0x7f := by
  rw [isWordChar,Bool.or_eq_true,beq_iff_eq] at word
  rcases word with named | rfl
  · exact Hostname.printed_of_isPatternChar named
  · decide

theorem ne_of_isWordChar {c d : Char} (word : isWordChar c = true) (mark : isWordChar d = false) :
    c ≠ d := by
  rintro rfl
  exact Bool.false_ne_true (mark.symm.trans word)

/-- No space, break, comment or mark of byte order. -/
def IsInner (c : Char) : Prop :=
  isSpace c = false ∧ isBreak c = false ∧ c ≠ '#' ∧ c ≠ '\ufeff'

theorem isInner_of_isWordChar {c : Char} (word : isWordChar c = true) : IsInner c := by
  have other {d : Char} (mark : isWordChar d = false) : (c == d) = false :=
    beq_false_of_ne (ne_of_isWordChar word mark)
  refine ⟨?_,?_,ne_of_isWordChar word (by decide),ne_of_isWordChar word (by decide)⟩
  · rw [isSpace,other (by decide),other (by decide)]
    rfl
  · rw [isBreak,other (by decide),other (by decide),other (by decide),other (by decide),other (by decide)]
    rfl

theorem isAllowed_of_isWordChar {c : Char} (word : isWordChar c = true) : isAllowed c = true := by
  have printed := printed_of_isWordChar word
  simp only [isAllowed,Bool.or_eq_true,Bool.and_eq_true,decide_eq_true_eq,beq_iff_eq]
  omega

private theorem isWordChar_of_isDigit {c : Char} (digit : c.isDigit = true) :
    isWordChar c = true := by
  simp [isWordChar,Hostname.isPatternChar,Hostname.isNameChar,Char.isAlphanum,digit]

theorem IsWord.tail {c : Char} {rest : List Char} (word : IsWord (c :: rest)) : IsWord rest :=
  fun d member => word d (List.mem_cons_of_mem c member)

theorem IsWord.startsBlank {text : List Char} (word : IsWord text) (some : text ≠ [])
    (stop : List Char) : startsBlank (text ++ stop) = false := by
  obtain ⟨c,rest,rfl⟩ := List.exists_cons_of_ne_nil some
  obtain ⟨space,break_,_⟩ := isInner_of_isWordChar (word c (by simp))
  simp [Yaml.startsBlank,space,break_]

/-- The text is at its end, or goes on with a token. -/
def StartsToken (text : List Char) : Prop := ∀ c ∈ text.head?, IsInner c

theorem startsToken_cons {c : Char} {rest : List Char} (inner : IsInner c) :
    StartsToken (c :: rest) := by
  intro d here
  obtain rfl := Option.some.inj here
  exact inner

/-! ### Passing over spaces and breaks -/

variable {c : Char} {text stop seen : List Char} {mark : Mark}

@[simp] theorem skip_zero (mark : Mark) : mark.skip 0 = mark := rfl

private theorem next_skip (mark : Mark) (count : Nat) :
    mark.next.skip count = mark.skip (count + 1) := by
  simp [Mark.next,Mark.skip,Nat.add_comm,Nat.add_left_comm]

theorem toNextToken_stop (starts : StartsToken stop) (allowed : Bool) :
    toNextToken false false allowed mark stop = (allowed,⟨mark,stop⟩) := by
  cases stop with
  | nil => rw [toNextToken]
  | cons c rest =>
    obtain ⟨space,line,comment,order⟩ := starts c rfl
    simp only [isSpace,Bool.or_eq_false_iff] at space
    rw [toNextToken]
    · simp [line,space,comment,order]
    · rintro rest rfl
      contradiction

theorem toNextToken_spaces (starts : StartsToken stop) (allowed : Bool) (count : Nat) :
    toNextToken false false allowed mark (List.replicate count ' ' ++ stop) =
      (allowed,⟨mark.skip count,stop⟩) := by
  induction count generalizing mark with
  | zero => exact toNextToken_stop starts allowed
  | succ count ih =>
    rw [List.replicate_succ,List.cons_append,toNextToken]
    · have next : toNextToken false false allowed mark.next (List.replicate count ' ' ++ stop) =
          (allowed,⟨mark.next.skip count,stop⟩) := ih
      exact next.trans (by rw [next_skip])
    · rintro rest space
      contradiction

theorem toNextToken_break (allowed : Bool) (rest : List Char) :
    toNextToken false false allowed mark ('\n' :: rest) = toNextToken false false true mark.nextLine rest := by
  rw [toNextToken]
  · simp [isBreak]
  · rintro rest line
    contradiction

/-! ### Plain scalars -/

private theorem plain?_char {indent : Int} {rest : List Char} (inner : IsInner c)
    (colon : c = ':' → startsBlank rest = false) :
    plain? false indent (.spaces []) seen mark (c :: rest) =
      plain? false indent (.spaces []) (c :: seen) mark.next rest := by
  have goes : continuesPlain false mark (.spaces []) indent (c :: rest) = true := by
    by_cases same : c = ':'
    · subst same
      simp [continuesPlain,Gap.isEmpty,colon rfl]
    · simp [continuesPlain,Gap.isEmpty]
  rw [plain?]
  · simp [inner.1,inner.2.1,goes,Gap.fold]
  · rintro more rfl
    exact absurd inner.2.1 (by decide)

/-- A word is read on to its end, unless a colon ends it. -/
theorem plain?_word {indent : Int} (word : IsWord text) (last : text.getLast? ≠ some ':') :
    plain? false indent (.spaces []) seen mark (text ++ stop) =
      plain? false indent (.spaces []) (text.reverse ++ seen) (mark.skip text.length) stop := by
  induction text generalizing seen mark with
  | nil => rfl
  | cons c rest ih =>
    have colon : c = ':' → startsBlank (rest ++ stop) = false := by
      rintro rfl
      apply word.tail.startsBlank
      rintro rfl
      exact last rfl
    have lastTail : rest.getLast? ≠ some ':' := by
      intro ends
      cases rest with
      | nil => contradiction
      | cons d more => exact last (by rw [List.getLast?_cons_cons,ends])
    rw [List.cons_append,plain?_char (isInner_of_isWordChar (word c (by simp))) colon,ih word.tail lastTail]
    simp [next_skip]

theorem plain?_colon {indent : Int} (blank : startsBlank stop = true) :
    plain? false indent (.spaces []) seen mark (':' :: stop) = some (seen.reverse,false,⟨mark,':' :: stop⟩) := by
  have ends : continuesPlain false mark (.spaces []) indent (':' :: stop) = false := by
    simp [continuesPlain,blank]
  rw [plain?]
  · simp [isSpace,isBreak,ends,Gap.isBreaks]
  · rintro more colon
    contradiction

/-- On a line that is not indented further no scalar goes on. -/
theorem plain?_spaces {indent : Int} {first : Option Char} {reversed : List Char} {count : Nat}
    (starts : StartsToken stop) (left : (mark.column : Int) + count < indent) :
    plain? false indent (.breaks first reversed) seen mark (List.replicate count ' ' ++ stop) =
      some (seen.reverse,true,⟨mark.skip count,stop⟩) := by
  induction count generalizing mark with
  | zero =>
    cases stop with
    | nil => simp [plain?,Gap.isBreaks]
    | cons c rest =>
      obtain ⟨space,line,_⟩ := starts c rfl
      have ends : continuesPlain false mark (.breaks first reversed) indent (c :: rest) = false := by
        have left : (mark.column : Int) < indent := by simpa using left
        simp [continuesPlain,Gap.isEmpty,left]
      rw [List.replicate_zero,List.nil_append,plain?]
      · simp [space,line,ends,Gap.isBreaks]
      · rintro more rfl
        contradiction
  | succ count ih =>
    have further : (mark.next.column : Int) + count < indent := by
      simp only [Mark.next,Nat.cast_add,Nat.cast_one] at left ⊢
      omega
    rw [List.replicate_succ,List.cons_append,plain?]
    · have next := ih further
      rw [next_skip] at next
      simpa [isSpace,Gap.addSpace] using next
    · rintro more space
      contradiction

theorem plain?_break {indent : Int} {count : Nat} (starts : StartsToken stop)
    (left : (count : Int) < indent) :
    plain? false indent (.spaces []) seen mark ('\n' :: (List.replicate count ' ' ++ stop)) =
      some (seen.reverse,true,⟨mark.nextLine.skip count,stop⟩) := by
  rw [plain?]
  · have spaces : plain? false indent (.breaks (some '\n') []) seen mark.nextLine
        (List.replicate count ' ' ++ stop) = some (seen.reverse,true,⟨mark.nextLine.skip count,stop⟩) :=
      plain?_spaces starts (by simpa [Mark.nextLine] using left)
    simpa [isSpace,isBreak,Gap.addBreak,keptBreak] using spaces
  · rintro more line
    contradiction

/-! ### Quoted scalars -/

/-- In front of a line break the quote is not one of two. -/
theorem singleQuoted?_word {rest : List Char} (word : IsWord text) (inside : mark.column ≠ 0) :
    singleQuoted? (.spaces []) seen mark (text ++ '\'' :: '\n' :: rest) =
      some (seen.reverse ++ text,⟨mark.skip (text.length + 1),'\n' :: rest⟩) := by
  induction text generalizing seen mark with
  | nil => simp [singleQuoted?,Gap.fold,Mark.next,Mark.skip]
  | cons c text ih =>
    have letter := word c (by simp)
    obtain ⟨space,line,_⟩ := isInner_of_isWordChar letter
    have within : isDocumentMark mark (c :: (text ++ '\'' :: '\n' :: rest)) = false := by
      simp [isDocumentMark,inside]
    have next : singleQuoted? (.spaces []) (c :: seen) mark.next (text ++ '\'' :: '\n' :: rest) =
        some ((c :: seen).reverse ++ text,⟨mark.next.skip (text.length + 1),'\n' :: rest⟩) :=
      ih word.tail (by simp [Mark.next])
    rw [next_skip] at next
    rw [List.cons_append,singleQuoted?]
    · simpa [within,space,line,Gap.fold] using next
    · exact fun more quote => absurd quote (ne_of_isWordChar letter (by decide))
    · exact fun quote => absurd quote (ne_of_isWordChar letter (by decide))
    · exact fun more return_ => absurd return_ (ne_of_isWordChar letter (by decide))

/-! ### Spellings -/

/-- A word that may stand without quotes. -/
structure PlainWord (text : List Char) : Prop where
  word : IsWord text
  last : text.getLast? ≠ some ':'
  first : ∃ c rest, text = c :: rest ∧ c ≠ '*' ∧ (c = '-' → rest ≠ [])

/-- How a scalar is written that the scanner gives this token for. -/
inductive Spelled : List Char → Token → Prop
  | plain {text : List Char} (stands : PlainWord text) : Spelled text (.scalar (String.ofList text) .plain)
  | quoted {text : List Char} (word : IsWord text) :
    Spelled ('\'' :: (text ++ ['\''])) (.scalar (String.ofList text) .quoted)

theorem Spelled.starts {written : List Char} {token : Token} (spelled : Spelled written token)
    (rest : List Char) : StartsToken (written ++ rest) := by
  cases spelled with
  | plain stands =>
    obtain ⟨word,_,c,more,rfl,_⟩ := stands
    exact startsToken_cons (isInner_of_isWordChar (word c (by simp)))
  | quoted => exact startsToken_cons (by unfold IsInner; decide)

private theorem getLast?_of_colons {blank : Char → Bool}
    (colons : standsPlain.colons blank text = true) : text.getLast? ≠ some ':' := by
  induction text with
  | nil => simp
  | cons c rest ih =>
    intro last
    cases rest with
    | nil =>
      obtain rfl : c = ':' := by simpa using last
      contradiction
    | cons d more =>
      rw [List.getLast?_cons_cons] at last
      refine ih ?_ last
      rw [standsPlain.colons.eq_def] at colons
      split at colons
      · contradiction
      next same =>
        obtain ⟨rfl,rfl⟩ := List.cons.inj same
        exact (Bool.and_eq_true_iff.mp colons).2
      next same =>
        obtain ⟨rfl,rfl⟩ := List.cons.inj same
        exact (Bool.and_eq_true_iff.mp colons).2

theorem plainWord_of_standsPlain (word : IsWord text) (stands : standsPlain text = true) :
    PlainWord text := by
  cases text with
  | nil => contradiction
  | cons c rest =>
    simp only [standsPlain,Bool.and_eq_true] at stands
    obtain ⟨⟨⟨⟨⟨first,hyphen⟩,_⟩,_⟩,_⟩,colons⟩ := stands
    refine ⟨word,getLast?_of_colons colons,c,rest,rfl,?_,?_⟩
    · rintro rfl
      contradiction
    · rintro rfl rfl
      contradiction

/-- Whether a text is written plain or in quotes. -/
def writtenStyle (text : List Char) : Style :=
  if readsAsText text && standsPlain text then .plain else .quoted

theorem spelled_writeText (word : IsWord text) :
    Spelled (writeText text) (.scalar (String.ofList text) (writtenStyle text)) := by
  rw [writeText,writtenStyle]
  split
  next stands => exact .plain (plainWord_of_standsPlain word (Bool.and_eq_true_iff.mp stands).2)
  next =>
    have same : text.flatMap (fun c => if c = '\'' then ['\'','\''] else [c]) = text := by
      have each : ∀ c ∈ text, (if c = '\'' then ['\'','\''] else [c]) = [c] := fun c member =>
        if_neg (ne_of_isWordChar (word c member) (by decide))
      rw [List.flatMap_congr each,List.flatMap_singleton']
    rw [same]
    exact .quoted word

/-! ### Numbers -/

private theorem plainWord_of_digits {digits : List Char} (some : digits ≠ [])
    (each : ∀ c ∈ digits, c.isDigit = true) : PlainWord digits := by
  have other {c : Char} (member : c ∈ digits) (mark : c.isDigit = false) : False :=
    Bool.false_ne_true (mark ▸ each c member)
  obtain ⟨c,rest,rfl⟩ := List.exists_cons_of_ne_nil some
  refine ⟨fun d member => isWordChar_of_isDigit (each d member),?_,c,rest,rfl,?_,?_⟩
  · exact fun last => other (List.mem_of_getLast? last) (by decide)
  · rintro rfl
    exact (other (List.mem_cons_self ..) (by decide)).elim
  · rintro rfl
    exact (other (List.mem_cons_self ..) (by decide)).elim

theorem plainWord_decimal (n : Nat) : PlainWord (decimal n) :=
  plainWord_of_digits decimal_ne_nil fun _ => isDigit_of_mem_decimal

/-- A number is written with a sign or a needless zero nowhere. -/
theorem decimal_head (n : Nat) : ∃ c rest, decimal n = c :: rest ∧ c ≠ '-' ∧ c ≠ '+' ∧
    (c = '0' → rest = []) := by
  obtain ⟨c,rest,written,digit⟩ := exists_decimal_cons n
  refine ⟨c,rest,written,?_,?_,?_⟩
  · rintro rfl
    contradiction
  · rintro rfl
    contradiction
  · rintro rfl
    have zero : n = 0 := head_decimal (by rw [written]; rfl)
    subst zero
    exact (List.cons.inj written).2.symm

private theorem natural?_decimal (n : Nat) : natural? (decimal n) = some n := by
  obtain ⟨c,rest,written,_,_,lone⟩ := decimal_head n
  have zero (d : Char) (more : List Char) : decimal n ≠ '0' :: d :: more := by
    intro same
    obtain ⟨rfl,same⟩ := List.cons.inj (written.symm.trans same)
    simp [lone rfl] at same
  rw [natural?,number?_decimal]
  · exact zero 'x'
  · exact zero 'o'
  · exact zero 'b'

private theorem integer?_decimal {n : Nat} (below : n < Nat.pow 2 128) :
    integer? (decimal n) = some (n : Int) := by
  obtain ⟨c,rest,written,minus,plus,lone⟩ := decimal_head n
  have negative (more : List Char) : decimal n ≠ '-' :: more := fun same =>
    minus (List.cons.inj (written.symm.trans same)).1
  have positive (more : List Char) : decimal n ≠ '+' :: more := fun same =>
    plus (List.cons.inj (written.symm.trans same)).1
  have unsigned : cutSign (decimal n) = decimal n := by
    rw [cutSign]
    · exact positive
    · exact negative
  have needed : hasLoneZero (decimal n) = false := by
    rw [hasLoneZero,unsigned]
    split
    next same =>
      obtain ⟨rfl,same⟩ := List.cons.inj (written.symm.trans same)
      simp [lone rfl] at same
    next => rfl
  rw [integer?,needed]
  · simp only [Bool.false_eq_true,if_false]
    rw [natural?_decimal,Option.bind_some,if_pos below]
  · exact negative
  · exact positive

theorem word?_decimal (n : UInt32) : word? (decimal n.toNat) = some n := by
  have read : integer? (decimal n.toNat) = some (n.toNat : Int) :=
    integer?_decimal (Nat.lt_trans n.toNat_lt (by decide))
  obtain ⟨c,rest,written,minus,_⟩ := decimal_head n.toNat
  have small : (n.toNat : Int) < 4294967296 := by exact_mod_cast n.toNat_lt
  have word : word? (decimal n.toNat) =
      if (n.toNat : Int) < 4294967296 then some (.ofNat (n.toNat : Int).toNat) else none := by
    rw [word?.eq_def,read]
    split
    next same => exact absurd (List.cons.inj (written.symm.trans same)).1 minus
    next unread _ => cases unread
    next found same _ =>
      obtain rfl := Option.some.inj same
      rfl
  rw [word,if_pos small,Int.toNat_natCast,UInt32.ofNat_toNat]

end DnsPolicy.Yaml
