import DnsPolicy.Address.Reader
import DnsPolicy.Proofs.Lowercasing
import DnsPolicy.Rule

/-! Texts that differ in the case of ASCII letters alone are cut at the same places, stand for the
same addresses and have one lower-case form. -/
namespace DnsPolicy
open Unicode

/-! ### Characters -/

private theorem toLower_of_beyond {c : Char} (beyond : 0x80 ≤ c.toNat) : c.toLower = c := by
  have small : ¬ (c.val ≥ 'A'.val ∧ c.val ≤ 'Z'.val) := by
    rintro ⟨_,high⟩
    have bound : c.toNat ≤ 'Z'.toNat := UInt32.le_iff_toNat_le.mp high
    exact absurd bound (by rw [Nat.not_le]; exact Nat.lt_of_lt_of_le (by decide) beyond)
  exact dif_neg small

/-- Only ASCII characters have to be gone through. -/
theorem toLower_induction {motive : Char → Char → Prop}
    (ascii : ∀ n < 0x80, motive (Char.ofNat n) (Char.ofNat n).toLower) (same : ∀ c, motive c c)
    (c : Char) : motive c c.toLower := by
  by_cases small : c.toNat < 0x80
  · exact ascii_induction (motive := fun c => motive c c.toLower) ascii small
  · rw [toLower_of_beyond (Nat.le_of_not_lt small)]
    exact same c

/-- What does not depend on the case of an ASCII letter. -/
structure Caseless (c d : Char) : Prop where
  isBlank : isBlank d = isBlank c
  isCased : isCased d = isCased c
  isCaseIgnorable : isCaseIgnorable d = isCaseIgnorable c
  lowerChar : lowerChar d = lowerChar c
  digitValue : Text.digitValue d = Text.digitValue c
  isPatternChar : Hostname.isPatternChar d = Hostname.isPatternChar c

instance (c d : Char) : Decidable (Caseless c d) :=
  decidable_of_iff (isBlank d = isBlank c ∧ isCased d = isCased c ∧ isCaseIgnorable d = isCaseIgnorable c ∧
      lowerChar d = lowerChar c ∧ Text.digitValue d = Text.digitValue c ∧
      Hostname.isPatternChar d = Hostname.isPatternChar c)
    ⟨fun ⟨blank,cased,ignorable,lower,digit,named⟩ => ⟨blank,cased,ignorable,lower,digit,named⟩,
      fun ⟨blank,cased,ignorable,lower,digit,named⟩ => ⟨blank,cased,ignorable,lower,digit,named⟩⟩

theorem caseless_toLower (c : Char) : Caseless c c.toLower :=
  toLower_induction (by decide +kernel) (fun _ => ⟨rfl,rfl,rfl,rfl,rfl,rfl⟩) c

private theorem isBlank_toLower (c : Char) : isBlank c.toLower = isBlank c :=
    (caseless_toLower c).isBlank

private theorem isCased_toLower (c : Char) : isCased c.toLower = isCased c :=
    (caseless_toLower c).isCased

private theorem isCaseIgnorable_toLower (c : Char) :
    isCaseIgnorable c.toLower = isCaseIgnorable c :=
  (caseless_toLower c).isCaseIgnorable

private theorem lowerChar_toLower (c : Char) : lowerChar c.toLower = lowerChar c :=
    (caseless_toLower c).lowerChar

private theorem digitValue_toLower (c : Char) : Text.digitValue c.toLower = Text.digitValue c :=
  (caseless_toLower c).digitValue

/-- A letter stays one, and everything else stays as it is. -/
theorem toLower_eq_iff {mark : Char} (plain : mark.isAlpha = false) (c : Char) :
    c.toLower = mark ↔ c = mark := by
  have either := toLower_induction
    (motive := fun c d => d = c ∨ d.isAlpha = true ∧ c.isAlpha = true) (by decide +kernel)
    (fun _ => Or.inl rfl) c
  rcases either with same | ⟨lowered,letter⟩
  · rw [same]
  · constructor
    · rintro rfl
      rw [plain] at lowered
      contradiction
    · rintro rfl
      rw [plain] at letter
      contradiction

theorem beq_toLower {mark : Char} (plain : mark.isAlpha = false) (c : Char) :
    (c.toLower == mark) = (c == mark) := by
  rw [Bool.eq_iff_iff,beq_iff_eq,beq_iff_eq]
  exact toLower_eq_iff plain c

namespace Text

/-- The text with its ASCII letters in lower case. -/
def asciiLower (text : List Char) : List Char := text.map Char.toLower

/-- The texts are the same but for the case of ASCII letters. -/
def SameLetters (text other : List Char) : Prop := asciiLower text = asciiLower other

instance (text other : List Char) : Decidable (SameLetters text other) :=
  inferInstanceAs (Decidable (asciiLower text = asciiLower other))

@[simp] theorem asciiLower_cons (c : Char) (rest : List Char) :
    asciiLower (c :: rest) = c.toLower :: asciiLower rest := rfl

private theorem asciiLower_eq_cons_iff {mark : Char} (plain : mark.isAlpha = false)
    {text more : List Char} :
    asciiLower text = mark :: more ↔ ∃ rest, text = mark :: rest ∧ asciiLower rest = more := by
  cases text with
  | nil => simp [asciiLower]
  | cons c rest =>
    rw [asciiLower_cons,List.cons.injEq,toLower_eq_iff plain]
    constructor
    · rintro ⟨rfl,later⟩
      exact ⟨rest,rfl,later⟩
    · rintro ⟨_,same,later⟩
      obtain ⟨rfl,rfl⟩ := List.cons.inj same
      exact ⟨rfl,later⟩

theorem starts_asciiLower_iff {mark : Char} (plain : mark.isAlpha = false) {text : List Char} :
    (∃ rest, asciiLower text = mark :: rest) ↔ ∃ rest, text = mark :: rest := by
  constructor
  · rintro ⟨rest,same⟩
    obtain ⟨rest,first,_⟩ := (asciiLower_eq_cons_iff plain).mp same
    exact ⟨rest,first⟩
  · rintro ⟨rest,same⟩
    exact ⟨_,(asciiLower_eq_cons_iff plain).mpr ⟨rest,same,rfl⟩⟩

theorem starts_two_asciiLower_iff {mark next : Char} (plain : mark.isAlpha = false)
    (also : next.isAlpha = false) {text : List Char} :
    (∃ rest, asciiLower text = mark :: next :: rest) ↔ ∃ rest, text = mark :: next :: rest := by
  constructor
  · rintro ⟨rest,same⟩
    obtain ⟨_,first,same⟩ := (asciiLower_eq_cons_iff plain).mp same
    obtain ⟨rest,second,_⟩ := (asciiLower_eq_cons_iff also).mp same
    exact ⟨rest,by rw [first,second]⟩
  · rintro ⟨rest,rfl⟩
    refine ⟨asciiLower rest,?_⟩
    rw [asciiLower_cons,asciiLower_cons,(toLower_eq_iff plain mark).mpr rfl,
      (toLower_eq_iff also next).mpr rfl]

@[simp] theorem length_asciiLower (text : List Char) : (asciiLower text).length = text.length :=
  List.length_map ..

/-! ### Cutting -/

@[simp] theorem isEmpty_asciiLower (text : List Char) :
    (asciiLower text).isEmpty = text.isEmpty := by
  cases text <;> rfl

private theorem dropWhile_asciiLower {p : Char → Bool} (caseless : ∀ c, p c.toLower = p c)
    (text : List Char) : (asciiLower text).dropWhile p = asciiLower (text.dropWhile p) := by
  have same : p ∘ Char.toLower = p := funext caseless
  rw [asciiLower,List.dropWhile_map,same]
  rfl

theorem trimEndWhile_asciiLower {p : Char → Bool} (caseless : ∀ c, p c.toLower = p c)
    (text : List Char) : trimEndWhile p (asciiLower text) = asciiLower (trimEndWhile p text) := by
  have turned : (asciiLower text).reverse = asciiLower text.reverse := List.map_reverse.symm
  rw [trimEndWhile,turned,dropWhile_asciiLower caseless]
  exact List.map_reverse.symm

@[simp] theorem trim_asciiLower (text : List Char) :
    trim (asciiLower text) = asciiLower (trim text) := by
  rw [trim,trimStart,dropWhile_asciiLower isBlank_toLower,trimEndWhile_asciiLower isBlank_toLower]
  rfl

@[simp] theorem trimDots_asciiLower (text : List Char) :
    trimDots (asciiLower text) = asciiLower (trimDots text) :=
  trimEndWhile_asciiLower (beq_toLower (by decide)) text

private theorem splitOnP_asciiLower {p : Char → Bool} (caseless : ∀ c, p c.toLower = p c)
    (text : List Char) : (asciiLower text).splitOnP p = (text.splitOnP p).map asciiLower := by
  induction text with
  | nil => rfl
  | cons c rest ih =>
    rw [asciiLower_cons,List.splitOnP_cons_eq_if_modifyHead,List.splitOnP_cons_eq_if_modifyHead,caseless,ih]
    split
    · rfl
    · cases List.splitOnP p rest <;> rfl

private theorem splitOn_asciiLower {mark : Char} (plain : mark.isAlpha = false) (text : List Char) :
    (asciiLower text).splitOn mark = (text.splitOn mark).map asciiLower :=
  splitOnP_asciiLower (beq_toLower plain) text

@[simp] theorem words_asciiLower (text : List Char) :
    words (asciiLower text) = (words text).map asciiLower := by
  have kept : (fun word : List Char => !word.isEmpty) ∘ asciiLower = fun word => !word.isEmpty := by
    ext word
    rw [Function.comp_apply,isEmpty_asciiLower]
  rw [words,splitOnP_asciiLower isBlank_toLower,List.filter_map,kept]
  rfl

theorem upTo_asciiLower {mark : Char} (plain : mark.isAlpha = false) (text : List Char) :
    upTo mark (asciiLower text) = asciiLower (upTo mark text) := by
  have same : (fun c => c != mark) ∘ Char.toLower = fun c => c != mark := by
    ext c
    simp only [Function.comp_apply,bne,beq_toLower plain]
  rw [upTo,asciiLower,List.takeWhile_map,same]
  rfl

theorem cut?_asciiLower {mark : Char} (plain : mark.isAlpha = false) (text : List Char) :
    cut? mark (asciiLower text) =
      (cut? mark text).map fun (front,back) => (asciiLower front,asciiLower back) := by
  induction text with
  | nil => rfl
  | cons c rest ih =>
    rw [asciiLower_cons,cut?,cut?,ih]
    by_cases here : c = mark
    · rw [if_pos here,if_pos ((toLower_eq_iff plain c).mpr here)]
      rfl
    · rw [if_neg here,if_neg (mt (toLower_eq_iff plain c).mp here)]
      cases cut? mark rest <;> rfl

private theorem isPrefixOf_asciiLower {part : List Char}
    (plain : ∀ mark ∈ part, mark.isAlpha = false)
    (text : List Char) : part.isPrefixOf (asciiLower text) = part.isPrefixOf text := by
  induction part generalizing text with
  | nil => cases text <;> rfl
  | cons mark part ih =>
    obtain ⟨here,later⟩ := List.forall_mem_cons.mp plain
    cases text with
    | nil => rfl
    | cons c rest =>
      have turned : (mark == c.toLower) = (mark == c) := by
        rw [BEq.comm,beq_toLower here,BEq.comm]
      rw [asciiLower_cons,List.isPrefixOf_cons_cons,List.isPrefixOf_cons_cons,turned,ih later]

theorem mentions_asciiLower {part : List Char} (plain : ∀ mark ∈ part, mark.isAlpha = false)
    (text : List Char) : mentions part (asciiLower text) = mentions part text := by
  induction text with
  | nil => rfl
  | cons c rest ih =>
    have start := isPrefixOf_asciiLower plain (c :: rest)
    rw [asciiLower_cons] at start ⊢
    rw [mentions,mentions,start,ih]

@[simp] theorem number?_asciiLower (base : Nat) (text : List Char) :
    number? base (asciiLower text) = number? base text := by
  have all : (asciiLower text).all (isDigitOf base) = text.all (isDigitOf base) := by
    have same : isDigitOf base ∘ Char.toLower = isDigitOf base := by
      ext c
      rw [Function.comp_apply,isDigitOf,isDigitOf,digitValue_toLower]
    rw [asciiLower,List.all_map,same]
  have value : ofDigits base (asciiLower text) = ofDigits base text := by
    rw [ofDigits,ofDigits,asciiLower,List.foldl_map]
    simp only [digitValue_toLower]
  rw [number?,number?,isEmpty_asciiLower,all,value]

end Text

/-! ### Lower case -/

namespace Unicode
open Text

@[simp] theorem casedNext_asciiLower (near : List Char) :
    casedNext (asciiLower near) = casedNext near := by
  rw [casedNext,casedNext,dropWhile_asciiLower isCaseIgnorable_toLower]
  cases near.dropWhile isCaseIgnorable with
  | nil => rfl
  | cons c rest => exact isCased_toLower c

private theorem lowerAfter_asciiLower (before text : List Char) :
    lowerAfter (asciiLower before) (asciiLower text) = lowerAfter before text := by
  induction text generalizing before with
  | nil => rfl
  | cons c rest ih =>
    have further : c.toLower :: asciiLower before = asciiLower (c :: before) := rfl
    have sigma : c.toLower = 'Σ' ↔ c = 'Σ' := toLower_eq_iff (by decide) c
    rw [asciiLower_cons,lowerAfter,lowerAfter,further,ih]
    simp only [sigma,casedNext_asciiLower,lowerChar_toLower]

@[simp] theorem lower_asciiLower (text : List Char) : lower (asciiLower text) = lower text :=
  lowerAfter_asciiLower [] text

theorem lower_of_ascii {text : List Char} (ascii : ∀ c ∈ text, c.toNat < 0x80) :
    lower text = asciiLower text := by
  rw [← lower_asciiLower]
  apply lowerAfter_eq_self
  intro c member
  obtain ⟨d,inside,rfl⟩ := List.mem_map.mp member
  exact settled_toLower (ascii d inside)

end Unicode

namespace Text.SameLetters

variable {text other : List Char}

theorem refl (text : List Char) : SameLetters text text := rfl

theorem lower (same : SameLetters text other) : Unicode.lower text = Unicode.lower other := by
  rw [← Unicode.lower_asciiLower text,same,Unicode.lower_asciiLower]

theorem trim (same : SameLetters text other) : SameLetters (trim text) (Text.trim other) := by
  rw [SameLetters,← trim_asciiLower,same,trim_asciiLower]

theorem trimDots (same : SameLetters text other) :
    SameLetters (trimDots text) (Text.trimDots other) := by
  rw [SameLetters,← trimDots_asciiLower,same,trimDots_asciiLower]

end Text.SameLetters

/-! ### Addresses -/

namespace Address
open Text

@[simp] theorem octet?_asciiLower (text : List Char) : octet? (asciiLower text) = octet? text := by
  have start : (asciiLower text).head? = some '0' ↔ text.head? = some '0' := by
    cases text with
    | nil => exact Iff.rfl
    | cons c rest =>
      simp only [asciiLower_cons,List.head?_cons,Option.some.injEq]
      exact toLower_eq_iff (by decide) c
  rw [octet?,octet?,number?_asciiLower]
  simp only [start,length_asciiLower]

@[simp] theorem dotted?_asciiLower (text : List Char) :
    dotted? (asciiLower text) = dotted? text := by
  rw [dotted?,dotted?,splitOn_asciiLower (by decide)]
  rcases text.splitOn '.' with _ | ⟨a,_ | ⟨b,_ | ⟨c,_ | ⟨d,_ | ⟨e,more⟩⟩⟩⟩⟩
  · rfl
  · rfl
  · rfl
  · rfl
  · simp only [List.map_cons,List.map_nil,octet?_asciiLower]
  · rfl

@[simp] theorem group?_asciiLower (text : List Char) : group? (asciiLower text) = group? text := by
  rw [group?,group?,number?_asciiLower,length_asciiLower]

private theorem groupsOf?_asciiLower (tail : Bool) (parts : List (List Char)) :
    groupsOf? tail (parts.map asciiLower) = groupsOf? tail parts := by
  induction parts with
  | nil => rfl
  | cons part rest ih =>
    cases rest with
    | nil => simp only [List.map_cons,List.map_nil,groupsOf?,group?_asciiLower,dotted?_asciiLower]
    | cons next more =>
      have split : groupsOf? tail (asciiLower part :: asciiLower next :: more.map asciiLower) =
          (do return (← group? (asciiLower part)) ::
            (← groupsOf? tail ((next :: more).map asciiLower))) := rfl
      rw [List.map_cons,List.map_cons,split,ih,group?_asciiLower]
      rfl

@[simp] theorem groups?_asciiLower (tail : Bool) (text : List Char) :
    groups? tail (asciiLower text) = groups? tail text := by
  rw [groups?,groups?,isEmpty_asciiLower,splitOn_asciiLower (by decide),groupsOf?_asciiLower]

@[simp] theorem cutDouble?_asciiLower (text : List Char) :
    cutDouble? (asciiLower text) =
      (cutDouble? text).map fun (front,back) => (asciiLower front,asciiLower back) := by
  induction text with
  | nil => rfl
  | cons c rest ih =>
    have single : ∀ (c : Char) (rest : List Char), ¬ (∃ more, c :: rest = ':' :: ':' :: more) →
        cutDouble? (c :: rest) = (cutDouble? rest).map fun (front,back) => (c :: front,back) := by
      intro c rest single
      rw [cutDouble?]
      exact fun more same first => single ⟨more,by rw [same,first]⟩
    by_cases double : ∃ more, c :: rest = ':' :: ':' :: more
    · obtain ⟨more,same⟩ := double
      rw [same]
      rfl
    · have still := mt (starts_two_asciiLower_iff (by decide) (by decide)).mp double
      rw [single _ _ double,asciiLower_cons,single c.toLower (asciiLower rest) still,ih]
      cases cutDouble? rest <;> rfl

@[simp] theorem sixteen?_asciiLower (text : List Char) :
    sixteen? (asciiLower text) = sixteen? text := by
  rw [sixteen?,sixteen?,cutDouble?_asciiLower]
  cases cutDouble? text with
  | none => rw [Option.map_none,groups?_asciiLower]
  | some halves => simp only [Option.map_some,groups?_asciiLower]

@[simp] theorem read?_asciiLower (text : List Char) : read? (asciiLower text) = read? text := by
  rw [read?,read?,dotted?_asciiLower,sixteen?_asciiLower]

end Address

end DnsPolicy
