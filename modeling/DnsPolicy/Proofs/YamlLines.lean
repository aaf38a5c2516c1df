import DnsPolicy.Proofs.YamlWords

/-! The tokens of lines in a block: a key and a value on one line, an entry of a sequence, and the end of
a block where the next line starts further to the left. -/
namespace DnsPolicy.Yaml
open DnsPolicy.Text

namespace Scanner

/-- From here the scanner comes to the end of the text, and then has these tokens. -/
def Scans (s : Scanner) (tokens : List Token) : Prop :=
  ∀ fuel, s.cursor.rest.length + 2 ≤ fuel → run? fuel s = some tokens

variable {s t u v : Scanner} {tokens seen : List Token}

/-- What the scanner passes over on its way to the next token does not count. -/
theorem run?_congr (same : s.approach? = t.approach?) (fuel : Nat) : run? fuel s = run? fuel t := by
  cases fuel with
  | zero => rfl
  | succ fuel => rw [run?,run?,same]

private theorem Scans.step (near : s.approach? = some t) (more : t.cursor.rest ≠ [])
    (read : t.token? = some u)
    (same : u.approach? = v.approach?) (shorter : v.cursor.rest.length < s.cursor.rest.length)
    (scans : v.Scans tokens) : s.Scans tokens := by
  intro fuel enough
  obtain ⟨fuel,rfl⟩ : ∃ less, fuel = less + 1 := ⟨fuel - 1,by omega⟩
  have unfinished : t.cursor.rest.isEmpty = false := by simpa using more
  rw [run?,near]
  simp only [Option.bind_eq_bind,Option.bind_some,unfinished,Bool.false_eq_true,if_false,read]
  rw [run?_congr same]
  exact scans fuel (by omega)

theorem Scans.congr (same : s.approach? = t.approach?)
    (shorter : t.cursor.rest.length ≤ s.cursor.rest.length)
    (scans : t.Scans tokens) : s.Scans tokens := by
  intro fuel enough
  rw [run?_congr same]
  exact scans fuel (by omega)

/-! ### Going to the next token -/

@[simp] theorem unrollTo_eq_self {column : Int} (inside : s.indent ≤ column) :
    s.unrollTo column = s := by
  rw [unrollTo]
  cases s.outer <;> simp [unroll,inside]

private theorem approach?_eq (levels : s.levels = []) {allowed : Bool} {cursor : Cursor}
    (near : toNextToken false false s.keyAllowed s.cursor.mark s.cursor.rest = (allowed,cursor))
    (fresh : staleKey? cursor.mark s.possible = some s.possible) :
    s.approach? = some ({ s with keyAllowed := allowed, cursor }.unrollTo cursor.mark.column) := by
  simp [approach?,inFlow,levels,near,dropStale?,fresh]

/-- The scanner in front of a text where a key may stand. -/
def line (mark : Mark) (text : List Char) (seen : List Token) (indent : Int) (outer : List Int) : Scanner :=
  { cursor := ⟨mark,text⟩, tokens := seen, count := seen.length, indent, outer }

/-- The scanner in front of a text where no key may stand. -/
def within (mark : Mark) (text : List Char) (seen : List Token) (indent : Int) (outer : List Int) : Scanner :=
  { line mark text seen indent outer with keyAllowed := false }

variable {mark : Mark} {text name stop next : List Char} {indent : Int} {outer : List Int}

private theorem approach?_line (starts : StartsToken text) (count : Nat) :
    (line mark (List.replicate count ' ' ++ text) seen indent outer).approach? =
      some ((line (mark.skip count) text seen indent outer).unrollTo (mark.skip count).column) :=
  approach?_eq rfl (toNextToken_spaces starts true count) rfl

private theorem approach?_line_of_le (starts : StartsToken text) (inside : indent ≤ mark.column) :
    (line mark text seen indent outer).approach? = some (line mark text seen indent outer) := by
  have near : (line mark text seen indent outer).approach? =
      some ((line (mark.skip 0) text seen indent outer).unrollTo (mark.skip 0).column) :=
    approach?_line starts 0
  rw [skip_zero,unrollTo_eq_self] at near
  · exact near
  · exact inside

/-- A line break brings the scanner to a place where a key may stand. -/
theorem approach?_break (allowed : Bool) (rest : List Char) :
    ({ line mark ('\n' :: rest) seen indent outer with keyAllowed := allowed } : Scanner).approach? =
      (line mark.nextLine rest seen indent outer).approach? := by
  cases near : toNextToken false false true mark.nextLine rest with
  | mk next cursor =>
    rw [approach?_eq rfl ((toNextToken_break allowed rest).trans near) rfl,approach?_eq rfl near rfl]
    rfl

/-! ### Tokens that start a word -/

/-- A word may start a plain scalar, unless its first character is all of it and says something else. -/
def StartsPlain (c : Char) (rest : List Char) : Prop :=
  isWordChar c = true ∧ c ≠ '*' ∧ (c = '-' ∨ c = ':' → startsBlank rest = false)

private theorem startsPlain_of {c : Char} {rest : List Char} (starts : StartsPlain c rest) :
    startsPlain false (c :: rest) = true := by
  obtain ⟨word,alias_,goes⟩ := starts
  by_cases hyphen : c = '-'
  · have further := goes (.inl hyphen)
    cases rest with
    | nil => contradiction
    | cons d more =>
      simp only [startsBlank,Bool.or_eq_false_iff] at further
      simp [startsPlain,hyphen,further.1]
  · by_cases colon : c = ':'
    · simp [startsPlain,colon,goes (.inr colon)]
    · have plain : isWordChar c = true → c ≠ '*' → c ≠ '-' → c ≠ ':' → isIndicator c = false :=
        Unicode.ascii_induction (motive := fun c => isWordChar c = true → c ≠ '*' → c ≠ '-' → c ≠ ':' →
          isIndicator c = false) (by decide +kernel) (Nat.lt_succ_of_lt (printed_of_isWordChar word).2)
      simp [startsPlain,plain word alias_ hyphen colon,(isInner_of_isWordChar word).1]

private theorem token?_plain {c : Char} {rest : List Char} (levels : s.levels = [])
    (here : s.cursor.rest = c :: rest)
    (starts : StartsPlain c rest) (undivided : isDocumentMark s.cursor.mark (c :: rest) = false) :
    s.token? = s.plainScalar? := by
  have flow : s.inFlow = false := by simp [inFlow,levels]
  have plain := startsPlain_of starts
  obtain ⟨word,alias_,goes⟩ := starts
  have unmarked {d : Char} (mark : isWordChar d = false) : (c == d) = false :=
    beq_eq_false_iff_ne.mpr (ne_of_isWordChar word mark)
  have hyphen : (c == '-' && startsBlank rest) = false := by
    by_cases same : c = '-'
    · rw [goes (.inl same),Bool.and_false]
    · simp [same]
  have colon : (c == ':' && startsBlank rest) = false := by
    by_cases same : c = ':'
    · rw [goes (.inr same),Bool.and_false]
    · simp [same]
  rw [token?,here]
  simp only [undivided,List.head?_cons,Option.some_beq_some,unmarked (d := '%') (by decide),Bool.and_false,
    Bool.false_eq_true,if_false]
  split
  all_goals try
    rename_i same
    obtain ⟨rfl,_⟩ := List.cons.inj same
    contradiction
  simp only [List.headD_cons,List.drop_one,List.tail_cons,flow,Bool.false_or,Bool.not_false,Bool.and_true,
    hyphen,colon,plain,unmarked (d := '?') (by decide),unmarked (d := '|') (by decide),
    unmarked (d := '>') (by decide),Bool.false_and,Bool.false_eq_true,if_false,if_true]

private theorem isDocumentMark_inside (inside : mark.column ≠ 0) (text : List Char) :
    isDocumentMark mark text = false := by
  simp [isDocumentMark,inside]

/-! ### Keys -/

/-- The name of a field: letters and underscores, and not too many to be a key. -/
def IsFieldName (name : List Char) : Prop :=
  name ≠ [] ∧ name.length ≤ 1024 ∧ name.all (fun c => c.isAlpha || c == '_') = true

instance (name : List Char) : Decidable (IsFieldName name) := by
  unfold IsFieldName
  infer_instance

private theorem IsFieldName.letters (named : IsFieldName name) :
    ∀ c ∈ name, (c.isAlpha || c == '_') = true :=
  List.all_eq_true.mp named.2.2

theorem word_of_isFieldName (named : IsFieldName name) : IsWord name := by
  intro c member
  have letter := named.letters c member
  simp only [isWordChar,Hostname.isPatternChar,Hostname.isNameChar,Char.isAlphanum,Bool.or_eq_true,
    beq_iff_eq] at letter ⊢
  tauto

private theorem exists_cons_of_isFieldName (named : IsFieldName name) (stop : List Char) :
    ∃ c rest, name ++ stop = c :: rest ∧ StartsPlain c rest ∧ ∀ mark, isDocumentMark mark (c :: rest) = false := by
  obtain ⟨c,rest,rfl⟩ := List.exists_cons_of_ne_nil named.1
  have letter := named.letters c (by simp)
  have other {d : Char} (mark : (d.isAlpha || d == '_') = false) : c ≠ d := by
    rintro rfl
    exact Bool.false_ne_true (mark.symm.trans letter)
  refine ⟨c,rest ++ stop,rfl,⟨word_of_isFieldName named c (by simp),other (by decide),?_⟩,fun mark => ?_⟩
  · rintro (same | same)
    · exact absurd same (other (by decide))
    · exact absurd same (other (by decide))
  · rw [isDocumentMark]
    · rw [Bool.and_false]
    · exact fun rest same => absurd (List.cons.inj same).1 (other (by decide))
    · exact fun rest same => absurd (List.cons.inj same).1 (other (by decide))

theorem startsToken_of_isFieldName (named : IsFieldName name) (stop : List Char) :
    StartsToken (name ++ stop) := by
  obtain ⟨c,rest,text,starts,_⟩ := exists_cons_of_isFieldName named stop
  rw [text]
  exact startsToken_cons (isInner_of_isWordChar starts.1)

/-- A key in `column` stays in the block that is open there, or opens one. -/
inductive Enters (column : Nat) (seen : List Token) :
    (indent : Int) → (outer : List Int) → (opened : List Token) → (around : List Int) → Prop
  | stays {outer : List Int} : Enters column seen column outer seen outer
  | opens {indent : Int} {outer : List Int} (right : indent < column) :
    Enters column seen indent outer (.blockMappingStart :: seen) (indent :: outer)

private theorem Enters.le {column : Nat} {opened : List Token} {around : List Int}
    (enters : Enters column seen indent outer opened around) : indent ≤ column := by
  cases enters with
  | stays => exact Int.le_refl _
  | opens right => exact Int.le_of_lt right

/-- The scanner behind a word that may turn out to be a key. -/
def behindWord (mark : Mark) (text : List Char) (seen : List Token) (indent : Int) (outer : List Int)
    (key : PossibleKey) : Scanner :=
  { within mark text seen indent outer with possible := some key }

private theorem plainScalar?_key (word : IsWord name) (last : name.getLast? ≠ some ':')
    (blank : startsBlank stop = true) :
    (line mark (name ++ ':' :: stop) seen indent outer).plainScalar? =
      some (behindWord (mark.skip name.length) (':' :: stop) (.scalar (String.ofList name) .plain :: seen)
        indent outer ⟨indent == mark.column,seen.length,mark⟩) := by
  have read : plain? false (indent + 1) (.spaces []) [] mark (name ++ ':' :: stop) =
      some (name,false,⟨mark.skip name.length,':' :: stop⟩) := by
    rw [plain?_word word last,plain?_colon blank]
    simp
  simp [plainScalar?,saveKey?,dropKey?,line,inFlow,read,emit,behindWord,within]

private theorem token?_colon (levels : s.levels = []) (here : s.cursor.rest = ':' :: stop)
    (blank : startsBlank stop = true) : s.token? = s.value? := by
  have flow : s.inFlow = false := by simp [inFlow,levels]
  simp [token?,here,isDocumentMark,flow,blank]

private theorem value?_key {key : PossibleKey} {token : Token} {opened : List Token}
    {around : List Int}
    (place : key.position = seen.length) (enters : Enters key.mark.column seen indent outer opened around) :
    (behindWord mark (':' :: stop) (token :: seen) indent outer key).value? =
      some (within (mark.skip 1) stop (.value :: token :: .key :: opened) key.mark.column around) := by
  cases enters with
  | stays => simp [value?,behindWord,within,line,emitAt,emit,roll,advance,inFlow,place]
  | opens right =>
    have outside : ¬ ((key.mark.column : Int) ≤ indent) := Int.not_le.mpr right
    have behind : seen.length + 1 + 1 - seen.length = 2 := by omega
    simp [value?,behindWord,within,line,emitAt,emit,roll,advance,inFlow,place,outside,behind]

private theorem approach?_behindWord {required : Bool} {position count : Nat} (short : count ≤ 1024)
    (inside : indent ≤ mark.column) :
    (behindWord (mark.skip count) (':' :: stop) seen indent outer ⟨required,position,mark⟩).approach? =
      some (behindWord (mark.skip count) (':' :: stop) seen indent outer ⟨required,position,mark⟩) := by
  have colon : StartsToken (':' :: stop) := startsToken_cons (isInner_of_isWordChar (by decide))
  have fresh : isStale (mark.skip count) ⟨required,position,mark⟩ = false := by
    simp [isStale,Mark.skip,short]
  rw [approach?_eq rfl (toNextToken_stop colon false) (by simp [behindWord,within,line,staleKey?,fresh])]
  refine congrArg some (unrollTo_eq_self ?_)
  change indent ≤ ((mark.column + count : Nat) : Int)
  omega

theorem scans_key {opened : List Token} {around : List Int} (named : IsFieldName name)
    (blank : startsBlank stop = true) (enters : Enters mark.column seen indent outer opened around)
    (scans : (within (mark.skip (name.length + 1)) stop
      (.value :: .scalar (String.ofList name) .plain :: .key :: opened) mark.column around).Scans tokens) :
    (line mark (name ++ ':' :: stop) seen indent outer).Scans tokens := by
  have word := word_of_isFieldName named
  have last : name.getLast? ≠ some ':' := by
    intro last
    have colon := named.letters ':' (List.mem_of_getLast? last)
    contradiction
  obtain ⟨c,rest,text,starts,undivided⟩ := exists_cons_of_isFieldName named (':' :: stop)
  have head := startsToken_of_isFieldName named (':' :: stop)
  have length : 0 < name.length := List.length_pos_of_ne_nil named.1
  refine Scans.step (approach?_line_of_le head enters.le) (by simp [line])
    ((token?_plain rfl text starts (undivided mark)).trans (plainScalar?_key word last blank)) rfl
    (by simpa [line,behindWord,within] using length) ?_
  refine Scans.step (approach?_behindWord named.2.1 enters.le) (by simp [behindWord,within,line])
    ((token?_colon rfl rfl blank).trans (value?_key rfl enters)) rfl
    (by simp [line,behindWord,within]) ?_
  exact scans

/-! ### Values -/

private theorem token?_quote (here : s.cursor.rest = '\'' :: stop) :
    s.token? = s.quoted? (singleQuoted? (.spaces []) []) := by
  simp [token?,here,isDocumentMark]

private theorem plainScalar?_value {count : Nat} (word : IsWord text)
    (last : text.getLast? ≠ some ':') (left : (count : Int) ≤ indent) (starts : StartsToken stop) :
    (within mark (text ++ '\n' :: (List.replicate count ' ' ++ stop)) seen indent outer).plainScalar? =
      some (line ((mark.skip text.length).nextLine.skip count) stop
        (.scalar (String.ofList text) .plain :: seen) indent outer) := by
  have read : plain? false (indent + 1) (.spaces []) [] mark
      (text ++ '\n' :: (List.replicate count ' ' ++ stop)) =
      some (text,true,⟨(mark.skip text.length).nextLine.skip count,stop⟩) := by
    rw [plain?_word word last,plain?_break starts (by omega)]
    simp
  simp [plainScalar?,saveKey?,within,line,inFlow,read,emit]

private theorem quoted?_value (word : IsWord text) (rest : List Char) :
    (within mark ('\'' :: (text ++ '\'' :: '\n' :: rest)) seen indent outer).quoted?
      (singleQuoted? (.spaces []) []) =
      some (within (mark.next.skip (text.length + 1)) ('\n' :: rest)
        (.scalar (String.ofList text) .quoted :: seen) indent outer) := by
  have read : singleQuoted? (.spaces []) [] mark.next (text ++ '\'' :: '\n' :: rest) =
      some (text,⟨mark.next.skip (text.length + 1),'\n' :: rest⟩) :=
    singleQuoted?_word word (by simp [Mark.next])
  simp [quoted?,node?,saveKey?,within,line,read,emit]

/-- Behind a plain scalar the scanner stands on the next line, behind a quoted one in front of it. -/
theorem exists_token?_spelled {written : List Char} {token : Token} {count : Nat}
    (spelled : Spelled written token)
    (positive : mark.column ≠ 0) (left : (count : Int) ≤ indent) (starts : StartsToken stop) :
    ∃ after next, (within mark (written ++ '\n' :: (List.replicate count ' ' ++ stop)) seen indent outer).token? =
      some after ∧ next.column = 0 ∧ after.approach? =
        (line next (List.replicate count ' ' ++ stop) (token :: seen) indent outer).approach? := by
  cases spelled with
  | plain stands =>
    obtain ⟨word,last,c,rest,rfl,alias_,hyphen⟩ := stands
    have goes : c = '-' ∨ c = ':' → startsBlank (rest ++ '\n' :: (List.replicate count ' ' ++ stop)) = false := by
      intro mark
      refine word.tail.startsBlank ?_ _
      rcases mark with rfl | rfl
      · exact hyphen rfl
      · rintro rfl
        exact last rfl
    refine ⟨_,(mark.skip (c :: rest).length).nextLine,
      (token?_plain rfl rfl ⟨word c (by simp),alias_,goes⟩ (isDocumentMark_inside positive _)).trans
        (plainScalar?_value word last left starts),rfl,?_⟩
    exact Eq.trans (approach?_line starts 0) (approach?_line starts count).symm
  | @quoted text word =>
    have text : '\'' :: (text ++ ['\'']) ++ '\n' :: (List.replicate count ' ' ++ stop) =
        '\'' :: (text ++ '\'' :: '\n' :: (List.replicate count ' ' ++ stop)) := by simp
    rw [text]
    exact ⟨_,_,(token?_quote rfl).trans (quoted?_value word _),rfl,approach?_break false _⟩

private theorem approach?_space (starts : StartsToken text) (inside : indent ≤ mark.column) :
    (within mark (' ' :: text) seen indent outer).approach? = some (within mark.next text seen indent outer) := by
  have near : toNextToken false false false mark (' ' :: text) = (false,⟨mark.skip 1,text⟩) :=
    toNextToken_spaces starts false 1
  rw [approach?_eq rfl near rfl]
  refine congrArg some (unrollTo_eq_self ?_)
  change indent ≤ ((mark.column + 1 : Nat) : Int)
  omega

/-- A key may stand on the line behind a value. -/
theorem scans_value {written : List Char} {token : Token} {count : Nat}
    (spelled : Spelled written token)
    (inside : indent ≤ mark.column) (left : (count : Int) ≤ indent) (starts : StartsToken stop)
    (scans : ∀ mark : Mark, mark.column = 0 →
      (line mark (List.replicate count ' ' ++ stop) (token :: seen) indent outer).Scans tokens) :
    (within mark (' ' :: (written ++ '\n' :: (List.replicate count ' ' ++ stop))) seen indent outer).Scans
      tokens := by
  have moved : mark.next.column ≠ 0 := Nat.succ_ne_zero _
  obtain ⟨after,next,read,column,same⟩ := exists_token?_spelled spelled moved left starts
  refine Scans.step (approach?_space (spelled.starts _) inside) (by simp [within,line]) read same ?_
    (scans next column)
  simp only [within,line,List.length_cons,List.length_append]
  omega

/-! ### Lines of a block -/

theorem scans_field {opened : List Token} {around : List Int} {written : List Char} {token : Token}
    {column count : Nat} (named : IsFieldName name) (spelled : Spelled written token) (starts : StartsToken stop)
    (left : count ≤ column) (enters : Enters column seen indent outer opened around)
    (place : mark.column = column) (scans : ∀ mark : Mark, mark.column = 0 →
      (line mark (List.replicate count ' ' ++ stop)
        (token :: .value :: .scalar (String.ofList name) .plain :: .key :: opened) column around).Scans tokens) :
    (line mark (name ++ ':' :: ' ' :: (written ++ '\n' :: (List.replicate count ' ' ++ stop)))
      seen indent outer).Scans tokens := by
  subst place
  apply scans_key named rfl enters
  refine scans_value spelled ?_ (by exact_mod_cast left) starts scans
  change (mark.column : Int) ≤ ((mark.column + (name.length + 1) : Nat) : Int)
  omega

theorem scans_spaces (count : Nat) (starts : StartsToken text)
    (scans : (line (mark.skip count) text seen indent outer).Scans tokens) :
    (line mark (List.replicate count ' ' ++ text) seen indent outer).Scans tokens := by
  have same : (line mark (List.replicate count ' ' ++ text) seen indent outer).approach? =
      (line (mark.skip count) text seen indent outer).approach? :=
    (approach?_line starts count).trans (Eq.symm (approach?_line starts 0))
  exact scans.congr same (by simp [line])

/-- An entry of a sequence at the left end of the text, in a block that starts there too. -/
theorem scans_entry (starts : StartsToken text) (place : mark.column = 0)
    (scans : (line (mark.skip 2) text (.blockEntry :: seen) 0 outer).Scans tokens) :
    (line mark ('-' :: ' ' :: text) seen 0 outer).Scans tokens := by
  have hyphen : StartsToken ('-' :: ' ' :: text) := startsToken_cons (isInner_of_isWordChar (by decide))
  have read : (line mark ('-' :: ' ' :: text) seen 0 outer).token? =
      some (line (mark.skip 1) (' ' :: text) (.blockEntry :: seen) 0 outer) := by
    simp [token?,line,isDocumentMark,startsBlank,isSpace,indicator?,roll,place,inFlow,dropKey?,emit,advance]
  have same : (line (mark.skip 1) (' ' :: text) (.blockEntry :: seen) 0 outer).approach? =
      (line (mark.skip 2) text (.blockEntry :: seen) 0 outer).approach? :=
    (approach?_line starts 1).trans (Eq.symm (approach?_line starts 0))
  refine Scans.step (approach?_line_of_le hyphen (by simp)) (by simp [line]) read same ?_ scans
  simp only [line,List.length_cons]
  omega

/-- Where a line starts at the left end of the text, an inner block is over. -/
theorem scans_dedent (starts : StartsToken text) (place : mark.column = 0) (right : 0 < indent)
    (scans : (line mark text (.blockEnd :: seen) 0 outer).Scans tokens) :
    (line mark text seen indent (0 :: outer)).Scans tokens := by
  have same : (line mark text seen indent (0 :: outer)).approach? =
      (line mark text (.blockEnd :: seen) 0 outer).approach? := by
    refine (approach?_line starts 0).trans (Eq.trans ?_ (Eq.symm (approach?_line starts 0)))
    have outside : ¬ indent ≤ 0 := Int.not_le.mpr right
    cases outer <;> simp [unrollTo,unroll,line,inFlow,Mark.skip,place,outside,emit]
  exact scans.congr same (Nat.le_refl _)

theorem scans_end : (line mark [] seen 0 [-1]).Scans (seen.reverse ++ [.blockEnd]) := by
  have near : (line mark [] seen 0 [-1]).approach? = some (line mark [] seen 0 [-1]) :=
    approach?_line_of_le (by simp [StartsToken]) (by simp)
  intro fuel enough
  obtain ⟨fuel,rfl⟩ : ∃ less, fuel = less + 1 := ⟨fuel - 1,by omega⟩
  rw [run?,near]
  simp [line,leaveBlocks?,unrollTo,unroll,inFlow,emit,dropKey?]

/-- The scanner behind an opening bracket. -/
def bracketed (mark : Mark) (text : List Char) (seen : List Token) (indent : Int) (outer : List Int) : Scanner :=
  { line mark text seen indent outer with levels := [none] }

private theorem approach?_bracketed (rest : List Char) :
    (bracketed mark (']' :: rest) seen indent outer).approach? =
      some (bracketed mark (']' :: rest) seen indent outer) := by
  have near : toNextToken true false true mark (']' :: rest) = (true,⟨mark,']' :: rest⟩) := by
    simp [toNextToken,isBreak]
  cases outer <;> simp [approach?,bracketed,line,inFlow,near,dropStale?,staleKey?,unrollTo,unroll]

/-- Brackets with nothing between them behind a key. -/
theorem scans_brackets (inside : indent ≤ mark.column)
    (scans : ∀ mark : Mark, mark.column = 0 →
      (line mark text (.flowSequenceEnd :: .flowSequenceStart :: seen) indent outer).Scans tokens) :
    (within mark (' ' :: '[' :: ']' :: '\n' :: text) seen indent outer).Scans tokens := by
  have bracket : StartsToken ('[' :: ']' :: '\n' :: text) := startsToken_cons (by unfold IsInner; decide)
  have opens : (within mark.next ('[' :: ']' :: '\n' :: text) seen indent outer).token? =
      some (bracketed (mark.next.skip 1) (']' :: '\n' :: text) (.flowSequenceStart :: seen) indent outer) := by
    simp [token?,within,line,isDocumentMark,openFlow?,saveKey?,emit,advance,bracketed]
  have closes : (bracketed (mark.next.skip 1) (']' :: '\n' :: text) (.flowSequenceStart :: seen) indent
      outer).token? = some (within ((mark.next.skip 1).skip 1) ('\n' :: text)
        (.flowSequenceEnd :: .flowSequenceStart :: seen) indent outer) := by
    simp [token?,within,line,isDocumentMark,closeFlow?,dropKey?,emit,advance,bracketed]
  refine Scans.step (approach?_space bracket inside) (by simp [within,line]) opens rfl
    (by simp [within,line,bracketed]) ?_
  refine Scans.step (approach?_bracketed _) (by simp [bracketed,line]) closes (approach?_break false text)
    ?_ (scans _ rfl)
  simp only [bracketed,line,List.length_cons]
  omega

end Scanner
end DnsPolicy.Yaml
