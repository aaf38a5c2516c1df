import DnsPolicy.Json.Printer
import DnsPolicy.Json.Reader
import DnsPolicy.Proofs.Digits

/-! JSON values that were written are read back. What is read off the front of a text ends where the
writing of the value ended, if what follows goes on as behind a value. -/
namespace DnsPolicy.Json
open DnsPolicy.Text

/-! ### Strings -/

/-- The piece that a character in a string is read as. -/
def pieceOf (c : Char) : Piece :=
  if 0x20 ≤ c.toNat ∨ c ∈ ['\x08','\x0c','\n','\r','\t'] then .char c else .unit c.toNat

private theorem unit?_control : ∀ n < 32,
    unit? '0' '0' (hexDigit (n / 16)) (hexDigit n) = some n := by decide

private theorem pieces?_escape (c : Char) (rest : List Char) :
    pieces? (escape c ++ rest) =
      (pieces? rest).map fun (more,rest) => (pieceOf c :: more,rest) := by
  unfold escape
  split
  iterate 7 next => rfl
  next quote backslash backspace feed newline back tab =>
    have unquoted : c ≠ '"' := quote
    have unescaped : c ≠ '\\' := backslash
    have named : c ∉ ['\x08','\x0c','\n','\r','\t'] := by
      simp only [List.mem_cons,List.not_mem_nil,or_false,not_or]
      exact ⟨backspace,feed,newline,back,tab⟩
    split
    next control =>
      have piece : pieceOf c = .unit c.toNat := if_neg (not_or.mpr ⟨by omega,named⟩)
      simp only [List.cons_append,List.nil_append,pieces?,unit?_control _ control,piece]
    next printed =>
      have piece : pieceOf c = .char c := if_pos (Or.inl (by omega))
      rw [List.singleton_append,pieces?]
      · simp [printed,unescaped,piece]
      · exact unquoted
      · exact fun _ _ _ _ _ same => absurd same unescaped
      · exact fun _ _ same => absurd same unescaped

private theorem pieces?_flatMap (content rest : List Char) :
    pieces? (content.flatMap escape ++ '"' :: rest) = some (content.map pieceOf,rest) := by
  induction content with
  | nil => rfl
  | cons c content ih =>
    rw [List.flatMap_cons,List.append_assoc,pieces?_escape,ih]
    rfl

private theorem join?_unit {n : Nat} (control : n < 0x20) (rest : List Piece) :
    join? (.unit n :: rest) = (join? rest).map (Char.ofNat n :: ·) := by
  have high : isHigh n = false := by simp [isHigh]; omega
  have low : isLow n = false := by simp [isLow]; omega
  cases rest with
  | nil => simp [join?,high,low]
  | cons piece rest => cases piece <;> simp [join?,high,low]

@[simp] theorem join?_pieceOf (content : List Char) :
    join? (content.map pieceOf) = some content := by
  induction content with
  | nil => rfl
  | cons c content ih =>
    rw [List.map_cons,pieceOf]
    split
    next => rw [join?,ih]; rfl
    next control =>
      rw [join?_unit (by omega),ih,Char.ofNat_toNat]
      rfl

private theorem pieces?_writeString (content rest : List Char) :
    ∃ behind, writeString content ++ rest = '"' :: behind ∧
      pieces? behind = some (content.map pieceOf,rest) := by
  refine ⟨content.flatMap escape ++ '"' :: rest,?_,pieces?_flatMap content rest⟩
  simp [writeString]

/-! ### Numbers -/

/-- What may follow a value. -/
def Ends : List Char → Prop
  | [] => True
  | c :: _ => c = ',' ∨ c = ']' ∨ c = '}'

variable {rest : List Char}

private theorem ends_comma : Ends (',' :: rest) := Or.inl rfl

private theorem ends_bracket : Ends (']' :: rest) := Or.inr (Or.inl rfl)

private theorem ends_brace : Ends ('}' :: rest) := Or.inr (Or.inr rfl)

private theorem digits?_append {digits : List Char} (some : digits ≠ [])
    (all : ∀ c ∈ digits, c.isDigit = true) (ends : Ends rest) :
    digits? (digits ++ rest) = .some (digits,rest) := by
  have behind : rest.takeWhile Char.isDigit = [] ∧ rest.dropWhile Char.isDigit = rest := by
    cases rest with
    | nil => exact ⟨rfl,rfl⟩
    | cons c rest => obtain rfl | rfl | rfl := ends <;> exact ⟨rfl,rfl⟩
  have front : (digits ++ rest).takeWhile Char.isDigit = digits := by
    rw [List.takeWhile_append_of_pos all,behind.1,List.append_nil]
  rw [digits?,front,List.dropWhile_append_of_pos all,behind.2]
  simp [some]

private theorem whole?_decimal (n : Nat) (ends : Ends rest) :
    whole? (decimal n ++ rest) = some (decimal n,rest) := by
  rw [whole?,digits?_append decimal_ne_nil (fun _ => isDigit_of_mem_decimal) ends]
  split
  next second more _ same =>
    have written : decimal n = '0' :: second :: more := congrArg Prod.fst (Option.some.inj same)
    have zero : n = 0 := head_decimal (by rw [written]; rfl)
    rw [zero] at written
    exact absurd written (by simp [decimal])
  next => rfl

private theorem unsigned?_decimal (n : Nat) (ends : Ends rest) :
    unsigned? (decimal n ++ rest) = some (decimal n,rest) := by
  have last : fraction? rest = some ([],rest) ∧ exponent? rest = some ([],rest) := by
    cases rest with
    | nil => exact ⟨rfl,rfl⟩
    | cons c rest => obtain rfl | rfl | rfl := ends <;> exact ⟨rfl,rfl⟩
  rw [unsigned?,whole?_decimal n ends]
  simp [last.1,last.2]

private theorem number?_decimalInt (n : Int) (ends : Ends rest) :
    number? (decimalInt n ++ rest) = some (decimalInt n,rest) := by
  cases n with
  | ofNat n =>
    rw [decimalInt,number?]
    · exact unsigned?_decimal n ends
    · intro more same
      obtain ⟨c,behind,written,digit⟩ := exists_decimal_cons n
      rw [written] at same
      obtain ⟨rfl,_⟩ := List.cons.inj same
      contradiction
  | negSucc n =>
    rw [decimalInt,List.cons_append,number?,unsigned?_decimal _ ends]
    rfl

/-! ### Values -/

private theorem write_number (literal : List Char) : write (.number literal) = literal := rfl

@[simp] theorem write_string (content : String) : write (.string content) =
    writeString content.toList := rfl

@[simp] theorem write_array (items : List Json) : write (.array items) =
    '[' :: (writeItems items ++ [']']) := rfl

@[simp] theorem write_object (fields : List (String × Json)) :
    write (.object fields) = '{' :: (writeFields fields ++ ['}']) := rfl

@[simp] theorem writeItems_cons (item next : Json) (more : List Json) :
    writeItems (item :: next :: more) = write item ++ ',' :: writeItems (next :: more) := rfl

@[simp] theorem writeFields_singleton (name : String) (item : Json) :
    writeFields [(name,item)] = writeString name.toList ++ ':' :: write item := rfl

@[simp] theorem writeFields_cons (name : String) (item : Json) (next : String × Json)
    (more : List (String × Json)) :
    writeFields ((name,item) :: next :: more) =
      writeString name.toList ++ ':' :: (write item ++ ',' :: writeFields (next :: more)) := rfl

/-- All strings are texts, and all numbers are whole numbers in their shortest spelling. -/
inductive Plain : Json → Prop
  | null : Plain .null
  | bool (value : Bool) : Plain (.bool value)
  | number (n : Int) : Plain (.number (decimalInt n))
  | string (content : String) : Plain (.string content)
  | array (items : List Json) (plain : ∀ item ∈ items, Plain item) : Plain (.array items)
  | object (fields : List (String × Json)) (plain : ∀ field ∈ fields, Plain field.2) :
    Plain (.object fields)

/-- The value is read off the front of a text that starts with its writing. -/
def Reads (json : Json) : Prop :=
  ∀ fuel rest, (write json).length ≤ fuel → Ends rest →
    value? fuel (write json ++ rest) = some (json,rest)

private theorem skip_cons {c : Char} (solid : isSpace c = false) (rest : List Char) :
    skip (c :: rest) = c :: rest := by
  rw [skip,List.dropWhile_cons,solid]
  rfl

private theorem exists_decimalInt_cons (n : Int) :
    ∃ c more, decimalInt n = c :: more ∧ (c = '-' ∨ c.isDigit = true) := by
  cases n with
  | ofNat n =>
    obtain ⟨c,more,written,digit⟩ := exists_decimal_cons n
    exact ⟨c,more,written,Or.inr digit⟩
  | negSucc n => exact ⟨_,_,rfl,Or.inl rfl⟩

/-- No number starts with a character that is neither a sign nor a digit. -/
theorem ne_of_starts {c other : Char} (starts : c = '-' ∨ c.isDigit = true) (unsigned : other ≠ '-')
    (undigit : other.isDigit = false) : c ≠ other := by
  rintro rfl
  rcases starts with sign | digit
  · exact unsigned sign
  · rw [digit] at undigit
    contradiction

private theorem solid_of_starts {c : Char} (starts : c = '-' ∨ c.isDigit = true) :
    isSpace c = false := by
  have differs : ∀ other : Char, other ≠ '-' → other.isDigit = false → c ≠ other :=
    fun _ => ne_of_starts starts
  simp [isSpace,differs]

/-- A value starts neither with a space nor as an array ends. -/
theorem exists_write_cons {json : Json} (plain : Plain json) :
    ∃ c more, write json = c :: more ∧ isSpace c = false ∧ c ≠ ']' := by
  cases plain with
  | null => exact ⟨_,_,rfl,by decide,by decide⟩
  | bool value => cases value <;> exact ⟨_,_,rfl,by decide,by decide⟩
  | string content => exact ⟨_,_,rfl,by decide,by decide⟩
  | array items plain => exact ⟨_,_,rfl,by decide,by decide⟩
  | object fields plain => exact ⟨_,_,rfl,by decide,by decide⟩
  | number n =>
    obtain ⟨c,more,written,starts⟩ := exists_decimalInt_cons n
    exact ⟨c,more,written,solid_of_starts starts,ne_of_starts starts (by decide) (by decide)⟩

private theorem exists_writeItems_cons {item : Json} (plain : Plain item) (more : List Json) :
    ∃ c behind, writeItems (item :: more) = c :: behind ∧ isSpace c = false ∧ c ≠ ']' := by
  obtain ⟨c,behind,written,solid,opens⟩ := exists_write_cons plain
  cases more with
  | nil => exact ⟨c,behind,written,solid,opens⟩
  | cons next more =>
    refine ⟨c,behind ++ ',' :: writeItems (next :: more),?_,solid,opens⟩
    rw [writeItems_cons,written,List.cons_append]

private theorem exists_writeFields_cons (field : String × Json) (more : List (String × Json)) :
    ∃ behind, writeFields (field :: more) = '"' :: behind := by
  cases more <;> exact ⟨_,rfl⟩

private theorem exists_succ {json : Json} (plain : Plain json) {fuel : Nat}
    (enough : (write json).length ≤ fuel) : ∃ less, fuel = less + 1 := by
  obtain ⟨c,more,written,_⟩ := exists_write_cons plain
  rw [written,List.length_cons] at enough
  exact ⟨fuel - 1,by omega⟩

private theorem reads_number (n : Int) : Reads (.number (decimalInt n)) := by
  intro fuel rest enough ends
  obtain ⟨fuel,rfl⟩ := exists_succ (.number n) enough
  obtain ⟨c,more,written,starts⟩ := exists_decimalInt_cons n
  have found := number?_decimalInt n ends
  have differs : ∀ other : Char, other ≠ '-' → other.isDigit = false → c ≠ other :=
    fun _ => ne_of_starts starts
  rw [written,List.cons_append] at found
  rw [write_number,written,List.cons_append,value?,skip_cons (solid_of_starts starts)]
  split
  -- A number starts with none of the marks that other values start with.
  iterate 6 next same => exact absurd (List.cons.inj same).1 (differs _ (by decide) (by decide))
  next => rw [found]; rfl

private theorem reads_string (content : String) : Reads (.string content) := by
  intro fuel rest enough ends
  obtain ⟨fuel,rfl⟩ := exists_succ (.string content) enough
  obtain ⟨behind,same,found⟩ := pieces?_writeString content.toList rest
  rw [write_string,same,value?,skip_cons (by decide)]
  simp only [found,Option.map_some,ofPieces,join?_pieceOf,String.ofList_toList]

private theorem items?_writeItems {items : List Json} (some : items ≠ [])
    (plain : ∀ item ∈ items, Plain item) (reads : ∀ item ∈ items, Reads item) (fuel : Nat)
    (enough : (writeItems items).length + 1 ≤ fuel) (rest : List Char) :
    items? fuel (writeItems items ++ ']' :: rest) = .some (items,rest) := by
  induction items generalizing fuel with
  | nil => contradiction
  | cons item more ih =>
    obtain ⟨fuel,rfl⟩ : ∃ less, fuel = less + 1 := ⟨fuel - 1,by omega⟩
    have first := reads item (List.mem_cons_self ..)
    cases more with
    | nil =>
      rw [writeItems] at enough ⊢
      rw [items?,first fuel _ (by omega) ends_bracket]
      rfl
    | cons next more =>
      rw [writeItems_cons,List.length_append,List.length_cons] at enough
      rw [writeItems_cons,List.append_assoc,List.cons_append,items?]
      rw [first fuel _ (by omega) ends_comma]
      have others := ih (by simp) (fun other member => plain other (List.mem_cons_of_mem _ member))
        (fun other member => reads other (List.mem_cons_of_mem _ member)) fuel (by omega)
      simp only [skip_cons (c := ',') (by decide),others]
      rfl

/-- A field as the reader finds it, with its name in pieces. -/
def pieced (field : String × Json) : List Piece × Json := (field.1.toList.map pieceOf,field.2)

private theorem fields?_writeFields {fields : List (String × Json)} (some : fields ≠ [])
    (reads : ∀ field ∈ fields, Reads field.2) (fuel : Nat)
    (enough : (writeFields fields).length + 1 ≤ fuel) (rest : List Char) :
    fields? fuel (writeFields fields ++ '}' :: rest) =
      .some (fields.map pieced,rest) := by
  induction fields generalizing fuel with
  | nil => contradiction
  | cons field more ih =>
    obtain ⟨name,item⟩ := field
    obtain ⟨fuel,rfl⟩ : ∃ less, fuel = less + 1 := ⟨fuel - 1,by omega⟩
    have first : Reads item := reads (name,item) (List.mem_cons_self ..)
    cases more with
    | nil =>
      rw [writeFields_singleton,List.length_append,List.length_cons] at enough
      obtain ⟨behind,same,found⟩ := pieces?_writeString name.toList (':' :: (write item ++ '}' :: rest))
      rw [writeFields_singleton,List.append_assoc,List.cons_append,same,fields?]
      simp only [skip_cons (c := '"') (by decide),skip_cons (c := ':') (by decide),found]
      rw [first fuel _ (by omega) ends_brace]
      rfl
    | cons next more =>
      rw [writeFields_cons,List.length_append,List.length_cons,List.length_append,
        List.length_cons] at enough
      obtain ⟨behind,same,found⟩ := pieces?_writeString name.toList
        (':' :: (write item ++ ',' :: (writeFields (next :: more) ++ '}' :: rest)))
      have others := ih (by simp) (fun other member => reads other (List.mem_cons_of_mem _ member))
        fuel (by omega)
      rw [writeFields_cons,List.append_assoc,List.cons_append,List.append_assoc,List.cons_append,same,
        fields?]
      simp only [skip_cons (c := '"') (by decide),skip_cons (c := ':') (by decide),found]
      rw [first fuel _ (by omega) ends_comma]
      simp only [skip_cons (c := ',') (by decide),others]
      rfl

private theorem ofFields_eq (found : List (List Piece × Json)) :
    ofFields found = (found.mapM fun field =>
      (join? field.1).map fun name => (String.ofList name,field.2)).elim .broken .object := by
  unfold ofFields
  split
  next fields read => rw [read]; rfl
  next unread => rw [unread]; rfl

private theorem ofFields_pieced (fields : List (String × Json)) :
    ofFields (fields.map pieced) = .object fields := by
  have names : (fields.map pieced).mapM (fun field =>
      (join? field.1).map fun name => (String.ofList name,field.2)) = some fields := by
    induction fields with
    | nil => rfl
    | cons field more ih =>
      rw [List.map_cons,List.mapM_cons,ih]
      simp [pieced]
  rw [ofFields_eq,names]
  rfl

private theorem reads_array {items : List Json} (plain : ∀ item ∈ items, Plain item)
    (reads : ∀ item ∈ items, Reads item) : Reads (.array items) := by
  intro fuel rest enough ends
  obtain ⟨fuel,rfl⟩ := exists_succ (.array items plain) enough
  rw [write_array,List.length_cons,List.length_append,List.length_singleton] at enough
  rw [write_array,List.cons_append,List.append_assoc,List.singleton_append]
  rw [value?,skip_cons (by decide)]
  cases items with
  | nil => rfl
  | cons item more =>
    have found := items?_writeItems (List.cons_ne_nil item more) plain reads fuel (by omega) rest
    obtain ⟨c,behind,written,solid,opens⟩ :=
      exists_writeItems_cons (plain item (List.mem_cons_self ..)) more
    rw [written,List.cons_append] at found ⊢
    simp only [skip_cons solid]
    split
    next same => exact absurd (List.cons.inj same).1 opens
    next => rw [found]; rfl

private theorem reads_object {fields : List (String × Json)}
    (plain : ∀ field ∈ fields, Plain field.2)
    (reads : ∀ field ∈ fields, Reads field.2) : Reads (.object fields) := by
  intro fuel rest enough ends
  obtain ⟨fuel,rfl⟩ := exists_succ (.object fields plain) enough
  rw [write_object,List.length_cons,List.length_append,List.length_singleton] at enough
  rw [write_object,List.cons_append,List.append_assoc,List.singleton_append]
  rw [value?,skip_cons (by decide)]
  cases fields with
  | nil => rfl
  | cons field more =>
    have found := fields?_writeFields (List.cons_ne_nil field more) reads fuel (by omega) rest
    obtain ⟨behind,written⟩ := exists_writeFields_cons field more
    rw [written,List.cons_append] at found ⊢
    simp only [skip_cons (c := '"') (by decide)]
    split
    next same => exact absurd (List.cons.inj same).1 (by decide)
    next => rw [found,Option.map_some,ofFields_pieced]

private theorem reads_of_plain {json : Json} (plain : Plain json) : Reads json := by
  induction plain with
  | null =>
    intro fuel rest enough ends
    obtain ⟨fuel,rfl⟩ := exists_succ .null enough
    rfl
  | bool value =>
    intro fuel rest enough ends
    obtain ⟨fuel,rfl⟩ := exists_succ (.bool value) enough
    cases value <;> rfl
  | number n => exact reads_number n
  | string content => exact reads_string content
  | array items plain reads => exact reads_array plain reads
  | object fields plain reads => exact reads_object plain reads

theorem read?_write {json : Json} (plain : Plain json) : read? (write json) = some json := by
  have found := reads_of_plain plain (2 * (write json).length + 2) [] (by omega) trivial
  rw [List.append_nil] at found
  rw [read?,found]
  rfl

/-! ### Control characters -/

/-- No character of the text is a control character, so that it is a part of one line. -/
def Printed (text : List Char) : Prop := ∀ c ∈ text, 0x20 ≤ c.toNat

private theorem Printed.append {front back : List Char} (first : Printed front)
    (second : Printed back) : Printed (front ++ back) := List.forall_mem_append.mpr ⟨first,second⟩

private theorem Printed.cons {c : Char} {text : List Char} (first : 0x20 ≤ c.toNat)
    (rest : Printed text) : Printed (c :: text) := List.forall_mem_cons.mpr ⟨first,rest⟩

private theorem printed_hexDigit (n : Nat) : 0x20 ≤ (hexDigit n).toNat := by
  have digits : ∀ n < 16, 0x20 ≤ (Nat.digitChar n).toNat := by decide
  exact digits (n % 16) (Nat.mod_lt n (by decide))

private theorem printed_escape (c : Char) : Printed (escape c) := by
  unfold escape
  split
  iterate 7 next => simp [Printed]
  next =>
    split
    next => simp [Printed,printed_hexDigit]
    next printed => exact List.forall_mem_singleton.mpr (Nat.le_of_not_lt printed)

private theorem printed_writeString (content : List Char) : Printed (writeString content) := by
  have escaped : Printed (content.flatMap escape) := by
    intro c member
    obtain ⟨other,_,inside⟩ := List.mem_flatMap.mp member
    exact printed_escape other c inside
  exact .cons (by decide) (escaped.append (.cons (by decide) (by simp [Printed])))

private theorem printed_decimal (n : Nat) : Printed (decimal n) := by
  intro c member
  have digit := isDigit_of_mem_decimal member
  simp only [Char.isDigit,Bool.and_eq_true,decide_eq_true_eq] at digit
  exact Nat.le_trans (by decide) digit.1

private theorem printed_decimalInt (n : Int) : Printed (decimalInt n) := by
  cases n with
  | ofNat n => exact printed_decimal n
  | negSucc n => exact .cons (by decide) (printed_decimal (n + 1))

private theorem printed_writeItems {items : List Json}
    (printed : ∀ item ∈ items, Printed (write item)) : Printed (writeItems items) := by
  induction items with
  | nil => simp [writeItems,Printed]
  | cons item more ih =>
    obtain ⟨first,rest⟩ := List.forall_mem_cons.mp printed
    cases more with
    | nil => exact first
    | cons next more =>
      rw [writeItems_cons]
      exact first.append (.cons (by decide) (ih rest))

private theorem printed_writeFields {fields : List (String × Json)}
    (printed : ∀ field ∈ fields, Printed (write field.2)) : Printed (writeFields fields) := by
  induction fields with
  | nil => simp [writeFields,Printed]
  | cons field more ih =>
    obtain ⟨name,item⟩ := field
    obtain ⟨first,rest⟩ := List.forall_mem_cons.mp printed
    have named := printed_writeString name.toList
    cases more with
    | nil =>
      rw [writeFields_singleton]
      exact named.append (.cons (by decide) first)
    | cons next more =>
      rw [writeFields_cons]
      exact named.append (.cons (by decide) (first.append (.cons (by decide) (ih rest))))

theorem printed_write {json : Json} (plain : Plain json) : Printed (write json) := by
  induction plain with
  | null =>
    change Printed ['n','u','l','l']
    simp [Printed]
  | bool value =>
    cases value with
    | false =>
      change Printed ['f','a','l','s','e']
      simp [Printed]
    | true =>
      change Printed ['t','r','u','e']
      simp [Printed]
  | number n => exact printed_decimalInt n
  | string content => exact printed_writeString content.toList
  | array items _ printed =>
    rw [write_array]
    exact .cons (by decide) ((printed_writeItems printed).append (.cons (by decide) (by simp [Printed])))
  | object fields _ printed =>
    rw [write_object]
    exact .cons (by decide) ((printed_writeFields printed).append (.cons (by decide) (by simp [Printed])))

end DnsPolicy.Json
