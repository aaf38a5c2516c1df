import DnsPolicy.Proofs.Lowercasing
import DnsPolicy.Proofs.Success
import DnsPolicy.Text.Utf8

/-! Bytes are decoded to a text if they are its UTF-8 encoding, and to nothing else. A text is an ending
of another just when its bytes are an ending of the other's. -/
namespace DnsPolicy.Text

variable {lead b : UInt8} {start : Nat}

private theorem isTail_iff : isTail b = true ↔ 0x80 ≤ b.toNat ∧ b.toNat ≤ 0xbf := by
  simp [isTail,UInt8.le_iff_toNat_le]

private theorem isSecond_iff :
    isSecond lead b = true ↔
      (0x80 ≤ b.toNat ∧ b.toNat ≤ 0xbf) ∧
      (lead.toNat = 0xe0 → 0xa0 ≤ b.toNat) ∧ (lead.toNat = 0xed → b.toNat ≤ 0x9f) ∧
      (lead.toNat = 0xf0 → 0x90 ≤ b.toNat) ∧ (lead.toNat = 0xf4 → b.toNat ≤ 0x8f) := by
  have leads (n : UInt8) : lead = n ↔ lead.toNat = n.toNat := UInt8.toNat_inj.symm
  unfold isSecond
  simp only [leads]
  split_ifs <;> simp_all [isTail_iff,UInt8.le_iff_toNat_le] <;> omega

private theorem sequenceLength_eq :
    sequenceLength lead =
      if lead.toNat < 0x80 then 1
      else if 0xc2 ≤ lead.toNat ∧ lead.toNat ≤ 0xdf then 2
      else if 0xe0 ≤ lead.toNat ∧ lead.toNat ≤ 0xef then 3
      else if 0xf0 ≤ lead.toNat ∧ lead.toNat ≤ 0xf4 then 4
      else 0 := by
  simp [sequenceLength,UInt8.lt_iff_toNat_lt,UInt8.le_iff_toNat_le]

private theorem sequenceLength_eq_one_iff : sequenceLength lead = 1 ↔ lead.toNat < 0x80 := by
  grind [sequenceLength_eq]

private theorem sequenceLength_eq_two_iff :
    sequenceLength lead = 2 ↔ 0xc2 ≤ lead.toNat ∧ lead.toNat ≤ 0xdf := by
  grind [sequenceLength_eq]

private theorem sequenceLength_eq_three_iff :
    sequenceLength lead = 3 ↔ 0xe0 ≤ lead.toNat ∧ lead.toNat ≤ 0xef := by
  grind [sequenceLength_eq]

private theorem sequenceLength_eq_four_iff :
    sequenceLength lead = 4 ↔ 0xf0 ≤ lead.toNat ∧ lead.toNat ≤ 0xf4 := by
  grind [sequenceLength_eq]

/-! ### Sequences -/

/-- A good sequence of bytes and the character that it stands for. -/
inductive Sequence : List UInt8 → Char → Prop
  | one {lead : UInt8} (length : sequenceLength lead = 1) : Sequence [lead] (Char.ofNat lead.toNat)
  | two {lead b : UInt8} (length : sequenceLength lead = 2) (second : isTail b = true) :
      Sequence [lead,b] (Char.ofNat (codePoint lead [b]))
  | three {lead b c : UInt8} (length : sequenceLength lead = 3) (second : isSecond lead b = true)
      (third : isTail c = true) : Sequence [lead,b,c] (Char.ofNat (codePoint lead [b,c]))
  | four {lead b c d : UInt8} (length : sequenceLength lead = 4) (second : isSecond lead b = true)
      (third : isTail c = true) (fourth : isTail d = true) :
      Sequence [lead,b,c,d] (Char.ofNat (codePoint lead [b,c,d]))

private theorem Sequence.encode {bytes : List UInt8} {char : Char} (good : Sequence bytes char) :
    String.utf8EncodeChar char = bytes := by
  cases good with
  | @one lead length =>
    have lead' := sequenceLength_eq_one_iff.mp length
    have value : (Char.ofNat lead.toNat).val.toNat = lead.toNat := Unicode.toNat_ofNat (by omega)
    rw [String.utf8EncodeChar,value,if_pos (by omega)]
    simp
  | @two lead b length second =>
    have lead' := sequenceLength_eq_two_iff.mp length
    have second := isTail_iff.mp second
    have point : codePoint lead [b] = 64 * (lead.toNat % 32) + b.toNat % 64 := rfl
    have value : (Char.ofNat (codePoint lead [b])).val.toNat = codePoint lead [b] :=
      Unicode.toNat_ofNat (by omega)
    rw [String.utf8EncodeChar,value,point,if_neg (by omega),if_pos (by omega)]
    simp only [List.cons.injEq,and_true,← UInt8.toNat_inj,UInt8.toNat_ofNat']
    omega
  | @three lead b c length second third =>
    have lead' := sequenceLength_eq_three_iff.mp length
    have second := isSecond_iff.mp second
    have third := isTail_iff.mp third
    have point : codePoint lead [b,c] =
        64 * (64 * (lead.toNat % 16) + b.toNat % 64) + c.toNat % 64 := rfl
    have value : (Char.ofNat (codePoint lead [b,c])).val.toNat = codePoint lead [b,c] :=
      Unicode.toNat_ofNat (by omega)
    rw [String.utf8EncodeChar,value,point,if_neg (by omega),if_neg (by omega),if_pos (by omega)]
    simp only [List.cons.injEq,and_true,← UInt8.toNat_inj,UInt8.toNat_ofNat']
    omega
  | @four lead b c d length second third fourth =>
    have lead' := sequenceLength_eq_four_iff.mp length
    have second := isSecond_iff.mp second
    have third := isTail_iff.mp third
    have fourth := isTail_iff.mp fourth
    have point : codePoint lead [b,c,d] =
        64 * (64 * (64 * (lead.toNat % 8) + b.toNat % 64) + c.toNat % 64) + d.toNat % 64 := rfl
    have value : (Char.ofNat (codePoint lead [b,c,d])).val.toNat = codePoint lead [b,c,d] :=
      Unicode.toNat_ofNat (by omega)
    rw [String.utf8EncodeChar,value,point,if_neg (by omega),if_neg (by omega),if_neg (by omega)]
    simp only [List.cons.injEq,and_true,← UInt8.toNat_inj,UInt8.toNat_ofNat']
    omega

/-- Every character is encoded in a good sequence. -/
theorem sequence_encode (char : Char) : Sequence (String.utf8EncodeChar char) char := by
  have valid : char.toNat < 0xd800 ∨ 0xdfff < char.toNat ∧ char.toNat < 0x110000 := char.valid
  have byte {n : Nat} (small : n < 256) : (UInt8.ofNat n).toNat = n := by
    rw [UInt8.toNat_ofNat',Nat.mod_eq_of_lt small]
  have named {bytes : List UInt8} {n : Nat} (good : Sequence bytes (Char.ofNat n))
      (same : n = char.toNat) : Sequence bytes char := by
    rwa [same,Char.ofNat_toNat] at good
  have point : char.val.toNat = char.toNat := rfl
  rw [String.utf8EncodeChar,point]
  split_ifs with one two three
  · have lead := byte (n := char.toNat) (by omega)
    refine named (.one (sequenceLength_eq_one_iff.mpr ?_)) lead
    rw [lead]
    omega
  · have lead := byte (n := char.toNat / 64 % 32 + 0xc0) (by omega)
    have second := byte (n := char.toNat % 64 + 0x80) (by omega)
    refine named (.two (sequenceLength_eq_two_iff.mpr ?_) (isTail_iff.mpr ?_)) ?_
    · rw [lead]
      omega
    · rw [second]
      omega
    · simp only [codePoint,List.length_cons,List.length_nil,List.foldl_cons,List.foldl_nil]
      rw [lead,second]
      omega
  · have lead := byte (n := char.toNat / 4096 % 16 + 0xe0) (by omega)
    have second := byte (n := char.toNat / 64 % 64 + 0x80) (by omega)
    have third := byte (n := char.toNat % 64 + 0x80) (by omega)
    refine named (.three (sequenceLength_eq_three_iff.mpr ?_) (isSecond_iff.mpr ?_)
      (isTail_iff.mpr ?_)) ?_
    · rw [lead]
      omega
    · rw [lead,second]
      omega
    · rw [third]
      omega
    · simp only [codePoint,List.length_cons,List.length_nil,List.foldl_cons,List.foldl_nil]
      rw [lead,second,third]
      omega
  · have lead := byte (n := char.toNat / 262144 % 8 + 0xf0) (by omega)
    have second := byte (n := char.toNat / 4096 % 64 + 0x80) (by omega)
    have third := byte (n := char.toNat / 64 % 64 + 0x80) (by omega)
    have fourth := byte (n := char.toNat % 64 + 0x80) (by omega)
    refine named (.four (sequenceLength_eq_four_iff.mpr ?_) (isSecond_iff.mpr ?_)
      (isTail_iff.mpr ?_) (isTail_iff.mpr ?_)) ?_
    · rw [lead]
      omega
    · rw [lead,second]
      omega
    · rw [third]
      omega
    · rw [fourth]
      omega
    · simp only [codePoint,List.length_cons,List.length_nil,List.foldl_cons,List.foldl_nil]
      rw [lead,second,third,fourth]
      omega

/-! ### Texts -/

private theorem decodeFrom_sequence {bytes : List UInt8} {char : Char} (good : Sequence bytes char)
    (start : Nat) (rest : List UInt8) :
    decodeFrom start (bytes ++ rest) =
      (decodeFrom (start + bytes.length) rest).map (char :: ·) := by
  cases good with
  | one length =>
    simp only [List.cons_append,List.nil_append,decodeFrom,length]
    rfl
  | two length second =>
    simp only [List.cons_append,List.nil_append,decodeFrom,length,second]
    rfl
  | three length second third =>
    simp only [List.cons_append,List.nil_append,decodeFrom,length,second,third]
    rfl
  | four length second third fourth =>
    simp only [List.cons_append,List.nil_append,decodeFrom,length,second,third,fourth]
    rfl

private theorem decodeFrom_encode (text : List Char) (start : Nat) :
    decodeFrom start (text.flatMap String.utf8EncodeChar) = .ok text := by
  induction text generalizing start with
  | nil => rfl
  | cons char text ih =>
    rw [List.flatMap_cons,decodeFrom_sequence (sequence_encode char),ih]
    rfl

private theorem Sequence.encode_append {bytes rest : List UInt8} {char : Char} {text : List Char}
    (good : Sequence bytes char)
    (onward : ∀ {more}, decodeFrom start rest = .ok more →
      more.flatMap String.utf8EncodeChar = rest)
    (decoded : (do return char :: (← decodeFrom start rest)) = Except.ok text) :
    text.flatMap String.utf8EncodeChar = bytes ++ rest := by
  obtain ⟨more,read,same⟩ := bind_eq_ok_iff.mp decoded
  rw [← Except.ok.inj same,List.flatMap_cons,good.encode,onward read]

private theorem encode_of_decodeFrom {bytes : List UInt8} {text : List Char}
    (decoded : decodeFrom start bytes = .ok text) : text.flatMap String.utf8EncodeChar = bytes := by
  fun_induction decodeFrom start bytes generalizing text with
  | case1 =>
    rw [← Except.ok.inj decoded]
    rfl
  | case2 start lead rest length ih => exact (Sequence.one length).encode_append ih decoded
  | case4 start lead b rest length second ih => exact (Sequence.two length second).encode_append ih decoded
  | case11 start lead b c rest length second third ih =>
    rw [Bool.not_eq_true,Bool.not_eq_false'] at second third
    exact (Sequence.three length second third).encode_append ih decoded
  | case21 start lead b c d rest length second third fourth ih =>
    rw [Bool.not_eq_true,Bool.not_eq_false'] at second third fourth
    exact (Sequence.four length second third fourth).encode_append ih decoded
  | _ => contradiction

theorem toUTF8_eq (text : String) :
    text.toUTF8.data.toList = text.toList.flatMap String.utf8EncodeChar := by
  rw [String.toUTF8_eq_toByteArray,← String.utf8Encode_toList,List.utf8Encode,List.data_toByteArray]

theorem decode_eq_ok_iff {bytes : List UInt8} {text : String} :
    decode bytes = .ok text ↔ bytes = text.toUTF8.data.toList := by
  rw [toUTF8_eq,decode,map_eq_ok_iff]
  constructor
  · rintro ⟨chars,read,rfl⟩
    rw [String.toList_ofList,encode_of_decodeFrom read]
  · rintro rfl
    exact ⟨text.toList,decodeFrom_encode text.toList 0,String.ofList_toList⟩

/-! ### Endings -/

theorem encode_inj {text other : List Char} :
    text.flatMap String.utf8EncodeChar = other.flatMap String.utf8EncodeChar ↔ text = other := by
  refine ⟨fun same => ?_,congrArg _⟩
  have decoded := decodeFrom_encode text 0
  rw [same,decodeFrom_encode] at decoded
  exact (Except.ok.inj decoded).symm

private theorem isUTF8FirstByte_of_encode {text : List Char} {byte : UInt8} {rest : List UInt8}
    (encoded : text.flatMap String.utf8EncodeChar = byte :: rest) : byte.IsUTF8FirstByte := by
  cases text with
  | nil => contradiction
  | cons c text =>
    have first := UInt8.isUTF8FirstByte_getElem_zero_utf8EncodeChar (c := c)
    obtain ⟨lead,tails,char⟩ := List.exists_cons_of_ne_nil (String.utf8EncodeChar_ne_nil (c := c))
    rw [List.flatMap_cons,char,List.cons_append,List.cons.injEq] at encoded
    simpa only [char,List.getElem_cons_zero,encoded.1] using first

/-- Bytes end in those of a text only where the text itself is an ending: none but the first byte of
a character can begin another one. -/
theorem encode_suffix_iff {text other : List Char} :
    text.flatMap String.utf8EncodeChar <:+ other.flatMap String.utf8EncodeChar ↔ text <:+ other := by
  constructor
  · intro suffix
    induction other with
    | nil =>
      have empty : text.flatMap String.utf8EncodeChar = [].flatMap String.utf8EncodeChar :=
        List.suffix_nil.mp suffix
      obtain rfl := encode_inj.mp empty
      exact List.suffix_rfl
    | cons c other ih =>
      obtain ⟨front,joined⟩ := suffix
      rw [List.flatMap_cons,List.append_eq_append_iff] at joined
      rcases joined with ⟨middle,char,same⟩ | ⟨middle,-,same⟩
      · cases middle with
        | nil => exact (ih ⟨[],same⟩).trans (List.suffix_cons c other)
        | cons byte middle =>
          -- The ending begins among the bytes of this character, so with the first of them.
          have first := isUTF8FirstByte_of_encode same
          have inside : front.length < (String.utf8EncodeChar c).length := by simp [char]
          have place : (String.utf8EncodeChar c)[front.length] = byte := by simp [char]
          rw [← place,UInt8.isUTF8FirstByte_getElem_utf8EncodeChar,List.length_eq_zero_iff] at first
          rw [first,List.nil_append] at char
          rw [← char,← List.flatMap_cons] at same
          obtain rfl := encode_inj.mp same
          exact List.suffix_rfl
      · exact (ih ⟨middle,same.symm⟩).trans (List.suffix_cons c other)
  · rintro ⟨front,rfl⟩
    exact ⟨front.flatMap String.utf8EncodeChar,List.flatMap_append.symm⟩

end DnsPolicy.Text
