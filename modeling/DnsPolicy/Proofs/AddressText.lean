import DnsPolicy.Address.Printer
import DnsPolicy.Address.Reader
import DnsPolicy.Proofs.Digits
import Mathlib.Data.List.Basic

/-! Addresses that were written are read back, whichever run of zeros was left out. -/
namespace DnsPolicy.Address
open DnsPolicy.Text

/-! ### Octets and dotted quads -/

private theorem octet?_decimal (octet : UInt8) : octet? (decimal octet.toNat) = some octet := by
  have small : octet.toNat < 256 := octet.toNat_lt
  have short : (decimal octet.toNat).length ≤ 3 := length_decimal_le (by decide) (by omega)
  have plain : (decimal octet.toNat).head? = some '0' → (decimal octet.toNat).length = 1 := by
    intro start
    rw [head_decimal start]
    rfl
  rw [octet?,number?_decimal]
  simp only [short,small,true_and]
  rw [if_pos plain,UInt8.ofNat_toNat]

private theorem dot_not_mem_decimal (n : Nat) : '.' ∉ decimal n := by
  intro member
  exact absurd (isDigit_of_mem_decimal member) (by decide)

private theorem colon_not_mem_decimal (n : Nat) : ':' ∉ decimal n := by
  intro member
  exact absurd (isDigit_of_mem_decimal member) (by decide)

private theorem splitOn_dotted (a b c d : UInt8) :
    (dotted a b c d).splitOn '.' = [a,b,c,d].map fun octet => decimal octet.toNat := by
  apply List.splitOn_intercalate
  · intro part member
    obtain ⟨octet,_,rfl⟩ := List.mem_map.mp member
    exact dot_not_mem_decimal _
  · simp

private theorem dotted?_dotted (a b c d : UInt8) : dotted? (dotted a b c d) = some (a,b,c,d) := by
  rw [dotted?,splitOn_dotted]
  simp only [List.map_cons,List.map_nil,octet?_decimal]
  rfl

private theorem dotted?_of_no_dot {text : List Char} (undotted : '.' ∉ text) :
    dotted? text = none := by
  have whole : text.splitOn '.' = [text] := by
    have parts : ∀ part ∈ [text], '.' ∉ part := by simpa using undotted
    simpa using List.splitOn_intercalate '.' parts (by simp)
  rw [dotted?,whole]

/-! ### Groups -/

private theorem group?_hexadecimal (group : UInt16) :
    group? (hexadecimal group.toNat) = some group := by
  have short : (hexadecimal group.toNat).length ≤ 4 :=
    length_hexadecimal_le (by decide) group.toNat_lt
  rw [group?,if_pos short,number?_hexadecimal]
  exact congrArg some UInt16.ofNat_toNat

private theorem not_mem_hexadecimal {c : Char} (other : isDigitOf 16 c = false) (n : Nat) :
    c ∉ hexadecimal n := by
  intro member
  rw [isDigitOf_of_mem_hexadecimal member] at other
  contradiction

private theorem groupsOf?_hexadecimal (tail : Bool) (groups : List UInt16) :
    groupsOf? tail (groups.map fun group => hexadecimal group.toNat) = some groups := by
  induction groups with
  | nil => rfl
  | cons group rest ih =>
    cases rest with
    | nil => simp only [List.map_cons,List.map_nil,groupsOf?,group?_hexadecimal]
    | cons next more =>
      simp only [List.map_cons] at ih ⊢
      rw [groupsOf?,group?_hexadecimal,ih]
      · rfl
      · simp

private theorem splitOn_colons {groups : List UInt16} (some : groups ≠ []) :
    (colons groups).splitOn ':' = groups.map fun group => hexadecimal group.toNat := by
  apply List.splitOn_intercalate
  · intro part member
    obtain ⟨group,_,rfl⟩ := List.mem_map.mp member
    exact not_mem_hexadecimal (by decide) _
  · simpa using some

@[simp] theorem colons_nil : colons [] = [] := rfl

private theorem colons_singleton (group : UInt16) : colons [group] = hexadecimal group.toNat := by
  simp [colons,List.intercalate]

private theorem colons_cons (group next : UInt16) (more : List UInt16) :
    colons (group :: next :: more) = hexadecimal group.toNat ++ ':' :: colons (next :: more) := by
  simp [colons,List.intercalate_cons_cons]

private theorem exists_colons_cons (group : UInt16) (rest : List UInt16) :
    ∃ c more, colons (group :: rest) = c :: more ∧ c ≠ ':' := by
  obtain ⟨c,more,same⟩ := List.exists_cons_of_ne_nil (hexadecimal_ne_nil (n := group.toNat))
  have other : c ≠ ':' := by
    rintro rfl
    exact not_mem_hexadecimal (by decide) group.toNat (same ▸ List.mem_cons_self ..)
  cases rest with
  | nil => exact ⟨c,more,by rw [colons_singleton,same],other⟩
  | cons next rest =>
    exact ⟨c,more ++ ':' :: colons (next :: rest),by rw [colons_cons,same]; rfl,other⟩

private theorem groups?_colons (tail : Bool) (groups : List UInt16) :
    groups? tail (colons groups) = some groups := by
  cases groups with
  | nil => rfl
  | cons group rest =>
    obtain ⟨c,more,same,_⟩ := exists_colons_cons group rest
    have nonempty : (colons (group :: rest)).isEmpty = false := by rw [same]; rfl
    rw [groups?,nonempty,splitOn_colons (by simp)]
    exact groupsOf?_hexadecimal tail _

private theorem dot_not_mem_colons (groups : List UInt16) : '.' ∉ colons groups := by
  have plain : ∀ group : UInt16, '.' ∉ hexadecimal group.toNat :=
    fun group => not_mem_hexadecimal (by decide) _
  induction groups with
  | nil => simp
  | cons group rest ih =>
    cases rest with
    | nil => simpa only [colons_singleton] using plain group
    | cons next more =>
      rw [colons_cons,List.mem_append,List.mem_cons]
      rintro (first | same | later)
      · exact plain group first
      · exact absurd same (by decide)
      · exact ih later

/-! ### The double colon -/

private theorem cutDouble?_append {part : List Char} (plain : ':' ∉ part) (rest : List Char) :
    cutDouble? (part ++ rest) =
      (cutDouble? rest).map fun (front,back) => (part ++ front,back) := by
  induction part with
  | nil => simp
  | cons c part ih =>
    obtain ⟨other,plain⟩ := not_or.mp (mt List.mem_cons.mpr plain)
    rw [List.cons_append,cutDouble?,ih plain]
    · simp [Function.comp_def]
    · exact fun _ same => absurd same.symm other

private theorem cutDouble?_colon {c : Char} (other : c ≠ ':') (rest : List Char) :
    cutDouble? (':' :: c :: rest) =
      (cutDouble? (c :: rest)).map fun (front,back) => (':' :: front,back) := by
  rw [cutDouble?]
  simp [other]

/-- Between single colons no part is empty, so the first double colon comes behind all of them. -/
theorem cutDouble?_colons (groups : List UInt16) (rest : List Char) :
    cutDouble? (colons groups ++ rest) =
      (cutDouble? rest).map fun (front,back) => (colons groups ++ front,back) := by
  have plain : ∀ group : UInt16, ':' ∉ hexadecimal group.toNat :=
    fun group => not_mem_hexadecimal (by decide) _
  induction groups with
  | nil => simp [colons,List.intercalate]
  | cons group more ih =>
    cases more with
    | nil =>
      rw [colons_singleton]
      exact cutDouble?_append (plain group) rest
    | cons next more =>
      obtain ⟨c,behind,same,other⟩ := exists_colons_cons next more
      have single : cutDouble? (':' :: (colons (next :: more) ++ rest)) =
          (cutDouble? (colons (next :: more) ++ rest)).map
            fun (front,back) => (':' :: front,back) := by
        rw [same,List.cons_append]
        exact cutDouble?_colon other _
      rw [colons_cons,List.append_assoc,List.cons_append,cutDouble?_append (plain group),single,ih]
      simp [Function.comp_def]

/-! ### The longest run of zeros -/

private theorem take_leadingZeros (groups : List UInt16) :
    groups.take (leadingZeros groups) = List.replicate (leadingZeros groups) 0 := by
  have front : groups.take (leadingZeros groups) = groups.takeWhile (· == 0) := by
    exact (List.prefix_iff_eq_take.mp (List.takeWhile_prefix _)).symm
  rw [front]
  refine List.eq_replicate_iff.mpr ⟨rfl,?_⟩
  intro group member
  simpa using List.all_eq_true.mp (List.all_takeWhile (l := groups) (p := (· == 0))) group member

private theorem leadingZeros_le (groups : List UInt16) : leadingZeros groups ≤ groups.length :=
  (List.takeWhile_sublist _).length_le

private theorem longestZeros_spec (groups : List UInt16) :
    (longestZeros groups).1 + (longestZeros groups).2 ≤ groups.length ∧
      (groups.drop (longestZeros groups).1).take (longestZeros groups).2 =
        List.replicate (longestZeros groups).2 0 := by
  induction groups with
  | nil => exact ⟨Nat.le_refl _,rfl⟩
  | cons group rest ih =>
    simp only [longestZeros]
    split
    next longer =>
      refine ⟨?_,ih.2⟩
      have bound := ih.1
      simp only [List.length_cons]
      omega
    next =>
      refine ⟨?_,take_leadingZeros (group :: rest)⟩
      rw [Nat.zero_add]
      exact leadingZeros_le (group :: rest)

private theorem zeros_put_back (groups : List UInt16) :
    groups.take (longestZeros groups).1 ++ List.replicate (longestZeros groups).2 0 ++
      groups.drop ((longestZeros groups).1 + (longestZeros groups).2) = groups := by
  rw [← (longestZeros_spec groups).2,List.append_assoc,← List.drop_drop,List.take_append_drop,
    List.take_append_drop]

private theorem ofGroups?_toList (groups : Vector UInt16 8) :
    ofGroups? groups.toList = some (.v6 groups) := by
  rw [ofGroups?,dif_pos groups.length_toList]
  rfl

private theorem writeGroups_eq (groups : List UInt16) :
    writeGroups groups =
      if 2 ≤ (longestZeros groups).2 then
        colons (groups.take (longestZeros groups).1) ++ [':',':'] ++
          colons (groups.drop ((longestZeros groups).1 + (longestZeros groups).2))
      else colons groups := rfl

private theorem sixteen?_writeGroups {groups : List UInt16} (eight : groups.length = 8) :
    sixteen? (writeGroups groups) = ofGroups? groups := by
  have bound := (longestZeros_spec groups).1
  rw [writeGroups_eq]
  split
  next long =>
    have cut : cutDouble? (colons (groups.take (longestZeros groups).1) ++
        (':' :: ':' :: colons (groups.drop ((longestZeros groups).1 + (longestZeros groups).2)))) =
        some (colons (groups.take (longestZeros groups).1),
          colons (groups.drop ((longestZeros groups).1 + (longestZeros groups).2))) := by
      rw [cutDouble?_colons,cutDouble?]
      simp
    have gap : 8 - (groups.take (longestZeros groups).1).length -
        (groups.drop ((longestZeros groups).1 + (longestZeros groups).2)).length =
        (longestZeros groups).2 := by
      rw [List.length_take,List.length_drop]
      omega
    rw [List.append_assoc]
    simp only [List.cons_append,List.nil_append,sixteen?,cut,groups?_colons,gap,zeros_put_back]
    rw [if_pos (by omega)]
  next =>
    have uncut : cutDouble? (colons groups) = none := by
      simpa [cutDouble?] using cutDouble?_colons groups []
    rw [sixteen?,uncut,groups?_colons]
    rfl

private theorem dot_not_mem_writeGroups (groups : List UInt16) : '.' ∉ writeGroups groups := by
  rw [writeGroups_eq]
  split
  · simp [dot_not_mem_colons]
  · exact dot_not_mem_colons groups

/-! ### Addresses -/

private theorem dottedGroups_halves (high low : UInt16) :
    dottedGroups (.ofNat (high.toNat / 256),.ofNat (high.toNat % 256),.ofNat (low.toNat / 256),
      .ofNat (low.toNat % 256)) = [high,low] := by
  have whole : ∀ word : UInt16, UInt16.ofNat (256 * (UInt8.ofNat (word.toNat / 256)).toNat +
      (UInt8.ofNat (word.toNat % 256)).toNat) = word := by
    intro word
    have small : word.toNat < 65536 := word.toNat_lt
    rw [UInt8.toNat_ofNat',UInt8.toNat_ofNat',Nat.mod_eq_of_lt (by omega),
      Nat.mod_eq_of_lt (by omega),Nat.div_add_mod]
    exact UInt16.ofNat_toNat
  rw [dottedGroups,whole,whole]

private theorem number?_of_mem {base : Nat} {text : List Char} {c : Char} (member : c ∈ text)
    (other : isDigitOf base c = false) : number? base text = none := by
  have spoilt : text.all (isDigitOf base) = false :=
    List.all_eq_false.mpr ⟨c,member,by simp [other]⟩
  rw [number?,spoilt,Bool.and_false]
  rfl

private theorem dotted_eq (a b c d : UInt8) :
    dotted a b c d = decimal a.toNat ++ '.' :: (decimal b.toNat ++ '.' :: (decimal c.toNat ++
      '.' :: decimal d.toNat)) := by
  simp [dotted,List.intercalate_cons_cons]

/-- Colons in front of it keep a dotted quad from being read as one. -/
theorem dotted?_mapped (a b c d : UInt8) : dotted? ("::ffff:".toList ++ dotted a b c d) = none := by
  have parts : ("::ffff:".toList ++ dotted a b c d).splitOn '.' =
      ["::ffff:".toList ++ decimal a.toNat,decimal b.toNat,decimal c.toNat,decimal d.toNat] := by
    have joined : "::ffff:".toList ++ dotted a b c d = List.intercalate ['.']
        ["::ffff:".toList ++ decimal a.toNat,decimal b.toNat,decimal c.toNat,decimal d.toNat] := by
      simp [dotted_eq,List.intercalate_cons_cons]
    rw [joined]
    apply List.splitOn_intercalate
    · simp [dot_not_mem_decimal]
    · simp
  have unread : number? 10 ("::ffff:".toList ++ decimal a.toNat) = none :=
    number?_of_mem (c := ':') (by simp) (by decide)
  rw [dotted?,parts]
  simp only [octet?,unread]
  rfl

/-- An IPv4-mapped address: the dotted tail stands for the last two groups. -/
theorem read?_mapped (a b c d : UInt8) :
    read? ("::ffff:".toList ++ dotted a b c d) =
      ofGroups? ([0,0,0,0,0,0xffff] ++ dottedGroups (a,b,c,d)) := by
  have cut : cutDouble? ("::ffff:".toList ++ dotted a b c d) =
      some ([],"ffff:".toList ++ dotted a b c d) := rfl
  have parts : ("ffff:".toList ++ dotted a b c d).splitOn ':' = ["ffff".toList,dotted a b c d] := by
    have plain : ':' ∉ dotted a b c d := by simp [dotted_eq,colon_not_mem_decimal]
    have joined : "ffff:".toList ++ dotted a b c d =
        List.intercalate [':'] ["ffff".toList,dotted a b c d] := by
      simp [List.intercalate_cons_cons]
    rw [joined]
    apply List.splitOn_intercalate
    · simpa using plain
    · simp
  have ungrouped : group? (dotted a b c d) = none := by
    have unread : number? 16 (dotted a b c d) = none :=
      number?_of_mem (c := '.') (by simp [dotted_eq]) (by decide)
    simp [group?,unread]
  have groups : groups? true ("ffff:".toList ++ dotted a b c d) =
      some (0xffff :: dottedGroups (a,b,c,d)) := by
    have first : group? "ffff".toList = some 0xffff := by decide
    have nonempty : ("ffff:".toList ++ dotted a b c d).isEmpty = false := rfl
    rw [groups?,nonempty,parts]
    simp only [groupsOf?,first,ungrouped,dotted?_dotted]
    rfl
  rw [read?,dotted?_mapped]
  simp only [sixteen?,cut,groups]
  rfl

private theorem read?_write (address : Address) : read? address.write = some address := by
  cases address with
  | v4 a b c d => rw [write,read?,dotted?_dotted]
  | v6 groups =>
    rw [← ofGroups?_toList]
    have eight := groups.length_toList
    rw [write]
    split
    next high low same => rw [read?_mapped,dottedGroups_halves,same]; rfl
    next =>
      rw [read?,dotted?_of_no_dot (dot_not_mem_writeGroups _)]
      exact sixteen?_writeGroups eight

theorem parse?_toText (address : Address) : parse? address.toText = some address := by
  rw [parse?,toText,String.toList_ofList,read?_write]

end DnsPolicy.Address
