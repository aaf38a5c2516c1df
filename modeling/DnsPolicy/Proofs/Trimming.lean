import DnsPolicy.Text.Pieces
import Mathlib.Data.List.Infix
import Mathlib.Data.List.TakeWhile

/-! Trimming stops at the first character on either side that stays, so a text with such characters at
both ends is left alone, and so is what is put together from such texts. -/
namespace DnsPolicy.Text

variable {p : Char → Bool} {c : Char} {text front back marks : List Char}

private theorem dropWhile_eq_self (first : ∀ c, text.head? = some c → p c = false) :
    text.dropWhile p = text := by
  cases text with
  | nil => rfl
  | cons c rest => exact List.dropWhile_cons_of_neg (by simp [first c rfl])

theorem trimEndWhile_append (last : ∀ c, text.getLast? = some c → p c = false)
    (marked : ∀ c ∈ marks, p c = true) : trimEndWhile p (text ++ marks) = text := by
  have gone : marks.reverse.dropWhile p = [] :=
    List.dropWhile_eq_nil_iff.mpr fun c member => marked c (List.mem_reverse.mp member)
  rw [trimEndWhile,List.reverse_append,List.dropWhile_append,gone]
  change (text.reverse.dropWhile p).reverse = text
  rw [dropWhile_eq_self,List.reverse_reverse]
  intro c found
  rw [List.head?_reverse] at found
  exact last c found

private theorem trimEndWhile_eq_self (last : ∀ c, text.getLast? = some c → p c = false) :
    trimEndWhile p text = text := by
  simpa using trimEndWhile_append last (by simp : ∀ c ∈ [], p c = true)

private theorem getLast?_trimEndWhile (last : (trimEndWhile p text).getLast? = some c) :
    p c = false := by
  rw [trimEndWhile,List.getLast?_reverse] at last
  have kept := List.head?_dropWhile_not p text.reverse
  rwa [last] at kept

private theorem trimEndWhile_starts (p : Char → Bool) (text : List Char) :
    trimEndWhile p text <+: text := by
  rw [trimEndWhile,← List.reverse_suffix,List.reverse_reverse]
  exact List.dropWhile_suffix p

/-- Blanks around a text are trimmed, and nothing else. -/
theorem trim_around (ahead : ∀ c ∈ front, Unicode.isBlank c = true)
    (behind : ∀ c ∈ back, Unicode.isBlank c = true)
    (first : ∀ c, text.head? = some c → Unicode.isBlank c = false)
    (last : ∀ c, text.getLast? = some c → Unicode.isBlank c = false) :
    trim (front ++ (text ++ back)) = text := by
  have started : trimStart (front ++ (text ++ back)) = (text ++ back).dropWhile Unicode.isBlank :=
    List.dropWhile_append_of_pos ahead
  rw [trim,started]
  cases text with
  | nil =>
    rw [List.nil_append,List.dropWhile_eq_nil_iff.mpr behind]
    rfl
  | cons c rest =>
    rw [List.cons_append,List.dropWhile_cons_of_neg (by simp [first c rfl])]
    exact trimEndWhile_append last behind

theorem head?_trim (first : (trim text).head? = some c) : Unicode.isBlank c = false := by
  obtain ⟨rest,joined⟩ := trimEndWhile_starts Unicode.isBlank (trimStart text)
  have found : (text.dropWhile Unicode.isBlank).head? = some c := by
    change (trimStart text).head? = some c
    rw [← joined,List.head?_append]
    exact Option.or_eq_some_iff.mpr (.inl first)
  have kept := List.head?_dropWhile_not Unicode.isBlank text
  rwa [found] at kept

theorem getLast?_trim (last : (trim text).getLast? = some c) : Unicode.isBlank c = false :=
  getLast?_trimEndWhile last

theorem trim_eq_self_iff : trim text = text ↔ (∀ c, text.head? = some c → Unicode.isBlank c = false) ∧
    ∀ c, text.getLast? = some c → Unicode.isBlank c = false := by
  constructor
  · intro trimmed
    constructor
    · intro c first
      rw [← trimmed] at first
      exact head?_trim first
    · intro c last
      rw [← trimmed] at last
      exact getLast?_trim last
  · rintro ⟨first,last⟩
    have nothing : ∀ c ∈ [], Unicode.isBlank c = true := by simp
    simpa using trim_around nothing nothing first last

theorem trim_trim (text : List Char) : trim (trim text) = trim text :=
  trim_eq_self_iff.mpr ⟨fun _ => head?_trim,fun _ => getLast?_trim⟩

theorem trim_eq_self (solid : ∀ c ∈ text, Unicode.isBlank c = false) : trim text = text :=
  trim_eq_self_iff.mpr ⟨fun c found => solid c (List.mem_of_head? found),
    fun c found => solid c (List.mem_of_getLast? found)⟩

theorem trim_append (before : trim front = front) (behind : trim back = back) :
    trim (front ++ back) = front ++ back := by
  rw [trim_eq_self_iff] at before behind ⊢
  constructor
  · intro c first
    rw [List.head?_append,Option.or_eq_some_iff] at first
    exact first.elim (before.1 c) fun ⟨_,first⟩ => behind.1 c first
  · intro c last
    rw [List.getLast?_append,Option.or_eq_some_iff] at last
    exact last.elim (behind.2 c) fun ⟨_,last⟩ => before.2 c last

/-- What is trimmed away is blank. -/
theorem exists_trim_around (text : List Char) : ∃ front back, text = front ++ (trim text ++ back) ∧
    (∀ c ∈ front, Unicode.isBlank c = true) ∧ ∀ c ∈ back, Unicode.isBlank c = true := by
  have started : text.takeWhile Unicode.isBlank ++ trimStart text = text := List.takeWhile_append_dropWhile
  have ended : trim text ++ ((trimStart text).reverse.takeWhile Unicode.isBlank).reverse = trimStart text := by
    rw [trim,trimEndWhile,← List.reverse_append,List.takeWhile_append_dropWhile,List.reverse_reverse]
  refine ⟨_,_,by rw [ended,started],fun c => List.mem_takeWhile_imp,fun c member => ?_⟩
  exact List.mem_takeWhile_imp (List.mem_reverse.mp member)

theorem mem_trim (member : c ∈ text) (solid : Unicode.isBlank c = false) : c ∈ trim text := by
  obtain ⟨front,back,around,ahead,behind⟩ := exists_trim_around text
  rw [around,List.mem_append,List.mem_append] at member
  rcases member with blank | inside | blank
  · rw [ahead c blank] at solid
    contradiction
  · exact inside
  · rw [behind c blank] at solid
    contradiction

/-- Where a text starts with a character that stays, only its end is trimmed. -/
theorem exists_trim_cons (solid : Unicode.isBlank c = false) (text : List Char) :
    ∃ rest back, trim (c :: text) = c :: rest ∧ text = rest ++ back ∧ ∀ d ∈ back, Unicode.isBlank d = true := by
  obtain ⟨front,back,around,ahead,behind⟩ := exists_trim_around (c :: text)
  cases front with
  | cons d front =>
    obtain ⟨rfl,_⟩ := List.cons.inj around
    rw [ahead c (by simp)] at solid
    contradiction
  | nil =>
    have kept : c ∈ trim (c :: text) := mem_trim (by simp) solid
    obtain ⟨d,rest,starts⟩ := List.exists_cons_of_ne_nil (List.ne_nil_of_mem kept)
    rw [starts] at around
    obtain ⟨rfl,joined⟩ := List.cons.inj around
    exact ⟨rest,back,starts,joined,behind⟩

theorem mem_of_mem_trim (member : c ∈ trim text) : c ∈ text := by
  obtain ⟨front,back,around,_,_⟩ := exists_trim_around text
  rw [around]
  exact List.mem_append_right front (List.mem_append_left back member)

theorem getLast?_trimDots (text : List Char) : (trimDots text).getLast? ≠ some '.' := by
  intro dot
  have kept := getLast?_trimEndWhile (p := (· == '.')) dot
  contradiction

theorem trimDots_eq_self (undotted : text.getLast? ≠ some '.') : trimDots text = text := by
  apply trimEndWhile_eq_self
  intro c found
  apply beq_false_of_ne
  rintro rfl
  exact undotted found

theorem mem_of_mem_trimDots (member : c ∈ trimDots text) : c ∈ text :=
  (trimEndWhile_starts _ text).subset member

/-! ### Joining -/

variable {mark : Char} {parts : List (List Char)}

theorem mem_intercalate (member : c ∈ List.intercalate [mark] parts) :
    c = mark ∨ ∃ part ∈ parts, c ∈ part := by
  induction parts with
  | nil => simp at member
  | cons part parts ih =>
    cases parts with
    | nil => exact Or.inr ⟨part,by simp,by simpa using member⟩
    | cons next more =>
      rw [List.intercalate_cons_cons,List.append_assoc,List.mem_append,List.mem_append] at member
      rcases member with here | between | later
      · exact Or.inr ⟨part,by simp,here⟩
      · exact Or.inl (List.mem_singleton.mp between)
      · rcases ih later with same | ⟨other,listed,inside⟩
        · exact Or.inl same
        · exact Or.inr ⟨other,List.mem_cons_of_mem part listed,inside⟩

theorem forall_of_splitOn {P : Char → Prop} (mark : Char) (between : P mark)
    (parts : ∀ part ∈ text.splitOn mark, ∀ c ∈ part, P c) : ∀ c ∈ text, P c := by
  intro c member
  rw [← @List.intercalate_splitOn _ text _ _ mark] at member
  rcases mem_intercalate member with rfl | ⟨part,listed,inside⟩
  · exact between
  · exact parts part listed c inside

/-- A character behind a text becomes part of its last piece. -/
theorem splitOn_concat (other : c ≠ mark) (text : List Char) :
    ∃ pieces last, text.splitOn mark = pieces ++ [last] ∧
      (text ++ [c]).splitOn mark = pieces ++ [last ++ [c]] := by
  induction text with
  | nil =>
    refine ⟨[],[],List.splitOn_nil mark,?_⟩
    exact List.splitOn_eq_singleton (by simpa using other.symm)
  | cons d rest ih =>
    obtain ⟨pieces,last,whole,longer⟩ := ih
    rw [List.cons_append,List.splitOn_cons_eq_if_modifyHead,List.splitOn_cons_eq_if_modifyHead,whole,longer]
    split
    · exact ⟨[] :: pieces,last,rfl,rfl⟩
    · cases pieces with
      | nil => exact ⟨[],d :: last,rfl,rfl⟩
      | cons first pieces => exact ⟨(d :: first) :: pieces,last,rfl,rfl⟩

theorem trim_intercalate (solid : Unicode.isBlank mark = false)
    (trimmed : ∀ part ∈ parts, trim part = part) :
    trim (List.intercalate [mark] parts) = List.intercalate [mark] parts := by
  induction parts with
  | nil => rfl
  | cons part parts ih =>
    have here := trimmed part (by simp)
    cases parts with
    | nil => simpa using here
    | cons next more =>
      rw [List.intercalate_cons_cons]
      have between : trim [mark] = [mark] := trim_eq_self (by simpa using solid)
      exact trim_append (trim_append here between) (ih fun part listed => trimmed part (List.mem_cons_of_mem _ listed))

end DnsPolicy.Text
