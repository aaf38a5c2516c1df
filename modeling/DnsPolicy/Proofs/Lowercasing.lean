import DnsPolicy.Unicode.Lowercase
import Mathlib.Data.List.Basic

/-! What lower-casing can give: no ASCII character that has another lower-case form, and a dot only
where there was one. An ASCII text in lower case stays as it is. -/
namespace DnsPolicy.Unicode

/-- An ASCII character that is its own lower-case form. -/
def Settled (c : Char) : Prop := c.toNat < 0x80 ∧ c.toLower = c

theorem ascii_induction {motive : Char → Prop} (each : ∀ n < 0x80, motive (Char.ofNat n)) {c : Char}
    (ascii : c.toNat < 0x80) : motive c := by
  have here := each c.toNat ascii
  rwa [Char.ofNat_toNat] at here

private theorem toLower_ascii {c : Char} (ascii : c.toNat < 0x80) :
    Settled c.toLower ∧ (c.toLower = '.' → c = '.') :=
  ascii_induction (motive := fun c => Settled c.toLower ∧ (c.toLower = '.' → c = '.'))
    (by unfold Settled; decide +kernel) ascii

theorem settled_toLower {c : Char} (ascii : c.toNat < 0x80) : Settled c.toLower :=
    (toLower_ascii ascii).1

private theorem eq_dot_of_toLower {c : Char} (ascii : c.toNat < 0x80) : c.toLower = '.' → c = '.' :=
  (toLower_ascii ascii).2

/-- All images are characters outside of ASCII, or the one image is `k`. -/
def Run.LeavesAscii (run : Run) : Prop :=
  (0x80 ≤ run.first + run.shift ∧
    (run.last + run.shift < 0xd800 ∨ 0xe000 ≤ run.first + run.shift ∧ run.last + run.shift < 0x110000)) ∨
  run.first = run.last ∧ run.first + run.shift = 'k'.toNat

instance (run : Run) : Decidable run.LeavesAscii := by
  unfold Run.LeavesAscii
  infer_instance

private theorem lowercaseRuns_leaveAscii : ∀ run ∈ lowercaseRuns, run.LeavesAscii :=
    by decide +kernel

theorem toNat_ofNat {n : Nat} (valid : n < 0xd800 ∨ 0xe000 ≤ n ∧ n < 0x110000) :
    (Char.ofNat n).toNat = n := by
  have isChar : n.isValidChar := by
    unfold Nat.isValidChar
    omega
  rw [Char.ofNat,dif_pos isChar]
  rfl

private theorem apply_lowercaseRuns {c : Char} (other : 0x80 ≤ c.toNat) :
    0x80 ≤ (Run.apply lowercaseRuns c).toNat ∨ Run.apply lowercaseRuns c = 'k' := by
  rw [Run.apply]
  split
  · exact Or.inl other
  next run found =>
    have covers := List.find?_some found
    simp only [Run.covers,Bool.and_eq_true,decide_eq_true_eq] at covers
    obtain ⟨⟨low,high⟩,_⟩ := covers
    rcases lowercaseRuns_leaveAscii run (List.mem_of_find?_eq_some found) with ⟨above,valid⟩ | ⟨one,image⟩
    · left
      rw [toNat_ofNat (by omega)]
      omega
    · right
      have same : ((c.toNat : Int) + run.shift).toNat = 'k'.toNat := by omega
      rw [same]
      rfl

private theorem mem_lowerChar {c d : Char} (member : d ∈ lowerChar c) :
    (0x80 ≤ d.toNat ∨ Settled d) ∧ (d = '.' → c = '.') := by
  rw [lowerChar] at member
  split at member
  next ascii =>
    have same := List.mem_singleton.mp member
    subst same
    exact ⟨Or.inr (settled_toLower ascii),eq_dot_of_toLower ascii⟩
  next beyond =>
    split at member
    · have either : d = 'i' ∨ d = '\u0307' := by simpa using member
      rcases either with rfl | rfl
      · exact ⟨Or.inr (by unfold Settled; decide),fun dot => absurd dot (by decide)⟩
      · exact ⟨Or.inl (by decide),fun dot => absurd dot (by decide)⟩
    · have same := List.mem_singleton.mp member
      rcases apply_lowercaseRuns (Nat.le_of_not_lt beyond) with outside | image
      · rw [← same] at outside
        exact ⟨Or.inl outside,by rintro rfl; exact absurd outside (by decide)⟩
      · rw [← same] at image
        subst image
        exact ⟨Or.inr (by unfold Settled; decide),fun dot => absurd dot (by decide)⟩

private theorem lowerChar_ne_nil (c : Char) : lowerChar c ≠ [] := by
  rw [lowerChar]
  split
  · simp
  · split <;> simp

/-- What takes the place of a character in a text. -/
theorem lowerAfter_cons (before rest : List Char) (c : Char) :
    ∃ piece, piece ≠ [] ∧ lowerAfter before (c :: rest) = piece ++ lowerAfter (c :: before) rest ∧
      ∀ d ∈ piece, (0x80 ≤ d.toNat ∨ Settled d) ∧ (d = '.' → c = '.') := by
  rw [lowerAfter]
  split
  · refine ⟨_,?_,rfl,?_⟩
    · simp
    · intro d member
      have sigma : d = 'ς' ∨ d = 'σ' := by
        have same := List.mem_singleton.mp member
        split at same
        · exact Or.inl same
        · exact Or.inr same
      rcases sigma with rfl | rfl
      · exact ⟨Or.inl (by decide),fun dot => absurd dot (by decide)⟩
      · exact ⟨Or.inl (by decide),fun dot => absurd dot (by decide)⟩
  · exact ⟨_,lowerChar_ne_nil c,rfl,fun d member => mem_lowerChar member⟩

theorem mem_lowerAfter {before text : List Char} {d : Char} (member : d ∈ lowerAfter before text) :
    0x80 ≤ d.toNat ∨ Settled d := by
  induction text generalizing before with
  | nil => contradiction
  | cons c rest ih =>
    obtain ⟨piece,_,split,settled⟩ := lowerAfter_cons before rest c
    rw [split] at member
    rcases List.mem_append.mp member with first | later
    · exact (settled d first).1
    · exact ih later

private theorem lowerAfter_eq_nil_iff {before text : List Char} :
    lowerAfter before text = [] ↔ text = [] := by
  cases text with
  | nil => exact iff_of_true rfl rfl
  | cons c rest =>
    obtain ⟨piece,full,split,_⟩ := lowerAfter_cons before rest c
    simp [split,full]

private theorem getLast?_lowerAfter {before text : List Char}
    (dot : (lowerAfter before text).getLast? = some '.') : text.getLast? = some '.' := by
  induction text generalizing before with
  | nil => contradiction
  | cons c rest ih =>
    obtain ⟨piece,full,split,settled⟩ := lowerAfter_cons before rest c
    rw [split,List.getLast?_append] at dot
    cases rest with
    | nil =>
      have last : piece.getLast? = some '.' := by simpa [lowerAfter] using dot
      have first := (settled '.' (List.mem_of_getLast? last)).2 rfl
      rw [first]
      rfl
    | cons next more =>
      cases ends : (lowerAfter (c :: before) (next :: more)).getLast? with
      | none =>
        have nothing := lowerAfter_eq_nil_iff.mp (List.getLast?_eq_none_iff.mp ends)
        contradiction
      | some last =>
        rw [ends] at dot
        have same : last = '.' := Option.some.inj dot
        rw [List.getLast?_cons_cons]
        exact ih (ends.trans (congrArg some same))

theorem lowerAfter_eq_self {before text : List Char} (settled : ∀ c ∈ text, Settled c) :
    lowerAfter before text = text := by
  induction text generalizing before with
  | nil => rfl
  | cons c rest ih =>
    obtain ⟨ascii,same⟩ := settled c (by simp)
    have letter : c ≠ 'Σ' := by
      rintro rfl
      exact absurd ascii (by decide)
    rw [lowerAfter,if_neg letter,lowerChar,if_pos ascii,same,
      ih fun d member => settled d (List.mem_cons_of_mem c member)]
    rfl

theorem getLast?_lower {text : List Char} (dot : (lower text).getLast? = some '.') :
    text.getLast? = some '.' :=
  getLast?_lowerAfter dot

end DnsPolicy.Unicode
