import DnsPolicy.Proofs.LetterCase
import DnsPolicy.Proofs.NormalForm

/-! What a rewrite in normal form looks like, and which spellings lead to it: other letter case, dots
behind a name and white space around all of it make no difference. -/
namespace DnsPolicy

/-! ### Normal forms -/

/-- Lower-case letters, digits, dots, underscores and hyphens. -/
def Hostname.isCanonicalChar (c : Char) : Bool :=
  c.isLower || c.isDigit || c == '.' || c == '_' || c == '-'

/-- At least one canonical character, canonical characters only, and no dot at the end. -/
structure Hostname.IsCanonical (name : List Char) : Prop where
  filled : name ≠ []
  letters : ∀ c ∈ name, isCanonicalChar c = true
  undotted : name.getLast? ≠ some '.'

private theorem Hostname.isCanonicalChar_of_settled {c : Char} (settled : Unicode.Settled c)
    (named : isNameChar c = true) : isCanonicalChar c = true := by
  have ascii := settled.1
  exact Unicode.ascii_induction
    (motive := fun c => Unicode.Settled c → isNameChar c = true → isCanonicalChar c = true)
    (by unfold Unicode.Settled; decide +kernel) ascii settled named

namespace Rewrite
open Text
open Unicode (Solid Settled)

variable {rewrite normal : Rewrite}

private theorem Plain.isCanonical {text : List Char} (plain : Plain text)
    (named : Hostname.isName text = true) : Hostname.IsCanonical text := by
  obtain ⟨filled,letters⟩ := Hostname.isName_iff.mp named
  exact
    { filled
      letters := fun c member =>
        Hostname.isCanonicalChar_of_settled (plain.settled c member) (letters c member)
      undotted := plain.undotted }

private theorem stem_cases (domain : List Char) : domain = stem domain ∨
    domain = '*' :: '.' :: stem domain := by
  unfold stem
  split
  · exact .inr rfl
  · exact .inl rfl

private theorem Plain.stem {domain : List Char} (plain : Plain domain)
    (named : Hostname.isName (stem domain) = true) : Plain (Rewrite.stem domain) := by
  rcases stem_cases domain with bare | starred
  · exact bare ▸ plain
  · obtain ⟨c,rest,some⟩ : ∃ c rest, Rewrite.stem domain = c :: rest := by
      cases found : Rewrite.stem domain with
      | nil => simp [found,Hostname.isName] at named
      | cons c rest => exact ⟨c,rest,rfl⟩
    rw [some] at starred ⊢
    rw [starred] at plain
    exact
      { undotted := by simpa only [List.getLast?_cons_cons] using plain.undotted
        solid := fun d member => plain.solid d (List.mem_cons_of_mem _ (List.mem_cons_of_mem _ member))
        settled := fun d member => plain.settled d (List.mem_cons_of_mem _ (List.mem_cons_of_mem _ member)) }

/-! ### Decorations -/

/-- In any letter case, with so many dots behind it and white space around all of that. -/
def Decorates (dots : Nat) (text written : String) : Prop :=
  ∃ front letters back, SameLetters letters text.toList ∧ (∀ c ∈ front, Unicode.isBlank c = true) ∧
    (∀ c ∈ back, Unicode.isBlank c = true) ∧
    written.toList = front ++ (letters ++ List.replicate dots '.' ++ back)

variable {dots : Nat} {text written : String}

private theorem Decorates.trim (decorates : Decorates dots text written)
    (plain : Plain text.toList) :
    SameLetters (trim written.toList) (text.toList ++ List.replicate dots '.') := by
  obtain ⟨front,letters,back,same,ahead,behind,joined⟩ := decorates
  have spelt : SameLetters written.toList (front ++ (text.toList ++ List.replicate dots '.' ++ back)) := by
    simp only [SameLetters,asciiLower] at same ⊢
    rw [joined]
    simp only [List.map_append,same]
  have solid : ∀ c ∈ text.toList ++ List.replicate dots '.', Unicode.isBlank c = false := by
    intro c member
    rcases List.mem_append.mp member with letter | dot
    · exact (plain.solid c letter).2
    · rw [List.eq_of_mem_replicate dot]
      decide
  have trimmed : Text.trim (front ++ (text.toList ++ List.replicate dots '.' ++ back)) =
      text.toList ++ List.replicate dots '.' :=
    trim_around ahead behind (fun c first => solid c (List.mem_of_head? first))
      fun c last => solid c (List.mem_of_getLast? last)
  rw [← trimmed]
  exact spelt.trim

private theorem Decorates.lower_trim (decorates : Decorates dots text written)
    (plain : Plain text.toList) :
    Unicode.lower (Text.trim written.toList) = text.toList ++ List.replicate dots '.' := by
  rw [(decorates.trim plain).lower]
  apply Unicode.lowerAfter_eq_self
  intro c member
  rcases List.mem_append.mp member with letter | dot
  · exact plain.settled c letter
  · rw [List.eq_of_mem_replicate dot]
    unfold Settled
    decide

private theorem Decorates.lower_trimDots (decorates : Decorates dots text written)
    (plain : Plain text.toList) :
    Unicode.lower (trimDots (Text.trim written.toList)) = text.toList := by
  rw [(decorates.trim plain).trimDots.lower,trimDots_append_replicate plain.undotted]
  exact Unicode.lowerAfter_eq_self plain.settled

/-- Only an answer that is an IPv6 address does not pass as a name. -/
theorem Formed.isName_answer (formed : normal.Formed) (other : normal.recordType ≠ .aaaa) :
    Hostname.isName normal.answer.toList = true := by
  rcases formed.read_or_named with read | named
  · obtain ⟨address,read⟩ := Option.isSome_iff_exists.mp read
    apply Address.isName_of_read? read
    cases address with
    | v4 => rfl
    | v6 groups => exact absurd (by simp [recordType,address?,Address.parse?,read]) other
  · exact named

/-- Normalizing ends in lower-case ASCII without dots at the end, and whatever differs from that in
letter case, dots at the end and white space around it ends there as well. -/
theorem normalize_canonical (rewrite : Rewrite) (given : rewrite.normalize = .ok normal) :
    (∃ name, Hostname.IsCanonical name ∧
      (normal.domain.toList = name ∨ normal.domain.toList = '*' :: '.' :: name)) ∧
    (normal.address?.isSome = true ∨ Hostname.IsCanonical normal.answer.toList) ∧
    normal.normalize = .ok normal ∧
    ∀ (dots more : Nat) (written : Rewrite), Decorates dots normal.domain written.domain →
      Decorates more normal.answer written.answer → (normal.recordType = .aaaa → more = 0) →
        written.normalize = .ok normal := by
  have formed := formed_of_normalize given
  refine ⟨?_,?_,normal_of_normalize given,?_⟩
  · exact ⟨_,(formed.domain.stem formed.stem).isCanonical formed.stem,stem_cases _⟩
  · exact formed.read_or_named.imp_right formed.answer.isCanonical
  · intro dots more written domain answer undotted
    simp only [normalize,domain.lower_trimDots formed.domain,formed.stem,if_true,
      answer.lower_trim formed.answer]
    have named (some : more ≠ 0) := formed.isName_answer (mt undotted some)
    rw [normalAnswer_dotted _ formed.answer formed.read_or_named named]
    rw [Except.map,String.ofList_toList,String.ofList_toList]

/-- A letter that is none of ASCII, and an address that has dots behind it. -/
theorem normalize_canonical_dotted :
    let normal : Rewrite := ⟨"*.kids.example","1.2.3.4"⟩
    (⟨"*.\u212AIDS.Example.","1.2.3.4."⟩ : Rewrite).normalize = .ok normal ∧ normal.recordType = .a ∧
      (⟨"\t*.Kids.EXAMPLE. ","\u00a01.2.3.4...\n"⟩ : Rewrite).normalize = .ok normal := by
  intro normal
  have given : (⟨"*.\u212AIDS.Example.","1.2.3.4."⟩ : Rewrite).normalize = .ok normal := by decide +kernel
  obtain ⟨_,_,_,decorated⟩ := normalize_canonical _ given
  have address : normal.recordType = .a := by decide +kernel
  have blank {text : List Char} (all : text.all Unicode.isBlank = true) : ∀ c ∈ text, Unicode.isBlank c = true :=
    List.all_eq_true.mp all
  refine ⟨given,address,decorated 1 3 _ ?_ ?_ (by simp [address])⟩
  · exact ⟨['\t'],"*.Kids.EXAMPLE".toList,[' '],by decide,blank (by decide),blank (by decide),by decide⟩
  · exact ⟨['\u00a0'],"1.2.3.4".toList,['\n'],by decide,blank (by decide),blank (by decide),by decide⟩

end Rewrite

end DnsPolicy
