import DnsPolicy.Regex
import Mathlib.Data.List.Basic

/-! What an expression matches, said without sets of places, and that the matcher over sets of places
finds a match just where there is one. -/
namespace DnsPolicy.Regex

/-! ### Matches -/

/-- As many steps one behind the other, each over a part of the text between what is in front of it and
what is behind it. -/
inductive Runs (step : List Char → List Char → List Char → Prop) :
    Nat → List Char → List Char → List Char → Prop
  | none {front back : List Char} : Runs step 0 front [] back
  | more {count : Nat} {front one other back : List Char} (first : step front one (other ++ back))
      (rest : Runs step count (front ++ one) other back) :
      Runs step (count + 1) front (one ++ other) back

/-- The expression matches what stands between `front` and `back`. -/
def Spans : Regex → (front middle back : List Char) → Prop
  | .empty, _, middle, _ => middle = []
  | .char set, _, middle, _ => ∃ c, middle = [c] ∧ set.contains c
  | .anchor mark, front, middle, back => middle = [] ∧ mark.holds ⟨front.getLast?,back.head?⟩
  | .seq first second, front, middle, back =>
    ∃ one other, middle = one ++ other ∧ Spans first front one (other ++ back) ∧
      Spans second (front ++ one) other back
  | .either left right, front, middle, back => Spans left front middle back ∨ Spans right front middle back
  | .repeated body least most, front, middle, back =>
    ∃ extra, (∀ bound ∈ most, extra ≤ bound - least) ∧
      Runs (Spans body) (least + extra) front middle back

namespace Runs

variable {step : List Char → List Char → List Char → Prop} {count more : Nat}
  {front one other middle back : List Char}

@[simp] theorem zero_iff : Runs step 0 front middle back ↔ middle = [] := by
  constructor
  · intro runs
    cases runs
    rfl
  · rintro rfl
    exact .none

private theorem succ_iff : Runs step (count + 1) front middle back ↔
    ∃ one other, middle = one ++ other ∧ step front one (other ++ back) ∧
      Runs step count (front ++ one) other back := by
  constructor
  · intro runs
    cases runs with
    | more first rest => exact ⟨_,_,rfl,first,rest⟩
  · rintro ⟨one,other,rfl,first,rest⟩
    exact .more first rest

private theorem add_iff : Runs step (count + more) front middle back ↔
    ∃ one other, middle = one ++ other ∧ Runs step count front one (other ++ back) ∧
      Runs step more (front ++ one) other back := by
  induction count generalizing front middle with
  | zero => simp
  | succ count ih =>
    rw [Nat.succ_add,succ_iff]
    simp only [ih,succ_iff]
    constructor
    · rintro ⟨one,_,rfl,first,two,other,rfl,second,rest⟩
      refine ⟨one ++ two,other,by simp,⟨one,two,rfl,by simpa using first,second⟩,?_⟩
      rwa [← List.append_assoc]
    · rintro ⟨_,other,rfl,⟨one,two,rfl,first,second⟩,rest⟩
      refine ⟨one,two ++ other,by simp,by simpa using first,two,other,rfl,second,?_⟩
      rwa [List.append_assoc]

/-- Steps over nothing may be left out, so there need be no more steps than characters. -/
theorem shorten (runs : Runs step count front middle back) :
    ∃ fewer ≤ count, fewer ≤ middle.length ∧ Runs step fewer front middle back := by
  induction runs with
  | none => exact ⟨0,Nat.le_refl 0,Nat.zero_le _,.none⟩
  | @more count front one other back first rest ih =>
    obtain ⟨fewer,le,short,runs⟩ := ih
    cases one with
    | nil =>
      rw [List.append_nil] at runs
      exact ⟨fewer,Nat.le_succ_of_le le,short,runs⟩
    | cons c one =>
      refine ⟨fewer + 1,Nat.succ_le_succ le,?_,.more first runs⟩
      simp only [List.length_append,List.length_cons]
      omega

end Runs

/-! ### Sets of places -/

/-- The place behind `front` is in the set. -/
def Marked (starts : List Bool) (front : List Char) : Prop := starts[front.length]? = some true

/-- From the places where a match may start, `f` comes to those where one step from there ends. -/
structure Follows (text : List Char) (f : List Bool → List Bool)
    (step : List Char → List Char → List Char → Prop) : Prop where
  length {starts : List Bool} (size : starts.length = text.length + 1) :
    (f starts).length = text.length + 1
  marked {starts : List Bool} (size : starts.length = text.length + 1) {front back : List Char}
    (split : front ++ back = text) : Marked (f starts) front ↔
      ∃ before middle, front = before ++ middle ∧ Marked starts before ∧ step before middle back

@[simp] theorem length_placesAfter (before : Option Char) (text : List Char) :
    (placesAfter before text).length = text.length + 1 := by
  induction text generalizing before with
  | nil => rfl
  | cons c rest ih => rw [placesAfter,List.length_cons,ih,List.length_cons]

private theorem placesAfter_getElem? (before : Option Char) (front back : List Char) :
    (placesAfter before (front ++ back))[front.length]? =
      some ⟨front.getLast?.or before,back.head?⟩ := by
  induction front generalizing before with
  | nil => cases back <;> rfl
  | cons c front ih =>
    rw [List.cons_append,placesAfter,List.length_cons,List.getElem?_cons_succ,ih]
    cases front <;> simp [List.getLast?_cons]

private theorem places_getElem? (front back : List Char) :
    (places (front ++ back))[front.length]? = some ⟨front.getLast?,back.head?⟩ := by
  rw [places,placesAfter_getElem?,Option.or_none]

namespace Follows

variable {text : List Char} {f g : List Bool → List Bool}
  {step other : List Char → List Char → List Char → Prop}

private theorem id : Follows text (fun starts => starts) fun _ middle _ => middle = [] where
  length size := size
  marked _ _ _ _ := by simp

private theorem advance (set : CharSet) :
    Follows text (advance set text) fun _ middle _ => ∃ c, middle = [c] ∧ set.contains c where
  length size := by simp [Regex.advance,size]
  marked := by
    intro starts size front back split
    subst split
    rcases front.eq_nil_or_concat with rfl | ⟨before,c,rfl⟩
    · simp [Marked,Regex.advance]
    · simp only [List.concat_eq_append] at size ⊢
      have there : (before ++ [c] ++ back)[before.length]? = some c := by simp
      simp only [Marked,Regex.advance,List.length_append,List.length_singleton,
        List.getElem?_cons_succ,List.getElem?_zipWith,there]
      constructor
      · cases found : starts[before.length]? with
        | none => simp
        | some here =>
          intro same
          simp only [Option.some.injEq,Bool.and_eq_true] at same
          exact ⟨before,[c],rfl,by rw [found,same.1],c,rfl,same.2⟩
      · rintro ⟨front,_,joined,marked,d,rfl,inside⟩
        obtain ⟨rfl,same⟩ := List.append_inj' joined rfl
        obtain rfl := List.singleton_inj.mp same
        rw [marked]
        simpa using inside

private theorem anchor (mark : Anchor) :
    Follows text (fun starts => List.zipWith (fun here place => here && mark.holds place) starts (places text))
      fun front middle back => middle = [] ∧ mark.holds ⟨front.getLast?,back.head?⟩ where
  length size := by simp [places,size]
  marked := by
    intro starts size front back split
    subst split
    simp only [Marked,List.getElem?_zipWith,places_getElem?]
    constructor
    · cases found : starts[front.length]? with
      | none => simp
      | some here =>
        intro same
        simp only [Option.some.injEq,Bool.and_eq_true] at same
        exact ⟨front,[],by simp,by rw [found,same.1],rfl,same.2⟩
    · rintro ⟨before,_,rfl,marked,rfl,holds⟩
      simp only [List.append_nil] at holds ⊢
      simp [marked,holds]

private theorem seq (first : Follows text f step) (second : Follows text g other) :
    Follows text (fun starts => g (f starts)) fun front middle back =>
      ∃ one two, middle = one ++ two ∧ step front one (two ++ back) ∧ other (front ++ one) two back where
  length size := second.length (first.length size)
  marked := by
    intro starts size front back split
    rw [second.marked (first.length size) split]
    constructor
    · rintro ⟨between,two,rfl,marked,last⟩
      rw [first.marked size (by rw [← split,List.append_assoc])] at marked
      obtain ⟨before,one,rfl,marked,start⟩ := marked
      exact ⟨before,one ++ two,by simp,marked,one,two,rfl,start,last⟩
    · rintro ⟨before,_,rfl,marked,one,two,rfl,start,last⟩
      refine ⟨before ++ one,two,by simp,?_,last⟩
      rw [first.marked size (by simpa using split)]
      exact ⟨before,one,rfl,marked,start⟩

private theorem either (first : Follows text f step) (second : Follows text g other) :
    Follows text (fun starts => List.zipWith (· || ·) (f starts) (g starts)) fun front middle back =>
      step front middle back ∨ other front middle back where
  length size := by simp [first.length size,second.length size]
  marked := by
    intro starts size front back split
    have inside : front.length < text.length + 1 := by
      rw [← split,List.length_append]
      omega
    have left := first.marked size split
    have right := second.marked size split
    rw [Marked,List.getElem?_eq_getElem (by rwa [first.length size])] at left
    rw [Marked,List.getElem?_eq_getElem (by rwa [second.length size])] at right
    rw [Marked,List.getElem?_zipWith,List.getElem?_eq_getElem (by rwa [first.length size]),
      List.getElem?_eq_getElem (by rwa [second.length size])]
    simp only [Option.some.injEq,Bool.or_eq_true] at left right ⊢
    rw [left,right]
    constructor
    · rintro (⟨before,middle,joined,marked,steps⟩ | ⟨before,middle,joined,marked,steps⟩)
      · exact ⟨before,middle,joined,marked,.inl steps⟩
      · exact ⟨before,middle,joined,marked,.inr steps⟩
    · rintro ⟨before,middle,joined,marked,steps | steps⟩
      · exact .inl ⟨before,middle,joined,marked,steps⟩
      · exact .inr ⟨before,middle,joined,marked,steps⟩

private theorem congr (follows : Follows text f step)
    (same : ∀ front middle back, front ++ middle ++ back = text →
      (step front middle back ↔ other front middle back)) : Follows text f other where
  length := follows.length
  marked := by
    intro starts size front back split
    rw [follows.marked size split]
    constructor
    · rintro ⟨before,middle,rfl,marked,steps⟩
      exact ⟨before,middle,rfl,marked,(same _ _ _ split).mp steps⟩
    · rintro ⟨before,middle,rfl,marked,steps⟩
      exact ⟨before,middle,rfl,marked,(same _ _ _ split).mpr steps⟩

end Follows

/-! ### Repetition -/

variable {text : List Char} {f : List Bool → List Bool}
  {step : List Char → List Char → List Char → Prop}

private theorem times_succ (f : List Bool → List Bool) (n : Nat) (starts : List Bool) :
    times f (n + 1) starts = times f n (f starts) := by
  rw [times]
  split
  next still =>
    rw [still]
    cases n with
    | zero => rfl
    | succ n => rw [times,if_pos still]
  next => rfl

private theorem reach_succ (f : List Bool → List Bool) (n : Nat) (starts : List Bool) :
    reach f (n + 1) starts = reach f n (List.zipWith (· || ·) starts (f starts)) := by
  rw [reach]
  split
  next still =>
    rw [still]
    cases n with
    | zero => rfl
    | succ n => rw [reach,if_pos still]
  next => rfl

private theorem follows_times (follows : Follows text f step) (n : Nat) :
    Follows text (times f n) (Runs step n) := by
  induction n with
  | zero => exact Follows.id.congr fun _ _ _ _ => Runs.zero_iff.symm
  | succ n ih =>
    have same : times f (n + 1) = fun starts => times f n (f starts) := funext (times_succ f n)
    rw [same]
    exact (follows.seq ih).congr fun _ _ _ _ => Runs.succ_iff.symm

private theorem follows_reach (follows : Follows text f step) (n : Nat) :
    Follows text (reach f n) fun front middle back => ∃ m ≤ n, Runs step m front middle back := by
  induction n with
  | zero =>
    refine Follows.id.congr fun front middle back _ => ?_
    simp
  | succ n ih =>
    have same : reach f (n + 1) = fun starts => reach f n (List.zipWith (· || ·) starts (f starts)) :=
      funext (reach_succ f n)
    rw [same]
    refine ((Follows.id.either follows).seq ih).congr fun front middle back _ => ?_
    constructor
    · rintro ⟨one,two,rfl,rfl | first,m,le,rest⟩
      · exact ⟨m,Nat.le_succ_of_le le,by simpa using rest⟩
      · exact ⟨m + 1,Nat.succ_le_succ le,.more first rest⟩
    · rintro ⟨m,le,runs⟩
      cases runs with
      | none => exact ⟨[],[],rfl,.inl rfl,0,Nat.zero_le n,.none⟩
      | more first rest => exact ⟨_,_,rfl,.inr first,_,Nat.le_of_succ_le_succ le,rest⟩

private theorem follows_repeated (follows : Follows text f step) (least : Nat) (most : Option Nat) :
    Follows text (fun starts =>
        let more :=
          match most with
          | none => text.length + 1
          | some most => min (most - least) (text.length + 1)
        reach f more (times f least starts)) fun front middle back =>
      ∃ extra, (∀ bound ∈ most, extra ≤ bound - least) ∧
        Runs step (least + extra) front middle back := by
  refine ((follows_times follows least).seq (follows_reach follows _)).congr fun front middle back split => ?_
  have inside : middle.length ≤ text.length := by
    rw [← split]
    simp only [List.length_append]
    omega
  constructor
  · rintro ⟨one,two,rfl,first,extra,le,rest⟩
    refine ⟨extra,?_,Runs.add_iff.mpr ⟨one,two,rfl,first,rest⟩⟩
    rintro bound rfl
    exact Nat.le_trans le (Nat.min_le_left _ _)
  · rintro ⟨extra,bounded,runs⟩
    obtain ⟨one,two,rfl,first,rest⟩ := Runs.add_iff.mp runs
    obtain ⟨fewer,le,short,rest⟩ := rest.shorten
    refine ⟨one,two,rfl,first,fewer,?_,rest⟩
    rw [List.length_append] at inside
    cases most with
    | none => exact Nat.le_succ_of_le (by omega)
    | some most =>
      have := bounded most rfl
      simp only [Nat.le_min]
      omega

/-! ### Searching -/

private theorem follows_ends (text : List Char) (regex : Regex) :
    Follows text (ends text (places text) regex) (Spans regex) := by
  induction regex with
  | empty => exact Follows.id
  | char set => exact Follows.advance set
  | anchor mark => exact Follows.anchor mark
  | seq first second ih ih' => exact ih.seq ih'
  | either left right ih ih' => exact ih.either ih'
  | repeated body least most ih => exact follows_repeated ih least most

/-- The search finds a match just when some part of the text is one. -/
theorem finds_iff (regex : Regex) (text : List Char) :
    regex.finds text = true ↔
      ∃ front middle back, text = front ++ middle ++ back ∧ regex.Spans front middle back := by
  have follows := follows_ends text regex
  have size : ((places text).map fun _ => true).length = text.length + 1 := by
    rw [List.length_map,places,length_placesAfter]
  have everywhere {front back : List Char} (split : front ++ back = text) :
      Marked ((places text).map fun _ => true) front := by
    rw [Marked,← split,List.getElem?_map,places_getElem?]
    rfl
  rw [finds,List.any_eq_true]
  constructor
  · rintro ⟨_,member,rfl⟩
    obtain ⟨i,inside,same⟩ := List.getElem_of_mem member
    have bound : i < text.length + 1 := follows.length size ▸ inside
    have marked : Marked (ends text (places text) regex ((places text).map fun _ => true))
        (text.take i) := by
      rw [Marked,List.length_take,Nat.min_eq_left (by omega),
        List.getElem?_eq_getElem inside]
      exact congrArg some same
    obtain ⟨front,middle,joined,_,spans⟩ :=
      (follows.marked size (List.take_append_drop i text)).mp marked
    exact ⟨front,middle,text.drop i,by rw [← joined,List.take_append_drop],spans⟩
  · rintro ⟨front,middle,back,rfl,spans⟩
    have marked := (follows.marked size rfl).mpr
      ⟨front,middle,rfl,everywhere (by rw [List.append_assoc]),spans⟩
    exact ⟨true,List.mem_of_getElem? marked,rfl⟩

end DnsPolicy.Regex
