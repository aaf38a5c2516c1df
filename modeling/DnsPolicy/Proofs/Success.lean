import Mathlib.Data.List.Forall2

/-! When computations that may fail give a result. -/
namespace DnsPolicy

variable {ε α β : Type}

theorem bind_eq_ok_iff {first : Except ε α} {next : α → Except ε β} {result : β} :
    (first >>= next) = .ok result ↔ ∃ value, first = .ok value ∧ next value = .ok result := by
  cases first <;> simp [bind,Except.bind]

theorem bind_eq_error_iff {first : Except ε α} {next : α → Except ε β} {failure : ε} :
    first >>= next = .error failure ↔
      first = .error failure ∨ ∃ value, first = .ok value ∧ next value = .error failure := by
  cases first with
  | error other => simp [bind,Except.bind]
  | ok value => simp [bind,Except.bind]

theorem map_eq_ok_iff {first : Except ε α} {f : α → β} {result : β} :
    first.map f = .ok result ↔ ∃ value, first = .ok value ∧ f value = result := by
  cases first <;> simp [Except.map]

theorem exists_map_iff {first : Except ε α} {f : α → β} :
    (∃ result, first.map f = .ok result) ↔ ∃ value, first = .ok value := by
  cases first <;> simp [Except.map]

theorem exists_of_isOk {result : Except ε α} (accepted : result.isOk = true) :
    ∃ value, result = .ok value := by
  cases result with
  | error => contradiction
  | ok value => exact ⟨value,rfl⟩

theorem eq_ok_of_isOk {result : Except ε α} (accepted : result.isOk = true) (default : α) :
    result = .ok (result.toOption.getD default) := by
  cases result with
  | error => contradiction
  | ok value => rfl

/-- Both succeed, with results that are related, or both fail. -/
inductive Agree {δ α β : Type} (related : α → β → Prop) : Except ε α → Except δ β → Prop
  | ok {result : α} {other : β} (same : related result other) : Agree related (.ok result) (.ok other)
  | error (failure : ε) (other : δ) : Agree related (.error failure) (.error other)

namespace Agree

variable {δ α' β' : Type} {related : α → β → Prop} {first : Except ε α} {second : Except δ β}

theorem exists_iff (agree : Agree related first second) :
    (∃ result, first = .ok result) ↔ ∃ result, second = .ok result := by
  cases agree with
  | ok => exact iff_of_true ⟨_,rfl⟩ ⟨_,rfl⟩
  | error => simp

theorem refl {related : α → α → Prop} (refl : ∀ result, related result result)
    (first : Except ε α) : Agree related first first := by
  cases first with
  | ok result => exact .ok (refl result)
  | error failure => exact .error failure failure

theorem imp {after : α → β → Prop} (agree : Agree related first second)
    (onward : ∀ result other, related result other → after result other) : Agree after first second := by
  cases agree with
  | ok same => exact .ok (onward _ _ same)
  | error failure other => exact .error failure other

theorem map {after : α' → β' → Prop} {f : α → α'} {g : β → β'} (agree : Agree related first second)
    (onward : ∀ result other, related result other → after (f result) (g other)) :
    Agree after (first.map f) (second.map g) := by
  cases agree with
  | ok same => exact .ok (onward _ _ same)
  | error failure other => exact .error failure other

theorem bind {after : α' → β' → Prop} {f : α → Except ε α'} {g : β → Except δ β'}
    (agree : Agree related first second)
    (onward : ∀ result other, related result other → Agree after (f result) (g other)) :
    Agree after (first >>= f) (second >>= g) := by
  cases agree with
  | ok same => exact onward _ _ same
  | error failure other => exact .error failure other

theorem mapM {f : α' → Except ε α} {g : β' → Except δ β} {items : List α'} {others : List β'}
    (agree : List.Forall₂ (fun item other => Agree related (f item) (g other)) items others) :
    Agree (List.Forall₂ related) (items.mapM f) (others.mapM g) := by
  induction agree with
  | nil => exact .ok .nil
  | cons head _ ih =>
    rw [List.mapM_cons,List.mapM_cons]
    apply head.bind
    intro result other same
    apply ih.bind
    exact fun _ _ rest => .ok (.cons same rest)

end Agree

theorem mapM_eq_ok_iff {f : α → Except ε β} {items : List α} {results : List β} :
    items.mapM f = .ok results ↔ List.Forall₂ (fun item result => f item = .ok result) items results := by
  induction items generalizing results with
  | nil => simp [pure,Except.pure,eq_comm]
  | cons item items ih =>
    rw [List.mapM_cons,bind_eq_ok_iff,List.forall₂_cons_left_iff]
    constructor
    · rintro ⟨value,head,rest⟩
      obtain ⟨values,tail,joined⟩ := bind_eq_ok_iff.mp rest
      exact ⟨value,values,head,ih.mp tail,(Except.ok.inj joined).symm⟩
    · rintro ⟨value,values,head,tail,rfl⟩
      exact ⟨value,head,bind_eq_ok_iff.mpr ⟨values,ih.mpr tail,rfl⟩⟩

theorem exists_result_of_mapM {f : α → Except ε β} {items : List α} {results : List β}
    (read : items.mapM f = .ok results) {item : α} (member : item ∈ items) :
    ∃ result, f item = .ok result := by
  obtain ⟨i,bound,rfl⟩ := List.getElem_of_mem member
  have related := mapM_eq_ok_iff.mp read
  exact ⟨_,(List.forall₂_iff_get.mp related).2 i bound (related.length_eq ▸ bound)⟩

theorem exists_of_mem_mapM {f : α → Except ε β} {items : List α} {results : List β}
    (read : items.mapM f = .ok results) {result : β} (member : result ∈ results) :
    ∃ item ∈ items, f item = .ok result := by
  obtain ⟨i,bound,rfl⟩ := List.getElem_of_mem member
  have related := mapM_eq_ok_iff.mp read
  have inside : i < items.length := related.length_eq ▸ bound
  exact ⟨items[i],List.getElem_mem inside,(List.forall₂_iff_get.mp related).2 i inside bound⟩

theorem exists_mapM_iff {f : α → Except ε β} {items : List α} :
    (∃ results, items.mapM f = .ok results) ↔ ∀ item ∈ items, ∃ result, f item = .ok result := by
  constructor
  · rintro ⟨results,read⟩ item member
    exact exists_result_of_mapM read member
  · intro each
    induction items with
    | nil => exact ⟨[],rfl⟩
    | cons item items ih =>
      obtain ⟨result,head⟩ := each item (by simp)
      obtain ⟨results,tail⟩ := ih fun other member => each other (List.mem_cons_of_mem item member)
      refine ⟨result :: results,mapM_eq_ok_iff.mpr ?_⟩
      exact List.Forall₂.cons head (mapM_eq_ok_iff.mp tail)

/-- The failure of a traversal is that of the first item that fails. -/
theorem mapM_eq_error_iff {f : α → Except ε β} {items : List α} {failure : ε} :
    items.mapM f = .error failure ↔ ∃ front item back, items = front ++ item :: back ∧
      (∀ other ∈ front, ∃ result, f other = .ok result) ∧ f item = .error failure := by
  induction items with
  | nil => simp [pure,Except.pure]
  | cons first items ih =>
    rw [List.mapM_cons]
    cases head : f first with
    | error fault =>
      constructor
      · intro same
        obtain rfl : fault = failure := Except.error.inj same
        exact ⟨[],first,items,rfl,by simp,head⟩
      · rintro ⟨front,item,back,joined,earlier,failed⟩
        cases front with
        | nil =>
          obtain ⟨rfl,rfl⟩ := List.cons.inj joined
          obtain rfl : fault = failure := Except.error.inj (head.symm.trans failed)
          rfl
        | cons other front =>
          obtain ⟨rfl,rfl⟩ := List.cons.inj joined
          obtain ⟨result,passed⟩ := earlier first (by simp)
          simp [head] at passed
    | ok value =>
      have onward : (do return value :: (← items.mapM f)) = Except.error failure ↔
          items.mapM f = .error failure := by
        cases items.mapM f <;> simp [bind,Except.bind,pure,Except.pure]
      refine onward.trans (ih.trans ?_)
      constructor
      · rintro ⟨front,item,back,rfl,earlier,failed⟩
        refine ⟨first :: front,item,back,rfl,?_,failed⟩
        rw [List.forall_mem_cons]
        exact ⟨⟨value,head⟩,earlier⟩
      · rintro ⟨front,item,back,joined,earlier,failed⟩
        cases front with
        | nil =>
          obtain ⟨rfl,rfl⟩ := List.cons.inj joined
          simp [head] at failed
        | cons other front =>
          obtain ⟨rfl,rfl⟩ := List.cons.inj joined
          exact ⟨front,item,back,rfl,fun other member => earlier other (by simp [member]),failed⟩

end DnsPolicy
