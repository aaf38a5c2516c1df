import DnsPolicy.Proofs.Consulting
import Mathlib.Data.List.Basic

/-! A round of classifiers ends at the first that matches or fails. The classifiers up to that one
are consulted, each through its own seat, and no later one hears of the host. -/
namespace DnsPolicy

/-- What a round ends with at an answer. It goes on where a classifier has nothing against the host. -/
def Panel.ends? : Except Failure Decision → Option Decision
  | .ok verdict => if verdict.matched then some verdict else none
  | .error _ => some .none

def Seat.ends? (seat : Seat) (kind : ClassifierKind) (host : String) : Option Decision :=
  (seat.answer? kind host).bind Panel.ends?

private theorem Seat.ends?_cases {seat : Seat} {kind : ClassifierKind} {host : String}
    {decision : Decision} (ended : seat.ends? kind host = some decision) :
    decision = .none ∨ decision.matched = true ∧ seat.answer? kind host = some (.ok decision) := by
  obtain ⟨answer,given,ends⟩ := Option.bind_eq_some_iff.mp ended
  cases answer with
  | error failure => exact Or.inl (Option.some.inj ends).symm
  | ok verdict =>
    simp only [Panel.ends?] at ends
    split at ends
    next matched =>
      obtain rfl := Option.some.inj ends
      exact Or.inr ⟨matched,given⟩
    next => contradiction

namespace Panel

/-- The round gets as far as this kind. -/
def Reaches (panel : Panel) (host : String) (kinds : List ClassifierKind) (kind : ClassifierKind) :
    Prop :=
  kind ∈ kinds ∧ ∀ earlier ∈ kinds.takeWhile (· ≠ kind), (panel.seat earlier).ends? earlier host = none

instance (panel : Panel) (host : String) (kinds : List ClassifierKind) (kind : ClassifierKind) :
    Decidable (panel.Reaches host kinds kind) :=
  inferInstanceAs (Decidable (_ ∧ _))

variable {panel : Panel} {host : String} {kinds more : List ClassifierKind} {kind other : ClassifierKind}

private theorem reaches_cons_self : panel.Reaches host (kind :: more) kind := by
  constructor
  · exact List.mem_cons_self
  · intro earlier member
    simp at member

private theorem reaches_cons_iff (different : other ≠ kind) :
    panel.Reaches host (kind :: more) other ↔
      (panel.seat kind).ends? kind host = none ∧ panel.Reaches host more other := by
  have passed : (kind :: more).takeWhile (· ≠ other) = kind :: more.takeWhile (· ≠ other) :=
    List.takeWhile_cons_of_pos (by simpa using Ne.symm different)
  unfold Reaches
  rw [passed,List.forall_mem_cons,List.mem_cons,or_iff_right different]
  exact and_left_comm

private theorem reaches_congr {changed : Panel} (same : ∀ kind ∈ kinds, changed.seat kind = panel.seat kind) :
    changed.Reaches host kinds other ↔ panel.Reaches host kinds other := by
  apply and_congr_right
  intro member
  apply forall₂_congr
  intro earlier passed
  rw [same earlier (List.takeWhile_subset _ passed)]

private theorem decide_cons (panel : Panel) (host : String) (kind : ClassifierKind)
    (more : List ClassifierKind) :
    decide host (kind :: more) panel =
      match (panel.seat kind).ends? kind host with
      | some decision => (decision,(panel.consult kind host).2)
      | none => decide host more (panel.consult kind host).2 := by
  rw [decide,Seat.ends?,← consult_fst]
  cases panel.consult kind host with
  | mk answer next =>
    cases answer with
    | none => rfl
    | some answer =>
      cases answer with
      | error failure => rfl
      | ok verdict =>
        simp only [Option.bind_some,Panel.ends?]
        split
        · rfl
        · rfl

private theorem seat_consult_of_not_mem (panel : Panel) (host : String) (fresh : kind ∉ more) :
    ∀ other ∈ more, (panel.consult kind host).2.seat other = panel.seat other := by
  intro other member
  apply seat_consult_of_ne
  rintro rfl
  exact fresh member

/-- The first answer that ends the round is its decision. -/
theorem decide_fst (host : String) (distinct : kinds.Nodup) (panel : Panel) :
    (decide host kinds panel).1 =
      (kinds.findSome? fun kind => (panel.seat kind).ends? kind host).getD .none := by
  induction kinds generalizing panel with
  | nil => rfl
  | cons kind more ih =>
    obtain ⟨fresh,apart⟩ := List.nodup_cons.mp distinct
    have unheard := seat_consult_of_not_mem panel host fresh
    rw [decide_cons,List.findSome?_cons]
    cases (panel.seat kind).ends? kind host with
    | some decision => rfl
    | none =>
      have later : (more.findSome? fun other => ((panel.consult kind host).2.seat other).ends? other host) =
          more.findSome? fun other => (panel.seat other).ends? other host := by
        rw [← List.head?_filterMap,← List.head?_filterMap,
          List.filterMap_congr fun other member => by rw [unheard other member]]
      rw [← later]
      exact ih apart _

/-- The kinds that the round reaches are consulted, and all other seats stay as they are. -/
theorem seat_decide (host : String) (distinct : kinds.Nodup) (panel : Panel)
    (kind : ClassifierKind) : (decide host kinds panel).2.seat kind =
      if panel.Reaches host kinds kind then (panel.seat kind).consulted kind host
      else panel.seat kind := by
  induction kinds generalizing panel with
  | nil =>
    rw [if_neg fun reached => List.not_mem_nil reached.1]
    rfl
  | cons first more ih =>
    obtain ⟨fresh,apart⟩ := List.nodup_cons.mp distinct
    have unheard := seat_consult_of_not_mem panel host fresh
    rw [decide_cons]
    by_cases same : kind = first
    · subst same
      rw [if_pos reaches_cons_self]
      cases (panel.seat kind).ends? kind host with
      | some decision => exact seat_consult_self panel kind host
      | none =>
        -- The round goes on without this kind, as it is asked once at most.
        have past : ¬ (panel.consult kind host).2.Reaches host more kind := fun reached => fresh reached.1
        simp only
        rw [ih apart,if_neg past,seat_consult_self]
    · have still := seat_consult_of_ne same panel host
      simp only [reaches_cons_iff same]
      cases (panel.seat first).ends? first host with
      | some decision => simpa using still
      | none => simp only [ih apart,still,reaches_congr unheard,true_and]

theorem decide_of_reaches (distinct : kinds.Nodup) (reached : panel.Reaches host kinds kind)
    {decision : Decision} (ended : (panel.seat kind).ends? kind host = some decision) :
    (decide host kinds panel).1 = decision := by
  induction kinds generalizing panel with
  | nil => exact absurd reached.1 List.not_mem_nil
  | cons first more ih =>
    obtain ⟨fresh,apart⟩ := List.nodup_cons.mp distinct
    rw [decide_cons]
    by_cases same : kind = first
    · subst same
      rw [ended]
    · obtain ⟨goesOn,later⟩ := (reaches_cons_iff same).mp reached
      rw [goesOn]
      apply ih apart
      · exact (reaches_congr (seat_consult_of_not_mem panel host fresh)).mpr later
      · rw [seat_consult_of_ne same,ended]

/-- A round gives no decision, or one that matches and that a kind gave that the round reaches. -/
theorem decide_cases (host : String) (distinct : kinds.Nodup) (panel : Panel) :
    (decide host kinds panel).1 = .none ∨ (decide host kinds panel).1.matched = true ∧
      ∃ kind, panel.Reaches host kinds kind ∧
        (panel.seat kind).answer? kind host = some (.ok (decide host kinds panel).1) := by
  induction kinds generalizing panel with
  | nil => exact Or.inl rfl
  | cons first more ih =>
    obtain ⟨fresh,apart⟩ := List.nodup_cons.mp distinct
    rw [decide_cons]
    cases goesOn : (panel.seat first).ends? first host with
    | some decision =>
      rcases Seat.ends?_cases goesOn with nothing | ⟨matched,given⟩
      · exact Or.inl nothing
      · exact Or.inr ⟨matched,first,reaches_cons_self,given⟩
    | none =>
      rcases ih apart (panel.consult first host).2 with nothing | ⟨matched,kind,reached,given⟩
      · exact Or.inl nothing
      · have different : kind ≠ first := fun same => fresh (same ▸ reached.1)
        have later := (reaches_congr (seat_consult_of_not_mem panel host fresh)).mp reached
        rw [seat_consult_of_ne different] at given
        exact Or.inr ⟨matched,kind,(reaches_cons_iff different).mpr ⟨goesOn,later⟩,given⟩

/-- The lookups that a round sends outside, in order. -/
def sentOutside (panel : Panel) (host : String) (kinds : List ClassifierKind) : List ClassifierKind :=
  kinds.filter fun kind => panel.Reaches host kinds kind ∧ (panel.seat kind).asksOutside host

private theorem sentOutside_cons (distinct : (kind :: more).Nodup) :
    panel.sentOutside host (kind :: more) =
      (if (panel.seat kind).asksOutside host then [kind] else []) ++
        if (panel.seat kind).ends? kind host = none then panel.sentOutside host more else [] := by
  obtain ⟨fresh,_⟩ := List.nodup_cons.mp distinct
  have later : more.filter (fun other =>
      panel.Reaches host (kind :: more) other ∧ (panel.seat other).asksOutside host) =
      if (panel.seat kind).ends? kind host = none then panel.sentOutside host more else [] := by
    split
    next goesOn =>
      apply List.filter_congr
      intro other member
      have different : other ≠ kind := fun same => fresh (same ▸ member)
      simp [reaches_cons_iff different,goesOn]
    next ended =>
      rw [List.filter_eq_nil_iff]
      intro other member
      have different : other ≠ kind := fun same => fresh (same ▸ member)
      simp [reaches_cons_iff different,ended]
  rw [sentOutside,List.filter_cons,later]
  cases (panel.seat kind).asksOutside host with
  | true => simp [reaches_cons_self]
  | false => simp

private theorem sentOutside_congr {changed : Panel}
    (same : ∀ kind ∈ kinds, changed.seat kind = panel.seat kind) :
    changed.sentOutside host kinds = panel.sentOutside host kinds := by
  apply List.filter_congr
  intro kind member
  rw [same kind member]
  simp only [reaches_congr same]

theorem outside_decide (host : String) (distinct : kinds.Nodup) (panel : Panel) :
    (decide host kinds panel).2.outside =
      panel.outside ++ (panel.sentOutside host kinds).map fun kind => (kind,host) := by
  induction kinds generalizing panel with
  | nil => simp [decide,sentOutside]
  | cons kind more ih =>
    obtain ⟨fresh,apart⟩ := List.nodup_cons.mp distinct
    have asked := panel.outside_consult kind host
    rw [decide_cons,sentOutside_cons distinct]
    cases (panel.seat kind).ends? kind host with
    | some decision =>
      rw [asked]
      split <;> simp
    | none =>
      simp only
      rw [ih apart,asked,sentOutside_congr (seat_consult_of_not_mem panel host fresh)]
      split <;> simp

end Panel

namespace Seat

variable {seat : Seat} {kind : ClassifierKind} {host : String}

theorem ends?_eq_none_iff : seat.ends? kind host = none ↔
    ∀ answer, seat.answer? kind host = some answer →
      ∃ verdict, answer = .ok verdict ∧ verdict.matched = false := by
  rw [ends?,Option.bind_eq_none_iff]
  apply forall₂_congr
  intro answer _
  cases answer with
  | ok verdict => simp [Panel.ends?]
  | error failure => simp [Panel.ends?]

theorem requests_consulted (seated : seat.classifier.isSome = true) :
    (seat.consulted kind host).counts.requests = seat.counts.requests + 1 := by
  obtain ⟨classifier,found⟩ := Option.isSome_iff_exists.mp seated
  simp only [consulted,found]
  split <;> rfl

theorem consulted_of_not_seated (unseated : ¬ seat.classifier.isSome = true) :
    seat.consulted kind host = seat :=
  consulted_of_none (by simpa using unseated)

theorem cache_consulted_of_error {failure : Failure}
    (failed : seat.answer? kind host = some (.error failure)) :
    (seat.consulted kind host).cache = seat.cache := by
  obtain ⟨classifier,found,answered⟩ := Option.map_eq_some_iff.mp failed
  split at answered
  next => contradiction
  next unknown => rw [consulted_of_error found unknown answered]

theorem seated_of_asksOutside (asks : seat.asksOutside host = true) :
    seat.classifier.isSome = true := by
  cases seated : seat.classifier with
  | none => simp [asksOutside,seated] at asks
  | some classifier => rfl

end Seat

end DnsPolicy
