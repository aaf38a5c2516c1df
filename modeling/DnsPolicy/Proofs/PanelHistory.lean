import DnsPolicy.Classifier.History
import DnsPolicy.Proofs.Consulting

/-! The history of a panel tells all about it: who is seated, what the caches hold, what the counts
are and which lookups went outside. -/
namespace DnsPolicy

private theorem VerdictCache.isSome_ofSize? (bytes : UInt32) :
    (ofSize? bytes).isSome = decide (256 ≤ bytes) := by
  have room : bytes.toNat / entrySize = 0 ↔ ¬ 256 ≤ bytes := by
    rw [UInt32.le_iff_toNat_le,Nat.div_eq_zero_iff]
    simp [entrySize]
  simp only [ofSize?]
  by_cases fits : 256 ≤ bytes
  · have some : ¬ bytes.toNat / entrySize = 0 := fun none => room.mp none fits
    simp [some,fits]
  · simp [room.mpr fits,fits]

namespace Panel

open History

variable {settings : Settings} {past : History} {kind other : ClassifierKind} {host name : String}
  {event : Event}

namespace History

/-! ### Events about other kinds -/

private theorem seated?_of_ne (about : event.kind? = some other) (different : other ≠ kind) :
    seated? kind (event :: past) = seated? kind past := by
  cases event with
  | register _ _ =>
    cases about
    rw [seated?,if_neg different]
  | reset => contradiction
  | _ => rfl

private theorem stored?_of_ne (about : event.kind? = some other) (different : other ≠ kind) :
    stored? kind host (event :: past) = stored? kind host past := by
  cases event with
  | reset => contradiction
  | _ =>
    cases about
    simp [stored?,different]

private theorem held?_of_ne (about : event.kind? = some other) (different : other ≠ kind) :
    held? settings kind host (event :: past) = held? settings kind host past := by
  rw [held?,held?,stored?_of_ne about different]

private theorem caches_of_held? {verdict : Decision}
    (known : held? settings kind host past = some verdict) : settings.caches kind = true := by
  rw [held?] at known
  split at known
  next enabled => exact enabled
  next => contradiction

private theorem held?_consult {classifier : Classifier}
    (seated : seated? kind past = some classifier) :
    held? settings kind host (.consult kind name :: past) =
      if name = host then
        (held? settings kind host past).or
          (if settings.caches kind then (classifier.classify kind host).toOption else none)
      else held? settings kind host past := by
  cases enabled : settings.caches kind with
  | true => simp [held?,stored?,enabled,seated]
  | false => simp [held?,enabled]

private theorem tally_of_not {sort : Event → History → Bool} (about : event.kind? = some other)
    (not : sort event past = false) : tally sort (event :: past) = tally sort past := by
  cases event with
  | reset => contradiction
  | _ => simp [tally,not]

private theorem consults_of_ne {test : String → History → Bool} (about : event.kind? = some other)
    (different : other ≠ kind) : consults kind test event past = false := by
  cases event with
  | consult _ _ =>
    cases about
    simp [consults,different]
  | _ => rfl

@[simp] theorem asks_consult : asks kind (.consult other host) past =
    Decidable.decide (other = kind) := by
  simp [asks,consults]

@[simp] theorem hits_consult : hits settings kind (.consult other host) past =
    (Decidable.decide (other = kind) && (held? settings kind host past).isSome) := rfl

@[simp] theorem reaches_consult : reaches settings kind (.consult other host) past =
    (Decidable.decide (other = kind) && (held? settings kind host past).isNone) := rfl

/-- Whoever is consulted answers from the cache or else himself. -/
theorem tally_asks (settings : Settings) (kind : ClassifierKind) (past : History) :
    tally (asks kind) past =
      tally (hits settings kind) past + tally (reaches settings kind) past := by
  induction past with
  | nil => rfl
  | cons event past ih =>
    cases event with
    | reset => rfl
    | consult other host =>
      simp only [tally,ih,asks_consult,hits_consult,reaches_consult]
      by_cases same : other = kind
      · cases held? settings kind host past <;> simp [same] <;> omega
      · simp [same]
    | _ => exact ih

def counts (settings : Settings) (kind : ClassifierKind) (past : History) : LookupCounts :=
  { requests := tally (asks kind) past
    cacheHits := tally (hits settings kind) past
    pending := 0
    pendingMax := if tally (reaches settings kind) past = 0 then 0 else 1 }

private theorem counts_of_ne (about : event.kind? = some other) (different : other ≠ kind) :
    counts settings kind (event :: past) = counts settings kind past := by
  have asked : tally (asks kind) (event :: past) = tally (asks kind) past :=
    tally_of_not about (consults_of_ne about different)
  have hit : tally (hits settings kind) (event :: past) = tally (hits settings kind) past :=
    tally_of_not about (consults_of_ne about different)
  have reached : tally (reaches settings kind) (event :: past) = tally (reaches settings kind) past :=
    tally_of_not about (consults_of_ne about different)
  rw [counts,asked,hit,reached]
  rfl

private theorem counts_consult_of_known {verdict : Decision}
    (known : held? settings kind name past = some verdict) :
    counts settings kind (.consult kind name :: past) = (counts settings kind past).request.hit := by
  simp [counts,tally,known,LookupCounts.request,
    LookupCounts.hit]

private theorem counts_consult_of_unknown (unknown : held? settings kind name past = none) :
    counts settings kind (.consult kind name :: past) =
      (counts settings kind past).request.start.finish := by
  have most : max (if tally (reaches settings kind) past = 0 then 0 else 1) 1 = 1 := by
    split <;> rfl
  simp [counts,tally,unknown,most,LookupCounts.request,
    LookupCounts.start,LookupCounts.finish]

private theorem Ready.tail (ready : Ready (event :: past)) : Ready past := by
  cases event with
  | consult kind host => exact ready.2
  | _ => exact ready

end History

private theorem seat_step_of_ne (about : event.kind? = some other) (different : other ≠ kind)
    (panel : Panel) : (panel.step event).seat kind = panel.seat kind := by
  cases event with
  | reset => contradiction
  | consult _ host =>
    cases about
    exact seat_consult_of_ne different.symm panel host
  | _ =>
    cases about
    exact seat_setSeat_of_ne different.symm _ _

/-- The seat is as the history tells. -/
structure Told (settings : Settings) (kind : ClassifierKind) (past : History) (seat : Seat) : Prop where
  seated : seat.classifier = seated? kind past
  enabled : seat.cache.isSome = settings.caches kind
  held : ∀ host, seat.cache.bind (·.get? host) = held? settings kind host past
  counts : seat.counts = History.counts settings kind past

namespace Told

variable {seat : Seat} {classifier : Classifier} {verdict : Decision} {failure : Failure}

private theorem of_ne (told : Told settings kind past seat) (about : event.kind? = some other)
    (different : other ≠ kind) : Told settings kind (event :: past) seat where
  seated := told.seated.trans (seated?_of_ne about different).symm
  enabled := told.enabled
  held host := (told.held host).trans (held?_of_ne about different).symm
  counts := told.counts.trans (counts_of_ne about different).symm

private theorem ofSettings (settings : Settings) (kind : ClassifierKind) :
    Told settings kind [] ((Panel.ofSettings settings).seat kind) where
  seated := by cases kind <;> rfl
  enabled := by cases kind <;> exact VerdictCache.isSome_ofSize? _
  held host := by
    have empty := cached?_ofSettings settings kind host
    rw [cached?] at empty
    simp [empty,held?,stored?]
  counts := by cases kind <;> rfl

private theorem register (told : Told settings kind past seat) (classifier : Classifier) :
    Told settings kind (.register kind classifier :: past)
      { seat with classifier := some classifier } where
  seated := by simp [seated?]
  enabled := told.enabled
  held := told.held
  counts := told.counts

private theorem insert (told : Told settings kind past seat) (name : String) (verdict : Decision) :
    Told settings kind (.insert kind name verdict :: past)
      { seat with cache := seat.cache.map (·.insert name verdict) } where
  seated := told.seated
  enabled := by simpa using told.enabled
  held host := by
    rw [VerdictCache.get?_map_insert,told.enabled,told.held host]
    by_cases same : host = name
    · simp [held?,stored?,same]
    · simp [held?,stored?,same,Ne.symm same]
  counts := told.counts

private theorem clear (told : Told settings kind past seat) :
    Told settings kind (.clear kind :: past) { seat with cache := seat.cache.map VerdictCache.clear } where
  seated := told.seated
  enabled := by simpa using told.enabled
  held host := by
    rw [VerdictCache.get?_map_clear]
    simp [held?,stored?]
  counts := told.counts

private theorem reset (told : Told settings kind past seat) :
    Told settings kind (.reset :: past)
      { seat with
        cache := seat.cache.map VerdictCache.clear
        counts := seat.counts.reset } where
  seated := told.seated
  enabled := by simpa using told.enabled
  held host := by
    rw [VerdictCache.get?_map_clear]
    simp [held?,stored?]
  counts := by
    rw [told.counts]
    rfl

private theorem hit (told : Told settings kind past seat)
    (found : seated? kind past = some classifier)
    (known : held? settings kind name past = some verdict) :
    Told settings kind (.consult kind name :: past) { seat with counts := seat.counts.request.hit } where
  seated := told.seated
  enabled := told.enabled
  held host := by
    rw [told.held host,held?_consult found]
    by_cases same : name = host
    · rw [if_pos same,← same,known,Option.some_or]
    · rw [if_neg same]
  counts := by rw [told.counts,counts_consult_of_known known]

private theorem stored (told : Told settings kind past seat)
    (found : seated? kind past = some classifier)
    (unknown : held? settings kind name past = none) (said : classifier.classify kind name = .ok verdict) :
    Told settings kind (.consult kind name :: past)
      { seat with
        counts := seat.counts.request.start.finish
        cache := seat.cache.map (·.insert name verdict) } where
  seated := told.seated
  enabled := by simpa using told.enabled
  held host := by
    rw [VerdictCache.get?_map_insert,told.enabled,told.held host,held?_consult found]
    by_cases same : name = host
    · subst same
      rw [if_pos rfl,if_pos rfl,unknown,said]
      rfl
    · rw [if_neg same,if_neg (Ne.symm same)]
  counts := by rw [told.counts,counts_consult_of_unknown unknown]

private theorem failed (told : Told settings kind past seat)
    (found : seated? kind past = some classifier) (unknown : held? settings kind name past = none)
    (said : classifier.classify kind name = .error failure) :
    Told settings kind (.consult kind name :: past)
      { seat with counts := seat.counts.request.start.finish } where
  seated := told.seated
  enabled := told.enabled
  held host := by
    rw [told.held host,held?_consult found]
    by_cases same : name = host
    · subst same
      rw [if_pos rfl,unknown,said]
      simp [Except.toOption]
    · rw [if_neg same]
  counts := by rw [told.counts,counts_consult_of_unknown unknown]

private theorem consulted (told : Told settings kind past seat)
    (found : seated? kind past = some classifier)
    (name : String) : Told settings kind (.consult kind name :: past) (seat.consulted kind name) := by
  have seated := told.seated.trans found
  have cached := told.held name
  cases known : held? settings kind name past with
  | some verdict =>
    rw [Seat.consulted_of_known seated (cached.trans known)]
    exact told.hit found known
  | none =>
    cases said : classifier.classify kind name with
    | ok verdict =>
      rw [Seat.consulted_of_ok seated (cached.trans known) said]
      exact told.stored found known said
    | error failure =>
      rw [Seat.consulted_of_error seated (cached.trans known) said]
      exact told.failed found known said

end Told

/-- Along a history, every step keeps what is told. -/
theorem told_after (settings : Settings) (ready : Ready past) (kind : ClassifierKind) :
    Told settings kind past ((after settings past).seat kind) := by
  induction past generalizing kind with
  | nil => exact Told.ofSettings settings kind
  | cons event past ih =>
    have told := ih ready.tail kind
    rw [after]
    -- A reset is about all kinds, and any other event about one.
    cases about : event.kind? with
    | none =>
      cases event with
      | reset =>
        rw [step,seat_reset]
        exact told.reset
      | _ => contradiction
    | some other =>
      by_cases same : other = kind
      · subst same
        cases event with
        | register _ classifier =>
          cases about
          rw [step,Panel.register,seat_setSeat_self]
          exact told.register classifier
        | consult _ name =>
          cases about
          rw [step,seat_consult_self]
          obtain ⟨classifier,found⟩ := Option.isSome_iff_exists.mp ready.1
          exact told.consulted found name
        | insert _ name verdict =>
          cases about
          rw [step,Panel.insert,seat_withCache_self]
          exact told.insert name verdict
        | clear _ =>
          cases about
          rw [step,Panel.clear,seat_withCache_self]
          exact told.clear
        | reset => contradiction
      · rw [seat_step_of_ne about same]
        exact told.of_ne about same

private theorem outside_step (panel : Panel) (event : Event) :
    (panel.step event).outside = panel.outside ++
      match event with
      | .consult kind host => if (panel.seat kind).asksOutside host then [(kind,host)] else []
      | _ => [] := by
  cases event with
  | consult kind host => exact panel.outside_consult kind host
  | register kind _ => simp [step,Panel.register]
  | insert kind _ _ => simp [step,Panel.insert,withCache]
  | clear kind => simp [step,Panel.clear,withCache]
  | reset => exact (List.append_nil _).symm

private theorem outside_after (ready : Ready past) :
    (after settings past).outside = lookups settings past := by
  induction past with
  | nil => rfl
  | cons event past ih =>
    rw [after,outside_step,ih ready.tail]
    cases event with
    | consult kind host =>
      have told := told_after settings ready.tail kind
      simp only [Seat.asksOutside,told.seated,told.held host,lookups]
    | _ => exact List.append_nil _

/-- What a history says about the panel it leads to. -/
structure Remembers (settings : Settings) (past : History) (panel : Panel) : Prop where
  answered : ∀ kind host classifier, seated? kind past = some classifier →
    (panel.consult kind host).1 = some
      (match held? settings kind host past with
      | some verdict => .ok verdict
      | none => classifier.classify kind host)
  kept : ∀ kind host answer, (panel.consult kind host).1 = some answer →
    (panel.consult kind host).2.cached? kind host =
      if settings.caches kind then answer.toOption else none
  cached : ∀ kind host, panel.cached? kind host = held? settings kind host past
  enabled : ∀ kind, (panel.seat kind).cache.isSome = settings.caches kind
  requests : ∀ kind, (panel.seat kind).counts.requests = tally (asks kind) past
  cacheHits : ∀ kind, (panel.seat kind).counts.cacheHits = tally (hits settings kind) past
  reached : ∀ kind, (panel.seat kind).counts.requests =
    (panel.seat kind).counts.cacheHits + tally (reaches settings kind) past
  idle : ∀ kind, (panel.seat kind).counts.pending = 0
  busiest : ∀ kind, (panel.seat kind).counts.pendingMax =
    if 0 < tally (reaches settings kind) past then 1 else 0
  outside : panel.outside = lookups settings past
  elsewhere : ∀ event about kind, event.kind? = some about → about ≠ kind →
    (panel.step event).seat kind = panel.seat kind

/-- A classifier is answered for by its cache where this is enabled and holds a verdict for that kind
and host, whoever stored it. Else it answers itself, and that is stored if it is a success and the
cache is enabled. The counts are those of the consultations since the last reset. -/
theorem after_remembers (settings : Settings) (past : History) (ready : Ready past) :
    Remembers settings past (after settings past) := by
  have told := told_after settings ready
  constructor
  case answered =>
    intro kind host classifier found
    rw [consult_fst,Seat.answer?,(told kind).seated,found,(told kind).held host]
    rfl
  case kept =>
    intro kind host answer given
    rw [consult_fst,Seat.answer?,(told kind).seated,(told kind).held host] at given
    obtain ⟨classifier,found,rfl⟩ := Option.map_eq_some_iff.mp given
    have next := ((told kind).consulted found host).held host
    rw [cached?,seat_consult_self,next,held?_consult found,if_pos rfl]
    cases known : held? settings kind host past with
    | some verdict =>
      rw [Option.some_or,if_pos (caches_of_held? known)]
      rfl
    | none => exact Option.none_or
  case cached =>
    intro kind host
    exact (told kind).held host
  case enabled =>
    intro kind
    exact (told kind).enabled
  case requests =>
    intro kind
    rw [(told kind).counts]
    rfl
  case cacheHits =>
    intro kind
    rw [(told kind).counts]
    rfl
  case reached =>
    intro kind
    rw [(told kind).counts]
    exact tally_asks settings kind past
  case idle =>
    intro kind
    rw [(told kind).counts]
    rfl
  case busiest =>
    intro kind
    rw [(told kind).counts]
    simp only [History.counts,Nat.pos_iff_ne_zero,ite_not]
  case outside => exact outside_after ready
  case elsewhere =>
    intro event about kind same different
    exact seat_step_of_ne same different _

/-- Blocks all hosts, and then fails in place of the classifier that did. -/
private def replaced : History :=
  [.consult .parental "b.example",.register .parental (.external fun _ => .error "timeout"),
   .consult .parental "a.example",
   .register .parental (.external fun _ => .ok (Decision.ofReason .parental))]

/-- The verdict of the first classifier outlives it, and of the failure nothing is stored. -/
theorem after_remembers_replaced :
    let panel := after {} replaced
    (panel.consult .parental "a.example").1 = some (.ok (Decision.ofReason .parental)) ∧
      panel.cached? .parental "b.example" = none ∧
      (panel.seat .parental).counts.requests = 2 ∧ (panel.seat .parental).counts.pendingMax = 1 := by
  intro panel
  have remembers := after_remembers {} replaced ⟨rfl,rfl,trivial⟩
  refine ⟨?_,?_,?_,?_⟩
  · rw [remembers.answered .parental "a.example" (.external fun _ => .error "timeout") rfl]
    rfl
  · rw [remembers.cached]
    rfl
  · rw [remembers.requests]
    rfl
  · rw [remembers.busiest]
    rfl

end Panel
end DnsPolicy
