import DnsPolicy.Classifier.Panel
import Std.Data.TreeMap.Lemmas

/-! A classifier is consulted through its own seat: what it answers depends on that seat alone, and
no other seat is touched. -/
namespace DnsPolicy

namespace VerdictCache

private theorem get?_insert (cache : VerdictCache) (host other : String) (verdict : Decision) :
    (cache.insert host verdict).get? other = if other = host then some verdict else cache.get? other := by
  simp only [insert,get?,Std.TreeMap.get?_eq_getElem?,Std.TreeMap.getElem?_insert,
    Std.LawfulEqCmp.compare_eq_iff_eq,@eq_comm _ host]

@[simp] theorem get?_clear (cache : VerdictCache) (host : String) :
    cache.clear.get? host = none := by
  simp [clear,get?]

@[simp] theorem get?_ofSize? (bytes : UInt32) (host : String) :
    (ofSize? bytes).bind (·.get? host) = none := by
  simp only [ofSize?]
  split
  · rfl
  · simp [get?]

theorem get?_map_insert (cache : Option VerdictCache) (host other : String) (verdict : Decision) :
    (cache.map (·.insert host verdict)).bind (·.get? other) =
      if other = host then if cache.isSome then some verdict else none
      else cache.bind (·.get? other) := by
  cases cache with
  | none => simp
  | some cache => simp [get?_insert]

@[simp] theorem get?_map_clear (cache : Option VerdictCache) (host : String) :
    (cache.map clear).bind (·.get? host) = none := by
  cases cache with
  | none => rfl
  | some cache => exact cache.get?_clear host

end VerdictCache

namespace Panel

variable {panel : Panel} {kind other : ClassifierKind} {host : String}

@[simp] theorem seat_setSeat_self (panel : Panel) (kind : ClassifierKind) (seat : Seat) :
    (panel.setSeat kind seat).seat kind = seat := by
  cases kind <;> rfl

theorem seat_setSeat_of_ne (different : other ≠ kind) (panel : Panel) (seat : Seat) :
    (panel.setSeat kind seat).seat other = panel.seat other := by
  cases kind <;> cases other <;> first | rfl | exact absurd rfl different

private theorem seat_setCounts_of_ne (different : other ≠ kind) (panel : Panel)
    (change : LookupCounts → LookupCounts) :
    (panel.setCounts kind change).seat other = panel.seat other :=
  seat_setSeat_of_ne different _ _

@[simp] theorem seat_withCache_self (panel : Panel) (kind : ClassifierKind)
    (change : VerdictCache → VerdictCache) : (panel.withCache kind change).seat kind =
      { panel.seat kind with cache := (panel.seat kind).cache.map change } :=
  seat_setSeat_self _ _ _

theorem seat_withCache_of_ne (different : other ≠ kind) (panel : Panel)
    (change : VerdictCache → VerdictCache) :
    (panel.withCache kind change).seat other = panel.seat other :=
  seat_setSeat_of_ne different _ _

@[simp] theorem seat_reset (panel : Panel) (kind : ClassifierKind) :
    panel.reset.seat kind =
      { panel.seat kind with
        cache := (panel.seat kind).cache.map VerdictCache.clear
        counts := (panel.seat kind).counts.reset } := by
  cases kind <;> rfl

private theorem seat_ask_of_ne (different : other ≠ kind) (panel : Panel)
    (classifier : Classifier) :
    (panel.ask kind classifier host).2.seat other = panel.seat other := by
  have counted := seat_setCounts_of_ne different panel fun counts => counts.start.finish
  simp only [ask]
  split
  · rw [insert,seat_withCache_of_ne different]
    split <;> exact counted
  · split <;> exact counted

theorem seat_consult_of_ne (different : other ≠ kind) (panel : Panel) (host : String) :
    (panel.consult kind host).2.seat other = panel.seat other := by
  rw [consult]
  split
  · rfl
  · have counted := seat_setCounts_of_ne different panel LookupCounts.request
    simp only
    split
    · rw [seat_setCounts_of_ne different,counted]
    · simp only [seat_ask_of_ne different,counted]

end Panel

/-- What a seat says about a host: what its cache holds, or else what its classifier says. -/
def Seat.answer? (seat : Seat) (kind : ClassifierKind) (host : String) :
    Option (Except Failure Decision) :=
  seat.classifier.map fun classifier =>
    match seat.cache.bind (·.get? host) with
    | some verdict => .ok verdict
    | none => classifier.classify kind host

/-- The seat once it was consulted. Only what its classifier decides itself is stored. -/
def Seat.consulted (seat : Seat) (kind : ClassifierKind) (host : String) : Seat :=
  match seat.classifier with
  | none => seat
  | some classifier =>
    match seat.cache.bind (·.get? host) with
    | some _ => { seat with counts := seat.counts.request.hit }
    | none =>
      { seat with
        counts := seat.counts.request.start.finish
        cache :=
          match classifier.classify kind host with
          | .ok verdict => seat.cache.map (·.insert host verdict)
          | .error _ => seat.cache }

section Consulted

variable {seat : Seat} {kind : ClassifierKind} {host : String} {classifier : Classifier}
  {verdict : Decision} {failure : Failure}

theorem Seat.consulted_of_none (unseated : seat.classifier = none) :
    seat.consulted kind host = seat := by
  simp only [consulted,unseated]

theorem Seat.consulted_of_known (seated : seat.classifier = some classifier)
    (known : seat.cache.bind (·.get? host) = some verdict) :
    seat.consulted kind host = { seat with counts := seat.counts.request.hit } := by
  simp only [consulted,seated,known]

theorem Seat.consulted_of_ok (seated : seat.classifier = some classifier)
    (unknown : seat.cache.bind (·.get? host) = none) (said : classifier.classify kind host = .ok verdict) :
    seat.consulted kind host =
      { seat with
        counts := seat.counts.request.start.finish
        cache := seat.cache.map (·.insert host verdict) } := by
  simp only [consulted,seated,unknown,said]

theorem Seat.consulted_of_error (seated : seat.classifier = some classifier)
    (unknown : seat.cache.bind (·.get? host) = none) (said : classifier.classify kind host = .error failure) :
    seat.consulted kind host = { seat with counts := seat.counts.request.start.finish } := by
  simp only [consulted,seated,unknown,said]

end Consulted

/-- A classifier outside is asked, as the cache does not know the host. -/
def Seat.asksOutside (seat : Seat) (host : String) : Bool :=
  seat.classifier.any Classifier.isExternal && (seat.cache.bind (·.get? host)).isNone

namespace Panel

@[simp] theorem cached?_ofSettings (settings : Settings) (kind : ClassifierKind) (host : String) :
    (ofSettings settings).cached? kind host = none := by
  cases kind <;> exact VerdictCache.get?_ofSize? _ host

theorem cached?_register (panel : Panel) (kind other : ClassifierKind) (classifier : Classifier)
    (host : String) : (panel.register kind classifier).cached? other host = panel.cached? other host := by
  cases kind <;> cases other <;> rfl

private theorem ask_fst (panel : Panel) (kind : ClassifierKind) (classifier : Classifier)
    (host : String) : (panel.ask kind classifier host).1 = classifier.classify kind host := by
  simp only [ask]
  split
  next verdict given => exact given.symm
  next failure given => exact given.symm

@[simp] theorem cached?_setCounts (panel : Panel) (kind : ClassifierKind)
    (change : LookupCounts → LookupCounts) (host : String) :
    (panel.setCounts kind change).cached? kind host = (panel.seat kind).cache.bind (·.get? host) := by
  rw [cached?,setCounts,seat_setSeat_self]

theorem consult_fst (panel : Panel) (kind : ClassifierKind) (host : String) :
    (panel.consult kind host).1 = (panel.seat kind).answer? kind host := by
  rw [consult,Seat.answer?]
  cases seated : (panel.seat kind).classifier with
  | none => rfl
  | some classifier =>
    simp only [cached?_setCounts,Option.map_some]
    cases (panel.seat kind).cache.bind (·.get? host) with
    | some verdict => rfl
    | none => simp only [ask_fst]

private theorem seat_ask_self (panel : Panel) (kind : ClassifierKind) (classifier : Classifier)
    (host : String) : (panel.ask kind classifier host).2.seat kind =
      { panel.seat kind with
        counts := (panel.seat kind).counts.start.finish
        cache :=
          match classifier.classify kind host with
          | .ok verdict => (panel.seat kind).cache.map (·.insert host verdict)
          | .error _ => (panel.seat kind).cache } := by
  simp only [ask]
  cases classifier.classify kind host with
  | ok verdict => cases kind <;> cases classifier <;> rfl
  | error failure => cases kind <;> cases classifier <;> rfl

theorem seat_consult_self (panel : Panel) (kind : ClassifierKind) (host : String) :
    (panel.consult kind host).2.seat kind = (panel.seat kind).consulted kind host := by
  rw [consult]
  split
  next unseated => simp only [Seat.consulted,unseated]
  next classifier seated =>
    simp only [cached?_setCounts]
    split
    next verdict known => simp only [setCounts,seat_setSeat_self,Seat.consulted,seated,known]
    next unknown => simp only [seat_ask_self,setCounts,seat_setSeat_self,Seat.consulted,seated,unknown]

@[simp] theorem outside_setSeat (panel : Panel) (kind : ClassifierKind) (seat : Seat) :
    (panel.setSeat kind seat).outside = panel.outside := by
  cases kind <;> rfl

private theorem outside_ask (panel : Panel) (kind : ClassifierKind) (classifier : Classifier)
    (host : String) : (panel.ask kind classifier host).2.outside =
      panel.outside ++ if classifier.isExternal then [(kind,host)] else [] := by
  simp only [ask]
  cases external : classifier.isExternal with
  | true => split <;> simp [insert,withCache,setCounts]
  | false => split <;> simp [insert,withCache,setCounts]

theorem outside_consult (panel : Panel) (kind : ClassifierKind) (host : String) :
    (panel.consult kind host).2.outside =
      panel.outside ++ if (panel.seat kind).asksOutside host then [(kind,host)] else [] := by
  rw [consult,Seat.asksOutside]
  split
  next unseated => simp [unseated]
  next classifier seated =>
    simp only [cached?_setCounts,seated,Option.any_some]
    split
    next verdict known => simp [known,setCounts]
    next unknown => simp [unknown,outside_ask,setCounts]

end Panel

end DnsPolicy
