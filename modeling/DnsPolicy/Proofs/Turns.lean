import DnsPolicy.Proofs.Rounds
import DnsPolicy.Proofs.Precedence

/-! Which classifiers get their turn in a check, what that does to their seats, and what their
answers do to the result. -/
namespace DnsPolicy.Policy

variable {policy : Policy} {host : String} {qtype : RecordType} {profile : Profile} {kind : ClassifierKind}

/-- The policy is to decide about a host, and what comes before the classifiers leaves it open. -/
structure Undecided (policy : Policy) (host : String) (qtype : RecordType) (profile : Profile) : Prop where
  opened : policy.reloader.closing = false
  named : host ≠ ""
  unwritten : (policy.settings.rewrites.resolve (Hostname.lower host) qtype).matched = false
  unruled : profile.filtering = true →
    (matchRules policy.reloader.pair (Hostname.lower host) qtype profile.tags).matched = false
  unserved : (Service.decide (Hostname.lower host) profile.services).matched = false

/-- The classifier of this kind gets its turn: nothing was decided before the classifiers, and those
that are asked before this one have nothing against the host. -/
structure Consults (policy : Policy) (host : String) (qtype : RecordType) (profile : Profile)
    (kind : ClassifierKind) : Prop extends Undecided policy host qtype profile where
  wanted : profile.wants kind = true
  seated : (policy.panel.seat kind).classifier.isSome = true
  passed : ∀ earlier ∈ classifierOrder.takeWhile (· ≠ kind), profile.wants earlier = true →
    ∀ answer, (policy.panel.seat earlier).answer? earlier (Hostname.lower host) = some answer →
      ∃ verdict, answer = .ok verdict ∧ verdict.matched = false

private theorem decideEarly_unmatched_iff :
    (policy.decideEarly (Hostname.lower host) qtype profile).matched = false ↔
      (policy.settings.rewrites.resolve (Hostname.lower host) qtype).matched = false ∧
      (profile.filtering = true →
        (matchRules policy.reloader.pair (Hostname.lower host) qtype profile.tags).matched = false) ∧
      (Service.decide (Hostname.lower host) profile.services).matched = false := by
  unfold decideEarly
  cases profile.filtering with
  | false => grind [matched_none]
  | true => grind

private theorem undecided_iff (opened : policy.reloader.closing = false) (named : host ≠ "") :
    Undecided policy host qtype profile ↔
      (policy.decideEarly (Hostname.lower host) qtype profile).matched = false := by
  rw [decideEarly_unmatched_iff]
  constructor
  · intro undecided
    exact ⟨undecided.unwritten,undecided.unruled,undecided.unserved⟩
  · rintro ⟨unwritten,unruled,unserved⟩
    exact { opened,named,unwritten,unruled,unserved }

/-- What is left open goes to the classifiers. -/
theorem check_of_undecided (undecided : Undecided policy host qtype profile) :
    policy.check host qtype profile =
      (.ok (policy.panel.decide (Hostname.lower host) (classifierOrder.filter profile.wants)).1,
        { policy with
          panel := (policy.panel.decide (Hostname.lower host)
            (classifierOrder.filter profile.wants)).2 }) := by
  have early := (undecided_iff undecided.opened undecided.named).mp undecided
  rw [decideEarly_eq] at early
  rw [check_eq undecided.opened undecided.named,early]
  rfl

private theorem check_of_decided (decided : ¬ Undecided policy host qtype profile) :
    (policy.check host qtype profile).2 = policy := by
  cases opened : policy.reloader.closing with
  | true => simp [check,opened]
  | false =>
    by_cases named : host = ""
    · simp [check,opened,named]
    · rw [undecided_iff opened named,decideEarly_eq] at decided
      rw [check_eq opened named,if_pos (by simpa using decided)]

private theorem eq_closed_of_check_eq_error {failure : Failure}
    (failed : (policy.check host qtype profile).1 = .error failure) :
    failure = .closed ∧ policy.reloader.closing = true := by
  cases opened : policy.reloader.closing with
  | true =>
    simp only [check,opened,if_true,Except.error.injEq] at failed
    exact ⟨failed.symm,rfl⟩
  | false =>
    by_cases named : host = ""
    · simp [check,opened,named] at failed
    · rw [check_fst opened named] at failed
      contradiction

private theorem mem_classifierOrder (kind : ClassifierKind) : kind ∈ classifierOrder := by
  cases kind <;> decide

private theorem takeWhile_wanted (wanted : profile.wants kind = true) :
    (classifierOrder.filter profile.wants).takeWhile (· ≠ kind) =
      (classifierOrder.takeWhile (· ≠ kind)).filter profile.wants := by
  -- An unwanted kind is never the one that the walk stops at.
  have same : (fun other => !profile.wants other || Decidable.decide (other ≠ kind)) =
      fun other => Decidable.decide (other ≠ kind) := by
    ext other
    by_cases equal : other = kind
    · subst equal
      simp [wanted]
    · simp [equal]
  rw [List.takeWhile_filter,same]

/-- The wanted kinds that a round reaches. -/
theorem reaches_iff :
    policy.panel.Reaches (Hostname.lower host) (classifierOrder.filter profile.wants) kind ↔
      profile.wants kind = true ∧
        ∀ earlier ∈ classifierOrder.takeWhile (· ≠ kind), profile.wants earlier = true →
          (policy.panel.seat earlier).ends? earlier (Hostname.lower host) = none := by
  unfold Panel.Reaches
  rw [List.mem_filter,and_iff_right (mem_classifierOrder kind)]
  apply and_congr_right
  intro wanted
  rw [takeWhile_wanted wanted]
  simp only [List.mem_filter,and_imp]

private theorem consults_iff (undecided : Undecided policy host qtype profile) :
    Consults policy host qtype profile kind ↔
      policy.panel.Reaches (Hostname.lower host) (classifierOrder.filter profile.wants) kind ∧
        (policy.panel.seat kind).classifier.isSome = true := by
  simp only [reaches_iff,Seat.ends?_eq_none_iff]
  constructor
  · intro consults
    exact ⟨⟨consults.wanted,consults.passed⟩,consults.seated⟩
  · rintro ⟨⟨wanted,passed⟩,seated⟩
    exact { undecided with wanted,seated,passed }

theorem seat_check_of_consults (consults : Consults policy host qtype profile kind) :
    (policy.check host qtype profile).2.panel.seat kind =
      (policy.panel.seat kind).consulted kind (Hostname.lower host) := by
  obtain ⟨reached,_⟩ := (consults_iff consults.toUndecided).mp consults
  rw [check_of_undecided consults.toUndecided]
  rw [Panel.seat_decide _ (distinct_wanted profile),if_pos reached]

theorem seat_check_of_not_consults (unasked : ¬ Consults policy host qtype profile kind) :
    (policy.check host qtype profile).2.panel.seat kind = policy.panel.seat kind := by
  by_cases undecided : Undecided policy host qtype profile
  · rw [consults_iff undecided,not_and] at unasked
    rw [check_of_undecided undecided,Panel.seat_decide _ (distinct_wanted profile)]
    split
    next reached => exact Seat.consulted_of_not_seated (unasked reached)
    next => rfl
  · rw [check_of_decided undecided]

private theorem requests_check_iff :
    ((policy.check host qtype profile).2.panel.seat kind).counts.requests =
        (policy.panel.seat kind).counts.requests + 1 ↔
      Consults policy host qtype profile kind := by
  constructor
  · intro counted
    by_contra unasked
    rw [seat_check_of_not_consults unasked] at counted
    omega
  · intro consults
    rw [seat_check_of_consults consults,Seat.requests_consulted consults.seated]

private theorem check_of_consults_ends (consults : Consults policy host qtype profile kind)
    {answer : Except Failure Decision} {decision : Decision}
    (answered : (policy.panel.seat kind).answer? kind (Hostname.lower host) = some answer)
    (ended : Panel.ends? answer = some decision) :
    (policy.check host qtype profile).1 = .ok decision := by
  obtain ⟨reached,_⟩ := (consults_iff consults.toUndecided).mp consults
  have decided : (policy.panel.seat kind).ends? kind (Hostname.lower host) = some decision := by
    rw [Seat.ends?,answered]
    exact ended
  rw [check_of_undecided consults.toUndecided]
  exact congrArg Except.ok (Panel.decide_of_reaches (distinct_wanted profile) reached decided)

/-- A decision that matches is that of a classifier that got its turn. -/
theorem check_of_no_match (undecided : Undecided policy host qtype profile)
    (silent : ∀ kind, Consults policy host qtype profile kind → ∀ verdict,
      (policy.panel.seat kind).answer? kind (Hostname.lower host) = some (.ok verdict) →
        verdict.matched = false) :
    (policy.check host qtype profile).1 = .ok .none := by
  rw [check_of_undecided undecided]
  apply congrArg Except.ok
  rcases Panel.decide_cases (Hostname.lower host) (distinct_wanted profile) policy.panel with
    nothing | ⟨matched,kind,reached,given⟩
  · exact nothing
  · obtain ⟨classifier,seated,_⟩ := Option.map_eq_some_iff.mp given
    have consults : Consults policy host qtype profile kind :=
      (consults_iff undecided).mpr ⟨reached,by simp [seated]⟩
    rw [silent kind consults _ given] at matched
    contradiction

/-- A failure leaves nothing behind in the cache, and no later classifier gets its turn. -/
theorem check_of_failure {failure : Failure} (consults : Consults policy host qtype profile kind)
    (failed : (policy.panel.seat kind).answer? kind (Hostname.lower host) = some (.error failure)) :
    (policy.check host qtype profile).1 = .ok .none ∧
      ((policy.check host qtype profile).2.panel.seat kind).cache = (policy.panel.seat kind).cache ∧
      ∀ later, kind ∈ classifierOrder.takeWhile (· ≠ later) →
        ¬ Consults policy host qtype profile later := by
  refine ⟨check_of_consults_ends consults failed rfl,?_,?_⟩
  · rw [seat_check_of_consults consults,Seat.cache_consulted_of_error failed]
  · intro later before reached
    obtain ⟨verdict,given,_⟩ := reached.passed kind before consults.wanted _ failed
    contradiction

private theorem outside_check (policy : Policy) (host : String) (qtype : RecordType)
    (profile : Profile) : ∃ sent : List ClassifierKind, sent.Sublist classifierOrder ∧
      (policy.check host qtype profile).2.panel.outside =
        policy.panel.outside ++ sent.map (fun kind => (kind,Hostname.lower host)) ∧
      ∀ kind, kind ∈ sent ↔ Consults policy host qtype profile kind ∧
        (policy.panel.seat kind).asksOutside (Hostname.lower host) = true := by
  by_cases undecided : Undecided policy host qtype profile
  · refine ⟨policy.panel.sentOutside (Hostname.lower host) (classifierOrder.filter profile.wants),
      List.filter_sublist.trans List.filter_sublist,?_,?_⟩
    · rw [check_of_undecided undecided]
      exact Panel.outside_decide _ (distinct_wanted profile) _
    · intro kind
      rw [consults_iff undecided,Panel.sentOutside,List.mem_filter,decide_eq_true_eq]
      constructor
      · rintro ⟨_,reached,asks⟩
        exact ⟨⟨reached,Seat.seated_of_asksOutside asks⟩,asks⟩
      · rintro ⟨⟨reached,_⟩,asks⟩
        exact ⟨reached.1,reached,asks⟩
  · refine ⟨[],List.nil_sublist _,?_,?_⟩
    · rw [check_of_decided undecided]
      simp
    · intro kind
      constructor
      · intro member
        contradiction
      · rintro ⟨consults,_⟩
        exact absurd consults.toUndecided undecided

theorem check_keeps_rest (policy : Policy) (host : String) (qtype : RecordType)
    (profile : Profile) : (policy.check host qtype profile).2 =
      { policy with panel := (policy.check host qtype profile).2.panel } := by
  by_cases undecided : Undecided policy host qtype profile
  · rw [check_of_undecided undecided]
  · rw [check_of_decided undecided]

/-- What a check does to the classifiers, and what they do to its result. -/
structure AsksInTurn (policy : Policy) (host : String) (qtype : RecordType) (profile : Profile)
    (result : Except Failure Decision) (after : Policy) : Prop where
  counted : ∀ kind, (after.panel.seat kind).counts.requests =
    (policy.panel.seat kind).counts.requests + 1 ↔ Consults policy host qtype profile kind
  consulted : ∀ kind, Consults policy host qtype profile kind →
    after.panel.seat kind = (policy.panel.seat kind).consulted kind (Hostname.lower host)
  untouched : ∀ kind, ¬ Consults policy host qtype profile kind →
    after.panel.seat kind = policy.panel.seat kind
  outside : ∃ sent : List ClassifierKind, sent.Sublist classifierOrder ∧
    after.panel.outside = policy.panel.outside ++ sent.map (fun kind => (kind,Hostname.lower host)) ∧
    ∀ kind, kind ∈ sent ↔ Consults policy host qtype profile kind ∧
      (policy.panel.seat kind).asksOutside (Hostname.lower host) = true
  rest : after = { policy with panel := after.panel }
  matched : ∀ kind verdict, Consults policy host qtype profile kind →
    (policy.panel.seat kind).answer? kind (Hostname.lower host) = some (.ok verdict) →
      verdict.matched = true → result = .ok verdict
  failed : ∀ kind failure, Consults policy host qtype profile kind →
    (policy.panel.seat kind).answer? kind (Hostname.lower host) = some (.error failure) →
      result = .ok .none ∧ (after.panel.seat kind).cache = (policy.panel.seat kind).cache ∧
        ∀ later, kind ∈ classifierOrder.takeWhile (· ≠ later) →
          ¬ Consults policy host qtype profile later
  silent : Undecided policy host qtype profile →
    (∀ kind, Consults policy host qtype profile kind → ∀ verdict,
      (policy.panel.seat kind).answer? kind (Hostname.lower host) = some (.ok verdict) →
        verdict.matched = false) →
      result = .ok .none
  refused : ∀ failure, result = .error failure → failure = .closed ∧ policy.reloader.closing = true

/-- Classifiers are asked in their order up to the first that matches or fails, and not at all for a
host without a name or by a closed policy. What matches is the result, a failure lets the host
through, and no seat is touched but those of the classifiers that are asked. -/
theorem check_asks_in_turn (policy : Policy) (host : String) (qtype : RecordType)
    (profile : Profile) : AsksInTurn policy host qtype profile (policy.check host qtype profile).1
      (policy.check host qtype profile).2 where
  counted _ := requests_check_iff
  consulted _ := seat_check_of_consults
  untouched _ := seat_check_of_not_consults
  outside := outside_check policy host qtype profile
  rest := check_keeps_rest policy host qtype profile
  matched kind verdict consults answered matched :=
    check_of_consults_ends consults answered (by simp [Panel.ends?,matched])
  failed kind failure := check_of_failure
  silent := check_of_no_match
  refused _ := eq_closed_of_check_eq_error

/-- The name of no host is given to anybody, though nothing was decided before the classifiers. -/
theorem check_unnamed_asks_nobody :
    ¬ ∀ (policy : Policy) (host : String) (qtype : RecordType) (profile : Profile)
      (kind : ClassifierKind),
      ((policy.check host qtype profile).2.panel.seat kind).counts.requests =
          (policy.panel.seat kind).counts.requests + 1 ↔
        (policy.settings.rewrites.resolve (Hostname.lower host) qtype).matched = false ∧
        (profile.filtering = true →
          (matchRules policy.reloader.pair (Hostname.lower host) qtype profile.tags).matched = false) ∧
        (Service.decide (Hostname.lower host) profile.services).matched = false ∧
        profile.wants kind = true ∧ (policy.panel.seat kind).classifier.isSome = true ∧
        ∀ earlier ∈ classifierOrder.takeWhile (· ≠ kind), profile.wants earlier = true →
          ∀ answer, (policy.panel.seat earlier).answer? earlier (Hostname.lower host) = some answer →
            ∃ verdict, answer = .ok verdict ∧ verdict.matched = false := by
  intro claimed
  have counted := (claimed (ofSettings {}) "" .a { safeSearch := true } .safeSearch).mpr
    ⟨by decide +kernel,by decide,by decide +kernel,rfl,rfl,by simp [classifierOrder]⟩
  revert counted
  decide

/-- Safe browsing fails, and parental control blocks all. -/
private def failing (settings : Settings) : Policy :=
  ((ofSettings settings).register .safeBrowsing (.external fun _ => .error "timeout")).register
    .parental (.external fun _ => .ok (Decision.ofReason .parental))

/-- The failure lets the host through, and parental control does not hear of it. -/
theorem check_asks_in_turn_failing :
    let profile : Profile := { safeSearch := true, safeBrowsing := true, parental := true }
    ((failing {}).check "example.org" .a profile).1 = .ok .none ∧
      ¬ Consults (failing {}) "example.org" .a profile .parental := by
  intro profile
  have inTurn := check_asks_in_turn (failing {}) "example.org" .a profile
  have consults : Consults (failing {}) "example.org" .a profile .safeBrowsing := by
    apply (inTurn.counted .safeBrowsing).mp
    decide +kernel
  obtain ⟨result,_,unheard⟩ :=
    inTurn.failed .safeBrowsing (.lookup "safe browsing" "timeout") consults (by rfl)
  exact ⟨result,unheard .parental (by decide)⟩

end DnsPolicy.Policy
