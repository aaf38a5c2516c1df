import DnsPolicy.Proofs.NewestWins
import DnsPolicy.Proofs.Precedence
import DnsPolicy.Proofs.Provenance

/-! A request that cannot be built leaves in force what was, and stands in the way of none that comes
after it. -/
namespace DnsPolicy

private theorem RuleRequest.build_eq_error_iff {request : RuleRequest} {failure : Failure} :
    request.build = .error failure ↔ Ruleset.build request.block = .error failure ∨
      (∃ ruleset, Ruleset.build request.block = .ok ruleset) ∧
        Ruleset.build request.allow = .error failure := by
  unfold build
  cases block : Ruleset.build request.block with
  | error fault => simp [bind,Except.bind]
  | ok ruleset =>
    cases allow : Ruleset.build request.allow <;>
      simp [bind,Except.bind,pure,Except.pure]

private theorem exists_first_failure {block allow : List ListSource}
    (fails : (∃ failure, Ruleset.build block = .error failure) ∨
      ∃ failure, Ruleset.build allow = .error failure) :
    ∃ failure, Ruleset.build block = .error failure ∨
      (∃ ruleset, Ruleset.build block = .ok ruleset) ∧ Ruleset.build allow = .error failure := by
  cases built : Ruleset.build block with
  | error failure => exact ⟨failure,Or.inl rfl⟩
  | ok ruleset =>
    rcases fails with ⟨failure,failed⟩ | ⟨failure,failed⟩
    · rw [built] at failed
      contradiction
    · exact ⟨failure,Or.inr ⟨⟨ruleset,rfl⟩,failed⟩⟩

namespace Reloader

variable {reloader : Reloader} {request : RuleRequest} {failure : Failure}

private theorem not_installs_of_error (failed : request.build = .error failure) :
    reloader.installs request = false := by
  simp [installs,failed,Except.isOk,Except.toBool]

private theorem rebuild_of_error (failed : request.build = .error failure) :
    (reloader.rebuild request).2 = reloader := rebuild_of_not_installs (not_installs_of_error failed)

private theorem rebuild_eq_error (opened : reloader.closed = false)
    (recent : reloader.installed ≤ request.number) (failed : request.build = .error failure) :
    reloader.rebuild request = (.error failure,reloader) := by
  simp [rebuild,opened,failed,Nat.not_lt.mpr recent]

/-- What is in force is known from the installs, until all is over. -/
theorem Standing.Shows.unique {one other : Standing} {installs : List RuleRequest}
    (shows : one.Shows installs) (also : other.Shows installs) (opened : one.closed = false)
    (still : other.closed = false) : one = other := by
  have pair : one.pair = other.pair := by
    cases last : installs.getLast? with
    | none =>
      have nothing := List.getLast?_eq_none_iff.mp last
      rw [shows.empty (Or.inr nothing),also.empty (Or.inr nothing)]
    | some request =>
      have built := shows.last opened request last
      rw [also.last still request last] at built
      exact (Except.ok.inj built).symm
  have mark : one.installed = other.installed := shows.mark.trans also.mark.symm
  have generation : one.generation = other.generation := shows.counted.trans also.counted.symm
  cases one
  cases other
  simp_all

/-- No check tells the two apart, whatever else a policy has. -/
def AnswersLike (one other : Reloader) : Prop :=
  ∀ (policy : Policy) (host : String) (qtype : RecordType) (profile : Profile),
    ({ policy with reloader := one }.check host qtype profile).1 =
      ({ policy with reloader := other }.check host qtype profile).1 ∧
    { policy with reloader := one }.checkRules host qtype profile =
      { policy with reloader := other }.checkRules host qtype profile

private theorem AnswersLike.of_standing {one other : Reloader}
    (standing : one.standing = other.standing)
    (closing : one.closing = other.closing) : one.AnswersLike other := by
  intro policy host qtype profile
  have pair : one.pair = other.pair := congrArg Standing.pair standing
  have same : ({ policy with reloader := one } : Policy).findings host qtype profile =
      ({ policy with reloader := other } : Policy).findings host qtype profile := by
    simp only [Policy.findings,pair]
  have closes : ({ policy with reloader := one } : Policy).reloader.closing =
      ({ policy with reloader := other } : Policy).reloader.closing := closing
  exact ⟨Policy.check_fst_congr closes fun _ => same,Policy.checkRules_congr closes fun _ => same⟩

namespace Scene

variable {scene : Scene} {action : Action} {submissions installs : List RuleRequest}

private theorem installs_of_error (built : scene.built? action = some request)
    (failed : request.build = .error failure) (more : List Action) :
    scene.installs (action :: more) = (scene.step action).installs more := by
  have silent : scene.installed? action = none := by
    rw [installed?,built,Option.filter_some,not_installs_of_error failed]
    rfl
  change (scene.installed? action).toList ++ (scene.step action).installs more = _
  rw [silent]
  rfl

private theorem step_of_error (built : scene.built? action = some request)
    (failed : request.build = .error failure) :
    (scene.step action).reloader.standing = scene.reloader.standing := by
  cases action with
  | build number =>
    have found : scene.underWay.find? (·.number == number) = some request := built
    simp only [step,Scene.build,found,rebuild_of_error failed]
  | finish =>
    have taken : scene.reloader.taken = some request := built
    simp only [step,finish,taken,rebuild_of_error failed]
    rfl
  | _ => contradiction

private theorem step_of_install (built : scene.built? action = some request)
    (opened : scene.reloader.closed = false) (recent : scene.reloader.installed ≤ request.number)
    {pair : RulePair} (usable : request.build = .ok pair) :
    (scene.step action).reloader.standing =
      ⟨pair,request.number,scene.reloader.generation + 1,false⟩ := by
  have installed : scene.installed? action = some request := by
    rw [installed?,built,Option.filter_some,if_pos (installs_iff.mpr ⟨opened,recent,pair,usable⟩)]
  cases scene.step_effect action with
  | installs other found _ same ok _ _ _ _ standing =>
    obtain rfl : request = other := Option.some.inj (installed.symm.trans same)
    obtain rfl : pair = found := Except.ok.inj (usable.symm.trans ok)
    exact standing
  | draws _ _ idle => simp [installed] at idle
  | moves _ idle => simp [installed] at idle
  | closes _ idle => simp [installed] at idle

private theorem Account.mark_le_of_last (account : scene.Account submissions installs)
    {number : Nat}
    (last : ∀ other ∈ installs, other.number ≤ number) : scene.reloader.installed ≤ number := by
  rcases account.shows.mark_cases with zero | ⟨other,member,mark⟩
  · have none : scene.reloader.installed = 0 := zero
    omega
  · have same : other.number = scene.reloader.installed := mark
    exact same ▸ last other member

/-- Until something is installed or taken in no more, all checks are as they were. -/
theorem answersLike_run (actions more : List Action)
    (idle : (run {} actions).installs more = [])
    (opened : ((run {} actions).run more).reloader.closing = false) :
    ((run {} actions).run more).reloader.AnswersLike (run {} actions).reloader := by
  -- Both states show the same installs, and neither is beyond the end.
  have before := account_run actions
  have after := before.run more
  rw [idle,List.append_nil] at after
  have earlier : (run {} actions).reloader.closing = false := by
    cases closing : (run {} actions).reloader.closing with
    | false => rfl
    | true =>
      have onward : ((run {} actions).run more).reloader.closing = true := closing_run closing more
      rw [opened] at onward
      contradiction
  have open_ : (run {} actions).reloader.closed = false := closed_eq_false actions earlier
  have still : ((run {} actions).run more).reloader.closed = false := by
    rw [← run_append] at opened ⊢
    exact closed_eq_false _ opened
  exact .of_standing (after.shows.unique before.shows still open_) (opened.trans earlier.symm)

private theorem setRules_of_error (actions : List Action) {block allow : List ListSource}
    (opened : (run {} actions).reloader.closing = false)
    (failed : ∀ number, RuleRequest.build ⟨number,block,allow⟩ = .error failure) :
    (run {} actions).reloader.setRules block allow false = (.error failure,
      { (run {} actions).reloader with submitted := (run {} actions).reloader.submitted + 1 }) := by
  have open_ := closed_eq_false actions opened
  have bound := (account_run actions).mark_le
  simp only [setRules,submit,opened,Reloader.draw,Bool.false_eq_true,if_false]
  exact rebuild_eq_error open_ (Nat.le_succ_of_le bound) (failed _)

private theorem settle_of_error {reloader : Reloader} {block allow : List ListSource}
    (opened : reloader.closing = false) (started : reloader.started = true)
    (free : reloader.taken = none)
    (failed : ∀ number, RuleRequest.build ⟨number,block,allow⟩ = .error failure) :
    (reloader.setRules block allow true).2.settle =
      { reloader with submitted := reloader.submitted + 1, waiting := none } := by
  let request : RuleRequest := ⟨reloader.submitted + 1,block,allow⟩
  have queued : (reloader.setRules block allow true).2 =
      { reloader with submitted := reloader.submitted + 1, waiting := some request } := by
    simp [setRules,enqueue,opened,Reloader.draw,request]
  have held : ({ reloader with
        submitted := reloader.submitted + 1, waiting := some request } : Reloader).take =
      { reloader with
        submitted := reloader.submitted + 1, waiting := none, taken := some request } := by
    simp [take,opened,started,free]
  have unbuilt : request.build = .error failure := failed _
  rw [settle,queued,held,finish]
  simp only [rebuild_of_error unbuilt,free]

/-- Lists that cannot be used, in any state that callers and worker can lead to. The call that builds
them hears of the block lists first, and nothing but the numbers has moved on. So it is whoever builds
them, the worker too, and until something is installed no check is any other. Whatever comes next is
installed in its turn, if it can be built and nothing later is in force. -/
theorem failed_rebuild (actions : List Action) (block allow : List ListSource)
    (fails : (∃ failure, Ruleset.build block = .error failure) ∨
      ∃ failure, Ruleset.build allow = .error failure) :
    let scene := run {} actions
    ∃ failure,
      (Ruleset.build block = .error failure ∨
        (∃ ruleset, Ruleset.build block = .ok ruleset) ∧ Ruleset.build allow = .error failure) ∧
      (scene.reloader.closing = false →
        scene.reloader.setRules block allow false =
          (.error failure,{ scene.reloader with submitted := scene.reloader.submitted + 1 }) ∧
        (scene.reloader.started = true → scene.reloader.taken = none →
          (scene.reloader.setRules block allow true).2.settle =
            { scene.reloader with submitted := scene.reloader.submitted + 1, waiting := none })) ∧
      ∀ number action, scene.built? action = some ⟨number,block,allow⟩ →
        (scene.step action).reloader.standing = scene.reloader.standing ∧
        (scene.reloader.closed = false →
          (∀ other ∈ Scene.installs {} actions, other.number ≤ number) →
          (scene.reloader.rebuild ⟨number,block,allow⟩).1 = .error failure) ∧
        ∀ more,
          let later := (scene.step action).run more
          ((scene.step action).installs more = [] → later.reloader.closing = false →
            later.reloader.AnswersLike scene.reloader) ∧
          ∀ request pair turn, later.built? turn = some request → request.build = .ok pair →
            later.reloader.closed = false →
            (∀ other ∈ Scene.installs {} (actions ++ action :: more), other.number ≤ request.number) →
            (later.step turn).reloader.standing =
              ⟨pair,request.number,later.reloader.generation + 1,false⟩ := by
  intro scene
  obtain ⟨failure,first⟩ := exists_first_failure fails
  have failed : ∀ number, RuleRequest.build ⟨number,block,allow⟩ = .error failure :=
    fun number => RuleRequest.build_eq_error_iff.mpr first
  refine ⟨failure,first,?_,?_⟩
  · intro opened
    exact ⟨setRules_of_error actions opened failed,
      fun started free => settle_of_error opened started free failed⟩
  · intro number action turn
    have account : scene.Account _ _ := account_run actions
    have standing : (scene.step action).reloader.standing = scene.reloader.standing :=
      step_of_error turn (failed number)
    refine ⟨standing,?_,?_⟩
    · intro open_ last
      rw [rebuild_eq_error open_ (account.mark_le_of_last last) (failed number)]
    · intro more later
      have reached : run {} (actions ++ action :: more) = later := run_append ..
      constructor
      · intro idle opened
        have none : scene.installs (action :: more) = [] :=
          (installs_of_error turn (failed number) more).trans idle
        exact answersLike_run actions (action :: more) none opened
      · intro request pair turn built usable open_ last
        have after := account_run (actions ++ action :: more)
        rw [reached] at after
        exact step_of_install built open_ (after.mark_le_of_last last) usable

private def faulty : List ListSource := [{ id := 0, text := "||ads.example^\n0.0.0.0" }]

private def sound : List ListSource := [{ id := 0, text := "||ads.example^" }]

/-- Empty lists are in force, and the worker has just taken faulty ones. -/
private def mistaken : List Action :=
  [.enter,.draw [] [],.build 1,.start,.enqueue faulty [],.take]

theorem failed_rebuild_mistaken :
    ∃ failure pair,
      ((run {} mistaken).reloader.setRules faulty [] false).1 = .error failure ∧
      ((run {} mistaken).step .finish).reloader.standing = (run {} mistaken).reloader.standing ∧
      RuleRequest.build ⟨3,sound,[]⟩ = .ok pair ∧
      (run {} (mistaken ++ [.finish,.enqueue sound [],.take,.finish])).reloader.standing =
        ⟨pair,3,2,false⟩ := by
  obtain ⟨fault,failed⟩ : ∃ fault, Ruleset.build faulty = .error fault := ⟨_,rfl⟩
  have usable : (RuleRequest.build ⟨3,sound,[]⟩).isOk = true := by decide +kernel
  obtain ⟨pair,built⟩ := exists_of_isOk usable
  obtain ⟨failure,_,calls,turns⟩ := failed_rebuild mistaken faulty [] (Or.inl ⟨fault,failed⟩)
  have turn : (run {} mistaken).built? .finish = some ⟨2,faulty,[]⟩ := by decide +kernel
  obtain ⟨standing,_,onward⟩ := turns 2 .finish turn
  obtain ⟨_,later⟩ := onward [.enqueue sound [],.take]
  have installed := later ⟨3,sound,[]⟩ pair .finish (by decide +kernel) built (by decide +kernel)
    (by decide +kernel)
  have heard := (calls (by decide +kernel)).1
  exact ⟨failure,pair,congrArg Prod.fst heard,standing,built,installed⟩

end Scene

end Reloader

end DnsPolicy
