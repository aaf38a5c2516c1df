import DnsPolicy.Proofs.InstallOrder
import DnsPolicy.Proofs.Success

/-! No request is lost unless a later one has come: it may still be built, or it was. So the request
that came last is in force once nothing is left to do, whatever became of those before it. -/
namespace DnsPolicy.Reloader.Scene

/-- Where the requests are that may still be built, and how far the end has come. -/
structure Places where
  underWay : List RuleRequest
  waiting : Option RuleRequest
  taken : Option RuleRequest
  closing : Bool
  closed : Bool

def places (scene : Scene) : Places :=
  ⟨scene.underWay,scene.reloader.waiting,scene.reloader.taken,scene.reloader.closing,
    scene.reloader.closed⟩

variable {scene : Scene} {action : Action} {request : RuleRequest}

private theorem mem_pending : request ∈ scene.pending ↔
    request ∈ scene.places.underWay ∨ scene.places.waiting = some request ∨
      scene.places.taken = some request := by
  simp [pending,places,Option.mem_toList]

/-! ### What becomes of a request in one step -/

inductive Shift (scene : Scene) (action : Action) (next : Scene) : Prop where
  | stays (places : next.places = scene.places)
  | draws (request : RuleRequest) (drawn : scene.submitted? action = some request)
      (places : next.places = { scene.places with underWay := request :: scene.underWay })
  | builds (request : RuleRequest) (built : scene.built? action = some request)
      (member : request ∈ scene.underWay)
      (places : next.places = { scene.places with
        underWay := scene.underWay.filter (·.number != request.number) })
  | fills (request : RuleRequest) (drawn : scene.submitted? action = some request)
      (number : request.number = scene.reloader.submitted + 1)
      (places : next.places = { scene.places with waiting := some request })
  | takes (is : action = .take) (free : scene.reloader.taken = none)
      (places : next.places = { scene.places with
        waiting := none, taken := scene.reloader.waiting })
  | finishes (request : RuleRequest) (built : scene.built? action = some request)
      (taken : scene.reloader.taken = some request)
      (places : next.places = { scene.places with taken := none })
  | closes (is : action = .beginClose)
      (places : next.places = { scene.places with waiting := none, closing := true })
  | ends (closing : scene.reloader.closing = true)
      (places : next.places = { scene.places with closed := true })

theorem rebuild_flags (reloader : Reloader) (request : RuleRequest) :
    (reloader.rebuild request).2.closing = reloader.closing ∧
      (reloader.rebuild request).2.closed = reloader.closed := by
  rcases reloader.rebuild_cases request with ⟨_,opened,_,pair,_,rebuilt⟩ | ⟨_,rebuilt⟩ <;>
    simp [rebuilt]

private theorem shift_build {number : Nat} (found : scene.underWay.find? (·.number == number) = some request) :
    scene.Shift (.build number) (scene.build number) := by
  obtain ⟨waiting,taken⟩ := rebuild_slots scene.reloader request
  obtain ⟨closing,closed⟩ := rebuild_flags scene.reloader request
  have numbered : request.number = number := by simpa using List.find?_some found
  refine .builds request found (List.mem_of_find?_eq_some found) ?_
  simp only [Scene.build,found,places,waiting,taken,closing,closed,numbered]

private theorem shift_finish (taken : scene.reloader.taken = some request) :
    scene.Shift .finish { scene with reloader := scene.reloader.finish } := by
  obtain ⟨waiting,_⟩ := rebuild_slots scene.reloader request
  obtain ⟨closing,closed⟩ := rebuild_flags scene.reloader request
  refine .finishes request taken taken ?_
  simp only [finish,taken,places,waiting,closing,closed]

private theorem step_shift (scene : Scene) (action : Action) :
    scene.Shift action (scene.step action) := by
  cases action with
  | enter =>
    simp only [step,Scene.enter]
    split <;> exact .stays rfl
  | draw block allow =>
    cases callers : scene.entered with
    | zero =>
      simp only [step,Scene.draw,callers]
      exact .stays rfl
    | succ entered =>
      simp only [step,Scene.draw,callers]
      exact .draws ⟨scene.reloader.submitted+1,block,allow⟩ (by simp [submitted?,callers]) rfl
  | build number =>
    cases found : scene.underWay.find? (·.number == number) with
    | none =>
      simp only [step,Scene.build,found]
      exact .stays rfl
    | some request => exact shift_build found
  | enqueue block allow =>
    by_cases closing : scene.reloader.closing
    · simp only [step,enqueue,closing]
      exact .stays rfl
    · simp only [step,enqueue,closing]
      refine .fills ⟨scene.reloader.submitted+1,block,allow⟩ (by simp [submitted?,closing]) rfl ?_
      simp [places,closing,Reloader.draw]
  | start =>
    simp only [step,start]
    split
    · exact .stays rfl
    · split <;> exact .stays rfl
  | take =>
    simp only [step,take]
    split
    · next free =>
      simp only [Bool.and_eq_true,Option.isNone_iff_eq_none] at free
      exact .takes rfl free.2 rfl
    · exact .stays rfl
  | finish =>
    cases taken : scene.reloader.taken with
    | none =>
      simp only [step,finish,taken]
      exact .stays rfl
    | some request => exact shift_finish taken
  | beginClose =>
    simp only [step,beginClose]
    split
    · exact .stays rfl
    · exact .closes rfl rfl
  | endClose =>
    simp only [step,endClose]
    split
    · next idle =>
      simp only [Bool.and_eq_true] at idle
      exact .ends idle.1 rfl
    · exact .stays rfl

/-- A request that may be built still may, or is built now, or gives way to a later one in the slot,
unless all is about to end. -/
theorem pending_step (distinct : (scene.pending.map RuleRequest.number).Nodup)
    (member : request ∈ scene.pending) (action : Action) :
    request ∈ (scene.step action).pending ∨ scene.built? action = some request ∨
      ((scene.submitted? action).isSome ∧ scene.reloader.waiting = some request) ∨
      (scene.step action).reloader.closing = true := by
  rw [mem_pending] at member
  cases scene.step_shift action with
  | stays places =>
    left
    rwa [mem_pending,places]
  | draws newer drawn places =>
    left
    rw [mem_pending,places]
    exact member.imp_left (List.mem_cons_of_mem _)
  | builds other built inside places =>
    rw [mem_pending,places]
    rcases member with under | elsewhere
    · -- Numbers of pending requests differ, so the one that is built is the only one to go.
      by_cases same : request.number = other.number
      · have pending : ∀ among ∈ scene.underWay, among ∈ scene.pending :=
          fun among member => mem_pending.mpr (Or.inl member)
        have equal : other = request := List.inj_on_of_nodup_map distinct (pending _ inside)
          (pending _ under) same.symm
        exact Or.inr (Or.inl (equal ▸ built))
      · exact Or.inl (Or.inl (List.mem_filter.mpr ⟨under,by simpa using same⟩))
    · exact Or.inl (Or.inr elsewhere)
  | fills newer drawn number places =>
    rw [mem_pending,places]
    rcases member with under | waiting | taken
    · exact Or.inl (Or.inl under)
    · exact Or.inr (Or.inr (Or.inl ⟨by simp [drawn],waiting⟩))
    · exact Or.inl (Or.inr (Or.inr taken))
  | takes is free places =>
    rw [mem_pending,places]
    rcases member with under | waiting | taken
    · exact Or.inl (Or.inl under)
    · exact Or.inl (Or.inr (Or.inr waiting))
    · have other : scene.reloader.taken = some request := taken
      rw [free] at other
      contradiction
  | finishes other built taken places =>
    rw [mem_pending,places]
    rcases member with under | waiting | held
    · exact Or.inl (Or.inl under)
    · exact Or.inl (Or.inr (Or.inl waiting))
    · have same : scene.reloader.taken = some request := held
      rw [built,← taken,same]
      exact Or.inr (Or.inl rfl)
  | closes is places => exact Or.inr (Or.inr (Or.inr (congrArg Places.closing places)))
  | ends _ places =>
    left
    rwa [mem_pending,places]

private theorem mem_pending_of_built (built : scene.built? action = some request) :
    request ∈ scene.pending := by
  rw [mem_pending]
  cases action with
  | build number => exact Or.inl (List.mem_of_find?_eq_some built)
  | finish => exact Or.inr (Or.inr built)
  | _ => contradiction

private theorem pending_of_submitted (drawn : scene.submitted? action = some request) :
    request.number = scene.reloader.submitted + 1 ∧ request ∈ (scene.step action).pending := by
  cases action with
  | draw block allow =>
    cases callers : scene.entered with
    | zero => simp [submitted?,callers] at drawn
    | succ entered =>
      simp only [submitted?,callers,Nat.succ_ne_zero,if_false] at drawn
      obtain rfl := Option.some.inj drawn
      exact ⟨rfl,by simp [pending,step,Scene.draw,callers,Reloader.draw]⟩
  | enqueue block allow =>
    cases closing : scene.reloader.closing with
    | true => simp [submitted?,closing] at drawn
    | false =>
      simp only [submitted?,closing,Bool.false_eq_true,if_false] at drawn
      obtain rfl := Option.some.inj drawn
      exact ⟨rfl,by simp [pending,step,enqueue,closing,Reloader.draw]⟩
  | _ => contradiction

/-- The slot gives a request to the worker or to the end, or it gives it up for a later one. -/
theorem waiting_step (bound : request.number ≤ scene.reloader.submitted)
    (waiting : scene.reloader.waiting = some request) (action : Action) :
    (scene.step action).reloader.waiting = some request ∨
    (action = .take ∧ (scene.step action).reloader.waiting = none ∧
      (scene.step action).reloader.taken = some request) ∨
    (∃ newer, scene.submitted? action = some newer ∧ request.number < newer.number ∧
      (scene.step action).reloader.waiting = some newer) ∨
    (action = .beginClose ∧ (scene.step action).reloader.waiting = none) := by
  cases scene.step_shift action with
  | stays places => exact Or.inl ((congrArg Places.waiting places).trans waiting)
  | draws _ _ places => exact Or.inl ((congrArg Places.waiting places).trans waiting)
  | builds _ _ _ places => exact Or.inl ((congrArg Places.waiting places).trans waiting)
  | finishes _ _ _ places => exact Or.inl ((congrArg Places.waiting places).trans waiting)
  | ends _ places => exact Or.inl ((congrArg Places.waiting places).trans waiting)
  | fills newer drawn number places =>
    exact Or.inr (Or.inr (Or.inl ⟨newer,drawn,by omega,congrArg Places.waiting places⟩))
  | takes is free places =>
    exact Or.inr (Or.inl ⟨is,congrArg Places.waiting places,
      (congrArg Places.taken places).trans waiting⟩)
  | closes is places => exact Or.inr (Or.inr (Or.inr ⟨is,congrArg Places.waiting places⟩))

theorem closing_step (closing : scene.reloader.closing = true) (action : Action) :
    (scene.step action).reloader.closing = true := by
  cases scene.step_shift action with
  | closes is places => exact congrArg Places.closing places
  | ends _ places => exact (congrArg Places.closing places).trans closing
  | stays places => exact (congrArg Places.closing places).trans closing
  | draws _ _ places => exact (congrArg Places.closing places).trans closing
  | builds _ _ _ places => exact (congrArg Places.closing places).trans closing
  | fills _ _ _ places => exact (congrArg Places.closing places).trans closing
  | takes _ _ places => exact (congrArg Places.closing places).trans closing
  | finishes _ _ _ places => exact (congrArg Places.closing places).trans closing

private theorem closed_step (gated : scene.reloader.closed = true → scene.reloader.closing = true)
    (closed : (scene.step action).reloader.closed = true) :
    (scene.step action).reloader.closing = true := by
  have still : scene.reloader.closing = true ∨
      (scene.step action).reloader.closed = scene.reloader.closed := by
    cases scene.step_shift action with
    | ends closing places => exact Or.inl closing
    | stays places => exact Or.inr (congrArg Places.closed places)
    | draws _ _ places => exact Or.inr (congrArg Places.closed places)
    | builds _ _ _ places => exact Or.inr (congrArg Places.closed places)
    | fills _ _ _ places => exact Or.inr (congrArg Places.closed places)
    | takes _ _ places => exact Or.inr (congrArg Places.closed places)
    | finishes _ _ _ places => exact Or.inr (congrArg Places.closed places)
    | closes _ places => exact Or.inr (congrArg Places.closed places)
  rcases still with closing | same
  · exact closing_step closing action
  · exact closing_step (gated (same.symm.trans closed)) action

theorem closing_run (closing : scene.reloader.closing = true) (actions : List Action) :
    (scene.run actions).reloader.closing = true := by
  induction actions generalizing scene with
  | nil => exact closing
  | cons action rest ih => exact ih (closing_step closing action)

/-! ### What has become of all requests -/

variable {submissions builds installs : List RuleRequest}

/-- While requests are taken in, each of them may still be built, was built, or is not the last. None
that was built and can be is beyond the mark. -/
structure Ledger (scene : Scene) (submissions builds installs : List RuleRequest) : Prop where
  account : scene.Account submissions installs
  gated : scene.reloader.closed = true → scene.reloader.closing = true
  known : ∀ request ∈ builds, request ∈ submissions
  among : ∀ request ∈ installs, request ∈ builds
  kept : scene.reloader.closing = false → ∀ request ∈ submissions,
    request ∈ scene.pending ∨ request ∈ builds ∨ ∃ newer ∈ submissions, request.number < newer.number
  marked : scene.reloader.closed = false → ∀ request ∈ builds, ∀ pair, request.build = .ok pair →
    request.number ≤ scene.reloader.installed

namespace Ledger

private theorem start : Ledger {} [] [] [] where
  account := .start
  gated := by simp
  known := by simp
  among := by simp
  kept := by simp
  marked := by simp

private theorem kept_step (ledger : scene.Ledger submissions builds installs) (action : Action)
    (opened : (scene.step action).reloader.closing = false) :
    ∀ request ∈ submissions ++ (scene.submitted? action).toList,
      request ∈ (scene.step action).pending ∨ request ∈ builds ++ (scene.built? action).toList ∨
        ∃ newer ∈ submissions ++ (scene.submitted? action).toList, request.number < newer.number := by
  have before : scene.reloader.closing = false := by
    cases closing : scene.reloader.closing with
    | false => rfl
    | true => exact absurd (closing_step closing action) (by simp [opened])
  intro request member
  rcases List.mem_append.mp member with old | new
  · rcases ledger.kept before request old with waits | built | ⟨newer,among,later⟩
    · rcases pending_step ledger.account.distinct waits action with
        still | now | ⟨drawn,_⟩ | closing
      · exact Or.inl still
      · exact Or.inr (Or.inl (List.mem_append_right _ (by simp [now])))
      · -- What takes its place in the slot has the next number of all.
        obtain ⟨newer,drawn⟩ := Option.isSome_iff_exists.mp drawn
        have number := (pending_of_submitted drawn).1
        have bound := (ledger.account.number_bounds old).2
        exact Or.inr (Or.inr ⟨newer,List.mem_append_right _ (by simp [drawn]),by omega⟩)
      · rw [opened] at closing
        contradiction
    · exact Or.inr (Or.inl (List.mem_append_left _ built))
    · exact Or.inr (Or.inr ⟨newer,List.mem_append_left _ among,later⟩)
  · exact Or.inl (pending_of_submitted (Option.mem_toList.mp new)).2

private theorem marked_step (ledger : scene.Ledger submissions builds installs) (action : Action)
    (opened : (scene.step action).reloader.closed = false) :
    ∀ request ∈ builds ++ (scene.built? action).toList, ∀ pair, request.build = .ok pair →
      request.number ≤ (scene.step action).reloader.installed := by
  have before : scene.reloader.closed = false := by
    cases closed : scene.reloader.closed with
    | false => rfl
    | true => exact absurd (step_of_closed closed action).1 (by simp [opened])
  have onward : scene.reloader.installed ≤ (scene.step action).reloader.installed :=
    (ledger.account.beyond_mark [action]).1
  intro request member pair built
  rcases List.mem_append.mp member with old | now
  · exact Nat.le_trans (ledger.marked before request old pair built) onward
  · by_cases recent : scene.reloader.installed ≤ request.number
    · -- It is installed now, so the mark is its number.
      have installs : scene.reloader.installs request = true :=
        installs_iff.mpr ⟨before,recent,pair,built⟩
      have installed : scene.installed? action = some request := by
        rw [installed?,Option.mem_toList.mp now,Option.filter_some,if_pos installs]
      have next := ledger.account.step action
      exact next.shows.number_le_mark (List.mem_append_right _ (by simp [installed]))
    · omega

private theorem step (ledger : scene.Ledger submissions builds installs) (action : Action) :
    (scene.step action).Ledger (submissions ++ (scene.submitted? action).toList)
      (builds ++ (scene.built? action).toList) (installs ++ (scene.installed? action).toList) where
  account := ledger.account.step action
  gated := closed_step ledger.gated
  known request member := by
    rcases List.mem_append.mp member with old | now
    · exact List.mem_append_left _ (ledger.known request old)
    · have pending := mem_pending_of_built (Option.mem_toList.mp now)
      exact List.mem_append_left _ (ledger.account.known request pending)
  among request member := by
    rcases List.mem_append.mp member with old | now
    · exact List.mem_append_left _ (ledger.among request old)
    · have built := (Option.mem_filter_iff.mp (Option.mem_toList.mp now)).1
      exact List.mem_append_right _ (Option.mem_toList.mpr built)
  kept := ledger.kept_step action
  marked := ledger.marked_step action

private theorem run (ledger : scene.Ledger submissions builds installs) (actions : List Action) :
    (scene.run actions).Ledger (submissions ++ scene.submissions actions)
      (builds ++ scene.builds actions) (installs ++ scene.installs actions) := by
  induction actions generalizing scene submissions builds installs with
  | nil =>
    simpa [Scene.run,Scene.submissions,Scene.builds,Scene.installs,history] using ledger
  | cons action rest ih =>
    have later := ih (ledger.step action)
    rw [List.append_assoc,List.append_assoc,List.append_assoc] at later
    exact later

/-- Of the requests that were built and can be, the last is in force. -/
theorem in_force (ledger : scene.Ledger submissions builds installs)
    (open_ : scene.reloader.closed = false) (member : request ∈ builds) {pair : RulePair}
    (built : request.build = .ok pair)
    (last : ∀ other ∈ builds, ∀ pair, other.build = .ok pair → other.number ≤ request.number) :
    scene.reloader.pair = pair ∧ scene.reloader.installed = request.number := by
  have shows := ledger.account.shows
  have reached := ledger.marked open_ request member pair built
  have positive := (ledger.account.number_bounds (ledger.known request member)).1
  have mark := shows.mark
  cases found : installs.getLast? with
  | none =>
    rw [found] at mark
    have unmarked : scene.reloader.installed = 0 := mark
    omega
  | some final =>
    rw [found] at mark
    have marked : scene.reloader.installed = final.number := mark
    -- The mark is not below the request, and the last install is not beyond it.
    have inForce : final.build = .ok scene.reloader.pair := shows.last open_ final found
    have among : final ∈ builds := ledger.among final (List.mem_of_getLast? found)
    have below := last final among scene.reloader.pair inForce
    have distinct : (submissions.map RuleRequest.number).Nodup := by
      rw [ledger.account.numbered]
      exact List.nodup_range'
    have same : final = request := List.inj_on_of_nodup_map distinct (ledger.known final among)
      (ledger.known request member) (by omega)
    subst same
    exact ⟨Except.ok.inj (inForce.symm.trans built),marked⟩

private theorem nothing_in_force (ledger : scene.Ledger submissions builds installs)
    (failed : ∀ request ∈ builds, ∀ pair, request.build ≠ .ok pair) : scene.reloader.pair = {} := by
  have shows := ledger.account.shows
  cases closed : scene.reloader.closed with
  | true => exact shows.empty (Or.inl closed)
  | false =>
    cases found : installs.getLast? with
    | none => exact shows.empty (Or.inr (List.getLast?_eq_none_iff.mp found))
    | some final =>
      have among : final ∈ builds := ledger.among final (List.mem_of_getLast? found)
      exact absurd (shows.last closed final found) (failed final among _)

/-- Where nothing may still be built, the last request that came was built. -/
theorem built_of_newest (ledger : scene.Ledger submissions builds installs)
    (opened : scene.reloader.closing = false) (idle : scene.pending = []) (member : request ∈ submissions)
    (newest : ∀ other ∈ submissions, other.number ≤ request.number) : request ∈ builds := by
  rcases ledger.kept opened request member with waits | built | ⟨newer,among,later⟩
  · rw [idle] at waits
    contradiction
  · exact built
  · exact absurd (newest newer among) (Nat.not_le_of_lt later)

end Ledger

private theorem ledger_run (actions : List Action) :
    (run {} actions).Ledger (Scene.submissions {} actions) (Scene.builds {} actions)
      (Scene.installs {} actions) := by
  simpa using Ledger.start.run actions

theorem closed_eq_false (actions : List Action)
    (opened : (run {} actions).reloader.closing = false) :
    (run {} actions).reloader.closed = false := by
  by_contra ended
  have closing := (ledger_run actions).gated (Bool.not_eq_false _ ▸ ended)
  rw [opened] at closing
  contradiction

/-- In every state that callers and worker can lead to. While requests are taken in and nothing is
left to build, the last request is in force if it can be built, whatever became of those before it.
At any time before the end the last of all requests that were built and can be is in force, and
nothing where there is none. The slot keeps its request until the worker takes it, a later one comes
for it or all is about to end. -/
theorem newest_in_force (actions : List Action) :
    let scene := run {} actions
    (scene.reloader.closing = false → scene.pending = [] →
      ∀ newest ∈ Scene.submissions {} actions,
        (∀ other ∈ Scene.submissions {} actions, other.number ≤ newest.number) →
        ∀ pair, newest.build = .ok pair →
          scene.reloader.pair = pair ∧ scene.reloader.installed = newest.number) ∧
    (scene.reloader.closed = false →
      (∀ request ∈ Scene.builds {} actions, ∀ pair, request.build = .ok pair →
        (∀ other ∈ Scene.builds {} actions, ∀ pair, other.build = .ok pair →
          other.number ≤ request.number) →
        scene.reloader.pair = pair ∧ scene.reloader.installed = request.number) ∧
      ((∀ request ∈ Scene.builds {} actions, ∀ pair, request.build ≠ .ok pair) →
        scene.reloader.pair = {})) ∧
    ∀ request, scene.reloader.waiting = some request → ∀ action,
      (scene.step action).reloader.waiting = some request ∨
      (action = .take ∧ (scene.step action).reloader.waiting = none ∧
        (scene.step action).reloader.taken = some request) ∨
      (∃ newer, scene.submitted? action = some newer ∧ request.number < newer.number ∧
        (scene.step action).reloader.waiting = some newer) ∨
      (action = .beginClose ∧ (scene.step action).reloader.waiting = none) := by
  intro scene
  have ledger : scene.Ledger _ _ _ := ledger_run actions
  refine ⟨?_,?_,?_⟩
  · intro opened idle newest member above pair built
    have open_ : scene.reloader.closed = false := closed_eq_false actions opened
    refine ledger.in_force open_ (ledger.built_of_newest opened idle member above) built ?_
    exact fun other among _ _ => above other (ledger.known other among)
  · intro open_
    exact ⟨fun request member pair built last => ledger.in_force open_ member built last,
      fun failed => ledger.nothing_in_force failed⟩
  · intro request waiting action
    have member : request ∈ scene.pending := mem_pending.mpr (Or.inr (Or.inl waiting))
    have bound := (ledger.account.number_bounds (ledger.account.known request member)).2
    exact waiting_step bound waiting action

/-- Five requests: the first is built too late, the second gives way to the third in the slot before
there is a worker, and the fourth is faulty. -/
private def busy : List Action :=
  [.enter,.draw [] [],.enqueue [] [],.enqueue [] [],.start,.take,
    .enter,.draw [{ id := 0, text := "0.0.0.0" }] [],.build 4,
    .enqueue [{ id := 0, text := "||ads.example^" }] [],.finish,.build 1,.take,.finish]

theorem newest_in_force_busy :
    (Scene.builds {} busy).map RuleRequest.number = [4,3,1,5] ∧
      (Scene.installs {} busy).map RuleRequest.number = [3,5] ∧
      ∃ pair, RuleRequest.build ⟨5,[{ id := 0, text := "||ads.example^" }],[]⟩ = .ok pair ∧
        (run {} busy).reloader.pair = pair ∧ (run {} busy).reloader.installed = 5 := by
  obtain ⟨last,_⟩ := newest_in_force busy
  have usable : (RuleRequest.build ⟨5,[{ id := 0, text := "||ads.example^" }],[]⟩).isOk = true := by
    decide +kernel
  obtain ⟨pair,built⟩ := exists_of_isOk usable
  have inForce := last (by decide +kernel) (by decide +kernel) _ (by decide +kernel)
    (by decide +kernel) pair built
  exact ⟨by decide +kernel,by decide +kernel,pair,built,inForce⟩

end DnsPolicy.Reloader.Scene
