import DnsPolicy.Reloader.History
import Mathlib.Data.List.Perm.Subperm
import Mathlib.Data.List.Sort

/-! Requests are installed in the order of their numbers, whatever comes between the drawing of a
number and the build. The invariant ties the requests that may still be built, the mark of the last
install and the pair in force to what has happened so far. -/
namespace DnsPolicy.Reloader

theorem installs_iff {reloader : Reloader} {request : RuleRequest} :
    reloader.installs request = true ↔ reloader.closed = false ∧
      reloader.installed ≤ request.number ∧ ∃ pair, request.build = .ok pair := by
  cases built : request.build <;> simp [installs,built,Except.isOk,Except.toBool]

private theorem rebuild_of_ok {reloader : Reloader} {request : RuleRequest} {pair : RulePair}
    (opened : reloader.closed = false) (recent : reloader.installed ≤ request.number)
    (built : request.build = .ok pair) :
    reloader.rebuild request = (.ok (),
      { reloader with
        pair, installed := request.number, generation := reloader.generation + 1 }) := by
  simp [rebuild,opened,built,Nat.not_lt.mpr recent]

theorem rebuild_of_not_installs {reloader : Reloader} {request : RuleRequest}
    (not : reloader.installs request = false) : (reloader.rebuild request).2 = reloader := by
  unfold rebuild
  split
  · rfl
  · next current =>
    split
    · rfl
    · next pair built =>
      simp only [Bool.or_eq_true,decide_eq_true_eq,not_or,Bool.not_eq_true,Nat.not_lt] at current
      have holds := installs_iff.mpr ⟨current.1,current.2,pair,built⟩
      simp [not] at holds

theorem rebuild_cases (reloader : Reloader) (request : RuleRequest) :
    (reloader.installs request = true ∧ reloader.closed = false ∧
      reloader.installed ≤ request.number ∧ ∃ pair, request.build = .ok pair ∧
        (reloader.rebuild request).2 = { reloader with
          pair, installed := request.number, generation := reloader.generation + 1 }) ∨
    (reloader.installs request = false ∧ (reloader.rebuild request).2 = reloader) := by
  cases decided : reloader.installs request with
  | false => exact Or.inr ⟨rfl,rebuild_of_not_installs decided⟩
  | true =>
    obtain ⟨opened,recent,pair,built⟩ := installs_iff.mp decided
    exact Or.inl ⟨rfl,opened,recent,pair,built,by rw [rebuild_of_ok opened recent built]⟩

/-- What is in force: the pair, the number of its request, how many came before, and whether all is
over. -/
structure Standing where
  pair : RulePair
  installed : Nat
  generation : Nat
  closed : Bool

def standing (reloader : Reloader) : Standing :=
  ⟨reloader.pair,reloader.installed,reloader.generation,reloader.closed⟩

namespace Scene

variable {scene : Scene} {action : Action}

/-! ### What one step can do -/

/-- The effects of a step: a number is drawn, requests move or are dropped, a request is installed,
or nothing is in force from now on. -/
inductive Effect (scene : Scene) (action : Action) (next : Scene) : Prop where
  | draws (request : RuleRequest) (drawn : scene.submitted? action = some request)
      (idle : scene.installed? action = none)
      (number : request.number = scene.reloader.submitted + 1)
      (pending : next.pending.Subperm (request :: scene.pending))
      (counted : next.reloader.submitted = scene.reloader.submitted + 1)
      (standing : next.reloader.standing = scene.reloader.standing)
  | moves (undrawn : scene.submitted? action = none) (idle : scene.installed? action = none)
      (pending : next.pending.Subperm scene.pending)
      (counted : next.reloader.submitted = scene.reloader.submitted)
      (standing : next.reloader.standing = scene.reloader.standing)
  | installs (request : RuleRequest) (pair : RulePair) (undrawn : scene.submitted? action = none)
      (installed : scene.installed? action = some request) (built : request.build = .ok pair)
      (opened : scene.reloader.closed = false)
      (recent : scene.reloader.installed ≤ request.number)
      (pending : (request :: next.pending).Subperm scene.pending)
      (counted : next.reloader.submitted = scene.reloader.submitted)
      (standing : next.reloader.standing =
        ⟨pair,request.number,scene.reloader.generation + 1,false⟩)
  | closes (undrawn : scene.submitted? action = none) (idle : scene.installed? action = none)
      (pending : next.pending.Subperm scene.pending)
      (counted : next.reloader.submitted = scene.reloader.submitted)
      (standing : next.reloader.standing =
        ⟨{},scene.reloader.installed,scene.reloader.generation,true⟩)

private theorem effect_self (undrawn : scene.submitted? action = none)
    (idle : scene.installed? action = none) : scene.Effect action scene :=
  .moves undrawn idle (List.Subperm.refl _) rfl rfl

private theorem effect_of_built {next : Scene} {request : RuleRequest}
    (built : scene.built? action = some request) (undrawn : scene.submitted? action = none)
    (pending : (request :: next.pending).Subperm scene.pending)
    (counted : next.reloader.submitted = (scene.reloader.rebuild request).2.submitted)
    (standing : next.reloader.standing = (scene.reloader.rebuild request).2.standing) :
    scene.Effect action next := by
  -- Installed or not, the request is not pending any more.
  rcases scene.reloader.rebuild_cases request with
    ⟨installs,opened,recent,pair,ok,rebuilt⟩ | ⟨not,rebuilt⟩
  · rw [rebuilt] at counted standing
    refine .installs request pair undrawn ?_ ok opened recent pending counted ?_
    · rw [installed?,built,Option.filter_some,if_pos installs]
    · rw [standing,← opened]
      rfl
  · rw [rebuilt] at counted standing
    refine .moves undrawn ?_ (List.Subperm.cons_self.trans pending) counted standing
    rw [installed?,built,Option.filter_some,not]
    rfl

theorem rebuild_slots (reloader : Reloader) (request : RuleRequest) :
    (reloader.rebuild request).2.waiting = reloader.waiting ∧
      (reloader.rebuild request).2.taken = reloader.taken := by
  rcases reloader.rebuild_cases request with ⟨_,_,_,pair,_,rebuilt⟩ | ⟨_,rebuilt⟩ <;> simp [rebuilt]

private theorem cons_filter_subperm {requests : List RuleRequest} {request : RuleRequest}
    {number : Nat} (found : requests.find? (·.number == number) = some request) :
    (request :: requests.filter (·.number != number)).Subperm requests := by
  have member : request ∈ requests.filter (·.number == number) :=
    List.mem_filter.mpr ⟨List.mem_of_find?_eq_some found,by simpa using List.find?_some found⟩
  have parts := List.filter_append_perm (fun other : RuleRequest => other.number == number) requests
  have front : [request].Subperm (requests.filter (·.number == number)) :=
    List.singleton_subperm_iff.mpr member
  exact (front.append (List.Subperm.refl _)).trans parts.subperm

private theorem effect_build {number : Nat} {request : RuleRequest}
    (found : scene.underWay.find? (·.number == number) = some request) :
    scene.Effect (.build number) (scene.build number) := by
  obtain ⟨waiting,taken⟩ := rebuild_slots scene.reloader request
  refine effect_of_built found rfl ?_ ?_ ?_
  · simp only [Scene.build,found,pending,waiting,taken,List.append_assoc]
    exact List.Subperm.append (cons_filter_subperm found) (List.Subperm.refl _)
  · simp only [Scene.build,found]
  · simp only [Scene.build,found]

private theorem effect_finish {request : RuleRequest}
    (taken : scene.reloader.taken = some request) :
    scene.Effect .finish { scene with reloader := scene.reloader.finish } := by
  obtain ⟨waiting,_⟩ := rebuild_slots scene.reloader request
  refine effect_of_built taken rfl ?_ ?_ ?_
  · simp only [finish,taken,pending,waiting,Option.toList_none,Option.toList_some,List.append_nil]
    exact (List.perm_append_singleton request _).symm.subperm
  · simp only [finish,taken]
  · simp only [finish,taken]
    rfl

theorem step_effect (scene : Scene) (action : Action) :
    scene.Effect action (scene.step action) := by
  cases action with
  | enter =>
    simp only [step,Scene.enter]
    split
    · exact effect_self rfl rfl
    · exact .moves rfl rfl (List.Subperm.refl _) rfl rfl
  | draw block allow =>
    cases callers : scene.entered with
    | zero =>
      simp only [step,Scene.draw,callers]
      exact effect_self (by simp [submitted?,callers]) rfl
    | succ entered =>
      simp only [step,Scene.draw,callers]
      exact .draws ⟨scene.reloader.submitted+1,block,allow⟩ (by simp [submitted?,callers]) rfl rfl
        (List.Subperm.refl _) rfl rfl
  | build number =>
    cases found : scene.underWay.find? (·.number == number) with
    | none =>
      simp only [step,Scene.build,found]
      exact effect_self rfl (by simp [installed?,built?,found])
    | some request => exact effect_build found
  | enqueue block allow =>
    by_cases closing : scene.reloader.closing
    · simp only [step,enqueue,closing]
      exact effect_self (by simp [submitted?,closing]) rfl
    · simp only [step,enqueue,closing]
      refine .draws ⟨scene.reloader.submitted+1,block,allow⟩ (by simp [submitted?,closing]) rfl rfl
        ?_ rfl rfl
      simp only [pending,List.append_assoc]
      have replaced : (scene.underWay ++ scene.reloader.taken.toList).Sublist
          (scene.underWay ++ (scene.reloader.waiting.toList ++ scene.reloader.taken.toList)) :=
        (List.sublist_append_right _ _).append_left _
      exact List.perm_middle.subperm.trans (replaced.cons_cons _).subperm
  | start =>
    simp only [step,start]
    split
    · exact effect_self rfl rfl
    · split
      · exact effect_self rfl rfl
      · exact .moves rfl rfl (List.Subperm.refl _) rfl rfl
  | take =>
    simp only [step,take]
    split
    · next free =>
      refine .moves rfl rfl ?_ rfl rfl
      simp only [Bool.and_eq_true,Option.isNone_iff_eq_none] at free
      simp only [pending,free.2,Option.toList_none,List.append_nil]
      exact List.Subperm.refl _
    · exact effect_self rfl rfl
  | finish =>
    cases taken : scene.reloader.taken with
    | none =>
      simp only [step,finish,taken]
      exact effect_self rfl (by simp [installed?,built?,taken])
    | some request => exact effect_finish taken
  | beginClose =>
    simp only [step,beginClose]
    split
    · exact effect_self rfl rfl
    · refine .moves rfl rfl ?_ rfl rfl
      simp only [pending,Option.toList_none,List.append_nil]
      exact ((List.sublist_append_left _ _).append_right _).subperm
  | endClose =>
    simp only [step,endClose]
    split
    · exact .closes rfl rfl (List.Subperm.refl _) rfl rfl
    · exact effect_self rfl rfl

end Scene

/-! ### What has happened so far -/

/-- What is in force is what the last install put there, unless all is over. -/
structure Standing.Shows (standing : Standing) (installs : List RuleRequest) : Prop where
  ordered : installs.Pairwise fun earlier later => earlier.number < later.number
  mark : standing.installed = (installs.getLast?.map RuleRequest.number).getD 0
  counted : standing.generation = installs.length
  last : standing.closed = false → ∀ request, installs.getLast? = some request →
    request.build = .ok standing.pair
  empty : standing.closed = true ∨ installs = [] → standing.pair = {}

namespace Standing.Shows

variable {standing : Standing} {installs : List RuleRequest}

theorem number_le_mark (shows : standing.Shows installs) {request : RuleRequest}
    (member : request ∈ installs) : request.number ≤ standing.installed := by
  obtain rfl | ⟨front,last,rfl⟩ := List.eq_nil_or_concat' installs
  · contradiction
  rw [shows.mark,List.getLast?_concat]
  rcases List.mem_append.mp member with before | final
  · exact Nat.le_of_lt ((List.pairwise_append.mp shows.ordered).2.2 _ before _ (by simp))
  · rw [List.mem_singleton.mp final]
    exact Nat.le_refl _

theorem mark_cases (shows : standing.Shows installs) :
    standing.installed = 0 ∨ ∃ request ∈ installs, request.number = standing.installed := by
  cases found : installs.getLast? with
  | none => exact Or.inl (by simp [shows.mark,found])
  | some request =>
    exact Or.inr ⟨request,List.mem_of_getLast? found,by simp [shows.mark,found]⟩

private theorem install (shows : standing.Shows installs) {request : RuleRequest} {pair : RulePair}
    (later : standing.installed < request.number) (built : request.build = .ok pair) :
    Shows ⟨pair,request.number,standing.generation+1,false⟩ (installs ++ [request]) where
  ordered := by
    refine List.pairwise_append.mpr ⟨shows.ordered,List.pairwise_singleton _ _,?_⟩
    intro earlier member other final
    rw [List.mem_singleton.mp final]
    exact Nat.lt_of_le_of_lt (shows.number_le_mark member) later
  mark := by simp
  counted := by simp [shows.counted]
  last := by
    intro _ final found
    rw [List.getLast?_concat] at found
    cases found
    exact built
  empty := by simp

private theorem close (shows : standing.Shows installs) :
    Shows ⟨{},standing.installed,standing.generation,true⟩ installs where
  ordered := shows.ordered
  mark := shows.mark
  counted := shows.counted
  last := by simp
  empty _ := rfl

end Standing.Shows

namespace Scene

variable {scene : Scene} {submissions installs : List RuleRequest}

/-- The numbers given out so far are those up to the last, the pending requests are among them and
none of these has been installed. -/
structure Account (scene : Scene) (submissions installs : List RuleRequest) : Prop where
  numbered : submissions.map RuleRequest.number = List.range' 1 scene.reloader.submitted
  known : ∀ request ∈ scene.pending, request ∈ submissions
  distinct : (scene.pending.map RuleRequest.number).Nodup
  unmarked : ∀ request ∈ scene.pending, request.number ≠ scene.reloader.installed
  submitted : ∀ request ∈ installs, request ∈ submissions
  shows : scene.reloader.standing.Shows installs

namespace Account

theorem start : Account {} [] [] where
  numbered := rfl
  known := by simp [pending]
  distinct := by simp [pending]
  unmarked := by simp [pending]
  submitted := by simp
  shows := ⟨List.Pairwise.nil,rfl,rfl,by simp,fun _ => rfl⟩

theorem number_bounds (account : scene.Account submissions installs) {request : RuleRequest}
    (member : request ∈ submissions) :
    1 ≤ request.number ∧ request.number ≤ scene.reloader.submitted := by
  have inside : request.number ∈ List.range' 1 scene.reloader.submitted := by
    rw [← account.numbered]
    exact List.mem_map_of_mem member
  rw [List.mem_range'_1] at inside
  omega

theorem mark_le (account : scene.Account submissions installs) :
    scene.reloader.installed ≤ scene.reloader.submitted := by
  rcases account.shows.mark_cases with zero | ⟨request,member,mark⟩
  · have none : scene.reloader.installed = 0 := zero
    omega
  · have last : request.number = scene.reloader.installed := mark
    have bound := (account.number_bounds (account.submitted request member)).2
    omega

private theorem distinct_of_subperm {left right : List RuleRequest} (sub : left.Subperm right)
    (distinct : (right.map RuleRequest.number).Nodup) : (left.map RuleRequest.number).Nodup := by
  obtain ⟨middle,perm,sublist⟩ := sub
  exact (perm.map _).nodup_iff.mp ((sublist.map _).nodup distinct)

variable {next : Scene}

private theorem keep (account : scene.Account submissions installs)
    (pending : next.pending.Subperm scene.pending)
    (counted : next.reloader.submitted = scene.reloader.submitted)
    (marked : next.reloader.installed = scene.reloader.installed)
    (shows : next.reloader.standing.Shows installs) : next.Account submissions installs where
  numbered := by rw [counted,account.numbered]
  known request member := account.known request (pending.subset member)
  distinct := distinct_of_subperm pending account.distinct
  unmarked request member := by
    rw [marked]
    exact account.unmarked request (pending.subset member)
  submitted := account.submitted
  shows := shows

private theorem draw (account : scene.Account submissions installs) {request : RuleRequest}
    (number : request.number = scene.reloader.submitted + 1)
    (pending : next.pending.Subperm (request :: scene.pending))
    (counted : next.reloader.submitted = scene.reloader.submitted + 1)
    (standing : next.reloader.standing = scene.reloader.standing) :
    next.Account (submissions ++ [request]) installs where
  numbered := by
    rw [counted,List.map_append,account.numbered,List.range'_concat]
    simp [number,Nat.add_comm]
  known other member := by
    rcases List.mem_cons.mp (pending.subset member) with rfl | before
    · simp
    · exact List.mem_append_left _ (account.known other before)
  distinct := by
    refine distinct_of_subperm pending (List.nodup_cons.mpr ⟨?_,account.distinct⟩)
    intro taken
    obtain ⟨other,member,same⟩ := List.mem_map.mp taken
    have bound := (account.number_bounds (account.known other member)).2
    omega
  unmarked other member := by
    rw [show next.reloader.installed = scene.reloader.installed from congrArg Standing.installed standing]
    rcases List.mem_cons.mp (pending.subset member) with rfl | before
    · have bound := account.mark_le
      omega
    · exact account.unmarked other before
  submitted other member := List.mem_append_left _ (account.submitted other member)
  shows := by
    rw [standing]
    exact account.shows

private theorem install (account : scene.Account submissions installs) {request : RuleRequest}
    {pair : RulePair} (built : request.build = .ok pair)
    (recent : scene.reloader.installed ≤ request.number)
    (pending : (request :: next.pending).Subperm scene.pending)
    (counted : next.reloader.submitted = scene.reloader.submitted)
    (standing : next.reloader.standing =
      ⟨pair,request.number,scene.reloader.generation + 1,false⟩) :
    next.Account submissions (installs ++ [request]) where
  numbered := by rw [counted,account.numbered]
  known other member := account.known other (pending.subset (List.mem_cons_of_mem _ member))
  distinct := (List.nodup_cons.mp (distinct_of_subperm pending account.distinct)).2
  unmarked other member := by
    rw [show next.reloader.installed = request.number from congrArg Standing.installed standing]
    intro same
    -- Only the request that was just installed has its number, and that one is gone.
    have fresh := (List.nodup_cons.mp (distinct_of_subperm pending account.distinct)).1
    exact fresh (same ▸ List.mem_map_of_mem member)
  submitted other member := by
    rcases List.mem_append.mp member with before | final
    · exact account.submitted other before
    · rw [List.mem_singleton.mp final]
      exact account.known request (pending.subset (List.mem_cons_self ..))
  shows := by
    -- The mark may be met but not with a pending request, so the number lies beyond it.
    have different := account.unmarked request (pending.subset (List.mem_cons_self ..))
    rw [standing]
    exact account.shows.install (Nat.lt_of_le_of_ne recent (Ne.symm different)) built

theorem step (account : scene.Account submissions installs) (action : Action) :
    (scene.step action).Account (submissions ++ (scene.submitted? action).toList)
      (installs ++ (scene.installed? action).toList) := by
  cases scene.step_effect action with
  | draws request drawn idle number pending counted standing =>
    rw [drawn,idle]
    simpa using account.draw number pending counted standing
  | moves undrawn idle pending counted standing =>
    rw [undrawn,idle]
    simpa using account.keep pending counted (congrArg Standing.installed standing)
      (standing ▸ account.shows)
  | installs request pair undrawn installed built opened recent pending counted standing =>
    rw [undrawn,installed]
    simpa using account.install built recent pending counted standing
  | closes undrawn idle pending counted standing =>
    rw [undrawn,idle]
    simpa using account.keep pending counted (congrArg Standing.installed standing)
      (standing ▸ account.shows.close)

theorem run (account : scene.Account submissions installs) (actions : List Action) :
    (scene.run actions).Account (submissions ++ scene.submissions actions)
      (installs ++ scene.installs actions) := by
  induction actions generalizing scene submissions installs with
  | nil => simpa [Scene.run,Scene.submissions,Scene.installs,history] using account
  | cons action rest ih =>
    have later := ih (account.step action)
    rw [List.append_assoc,List.append_assoc] at later
    exact later

end Account

/-! ### Runs -/

theorem account_run (actions : List Action) :
    (run {} actions).Account (Scene.submissions {} actions) (Scene.installs {} actions) := by
  simpa using Account.start.run actions

theorem run_append (scene : Scene) (earlier later : List Action) :
    scene.run (earlier ++ later) = (scene.run earlier).run later := List.foldl_append ..

/-- The mark never moves back, and whatever is installed from now on has a number beyond it. -/
theorem Account.beyond_mark (account : scene.Account submissions installs) (actions : List Action) :
    scene.reloader.installed ≤ (scene.run actions).reloader.installed ∧
      ∀ request ∈ scene.installs actions, scene.reloader.installed < request.number := by
  have after := account.run actions
  rcases account.shows.mark_cases with zero | ⟨last,member,mark⟩
  · have none : scene.reloader.installed = 0 := zero
    constructor
    · omega
    · intro request later
      have bound := (after.number_bounds (after.submitted request (List.mem_append_right _ later))).1
      omega
  · have same : last.number = scene.reloader.installed := mark
    rw [← same]
    constructor
    · exact after.shows.number_le_mark (List.mem_append_left _ member)
    · intro request later
      exact (List.pairwise_append.mp after.shows.ordered).2.2 last member request later

theorem step_of_closed (closed : scene.reloader.closed = true) (action : Action) :
    (scene.step action).reloader.closed = true ∧ scene.installed? action = none := by
  cases scene.step_effect action with
  | draws request drawn idle number pending counted standing =>
    exact ⟨(congrArg Standing.closed standing).trans closed,idle⟩
  | moves undrawn idle pending counted standing =>
    exact ⟨(congrArg Standing.closed standing).trans closed,idle⟩
  | installs request pair undrawn installed built opened recent pending counted standing =>
    rw [closed] at opened
    contradiction
  | closes undrawn idle pending counted standing => exact ⟨congrArg Standing.closed standing,idle⟩

theorem installs_of_closed (closed : scene.reloader.closed = true) (actions : List Action) :
    scene.installs actions = [] := by
  induction actions generalizing scene with
  | nil => rfl
  | cons action rest ih =>
    obtain ⟨still,idle⟩ := step_of_closed closed action
    have nothing : (scene.step action).installs rest = [] := ih still
    change (scene.installed? action).toList ++ (scene.step action).installs rest = []
    rw [idle,nothing]
    rfl

/-- Once a caller has heard that its request was built, no request from before it is installed. -/
theorem Account.beyond_built (account : scene.Account submissions installs) {number : Nat}
    {request : RuleRequest} (found : scene.underWay.find? (·.number == number) = some request)
    (heard : (scene.reloader.rebuild request).1 = .ok ()) (actions : List Action) :
    ∀ other ∈ (scene.step (.build number)).installs actions, number < other.number := by
  obtain rfl : request.number = number := by simpa using List.find?_some found
  intro other member
  have beyond := ((account.step (.build request.number)).beyond_mark actions).2 other member
  have onward : scene.reloader.installed ≤ (scene.step (.build request.number)).reloader.installed :=
    (account.beyond_mark [.build request.number]).1
  cases closed : scene.reloader.closed with
  | true =>
    rw [installs_of_closed (step_of_closed closed _).1] at member
    contradiction
  | false =>
    by_cases stale : request.number < scene.reloader.installed
    · omega
    · have marked : (scene.step (.build request.number)).reloader.installed = request.number := by
        simp only [Scene.step,Scene.build,found]
        cases built : request.build with
        | error failure => simp [rebuild,closed,stale,built] at heard
        | ok pair => rw [rebuild_of_ok closed (Nat.le_of_not_lt stale) built]
      omega

private theorem Account.sublist (account : scene.Account submissions installs) :
    installs.Sublist submissions := by
  have sorted : submissions.Pairwise fun earlier later => earlier.number < later.number := by
    refine List.pairwise_map.mp ?_
    rw [account.numbered]
    exact List.pairwise_lt_range'
  have distinct : installs.Nodup :=
    account.shows.ordered.imp fun before same => by simp [same] at before
  have antisymm : Std.Antisymm fun earlier later : RuleRequest => earlier.number < later.number :=
    ⟨fun _ _ before after => absurd before (Nat.lt_asymm after)⟩
  exact List.sublist_of_subperm_of_pairwise (List.subperm_of_subset distinct account.submitted)
    account.shows.ordered sorted

/-- Over every run of callers and worker, requests are numbered from one in the order in which they
came, and installed in that order, each at most once. The mark is the number of the last install and
never moves back, the pair in force is that of this one request until all is over, and the
generation counts the installs. After a caller has heard that its request was built, no request from
before it is installed, whatever comes next. -/
theorem installs_in_order (actions more : List Action) :
    (Scene.submissions {} actions).map RuleRequest.number =
      List.range' 1 (run {} actions).reloader.submitted ∧
    (Scene.installs {} actions).Sublist (Scene.submissions {} actions) ∧
    (Scene.installs {} actions).Pairwise (fun earlier later => earlier.number < later.number) ∧
    (run {} actions).reloader.installed =
      ((Scene.installs {} actions).getLast?.map RuleRequest.number).getD 0 ∧
    (run {} actions).reloader.installed ≤ (run {} (actions ++ more)).reloader.installed ∧
    (run {} actions).reloader.generation = (Scene.installs {} actions).length ∧
    ((run {} actions).reloader.closed = true ∨ Scene.installs {} actions = [] →
      (run {} actions).reloader.pair = {}) ∧
    ((run {} actions).reloader.closed = false →
      ∀ request, (Scene.installs {} actions).getLast? = some request →
        request.build = .ok (run {} actions).reloader.pair) ∧
    ∀ number request, (run {} actions).underWay.find? (·.number == number) = some request →
      ((run {} actions).reloader.rebuild request).1 = .ok () →
        ∀ other ∈ (run {} (actions ++ [.build number])).installs more, number < other.number := by
  have account := account_run actions
  refine ⟨account.numbered,account.sublist,account.shows.ordered,account.shows.mark,?_,
    account.shows.counted,account.shows.empty,account.shows.last,?_⟩
  · rw [run_append]
    exact (account.beyond_mark more).1
  · intro number request found heard
    rw [run_append]
    exact account.beyond_built found heard more

/-- The first caller builds only after the worker has installed the second request. It hears of no
failure, and what is installed later comes from the third. -/
theorem installs_in_order_stale :
    (Scene.installs {} [.enter,.draw [] [],.enqueue [] [],.start,.take,.finish,.build 1,
        .enqueue [] [],.take,.finish]).map RuleRequest.number = [2,3] ∧
      ∀ other ∈ (run {} [.enter,.draw [] [],.enqueue [] [],.start,.take,.finish,.build 1]).installs
        [.enqueue [] [],.take,.finish], 1 < other.number := by
  obtain ⟨_,_,_,_,_,_,_,_,beyond⟩ := installs_in_order
    [.enter,.draw [] [],.enqueue [] [],.start,.take,.finish] [.enqueue [] [],.take,.finish]
  exact ⟨by decide +kernel,beyond 1 ⟨1,[],[]⟩ (by decide +kernel) rfl⟩

end Scene
end DnsPolicy.Reloader
