import DnsPolicy.Policy.Scene
import DnsPolicy.Proofs.NewestWins
import DnsPolicy.Proofs.Provenance
import DnsPolicy.Proofs.SettingsEdits
import DnsPolicy.Proofs.Turns

/-! A close is final. Once it has come to its end nothing is in force any more and nothing can come
into force, whoever was on the way, and only the settings can still be used. -/
namespace DnsPolicy

namespace Reloader

/-- A close has come to its end. -/
structure Over (reloader : Reloader) : Prop where
  closing : reloader.closing = true
  closed : reloader.closed = true
  stopped : reloader.started = false
  waiting : reloader.waiting = none
  taken : reloader.taken = none
  pair : reloader.pair = {}

namespace Over

variable {reloader : Reloader}

private theorem count (ended : reloader.Over) (submitted : Nat) :
    ({ reloader with submitted } : Reloader).Over :=
  ⟨ended.closing,ended.closed,ended.stopped,ended.waiting,ended.taken,ended.pair⟩

private theorem rebuild (ended : reloader.Over) (request : RuleRequest) :
    reloader.rebuild request = (.ok (),reloader) := by
  simp [Reloader.rebuild,ended.closed]

private theorem enqueue (ended : reloader.Over) (block allow : List ListSource) :
    reloader.enqueue block allow = (.error .closed,reloader) := by
  simp [Reloader.enqueue,ended.closing]

private theorem setRules (ended : reloader.Over) (block allow : List ListSource)
    (background : Bool) : reloader.setRules block allow background = (.error .closed,reloader) := by
  cases background <;> simp [Reloader.setRules,Reloader.enqueue,submit,ended.closing]

private theorem start (ended : reloader.Over) : reloader.start = (.error .closed,reloader) := by
  simp [Reloader.start,ended.stopped,ended.closing]

private theorem take (ended : reloader.Over) : reloader.take = reloader := by
  simp [Reloader.take,ended.stopped]

private theorem finish (ended : reloader.Over) : reloader.finish = reloader := by
  simp [Reloader.finish,ended.taken]

private theorem beginClose (ended : reloader.Over) : reloader.beginClose = reloader := by
  simp [Reloader.beginClose,ended.closing]

private theorem endClose (ended : reloader.Over) : reloader.endClose = reloader := by
  cases reloader
  obtain ⟨rfl,rfl,rfl,rfl,rfl,rfl⟩ := ended
  rfl

private theorem close (ended : reloader.Over) : reloader.close = reloader := by
  rw [Reloader.close,ended.beginClose,ended.finish,ended.endClose]

/-- All that is left to do is to count the callers that found the reloader open. -/
theorem step {scene : Scene} (ended : scene.reloader.Over) (action : Action) :
    ∃ submitted, (scene.step action).reloader = { scene.reloader with submitted } := by
  have stays : ∃ submitted, scene.reloader = { scene.reloader with submitted } := ⟨_,rfl⟩
  cases action with
  | enter =>
    rw [Scene.step,Scene.enter,if_pos ended.closing]
    exact stays
  | draw block allow =>
    simp only [Scene.step,Scene.draw]
    split
    · exact stays
    · exact ⟨_,rfl⟩
  | build number =>
    simp only [Scene.step,Scene.build]
    split
    · simpa only [ended.rebuild] using stays
    · exact stays
  | enqueue block allow => simpa only [Scene.step,ended.enqueue] using stays
  | start => simpa only [Scene.step,ended.start] using stays
  | take => simpa only [Scene.step,ended.take] using stays
  | finish => simpa only [Scene.step,ended.finish] using stays
  | beginClose => simpa only [Scene.step,ended.beginClose] using stays
  | endClose => simpa only [Scene.step,ended.endClose] using stays

end Over

/-- Once a close has begun nothing waits in the slot. -/
def Emptied (reloader : Reloader) : Prop := reloader.closing = true → reloader.waiting = none

namespace Scene

variable {scene : Scene}

private theorem emptied_step (emptied : scene.reloader.Emptied) (action : Action) :
    (scene.step action).reloader.Emptied := by
  cases action with
  | enter =>
    simp only [step,Scene.enter]
    split <;> exact emptied
  | draw block allow =>
    simp only [step,Scene.draw]
    split <;> exact emptied
  | build number =>
    simp only [step,Scene.build]
    split
    next request found =>
      intro closing
      rw [(rebuild_flags _ request).1] at closing
      rw [(rebuild_slots _ request).1]
      exact emptied closing
    next => exact emptied
  | enqueue block allow =>
    simp only [step,Reloader.enqueue]
    split
    next => exact emptied
    next opened => exact fun closing => absurd closing opened
  | start =>
    simp only [step,Reloader.start]
    repeat' split
    all_goals exact emptied
  | take =>
    simp only [step,Reloader.take]
    split
    next => exact fun _ => rfl
    next => exact emptied
  | finish =>
    simp only [step,Reloader.finish]
    split
    next => exact emptied
    next request taken =>
      intro closing
      rw [(rebuild_flags _ request).1] at closing
      exact ((rebuild_slots _ request).1).trans (emptied closing)
  | beginClose =>
    simp only [step,Reloader.beginClose]
    split
    next => exact emptied
    next => exact fun _ => rfl
  | endClose =>
    simp only [step,Reloader.endClose]
    split <;> exact emptied

end Scene

private theorem closing_beginClose (reloader : Reloader) : reloader.beginClose.closing = true := by
  rw [beginClose]
  split
  next closing => exact closing
  next => rfl

/-- The worker finishes what it took, and then the close comes to its end. -/
theorem over_endClose {reloader : Reloader} (closing : reloader.closing = true)
    (emptied : reloader.Emptied) : reloader.finish.endClose.Over := by
  have flags : reloader.finish.closing = true ∧ reloader.finish.waiting = none ∧
      reloader.finish.taken = none := by
    rw [finish]
    split
    next taken => exact ⟨closing,emptied closing,taken⟩
    next request _ =>
      obtain ⟨waiting,_⟩ := Scene.rebuild_slots reloader request
      obtain ⟨still,_⟩ := Scene.rebuild_flags reloader request
      exact ⟨still.trans closing,waiting.trans (emptied closing),rfl⟩
  obtain ⟨closing,waiting,taken⟩ := flags
  rw [endClose,if_pos (by simp [closing,taken])]
  exact ⟨closing,rfl,rfl,waiting,taken,rfl⟩

end Reloader

namespace Policy

/-! ### Turns at a policy -/

/-- An edit looks at the settings alone. -/
theorem edit_of_settings (policy : Policy) (reloader : Reloader) (panel : Panel) (edit : Edit) :
    ({ policy with reloader,panel } : Policy).edit edit =
      ((policy.edit edit).1,{ (policy.edit edit).2 with reloader,panel }) := by
  have updated : ∀ change, ({ policy with reloader,panel } : Policy).update change =
      ((policy.update change).1,{ (policy.update change).2 with reloader,panel }) := by
    intro change
    simp only [update]
    split <;> rfl
  have made : ∀ make, ({ policy with reloader,panel } : Policy).editRewrites make =
      ((policy.editRewrites make).1,{ (policy.editRewrites make).2 with reloader,panel }) := by
    intro make
    simp only [editRewrites]
    split
    next => rfl
    next changed _ _ => cases changed <;> rfl
  cases edit with
  | update change => simp only [Policy.edit,updated]
  | setRewrites entries => simp only [Policy.edit,setRewrites,updated]
  | addRewrite rewrite => simp only [edit_addRewrite,made]
  | removeRewrite rewrite => simp only [edit_removeRewrite,made]

private theorem editAll_append (policy : Policy) (earlier later : List Edit) :
    policy.editAll (earlier ++ later) = (policy.editAll earlier).editAll later := List.foldl_append ..

/-- Rules and classifiers may be others. -/
structure SameSettings (left right : Policy) : Prop where
  settings : left.settings = right.settings
  notices : left.notices = right.notices

namespace SameSettings

variable {left right : Policy}

private theorem eq_with (same : SameSettings left right) :
    left = { right with reloader := left.reloader, panel := left.panel } := by
  cases left
  cases right
  obtain ⟨rfl,rfl⟩ := same
  rfl

theorem edit (same : SameSettings left right) (edit : Edit) :
    (left.edit edit).1 = (right.edit edit).1 ∧
      SameSettings (left.edit edit).2 (right.edit edit).2 := by
  rw [same.eq_with,edit_of_settings]
  exact ⟨rfl,rfl,rfl⟩

end SameSettings

namespace Scene

variable {scene : Scene}

/-- At the reloader a turn is a run of few actions. -/
theorem exists_run_step (scene : Scene) (turn : Turn) :
    ∃ actions, (scene.step turn).policy.reloader = (scene.reloading.run actions).reloader := by
  have idle : ∃ actions, scene.policy.reloader = (scene.reloading.run actions).reloader := ⟨[],rfl⟩
  cases turn with
  | action action => exact ⟨[action],rfl⟩
  | panel change => exact idle
  | call call =>
    cases call with
    | check host qtype profile =>
      have kept := congrArg Policy.reloader (scene.policy.check_keeps_rest host qtype profile)
      exact kept.symm ▸ idle
    | checkRules host qtype profile => exact idle
    | setRules block allow background =>
      obtain ⟨actions,same⟩ := scene.reloading.exists_run_setRules block allow background
      exact ⟨actions,same.symm⟩
    | start => exact ⟨[.start],rfl⟩
    | settle => exact ⟨[.take,.finish],rfl⟩
    | close => exact ⟨[.beginClose,.finish,.endClose],rfl⟩
    | edit edit =>
      have kept := (scene.policy.edited_edit edit).elsewhere.1
      exact kept.symm ▸ idle
    | clear kind => exact idle
    | reset => exact idle

/-- What every action of callers and worker keeps, every run of turns keeps. -/
theorem run_keeps (holds : Reloader → Prop)
    (kept : ∀ (scene : Reloader.Scene) (action : Reloader.Action),
      holds scene.reloader → holds (scene.step action).reloader)
    (now : holds scene.policy.reloader) (turns : List Turn) :
    holds (scene.run turns).policy.reloader := by
  have actions : ∀ (actions : List Reloader.Action) (scene : Reloader.Scene),
      holds scene.reloader → holds (scene.run actions).reloader := by
    intro actions
    induction actions with
    | nil => exact fun _ now => now
    | cons action rest ih => exact fun scene now => ih _ (kept scene action now)
  induction turns generalizing scene with
  | nil => exact now
  | cons turn rest ih =>
    obtain ⟨onward,same⟩ := scene.exists_run_step turn
    apply ih
    rw [same]
    exact actions onward scene.reloading now

/-- No turn but an edit has to do with the settings. -/
theorem sameSettings_step {policy : Policy} (same : SameSettings scene.policy policy)
    (turn : Turn) : SameSettings (scene.step turn).policy (policy.editAll turn.edit?.toList) := by
  cases turn with
  | action action => exact ⟨same.settings,same.notices⟩
  | panel change => exact ⟨same.settings,same.notices⟩
  | call call =>
    cases call with
    | check host qtype profile =>
      have kept : SameSettings (scene.policy.check host qtype profile).2 scene.policy := by
        rw [check_keeps_rest]
        exact ⟨rfl,rfl⟩
      exact ⟨kept.settings.trans same.settings,kept.notices.trans same.notices⟩
    | edit edit => exact (same.edit edit).2
    | _ => exact ⟨same.settings,same.notices⟩

private theorem sameSettings_run {policy : Policy} (same : SameSettings scene.policy policy)
    (turns : List Turn) :
    SameSettings (scene.run turns).policy (policy.editAll (turns.filterMap Turn.edit?)) := by
  induction turns generalizing scene policy with
  | nil => exact same
  | cons turn rest ih =>
    have later := ih (sameSettings_step same turn)
    have edits : (turn :: rest).filterMap Turn.edit? =
        turn.edit?.toList ++ rest.filterMap Turn.edit? := by
      cases made : turn.edit? <;> simp [made]
    rw [edits,editAll_append]
    exact later

/-- What a policy still does once its close has come to an end. `closed` is its state then, and
`unclosed` what the same edits make of a policy that is never closed. -/
structure Final (closed unclosed : Policy) (scene : Scene) : Prop where
  check : ∀ host qtype profile,
    scene.policy.check host qtype profile = (.error .closed,scene.policy)
  checkRules : ∀ host qtype profile, scene.policy.checkRules host qtype profile = .error .closed
  setRules : ∀ block allow background,
    scene.policy.setRules block allow background = (.error .closed,scene.policy)
  start : scene.policy.start = (.error .closed,scene.policy)
  close : scene.policy.close = scene.policy
  pair : scene.policy.reloader.pair = {}
  /-- Numbers may still be drawn, but that is all. -/
  reloader : ∃ submitted, scene.policy.reloader = { closed.reloader with submitted }
  idle : ∀ actions, scene.reloading.installs actions = []
  settings : SameSettings scene.policy unclosed
  edit : ∀ edit, (scene.policy.edit edit).1 = (unclosed.edit edit).1 ∧
    SameSettings (scene.policy.edit edit).2 (unclosed.edit edit).2

private theorem over_of_close (settings : Settings) (earlier between : List Turn) :
    (run { policy := ofSettings settings }
      (earlier ++ Turn.closing between)).policy.reloader.Over := by
  have opened : ({ policy := ofSettings settings } : Scene).policy.reloader.Emptied :=
    fun closing => absurd closing Bool.false_ne_true
  have emptied := fun turns : List Turn =>
    run_keeps _ (fun _ action emptied => Reloader.Scene.emptied_step emptied action) opened turns
  have begun : (run { policy := ofSettings settings }
      (earlier ++ [.action .beginClose])).policy.reloader.closing = true := by
    rw [run_append]
    exact Reloader.closing_beginClose _
  have closing : (run { policy := ofSettings settings }
      (earlier ++ .action .beginClose :: between)).policy.reloader.closing = true := by
    rw [List.append_cons,run_append]
    exact run_keeps (fun reloader => reloader.closing = true)
      (fun _ action closing => Reloader.Scene.closing_step closing action) begun between
  rw [Turn.closing,← List.append_assoc,run_append]
  exact Reloader.over_endClose closing (emptied _)

private theorem reloader_run_of_over (ended : scene.policy.reloader.Over) (turns : List Turn) :
    ∃ submitted, (scene.run turns).policy.reloader = { scene.policy.reloader with submitted } := by
  apply run_keeps (fun reloader =>
    ∃ submitted, reloader = { scene.policy.reloader with submitted })
  · rintro now action ⟨submitted,same⟩
    have still : now.reloader.Over := same ▸ ended.count submitted
    obtain ⟨counted,next⟩ := still.step action
    exact ⟨counted,by rw [next,same]⟩
  · exact ⟨_,rfl⟩

private theorem final_run {unclosed : Policy} (ended : scene.policy.reloader.Over)
    (same : SameSettings scene.policy unclosed) (turns : List Turn) :
    Final scene.policy (unclosed.editAll (turns.filterMap Turn.edit?)) (scene.run turns) := by
  obtain ⟨submitted,kept⟩ := reloader_run_of_over ended turns
  have still : (scene.run turns).policy.reloader.Over := kept ▸ ended.count submitted
  have settings := sameSettings_run same turns
  exact
    { check := fun host qtype profile => by rw [Policy.check,if_pos still.closing]
      checkRules := fun host qtype profile => by rw [Policy.checkRules,if_pos still.closing]
      setRules := fun block allow background => by rw [Policy.setRules,still.setRules]
      start := by rw [Policy.start,still.start]
      close := by rw [Policy.close,still.close]
      pair := still.pair
      reloader := ⟨submitted,kept⟩
      idle := Reloader.Scene.installs_of_closed still.closed
      settings := settings
      edit := settings.edit }

/-- Whatever was going on, and whatever goes on between a close and its end: from then on the policy
refuses everything but edits, nothing is in force or comes into force, and the edits do what they
would have done. -/
theorem close_is_final (settings : Settings) (earlier between later : List Turn) :
    let closed := run { policy := ofSettings settings } (earlier ++ Turn.closing between)
    let edits := (earlier ++ between ++ later).filterMap Turn.edit?
    Final closed.policy ((ofSettings settings).editAll edits) (closed.run later) := by
  intro closed edits
  have start : SameSettings ({ policy := ofSettings settings } : Scene).policy (ofSettings settings) :=
    ⟨rfl,rfl⟩
  have same := sameSettings_run start (earlier ++ Turn.closing between)
  have final := final_run (over_of_close settings earlier between) same later
  have made : (earlier ++ Turn.closing between).filterMap Turn.edit? ++
      later.filterMap Turn.edit? = edits := by
    simp only [edits,List.filterMap_append,Turn.edits_closing]
  rw [← editAll_append,made] at final
  exact final

end Scene

end Policy

end DnsPolicy
