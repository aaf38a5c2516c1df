import DnsPolicy.Policy.Calls
import DnsPolicy.Reloader.Scene

/-! Several callers and a worker at one policy. Most calls are made at once. New rules that a caller
builds itself, the work of the worker and a close may also be done in steps, with calls of others in
between. -/
namespace DnsPolicy.Policy

structure Scene where
  policy : Policy
  entered : Nat := 0
  underWay : List RuleRequest := []

inductive Turn where
  | call (call : Call)
  | action (action : Reloader.Action)
  | panel (change : Panel → Panel)

def Turn.edit? : Turn → Option Edit
  | .call (.edit edit) => some edit
  | _ => none

/-- A close, and what others do before it comes to its end. -/
def Turn.closing (between : List Turn) : List Turn :=
  .action .beginClose :: between ++ [.action .finish,.action .endClose]

theorem Turn.edits_closing (between : List Turn) :
    (closing between).filterMap edit? = between.filterMap edit? := by
  simp [closing,List.filterMap_cons,edit?]

namespace Scene

def reloading (scene : Scene) : Reloader.Scene :=
  ⟨scene.policy.reloader,scene.entered,scene.underWay⟩

def withReloading (scene : Scene) (next : Reloader.Scene) : Scene :=
  { policy := { scene.policy with reloader := next.reloader }
    entered := next.entered
    underWay := next.underWay }

def step (scene : Scene) : Turn → Scene
  | .call call => { scene with policy := (scene.policy.call call).2 }
  | .action action => scene.withReloading (scene.reloading.step action)
  | .panel change =>
    { scene with policy := { scene.policy with panel := change scene.policy.panel } }

def run (scene : Scene) (turns : List Turn) : Scene := turns.foldl step scene

theorem run_append (scene : Scene) (earlier later : List Turn) :
    scene.run (earlier ++ later) = (scene.run earlier).run later := List.foldl_append ..

/-- A close that nobody interrupts. -/
theorem step_close (scene : Scene) : scene.step (.call .close) = scene.run (Turn.closing []) := rfl

end Scene

end DnsPolicy.Policy
