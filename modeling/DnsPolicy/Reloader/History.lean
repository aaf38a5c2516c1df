import DnsPolicy.Reloader.Scene

/-! What happens along a run: which requests are given a number, which are built, and which of these
are installed. A call that is run to its end at once is a run of few actions. -/
namespace DnsPolicy.Reloader

/-- The request is not passed over, and both of its rule sets can be built. -/
def installs (reloader : Reloader) (request : RuleRequest) : Bool :=
  !reloader.closed && decide (reloader.installed ≤ request.number) && request.build.isOk

namespace Scene

def pending (scene : Scene) : List RuleRequest :=
  scene.underWay ++ scene.reloader.waiting.toList ++ scene.reloader.taken.toList

def submitted? (scene : Scene) : Action → Option RuleRequest
  | .draw block allow =>
    if scene.entered = 0 then none
    else some { number := scene.reloader.submitted + 1, block, allow }
  | .enqueue block allow =>
    if scene.reloader.closing then none
    else some { number := scene.reloader.submitted + 1, block, allow }
  | _ => none

def built? (scene : Scene) : Action → Option RuleRequest
  | .build number => scene.underWay.find? (·.number == number)
  | .finish => scene.reloader.taken
  | _ => none

def installed? (scene : Scene) (action : Action) : Option RuleRequest :=
  (scene.built? action).filter scene.reloader.installs

def history (event : Scene → Action → Option RuleRequest) (scene : Scene) :
    List Action → List RuleRequest
  | [] => []
  | action :: rest => (event scene action).toList ++ history event (scene.step action) rest

def submissions : Scene → List Action → List RuleRequest := history submitted?

def builds : Scene → List Action → List RuleRequest := history built?

def installs : Scene → List Action → List RuleRequest := history installed?

end Scene

/-! ### Calls that are run at once -/

theorem run_setRules (reloader : Reloader) (block allow : List ListSource) :
    Scene.run { reloader } [.enter,.draw block allow,.build (reloader.submitted + 1)] =
      { reloader := (reloader.setRules block allow false).2 } := by
  by_cases closing : reloader.closing
  · simp [Scene.run,Scene.step,Scene.enter,Scene.draw,Scene.build,submit,setRules,closing]
  · simp [Scene.run,Scene.step,Scene.enter,Scene.draw,Scene.build,submit,setRules,draw,
      closing]

theorem run_setRules_background (reloader : Reloader) (block allow : List ListSource) :
    Scene.run { reloader } [.enqueue block allow] =
      { reloader := (reloader.setRules block allow true).2 } := rfl

theorem run_settle (reloader : Reloader) :
    Scene.run { reloader } [.take,.finish] = { reloader := reloader.settle } := rfl

theorem run_close (reloader : Reloader) :
    Scene.run { reloader } [.beginClose,.finish,.endClose] = { reloader := reloader.close } := rfl

end DnsPolicy.Reloader
