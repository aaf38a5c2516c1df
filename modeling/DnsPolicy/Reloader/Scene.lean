import DnsPolicy.Reloader

/-! Several callers and a worker at one reloader. Each action is done at once, and the actions of
different callers may come in any order. A caller that builds new rules itself looks whether the
reloader is closing, then draws a number and at last builds, and other actions may come in between,
a close as well. -/
namespace DnsPolicy.Reloader

structure Scene where
  reloader : Reloader := {}
  /-- How many callers found the reloader open and have not drawn their numbers yet. -/
  entered : Nat := 0
  underWay : List RuleRequest := []

inductive Action where
  | enter
  | draw (block allow : List ListSource)
  | build (number : Nat)
  | enqueue (block allow : List ListSource)
  | start
  | take
  | finish
  | beginClose
  | endClose

namespace Scene

def enter (scene : Scene) : Scene :=
  if scene.reloader.closing then scene else { scene with entered := scene.entered + 1 }

def draw (scene : Scene) (block allow : List ListSource) : Scene :=
  match scene.entered with
  | 0 => scene
  | entered + 1 =>
    let (request,reloader) := scene.reloader.draw block allow
    { reloader, entered, underWay := request :: scene.underWay }

def build (scene : Scene) (number : Nat) : Scene :=
  match scene.underWay.find? (·.number == number) with
  | some request =>
    { scene with
      reloader := (scene.reloader.rebuild request).2
      underWay := scene.underWay.filter (·.number != number) }
  | none => scene

def step (scene : Scene) : Action → Scene
  | .enter => scene.enter
  | .draw block allow => scene.draw block allow
  | .build number => scene.build number
  | .enqueue block allow => { scene with reloader := (scene.reloader.enqueue block allow).2 }
  | .start => { scene with reloader := scene.reloader.start.2 }
  | .take => { scene with reloader := scene.reloader.take }
  | .finish => { scene with reloader := scene.reloader.finish }
  | .beginClose => { scene with reloader := scene.reloader.beginClose }
  | .endClose => { scene with reloader := scene.reloader.endClose }

def run (scene : Scene) (actions : List Action) : Scene := actions.foldl step scene

end Scene

end DnsPolicy.Reloader
