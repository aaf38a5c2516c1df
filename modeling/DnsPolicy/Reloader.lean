import DnsPolicy.Ruleset

/-! Block and allow rules that are replaced while they are in use. Every request for new rules has a
number, and no request is installed after a later one. Requests that may wait go to a worker through
a slot for one, where a new request takes the place of the old. -/
namespace DnsPolicy

structure RulePair where
  block : Option Ruleset := none
  allow : Option Ruleset := none

structure RuleRequest where
  number : Nat
  block : List ListSource
  allow : List ListSource
deriving DecidableEq, Repr

/-- Both rule sets, or what is wrong with the first that cannot be built. -/
def RuleRequest.build (request : RuleRequest) : Except Failure RulePair := do
  let block ← Ruleset.build request.block
  let allow ← Ruleset.build request.allow
  return { block := some block, allow := some allow }

structure Reloader where
  pair : RulePair := {}
  installed : Nat := 0
  generation : Nat := 0
  submitted : Nat := 0
  waiting : Option RuleRequest := none
  taken : Option RuleRequest := none
  started : Bool := false
  closing : Bool := false
  closed : Bool := false

namespace Reloader

def draw (reloader : Reloader) (block allow : List ListSource) : RuleRequest × Reloader :=
  let number := reloader.submitted + 1
  ({ number, block, allow },{ reloader with submitted := number })

def submit (reloader : Reloader) (block allow : List ListSource) :
    Except Failure RuleRequest × Reloader :=
  if reloader.closing then (.error .closed,reloader)
  else
    let (request,reloader) := reloader.draw block allow
    (.ok request,reloader)

def enqueue (reloader : Reloader) (block allow : List ListSource) :
    Except Failure Unit × Reloader :=
  if reloader.closing then (.error .closed,reloader)
  else
    let (request,reloader) := reloader.draw block allow
    (.ok (),{ reloader with waiting := some request })

/-- Builds and installs a pair. A request that comes too late is passed over. -/
def rebuild (reloader : Reloader) (request : RuleRequest) : Except Failure Unit × Reloader :=
  if reloader.closed || request.number < reloader.installed then (.ok (),reloader)
  else
    match request.build with
    | .error failure => (.error failure,reloader)
    | .ok pair =>
      (.ok (),
        { reloader with
          pair, installed := request.number, generation := reloader.generation + 1 })

def start (reloader : Reloader) : Except Failure Unit × Reloader :=
  if reloader.started then (.ok (),reloader)
  else if reloader.closing then (.error .closed,reloader)
  else (.ok (),{ reloader with started := true })

def take (reloader : Reloader) : Reloader :=
  if reloader.started && !reloader.closing && reloader.taken.isNone then
    { reloader with taken := reloader.waiting, waiting := none }
  else reloader

/-- The worker builds what it took. Nobody hears of a failure. -/
def finish (reloader : Reloader) : Reloader :=
  match reloader.taken with
  | none => reloader
  | some request => { (reloader.rebuild request).2 with taken := none }

def beginClose (reloader : Reloader) : Reloader :=
  if reloader.closing then reloader else { reloader with closing := true, waiting := none }

/-- Once the worker is done, nothing is in force any more. -/
def endClose (reloader : Reloader) : Reloader :=
  if reloader.closing && reloader.taken.isNone then
    { reloader with started := false, closed := true, pair := {} }
  else reloader

def setRules (reloader : Reloader) (block allow : List ListSource) (background : Bool) :
    Except Failure Unit × Reloader :=
  if background then reloader.enqueue block allow
  else
    match reloader.submit block allow with
    | (.error failure,reloader) => (.error failure,reloader)
    | (.ok request,reloader) => reloader.rebuild request

def settle (reloader : Reloader) : Reloader := reloader.take.finish

def close (reloader : Reloader) : Reloader := reloader.beginClose.finish.endClose

end Reloader

end DnsPolicy
