import DnsPolicy.Classifier.Panel
import DnsPolicy.Reloader

/-! The policy: rewrites, rules, services and classifiers are asked in turn, and the first that
matches decides. -/
namespace DnsPolicy

structure Policy where
  settings : Settings
  reloader : Reloader := {}
  panel : Panel
  notices : Nat := 0

namespace Policy

def ofSettings (settings : Settings) : Policy :=
  { settings, panel := (Panel.ofSettings settings).register .safeSearch .safeSearch }

/-- What the rules in force say. A block is lifted where an allow list matches in any way. -/
def matchRules (pair : RulePair) (host : String) (qtype : RecordType) (client : List String) :
    Decision :=
  match pair.block with
  | none => .none
  | some block =>
    let decision := block.decide host qtype client
    if decision.reason ≠ .blocked then decision
    else
      match pair.allow with
      | none => decision
      | some allow => if (allow.decide host qtype client).matched then .none else decision

def classifierOrder : List ClassifierKind := [.safeSearch,.safeBrowsing,.parental]

def decideEarly (policy : Policy) (host : String) (qtype : RecordType) (profile : Profile) :
    Decision :=
  let rewritten := policy.settings.rewrites.resolve host qtype
  if rewritten.matched then rewritten
  else
    let ruled :=
      if profile.filtering then matchRules policy.reloader.pair host qtype profile.tags else .none
    if ruled.matched then ruled else Service.decide host profile.services

/-- The decision about a host. Only a closed policy refuses to give one. -/
def check (policy : Policy) (host : String) (qtype : RecordType) (profile : Profile) :
    Except Failure Decision × Policy :=
  if policy.reloader.closing then (.error .closed,policy)
  else if host.isEmpty then (.ok .none,policy)
  else
    let host := Hostname.lower host
    let early := policy.decideEarly host qtype profile
    if early.matched then (.ok early,policy)
    else
      let (decision,panel) := policy.panel.decide host (classifierOrder.filter profile.wants)
      (.ok decision,{ policy with panel })

def checkRules (policy : Policy) (host : String) (qtype : RecordType) (profile : Profile) :
    Except Failure Decision :=
  if policy.reloader.closing then .error .closed
  else if !profile.filtering || host.isEmpty then .ok .none
  else
    match policy.reloader.pair.block with
    | none => .ok .none
    | some block => .ok (block.decide (Hostname.lower host) qtype profile.tags)

def setRules (policy : Policy) (block allow : List ListSource) (background : Bool) :
    Except Failure Unit × Policy :=
  let (result,reloader) := policy.reloader.setRules block allow background
  (result,{ policy with reloader })

def start (policy : Policy) : Except Failure Unit × Policy :=
  let (result,reloader) := policy.reloader.start
  (result,{ policy with reloader })

def settle (policy : Policy) : Policy := { policy with reloader := policy.reloader.settle }

def close (policy : Policy) : Policy := { policy with reloader := policy.reloader.close }

def install (policy : Policy) (settings : Settings) : Policy :=
  { policy with
    settings, notices := if settings.watched then policy.notices + 1 else policy.notices }

/-- Changes the settings, unless that leaves a rewrite without normal form. -/
def update (policy : Policy) (change : Settings → Settings) : Except Failure Unit × Policy :=
  match (change policy.settings).prepare with
  | .error failure => (.error failure,policy)
  | .ok settings => (.ok (),policy.install settings)

def setRewrites (policy : Policy) (entries : List Rewrite) : Except Failure Unit × Policy :=
  policy.update fun settings => { settings with rewrites := ⟨entries⟩ }

/-- Edits the table of rewrites where it stands, and announces that if the edit says that it changed
something. Gives back whether it did. -/
def editRewrites (policy : Policy)
    (edit : RewriteTable → Except RewriteFault (Bool × RewriteTable)) :
    Except Failure Bool × Policy :=
  match edit policy.settings.rewrites with
  | .error fault => (.error (.badRewrite fault),policy)
  | .ok (changed,rewrites) =>
    let settings := { policy.settings with rewrites }
    (.ok changed,if changed then policy.install settings else { policy with settings })

def addRewrite (policy : Policy) (rewrite : Rewrite) : Except Failure Bool × Policy :=
  policy.editRewrites (·.add rewrite)

def removeRewrite (policy : Policy) (rewrite : Rewrite) : Except Failure Bool × Policy :=
  policy.editRewrites (·.remove rewrite)

def register (policy : Policy) (kind : ClassifierKind) (classifier : Classifier) : Policy :=
  { policy with panel := policy.panel.register kind classifier }

end Policy

end DnsPolicy
