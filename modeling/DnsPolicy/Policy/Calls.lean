import DnsPolicy.Policy

/-! Calls of a policy in use, one behind the other, and what the callers are told. -/
namespace DnsPolicy

inductive Edit where
  | update (change : Settings → Settings)
  | setRewrites (entries : List Rewrite)
  | addRewrite (rewrite : Rewrite)
  | removeRewrite (rewrite : Rewrite)

namespace Edit

def given (settings : Settings) : Edit → List Rewrite
  | .update change => (change settings).rewrites.entries
  | .setRewrites entries => entries
  | .addRewrite rewrite => [rewrite]
  | .removeRewrite rewrite => [rewrite]

/-- The settings that are wanted, but for the rewrites. -/
def aim (settings : Settings) : Edit → Settings
  | .update change => change settings
  | _ => settings

def isSingle : Edit → Bool
  | .addRewrite _ | .removeRewrite _ => true
  | .update _ | .setRewrites _ => false

def KeepsWatch : Edit → Prop
  | .update change => ∀ settings, (change settings).watched = settings.watched
  | _ => True

end Edit

namespace Policy

/-- Makes an edit. An edit that does not tell whether it changed anything counts as a change. -/
def edit (policy : Policy) : Edit → Except Failure Bool × Policy
  | .update change =>
    let (result,policy) := policy.update change
    (result.map fun _ => true,policy)
  | .setRewrites entries =>
    let (result,policy) := policy.setRewrites entries
    (result.map fun _ => true,policy)
  | .addRewrite rewrite => policy.addRewrite rewrite
  | .removeRewrite rewrite => policy.removeRewrite rewrite

def editAll (policy : Policy) (edits : List Edit) : Policy :=
  edits.foldl (fun policy edit => (policy.edit edit).2) policy

inductive Call where
  | check (host : String) (qtype : RecordType) (profile : Profile)
  | checkRules (host : String) (qtype : RecordType) (profile : Profile)
  | setRules (block allow : List ListSource) (background : Bool)
  | start
  | settle
  | close
  | edit (edit : Edit)
  | clear (kind : ClassifierKind)
  | reset

inductive Reply where
  | decision (result : Except Failure Decision)
  | done (result : Except Failure Unit)
  | changed (result : Except Failure Bool)

def call (policy : Policy) : Call → Reply × Policy
  | .check host qtype profile =>
    let (result,policy) := policy.check host qtype profile
    (.decision result,policy)
  | .checkRules host qtype profile => (.decision (policy.checkRules host qtype profile),policy)
  | .setRules block allow background =>
    let (result,policy) := policy.setRules block allow background
    (.done result,policy)
  | .start =>
    let (result,policy) := policy.start
    (.done result,policy)
  | .settle => (.done (.ok ()),policy.settle)
  | .close => (.done (.ok ()),policy.close)
  | .edit edit =>
    let (result,policy) := policy.edit edit
    (.changed result,policy)
  | .clear kind => (.done (.ok ()),{ policy with panel := policy.panel.clear kind })
  | .reset => (.done (.ok ()),{ policy with panel := policy.panel.reset })

/-- Makes calls one behind the other. What became of the panel since the call before is up to time. -/
def run (time : Nat → Panel → Panel) (policy : Policy) : List Call → List Reply × Policy
  | [] => ([],policy)
  | call :: calls =>
    let (reply,next) := { policy with panel := time 0 policy.panel }.call call
    let (replies,last) := next.run (fun n => time (n + 1)) calls
    (reply :: replies,last)

end Policy

end DnsPolicy
