import DnsPolicy.Classifier.Panel

/-! A panel in use, and what its use says about it. A history has its last event in front. -/
namespace DnsPolicy

namespace Settings

def cacheSize (settings : Settings) : ClassifierKind → UInt32
  | .safeBrowsing => settings.safeBrowsingCache
  | .parental => settings.parentalCache
  | .safeSearch => settings.safeSearchCache

def caches (settings : Settings) (kind : ClassifierKind) : Bool := 256 ≤ settings.cacheSize kind

end Settings

namespace Panel

inductive Event where
  | register (kind : ClassifierKind) (classifier : Classifier)
  | consult (kind : ClassifierKind) (host : String)
  | insert (kind : ClassifierKind) (host : String) (verdict : Decision)
  | clear (kind : ClassifierKind)
  | reset

abbrev History := List Event

def step (panel : Panel) : Event → Panel
  | .register kind classifier => panel.register kind classifier
  | .consult kind host => (panel.consult kind host).2
  | .insert kind host verdict => panel.insert kind host verdict
  | .clear kind => panel.clear kind
  | .reset => panel.reset

def after (settings : Settings) : History → Panel
  | [] => ofSettings settings
  | event :: past => (after settings past).step event

namespace Event

def kind? : Event → Option ClassifierKind
  | .register kind _ | .consult kind _ | .insert kind _ _ | .clear kind => some kind
  | .reset => none

end Event

namespace History

def seated? (kind : ClassifierKind) : History → Option Classifier
  | [] => none
  | .register other classifier :: past => if other = kind then some classifier else seated? kind past
  | _ :: past => seated? kind past

/-- The verdict that was stored last for a host, and not cleared since. A classifier is asked, and its
verdict stored, only where none is stored yet. -/
def stored? (kind : ClassifierKind) (host : String) : History → Option Decision
  | [] => none
  | .register _ _ :: past => stored? kind host past
  | .insert other name verdict :: past =>
    if other = kind ∧ name = host then some verdict else stored? kind host past
  | .consult other name :: past =>
    if other = kind ∧ name = host then
      (stored? kind host past).or
        ((seated? kind past).bind fun classifier => (classifier.classify kind host).toOption)
    else stored? kind host past
  | .clear other :: past => if other = kind then none else stored? kind host past
  | .reset :: _ => none

def held? (settings : Settings) (kind : ClassifierKind) (host : String) (history : History) :
    Option Decision :=
  if settings.caches kind then stored? kind host history else none

/-- How many events since the last reset are of this sort, each seen with its past. -/
def tally (sort : Event → History → Bool) : History → Nat
  | [] => 0
  | event :: past =>
    match event with
    | .reset => 0
    | _ => tally sort past + (sort event past).toNat

def consults (kind : ClassifierKind) (test : String → History → Bool) : Event → History → Bool
  | .consult other host, past => other = kind && test host past
  | _, _ => false

def asks (kind : ClassifierKind) : Event → History → Bool := consults kind fun _ _ => true

def hits (settings : Settings) (kind : ClassifierKind) : Event → History → Bool :=
  consults kind fun host past => (held? settings kind host past).isSome

def reaches (settings : Settings) (kind : ClassifierKind) : Event → History → Bool :=
  consults kind fun host past => (held? settings kind host past).isNone

def lookups (settings : Settings) : History → List (ClassifierKind × String)
  | [] => []
  | .consult kind host :: past =>
    lookups settings past ++
      if (seated? kind past).any Classifier.isExternal && (held? settings kind host past).isNone then
        [(kind,host)]
      else []
  | _ :: past => lookups settings past

/-- A classifier is consulted only where one is seated. -/
def Ready : History → Prop
  | [] => True
  | .consult kind _ :: past => (seated? kind past).isSome ∧ Ready past
  | _ :: past => Ready past

end History

end Panel

end DnsPolicy
