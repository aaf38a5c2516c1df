import DnsPolicy.Classifier.Cache
import DnsPolicy.Settings

/-! The panel: a seat for each kind of classifier, with its cache and its counts. -/
namespace DnsPolicy

structure Seat where
  classifier : Option Classifier := none
  cache : Option VerdictCache := none
  counts : LookupCounts := {}

structure Panel where
  safeBrowsing : Seat
  parental : Seat
  safeSearch : Seat
  outside : List (ClassifierKind × String) := []

namespace Panel

def ofSettings (settings : Settings) : Panel :=
  { safeBrowsing := { cache := VerdictCache.ofSize? settings.safeBrowsingCache }
    parental := { cache := VerdictCache.ofSize? settings.parentalCache }
    safeSearch := { cache := VerdictCache.ofSize? settings.safeSearchCache } }

def seat (panel : Panel) : ClassifierKind → Seat
  | .safeBrowsing => panel.safeBrowsing
  | .parental => panel.parental
  | .safeSearch => panel.safeSearch

def setSeat (panel : Panel) (kind : ClassifierKind) (seat : Seat) : Panel :=
  match kind with
  | .safeBrowsing => { panel with safeBrowsing := seat }
  | .parental => { panel with parental := seat }
  | .safeSearch => { panel with safeSearch := seat }

/-- Seats a classifier. Cache and counts of the seat stay. -/
def register (panel : Panel) (kind : ClassifierKind) (classifier : Classifier) : Panel :=
  panel.setSeat kind { panel.seat kind with classifier := some classifier }

def withCache (panel : Panel) (kind : ClassifierKind) (change : VerdictCache → VerdictCache) :
    Panel :=
  panel.setSeat kind { panel.seat kind with cache := (panel.seat kind).cache.map change }

def insert (panel : Panel) (kind : ClassifierKind) (host : String) (verdict : Decision) : Panel :=
  panel.withCache kind fun cache => cache.insert host verdict

def clear (panel : Panel) (kind : ClassifierKind) : Panel :=
  panel.withCache kind VerdictCache.clear

def cached? (panel : Panel) (kind : ClassifierKind) (host : String) : Option Decision :=
  (panel.seat kind).cache.bind (·.get? host)

def setCounts (panel : Panel) (kind : ClassifierKind) (change : LookupCounts → LookupCounts) :
    Panel :=
  panel.setSeat kind { panel.seat kind with counts := change (panel.seat kind).counts }

def resetSeat (panel : Panel) (kind : ClassifierKind) : Panel :=
  (panel.clear kind).setCounts kind LookupCounts.reset

def reset (panel : Panel) : Panel :=
  ((panel.resetSeat .safeBrowsing).resetSeat .parental).resetSeat .safeSearch

/-- Asks a classifier itself. What it decides is cached, failures are not. -/
def ask (panel : Panel) (kind : ClassifierKind) (classifier : Classifier) (host : String) :
    Except Failure Decision × Panel :=
  let panel := panel.setCounts kind fun counts => counts.start.finish
  let panel :=
    if classifier.isExternal then { panel with outside := panel.outside ++ [(kind,host)] }
    else panel
  match classifier.classify kind host with
  | .ok verdict => (.ok verdict,panel.insert kind host verdict)
  | .error failure => (.error failure,panel)

def consult (panel : Panel) (kind : ClassifierKind) (host : String) :
    Option (Except Failure Decision) × Panel :=
  match (panel.seat kind).classifier with
  | none => (none,panel)
  | some classifier =>
    let panel := panel.setCounts kind LookupCounts.request
    match panel.cached? kind host with
    | some verdict => (some (.ok verdict),panel.setCounts kind LookupCounts.hit)
    | none =>
      let (answer,panel) := panel.ask kind classifier host
      (some answer,panel)

/-- The first decision of several kinds that matches. A failure ends the round without one. -/
def decide (host : String) : List ClassifierKind → Panel → Decision × Panel
  | [], panel => (.none,panel)
  | kind :: more, panel =>
    match panel.consult kind host with
    | (none,panel) => decide host more panel
    | (some (.ok verdict),panel) =>
      if verdict.matched then (verdict,panel) else decide host more panel
    | (some (.error _),panel) => (.none,panel)

end Panel

end DnsPolicy
