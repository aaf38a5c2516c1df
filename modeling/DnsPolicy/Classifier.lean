import DnsPolicy.Decision
import DnsPolicy.Failure
import DnsPolicy.Text.Pieces

/-! Classifiers of hosts: safe search, safe browsing and parental control. -/
namespace DnsPolicy
open Text

inductive ClassifierKind where
  | safeBrowsing
  | parental
  | safeSearch
deriving DecidableEq, Repr

def ClassifierKind.name : ClassifierKind → String
  | .safeBrowsing => "safe browsing"
  | .parental => "parental"
  | .safeSearch => "safe search"

namespace SafeSearch

def engines : List (String × String) :=
  [("www.google.com","forcesafesearch.google.com"),
   ("google.com","forcesafesearch.google.com"),
   ("www.bing.com","strict.bing.com"),
   ("bing.com","strict.bing.com"),
   ("duckduckgo.com","safe.duckduckgo.com"),
   ("www.duckduckgo.com","safe.duckduckgo.com"),
   ("start.duckduckgo.com","safe.duckduckgo.com"),
   ("www.youtube.com","restrictmoderate.youtube.com"),
   ("m.youtube.com","restrictmoderate.youtube.com"),
   ("youtubei.googleapis.com","restrictmoderate.youtube.com"),
   ("youtube.googleapis.com","restrictmoderate.youtube.com"),
   ("www.youtube-nocookie.com","restrictmoderate.youtube.com"),
   ("yandex.ru","familysearch.yandex.ru"),
   ("www.yandex.ru","familysearch.yandex.ru"),
   ("yandex.com","familysearch.yandex.ru"),
   ("www.yandex.com","familysearch.yandex.ru"),
   ("pixabay.com","safesearch.pixabay.com"),
   ("www.pixabay.com","safesearch.pixabay.com")]

def orSame (text : List Char) (found : Option (List Char)) : List Char := found.getD text

/-- A host of the form `google.de`, `google.co.uk` or `google.com.br`, with `www.` or without. -/
def isRegional (host : List Char) : Bool :=
  match after? "google.".toList (orSame host (after? "www.".toList host)) with
  | none => false
  | some rest =>
    let country := orSame rest ((after? "co.".toList rest).or (after? "com.".toList rest))
    !country.isEmpty && country.all Char.isLower

def safeHost? (host : String) : Option String :=
  match engines.lookup host with
  | some safe => some safe
  | none => if isRegional host.toList then some "forcesafesearch.google.com" else none

def classify (host : String) : Decision :=
  match safeHost? host with
  | some safe => { Decision.ofReason .safeSearch with canonicalName := safe }
  | none => .none

end SafeSearch

inductive Classifier where
  | safeSearch
  | external (answer : String → Except String Decision)

def Classifier.classify (kind : ClassifierKind) (host : String) :
    Classifier → Except Failure Decision
  | .safeSearch => .ok (SafeSearch.classify host)
  | .external answer =>
    match answer host with
    | .ok decision => .ok decision
    | .error reason => .error (.lookup kind.name reason)

def Classifier.isExternal : Classifier → Bool
  | .safeSearch => false
  | .external _ => true

end DnsPolicy
