/-! Why a host was filtered, left alone or rewritten. The codes are stable. -/
namespace DnsPolicy

inductive Reason where
  | notFound
  | allowed
  | failed
  | blocked
  | safeBrowsing
  | parental
  | invalid
  | safeSearch
  | service
  | rewritten
deriving DecidableEq, Repr, Inhabited

namespace Reason

def all : List Reason :=
  [.notFound,.allowed,.failed,.blocked,.safeBrowsing,.parental,.invalid,.safeSearch,
   .service,.rewritten]

def code : Reason → Nat
  | .notFound => 0
  | .allowed => 1
  | .failed => 2
  | .blocked => 3
  | .safeBrowsing => 4
  | .parental => 5
  | .invalid => 6
  | .safeSearch => 7
  | .service => 8
  | .rewritten => 9

def ofCode? (code : Nat) : Option Reason := all[code]?

def name : Reason → String
  | .notFound => "NotFilteredNotFound"
  | .allowed => "NotFilteredWhiteList"
  | .failed => "NotFilteredError"
  | .blocked => "FilteredBlackList"
  | .safeBrowsing => "FilteredSafeBrowsing"
  | .parental => "FilteredParental"
  | .invalid => "FilteredInvalid"
  | .safeSearch => "FilteredSafeSearch"
  | .service => "FilteredBlockedService"
  | .rewritten => "Rewrite"

def matched (reason : Reason) : Bool := reason != .notFound

def filters : Reason → Bool
  | .blocked | .safeBrowsing | .parental | .invalid | .safeSearch | .service => true
  | .notFound | .allowed | .failed | .rewritten => false

/-- The reason of that name; the case of ASCII letters does not count. -/
def parse? (text : String) : Option Reason :=
  all.find? fun reason => reason.name.toList.map Char.toLower = text.toList.map Char.toLower

end Reason

end DnsPolicy
