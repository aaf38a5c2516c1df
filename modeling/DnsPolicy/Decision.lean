import DnsPolicy.Address
import DnsPolicy.Reason

/-! The outcome of a check. -/
namespace DnsPolicy

structure Decision where
  filtered : Bool := false
  reason : Reason := .notFound
  rule : String := ""
  address : Option Address := none
  listId : Int := 0
  /-- Last name reached through rewrites, or the safe host of a search engine. -/
  canonicalName : String := ""
  addresses : List Address := []
  service : String := ""
deriving DecidableEq, Repr, Inhabited

namespace Decision

def none : Decision := {}

def ofReason (reason : Reason) : Decision := { filtered := reason.filters, reason }

def matched (decision : Decision) : Bool := decision.reason.matched

end Decision

end DnsPolicy
