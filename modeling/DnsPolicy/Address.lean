/-! Internet addresses of both families. -/
namespace DnsPolicy

inductive Address where
  | v4 (a b c d : UInt8)
  | v6 (groups : Vector UInt16 8)
deriving DecidableEq, Repr

namespace Address

def isV4 : Address → Bool
  | .v4 .. => true
  | .v6 _ => false

def isV6 (address : Address) : Bool := !address.isV4

end Address

end DnsPolicy
