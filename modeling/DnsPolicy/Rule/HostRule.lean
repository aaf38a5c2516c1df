import DnsPolicy.Address
import DnsPolicy.Hostname
import DnsPolicy.Rule.Fault

/-! Host rules: an address and the names that are bound to it, as in a hosts file. -/
namespace DnsPolicy
open Text

structure HostRule where
  text : String
  listId : Int
  address : Address
  hostnames : List String
deriving DecidableEq, Repr

namespace HostRule

def hostname (word : List Char) : Except RuleFault String :=
  let name := Unicode.lower (trimDots word)
  if Hostname.isName name then .ok (String.ofList name)
  else .error (.badHostname (String.ofList name))

/-- Reads the names on a line whose first word is `address`. A hash starts a comment. -/
def parse (line : List Char) (address : Address) (listId : Int) : Except RuleFault HostRule := do
  let line := trim line
  let hostnames ← ((words (upTo '#' line)).drop 1).mapM hostname
  if hostnames.isEmpty then
    throw (.noHostname (String.ofList line))
  return { text := String.ofList line, listId, address, hostnames }

def covers (rule : HostRule) (host : String) : Bool := rule.hostnames.contains host

end HostRule

end DnsPolicy
