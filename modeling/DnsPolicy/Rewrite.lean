import DnsPolicy.Address.Reader
import DnsPolicy.Failure
import DnsPolicy.Hostname
import DnsPolicy.RecordType

/-! Rewrites: an answer for a name, or for every name below one. -/
namespace DnsPolicy
open Text

structure Rewrite where
  domain : String
  answer : String
deriving DecidableEq, Repr, Inhabited

namespace Rewrite

def address? (rewrite : Rewrite) : Option Address := Address.parse? rewrite.answer

/-- An answer that is not an address is another name. -/
def recordType (rewrite : Rewrite) : RecordType :=
  match rewrite.address? with
  | some (.v4 ..) => .a
  | some (.v6 _) => .aaaa
  | none => .cname

def stem : List Char → List Char
  | '*' :: '.' :: rest => rest
  | domain => domain

/-- An answer in lower case: an address as it is, or a name without trailing dots. -/
def normalAnswer (domain answer : List Char) : Except RewriteFault (List Char) :=
  if answer.isEmpty then .error (.emptyAnswer (String.ofList domain))
  else if (Address.read? answer).isSome then .ok answer
  else
    let name := trimDots answer
    if Hostname.isName name then .ok name else .error (.badAnswer (String.ofList name))

def normalize (rewrite : Rewrite) : Except RewriteFault Rewrite :=
  let domain := Unicode.lower (trimDots (trim rewrite.domain.toList))
  let answer := Unicode.lower (trim rewrite.answer.toList)
  if Hostname.isName (stem domain) then
    (normalAnswer domain answer).map fun answer =>
      { domain := String.ofList domain, answer := String.ofList answer }
  else .error (.badDomain (String.ofList domain))

def isWildcard (rewrite : Rewrite) : Bool := ['*','.'].isPrefixOf rewrite.domain.toList

/-- The rewrite says that its domain is left as it is. -/
def isException (rewrite : Rewrite) : Bool := rewrite.answer == rewrite.domain

def covers (rewrite : Rewrite) (host : String) : Bool :=
  if rewrite.isWildcard then
    let ending := rewrite.domain.toList.drop 1
    ending.length < host.toList.length && ending.isSuffixOf host.toList
  else rewrite.domain == host

end Rewrite

end DnsPolicy
