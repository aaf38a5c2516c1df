/-! What can be wrong with the text of a rule. -/
namespace DnsPolicy

inductive RuleFault where
  | emptyPattern
  | badPattern (pattern : String)
  | badModifier (modifier : String)
  /-- The reason that an expression cannot be read, in which the message would end, is not kept. -/
  | badRegex (source : String)
  | noHostname (line : String)
  | badHostname (name : String)
deriving DecidableEq, Repr

def RuleFault.message : RuleFault → String
  | .emptyPattern => "empty rule pattern"
  | .badPattern pattern => "invalid pattern: " ++ pattern
  | .badModifier modifier => "unsupported modifier: " ++ modifier
  | .badRegex source => "invalid regex " ++ source
  | .noHostname line => "host rule has no hostnames: " ++ line
  | .badHostname name => "invalid hostname in host rule: " ++ name

end DnsPolicy
