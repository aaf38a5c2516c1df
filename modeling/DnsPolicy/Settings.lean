import DnsPolicy.Classifier
import DnsPolicy.Rewrite.Table
import DnsPolicy.Service

/-! Settings of the policy as a whole, and the profile of a client. -/
namespace DnsPolicy
open Text

structure Settings where
  parental : Bool := false
  safeSearch : Bool := false
  safeBrowsing : Bool := false
  safeBrowsingCache : UInt32 := 1048576
  safeSearchCache : UInt32 := 1048576
  parentalCache : UInt32 := 1048576
  /-- How long a cached decision holds, in minutes. -/
  cacheTime : UInt32 := 30
  rewrites : RewriteTable := {}
  watched : Bool := false
deriving DecidableEq, Repr, Inhabited

namespace Settings

def prepare (settings : Settings) : Except Failure Settings :=
  match RewriteTable.ofList settings.rewrites.entries with
  | .ok rewrites => .ok { settings with rewrites }
  | .error fault => .error (.badRewrite fault)

def showRecord (name : String) (fields : List (String × String)) : String :=
  name ++ " \x7b "
    ++ String.intercalate ", " (fields.map fun (field,value) => field ++ ": " ++ value) ++ " \x7d"

def showBool (value : Bool) : String := if value then "true" else "false"

def showNumber (n : UInt32) : String := String.ofList (decimal n.toNat)

def showRewrite (rewrite : Rewrite) : String :=
  showRecord "RewriteEntry" [("domain",quote rewrite.domain),("answer",quote rewrite.answer)]

def shown (settings : Settings) : String :=
  let entries := String.intercalate ", " (settings.rewrites.entries.map showRewrite)
  showRecord "Config"
    [("parental_enabled",showBool settings.parental),
     ("safe_search_enabled",showBool settings.safeSearch),
     ("safe_browsing_enabled",showBool settings.safeBrowsing),
     ("safebrowsing_cache_size",showNumber settings.safeBrowsingCache),
     ("safesearch_cache_size",showNumber settings.safeSearchCache),
     ("parental_cache_size",showNumber settings.parentalCache),
     ("cache_time",showNumber settings.cacheTime),
     ("rewrites",showRecord "RewriteTable" [("entries","[" ++ entries ++ "]")]),
     ("config_modified",showBool settings.watched)]

end Settings

structure Profile where
  filtering : Bool := false
  safeSearch : Bool := false
  safeBrowsing : Bool := false
  parental : Bool := false
  tags : List String := []
  services : List Service := []

/-- The profile that the settings give to everybody: no rules, tags or services. -/
def Settings.profile (settings : Settings) : Profile :=
  { safeSearch := settings.safeSearch
    safeBrowsing := settings.safeBrowsing
    parental := settings.parental }

def Profile.wants (profile : Profile) : ClassifierKind → Bool
  | .safeBrowsing => profile.safeBrowsing
  | .parental => profile.parental
  | .safeSearch => profile.safeSearch

end DnsPolicy
