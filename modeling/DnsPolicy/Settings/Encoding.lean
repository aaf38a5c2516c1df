import DnsPolicy.Settings
import DnsPolicy.Yaml.Node
import DnsPolicy.Yaml.Scalar

/-! Settings as YAML texts. -/
namespace DnsPolicy.Settings
open DnsPolicy.Text DnsPolicy.Yaml

/-- The text of a scalar that has to say a truth value or a number: it must not be quoted. -/
def bare? (tag : String) : Node → Option (List Char)
  | .scalar text .plain _ => some text.toList
  | .scalar text .literal (some found) => if found == tag then some text.toList else none
  | _ => none

def bool? (node : Node) : Option Bool := (bare? "tag:yaml.org,2002:bool" node).bind Yaml.bool?

def word? (node : Node) : Option UInt32 := (bare? "tag:yaml.org,2002:int" node).bind Yaml.word?

def string? : Node → Option String
  | .scalar text _ _ => some text
  | _ => none

def isNothing : Node → Bool
  | .scalar "" .plain _ => true
  | _ => false

/-- The pairs of a record with the given field names, which may also be written as a sequence of its
first values. All keys must be texts. -/
def record? (names : List String) : Node → Option (List (String × Node))
  | .mapping pairs => pairs.mapM fun (key,value) => (string? key).map fun name => (name,value)
  | .sequence items => if items.length ≤ names.length then some (names.zip items) else none
  | node => if isNothing node then some [] else none

def field? {α : Type} (fields : List (String × Node)) (name : String) (default : Option α)
    (read : Node → Option α) : Option α :=
  match fields.filter (fun field => field.1 == name) with
  | [] => default
  | [field] => read field.2
  | _ => none

def rewrite? (node : Node) : Option Rewrite := do
  let fields ← record? ["domain","answer"] node
  return {
    domain := ← field? fields "domain" none string?
    answer := ← field? fields "answer" none string? }

def rewrites? : Node → Option RewriteTable
  | .sequence items => (items.mapM rewrite?).map RewriteTable.mk
  | node => if isNothing node then some {} else none

def fieldNames : List String :=
  ["parental_enabled","safesearch_enabled","safebrowsing_enabled","safebrowsing_cache_size",
   "safesearch_cache_size","parental_cache_size","cache_time","rewrites"]

def ofNode? (node : Node) : Option Settings := do
  let fields ← record? fieldNames node
  let base : Settings := {}
  return {
    parental := ← field? fields "parental_enabled" (some base.parental) bool?
    safeSearch := ← field? fields "safesearch_enabled" (some base.safeSearch) bool?
    safeBrowsing := ← field? fields "safebrowsing_enabled" (some base.safeBrowsing) bool?
    safeBrowsingCache := ←
      field? fields "safebrowsing_cache_size" (some base.safeBrowsingCache) word?
    safeSearchCache := ← field? fields "safesearch_cache_size" (some base.safeSearchCache) word?
    parentalCache := ← field? fields "parental_cache_size" (some base.parentalCache) word?
    cacheTime := ← field? fields "cache_time" (some base.cacheTime) word?
    rewrites := ← field? fields "rewrites" (some base.rewrites) rewrites? }

/-- Settings from a YAML text. A text without document gives the default settings. -/
def ofYaml (text : String) : Except Failure Settings :=
  match Node.read? text with
  | none => .error .badSettings
  | some none => .ok {}
  | some (some node) =>
    match ofNode? node with
    | none => .error .badSettings
    | some settings => settings.prepare

def yamlLine (name : String) (value : List Char) : List Char :=
  name.toList ++ ": ".toList ++ value ++ ['\n']

def yamlBool (value : Bool) : List Char := if value then "true".toList else "false".toList

def yamlWord (n : UInt32) : List Char := decimal n.toNat

def yamlRewrite (rewrite : Rewrite) : List Char :=
  yamlLine "- domain" (writeText rewrite.domain.toList)
    ++ yamlLine "  answer" (writeText rewrite.answer.toList)

def yamlRewrites (table : RewriteTable) : List Char :=
  if table.entries.isEmpty then yamlLine "rewrites" "[]".toList
  else "rewrites:\n".toList ++ table.entries.flatMap yamlRewrite

def toYaml (settings : Settings) : String :=
  String.ofList
    (yamlLine "parental_enabled" (yamlBool settings.parental)
      ++ yamlLine "safesearch_enabled" (yamlBool settings.safeSearch)
      ++ yamlLine "safebrowsing_enabled" (yamlBool settings.safeBrowsing)
      ++ yamlLine "safebrowsing_cache_size" (yamlWord settings.safeBrowsingCache)
      ++ yamlLine "safesearch_cache_size" (yamlWord settings.safeSearchCache)
      ++ yamlLine "parental_cache_size" (yamlWord settings.parentalCache)
      ++ yamlLine "cache_time" (yamlWord settings.cacheTime)
      ++ yamlRewrites settings.rewrites)

end DnsPolicy.Settings
