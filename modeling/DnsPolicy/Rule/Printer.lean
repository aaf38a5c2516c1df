import DnsPolicy.Rule.NetworkRule

/-! Writing network rules: the parts of a rule, the text that is put together from them, and what they
say about hosts and clients. -/
namespace DnsPolicy
open Text

inductive TagClause where
  | permitted (name : String)
  | restricted (name : String)
deriving DecidableEq, Repr

namespace TagClause

def name : TagClause → String
  | .permitted name => name
  | .restricted name => name

def write : TagClause → List Char
  | .permitted name => name.toList
  | .restricted name => '~' :: name.toList

/-- A tag that ends where a comma or a bar follows, and does not begin as the other clause does. -/
structure Writable (clause : TagClause) : Prop where
  filled : clause.name ≠ ""
  trimmed : trim clause.write = clause.write
  uncut : ',' ∉ clause.write ∧ '|' ∉ clause.write
  plain : clause = .permitted clause.name → clause.name.toList.head? ≠ some '~'

instance (clause : TagClause) : Decidable clause.Writable :=
  decidable_of_iff (clause.name ≠ "" ∧ trim clause.write = clause.write ∧
      (',' ∉ clause.write ∧ '|' ∉ clause.write) ∧
      (clause = .permitted clause.name → clause.name.toList.head? ≠ some '~'))
    ⟨fun ⟨filled,trimmed,uncut,plain⟩ => ⟨filled,trimmed,uncut,plain⟩,
      fun ⟨filled,trimmed,uncut,plain⟩ => ⟨filled,trimmed,uncut,plain⟩⟩

/-- The client carries no tag that is restricted, and one that is permitted if there are any. -/
def Admit (clauses : List TagClause) (client : List String) : Prop :=
  (∀ name, .restricted name ∈ clauses → name ∉ client) ∧
    ((∀ name, .permitted name ∉ clauses) ∨ ∃ name, .permitted name ∈ clauses ∧ name ∈ client)

end TagClause

inductive Modifier where
  | important
  | tags (clauses : List TagClause)
deriving DecidableEq, Repr

namespace Modifier

def write : Modifier → List Char
  | .important => "important".toList
  | .tags clauses => "ctag=".toList ++ List.intercalate ['|'] (clauses.map TagClause.write)

def isTags : Modifier → Bool
  | .important => false
  | .tags _ => true

def Writable : Modifier → Prop
  | .important => True
  | .tags clauses => clauses ≠ [] ∧ ∀ clause ∈ clauses, clause.Writable

instance : (modifier : Modifier) → Decidable modifier.Writable
  | .important => isTrue trivial
  | .tags clauses => inferInstanceAs (Decidable (clauses ≠ [] ∧ ∀ clause ∈ clauses, clause.Writable))

end Modifier

inductive Target where
  | host (bars : Fin 3) (name : String) (marks : List Char)
  | regex (source : String)
deriving DecidableEq, Repr

namespace Target

def write : Target → List Char
  | .host bars name marks => List.replicate bars '|' ++ name.toList ++ marks
  | .regex source => '/' :: (source.toList ++ ['/'])

def Writable : Target → Prop
  | .host bars name marks =>
    Hostname.isPattern name.toList = true ∧ name.toList.head? ≠ some '.' ∧ (∀ c ∈ marks, c = '^' ∨ c = '|') ∧
      ('*' ∈ name.toList →
        (Regex.parse? (Pattern.wildcardSource (bars = 1) (Unicode.lower name.toList))).isSome = true)
  | .regex source => source ≠ "" ∧ (Regex.parse? ("(?i)".toList ++ source.toList)).isSome = true

/-- One bar is for the name alone. Without a bar, or with two, the names below it count as well. -/
inductive Means : Target → Pattern → Prop
  | exact {name : String} {marks : List Char} (plain : '*' ∉ name.toList) :
    Means (.host 1 name marks) (.exact (Hostname.lower name))
  | domain {bars : Fin 3} {name : String} {marks : List Char} (plain : '*' ∉ name.toList)
      (below : bars ≠ 1) : Means (.host bars name marks) (.domain (Hostname.lower name))
  | wildcard {bars : Fin 3} {name : String} {marks : List Char} {expression : Regex}
      (starred : '*' ∈ name.toList)
      (compiled : Regex.parse? (Pattern.wildcardSource (bars = 1) (Unicode.lower name.toList)) =
        some expression) : Means (.host bars name marks) (.search expression)
  | regex {source : String} {expression : Regex}
      (compiled : Regex.parse? ("(?i)".toList ++ source.toList) = some expression) :
    Means (.regex source) (.search expression)

end Target

structure RuleParts where
  allow : Bool := false
  target : Target
  modifiers : List Modifier := []
deriving DecidableEq, Repr

namespace RuleParts

def joined? (parts : RuleParts) : Option (List Char) :=
  if parts.modifiers.isEmpty then none
  else some (List.intercalate [','] (parts.modifiers.map Modifier.write))

def write (parts : RuleParts) : List Char :=
  (if parts.allow then ['@','@'] else []) ++ (parts.target.write ++ parts.joined?.elim [] ('$' :: ·))

/-- Each modifier comes once. Behind a regular expression there has to be one, and then no slash with a
dollar sign behind it, since the last of these is where the modifiers begin. -/
structure Writable (parts : RuleParts) : Prop where
  target : parts.target.Writable
  modifiers : ∀ modifier ∈ parts.modifiers, modifier.Writable
  distinct : (parts.modifiers.map Modifier.isTags).Nodup
  closed : ∀ source, parts.target = .regex source → parts.modifiers ≠ [] ∧
    ∀ clauses, .tags clauses ∈ parts.modifiers → ∀ clause ∈ clauses, ¬ ['/','$'] <:+: clause.name.toList

def Admits (parts : RuleParts) (client : List String) : Prop :=
  ∀ clauses, .tags clauses ∈ parts.modifiers → TagClause.Admit clauses client

structure Gives (parts : RuleParts) (listId : Int) (rule : NetworkRule) : Prop where
  text : rule.text = String.ofList parts.write
  listId : rule.listId = listId
  allow : rule.allow = parts.allow
  important : rule.important = true ↔ .important ∈ parts.modifiers
  tagged : rule.tags.isSome = true ↔ ∃ clauses, .tags clauses ∈ parts.modifiers
  pattern : parts.target.Means rule.pattern
  covers_iff : ∀ host client,
    rule.covers host client = true ↔ rule.pattern.covers host = true ∧ parts.Admits client

end RuleParts

end DnsPolicy
