import DnsPolicy.Ruleset.Hit
import Std.Data.TreeMap.Basic

/-! Rules found by name. Plain patterns stand in buckets under their names, and only expressions are
tried one by one. -/
namespace DnsPolicy

abbrev Buckets := Std.TreeMap String (Array Nat)

namespace Buckets

def find (buckets : Buckets) (name : String) : Array Nat := buckets.getD name #[]

def push (buckets : Buckets) (name : String) (place : Nat) : Buckets :=
  buckets.insert name ((buckets.find name).push place)

/-- A name that stands twice on one line gets its place once. -/
def pushOnce (buckets : Buckets) (name : String) (place : Nat) : Buckets :=
  if (buckets.find name).back? = some place then buckets else buckets.push name place

end Buckets

structure Index where
  networkRules : Array NetworkRule := #[]
  hostRules : Array HostRule := #[]
  domains : Buckets := {}
  exacts : Buckets := {}
  searches : Array Nat := #[]
  names : Buckets := {}

namespace Index

def addNetwork (index : Index) (rule : NetworkRule) : Index :=
  let place := index.networkRules.size
  let index := { index with networkRules := index.networkRules.push rule }
  match rule.pattern with
  | .domain name => { index with domains := index.domains.push name place }
  | .exact name => { index with exacts := index.exacts.push name place }
  | .search _ => { index with searches := index.searches.push place }

def addHost (index : Index) (rule : HostRule) : Index :=
  let place := index.hostRules.size
  { index with
    hostRules := index.hostRules.push rule
    names := rule.hostnames.foldl (fun names name => names.pushOnce name place) index.names }

def add (index : Index) : Rule → Index
  | .network rule => index.addNetwork rule
  | .host rule => index.addHost rule

def ofRules (rules : List Rule) : Index := rules.foldl add {}

def candidates (index : Index) (host : String) : List Nat :=
  (index.exacts.find host).toList
    ++ (Hostname.ancestry host.toList).flatMap
        (fun name => (index.domains.find (String.ofList name)).toList)
    ++ index.searches.toList

/-- `place` is to be taken rather than `other`: for a higher priority, or the same and an earlier
place. -/
def precedes (a b : Nat × NetworkRule) : Bool :=
  b.2.priority < a.2.priority || (a.2.priority == b.2.priority && a.1 < b.1)

def first (a b : Nat × NetworkRule) : Nat × NetworkRule := if precedes b a then b else a

def networkRule? (index : Index) (host : String) (client : List String) : Option NetworkRule :=
  let found := (index.candidates host).filterMap fun place =>
    (index.networkRules[place]?).bind fun rule =>
      if rule.covers host client then some (place,rule) else none
  match found with
  | [] => none
  | rule :: more => some (more.foldl first rule).2

def lookup (index : Index) (host : String) (client : List String) : Option Hit :=
  if host.isEmpty then none
  else
    match index.networkRule? host client with
    | some rule => some (.network rule)
    | none =>
      match index.names.get? host with
      | none => none
      | some places => some (.ofHostRules (places.toList.filterMap (index.hostRules[·]?)))

end Index

end DnsPolicy
