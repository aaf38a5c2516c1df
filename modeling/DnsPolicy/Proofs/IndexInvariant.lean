import DnsPolicy.Ruleset.Index
import DnsPolicy.Ruleset.Scan
import Mathlib.Data.List.Basic
import Mathlib.Data.List.Induction

/-! What an index holds after any number of rules: under each name the places of the rules about it,
in increasing order, and nothing under any other name. -/
namespace DnsPolicy
open Std

namespace Buckets

/-- No name has an empty bucket. -/
def NoneEmpty (buckets : Buckets) : Prop :=
  ∀ name bucket, buckets.get? name = some bucket → bucket ≠ #[]

private theorem noneEmpty_empty : NoneEmpty {} := by
  intro name bucket found
  simp at found

@[simp] theorem find_empty (name : String) : find {} name = #[] := by
  simp [find]

private theorem find_insert (buckets : Buckets) (name other : String) (bucket : Array Nat) :
    find (TreeMap.insert buckets name bucket) other =
      if name = other then bucket else buckets.find other := by
  simp [find,TreeMap.getD_insert]

theorem get?_eq_none_iff {buckets : Buckets} (full : NoneEmpty buckets) {name : String} :
    buckets.get? name = none ↔ buckets.find name = #[] := by
  rw [find,TreeMap.getD_eq_getD_getElem?,← TreeMap.get?_eq_getElem?]
  cases found : buckets.get? name with
  | none => simp
  | some bucket => simpa using full name bucket found

theorem find_of_get? {buckets : Buckets} {name : String} {bucket : Array Nat}
    (found : buckets.get? name = some bucket) : buckets.find name = bucket := by
  rw [find,TreeMap.getD_eq_getD_getElem?,← TreeMap.get?_eq_getElem?,found]
  rfl

@[simp] theorem find_push (buckets : Buckets) (name : String) (place : Nat) (other : String) :
    ((buckets.push name place).find other).toList =
      (buckets.find other).toList ++ if name = other then [place] else [] := by
  rw [push,find_insert]
  split
  next same => simp [same]
  next => simp

private theorem push_noneEmpty {buckets : Buckets} (full : NoneEmpty buckets) (name : String)
    (place : Nat) : NoneEmpty (buckets.push name place) := by
  intro other bucket found
  rw [push,TreeMap.get?_eq_getElem?,TreeMap.getElem?_insert] at found
  split at found
  · rw [← Option.some.inj found]
    simp
  · exact full other bucket found

private theorem pushOnce_noneEmpty {buckets : Buckets} (full : NoneEmpty buckets) (name : String)
    (place : Nat) : NoneEmpty (buckets.pushOnce name place) := by
  rw [pushOnce]
  split
  · exact full
  · exact push_noneEmpty full name place

private theorem foldl_pushOnce_noneEmpty {buckets : Buckets} (full : NoneEmpty buckets)
    (names : List String)
    (place : Nat) : NoneEmpty (names.foldl (fun buckets name => buckets.pushOnce name place) buckets) := by
  induction names generalizing buckets with
  | nil => exact full
  | cons name names ih => exact ih (pushOnce_noneEmpty full name place)

/-- A place that is put under several names stands once under each, however often a name is repeated. -/
theorem find_foldl_pushOnce {buckets : Buckets} {place : Nat}
    (fresh : ∀ name, place ∉ buckets.find name) (names : List String) (other : String) :
    ((names.foldl (fun buckets name => buckets.pushOnce name place) buckets).find other).toList =
      (buckets.find other).toList ++ if other ∈ names then [place] else [] := by
  -- From the end of the names: only the last push decides whether the place is there already.
  induction names using List.reverseRecOn generalizing other with
  | nil => simp
  | append_singleton names name ih =>
    rw [List.foldl_append,List.foldl_cons,List.foldl_nil,pushOnce]
    by_cases known : name ∈ names
    · have last : ((names.foldl (fun buckets name => buckets.pushOnce name place) buckets).find
          name).back? = some place := by
        rw [← Array.getLast?_toList,ih name]
        simp [known]
      rw [if_pos last,ih other]
      by_cases same : other = name
      · simp [same,known]
      · simp [same]
    · have absent : place ∉ (names.foldl (fun buckets name => buckets.pushOnce name place) buckets).find
          name := by
        rw [← Array.mem_toList_iff,ih name]
        simpa [known] using fresh name
      rw [if_neg fun last => absent (Array.mem_of_back? last),find_push,ih other]
      by_cases same : other = name
      · simp [same,known]
      · simp [same,Ne.symm same]

end Buckets

/-- The part of an index where the place of a network rule stands. -/
inductive Shelf where
  | domain (name : String)
  | exact (name : String)
  | searches
deriving DecidableEq

def Pattern.shelf : Pattern → Shelf
  | .domain name => .domain name
  | .exact name => .exact name
  | .search _ => .searches

namespace Index

def shelf (index : Index) : Shelf → List Nat
  | .domain name => (index.domains.find name).toList
  | .exact name => (index.exacts.find name).toList
  | .searches => index.searches.toList

/-- The index is one of these rules and no others. -/
structure Holds (index : Index) (rules : List Rule) : Prop where
  networkRules : index.networkRules.toList = Scan.networkRules rules
  hostRules : index.hostRules.toList = Scan.hostRules rules
  shelves : ∀ shelf, index.shelf shelf =
    (Scan.networkRules rules).findIdxs fun rule => rule.pattern.shelf = shelf
  names : ∀ name, (index.names.find name).toList =
    (Scan.hostRules rules).findIdxs fun rule => name ∈ rule.hostnames
  domainsFull : index.domains.NoneEmpty
  exactsFull : index.exacts.NoneEmpty
  namesFull : index.names.NoneEmpty

private theorem holds_empty : Holds {} [] where
  networkRules := rfl
  hostRules := rfl
  shelves shelf := by cases shelf <;> simp [shelf,Scan.networkRules]
  names name := by simp [Scan.hostRules]
  domainsFull := Buckets.noneEmpty_empty
  exactsFull := Buckets.noneEmpty_empty
  namesFull := Buckets.noneEmpty_empty

private theorem networkRules_append (rules : List Rule) (rule : Rule) :
    Scan.networkRules (rules ++ [rule]) =
      Scan.networkRules rules ++ match rule with | .network rule => [rule] | .host _ => [] := by
  cases rule <;> simp [Scan.networkRules]

private theorem hostRules_append (rules : List Rule) (rule : Rule) :
    Scan.hostRules (rules ++ [rule]) =
      Scan.hostRules rules ++ match rule with | .network _ => [] | .host rule => [rule] := by
  cases rule <;> simp [Scan.hostRules]

private theorem Holds.fresh_name {index : Index} {rules : List Rule} (holds : index.Holds rules)
    (name : String) : index.hostRules.size ∉ index.names.find name := by
  rw [← Array.mem_toList_iff,holds.names,← Array.length_toList,holds.hostRules]
  simp

/-- A new network rule goes to its own shelf, and the others stay as they are. -/
theorem shelf_addNetwork (index : Index) (rule : NetworkRule) (shelf : Shelf) :
    (index.addNetwork rule).shelf shelf =
      index.shelf shelf ++ if rule.pattern.shelf = shelf then [index.networkRules.size] else [] := by
  unfold addNetwork
  cases pattern : rule.pattern with
  | domain name => cases shelf <;> simp [Index.shelf,Pattern.shelf]
  | exact name => cases shelf <;> simp [Index.shelf,Pattern.shelf]
  | search regex => cases shelf <;> simp [Index.shelf,Pattern.shelf]

private theorem holds_addNetwork {index : Index} {rules : List Rule} (holds : index.Holds rules)
    (rule : NetworkRule) : (index.addNetwork rule).Holds (rules ++ [.network rule]) where
  networkRules := by
    rw [networkRules_append,← holds.networkRules]
    unfold addNetwork
    split <;> simp
  hostRules := by
    rw [hostRules_append,← holds.hostRules]
    unfold addNetwork
    split <;> simp
  shelves shelf := by
    rw [shelf_addNetwork,networkRules_append,List.findIdxs_append,holds.shelves,
      ← holds.networkRules]
    simp
  names name := by
    rw [hostRules_append,List.append_nil,← holds.names]
    unfold addNetwork
    split <;> rfl
  domainsFull := by
    unfold addNetwork
    split
    · exact Buckets.push_noneEmpty holds.domainsFull _ _
    · exact holds.domainsFull
    · exact holds.domainsFull
  exactsFull := by
    unfold addNetwork
    split
    · exact holds.exactsFull
    · exact Buckets.push_noneEmpty holds.exactsFull _ _
    · exact holds.exactsFull
  namesFull := by
    unfold addNetwork
    split <;> exact holds.namesFull

private theorem holds_addHost {index : Index} {rules : List Rule} (holds : index.Holds rules)
    (rule : HostRule) : (index.addHost rule).Holds (rules ++ [.host rule]) where
  networkRules := by
    rw [networkRules_append,← holds.networkRules]
    simp [addHost]
  hostRules := by
    rw [hostRules_append,← holds.hostRules]
    simp [addHost]
  shelves shelf := by
    rw [networkRules_append,List.append_nil,← holds.shelves]
    cases shelf <;> rfl
  names name := by
    have pushed := Buckets.find_foldl_pushOnce holds.fresh_name rule.hostnames name
    rw [hostRules_append,List.findIdxs_append,← holds.names,← holds.hostRules,
      List.findIdxs_singleton]
    simpa [addHost] using pushed
  domainsFull := holds.domainsFull
  exactsFull := holds.exactsFull
  namesFull := Buckets.foldl_pushOnce_noneEmpty holds.namesFull _ _

private theorem holds_add {index : Index} {rules : List Rule} (holds : index.Holds rules)
    (rule : Rule) : (index.add rule).Holds (rules ++ [rule]) := by
  cases rule with
  | network rule => exact holds_addNetwork holds rule
  | host rule => exact holds_addHost holds rule

/-- The invariant holds at every point of the construction, and so at its end. -/
theorem holds_ofRules (rules : List Rule) : (ofRules rules).Holds rules := by
  induction rules using List.reverseRecOn with
  | nil => exact holds_empty
  | append_singleton rules rule ih =>
    rw [ofRules,List.foldl_append]
    exact holds_add ih rule

end Index

end DnsPolicy
