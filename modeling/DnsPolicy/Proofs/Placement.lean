import DnsPolicy.Proofs.Lookup
import Mathlib.Data.List.Nodup

/-! Where the rules of an index stand, after any number of them was added: a network rule in one bucket,
which is that of its own pattern, and a host rule once under each of its names. So whatever place is
looked up, there is a rule at it. -/
namespace DnsPolicy
open Std

namespace Buckets

variable {buckets : Buckets} {name : String} {place : Nat}

/-- The places in all buckets, one bucket after the other. -/
def places (buckets : Buckets) : List Nat := buckets.toList.flatMap fun entry => entry.2.toList

private theorem mem_toList_iff {bucket : Array Nat} :
    (name,bucket) ∈ buckets.toList ↔ buckets.get? name = some bucket := by
  rw [TreeMap.mem_toList_iff_getElem?_eq_some,TreeMap.get?_eq_getElem?]

private theorem mem_find_iff :
    place ∈ buckets.find name ↔ ∃ bucket, buckets.get? name = some bucket ∧ place ∈ bucket := by
  rw [find,TreeMap.getD_eq_getD_getElem?,← TreeMap.get?_eq_getElem?]
  cases buckets.get? name <;> simp

private theorem mem_places_iff : place ∈ buckets.places ↔ ∃ name, place ∈ buckets.find name := by
  simp only [places,List.mem_flatMap,Prod.exists,mem_toList_iff,mem_find_iff,Array.mem_toList_iff]

private theorem nodup_places (each : ∀ name, (buckets.find name).toList.Nodup)
    (apart : ∀ place name other, place ∈ buckets.find name → place ∈ buckets.find other → name = other) :
    buckets.places.Nodup := by
  rw [places,List.nodup_flatMap]
  constructor
  · rintro ⟨name,bucket⟩ member
    have found := find_of_get? (mem_toList_iff.mp member)
    exact found ▸ each name
  · refine TreeMap.distinct_keys_toList.imp_of_mem ?_
    rintro ⟨name,bucket⟩ ⟨other,another⟩ member also distinct place first second
    have found := find_of_get? (mem_toList_iff.mp member)
    have refound := find_of_get? (mem_toList_iff.mp also)
    rw [Array.mem_toList_iff] at first second
    have same := apart place name other (found ▸ first) (refound ▸ second)
    exact distinct (Std.compare_eq_iff_eq.mpr same)

end Buckets

private theorem mem_findIdxs_iff {α : Type} {items : Array α} {test : α → Bool} {place : Nat} :
    place ∈ items.toList.findIdxs test ↔ ∃ item, items[place]? = some item ∧ test item = true := by
  rw [List.mem_findIdxs_iff_exists_getElem_pos,← Array.getElem?_toList]
  simp only [List.getElem?_eq_some_iff]
  constructor
  · rintro ⟨bound,passed⟩
    exact ⟨_,⟨bound,rfl⟩,passed⟩
  · rintro ⟨item,⟨bound,rfl⟩,passed⟩
    exact ⟨bound,passed⟩

namespace Index

variable {index : Index} {rules : List Rule} {place : Nat}

/-- The places of network rules in all parts of the index. -/
def networkPlaces (index : Index) : List Nat :=
  index.domains.places ++ index.exacts.places ++ index.searches.toList

private theorem mem_networkPlaces_iff : place ∈ index.networkPlaces ↔
    ∃ shelf, place ∈ index.shelf shelf := by
  simp only [networkPlaces,List.mem_append,Buckets.mem_places_iff]
  constructor
  · rintro ((⟨name,placed⟩ | ⟨name,placed⟩) | placed)
    · exact ⟨.domain name,Array.mem_toList_iff.mpr placed⟩
    · exact ⟨.exact name,Array.mem_toList_iff.mpr placed⟩
    · exact ⟨.searches,placed⟩
  · rintro ⟨shelf,placed⟩
    cases shelf with
    | domain name => exact .inl (.inl ⟨name,Array.mem_toList_iff.mp placed⟩)
    | exact name => exact .inl (.inr ⟨name,Array.mem_toList_iff.mp placed⟩)
    | searches => exact .inr placed

private theorem nodup_networkPlaces (each : ∀ shelf, (index.shelf shelf).Nodup)
    (apart : ∀ place shelf other, place ∈ index.shelf shelf → place ∈ index.shelf other → shelf = other) :
    index.networkPlaces.Nodup := by
  have domains : index.domains.places.Nodup := by
    refine Buckets.nodup_places (fun name => each (.domain name)) fun place name other first second => ?_
    exact Shelf.domain.inj (apart place _ _ (Array.mem_toList_iff.mpr first) (Array.mem_toList_iff.mpr second))
  have exacts : index.exacts.places.Nodup := by
    refine Buckets.nodup_places (fun name => each (.exact name)) fun place name other first second => ?_
    exact Shelf.exact.inj (apart place _ _ (Array.mem_toList_iff.mpr first) (Array.mem_toList_iff.mpr second))
  have across : index.domains.places.Disjoint index.exacts.places := by
    intro place first second
    obtain ⟨name,first⟩ := Buckets.mem_places_iff.mp first
    obtain ⟨other,second⟩ := Buckets.mem_places_iff.mp second
    have same := apart place (.domain name) (.exact other) (Array.mem_toList_iff.mpr first)
      (Array.mem_toList_iff.mpr second)
    contradiction
  refine (domains.append exacts across).append (each .searches) ?_
  intro place named searched
  rcases List.mem_append.mp named with first | first
  · obtain ⟨name,first⟩ := Buckets.mem_places_iff.mp first
    have same := apart place (.domain name) .searches (Array.mem_toList_iff.mpr first) searched
    contradiction
  · obtain ⟨name,first⟩ := Buckets.mem_places_iff.mp first
    have same := apart place (.exact name) .searches (Array.mem_toList_iff.mpr first) searched
    contradiction

/-- Each rule is found where it belongs, and nowhere else. -/
structure Placed (index : Index) : Prop where
  once : index.networkPlaces.Perm (List.range index.networkRules.size)
  own : ∀ shelf (place : Nat), place ∈ index.shelf shelf ↔
    ∃ rule, index.networkRules[place]? = some rule ∧ rule.pattern.shelf = shelf
  named : ∀ name, (∃ places, index.names.get? name = some places) ↔
    ∃ rule ∈ index.hostRules, name ∈ rule.hostnames
  bound : ∀ name places, index.names.get? name = some places → places.toList.Pairwise (· < ·) ∧
    ∀ place, place ∈ places ↔ ∃ rule, index.hostRules[place]? = some rule ∧ name ∈ rule.hostnames
  full : index.domains.NoneEmpty ∧ index.exacts.NoneEmpty ∧ index.names.NoneEmpty
  candidates : ∀ host, ∀ place ∈ index.candidates host, place < index.networkRules.size
  names : ∀ name places, index.names.get? name = some places →
    ∀ place ∈ places, place < index.hostRules.size

private theorem Holds.mem_shelf_iff (holds : index.Holds rules) {shelf : Shelf} :
    place ∈ index.shelf shelf ↔
      ∃ rule, index.networkRules[place]? = some rule ∧ rule.pattern.shelf = shelf := by
  rw [holds.shelves,← holds.networkRules,mem_findIdxs_iff]
  simp only [decide_eq_true_eq]

private theorem Holds.mem_names_iff (holds : index.Holds rules) {name : String} :
    place ∈ index.names.find name ↔
      ∃ rule, index.hostRules[place]? = some rule ∧ name ∈ rule.hostnames := by
  rw [← Array.mem_toList_iff,holds.names,← holds.hostRules,mem_findIdxs_iff]
  simp only [decide_eq_true_eq]

private theorem Holds.lt_of_mem_shelf (holds : index.Holds rules) {shelf : Shelf}
    (placed : place ∈ index.shelf shelf) : place < index.networkRules.size := by
  obtain ⟨rule,stored,_⟩ := holds.mem_shelf_iff.mp placed
  exact (Array.getElem?_eq_some_iff.mp stored).1

private theorem Holds.networkPlaces_perm (holds : index.Holds rules) :
    index.networkPlaces.Perm (List.range index.networkRules.size) := by
  have each : ∀ shelf, (index.shelf shelf).Nodup := by
    intro shelf
    rw [holds.shelves]
    exact List.nodup_findIdxs
  have apart : ∀ place shelf other, place ∈ index.shelf shelf → place ∈ index.shelf other → shelf = other := by
    intro place shelf other first second
    obtain ⟨rule,stored,rfl⟩ := holds.mem_shelf_iff.mp first
    obtain ⟨another,also,rfl⟩ := holds.mem_shelf_iff.mp second
    rw [Option.some.inj (stored.symm.trans also)]
  rw [List.perm_ext_iff_of_nodup (nodup_networkPlaces each apart) List.nodup_range]
  intro place
  rw [mem_networkPlaces_iff,List.mem_range]
  constructor
  · rintro ⟨shelf,placed⟩
    exact holds.lt_of_mem_shelf placed
  · intro inside
    exact ⟨_,holds.mem_shelf_iff.mpr ⟨_,Array.getElem?_eq_getElem inside,rfl⟩⟩

private theorem Holds.exists_names_iff (holds : index.Holds rules) {name : String} :
    (∃ places, index.names.get? name = some places) ↔ ∃ rule ∈ index.hostRules, name ∈ rule.hostnames := by
  constructor
  · rintro ⟨places,found⟩
    obtain ⟨place,member⟩ := Array.exists_mem_of_ne_empty _ (holds.namesFull name places found)
    obtain ⟨rule,stored,listed⟩ := holds.mem_names_iff.mp (Buckets.mem_find_iff.mpr ⟨places,found,member⟩)
    exact ⟨rule,Array.mem_of_getElem? stored,listed⟩
  · rintro ⟨rule,member,listed⟩
    obtain ⟨place,stored⟩ := Array.mem_iff_getElem?.mp member
    obtain ⟨places,found,_⟩ := Buckets.mem_find_iff.mp (holds.mem_names_iff.mpr ⟨rule,stored,listed⟩)
    exact ⟨places,found⟩

private theorem Holds.placed (holds : index.Holds rules) : index.Placed where
  once := holds.networkPlaces_perm
  own _ _ := holds.mem_shelf_iff
  named name := holds.exists_names_iff
  bound name places found := by
    have bucket := Buckets.find_of_get? found
    constructor
    · rw [← bucket,holds.names]
      exact List.pairwise_findIdxs
    · intro place
      rw [← bucket]
      exact holds.mem_names_iff
  full := ⟨holds.domainsFull,holds.exactsFull,holds.namesFull⟩
  candidates host place tried := by
    rcases mem_candidates_iff.mp tried with placed | ⟨name,_,placed⟩ | placed
    · exact holds.lt_of_mem_shelf placed
    · exact holds.lt_of_mem_shelf placed
    · exact holds.lt_of_mem_shelf placed
  names name places found place member := by
    obtain ⟨rule,stored,_⟩ := holds.mem_names_iff.mp (Buckets.mem_find_iff.mpr ⟨places,found,member⟩)
    exact (Array.getElem?_eq_some_iff.mp stored).1

end Index

/-- While the rules on the lines of an accepted rule set are read one after the other, the index holds
those read so far, each in its place, and so it does at the end. -/
theorem Ruleset.places_while_built {sources : List ListSource} {ruleset : Ruleset}
    (built : Ruleset.build sources = .ok ruleset) :
    ruleset.index.Placed ∧ ∀ read rest, Scan.rulesOn ruleset.lists = read ++ rest →
      (Index.ofRules read).Placed ∧ rest.foldl Index.add (.ofRules read) = ruleset.index ∧
        (Index.ofRules read).networkRules.toList = Scan.networkRules read ∧
        (Index.ofRules read).hostRules.toList = Scan.hostRules read := by
  have indexed := (Ruleset.build_eq_ok built).2
  refine ⟨indexed ▸ (Index.holds_ofRules _).placed,fun read rest lines => ?_⟩
  have holds := Index.holds_ofRules read
  refine ⟨holds.placed,?_,holds.networkRules,holds.hostRules⟩
  rw [indexed,lines,Index.ofRules,Index.ofRules,List.foldl_append]

/-- A name that is on one line twice and on a later line again, between network rules of each kind. -/
theorem Ruleset.places_while_built_repeated :
    let sources : List ListSource :=
      [{ id := 0, text := "::1 a.b c.d a.b\n||x.y^\n/re/\n0.0.0.0 A.B.\n|a.b^\nx.y" }]
    ∃ ruleset, Ruleset.build sources = .ok ruleset ∧ (ruleset.index.names.find "a.b").toList = [0,1] ∧
      (ruleset.index.domains.find "x.y").toList = [0,3] ∧ ruleset.index.Placed := by
  intro sources
  obtain ⟨ruleset,built⟩ := exists_of_isOk (by decide +kernel : (Ruleset.build sources).isOk = true)
  obtain ⟨placed,_⟩ := places_while_built built
  have buckets : (Ruleset.build sources).toOption.map (fun ruleset =>
      ((ruleset.index.names.find "a.b").toList,(ruleset.index.domains.find "x.y").toList)) =
        some ([0,1],[0,3]) := by decide +kernel
  rw [built] at buckets
  obtain ⟨names,domains⟩ := Prod.mk.inj (Option.some.inj buckets)
  exact ⟨ruleset,built,names,domains,placed⟩

end DnsPolicy
