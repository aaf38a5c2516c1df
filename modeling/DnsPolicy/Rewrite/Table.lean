import DnsPolicy.Decision
import DnsPolicy.Rewrite

/-! Tables of rewrites, and the way of a name through them. -/
namespace DnsPolicy

structure RewriteTable where
  entries : List Rewrite := []
deriving DecidableEq, Repr, Inhabited

namespace RewriteTable

def ofList (entries : List Rewrite) : Except RewriteFault RewriteTable :=
  (entries.mapM Rewrite.normalize).map RewriteTable.mk

/-- Appends a normal form. Gives back whether it was not there before. -/
def add (table : RewriteTable) (rewrite : Rewrite) : Except RewriteFault (Bool × RewriteTable) :=
  rewrite.normalize.map fun entry =>
    if table.entries.contains entry then (false,table)
    else (true,⟨table.entries ++ [entry]⟩)

def remove (table : RewriteTable) (rewrite : Rewrite) :
    Except RewriteFault (Bool × RewriteTable) :=
  rewrite.normalize.map fun entry =>
    let left := table.entries.filter (· != entry)
    (left.length != table.entries.length,⟨left⟩)

/-- Entries for the host itself come before wildcards, and longer wildcards before shorter ones. -/
def nearest (found : List Rewrite) : List Rewrite :=
  if found.any (fun entry => !entry.isWildcard) then
    found.filter fun entry => !entry.isWildcard
  else
    let longest := (found.map fun entry => entry.domain.length).foldl max 0
    found.filter fun entry => entry.domain.length == longest

def namesFirst (found : List Rewrite) : List Rewrite :=
  found.filter (fun entry => entry.recordType == .cname)
    ++ found.filter (fun entry => entry.recordType != .cname)

/-- The entries that hold for a host in lower case. An exception leaves none. -/
def find (table : RewriteTable) (host : String) : List Rewrite :=
  let found := nearest (table.entries.filter fun entry => entry.covers host)
  if found.any Rewrite.isException then [] else namesFirst found

private theorem mem_of_mem_nearest {found : List Rewrite} {entry : Rewrite}
    (member : entry ∈ nearest found) : entry ∈ found := by
  unfold nearest at member
  split at member
  · exact (List.mem_filter.mp member).1
  · exact (List.mem_filter.mp member).1

theorem mem_namesFirst {found : List Rewrite} {entry : Rewrite} :
    entry ∈ namesFirst found ↔ entry ∈ found := by
  by_cases named : entry.recordType = .cname <;> simp [namesFirst,named]

theorem mem_of_mem_find {table : RewriteTable} {host : String} {entry : Rewrite}
    (member : entry ∈ table.find host) : entry ∈ table.entries := by
  simp only [find] at member
  split at member
  · contradiction
  · exact (List.mem_filter.mp (mem_of_mem_nearest (mem_namesFirst.mp member))).1

def next? (table : RewriteTable) (host : String) : Option String :=
  match table.find host with
  | [] => none
  | entry :: _ => if entry.recordType = .cname then some entry.answer else none

theorem exists_of_next? {table : RewriteTable} {host name : String}
    (next : table.next? host = some name) :
    ∃ entry ∈ table.entries, entry.recordType = .cname ∧ entry.answer = name := by
  unfold next? at next
  split at next
  · contradiction
  · next entry rest found =>
    split at next
    · next named =>
      have member : entry ∈ table.find host := by simp [found]
      exact ⟨entry,mem_of_mem_find member,named,Option.some.inj next⟩
    · contradiction

def unseen (table : RewriteTable) (seen : List String) : List Rewrite :=
  table.entries.filter fun entry => !seen.contains entry.answer

private theorem unseen_length_lt {table : RewriteTable} {seen : List String} {host name : String}
    (next : table.next? host = some name) (fresh : ¬ seen.contains name) :
    (table.unseen (name :: seen)).length < (table.unseen seen).length := by
  obtain ⟨entry,member,_,rfl⟩ := exists_of_next? next
  have fewer : table.unseen (entry.answer :: seen) =
      (table.unseen seen).filter fun other => other.answer != entry.answer := by
    unfold unseen
    rw [List.filter_filter]
    apply List.filter_congr
    intro other _
    by_cases same : other.answer = entry.answer <;> simp [same]
  rw [fewer]
  apply List.length_filter_lt_length_iff_exists.mpr
  exact ⟨entry,List.mem_filter.mpr ⟨member,by simpa using fresh⟩,by simp⟩

structure Trail where
  canonical : String
  found : List Rewrite
  tried : List String := []

def Trail.through (rest : Trail) (name : String) : Trail := { rest with tried := name :: rest.tried }

/-- Follows names until none is left to follow, or one comes up again. `seen` are the names on the
way and `canonical` is the last of them. -/
def follow (table : RewriteTable) (seen : List String) (canonical host : String) : Trail :=
  match _next : table.next? host with
  | none => { canonical, found := table.find host }
  | some name =>
    if seen.contains name then { canonical, found := [], tried := [name] }
    else (follow table (name :: seen) name name).through name
termination_by (table.unseen seen).length
decreasing_by exact unseen_length_lt _next ‹_›

/-- The addresses of the entries that have the queried type. -/
def addresses (qtype : RecordType) (found : List Rewrite) : List Address :=
  (found.filter fun entry => entry.recordType == qtype).filterMap Rewrite.address?

def resolve (table : RewriteTable) (host : String) (qtype : RecordType) : Decision :=
  if (table.find host).isEmpty then .none
  else
    let trail := table.follow [] "" host
    { Decision.ofReason .rewritten with
      canonicalName := trail.canonical, addresses := addresses qtype trail.found }

end RewriteTable

end DnsPolicy
