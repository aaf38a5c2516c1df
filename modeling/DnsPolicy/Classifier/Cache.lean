import DnsPolicy.Decision
import Std.Data.TreeMap.Basic

/-! Decisions of a classifier that are kept for the next time, and counts of its lookups. -/
namespace DnsPolicy

structure VerdictCache where
  capacity : Nat
  verdicts : Std.TreeMap String Decision := {}

namespace VerdictCache

def entrySize : Nat := 256

/-- A cache of that many bytes, unless not even one decision has room. -/
def ofSize? (bytes : UInt32) : Option VerdictCache :=
  let capacity := bytes.toNat / entrySize
  if capacity = 0 then none else some { capacity }

def get? (cache : VerdictCache) (host : String) : Option Decision := cache.verdicts.get? host

def insert (cache : VerdictCache) (host : String) (verdict : Decision) : VerdictCache :=
  { cache with verdicts := cache.verdicts.insert host verdict }

def size (cache : VerdictCache) : Nat := cache.verdicts.size

def clear (cache : VerdictCache) : VerdictCache := { cache with verdicts := {} }

end VerdictCache

structure LookupCounts where
  requests : Nat := 0
  cacheHits : Nat := 0
  pending : Nat := 0
  pendingMax : Nat := 0
deriving DecidableEq, Repr

namespace LookupCounts

def request (counts : LookupCounts) : LookupCounts :=
  { counts with requests := counts.requests + 1 }

def hit (counts : LookupCounts) : LookupCounts := { counts with cacheHits := counts.cacheHits + 1 }

def start (counts : LookupCounts) : LookupCounts :=
  { counts with
    pending := counts.pending + 1
    pendingMax := max counts.pendingMax (counts.pending + 1) }

def finish (counts : LookupCounts) : LookupCounts := { counts with pending := counts.pending - 1 }

/-- Lookups that are under way stay counted. -/
def reset (counts : LookupCounts) : LookupCounts :=
  { pending := counts.pending, pendingMax := counts.pending }

end LookupCounts

end DnsPolicy
