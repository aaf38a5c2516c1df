import DnsPolicy.Rewrite.Table
import Mathlib.Data.List.Infix
import Mathlib.Data.List.MinMax

/-! The entries that hold for a host are those of one domain, the nearest to it. Of the order of a
table only the order within each domain counts. -/
namespace DnsPolicy

namespace Rewrite

/-- The domain is a wildcard, and the host ends in what stands behind its asterisk, with something in
front of that. -/
def StandsAbove (domain host : String) : Prop :=
  ∃ name front, domain.toList = '*' :: '.' :: name ∧ host.toList = front ++ '.' :: name ∧ front ≠ []

variable {rewrite : Rewrite} {domain other host : String}

private theorem isWildcard_iff : rewrite.isWildcard = true ↔
    ∃ name, rewrite.domain.toList = '*' :: '.' :: name := by
  rw [isWildcard,List.isPrefixOf_iff_prefix]
  exact exists_congr fun name => eq_comm

private theorem isWildcard_of_standsAbove (above : StandsAbove rewrite.domain host) :
    rewrite.isWildcard = true := by
  obtain ⟨name,_,written,_,_⟩ := above
  exact isWildcard_iff.mpr ⟨name,written⟩

private theorem covers_iff_standsAbove (wildcard : rewrite.isWildcard = true) :
    rewrite.covers host = true ↔ StandsAbove rewrite.domain host := by
  obtain ⟨name,written⟩ := isWildcard_iff.mp wildcard
  simp only [covers,wildcard,if_true,written,List.drop_succ_cons,List.drop_zero,Bool.and_eq_true,
    decide_eq_true_eq,List.isSuffixOf_iff_suffix]
  constructor
  · rintro ⟨shorter,front,joined⟩
    refine ⟨name,front,written,joined.symm,?_⟩
    rintro rfl
    rw [← joined] at shorter
    exact absurd shorter (Nat.lt_irrefl _)
  · rintro ⟨_,front,same,joined,some⟩
    obtain rfl : name = _ := by simpa [written] using same
    have longer := List.length_pos_iff.mpr some
    rw [joined]
    exact ⟨by rw [List.length_append]; omega,front,rfl⟩

private theorem covers_iff_eq (plain : rewrite.isWildcard = false) :
    rewrite.covers host = true ↔ rewrite.domain = host := by
  simp [covers,plain]

/-- Of one length only one wildcard stands above a host. -/
theorem StandsAbove.unique (first : StandsAbove domain host) (second : StandsAbove other host)
    (length : domain.length = other.length) : domain = other := by
  obtain ⟨name,front,written,joined,_⟩ := first
  obtain ⟨name',front',written',joined',_⟩ := second
  rw [← String.length_toList,← String.length_toList,written,written'] at length
  have endings : '.' :: name = '.' :: name' :=
    (List.append_inj' (joined.symm.trans joined') (by simpa using length)).2
  rw [← String.toList_inj,written,written',endings]

end Rewrite

namespace RewriteTable
open Rewrite (StandsAbove)

/-- The entries with this domain, in the order of the table. -/
def entriesFor (table : RewriteTable) (domain : String) : List Rewrite :=
  table.entries.filter fun entry => entry.domain == domain

/-- The domain whose entries hold for a host: the host itself if an entry is for it, and else the longest
wildcard above it. -/
inductive Nearest (table : RewriteTable) (host : String) : String → Prop
  | itself (entry : Rewrite) (member : entry ∈ table.entries) (plain : entry.isWildcard = false)
      (same : entry.domain = host) : Nearest table host host
  | wildcard (entry : Rewrite) (member : entry ∈ table.entries) (above : StandsAbove entry.domain host)
      (unshadowed : ∀ other ∈ table.entries, other.isWildcard = false → other.domain ≠ host)
      (longest : ∀ other ∈ table.entries, StandsAbove other.domain host →
        other.domain.length ≤ entry.domain.length) : Nearest table host entry.domain

variable {table other : RewriteTable} {host domain : String}

@[simp] theorem mem_entriesFor {entry : Rewrite} :
    entry ∈ table.entriesFor domain ↔ entry ∈ table.entries ∧ entry.domain = domain := by
  simp [entriesFor]

private theorem Nearest.unique {next : String} (first : table.Nearest host domain)
    (second : table.Nearest host next) : domain = next := by
  cases first with
  | itself entry member plain same =>
    cases second with
    | itself => rfl
    | wildcard _ _ _ unshadowed => exact absurd same (unshadowed entry member plain)
  | wildcard entry member above unshadowed longest =>
    cases second with
    | itself other listed plain same => exact absurd same (unshadowed other listed plain)
    | wildcard other listed around _ most =>
      exact above.unique around (Nat.le_antisymm (most entry member above) (longest other listed around))

/-! ### The entries of the nearest domain -/

private theorem foldl_max_eq {lengths : List Nat} {most : Nat} (member : most ∈ lengths)
    (bound : ∀ n ∈ lengths, n ≤ most) : lengths.foldl max 0 = most := by
  rw [List.foldl_max,List.max?_eq_some_iff.mpr ⟨member,bound⟩]
  exact Nat.zero_max most

/-- Where no entry is for the host itself, the entries that cover it are the wildcards above it. -/
theorem covers_iff_of_unshadowed
    (unshadowed : ∀ other ∈ table.entries, other.isWildcard = false → other.domain ≠ host)
    {entry : Rewrite} (member : entry ∈ table.entries) :
    entry.covers host = true ↔ StandsAbove entry.domain host := by
  cases wild : entry.isWildcard with
  | true => exact Rewrite.covers_iff_standsAbove wild
  | false =>
    refine iff_of_false ?_ ?_
    · exact fun covers => unshadowed entry member wild ((Rewrite.covers_iff_eq wild).mp covers)
    · exact fun above => absurd (wild.symm.trans (Rewrite.isWildcard_of_standsAbove above)) (by decide)

private theorem nearest_covering (isNearest : table.Nearest host domain) :
    nearest (table.entries.filter fun entry => entry.covers host) = table.entriesFor domain := by
  cases isNearest with
  | itself entry member plain same =>
    have shadows : (table.entries.filter fun entry => entry.covers host).any
        (fun entry => !entry.isWildcard) = true := by
      have covers := (Rewrite.covers_iff_eq plain).mpr same
      exact List.any_eq_true.mpr ⟨entry,List.mem_filter.mpr ⟨member,covers⟩,by rw [plain]; rfl⟩
    rw [nearest,if_pos shadows,List.filter_filter]
    apply List.filter_congr
    intro other _
    cases wild : other.isWildcard with
    | false => simp [Rewrite.covers,wild]
    | true =>
      -- An entry for the host itself is no wildcard, as the host is none.
      have elsewhere : other.domain ≠ host := by
        intro here
        rw [Rewrite.isWildcard,here,← same] at wild
        exact absurd (plain.symm.trans wild) (by decide)
      simp [elsewhere]
  | wildcard entry member above unshadowed longest =>
    have covers_iff {other : Rewrite} (listed : other ∈ table.entries) :
        other.covers host = true ↔ StandsAbove other.domain host := covers_iff_of_unshadowed unshadowed listed
    have alone : ¬ (table.entries.filter fun entry => entry.covers host).any
        (fun entry => !entry.isWildcard) = true := by
      simp only [List.any_eq_true,List.mem_filter,Bool.not_eq_true',not_exists,not_and,and_imp]
      intro other listed covers
      simp [Rewrite.isWildcard_of_standsAbove ((covers_iff listed).mp covers)]
    have most : ((table.entries.filter fun entry => entry.covers host).map
        fun entry => entry.domain.length).foldl max 0 = entry.domain.length := by
      apply foldl_max_eq
      · exact List.mem_map_of_mem (List.mem_filter.mpr ⟨member,(covers_iff member).mpr above⟩)
      · intro n found
        obtain ⟨other,covering,rfl⟩ := List.mem_map.mp found
        obtain ⟨listed,covers⟩ := List.mem_filter.mp covering
        exact longest other listed ((covers_iff listed).mp covers)
    simp only [nearest,if_neg alone,most,List.filter_filter]
    apply List.filter_congr
    intro other listed
    rw [Bool.eq_iff_iff,Bool.and_eq_true,beq_iff_eq,beq_iff_eq,covers_iff listed]
    constructor
    · rintro ⟨length,around⟩
      exact around.unique above length
    · intro same
      rw [same]
      exact ⟨rfl,above⟩

private theorem Nearest.exists_covers (isNearest : table.Nearest host domain) :
    ∃ entry ∈ table.entries, entry.covers host = true := by
  cases isNearest with
  | itself entry member plain same => exact ⟨entry,member,(Rewrite.covers_iff_eq plain).mpr same⟩
  | wildcard entry member above unshadowed _ =>
    exact ⟨entry,member,(covers_iff_of_unshadowed unshadowed member).mpr above⟩

private theorem exists_nearest {entry : Rewrite} (member : entry ∈ table.entries)
    (covers : entry.covers host = true) : ∃ domain, table.Nearest host domain := by
  by_cases itself : ∃ other ∈ table.entries, other.isWildcard = false ∧ other.domain = host
  · obtain ⟨other,listed,plain,same⟩ := itself
    exact ⟨host,.itself other listed plain same⟩
  · have unshadowed : ∀ other ∈ table.entries, other.isWildcard = false → other.domain ≠ host :=
      fun other listed plain same => itself ⟨other,listed,plain,same⟩
    have around : entry ∈ table.entries.filter fun entry => entry.covers host :=
      List.mem_filter.mpr ⟨member,covers⟩
    cases most : (table.entries.filter fun entry => entry.covers host).argmax fun entry => entry.domain.length with
    | none =>
      rw [List.argmax_eq_none.mp most] at around
      contradiction
    | some longest =>
      obtain ⟨listed,covering⟩ := List.mem_filter.mp (List.argmax_mem most)
      refine ⟨longest.domain,.wildcard longest listed ?_ unshadowed ?_⟩
      · exact (covers_iff_of_unshadowed unshadowed listed).mp covering
      · intro other found above
        have covering : other ∈ table.entries.filter fun entry => entry.covers host :=
          List.mem_filter.mpr ⟨found,(covers_iff_of_unshadowed unshadowed found).mpr above⟩
        exact List.le_of_mem_argmax (f := fun entry : Rewrite => entry.domain.length) covering most

theorem find_of_nearest (isNearest : table.Nearest host domain) :
    table.find host = if (table.entriesFor domain).any Rewrite.isException then []
      else namesFirst (table.entriesFor domain) := by
  rw [find,nearest_covering isNearest]

private theorem find_of_not_nearest (far : ∀ domain, ¬ table.Nearest host domain) :
    table.find host = [] := by
  have uncovered : (table.entries.filter fun entry => entry.covers host) = [] := by
    apply List.filter_eq_nil_iff.mpr
    intro entry member covers
    obtain ⟨domain,isNearest⟩ := exists_nearest member covers
    exact far domain isNearest
  rw [find,uncovered]
  rfl

/-! ### Tables with the same entries for each domain -/

private theorem mem_of_entriesFor (same : ∀ domain, other.entriesFor domain = table.entriesFor domain)
    {entry : Rewrite} : entry ∈ other.entries ↔ entry ∈ table.entries := by
  have listed : entry ∈ other.entriesFor entry.domain ↔ entry ∈ table.entriesFor entry.domain := by
    rw [same]
  simpa using listed

/-- Domains that neither table has need no look. -/
theorem entriesFor_eq_of_listed
    (same : ∀ entry ∈ other.entries ++ table.entries,
      other.entriesFor entry.domain = table.entriesFor entry.domain) (domain : String) :
    other.entriesFor domain = table.entriesFor domain := by
  by_cases listed : ∃ entry ∈ other.entries ++ table.entries, entry.domain = domain
  · obtain ⟨entry,member,rfl⟩ := listed
    exact same entry member
  · have unlisted : ∀ entry ∈ other.entries ++ table.entries, ¬ (entry.domain == domain) = true :=
      fun entry member same => listed ⟨entry,member,beq_iff_eq.mp same⟩
    simp only [List.mem_append,or_imp,forall_and] at unlisted
    rw [entriesFor,entriesFor,List.filter_eq_nil_iff.mpr unlisted.1,List.filter_eq_nil_iff.mpr unlisted.2]

private theorem Nearest.of_entriesFor (same : ∀ domain, other.entriesFor domain = table.entriesFor domain)
    (isNearest : table.Nearest host domain) : other.Nearest host domain := by
  have listed {entry : Rewrite} : entry ∈ other.entries ↔ entry ∈ table.entries := mem_of_entriesFor same
  cases isNearest with
  | itself entry member plain same => exact .itself entry (listed.mpr member) plain same
  | wildcard entry member above unshadowed longest =>
    exact .wildcard entry (listed.mpr member) above (fun other found => unshadowed other (listed.mp found))
      fun other found => longest other (listed.mp found)

private theorem find_congr (same : ∀ domain, other.entriesFor domain = table.entriesFor domain)
    (host : String) : other.find host = table.find host := by
  by_cases near : ∃ domain, table.Nearest host domain
  · obtain ⟨domain,isNearest⟩ := near
    rw [find_of_nearest isNearest,find_of_nearest (isNearest.of_entriesFor same),same]
  · have far : ∀ domain, ¬ table.Nearest host domain := not_exists.mp near
    have alsoFar : ∀ domain, ¬ other.Nearest host domain :=
      fun domain isNearest => far domain (isNearest.of_entriesFor fun domain => (same domain).symm)
    rw [find_of_not_nearest far,find_of_not_nearest alsoFar]

private theorem next?_congr (same : ∀ host, other.find host = table.find host) (host : String) :
    other.next? host = table.next? host := by
  rw [next?,next?,same]

variable {seen : List String} {canonical name : String}

theorem follow_of_stopped (stopped : table.next? host = none) :
    table.follow seen canonical host = { canonical, found := table.find host } := by
  rw [follow]
  split <;> simp_all

private theorem follow_of_again (next : table.next? host = some name)
    (again : seen.contains name = true) :
    table.follow seen canonical host = { canonical, found := [], tried := [name] } := by
  rw [follow]
  split <;> simp_all

private theorem follow_of_fresh (next : table.next? host = some name)
    (fresh : ¬ seen.contains name = true) :
    table.follow seen canonical host = (table.follow (name :: seen) name name).through name := by
  rw [follow]
  split <;> simp_all

private theorem follow_congr (same : ∀ host, other.find host = table.find host) (seen : List String)
    (canonical host : String) : other.follow seen canonical host = table.follow seen canonical host := by
  fun_induction table.follow seen canonical host with
  | case1 seen canonical host stopped =>
    rw [follow_of_stopped ((next?_congr same host).trans stopped),same]
  | case2 seen canonical host name next again =>
    rw [follow_of_again ((next?_congr same host).trans next) again]
  | case3 seen canonical host name next fresh ih =>
    rw [follow_of_fresh ((next?_congr same host).trans next) fresh,ih]

private theorem resolve_congr (same : ∀ host, other.find host = table.find host) (host : String)
    (qtype : RecordType) : other.resolve host qtype = table.resolve host qtype := by
  simp only [resolve,same,follow_congr same]

/-- The entries that are found are those of the nearest domain, names first, unless one of them is an
exception. So tables with the same entries for each domain resolve alike, however these are mixed. -/
theorem find_nearest (table : RewriteTable) (host : String) :
    (∀ domain next, table.Nearest host domain → table.Nearest host next → domain = next) ∧
    (∀ domain, table.Nearest host domain →
      (∀ entry ∈ table.find host, entry.domain = domain) ∧
      ((∃ entry ∈ table.entries, entry.domain = domain ∧ entry.answer = entry.domain) →
        table.find host = []) ∧
      ((∀ entry ∈ table.entries, entry.domain = domain → entry.answer ≠ entry.domain) →
        table.find host = (table.entriesFor domain).filter (fun entry => entry.recordType == .cname) ++
          (table.entriesFor domain).filter fun entry => entry.recordType != .cname)) ∧
    ((∀ domain, ¬ table.Nearest host domain) → table.find host = []) ∧
    ∀ other : RewriteTable, (∀ domain, other.entriesFor domain = table.entriesFor domain) →
      other.find host = table.find host ∧
        ∀ qtype, other.resolve host qtype = table.resolve host qtype := by
  refine ⟨fun _ _ => Nearest.unique,?_,find_of_not_nearest,?_⟩
  · intro domain isNearest
    have excepts : (table.entriesFor domain).any Rewrite.isException = true ↔
        ∃ entry ∈ table.entries, entry.domain = domain ∧ entry.answer = entry.domain := by
      simp [Rewrite.isException,and_assoc]
    rw [find_of_nearest isNearest]
    refine ⟨?_,?_,?_⟩
    · intro entry member
      split at member
      · contradiction
      · exact (mem_entriesFor.mp (mem_namesFirst.mp member)).2
    · intro excepted
      rw [if_pos (excepts.mpr excepted)]
    · intro plain
      have kept : ¬ (table.entriesFor domain).any Rewrite.isException = true := by
        rw [excepts]
        rintro ⟨entry,member,same,excepted⟩
        exact plain entry member same excepted
      rw [if_neg kept,namesFirst]
  · intro other same
    exact ⟨find_congr same host,resolve_congr (find_congr same) host⟩

private def lan : RewriteTable :=
  ⟨[⟨"*.example","1.1.1.1"⟩,⟨"*.lan.example","2.2.2.2"⟩,⟨"*.lan.example","nas.example"⟩,
    ⟨"nas.example","3.3.3.3"⟩,⟨"tv.lan.example","tv.lan.example"⟩]⟩

private def lanMixed : RewriteTable :=
  ⟨[⟨"tv.lan.example","tv.lan.example"⟩,⟨"*.lan.example","2.2.2.2"⟩,⟨"nas.example","3.3.3.3"⟩,
    ⟨"*.lan.example","nas.example"⟩,⟨"*.example","1.1.1.1"⟩]⟩

/-- A wildcard below another one, an exception below both, and a host that neither stands above. -/
theorem find_nearest_lan :
    lan.Nearest "pc.lan.example" "*.lan.example" ∧
    lan.find "pc.lan.example" = [⟨"*.lan.example","nas.example"⟩,⟨"*.lan.example","2.2.2.2"⟩] ∧
    lan.find "tv.lan.example" = [] ∧ lan.find "example" = [] ∧
    (∀ domain, lanMixed.entriesFor domain = lan.entriesFor domain) ∧
    ∀ qtype, lanMixed.resolve "pc.lan.example" qtype = lan.resolve "pc.lan.example" qtype := by
  have wildcard : lan.Nearest "pc.lan.example" "*.lan.example" := by
    refine .wildcard ⟨"*.lan.example","2.2.2.2"⟩ (by decide +kernel) ?_ (by decide +kernel) ?_
    · exact ⟨"lan.example".toList,"pc".toList,by decide,by decide,by decide⟩
    · intro other member above
      have short : ∀ other ∈ lan.entries, other.isWildcard = true → other.domain.length ≤ 13 := by
        decide +kernel
      exact short other member (Rewrite.isWildcard_of_standsAbove above)
  have itself : lan.Nearest "tv.lan.example" "tv.lan.example" :=
    .itself ⟨"tv.lan.example","tv.lan.example"⟩ (by decide +kernel) (by decide +kernel) rfl
  have far : ∀ domain, ¬ lan.Nearest "example" domain := by
    intro domain isNearest
    obtain ⟨entry,member,covers⟩ := isNearest.exists_covers
    exact (by decide +kernel : ∀ entry ∈ lan.entries, ¬ entry.covers "example" = true) entry member covers
  have same : ∀ domain, lanMixed.entriesFor domain = lan.entriesFor domain :=
    entriesFor_eq_of_listed (by decide +kernel)
  obtain ⟨_,found,_,_⟩ := find_nearest lan "pc.lan.example"
  obtain ⟨_,excepted,_,_⟩ := find_nearest lan "tv.lan.example"
  refine ⟨wildcard,?_,(excepted _ itself).2.1 ?_,(find_nearest lan "example").2.2.1 far,same,?_⟩
  · rw [(found _ wildcard).2.2 (by decide +kernel)]
    decide +kernel
  · exact ⟨⟨"tv.lan.example","tv.lan.example"⟩,by decide +kernel,rfl,rfl⟩
  · exact ((find_nearest lan "pc.lan.example").2.2.2 lanMixed same).2

end RewriteTable

end DnsPolicy
