import DnsPolicy.Rewrite.Table
import Mathlib.Data.Finset.Card
import Mathlib.Order.Bounds.Defs

/-! Resolution is the walk from name to name that the table gives. The walk itself knows no set of
names seen so far and may go on for ever; resolution always ends. -/
namespace DnsPolicy.RewriteTable

/-- The name after so many substitutions, starting with the host itself. -/
def walk (table : RewriteTable) (host : String) : Nat → Option String
  | 0 => some host
  | n + 1 => (walk table host n).bind table.next?

/-- The first so many names that are put in the place of the host are all different. -/
def DistinctUpTo (table : RewriteTable) (host : String) (n : Nat) : Prop :=
  ∀ i j, 1 ≤ i → i < j → j ≤ n → table.walk host i ≠ table.walk host j

def aliases (table : RewriteTable) : Finset String :=
  ((table.entries.filter fun entry => entry.recordType = .cname).map Rewrite.answer).toFinset

/-- What the entries for a host give for a query type, in the order of the table. -/
def answersAt (table : RewriteTable) (host : String) (qtype : RecordType) : List Address :=
  (table.entries.filter fun entry =>
    entry ∈ table.find host ∧ entry.recordType = qtype).filterMap Rewrite.address?

variable {table : RewriteTable} {host : String}

private theorem mem_aliases_of_next? {name : String} (next : table.next? host = some name) :
    name ∈ table.aliases := by
  obtain ⟨entry,member,named,rfl⟩ := exists_of_next? next
  simp only [aliases,List.mem_toFinset,List.mem_map,List.mem_filter,decide_eq_true_eq]
  exact ⟨entry,⟨member,named⟩,rfl⟩

/-! ### The walk -/

private theorem walk_succ {n : Nat} {name : String} (reached : table.walk host n = some name) :
    table.walk host (n+1) = table.next? name := by
  rw [walk,reached]
  rfl

private theorem walk_add (host : String) (m n : Nat) :
    table.walk host (m+n) = (table.walk host m).bind fun name => table.walk name n := by
  induction n with
  | zero => cases reached : table.walk host m <;> simp [walk]
  | succ n ih =>
    rw [← Nat.add_assoc,walk,ih]
    cases table.walk host m <;> rfl

private theorem walk_eq_none_of_le {m n : Nat} (le : m ≤ n) (stopped : table.walk host m = none) :
    table.walk host n = none := by
  obtain ⟨more,rfl⟩ := Nat.exists_eq_add_of_le le
  rw [walk_add,stopped]
  rfl

private theorem walk_multiple {name : String} {period : Nat}
    (back : table.walk name period = some name)
    (rounds : Nat) : table.walk name (rounds*period) = some name := by
  induction rounds with
  | zero => simp [walk]
  | succ rounds ih =>
    rw [Nat.succ_mul,walk_add,ih]
    exact back

/-- A walk that comes back to a name never stops. -/
theorem walk_ne_none_of_back {i j : Nat} (before : i < j)
    (same : table.walk host j = table.walk host i) (reached : table.walk host i ≠ none) (n : Nat) :
    table.walk host n ≠ none := by
  obtain ⟨name,here⟩ := Option.ne_none_iff_exists'.mp reached
  have back : table.walk name (j-i) = some name := by
    have parts : table.walk host (i+(j-i)) = _ := walk_add host i (j-i)
    rw [Nat.add_sub_cancel' (by omega),same,here] at parts
    exact parts.symm
  intro stopped
  -- After any number of rounds the walk is at the same name again, beyond any place to stop at.
  have later : n ≤ i + n*(j-i) := by
    have := Nat.le_mul_of_pos_right n (by omega : 0 < j-i)
    omega
  have ended := walk_eq_none_of_le later stopped
  rw [walk_add,here] at ended
  exact absurd ((walk_multiple back n).symm.trans ended) (by simp)

/-! ### Following the walk -/

/-- After `n` substitutions the walk is at `current`, and `seen` are the names put in so far. -/
structure Passed (table : RewriteTable) (host : String) (n : Nat) (seen : List String)
    (canonical current : String) : Prop where
  here : table.walk host n = some current
  seen_iff : ∀ name, name ∈ seen ↔ ∃ i, 1 ≤ i ∧ i ≤ n ∧ table.walk host i = some name
  distinct : table.DistinctUpTo host n
  last : canonical = if n = 0 then "" else current

private theorem passed_start (table : RewriteTable) (host : String) :
    table.Passed host 0 [] "" host where
  here := rfl
  seen_iff name := by
    constructor
    · simp
    · rintro ⟨i,positive,bound,_⟩
      omega
  distinct := by
    intro i j positive before bound
    omega
  last := rfl

private theorem Passed.step {n : Nat} {seen : List String} {canonical current name : String}
    (passed : table.Passed host n seen canonical current) (next : table.next? current = some name)
    (fresh : name ∉ seen) : table.Passed host (n+1) (name :: seen) name name where
  here := (walk_succ passed.here).trans next
  seen_iff other := by
    have arrived := (walk_succ passed.here).trans next
    rw [List.mem_cons,passed.seen_iff]
    constructor
    · rintro (rfl | ⟨i,positive,bound,reached⟩)
      · exact ⟨n+1,by omega,by omega,arrived⟩
      · exact ⟨i,positive,by omega,reached⟩
    · rintro ⟨i,positive,bound,reached⟩
      rcases Nat.lt_or_eq_of_le bound with below | rfl
      · exact Or.inr ⟨i,positive,by omega,reached⟩
      · exact Or.inl (Option.some.inj (reached.symm.trans arrived))
  distinct := by
    intro i j positive before bound
    rcases Nat.lt_or_eq_of_le bound with below | rfl
    · exact passed.distinct i j positive before (by omega)
    · intro same
      rw [walk_succ passed.here,next] at same
      exact fresh ((passed.seen_iff name).mpr ⟨i,positive,by omega,same⟩)
  last := by simp

/-- Following ends where the walk stops or where it first comes back to a name. -/
theorem Passed.follow {n : Nat} {seen : List String} {canonical current : String}
    (passed : table.Passed host n seen canonical current) :
    ∃ k names last, table.Passed host k names (table.follow seen canonical current).canonical last ∧
      (table.next? last = none ∧ (table.follow seen canonical current).found = table.find last ∨
        (∃ name ∈ names, table.next? last = some name) ∧
          (table.follow seen canonical current).found = []) := by
  -- Every fresh name is one more step of the walk, so `n` grows along the trail.
  fun_induction table.follow seen canonical current generalizing n with
  | case1 seen canonical current stopped => exact ⟨n,seen,current,passed,Or.inl ⟨stopped,rfl⟩⟩
  | case2 seen canonical current name next known =>
    exact ⟨n,seen,current,passed,Or.inr ⟨⟨name,by simpa using known,next⟩,rfl⟩⟩
  | case3 seen canonical current name next fresh ih =>
    exact ih (passed.step next (by simpa using fresh))

private theorem tried_eq_walk {seen : List String} {canonical : String} :
    ∀ i < (table.follow seen canonical host).tried.length,
      (table.follow seen canonical host).tried[i]? = table.walk host (i+1) := by
  fun_induction table.follow seen canonical host with
  | case1 seen canonical host stopped => simp
  | case2 seen canonical host name next again =>
    intro i bound
    obtain rfl : i = 0 := by simpa using bound
    exact next.symm
  | case3 seen canonical host name next fresh ih =>
    intro i bound
    cases i with
    | zero => exact next.symm
    | succ i =>
      have onward : table.walk host (1+(i+1)) = table.walk name (i+1) := by
        rw [walk_add,walk_succ rfl,next]
        rfl
      rw [show i+1+1 = 1+(i+1) by omega,onward]
      exact ih i (Nat.lt_of_succ_lt_succ bound)

/-- No more names are tried than the table has, and one that came up before. -/
theorem tried_length_le {seen : List String} (canonical : String) (distinct : seen.Nodup)
    (known : ∀ name ∈ seen, name ∈ table.aliases) :
    (table.follow seen canonical host).tried.length + seen.length ≤ table.aliases.card + 1 := by
  have fits : ∀ names : List String, names.Nodup → (∀ name ∈ names, name ∈ table.aliases) →
      names.length ≤ table.aliases.card := by
    intro names different inside
    rw [← List.toFinset_card_of_nodup different]
    exact Finset.card_le_card fun name member => inside name (List.mem_toFinset.mp member)
  fun_induction table.follow seen canonical host with
  | case1 seen canonical host stopped =>
    change 0 + seen.length ≤ _
    have bound := fits seen distinct known
    omega
  | case2 seen canonical host name next again =>
    change 1 + seen.length ≤ _
    have bound := fits seen distinct known
    omega
  | case3 seen canonical host name next fresh ih =>
    have shorter := ih (List.nodup_cons.mpr ⟨by simpa using fresh,distinct⟩) (by
      intro other member
      rcases List.mem_cons.mp member with rfl | before
      · exact mem_aliases_of_next? next
      · exact known other before)
    change (table.follow (name :: seen) name name).tried.length + 1 + seen.length ≤ _
    rw [List.length_cons] at shorter
    omega

/-! ### The answers at the end -/

private theorem exists_nearest_eq_filter (found : List Rewrite) :
    ∃ keep : Rewrite → Bool, nearest found = found.filter keep := by
  unfold nearest
  split
  · exact ⟨_,rfl⟩
  · exact ⟨_,rfl⟩

private theorem exists_find_eq (table : RewriteTable) (host : String) :
    ∃ keep : Rewrite → Bool, table.find host = namesFirst (table.entries.filter keep) := by
  simp only [find]
  split
  · exact ⟨fun _ => false,by simp [namesFirst]⟩
  · obtain ⟨keep,kept⟩ := exists_nearest_eq_filter (table.entries.filter fun entry => entry.covers host)
    rw [kept,List.filter_filter]
    exact ⟨_,rfl⟩

private theorem addresses_cname (found : List Rewrite) : addresses .cname found = [] := by
  apply List.filterMap_eq_nil_iff.mpr
  intro entry member
  have named := (List.mem_filter.mp member).2
  cases given : entry.address? with
  | none => rfl
  | some address => cases address <;> simp [Rewrite.recordType,given] at named

private theorem addresses_find (host : String) (qtype : RecordType) :
    addresses qtype (table.find host) = table.answersAt host qtype := by
  obtain ⟨keep,kept⟩ := exists_find_eq table host
  have typed : table.answersAt host qtype = addresses qtype (table.entries.filter keep) := by
    unfold answersAt addresses
    rw [List.filter_filter]
    congr 1
    apply List.filter_congr
    intro entry member
    by_cases typed : entry.recordType = qtype <;> simp [kept,mem_namesFirst,member,typed]
  rw [typed,kept]
  by_cases named : qtype = .cname
  · rw [named,addresses_cname,addresses_cname]
  · have names : ((table.entries.filter keep).filter fun entry => entry.recordType == .cname).filter
        (fun entry => entry.recordType == qtype) = [] := by
      simp only [List.filter_eq_nil_iff,List.mem_filter,beq_iff_eq]
      rintro entry ⟨_,typed⟩ other
      exact named (other.symm.trans typed)
    unfold addresses namesFirst
    rw [List.filter_append,names,List.nil_append,List.filter_filter]
    congr 1
    apply List.filter_congr
    intro entry _
    by_cases typed : entry.recordType = qtype <;> simp [typed,named]

private theorem answersAt_eq_nil (host : String) {qtype : RecordType} (noV4 : qtype ≠ .a)
    (noV6 : qtype ≠ .aaaa) : table.answersAt host qtype = [] := by
  apply List.filterMap_eq_nil_iff.mpr
  intro entry member
  have typed : entry.recordType = qtype := by
    have both := (List.mem_filter.mp member).2
    simp at both
    exact both.2
  cases given : entry.address? with
  | none => rfl
  | some address => cases address <;> simp_all [Rewrite.recordType]

private theorem stops_once {m n : Nat} {here there : String}
    (reached : table.walk host m = some here)
    (ended : table.next? here = none) (also : table.walk host n = some there)
    (endedAlso : table.next? there = none) : m = n ∧ here = there := by
  have stopped := (walk_succ reached).trans ended
  have stoppedAlso := (walk_succ also).trans endedAlso
  have same : m = n := by
    rcases Nat.lt_trichotomy m n with below | rfl | above
    · simp [walk_eq_none_of_le below stopped] at also
    · rfl
    · simp [walk_eq_none_of_le above stoppedAlso] at reached
  subst same
  exact ⟨rfl,Option.some.inj (reached.symm.trans also)⟩

theorem resolve_of_find_ne_nil (qtype : RecordType) (held : table.find host ≠ []) :
    table.resolve host qtype = { Decision.ofReason .rewritten with
      canonicalName := (table.follow [] "" host).canonical
      addresses := addresses qtype (table.follow [] "" host).found } := by
  simp [resolve,held]

/-- Where the walk comes back to a name, the names put in are all different just up to there. -/
theorem Passed.isGreatest {n : Nat} {seen : List String} {canonical current name : String}
    (passed : table.Passed host n seen canonical current) (again : name ∈ seen)
    (next : table.next? current = some name) :
    IsGreatest {m | table.DistinctUpTo host m} n ∧ (∀ m, table.walk host m ≠ none) ∧ n ≠ 0 := by
  obtain ⟨i,positive,bound,before⟩ := (passed.seen_iff name).mp again
  have back : table.walk host (n+1) = table.walk host i := by
    rw [before,walk_succ passed.here,next]
  refine ⟨⟨passed.distinct,?_⟩,?_,by omega⟩
  · intro m different
    by_contra beyond
    exact different i (n+1) positive (by omega) (by omega) back.symm
  · exact walk_ne_none_of_back (by omega) back (by simp [before])

/-- Resolution is the walk: the host is left alone without an entry. Else the answer is what the
entries for the last name give, or no address and the last of the different names if the walk goes
on for ever. The names that are tried are those of the walk, and they are few. -/
theorem resolve_walk (table : RewriteTable) (host : String) (qtype : RecordType) :
    (table.find host = [] → table.resolve host qtype = .none) ∧
    (table.find host ≠ [] →
      (∀ n last, table.walk host n = some last → table.next? last = none →
        table.resolve host qtype = { Decision.ofReason .rewritten with
          canonicalName := if n = 0 then "" else last
          addresses := table.answersAt last qtype }) ∧
      ((∀ n, table.walk host n ≠ none) →
        ∃ k last, IsGreatest {m | table.DistinctUpTo host m} k ∧ table.walk host k = some last ∧
          table.resolve host qtype =
            { Decision.ofReason .rewritten with canonicalName := last })) ∧
    (qtype ≠ .a → qtype ≠ .aaaa → ∀ name, table.answersAt name qtype = []) ∧
    (∀ i < (table.follow [] "" host).tried.length,
      (table.follow [] "" host).tried[i]? = table.walk host (i+1)) ∧
    (table.follow [] "" host).tried.length ≤ table.aliases.card + 1 := by
  refine ⟨?_,?_,?_,tried_eq_walk,?_⟩
  · intro none
    simp [resolve,none]
  · intro held
    rw [resolve_of_find_ne_nil qtype held]
    obtain ⟨k,seen,last,passed,⟨ended,found⟩ | ⟨⟨name,again,next⟩,found⟩⟩ :=
      (passed_start table host).follow
    · constructor
      · intro n other reached endedAlso
        obtain ⟨rfl,rfl⟩ := stops_once passed.here ended reached endedAlso
        rw [passed.last,found,addresses_find]
      · intro endless
        exact absurd ((walk_succ passed.here).trans ended) (endless (k+1))
    · obtain ⟨greatest,endless,moved⟩ := passed.isGreatest again next
      constructor
      · intro n other reached ended
        exact absurd ((walk_succ reached).trans ended) (endless (n+1))
      · intro _
        refine ⟨k,last,greatest,passed.here,?_⟩
        rw [passed.last,found,if_neg moved]
        rfl
  · intro noV4 noV6 name
    exact answersAt_eq_nil name noV4 noV6
  · exact tried_length_le "" List.nodup_nil (by simp)

private def looped : RewriteTable := ⟨[⟨"a","b"⟩,⟨"b","c"⟩,⟨"c","b"⟩]⟩

/-- A walk into a loop that its start is not part of. -/
theorem resolve_walk_loop :
    (∀ n, looped.walk "a" n ≠ none) ∧
      looped.resolve "a" .a = { Decision.ofReason .rewritten with canonicalName := "c" } := by
  have back : looped.walk "a" 3 = looped.walk "a" 1 := by decide +kernel
  have endless := walk_ne_none_of_back (by decide : 1 < 3) back (by decide +kernel)
  obtain ⟨_,held,_⟩ := resolve_walk looped "a" .a
  obtain ⟨k,last,⟨different,largest⟩,reached,resolved⟩ := (held (by decide +kernel)).2 endless
  have above : 2 ≤ k := by
    refine largest ?_
    intro i j positive before bound
    obtain ⟨rfl,rfl⟩ : i = 1 ∧ j = 2 := by omega
    decide +kernel
  have below : k < 3 := by
    by_contra beyond
    exact different 1 3 (by omega) (by omega) (by omega) back.symm
  obtain rfl : k = 2 := by omega
  have final : looped.walk "a" 2 = some "c" := by decide +kernel
  obtain rfl : last = "c" := Option.some.inj (reached.symm.trans final)
  exact ⟨endless,resolved⟩

end DnsPolicy.RewriteTable
