import DnsPolicy.Policy
import DnsPolicy.Proofs.NearestDomain
import DnsPolicy.Proofs.RewriteWalk
import DnsPolicy.Proofs.Success

/-! Edits of one rewrite are undone by one another, and hosts that the rewrite does not cover see
nothing of them. -/
namespace DnsPolicy

namespace RewriteTable

/-- What is made of a table when a rewrite with this normal form is added. -/
structure Added (table : RewriteTable) (normal : Rewrite) (changed : Bool) (after : RewriteTable) :
    Prop where
  changed_iff : changed = true ↔ normal ∉ table.entries
  appended : changed = true → after.entries = table.entries ++ [normal]
  kept : changed = false → after = table
  undone : changed = true → ∀ rewrite : Rewrite, rewrite.normalize = .ok normal →
    after.remove rewrite = .ok (true,table)
  elsewhere : ∀ host, normal.covers host = false → after.find host = table.find host
  answers : ∀ address, normal.isWildcard = false → normal.address? = some address →
    (∀ entry ∈ after.entries, entry.domain = normal.domain →
      entry.answer ≠ entry.domain ∧ entry.recordType ≠ .cname) →
    address ∈ (after.resolve normal.domain normal.recordType).addresses

/-- What is made of a table when a rewrite with this normal form is removed. -/
structure Removed (table : RewriteTable) (normal : Rewrite) (changed : Bool) (after : RewriteTable) :
    Prop where
  changed_iff : changed = true ↔ normal ∈ table.entries
  left : after.entries = table.entries.filter (· != normal)
  elsewhere : ∀ host, normal.covers host = false → after.find host = table.find host
  gone : ∀ host, normal ∉ after.find host

variable {table after : RewriteTable} {rewrite normal : Rewrite} {host : String}

private theorem find_eq_of_covering (same : (after.entries.filter fun entry => entry.covers host) =
    table.entries.filter fun entry => entry.covers host) : after.find host = table.find host := by
  rw [find,find,same]

private theorem find_append_of_not_covers (entries : List Rewrite)
    (uncovered : normal.covers host = false) :
    find ⟨entries ++ [normal]⟩ host = find ⟨entries⟩ host := by
  apply find_eq_of_covering
  simp [uncovered]

private theorem find_filter_of_not_covers (entries : List Rewrite)
    (uncovered : normal.covers host = false) :
    find ⟨entries.filter (· != normal)⟩ host = find ⟨entries⟩ host := by
  apply find_eq_of_covering
  rw [List.filter_filter]
  apply List.filter_congr
  intro entry _
  by_cases same : entry = normal
  · simp [same,uncovered]
  · simp [same]

private theorem filter_append_fresh {entries : List Rewrite} (fresh : normal ∉ entries) :
    (entries ++ [normal]).filter (· != normal) = entries := by
  rw [List.filter_append,List.filter_eq_self.mpr]
  · simp
  · intro entry member
    simpa using ne_of_mem_of_not_mem member fresh

private theorem add_of_mem (given : rewrite.normalize = .ok normal)
    (known : normal ∈ table.entries) : table.add rewrite = .ok (false,table) := by
  simp [add,given,Except.map,known]

private theorem add_of_not_mem (given : rewrite.normalize = .ok normal)
    (fresh : normal ∉ table.entries) :
    table.add rewrite = .ok (true,⟨table.entries ++ [normal]⟩) := by
  simp [add,given,Except.map,fresh]

private theorem remove_eq (table : RewriteTable) (given : rewrite.normalize = .ok normal) :
    table.remove rewrite =
      .ok (decide (normal ∈ table.entries),⟨table.entries.filter (· != normal)⟩) := by
  have shorter : ((table.entries.filter (· != normal)).length != table.entries.length) =
      decide (normal ∈ table.entries) := by
    rw [Bool.eq_iff_iff,bne_iff_ne,decide_eq_true_eq,ne_eq,List.length_filter_eq_length_iff]
    simp
  simp only [remove,given,Except.map,shorter]

/-- Where a host has only addresses, and no exception, resolving it lists every one of them. -/
theorem mem_addresses_resolve {address : Address} (member : normal ∈ table.entries)
    (plain : normal.isWildcard = false) (answer : normal.address? = some address)
    (alone : ∀ entry ∈ table.entries, entry.domain = normal.domain →
      entry.answer ≠ entry.domain ∧ entry.recordType ≠ .cname) :
    address ∈ (table.resolve normal.domain normal.recordType).addresses := by
  have isNearest : table.Nearest normal.domain normal.domain := .itself normal member plain rfl
  have kept : ¬ (table.entriesFor normal.domain).any Rewrite.isException = true := by
    simp only [List.any_eq_true,mem_entriesFor,Rewrite.isException,beq_iff_eq]
    rintro ⟨entry,⟨listed,same⟩,excepted⟩
    exact (alone entry listed same).1 excepted
  have found : table.find normal.domain = namesFirst (table.entriesFor normal.domain) := by
    rw [find_of_nearest isNearest,if_neg kept]
  have listed : normal ∈ table.find normal.domain := by
    rw [found]
    exact mem_namesFirst.mpr (mem_entriesFor.mpr ⟨member,rfl⟩)
  have stopped : table.next? normal.domain = none := by
    cases first : table.find normal.domain with
    | nil => rw [next?,first]
    | cons entry rest =>
      have among : entry ∈ namesFirst (table.entriesFor normal.domain) := by simp [← found,first]
      obtain ⟨listed,same⟩ := mem_entriesFor.mp (mem_namesFirst.mp among)
      simp only [next?,first,if_neg (alone entry listed same).2]
  rw [resolve_of_find_ne_nil _ (List.ne_nil_of_mem listed),follow_of_stopped stopped]
  exact List.mem_filterMap.mpr ⟨normal,List.mem_filter.mpr ⟨listed,beq_self_eq_true _⟩,answer⟩

private theorem added_add (table : RewriteTable) (given : rewrite.normalize = .ok normal) :
    ∃ changed after, table.add rewrite = .ok (changed,after) ∧ table.Added normal changed after := by
  by_cases known : normal ∈ table.entries
  · refine ⟨false,table,add_of_mem given known,?_⟩
    exact
      { changed_iff := by simp [known]
        appended := fun told => by contradiction
        kept := fun _ => rfl
        undone := fun told => by contradiction
        elsewhere := fun _ _ => rfl
        answers := fun _ plain answer => mem_addresses_resolve known plain answer }
  · refine ⟨true,_,add_of_not_mem given known,?_⟩
    exact
      { changed_iff := by simp [known]
        appended := fun _ => rfl
        kept := fun told => by contradiction
        undone := fun _ spelt same => by simp [remove_eq _ same,filter_append_fresh known]
        elsewhere := fun _ => find_append_of_not_covers table.entries
        answers := fun _ plain answer => mem_addresses_resolve (by simp) plain answer }

private theorem removed_remove (table : RewriteTable) (given : rewrite.normalize = .ok normal) :
    ∃ changed after, table.remove rewrite = .ok (changed,after) ∧ table.Removed normal changed after := by
  refine ⟨_,_,remove_eq table given,?_⟩
  exact
    { changed_iff := decide_eq_true_iff
      left := rfl
      elsewhere := fun _ => find_filter_of_not_covers table.entries
      gone := fun host member => by simpa using mem_of_mem_find member }

/-- An edit of a rewrite without normal form fails, and whoever holds the table still holds it as it was.
Any other is made, on the normal form, and only for the hosts that this covers. -/
theorem edit_one (table : RewriteTable) (rewrite : Rewrite) :
    (∀ fault, rewrite.normalize = .error fault →
      table.add rewrite = .error fault ∧ table.remove rewrite = .error fault ∧
        ∀ policy : Policy, policy.settings.rewrites = table →
          policy.addRewrite rewrite = (.error (.badRewrite fault),policy) ∧
            policy.removeRewrite rewrite = (.error (.badRewrite fault),policy)) ∧
    ∀ normal, rewrite.normalize = .ok normal →
      (∃ changed after, table.add rewrite = .ok (changed,after) ∧ table.Added normal changed after) ∧
        ∃ changed after, table.remove rewrite = .ok (changed,after) ∧
          table.Removed normal changed after := by
  refine ⟨?_,fun normal given => ⟨added_add table given,removed_remove table given⟩⟩
  intro fault failed
  have unadded : table.add rewrite = .error fault := by rw [add,failed]; rfl
  have unremoved : table.remove rewrite = .error fault := by rw [remove,failed]; rfl
  refine ⟨unadded,unremoved,?_⟩
  rintro policy rfl
  rw [Policy.addRewrite,Policy.removeRewrite,Policy.editRewrites,Policy.editRewrites,unadded,unremoved]
  exact ⟨rfl,rfl⟩

private def home : RewriteTable :=
  ⟨[⟨"*.example","1.1.1.1"⟩,⟨"*.lan.example","2.2.2.2"⟩,⟨"nas.example","3.3.3.3"⟩]⟩

/-- A host is taken out from under its wildcard and given back to it. -/
theorem edit_one_spelt :
    home.remove ⟨"bad host","4.4.4.4"⟩ = .error (.badDomain "bad host") ∧
    ∃ after, home.add ⟨" PC.Lan.Example. ","4.4.4.4"⟩ = .ok (true,after) ∧
      .v4 4 4 4 4 ∈ (after.resolve "pc.lan.example" .a).addresses ∧
      after.find "tablet.lan.example" = home.find "tablet.lan.example" ∧
      after.remove ⟨"pc.lan.example","4.4.4.4"⟩ = .ok (true,home) ∧
      ∃ left, home.remove ⟨"NAS.example","3.3.3.3"⟩ = .ok (true,left) ∧
        ∀ host, ⟨"nas.example","3.3.3.3"⟩ ∉ left.find host := by
  have failed : (⟨"bad host","4.4.4.4"⟩ : Rewrite).normalize = .error (.badDomain "bad host") := by
    decide +kernel
  have given : (⟨" PC.Lan.Example. ","4.4.4.4"⟩ : Rewrite).normalize = .ok ⟨"pc.lan.example","4.4.4.4"⟩ := by
    decide +kernel
  have known : (⟨"NAS.example","3.3.3.3"⟩ : Rewrite).normalize = .ok ⟨"nas.example","3.3.3.3"⟩ := by
    decide +kernel
  have fresh : ⟨"pc.lan.example","4.4.4.4"⟩ ∉ home.entries := by decide +kernel
  have listed : ⟨"nas.example","3.3.3.3"⟩ ∈ home.entries := by decide +kernel
  obtain ⟨changed,after,added,what⟩ := ((edit_one home _).2 _ given).1
  obtain rfl : changed = true := what.changed_iff.mpr fresh
  obtain ⟨taken,left,removed,gone⟩ := ((edit_one home _).2 _ known).2
  obtain rfl : taken = true := gone.changed_iff.mpr listed
  refine ⟨((edit_one home _).1 _ failed).2.1,after,added,?_,?_,?_,left,removed,gone.gone⟩
  · apply what.answers (.v4 4 4 4 4) (by decide +kernel) (by decide +kernel)
    rw [what.appended rfl]
    decide +kernel
  · exact what.elsewhere _ (by decide +kernel)
  · exact what.undone rfl _ (by decide +kernel)

end RewriteTable

end DnsPolicy
