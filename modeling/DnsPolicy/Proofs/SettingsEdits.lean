import DnsPolicy.Policy.Calls
import DnsPolicy.Proofs.NormalForm

/-! Edits of the settings are made as a whole or not at all. They keep every rewrite in normal form,
and are announced exactly when they count as a change. -/
namespace DnsPolicy

namespace RewriteTable

/-- Every entry is in normal form. -/
def Normal (table : RewriteTable) : Prop := ∀ entry ∈ table.entries, entry.Normal

theorem normal_ofList {entries : List Rewrite} {table : RewriteTable}
    (made : ofList entries = .ok table) : table.Normal := by
  obtain ⟨normals,read,rfl⟩ := map_eq_ok_iff.mp made
  intro normal member
  obtain ⟨rewrite,_,given⟩ := exists_of_mem_mapM read member
  exact Rewrite.normal_of_normalize given

private theorem exists_ofList_iff {entries : List Rewrite} :
    (∃ table, ofList entries = .ok table) ↔ ∀ rewrite ∈ entries, ∃ normal, rewrite.normalize = .ok normal :=
  exists_map_iff.trans exists_mapM_iff

/-- What an edit of one rewrite leaves of a table. -/
structure EditedTo (table : RewriteTable) (changed : Bool) (after : RewriteTable) : Prop where
  normal : table.Normal → after.Normal
  changed_iff : changed = true ↔ after ≠ table

private theorem editedTo_add {table after : RewriteTable} {rewrite : Rewrite} {changed : Bool}
    (added : table.add rewrite = .ok (changed,after)) : table.EditedTo changed after := by
  obtain ⟨entry,given,result⟩ := map_eq_ok_iff.mp added
  split at result
  next known =>
    obtain ⟨rfl,rfl⟩ := Prod.mk.inj result
    exact ⟨id,by simp⟩
  next fresh =>
    obtain ⟨rfl,rfl⟩ := Prod.mk.inj result
    constructor
    · intro normal other member
      rcases List.mem_append.mp member with before | last
      · exact normal other before
      · rw [List.mem_singleton.mp last]
        exact Rewrite.normal_of_normalize given
    · refine iff_of_true rfl fun same => ?_
      have length := congrArg (fun table => table.entries.length) same
      simp at length

private theorem editedTo_remove {table after : RewriteTable} {rewrite : Rewrite} {changed : Bool}
    (removed : table.remove rewrite = .ok (changed,after)) : table.EditedTo changed after := by
  obtain ⟨entry,given,result⟩ := map_eq_ok_iff.mp removed
  obtain ⟨rfl,rfl⟩ := Prod.mk.inj result
  constructor
  · intro normal other member
    exact normal other (List.mem_filter.mp member).1
  · -- As many entries are left as there were only if none was taken out.
    have kept : (table.entries.filter (· != entry)).length = table.entries.length ↔
        table.entries.filter (· != entry) = table.entries := by
      rw [List.length_filter_eq_length_iff,List.filter_eq_self]
    have same : (⟨table.entries.filter (· != entry)⟩ : RewriteTable) = table ↔
        table.entries.filter (· != entry) = table.entries := by
      rw [RewriteTable.mk.injEq]
    rw [bne_iff_ne,ne_eq,ne_eq,kept,same]

end RewriteTable

namespace Policy

/-- What an edit does to a policy, and what its caller is told. -/
structure Edited (before : Policy) (edit : Edit) (result : Except Failure Bool) (after : Policy) :
    Prop where
  succeeds_iff : (∃ changed, result = .ok changed) ↔
    ∀ rewrite ∈ edit.given before.settings, ∃ normal, rewrite.normalize = .ok normal
  failed : ∀ failure, result = .error failure → after = before
  unchanged : result = .ok false → edit.isSingle = true ∧ after = before
  changed : result = .ok true →
    (edit.isSingle = true → after.settings.rewrites ≠ before.settings.rewrites) ∧
    after.notices = before.notices + if after.settings.watched then 1 else 0
  aimed : ∀ changed, result = .ok changed →
    after.settings = { edit.aim before.settings with rewrites := after.settings.rewrites }
  normal : before.settings.rewrites.Normal → after.settings.rewrites.Normal
  elsewhere : after.reloader = before.reloader ∧ after.panel = before.panel

variable {policy : Policy}

theorem prepare_eq_ok {settings prepared : Settings} (read : settings.prepare = .ok prepared) :
    ∃ rewrites, RewriteTable.ofList settings.rewrites.entries = .ok rewrites ∧
      prepared = { settings with rewrites } := by
  rw [Settings.prepare] at read
  split at read
  next rewrites made => exact ⟨rewrites,made,(Except.ok.inj read).symm⟩
  next => contradiction

private theorem exists_prepare_iff {settings : Settings} :
    (∃ prepared, settings.prepare = .ok prepared) ↔
      ∃ rewrites, RewriteTable.ofList settings.rewrites.entries = .ok rewrites := by
  constructor
  · rintro ⟨prepared,read⟩
    obtain ⟨rewrites,made,_⟩ := prepare_eq_ok read
    exact ⟨rewrites,made⟩
  · rintro ⟨rewrites,made⟩
    exact ⟨{ settings with rewrites },by rw [Settings.prepare,made]⟩

/-- New settings as a whole: they are prepared on the side, and only then take the place of the old. -/
theorem update_cases (policy : Policy) (change : Settings → Settings) :
    (∃ rewrites, RewriteTable.ofList (change policy.settings).rewrites.entries = .ok rewrites ∧
      policy.update change = (.ok (),policy.install { change policy.settings with rewrites })) ∨
    (¬ ∃ rewrites, RewriteTable.ofList (change policy.settings).rewrites.entries = .ok rewrites) ∧
      ∃ failure, policy.update change = (.error failure,policy) := by
  rw [update]
  cases read : (change policy.settings).prepare with
  | ok prepared =>
    obtain ⟨rewrites,made,rfl⟩ := prepare_eq_ok read
    exact Or.inl ⟨rewrites,made,rfl⟩
  | error failure =>
    refine Or.inr ⟨?_,failure,rfl⟩
    rw [← exists_prepare_iff,read]
    simp

private theorem install_notices (policy : Policy) (settings : Settings) :
    (policy.install settings).notices = policy.notices + if settings.watched then 1 else 0 := by
  rw [install]
  cases settings.watched <;> rfl

private theorem edited_update {edit : Edit} (change : Settings → Settings)
    (whole : edit.isSingle = false)
    (given : edit.given policy.settings = (change policy.settings).rewrites.entries)
    (aim : ∀ rewrites, { change policy.settings with rewrites } =
      { edit.aim policy.settings with rewrites }) :
    policy.Edited edit ((policy.update change).1.map fun _ => true) (policy.update change).2 := by
  have several : ¬ edit.isSingle = true := by simp [whole]
  rcases policy.update_cases change with ⟨rewrites,made,same⟩ | ⟨unmade,failure,same⟩
  · rw [same]
    exact
      { succeeds_iff := iff_of_true ⟨true,rfl⟩ (given ▸ RewriteTable.exists_ofList_iff.mp ⟨rewrites,made⟩)
        failed := fun _ told => by contradiction
        unchanged := fun told => absurd (Except.ok.inj told) (by decide)
        changed := fun _ => ⟨fun single => absurd single several,install_notices policy _⟩
        aimed := fun _ _ => aim rewrites
        normal := fun _ => RewriteTable.normal_ofList made
        elsewhere := ⟨rfl,rfl⟩ }
  · rw [same]
    exact
      { succeeds_iff := iff_of_false (by simp [Except.map])
          (given ▸ mt RewriteTable.exists_ofList_iff.mpr unmade)
        failed := fun _ _ => rfl
        unchanged := fun told => by contradiction
        changed := fun told => by contradiction
        aimed := fun _ told => by contradiction
        normal := id
        elsewhere := ⟨rfl,rfl⟩ }

private theorem edited_editRewrites {edit : Edit} {rewrite : Rewrite}
    {make : RewriteTable → Except RewriteFault (Bool × RewriteTable)} (single : edit.isSingle = true)
    (given : edit.given policy.settings = [rewrite]) (aim : edit.aim policy.settings = policy.settings)
    (accepts : (∃ result, make policy.settings.rewrites = .ok result) ↔
      ∃ normal, rewrite.normalize = .ok normal)
    (editedTo : ∀ changed after, make policy.settings.rewrites = .ok (changed,after) →
      policy.settings.rewrites.EditedTo changed after) :
    policy.Edited edit (policy.editRewrites make).1 (policy.editRewrites make).2 := by
  have accepted : (∃ result, make policy.settings.rewrites = .ok result) ↔
      ∀ rewrite ∈ edit.given policy.settings, ∃ normal, rewrite.normalize = .ok normal := by
    simp [given,accepts]
  rw [editRewrites]
  cases made : make policy.settings.rewrites with
  | error fault =>
    exact
      { succeeds_iff := by rw [← accepted,made]; simp
        failed := fun _ _ => rfl
        unchanged := fun told => by contradiction
        changed := fun told => by contradiction
        aimed := fun _ told => by contradiction
        normal := id
        elsewhere := ⟨rfl,rfl⟩ }
  | ok result =>
    obtain ⟨changed,after⟩ := result
    have edited := editedTo changed after made
    have succeeds : ∀ rewrite ∈ edit.given policy.settings, ∃ normal, rewrite.normalize = .ok normal :=
      accepted.mp ⟨_,made⟩
    cases changed with
    | true =>
      exact
        { succeeds_iff := iff_of_true ⟨true,rfl⟩ succeeds
          failed := fun _ told => by contradiction
          unchanged := fun told => absurd (Except.ok.inj told) (by decide)
          changed := fun _ => ⟨fun _ => edited.changed_iff.mp rfl,install_notices policy _⟩
          aimed := fun _ _ => by rw [aim]; rfl
          normal := edited.normal
          elsewhere := ⟨rfl,rfl⟩ }
    | false =>
      have same : after = policy.settings.rewrites := by
        by_contra different
        exact absurd (edited.changed_iff.mpr different) (by decide)
      subst same
      exact
        { succeeds_iff := iff_of_true ⟨false,rfl⟩ succeeds
          failed := fun _ told => by contradiction
          unchanged := fun _ => ⟨single,rfl⟩
          changed := fun told => absurd (Except.ok.inj told) (by decide)
          aimed := fun _ _ => by rw [aim]; rfl
          normal := id
          elsewhere := ⟨rfl,rfl⟩ }

theorem edit_addRewrite (policy : Policy) (rewrite : Rewrite) :
    policy.edit (.addRewrite rewrite) = policy.editRewrites fun table => table.add rewrite := rfl

theorem edit_removeRewrite (policy : Policy) (rewrite : Rewrite) :
    policy.edit (.removeRewrite rewrite) = policy.editRewrites fun table => table.remove rewrite := rfl

theorem edited_edit (policy : Policy) (edit : Edit) :
    policy.Edited edit (policy.edit edit).1 (policy.edit edit).2 := by
  cases edit with
  | update change => exact edited_update change rfl rfl fun _ => rfl
  | setRewrites entries =>
    exact edited_update (fun settings => { settings with rewrites := ⟨entries⟩ }) rfl rfl fun _ => rfl
  | addRewrite rewrite =>
    rw [edit_addRewrite]
    exact edited_editRewrites rfl rfl rfl exists_map_iff fun _ _ => RewriteTable.editedTo_add
  | removeRewrite rewrite =>
    rw [edit_removeRewrite]
    exact edited_editRewrites rfl rfl rfl exists_map_iff fun _ _ => RewriteTable.editedTo_remove

private theorem Edited.watched {before after : Policy} {edit : Edit} {result : Except Failure Bool}
    (edited : before.Edited edit result after) (keeps : edit.KeepsWatch) :
    after.settings.watched = before.settings.watched := by
  cases told : result with
  | error failure => rw [edited.failed failure told]
  | ok changed =>
    have fields := congrArg Settings.watched (edited.aimed changed told)
    cases edit with
    | update change => exact fields.trans (keeps before.settings)
    | _ => exact fields

/-- What edits keep, over a run of any length. -/
theorem editAll_keeps (normal : policy.settings.rewrites.Normal) {edits : List Edit}
    (keep : ∀ edit ∈ edits, edit.KeepsWatch) :
    (policy.editAll edits).settings.rewrites.Normal ∧
      (policy.editAll edits).settings.watched = policy.settings.watched := by
  induction edits generalizing policy with
  | nil => exact ⟨normal,rfl⟩
  | cons edit rest ih =>
    have edited := policy.edited_edit edit
    obtain ⟨later,watched⟩ := ih (edited.normal normal) fun other member => keep other (by simp [member])
    exact ⟨later,watched.trans (edited.watched (keep edit (by simp)))⟩

/-- Whatever edits went before, the next one is made as a whole or not at all, leaves every rewrite in
normal form, and is announced once if it counts as a change and else not at all. -/
theorem edit_all_or_nothing (policy : Policy) (normal : policy.settings.rewrites.Normal)
    (edits : List Edit) (edit : Edit) (keep : ∀ other ∈ edits ++ [edit], other.KeepsWatch) :
    let before := policy.editAll edits
    let after := (before.edit edit).2
    before.Edited edit (before.edit edit).1 after ∧ after.settings.rewrites.Normal ∧
      after.settings.watched = policy.settings.watched := by
  intro before after
  have earlier : ∀ other ∈ edits, other.KeepsWatch := fun other member => keep other (by simp [member])
  obtain ⟨still,watched⟩ := editAll_keeps normal earlier
  have edited := before.edited_edit edit
  exact ⟨edited,edited.normal still,(edited.watched (keep edit (by simp))).trans watched⟩

/-- Two edits that are announced. -/
private def heard : List Edit :=
  [.addRewrite ⟨"Host.Example.","1.2.3.4."⟩,.update fun settings => { settings with parental := true }]

/-- The second of these rewrites has no normal form. -/
private def halfBad : Edit :=
  .setRewrites [⟨"Nas.Example","::1"⟩,⟨"bad host","1.1.1.1"⟩,⟨"*.lan.example","nas.example"⟩]

/-- The first rewrite is not kept either, and nobody hears of it. -/
theorem edit_all_or_nothing_failed :
    let before := (ofSettings { watched := true }).editAll heard
    before.settings.rewrites.entries = [⟨"host.example","1.2.3.4"⟩] ∧ before.notices = 2 ∧
      (before.edit halfBad).1 = .error (.badRewrite (.badDomain "bad host")) ∧
      (before.edit halfBad).2 = before := by
  intro before
  have normal : (ofSettings { watched := true }).settings.rewrites.Normal := by
    intro entry member
    contradiction
  have keep : ∀ edit ∈ heard ++ [halfBad], edit.KeepsWatch := by simp [heard,halfBad,Edit.KeepsWatch]
  have failed : (before.edit halfBad).1 = .error (.badRewrite (.badDomain "bad host")) := by
    decide +kernel
  obtain ⟨edited,_,_⟩ := edit_all_or_nothing _ normal heard halfBad keep
  exact ⟨by decide +kernel,by decide +kernel,failed,edited.failed _ failed⟩

end Policy
end DnsPolicy
