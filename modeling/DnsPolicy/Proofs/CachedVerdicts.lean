import DnsPolicy.Policy.Calls
import DnsPolicy.Proofs.SettingsEdits
import DnsPolicy.Proofs.Turns

/-! Cached verdicts are not seen from outside. Two policies that differ in their caches only give the
same replies, whatever the caches hold, turn away or lose, as each holds what its classifier says. -/
namespace DnsPolicy

/-- A seat with this classifier, whose cache holds nothing that the classifier does not say. -/
structure Seat.Faithful (kind : ClassifierKind) (classifier : Option Classifier) (seat : Seat) : Prop where
  seated : seat.classifier = classifier
  held : ∀ host verdict, seat.cache.bind (·.get? host) = some verdict →
    classifier.map (·.classify kind host) = some (.ok verdict)

namespace Seat

variable {kind : ClassifierKind} {classifier : Option Classifier} {seat : Seat}

theorem Faithful.answer (faithful : seat.Faithful kind classifier) (host : String) :
    seat.answer? kind host = classifier.map (·.classify kind host) := by
  rw [answer?,faithful.seated]
  cases known : seat.cache.bind (·.get? host) with
  | none => rfl
  | some verdict =>
    obtain ⟨asked,rfl,said⟩ := Option.map_eq_some_iff.mp (faithful.held host verdict known)
    simp [said]

/-- A change of the counts, with no more in the cache. -/
theorem Faithful.of_less {changed : Seat} (faithful : seat.Faithful kind classifier)
    (seated : changed.classifier = seat.classifier)
    (less : ∀ host verdict, changed.cache.bind (·.get? host) = some verdict →
      seat.cache.bind (·.get? host) = some verdict) :
    changed.Faithful kind classifier where
  seated := seated.trans faithful.seated
  held host verdict known := faithful.held host verdict (less host verdict known)

private theorem Faithful.stored {asked : Classifier} {host : String} {verdict : Decision}
    (faithful : seat.Faithful kind (some asked)) (said : asked.classify kind host = .ok verdict)
    (counts : LookupCounts) :
    Faithful kind (some asked)
      { seat with counts, cache := seat.cache.map (·.insert host verdict) } where
  seated := faithful.seated
  held other stored known := by
    rw [VerdictCache.get?_map_insert] at known
    split at known
    next same =>
      split at known
      next => rw [same,Option.map_some,said,← Option.some.inj known]
      next => contradiction
    next => exact faithful.held other stored known

private theorem Faithful.consulted (faithful : seat.Faithful kind classifier) (host : String) :
    (seat.consulted kind host).Faithful kind classifier := by
  cases classifier with
  | none =>
    rw [consulted_of_none faithful.seated]
    exact faithful
  | some asked =>
    cases known : seat.cache.bind (·.get? host) with
    | some verdict =>
      rw [consulted_of_known faithful.seated known]
      exact ⟨faithful.seated,faithful.held⟩
    | none =>
      cases said : asked.classify kind host with
      | ok verdict =>
        rw [consulted_of_ok faithful.seated known said]
        exact faithful.stored said _
      | error failure =>
        rw [consulted_of_error faithful.seated known said]
        exact ⟨faithful.seated,faithful.held⟩

private theorem Faithful.cleared {changed : Seat} (faithful : seat.Faithful kind classifier)
    (seated : changed.classifier = seat.classifier)
    (cleared : changed.cache = seat.cache.map VerdictCache.clear) : changed.Faithful kind classifier := by
  apply faithful.of_less seated
  intro host verdict known
  rw [cleared,VerdictCache.get?_map_clear] at known
  contradiction

end Seat

namespace Panel

/-- Each kind of classifier has its seat, and no cache says what its classifier does not. -/
def Faithful (seated : ClassifierKind → Option Classifier) (panel : Panel) : Prop :=
  ∀ kind, (panel.seat kind).Faithful kind (seated kind)

/-- What time and a full cache do to a panel: verdicts go. -/
structure Fades (before after : Panel) : Prop where
  seated : ∀ kind, (after.seat kind).classifier = (before.seat kind).classifier
  held : ∀ kind host verdict, after.cached? kind host = some verdict →
    before.cached? kind host = some verdict

variable {seated : ClassifierKind → Option Classifier} {panel : Panel}

private theorem Faithful.fades {after : Panel} (faithful : panel.Faithful seated)
    (fades : panel.Fades after) : after.Faithful seated := by
  intro kind
  exact (faithful kind).of_less (fades.seated kind) (fades.held kind)

private theorem Faithful.clear (faithful : panel.Faithful seated) (kind : ClassifierKind) :
    (panel.clear kind).Faithful seated := by
  intro other
  by_cases same : other = kind
  · subst same
    rw [Panel.clear,seat_withCache_self]
    exact (faithful other).cleared rfl rfl
  · rw [Panel.clear,seat_withCache_of_ne same]
    exact faithful other

private theorem Faithful.reset (faithful : panel.Faithful seated) :
    panel.reset.Faithful seated := by
  intro kind
  rw [seat_reset]
  exact (faithful kind).cleared rfl rfl

private theorem decide_fst_congr {other : Panel} {kinds : List ClassifierKind} (host : String)
    (distinct : kinds.Nodup)
    (same : ∀ kind, (other.seat kind).answer? kind host = (panel.seat kind).answer? kind host) :
    (decide host kinds other).1 = (decide host kinds panel).1 := by
  simp only [decide_fst host distinct,Seat.ends?,same]

end Panel

/-- A way to compare settings that sees the rewrites. -/
structure Settings.Comparison (same : Settings → Settings → Prop) : Prop where
  rewrites : ∀ {left right}, same left right → left.rewrites = right.rewrites
  replace : ∀ {left right}, same left right → ∀ rewrites,
    same { left with rewrites } { right with rewrites }

def Settings.withoutSizes (settings : Settings) : Settings :=
  { settings with safeBrowsingCache := 0, safeSearchCache := 0, parentalCache := 0 }

def Settings.SameButSizes (left right : Settings) : Prop := left.withoutSizes = right.withoutSizes

theorem Settings.comparison_eq : Comparison Eq where
  rewrites same := congrArg rewrites same
  replace same rewrites := by rw [same]

private theorem Settings.comparison_sameButSizes : Comparison SameButSizes where
  rewrites same := by
    have fields := congrArg rewrites same
    exact fields
  replace same table := by
    have fields := congrArg (fun settings : Settings => { settings with rewrites := table }) same
    exact fields

/-- Settings that compare as the same are changed to such. -/
def Edit.Respects (same : Settings → Settings → Prop) : Edit → Prop
  | .update change => ∀ left right, same left right → same (change left) (change right)
  | _ => True

namespace Policy

variable {same : Settings → Settings → Prop} {seated : ClassifierKind → Option Classifier}
  {left right : Policy}

/-- Policies that may differ in what their caches hold. -/
structure Alike (same : Settings → Settings → Prop) (seated : ClassifierKind → Option Classifier)
    (left right : Policy) : Prop where
  settings : same left.settings right.settings
  reloader : left.reloader = right.reloader
  left : left.panel.Faithful seated
  right : right.panel.Faithful seated

private theorem prepare_congr {settings others : Settings} (comparison : Settings.Comparison same)
    (agree : same settings others) :
    (∃ failure, settings.prepare = .error failure ∧ others.prepare = .error failure) ∨
      ∃ prepared ready, settings.prepare = .ok prepared ∧ others.prepare = .ok ready ∧
        same prepared ready := by
  simp only [Settings.prepare,comparison.rewrites agree]
  cases RewriteTable.ofList others.rewrites.entries with
  | error fault => exact Or.inl ⟨_,rfl,rfl⟩
  | ok rewrites => exact Or.inr ⟨_,_,rfl,rfl,comparison.replace agree rewrites⟩

private theorem update_congr (comparison : Settings.Comparison same) (change : Settings → Settings)
    (agree : same (change left.settings) (change right.settings))
    (before : same left.settings right.settings) :
    (left.update change).1 = (right.update change).1 ∧
      same (left.update change).2.settings (right.update change).2.settings := by
  unfold update
  rcases prepare_congr comparison agree with ⟨failure,first,second⟩ | ⟨prepared,ready,first,second,after⟩
  · rw [first,second]
    exact ⟨rfl,before⟩
  · rw [first,second]
    exact ⟨rfl,after⟩

private theorem editRewrites_congr (comparison : Settings.Comparison same)
    (agree : same left.settings right.settings)
    (make : RewriteTable → Except RewriteFault (Bool × RewriteTable)) :
    (left.editRewrites make).1 = (right.editRewrites make).1 ∧
      same (left.editRewrites make).2.settings (right.editRewrites make).2.settings := by
  unfold editRewrites
  rw [comparison.rewrites agree]
  cases make right.settings.rewrites with
  | error fault => exact ⟨rfl,agree⟩
  | ok result =>
    obtain ⟨changed,rewrites⟩ := result
    have after := comparison.replace agree rewrites
    cases changed with
    | true => exact ⟨rfl,after⟩
    | false => exact ⟨rfl,after⟩

private theorem edit_congr (comparison : Settings.Comparison same)
    (agree : same left.settings right.settings) {edit : Edit} (respects : edit.Respects same) :
    (left.edit edit).1 = (right.edit edit).1 ∧
      same (left.edit edit).2.settings (right.edit edit).2.settings := by
  cases edit with
  | update change =>
    obtain ⟨result,after⟩ := update_congr comparison change (respects _ _ agree) agree
    exact ⟨congrArg (Except.map fun _ => true) result,after⟩
  | setRewrites entries =>
    have agreed := comparison.replace agree ⟨entries⟩
    obtain ⟨result,after⟩ :=
      update_congr comparison (fun settings => { settings with rewrites := ⟨entries⟩ }) agreed agree
    exact ⟨congrArg (Except.map fun _ => true) result,after⟩
  | addRewrite rewrite =>
    rw [edit_addRewrite,edit_addRewrite]
    exact editRewrites_congr comparison agree _
  | removeRewrite rewrite =>
    rw [edit_removeRewrite,edit_removeRewrite]
    exact editRewrites_congr comparison agree _

theorem Alike.findings (comparison : Settings.Comparison same)
    (alike : Alike same seated left right)
    (host : String) (qtype : RecordType) (profile : Profile) :
    left.findings host qtype profile = right.findings host qtype profile := by
  have answers : ∀ kind, (left.panel.seat kind).answer? kind (Hostname.lower host) =
      (right.panel.seat kind).answer? kind (Hostname.lower host) := by
    intro kind
    rw [(alike.left kind).answer,(alike.right kind).answer]
  have verdict := Panel.decide_fst_congr (Hostname.lower host) (distinct_wanted profile) answers
  simp only [Policy.findings,comparison.rewrites alike.settings,alike.reloader,verdict]

theorem faithful_check {policy : Policy} (faithful : policy.panel.Faithful seated) (host : String)
    (qtype : RecordType) (profile : Profile) :
    (policy.check host qtype profile).2.panel.Faithful seated := by
  intro kind
  by_cases consults : Consults policy host qtype profile kind
  · rw [seat_check_of_consults consults]
    exact (faithful kind).consulted _
  · rw [seat_check_of_not_consults consults]
    exact faithful kind

theorem Alike.check (comparison : Settings.Comparison same) (alike : Alike same seated left right)
    (host : String) (qtype : RecordType) (profile : Profile) :
    (left.check host qtype profile).1 = (right.check host qtype profile).1 ∧
      Alike same seated (left.check host qtype profile).2 (right.check host qtype profile).2 := by
  constructor
  · exact check_fst_congr (by rw [alike.reloader]) fun _ => alike.findings comparison host qtype profile
  · constructor
    · rw [check_keeps_rest left,check_keeps_rest right]
      exact alike.settings
    · rw [check_keeps_rest left,check_keeps_rest right]
      exact alike.reloader
    · exact faithful_check alike.left host qtype profile
    · exact faithful_check alike.right host qtype profile

private theorem Alike.call (comparison : Settings.Comparison same)
    (alike : Alike same seated left right)
    (call : Call) (respects : ∀ edit, call = .edit edit → edit.Respects same) :
    (left.call call).1 = (right.call call).1 ∧
      Alike same seated (left.call call).2 (right.call call).2 := by
  cases call with
  | check host qtype profile =>
    obtain ⟨result,after⟩ := alike.check comparison host qtype profile
    exact ⟨congrArg Reply.decision result,after⟩
  | checkRules host qtype profile =>
    refine ⟨congrArg Reply.decision ?_,alike⟩
    exact checkRules_congr (by rw [alike.reloader]) fun _ => alike.findings comparison host qtype profile
  | setRules block allow background =>
    simp only [Policy.call,setRules,alike.reloader]
    exact ⟨trivial,alike.settings,rfl,alike.left,alike.right⟩
  | start =>
    simp only [Policy.call,start,alike.reloader]
    exact ⟨trivial,alike.settings,rfl,alike.left,alike.right⟩
  | settle => exact ⟨rfl,alike.settings,congrArg Reloader.settle alike.reloader,alike.left,alike.right⟩
  | close => exact ⟨rfl,alike.settings,congrArg Reloader.close alike.reloader,alike.left,alike.right⟩
  | edit edit =>
    obtain ⟨result,settings⟩ := edit_congr comparison alike.settings (respects edit rfl)
    obtain ⟨leftReloader,leftPanel⟩ := (left.edited_edit edit).elsewhere
    obtain ⟨rightReloader,rightPanel⟩ := (right.edited_edit edit).elsewhere
    refine ⟨congrArg Reply.changed result,settings,?_,?_,?_⟩
    · exact leftReloader.trans (alike.reloader.trans rightReloader.symm)
    · exact leftPanel ▸ alike.left
    · exact rightPanel ▸ alike.right
  | clear kind => exact ⟨rfl,alike.settings,alike.reloader,alike.left.clear kind,alike.right.clear kind⟩
  | reset => exact ⟨rfl,alike.settings,alike.reloader,alike.left.reset,alike.right.reset⟩

private theorem Alike.run (comparison : Settings.Comparison same)
    (alike : Alike same seated left right) {calls : List Call} (time other : Nat → Panel → Panel)
    (respects : ∀ edit, Call.edit edit ∈ calls → edit.Respects same)
    (fades : ∀ n (panel : Panel), panel.Fades (time n panel))
    (otherFades : ∀ n (panel : Panel), panel.Fades (other n panel)) :
    (left.run time calls).1 = (right.run other calls).1 ∧
      Alike same seated (left.run time calls).2 (right.run other calls).2 := by
  induction calls generalizing left right time other with
  | nil => exact ⟨rfl,alike⟩
  | cons call calls ih =>
    -- Either side may lose other verdicts before the call, and what is left is still faithful.
    have faded : Alike same seated { left with panel := time 0 left.panel }
        { right with panel := other 0 right.panel } :=
      ⟨alike.settings,alike.reloader,alike.left.fades (fades 0 _),alike.right.fades (otherFades 0 _)⟩
    obtain ⟨reply,next⟩ := faded.call comparison call fun edit same => respects edit (by simp [same])
    obtain ⟨replies,last⟩ := ih next (fun n => time (n + 1)) (fun n => other (n + 1))
      (fun edit member => respects edit (by simp [member])) (fun n => fades (n + 1))
      fun n => otherFades (n + 1)
    exact ⟨congrArg₂ List.cons reply replies,last⟩

theorem faithful_of_empty {policy : Policy} (empty : ∀ kind host, policy.panel.cached? kind host = none)
    (seats : ∀ kind, (policy.panel.seat kind).classifier = seated kind) :
    policy.panel.Faithful seated := by
  intro kind
  refine ⟨seats kind,?_⟩
  intro host verdict known
  have unknown := empty kind host
  rw [Panel.cached?,known] at unknown
  contradiction

/-- Policies that differ in their caches, and in the sizes that the settings give for them if no edit
looks at these, give the same replies to the same calls, whatever verdicts time takes from the one or
the other. A verdict that either of them holds in the end is what the classifier of that kind gives
for that host. -/
theorem run_hides_caches (left right : Policy) (calls : List Call)
    (time other : Nat → Panel → Panel) (reloader : left.reloader = right.reloader)
    (classifiers : ∀ kind, (right.panel.seat kind).classifier = (left.panel.seat kind).classifier)
    (settings : left.settings = right.settings ∨ left.settings.SameButSizes right.settings ∧
      ∀ edit, Call.edit edit ∈ calls → edit.Respects Settings.SameButSizes)
    (leftEmpty : ∀ kind host, left.panel.cached? kind host = none)
    (rightEmpty : ∀ kind host, right.panel.cached? kind host = none)
    (fades : ∀ n (panel : Panel), panel.Fades (time n panel))
    (otherFades : ∀ n (panel : Panel), panel.Fades (other n panel)) :
    (left.run time calls).1 = (right.run other calls).1 ∧
      (left.run time calls).2.panel.Faithful (fun kind => (left.panel.seat kind).classifier) ∧
      (right.run other calls).2.panel.Faithful fun kind => (left.panel.seat kind).classifier := by
  have start : ∀ same : Settings → Settings → Prop, same left.settings right.settings →
      Alike same (fun kind => (left.panel.seat kind).classifier) left right := fun same agree =>
    ⟨agree,reloader,faithful_of_empty leftEmpty fun _ => rfl,faithful_of_empty rightEmpty classifiers⟩
  rcases settings with equal | ⟨butSizes,respects⟩
  · -- With equal settings an edit may look at the sizes as well.
    have every : ∀ edit, Call.edit edit ∈ calls → edit.Respects Eq := by
      intro edit _
      cases edit with
      | update change => exact fun _ _ agree => congrArg change agree
      | _ => exact trivial
    obtain ⟨replies,alike⟩ := (start Eq equal).run Settings.comparison_eq time other every fades otherFades
    exact ⟨replies,alike.left,alike.right⟩
  · obtain ⟨replies,alike⟩ :=
      (start _ butSizes).run Settings.comparison_sameButSizes time other respects fades otherFades
    exact ⟨replies,alike.left,alike.right⟩

/-- The same host twice, in other letters, with a change of the settings in between. -/
private def askTwice : List Call :=
  [.check "Example.org" .a { parental := true },
   .edit (.update fun settings => { settings with safeSearch := true }),
   .check "example.ORG" .a { parental := true },.check "example.org" .a { safeBrowsing := true }]

/-- Only the policy with a cache finds the second verdict there. -/
theorem run_hides_caches_twice :
    let failing := fun settings =>
      ((ofSettings settings).register .safeBrowsing (.external fun _ => .error "timeout")).register
        .parental (.external fun _ => .ok (Decision.ofReason .parental))
    let cached := failing {}
    let uncached := failing { safeBrowsingCache := 0, safeSearchCache := 255, parentalCache := 0 }
    (cached.run (fun _ => id) askTwice).1 = (uncached.run (fun _ => id) askTwice).1 ∧
      ((cached.run (fun _ => id) askTwice).2.panel.seat .parental).counts.cacheHits = 1 ∧
      ((uncached.run (fun _ => id) askTwice).2.panel.seat .parental).counts.cacheHits = 0 := by
  intro failing cached uncached
  have empty : ∀ settings kind host, (failing settings).panel.cached? kind host = none := by
    intro settings kind host
    simp only [failing,register,ofSettings,Panel.cached?_register,Panel.cached?_ofSettings]
  have stays : ∀ (n : Nat) (panel : Panel), panel.Fades (id panel) := fun _ _ =>
    ⟨fun _ => rfl,fun _ _ _ known => known⟩
  have respects : ∀ edit, Call.edit edit ∈ askTwice → edit.Respects Settings.SameButSizes := by
    intro edit member
    obtain rfl : edit = .update fun settings => { settings with safeSearch := true } := by
      simpa [askTwice] using member
    intro left right agree
    exact congrArg (fun settings : Settings => { settings with safeSearch := true }) agree
  obtain ⟨replies,_,_⟩ := run_hides_caches cached uncached askTwice (fun _ => id) (fun _ => id) rfl
    (fun kind => by cases kind <;> rfl) (Or.inr ⟨rfl,respects⟩) (empty _) (empty _) stays stays
  exact ⟨replies,by decide +kernel,by decide +kernel⟩

end Policy
end DnsPolicy
