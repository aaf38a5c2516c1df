import DnsPolicy.Proofs.PlainChars
import DnsPolicy.Rule.Pattern

/-! What the source that is written for a name with asterisks is read as: the start of a host or a dot,
then for each asterisk any run of characters and for each other character itself, then the end of the
host. Only its size can make such a source unreadable. -/
namespace DnsPolicy
open Text

namespace Regex

variable {c : Char} {source rest more name : List Char} {part : Fragment}

namespace Progress

variable {progress next last : Progress}

/-- Reading goes on behind a part of the source as `next` says, with fuel for what is left. -/
private def Reads (progress : Progress) (source : List Char) (next : Progress) (rest : List Char) : Prop :=
  ∀ fuel, source.length < fuel →
    ∃ left, rest.length < left ∧ finish? fuel progress source = finish? left next rest

private theorem Reads.refl (progress : Progress) (source : List Char) :
    Reads progress source progress source :=
  fun fuel enough => ⟨fuel,enough,rfl⟩

private theorem Reads.trans (first : Reads progress source next rest)
    (second : Reads next rest last more) : Reads progress source last more := by
  intro fuel enough
  obtain ⟨left,between,same⟩ := first fuel enough
  obtain ⟨least,enough,again⟩ := second left between
  exact ⟨least,enough,same.trans again⟩

private theorem Reads.step (terse : progress.frame.flags.verbose = false)
    (step : progress.step? (c :: source) = some (next,rest)) (shorter : rest.length ≤ source.length) :
    Reads progress (c :: source) next rest := by
  intro fuel enough
  cases fuel with
  | zero => exact absurd enough (Nat.not_lt_zero _)
  | succ fuel =>
    refine ⟨fuel,by simp only [List.length_cons] at enough; omega,?_⟩
    rw [finish?,Flags.skip,if_neg (by simp [terse])]
    simp only [step]

/-- A character without a meaning of its own is read as itself. -/
private theorem step?_plain (plain : isMeta c = false) (unicode : progress.frame.flags = {}) :
    progress.step? (c :: rest) = some (progress.push { regex := .char (.oneOf [c]), depth := 0 },rest) := by
  have primitive : primitive? progress.frame.flags (c :: rest) = some (.char (.oneOf [c]),rest) := by
    rw [unicode]
    unfold primitive?
    split <;> simp_all [isMeta,Flags.literalSet?]
  unfold step?
  split <;> simp_all [isMeta]

private theorem reads_escape (named : Hostname.isNameChar c = true)
    (unicode : progress.frame.flags = {}) :
    Reads progress (escape [c] ++ rest) (progress.push { regex := .char (.oneOf [c]), depth := 0 }) rest := by
  have terse : progress.frame.flags.verbose = false := by rw [unicode]
  cases plain : isMeta c with
  | false =>
    have written : escape [c] = [c] := by simp [escape,plain]
    rw [written]
    exact Reads.step terse (step?_plain plain unicode) (Nat.le_refl _)
  | true =>
    have written : escape [c] = ['\\',c] := by simp [escape,plain]
    have marks : "\\.+*?()|[]\x7b\x7d^$#&-~".toList.filter Hostname.isNameChar = ['.','-'] := rfl
    have member := List.mem_filter.mpr ⟨List.contains_iff_mem.mp plain,named⟩
    rw [marks,List.mem_pair] at member
    have read : progress.step? ('\\' :: c :: rest) =
        some (progress.push { regex := .char (.oneOf [c]), depth := 0 },rest) := by
      unfold step? primitive?
      rw [unicode]
      rcases member with rfl | rfl <;> rfl
    rw [written]
    exact Reads.step terse read (Nat.le_succ _)

/-- An asterisk behind a dot stands for any run of characters within the line. What follows must not say
how long a run is preferred. -/
private theorem reads_run (unicode : progress.frame.flags = {}) (next : rest.head? ≠ some '?') :
    Reads progress (".*".toList ++ rest)
      (progress.push { regex := .repeated (.char .notLineFeed) 0 none, depth := 1 }) rest := by
  have terse : progress.frame.flags.verbose = false := by rw [unicode]
  have dot : progress.step? ('.' :: '*' :: rest) =
      some (progress.push { regex := .char .notLineFeed, depth := 0 },'*' :: rest) := by
    unfold step? primitive?
    rw [unicode]
    rfl
  have same : skipPreference rest = rest := by
    rw [skipPreference]
    rintro rest rfl
    simp at next
  have star : (progress.push { regex := .char .notLineFeed, depth := 0 }).step? ('*' :: rest) =
      some (progress.push { regex := .repeated (.char .notLineFeed) 0 none, depth := 1 },rest) := by
    rw [step?,repeat?,same]
    rfl
  exact (Reads.step terse dot (Nat.le_refl _)).trans (Reads.step terse star (Nat.le_refl _))

end Progress

/-- What stands in the source for a character of a name. -/
def glyph (c : Char) : List Char := if c = '*' then ".*".toList else escape [c]

/-- What a character of a name is read as. -/
def wildcardPart (c : Char) : Fragment :=
  if c = '*' then { regex := .repeated (.char .notLineFeed) 0 none, depth := 1 }
  else { regex := .char (.oneOf [c]), depth := 0 }

/-- What the source for a name begins with is read as. -/
def wildcardStart (whole : Bool) : Fragment :=
  if whole then { regex := .anchor .textStart, depth := 0 }
  else { regex := .either (.anchor .textStart) (.char (.oneOf ['.'])), depth := 2 }

def wildcardEnd : Fragment := { regex := .anchor .textEnd, depth := 0 }

private theorem head?_glyphs (named : ∀ c ∈ name, Hostname.isPatternChar c = true)
    (last : rest.head? ≠ some '?') : (name.flatMap glyph ++ rest).head? ≠ some '?' := by
  cases name with
  | nil => exact last
  | cons c name =>
    have other : c ≠ '?' := by
      rintro rfl
      exact absurd (named '?' List.mem_cons_self) (by decide)
    rw [List.flatMap_cons,glyph]
    split
    · simp
    · cases plain : isMeta c <;> simp [escape,plain,other]

namespace Progress

private theorem reads_name {progress : Progress} (named : ∀ c ∈ name, Hostname.isPatternChar c = true)
    (unicode : progress.frame.flags = {}) (last : rest.head? ≠ some '?') :
    Reads progress (name.flatMap glyph ++ rest) ((name.map wildcardPart).foldl push progress) rest := by
  induction name generalizing progress with
  | nil => exact .refl progress rest
  | cons c name ih =>
    rw [List.forall_mem_cons] at named
    rw [List.flatMap_cons,List.append_assoc,List.map_cons,List.foldl_cons]
    refine Reads.trans ?_ (ih named.2 unicode)
    rw [glyph,wildcardPart]
    split
    next => exact reads_run unicode (head?_glyphs named.2 last)
    next plain =>
      exact reads_escape (by simpa [Hostname.isPatternChar,plain] using named.1) unicode

private theorem reads_start (whole : Bool) (rest : List Char) :
    Reads { frame := { flags := {} } } ((if whole then "^".toList else "(^|\\.)".toList) ++ rest)
      (push { frame := { flags := {} } } (wildcardStart whole)) rest := by
  cases whole with
  | true => exact Reads.step rfl rfl (Nat.le_refl _)
  | false =>
    -- The group is opened, each of its branches is read, and it is closed.
    refine .trans (.step rfl rfl (Nat.le_refl _)) (.trans (.step rfl rfl (Nat.le_refl _)) ?_)
    refine .trans (.step rfl rfl (Nat.le_refl _)) (.trans (.step rfl rfl (Nat.le_succ _)) ?_)
    exact .step rfl rfl (Nat.le_refl _)

private theorem foldl_push (parts : List Fragment) (progress : Progress) :
    parts.foldl push progress =
    { progress with frame := { progress.frame with parts := parts.reverse ++ progress.frame.parts } } := by
  induction parts generalizing progress with
  | nil => rfl
  | cons part parts ih =>
    rw [List.foldl_cons,ih]
    simp [push,Frame.push]

private theorem reads_end {progress : Progress} (unicode : progress.frame.flags = {}) :
    Reads progress ['$'] (progress.push wildcardEnd) [] := by
  refine .step (by rw [unicode]) ?_ (Nat.le_refl _)
  unfold step? primitive?
  rw [unicode]
  rfl

end Progress

/-- A sequence of several fragments, here in the order they stand in. -/
theorem sequence_reverse {parts : List Fragment} (several : 2 ≤ parts.length) :
    sequence parts.reverse =
      { regex := parts.foldr (fun part rest => .seq part.regex rest) .empty
        depth := parts.foldr (fun part depth => max depth part.depth) 0 + 1 } := by
  rw [← List.length_reverse] at several
  rw [← List.foldl_reverse,← List.foldl_reverse]
  match parts.reverse,several with
  | _ :: _ :: _,_ => rfl

/-- The source of a name in one line, from the start of the host or a dot in front of it to the end. -/
theorem wildcardSource_eq (whole : Bool) (name : List Char) : Pattern.wildcardSource whole name =
    (if whole then "^".toList else "(^|\\.)".toList) ++ (name.flatMap glyph ++ ['$']) := by
  suffices body : List.intercalate ".*".toList ((name.splitOn '*').map escape) = name.flatMap glyph by
    rw [Pattern.wildcardSource,body,List.append_assoc]
    rfl
  induction name with
  | nil => rfl
  | cons c name ih =>
    obtain ⟨part,more,parts⟩ := List.exists_cons_of_ne_nil (List.splitOnP_ne_nil (· == '*') name)
    have split : (c :: name).splitOn '*' = if c = '*' then [] :: part :: more else (c :: part) :: more := by
      rw [List.splitOn,List.splitOnP_cons_eq_if_modifyHead,parts]
      simp
    rw [List.splitOn,parts] at ih
    rw [split,List.flatMap_cons,← ih,glyph]
    split
    · simp [escape]
    · cases more <;> simp [escape]

def wildcardParts (whole : Bool) (name : List Char) : List Fragment :=
  wildcardStart whole :: (name.map wildcardPart ++ [wildcardEnd])

/-- What the source for a name is read as. -/
def wildcardRegex (whole : Bool) (name : List Char) : Regex :=
  (wildcardParts whole name).foldr (fun part rest => .seq part.regex rest) .empty

private theorem depth_wildcardParts (whole : Bool) (name : List Char) :
    (wildcardParts whole name).foldr (fun part depth => max depth part.depth) 0 ≤ 2 := by
  have shallow : (name.map wildcardPart ++ [wildcardEnd]).foldr
      (fun part depth => max depth part.depth) 0 ≤ 2 := by
    induction name with
    | nil => decide
    | cons c name ih =>
      have part : (wildcardPart c).depth ≤ 2 := by
        rw [wildcardPart]
        split <;> simp
      exact Nat.max_le.mpr ⟨ih,part⟩
  refine Nat.max_le.mpr ⟨shallow,?_⟩
  cases whole <;> decide

private theorem finish?_wildcardSource (whole : Bool)
    (named : ∀ c ∈ name, Hostname.isPatternChar c = true) :
    Progress.finish? ((Pattern.wildcardSource whole name).length + 1) { frame := { flags := {} } }
      (Pattern.wildcardSource whole name) = some (sequence (wildcardParts whole name).reverse) := by
  let start : Progress := { frame := { flags := {} } }
  have pushed : ((name.map wildcardPart).foldl Progress.push (start.push (wildcardStart whole))).push
      wildcardEnd = (wildcardParts whole name).foldl Progress.push start := by
    rw [wildcardParts,List.foldl_cons,List.foldl_append]
    rfl
  have unicode : ((name.map wildcardPart).foldl Progress.push (start.push (wildcardStart whole))).frame.flags = {} := by
    rw [Progress.foldl_push]
    rfl
  have reads := (Progress.reads_start whole (name.flatMap glyph ++ ['$'])).trans
    ((Progress.reads_name named rfl (by decide)).trans (Progress.reads_end unicode))
  rw [wildcardSource_eq]
  obtain ⟨left,some,same⟩ := reads _ (Nat.lt_succ_self _)
  rw [same,pushed,Progress.foldl_push]
  cases left with
  | zero => exact absurd some (Nat.not_lt_zero _)
  | succ left => simp [Progress.finish?,Flags.skip,start,Frame.close,choice]

/-- The source for a name with asterisks is always an expression. Only its size may be too much. -/
theorem parse?_wildcardSource (whole : Bool) (named : ∀ c ∈ name, Hostname.isPatternChar c = true) :
    parse? (Pattern.wildcardSource whole name) =
      if (wildcardRegex whole name).cost ≤ costLimit then some (wildcardRegex whole name) else none := by
  have several : 2 ≤ (wildcardParts whole name).length := by simp [wildcardParts]
  have shallow : (wildcardParts whole name).foldr (fun part depth => max depth part.depth) 0 + 1 ≤ depthLimit :=
    Nat.le_trans (Nat.succ_le_succ (depth_wildcardParts whole name)) (by decide)
  simp only [parse?,finish?_wildcardSource whole named,sequence_reverse several,shallow,true_and]
  rfl

end Regex

end DnsPolicy
