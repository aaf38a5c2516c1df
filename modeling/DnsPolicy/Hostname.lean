import DnsPolicy.Text.Pieces
import DnsPolicy.Unicode.Lowercase

/-! The characters of host names and of host name patterns. -/
namespace DnsPolicy.Hostname

def isNameChar (c : Char) : Bool := c.isAlphanum || c == '.' || c == '-' || c == '_'

def isPatternChar (c : Char) : Bool := isNameChar c || c == '*'

def isName (text : List Char) : Bool := !text.isEmpty && text.all isNameChar

def isPattern (text : List Char) : Bool := !text.isEmpty && text.all isPatternChar

def lower (text : String) : String := String.ofList (Unicode.lower text.toList)

theorem length_of_cut {mark : Char} {text front back : List Char}
    (cut : Text.cut? mark text = some (front,back)) : back.length < text.length := by
  induction text generalizing front with
  | nil => simp [Text.cut?] at cut
  | cons c rest ih =>
    rw [Text.cut?] at cut
    split at cut
    · simp only [Option.some.injEq,Prod.mk.injEq] at cut
      simp [← cut.2]
    · obtain ⟨⟨front',back'⟩,found,eq⟩ := Option.map_eq_some_iff.1 cut
      simp only [Prod.mk.injEq] at eq
      have := ih (eq.2 ▸ found)
      simp only [List.length_cons]
      omega

/-- The host and each domain above it, nearest first. -/
def ancestry (host : List Char) : List (List Char) :=
  host ::
    match _cut : Text.cut? '.' host with
    | none => []
    | some (_,parent) => ancestry parent
termination_by host.length
decreasing_by exact length_of_cut _cut

end DnsPolicy.Hostname
