import DnsPolicy.Decision.Encoding
import DnsPolicy.Proofs.AddressText
import DnsPolicy.Proofs.JsonText

/-! Decisions as texts. A text names the fields that differ from those of a decision about nothing,
each once, and the decision is read back from it, so that no two decisions have one text. -/
namespace DnsPolicy.Decision
open DnsPolicy.Text

inductive Field where
  | filtered
  | reason
  | rule
  | address
  | listId
  | canonicalName
  | addresses
  | service
deriving DecidableEq, Repr

namespace Field

/-- All fields in the order in which they are written. -/
def all : List Field :=
  [.filtered,.reason,.rule,.address,.listId,.canonicalName,.addresses,.service]

def name : Field → String
  | .filtered => "IsFiltered"
  | .reason => "Reason"
  | .rule => "Rule"
  | .address => "IP"
  | .listId => "FilterID"
  | .canonicalName => "CanonName"
  | .addresses => "IPList"
  | .service => "ServiceName"

/-- The field is not what it is where nothing was decided. -/
def Differs (d : Decision) : Field → Prop
  | .filtered => d.filtered ≠ none.filtered
  | .reason => d.reason ≠ none.reason
  | .rule => d.rule ≠ none.rule
  | .address => d.address ≠ none.address
  | .listId => d.listId ≠ none.listId
  | .canonicalName => d.canonicalName ≠ none.canonicalName
  | .addresses => d.addresses ≠ none.addresses
  | .service => d.service ≠ none.service

instance (d : Decision) : DecidablePred (Differs d)
  | .filtered => inferInstanceAs (Decidable (d.filtered ≠ none.filtered))
  | .reason => inferInstanceAs (Decidable (d.reason ≠ none.reason))
  | .rule => inferInstanceAs (Decidable (d.rule ≠ none.rule))
  | .address => inferInstanceAs (Decidable (d.address ≠ none.address))
  | .listId => inferInstanceAs (Decidable (d.listId ≠ none.listId))
  | .canonicalName => inferInstanceAs (Decidable (d.canonicalName ≠ none.canonicalName))
  | .addresses => inferInstanceAs (Decidable (d.addresses ≠ none.addresses))
  | .service => inferInstanceAs (Decidable (d.service ≠ none.service))

def json (d : Decision) : Field → Json
  | .filtered => .bool d.filtered
  | .reason => .number (decimal d.reason.code)
  | .rule => string d.rule
  | .address => (d.address.map addressJson).getD .null
  | .listId => .number (decimalInt d.listId)
  | .canonicalName => string d.canonicalName
  | .addresses => .array (d.addresses.map addressJson)
  | .service => string d.service

private theorem name_inj {left right : Field} (same : left.name = right.name) : left = right := by
  cases left <;> cases right <;> first | rfl | exact absurd same (by decide)

private theorem filter_all (field : Field) : all.filter (· = field) = [field] := by
  cases field <;> rfl

end Field

variable {d : Decision}

private theorem fields_eq (d : Decision) :
    d.fields = (Field.all.filter fun field => field.Differs d).map fun field =>
      (field.name,field.json d) := by
  have segments : ∀ known : List Field, (known.filter fun field => field.Differs d).map
      (fun field => (field.name,field.json d)) =
        known.flatMap fun field => if field.Differs d then [(field.name,field.json d)] else [] := by
    intro known
    induction known with
    | nil => rfl
    | cons field more ih =>
      by_cases differs : field.Differs d <;> simp [differs,ih]
  have filtered : (if d.filtered then [("IsFiltered",Json.bool true)] else []) =
      if Field.filtered.Differs d then [(Field.filtered.name,Field.filtered.json d)] else [] := by
    cases given : d.filtered <;> simp [Field.Differs,Field.name,Field.json,none,given]
  have reason : (if d.reason.matched then [("Reason",Json.number (decimal d.reason.code))] else []) =
      if Field.reason.Differs d then [(Field.reason.name,Field.reason.json d)] else [] := by
    cases given : d.reason <;> simp [Field.Differs,Field.name,Field.json,none,given,Reason.matched]
  rw [segments,fields,filtered,reason]
  simp only [Field.all,List.flatMap_cons,List.flatMap_nil,List.append_nil,List.append_assoc]
  cases given : d.address with
  | none =>
    have same : ¬ Field.address.Differs d := by simp [Field.Differs,none,given]
    rw [if_neg same]
    rfl
  | some address =>
    have differs : Field.address.Differs d := by simp [Field.Differs,none,given]
    have written : Field.address.json d = addressJson address := by simp [Field.json,given]
    rw [if_pos differs,written]
    rfl

/-- Looking a field up gives what was written of it, or the default if nothing was. -/
theorem field?_fields {α : Type} (field : Field) {default value : α} {read : Json → Option α}
    (differs : field.Differs d → read (field.json d) = some value)
    (same : ¬ field.Differs d → default = value) :
    field? d.fields field.name default read = some value := by
  have found : d.fields.filter (fun entry => entry.1 == field.name) =
      if field.Differs d then [(field.name,field.json d)] else [] := by
    have names : (fun entry : String × Json => entry.1 == field.name) ∘
        (fun other : Field => (other.name,other.json d)) = fun other => decide (other = field) := by
      ext other
      by_cases equal : other = field
      · simp [equal]
      · simp [equal,mt Field.name_inj equal]
    rw [fields_eq,List.filter_map,names,List.filter_filter]
    have swapped : (fun other => decide (other = field) && decide (other.Differs d)) =
        fun other => decide (field.Differs d) && decide (other = field) := by
      ext other
      by_cases equal : other = field
      · simp [equal]
      · simp [equal]
    rw [swapped]
    by_cases differs : field.Differs d
    · simp [differs,Field.filter_all]
    · simp [differs]
  rw [field?,found]
  by_cases differs' : field.Differs d
  · rw [if_pos differs']
    exact differs differs'
  · rw [if_neg differs']
    exact congrArg some (same differs')

/-! ### Reading fields -/

private theorem int?_decimalInt (n : Int) : int? (.number (decimalInt n)) = some n := by
  cases n with
  | ofNat n =>
    rw [decimalInt,int?]
    · rw [number?_decimal]
      rfl
    · intro digits same
      obtain ⟨c,more,written,digit⟩ := exists_decimal_cons n
      rw [written] at same
      obtain ⟨rfl,_⟩ := List.cons.inj same
      contradiction
  | negSucc n =>
    rw [decimalInt,int?,number?_decimal]
    rfl

private theorem listId?_decimalInt {n : Int} (fits : -9223372036854775808 ≤ n ∧ n < 9223372036854775808) :
    listId? (.number (decimalInt n)) = some n := by
  rw [listId?,int?_decimalInt,Option.filter_some,if_pos (decide_eq_true fits)]

private theorem reason?_code (reason : Reason) : reason? (.number (decimal reason.code)) =
    some reason := by
  cases reason <;> decide

private theorem address?_addressJson (address : Address) :
    address? (addressJson address) = some address :=
  Address.parse?_toText address

private theorem addresses?_addressJson (addresses : List Address) :
    addresses? (.array (addresses.map addressJson)) = some addresses := by
  rw [addresses?]
  induction addresses with
  | nil => rfl
  | cons address more ih =>
    rw [List.map_cons,List.mapM_cons,address?_addressJson,ih]
    rfl

/-- The number of the list has sixty-four bits with a sign. -/
def Fits (d : Decision) : Prop :=
  -9223372036854775808 ≤ d.listId ∧ d.listId < 9223372036854775808

instance (d : Decision) : Decidable d.Fits := inferInstanceAs (Decidable (_ ∧ _))

private theorem ofFields?_fields (fits : d.Fits) : ofFields? d.fields = some d := by
  have kept : ∀ {α : Type} {left right : α}, ¬ left ≠ right → right = left :=
    fun same => (not_not.mp same).symm
  have filtered := field?_fields (d := d) .filtered (fun _ => (rfl : bool? _ = some d.filtered)) kept
  have reason := field?_fields (d := d) .reason (fun _ => reason?_code d.reason) kept
  have rule := field?_fields (d := d) .rule (fun _ => (rfl : string? _ = some d.rule)) kept
  have address : field? d.fields "IP" .none maybeAddress? = some d.address := by
    refine field?_fields .address ?_ kept
    intro differs
    obtain ⟨address,given⟩ := Option.ne_none_iff_exists'.mp differs
    rw [Field.json,given]
    exact congrArg (Option.map some) (address?_addressJson address)
  have listId := field?_fields (d := d) .listId (fun _ => listId?_decimalInt fits) kept
  have canonicalName :=
    field?_fields (d := d) .canonicalName (fun _ => (rfl : string? _ = some d.canonicalName)) kept
  have addresses := field?_fields (d := d) .addresses (fun _ => addresses?_addressJson d.addresses) kept
  have service := field?_fields (d := d) .service (fun _ => (rfl : string? _ = some d.service)) kept
  simp only [Field.name,none] at filtered reason rule listId canonicalName addresses service
  rw [ofFields?,filtered,reason,rule,address,listId,canonicalName,addresses,service]
  rfl

private theorem plain_fields (d : Decision) : (Json.object d.fields).Plain := by
  have plain : ∀ address, (addressJson address).Plain := fun _ => .string _
  apply Json.Plain.object
  intro entry member
  rw [fields_eq] at member
  obtain ⟨field,_,rfl⟩ := List.mem_map.mp member
  cases field with
  | filtered => exact .bool _
  | reason => exact .number (.ofNat d.reason.code)
  | rule => exact .string _
  | address =>
    rw [Field.json]
    cases d.address with
    | none => exact .null
    | some address => exact plain address
  | listId => exact .number _
  | canonicalName => exact .string _
  | addresses =>
    apply Json.Plain.array
    intro item member
    obtain ⟨address,_,rfl⟩ := List.mem_map.mp member
    exact plain address
  | service => exact .string _

private theorem read?_toJson (d : Decision) : Json.read? d.toJson.toList =
    some (.object d.fields) := by
  rw [toJson,String.toList_ofList]
  exact Json.read?_write (plain_fields d)

theorem printed_toJson (d : Decision) : Json.Printed d.toJson.toList := by
  rw [toJson,String.toList_ofList]
  exact Json.printed_write (plain_fields d)

private theorem parse?_toJson (fits : d.Fits) : parse? d.toJson = some d := by
  rw [parse?,read?_toJson]
  exact ofFields?_fields fits

/-- A decision is read back from its text, which holds one field for each that differs from that of a
decision about nothing, and no other. So two decisions have one text only if they are one. -/
theorem toJson_lossless (d other : Decision) (fits : d.Fits) (otherFits : other.Fits) :
    parse? d.toJson = some d ∧
    (∃ fields, Json.read? d.toJson.toList = some (.object fields) ∧
      fields.map Prod.fst = (Field.all.filter fun field => field.Differs d).map Field.name) ∧
    (d.toJson = other.toJson ↔ d = other) ∧
    (d.toJson = "\x7b\x7d" ↔ d = none) := by
  have inj : ∀ e : Decision, e.Fits → d.toJson = e.toJson → d = e := by
    intro e eFits same
    have found := parse?_toJson fits
    rw [same,parse?_toJson eFits] at found
    exact (Option.some.inj found).symm
  have empty : none.toJson = "\x7b\x7d" := by decide
  refine ⟨parse?_toJson fits,⟨d.fields,read?_toJson d,?_⟩,?_,?_⟩
  · rw [fields_eq,List.map_map]
    rfl
  · exact ⟨inj other otherFits,congrArg toJson⟩
  · rw [← empty]
    exact ⟨inj none (by decide),congrArg toJson⟩

/-- Quotes, control characters, both ends of the numbers and three forms of addresses. -/
theorem toJson_lossless_mixed :
    let d : Decision :=
      { reason := .rewritten, filtered := true, rule := "\"a\\\x00\n\u00e9"
        address := some (.v6 #v[0,0,0,0,0,0xffff,0x102,0x304]), listId := -9223372036854775808
        addresses := [.v4 1 2 3 4,.v6 #v[1,0,0,2,0,0,0,3]] }
    d.Fits ∧ none.Fits ∧ parse? d.toJson = some d ∧ d.toJson ≠ "\x7b\x7d" := by
  intro d
  have fits : d.Fits ∧ none.Fits := by decide
  obtain ⟨parsed,_,_,empty⟩ := toJson_lossless d none fits.1 fits.2
  exact ⟨fits.1,fits.2,parsed,fun same => absurd (empty.mp same) (by decide)⟩

end DnsPolicy.Decision
