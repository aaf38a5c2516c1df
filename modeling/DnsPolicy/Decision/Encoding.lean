import DnsPolicy.Address.Printer
import DnsPolicy.Address.Reader
import DnsPolicy.Decision
import DnsPolicy.Json.Printer
import DnsPolicy.Json.Reader

/-! Decisions as JSON objects. A field that has its default value is left out. -/
namespace DnsPolicy.Decision
open DnsPolicy.Text

def string (text : String) : Json := .string text

def addressJson (address : Address) : Json := string address.toText

def fields (d : Decision) : List (String × Json) :=
  (if d.filtered then [("IsFiltered",.bool true)] else [])
    ++ (if d.reason.matched then [("Reason",.number (decimal d.reason.code))] else [])
    ++ (if d.rule ≠ "" then [("Rule",string d.rule)] else [])
    ++ (match d.address with
        | some address => [("IP",addressJson address)]
        | .none => [])
    ++ (if d.listId ≠ 0 then [("FilterID",.number (decimalInt d.listId))] else [])
    ++ (if d.canonicalName ≠ "" then [("CanonName",string d.canonicalName)] else [])
    ++ (if d.addresses ≠ [] then [("IPList",.array (d.addresses.map addressJson))] else [])
    ++ (if d.service ≠ "" then [("ServiceName",string d.service)] else [])

def toJson (d : Decision) : String := String.ofList (Json.write (.object d.fields))

def fieldNames : List String :=
  ["IsFiltered","Reason","Rule","IP","FilterID","CanonName","IPList","ServiceName"]

def bool? : Json → Option Bool
  | .bool value => some value
  | _ => .none

def string? : Json → Option String
  | .string content => some content
  | _ => .none

/-- A whole number without fraction and exponent. Minus zero is not one. -/
def int? : Json → Option Int
  | .number ('-' :: digits) =>
    match Text.number? 10 digits with
    | some 0 | .none => .none
    | some n => some (-n)
  | .number digits => (Text.number? 10 digits).map Int.ofNat
  | _ => .none

def listId? (json : Json) : Option Int :=
  (int? json).filter fun n => -9223372036854775808 ≤ n ∧ n < 9223372036854775808

def reason? (json : Json) : Option Reason :=
  match int? json with
  | some (.ofNat code) => Reason.ofCode? code
  | _ => .none

def address? (json : Json) : Option Address := (string? json).bind Address.parse?

def maybeAddress? : Json → Option (Option Address)
  | .null => some .none
  | json => (address? json).map some

def addresses? : Json → Option (List Address)
  | .array items => items.mapM address?
  | _ => .none

/-- Reads the field `name` with `read`, or gives `default` where it is missing. A field that is
there twice is refused. -/
def field? {α : Type} (fields : List (String × Json)) (name : String) (default : α)
    (read : Json → Option α) : Option α :=
  match fields.filter (fun field => field.1 == name) with
  | [] => some default
  | [field] => read field.2
  | _ => .none

def ofFields? (fields : List (String × Json)) : Option Decision := do
  return {
    filtered := ← field? fields "IsFiltered" false bool?
    reason := ← field? fields "Reason" .notFound reason?
    rule := ← field? fields "Rule" "" string?
    address := ← field? fields "IP" .none maybeAddress?
    listId := ← field? fields "FilterID" 0 listId?
    canonicalName := ← field? fields "CanonName" "" string?
    addresses := ← field? fields "IPList" [] addresses?
    service := ← field? fields "ServiceName" "" string? }

/-- A decision from an object, or from an array of leading field values in order. -/
def ofJson? : Json → Option Decision
  | .object fields => ofFields? fields
  | .array items =>
    if items.length ≤ fieldNames.length then ofFields? (fieldNames.zip items) else .none
  | _ => .none

def parse? (text : String) : Option Decision := (Json.read? text.toList).bind ofJson?

end DnsPolicy.Decision
