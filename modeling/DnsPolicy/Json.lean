/-! JSON values. Numbers keep their spelling. -/
namespace DnsPolicy

inductive Json where
  | null
  | bool (value : Bool)
  | number (literal : List Char)
  | string (content : String)
  /-- A string with escapes that do not make up a text, or an object with such a name. -/
  | broken
  | array (items : List Json)
  | object (fields : List (String × Json))

end DnsPolicy
