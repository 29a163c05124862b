namespace Stencil.Text

/-- Structured data as it is printed; the fields of a record keep their order. -/
inductive Json where
  | null
  | flag (value : Bool)
  | text (value : String)
  | list (items : List Json)
  | record (fields : List (String × Json))

namespace Json

def hexDigit (n : Nat) : Char :=
  "0123456789abcdef".toList.getD n '0'

/-- Quotes, backslashes and control characters are escaped, all else stands for itself. -/
def escapeChar (c : Char) : List Char :=
  match c with
  | '"' => ['\\', '"']
  | '\\' => ['\\', '\\']
  | '\n' => ['\\', 'n']
  | '\r' => ['\\', 'r']
  | '\t' => ['\\', 't']
  | '\x08' => ['\\', 'b']
  | '\x0c' => ['\\', 'f']
  | c =>
    if c.toNat < 0x20 then ['\\', 'u', '0', '0', hexDigit (c.toNat / 16), hexDigit (c.toNat % 16)]
    else [c]

def quote (s : String) : String :=
  String.ofList ('"' :: s.toList.flatMap escapeChar ++ ['"'])

mutual
def compact : Json → String
  | null => "null"
  | flag value => if value then "true" else "false"
  | text value => quote value
  | list items => "[" ++ compactItems items ++ "]"
  | record fields => "\x7b" ++ compactFields fields ++ "\x7d"

def compactItems : List Json → String
  | [] => ""
  | [item] => item.compact
  | item :: rest => item.compact ++ "," ++ compactItems rest

def compactFields : List (String × Json) → String
  | [] => ""
  | [(key, value)] => quote key ++ ":" ++ value.compact
  | (key, value) :: rest => quote key ++ ":" ++ value.compact ++ "," ++ compactFields rest
end

def indentation (depth : Nat) : String :=
  "\n" ++ String.ofList (List.replicate (2 * depth) ' ')

mutual
/-- The printed form with one entry a line, two spaces for each level; empty ones stay closed up. -/
def prettyAt (depth : Nat) : Json → String
  | null => "null"
  | flag value => if value then "true" else "false"
  | text value => quote value
  | list [] => "[]"
  | list (item :: rest) => "[" ++ prettyItems depth (item :: rest) ++ indentation depth ++ "]"
  | record [] => "\x7b\x7d"
  | record (field :: rest) =>
    "\x7b" ++ prettyFields depth (field :: rest) ++ indentation depth ++ "\x7d"

def prettyItems (depth : Nat) : List Json → String
  | [] => ""
  | [item] => indentation (depth + 1) ++ item.prettyAt (depth + 1)
  | item :: rest => indentation (depth + 1) ++ item.prettyAt (depth + 1) ++ "," ++ prettyItems depth rest

def prettyFields (depth : Nat) : List (String × Json) → String
  | [] => ""
  | [(key, value)] => indentation (depth + 1) ++ quote key ++ ": " ++ value.prettyAt (depth + 1)
  | (key, value) :: rest =>
    indentation (depth + 1) ++ quote key ++ ": " ++ value.prettyAt (depth + 1) ++ "," ++
      prettyFields depth rest
end

def pretty (json : Json) : String :=
  json.prettyAt 0

end Stencil.Text.Json
