/-
JSON documents made of texts, lists and objects.

The fields of an object are kept in the order of their names, each name once, so
that equal documents are equal values.  `Json.pretty` writes a document with two
blanks for each level.
-/

namespace GraphPattern

/-- A JSON document. -/
inductive Json where
  | text (s : String)
  | list (items : List Json)
  | object (fields : List (String × Json))

namespace Json

/-- Writes a field among fields in the order of their names. -/
def writeField {α : Type} (name : String) (value : α) : List (String × α) → List (String × α)
  | [] => [(name, value)]
  | (n, v) :: rest =>
    if n = name then (name, value) :: rest
    else if name < n then (name, value) :: (n, v) :: rest
    else (n, v) :: writeField name value rest

/-- The object with the given fields; the last one of a name counts. -/
def ofFields (fields : List (String × Json)) : Json :=
  object (fields.foldl (fun fs f => writeField f.1 f.2 fs) [])

def hexDigit (n : Nat) : Char :=
  if n < 10 then Char.ofNat (0x30 + n) else Char.ofNat (0x61 + (n - 10))

def escapedChar (c : Char) : List Char :=
  if c == '"' then ['\\', '"']
  else if c == '\\' then ['\\', '\\']
  else if c == '\x08' then ['\\', 'b']
  else if c == '\x0c' then ['\\', 'f']
  else if c == '\n' then ['\\', 'n']
  else if c == '\r' then ['\\', 'r']
  else if c == '\t' then ['\\', 't']
  else if c.toNat < 0x20 then
    ['\\', 'u', '0', '0', hexDigit (c.toNat / 16), hexDigit (c.toNat % 16)]
  else [c]

def quoted (s : String) : String :=
  String.ofList ('"' :: (s.toList.flatMap escapedChar ++ ['"']))

def indent (level : Nat) : String := "\n" ++ String.ofList (List.replicate (2 * level) ' ')

mutual

/-- The text of a document that stands at a level. -/
def prettyAt (level : Nat) : Json → String
  | text s => quoted s
  | list [] => "[]"
  | list (x :: xs) => "[" ++ prettyItems (level + 1) (x :: xs) ++ indent level ++ "]"
  | object [] => "\x7b\x7d"
  | object (f :: fs) => "\x7b" ++ prettyFields (level + 1) (f :: fs) ++ indent level ++ "\x7d"

def prettyItems (level : Nat) : List Json → String
  | [] => ""
  | [x] => indent level ++ prettyAt level x
  | x :: xs => indent level ++ prettyAt level x ++ "," ++ prettyItems level xs

def prettyFields (level : Nat) : List (String × Json) → String
  | [] => ""
  | [(name, x)] => indent level ++ quoted name ++ ": " ++ prettyAt level x
  | (name, x) :: fs =>
    indent level ++ quoted name ++ ": " ++ prettyAt level x ++ "," ++ prettyFields level fs

end

def pretty (j : Json) : String := prettyAt 0 j

end Json

end GraphPattern
