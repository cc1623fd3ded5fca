import WebToken.Text.Unprintable

/-!
# Quoted text in diagnostics

A text between quotes in which quotes, backslashes and characters without a
visible form are escaped, so that two different texts never look alike.
-/

set_option autoImplicit false

namespace WebToken.Text

/-- A character inside a quoted text. Escapes by number have no leading zeros. -/
def quoteChar (char : Char) : List Char :=
  if char = '"' then ['\\', '"']
  else if char = '\\' then ['\\', '\\']
  else if char = '\t' then ['\\', 't']
  else if char = '\r' then ['\\', 'r']
  else if char = '\n' then ['\\', 'n']
  else if char.toNat = 0 then ['\\', '0']
  else if isUnprintable char then
    ['\\', 'u', '\x7b'] ++ Nat.toDigits 16 char.toNat ++ ['\x7d']
  else [char]

def quoted (text : String) : String :=
  String.ofList ('"' :: (text.toList.flatMap quoteChar ++ ['"']))

def optional (rendering : Option String) : String :=
  match rendering with
  | none => "None"
  | some rendering => s!"Some({rendering})"

def commaSeparated (renderings : List String) : String :=
  ", ".intercalate renderings

/-- A record by its name and its fields, each already rendered. -/
def record (name : String) (fields : List (String × String)) : String :=
  let rendered := fields.map fun (field, value) => field ++ ": " ++ value
  name ++ " \x7b " ++ commaSeparated rendered ++ " \x7d"

def bracketed (renderings : List String) : String :=
  "[" ++ commaSeparated renderings ++ "]"

/-- What stands for a secret. -/
def redacted : String :=
  quoted "<redacted>"

end WebToken.Text
