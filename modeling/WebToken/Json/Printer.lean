import WebToken.Binary64.Shortest
import WebToken.Json.Basic

/-!
# Compact JSON text

One text for every value: no blanks, members in their order, integers in
decimal, floats by their shortest digits, and only those characters escaped
that JSON requires.
-/

set_option autoImplicit false

namespace WebToken.Json

/-!
## Numbers
-/

def digitsOf (number : Nat) : List Char :=
  Nat.toDigits 10 number

def integerText (value : Int) : List Char :=
  if value < 0 then '-' :: digitsOf value.natAbs else digitsOf value.natAbs

/-- Digits without the zeros at their end. -/
def trimZeros (digits : List Char) : List Char :=
  (digits.reverse.dropWhile (· == '0')).reverse

/-- The digits `d₀d₁d₂…` of the value `d₀.d₁d₂… * 10 ^ exponent`, written out.
From `10 ^ (-5)` up to below `10 ^ 16` the notation is positional, with at least
one digit after the point; beyond, it is scientific with a signed exponent. -/
def placeDigits (digits : List Char) (exponent : Int) : List Char :=
  if -5 ≤ exponent ∧ exponent < 16 then
    if exponent < 0 then
      '0' :: '.' :: (List.replicate (exponent.natAbs - 1) '0' ++ digits)
    else
      let whole := exponent.toNat + 1
      if digits.length ≤ whole then
        digits ++ List.replicate (whole - digits.length) '0' ++ ['.', '0']
      else digits.take whole ++ '.' :: digits.drop whole
  else
    let sign := if exponent < 0 then '-' else '+'
    let fraction := match digits.drop 1 with
      | [] => []
      | rest => '.' :: rest
    digits.take 1 ++ fraction ++ 'e' :: sign :: digitsOf exponent.natAbs

/-- A float by its shortest digits. Zero keeps its sign. -/
def floatText (value : Binary64) : List Char :=
  let magnitude :=
    if value.rank = 0 then ['0', '.', '0']
    else
      let decimal := value.shortest
      let digits := digitsOf decimal.significand
      placeDigits (trimZeros digits) (decimal.exponent + (digits.length - 1 : Nat))
  if value.negative then '-' :: magnitude else magnitude

def Number.text : Number → List Char
  | .integer value _ _ => integerText value
  | .float value => floatText value

/-!
## Strings
-/

def hexDigit (digit : Nat) : Char :=
  if digit < 10 then Char.ofNat (48 + digit) else Char.ofNat (87 + digit)

/-- A character inside a string literal. Quotes, backslashes and the characters
below U+0020 are escaped, by name where JSON has one. -/
def escapeChar (char : Char) : List Char :=
  if char = '"' then ['\\', '"']
  else if char = '\\' then ['\\', '\\']
  else if char.toNat = 8 then ['\\', 'b']
  else if char.toNat = 9 then ['\\', 't']
  else if char.toNat = 10 then ['\\', 'n']
  else if char.toNat = 12 then ['\\', 'f']
  else if char.toNat = 13 then ['\\', 'r']
  else if char.toNat < 32 then
    ['\\', 'u', '0', '0', hexDigit (char.toNat / 16), hexDigit (char.toNat % 16)]
  else [char]

def stringText (text : String) : List Char :=
  '"' :: (text.toList.flatMap escapeChar ++ ['"'])

/-!
## Values
-/

mutual

/-- The text of a value. -/
def chars : Json → List Char
  | .null => ['n', 'u', 'l', 'l']
  | .bool true => ['t', 'r', 'u', 'e']
  | .bool false => ['f', 'a', 'l', 's', 'e']
  | .number value => value.text
  | .string text => stringText text
  | .array [] => ['[', ']']
  | .array (item :: rest) => '[' :: (chars item ++ charsOfItems rest)
  | .object [] => ['\x7b', '\x7d']
  | .object ((name, value) :: rest) =>
      '\x7b' :: (stringText name ++ ':' :: (chars value ++ charsOfMembers rest))

/-- The items after the first one, and the closing bracket. -/
def charsOfItems : List Json → List Char
  | [] => [']']
  | item :: rest => ',' :: (chars item ++ charsOfItems rest)

/-- The members after the first one, and the closing brace. -/
def charsOfMembers : List (String × Json) → List Char
  | [] => ['\x7d']
  | (name, value) :: rest =>
      ',' :: (stringText name ++ ':' :: (chars value ++ charsOfMembers rest))

end

def render (value : Json) : String :=
  String.ofList value.chars

end WebToken.Json
