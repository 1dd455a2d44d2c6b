/-
**Writing JSON text.**

`Json.text` writes a document without blanks. In strings, quotes, backslashes and control
characters are escaped, and every other character stands for itself.
-/

import Sift.Json.Basic
import Sift.Text.Numeral

namespace Sift.Json

/-- The hexadecimal digits of a control character. -/
def hexPair (code : Nat) : List Char :=
  [Nat.digitChar (code / 16), Nat.digitChar (code % 16)]

/-- A character as it is written within a string. -/
def escapedChar (c : Char) : List Char :=
  if c = '"' then ['\\', '"']
  else if c = '\\' then ['\\', '\\']
  else if c = '\n' then ['\\', 'n']
  else if c = '\r' then ['\\', 'r']
  else if c = '\t' then ['\\', 't']
  else if c = '\x08' then ['\\', 'b']
  else if c = '\x0c' then ['\\', 'f']
  else if c.toNat < 0x20 then ['\\', 'u', '0', '0'] ++ hexPair c.toNat
  else [c]

def quoted (value : String) : List Char :=
  '"' :: value.toList.flatMap escapedChar ++ ['"']

mutual

def chars : Json → List Char
  | .null => "null".toList
  | .bool true => "true".toList
  | .bool false => "false".toList
  | .whole value => Text.intChars value
  | .real literal => literal.toList
  | .string value => quoted value
  | .array elements => '[' :: elementChars elements ++ [']']
  | .object members => '{' :: memberChars members ++ ['}']
  | .unreadable written => written.toList

def elementChars : List Json → List Char
  | [] => []
  | [json] => chars json
  | json :: rest => chars json ++ ',' :: elementChars rest

def memberChars : List (String × Json) → List Char
  | [] => []
  | [(key, json)] => quoted key ++ ':' :: chars json
  | (key, json) :: rest => quoted key ++ ':' :: chars json ++ ',' :: memberChars rest

end

def text (json : Json) : String :=
  String.ofList json.chars

end Sift.Json
