import BusLink.Text.Hex
import BusLink.Text.Hidden

set_option autoImplicit false

namespace BusLink.Text

def codePointDigits (value : Nat) : List Char :=
  match (hexDigits 6 value).dropWhile (· = '0') with
  | [] => ['0']
  | digits => digits

/-- Quotes and backslashes are escaped, four controls have names, and what is hidden is written by
its code point. -/
def quotedCharacter (character : Char) : List Char :=
  if character = '"' then ['\\', '"']
  else if character = '\\' then ['\\', '\\']
  else if character = '\n' then ['\\', 'n']
  else if character = '\r' then ['\\', 'r']
  else if character = '\t' then ['\\', 't']
  else if character.toNat = 0 then ['\\', '0']
  else if isHidden character then
    ['\\', 'u', '\x7b'] ++ codePointDigits character.toNat ++ ['\x7d']
  else [character]

def quoted (text : String) : String :=
  String.ofList ('"' :: text.toList.flatMap quotedCharacter ++ ['"'])

def optional : Option String → String
  | none => "None"
  | some shown => "Some(" ++ shown ++ ")"

def quotedOption (text : Option String) : String :=
  optional (text.map quoted)

def flag (value : Bool) : String :=
  if value then "true" else "false"

def field (name shown : String) : String :=
  name ++ ": " ++ shown

/-- A record as diagnostics show it, with its fields in order. -/
def record (name : String) (fields : List String) : String :=
  name ++ " \x7b " ++ ", ".intercalate fields ++ " \x7d"

end BusLink.Text
