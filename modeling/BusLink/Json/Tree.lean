import BusLink.Json.Literal
import BusLink.Text.Hex

set_option autoImplicit false

namespace BusLink.Json

/-- A piece of a written string: a character, or a code unit written in hexadecimal. -/
inductive Piece where
  | character (value : Char)
  | unit (code : Nat)
deriving DecidableEq, Repr

abbrev Quoted := List Piece

/-- A document as it is written: it may hold numbers out of range and halves of characters in places
that nobody looks at. -/
inductive Tree where
  | null
  | bool (value : Bool)
  | number (literal : Literal)
  | text (quoted : Quoted)
  | list (items : List Tree)
  | object (members : List (Quoted × Tree))
deriving Repr

namespace Quoted

def isLead (code : Nat) : Bool :=
  0xD800 ≤ code && code < 0xDC00

def isTrail (code : Nat) : Bool :=
  0xDC00 ≤ code && code < 0xE000

/-- The characters of a string; `none` if a half of a pair stands alone. -/
def characters? : Quoted → Option (List Char)
  | [] => some []
  | .character value :: rest => (characters? rest).map (value :: ·)
  | .unit lead :: .unit trail :: rest =>
    if isLead lead then
      if isTrail trail then
        (characters? rest).map
          (Char.ofNat (0x10000 + (lead - 0xD800) * 0x400 + (trail - 0xDC00)) :: ·)
      else none
    else if isTrail lead then none
    else (characters? (.unit trail :: rest)).map (Char.ofNat lead :: ·)
  | .unit code :: rest =>
    if isLead code || isTrail code then none
    else (characters? rest).map (Char.ofNat code :: ·)

def text? (quoted : Quoted) : Option String :=
  (characters? quoted).map String.ofList

def unit? (first second third fourth : Char) : Option Piece := do
  let first ← Text.hexValue? first
  let second ← Text.hexValue? second
  let third ← Text.hexValue? third
  let fourth ← Text.hexValue? fourth
  return .unit (((first * 16 + second) * 16 + third) * 16 + fourth)

def escaped? : Char → Option Char
  | '"' => some '"'
  | '\\' => some '\\'
  | '/' => some '/'
  | 'b' => some '\x08'
  | 'f' => some '\x0c'
  | 'n' => some '\n'
  | 'r' => some '\r'
  | 't' => some '\t'
  | _ => none

/-- The string up to its closing quote, and what follows the quote. Control characters have to be
escaped. -/
def read? : List Char → Option (Quoted × List Char)
  | [] => none
  | '"' :: rest => some ([], rest)
  | '\\' :: 'u' :: first :: second :: third :: fourth :: rest => do
    let piece ← unit? first second third fourth
    let (pieces, rest) ← read? rest
    return (piece :: pieces, rest)
  | '\\' :: letter :: rest => do
    let value ← escaped? letter
    let (pieces, rest) ← read? rest
    return (.character value :: pieces, rest)
  | value :: rest =>
    if value.toNat < 0x20 || value = '\\' then none
    else do
      let (pieces, rest) ← read? rest
      return (.character value :: pieces, rest)

end Quoted

namespace Tree

/-- The four characters that may stand between the parts of a document. -/
def isSpace (character : Char) : Bool :=
  character = ' ' || character = '\t' || character = '\n' || character = '\r'

def skip (characters : List Char) : List Char :=
  characters.dropWhile isSpace

mutual

/-- The value at the start of a text, and what follows it. The depth limits the recursion; twice
the length of the text is enough for every document. -/
def value? : Nat → List Char → Option (Tree × List Char)
  | 0, _ => none
  | depth + 1, characters =>
    match skip characters with
    | 'n' :: 'u' :: 'l' :: 'l' :: rest => some (.null, rest)
    | 't' :: 'r' :: 'u' :: 'e' :: rest => some (.bool true, rest)
    | 'f' :: 'a' :: 'l' :: 's' :: 'e' :: rest => some (.bool false, rest)
    | '"' :: rest => (Quoted.read? rest).map fun (quoted, rest) => (.text quoted, rest)
    | '[' :: rest =>
      match skip rest with
      | ']' :: rest => some (.list [], rest)
      | rest => (items? depth rest).map fun (items, rest) => (.list items, rest)
    | '\x7b' :: rest =>
      match skip rest with
      | '\x7d' :: rest => some (.object [], rest)
      | rest => (members? depth rest).map fun (members, rest) => (.object members, rest)
    | rest => (Literal.read? rest).map fun (literal, rest) => (.number literal, rest)

def items? : Nat → List Char → Option (List Tree × List Char)
  | 0, _ => none
  | depth + 1, characters => do
    let (item, rest) ← value? depth characters
    match skip rest with
    | ']' :: rest => return ([item], rest)
    | ',' :: rest =>
      let (items, rest) ← items? depth rest
      return (item :: items, rest)
    | _ => none

def members? : Nat → List Char → Option (List (Quoted × Tree) × List Char)
  | 0, _ => none
  | depth + 1, characters =>
    match skip characters with
    | '"' :: rest => do
      let (key, rest) ← Quoted.read? rest
      match skip rest with
      | ':' :: rest =>
        let (value, rest) ← value? depth rest
        match skip rest with
        | '\x7d' :: rest => return ([(key, value)], rest)
        | ',' :: rest =>
          let (members, rest) ← members? depth rest
          return ((key, value) :: members, rest)
        | _ => none
      | _ => none
    | _ => none

end

def read? (characters : List Char) : Option Tree :=
  match value? (2 * characters.length + 1) characters with
  | some (tree, rest) => if (skip rest).isEmpty then some tree else none
  | none => none

end Tree
end BusLink.Json
