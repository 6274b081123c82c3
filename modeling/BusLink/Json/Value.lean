import BusLink.Json.Tree
import BusLink.Number.Shortest

set_option autoImplicit false

namespace BusLink

/-- A JSON value. -/
inductive Json where
  | null
  | bool (value : Bool)
  | number (value : Json.Number)
  | text (value : String)
  | list (items : List Json)
  | object (members : List (String × Json))
deriving Repr, Inhabited

namespace Json

abbrev Members := List (String × Json)

namespace Members

/-- The value of a key. -/
def find? (key : String) : Members → Option Json
  | [] => none
  | (name, value) :: rest => if name = key then some value else find? key rest

/-- Gives a key a value; the other keys keep theirs. -/
def put (key : String) (value : Json) : Members → Members
  | [] => [(key, value)]
  | (name, old) :: rest =>
    if name = key then (key, value) :: rest else (name, old) :: put key value rest

/-- Adds members one by one, the later value of a key winning. -/
def merge (members added : Members) : Members :=
  added.foldl (fun members member => put member.1 member.2 members) members

theorem find?_put (key other : String) (value : Json) (members : Members) :
    find? other (put key value members) =
      if key = other then some value else find? other members := by
  induction members with
  | nil => simp [put, find?]
  | cons member rest ih =>
    obtain ⟨name, old⟩ := member
    by_cases here : name = key
    · subst here
      by_cases same : name = other <;> simp [put, find?, same]
    · by_cases same : name = other
      · subst same
        simp [put, find?, here, Ne.symm here]
      · simp [put, find?, here, same, ih]

end Members

mutual

/-- The value that a written document means; `none` if a number lies beyond the doubles or a
string holds half a pair. -/
def ofTree? : Tree → Option Json
  | .null => some .null
  | .bool value => some (.bool value)
  | .number literal => literal.number?.map .number
  | .text quoted => (Quoted.text? quoted).map .text
  | .list items => (itemsOfTrees? items).map .list
  | .object members => (membersOfTrees? [] members).map .object

def itemsOfTrees? : List Tree → Option (List Json)
  | [] => some []
  | tree :: rest => do
    let item ← ofTree? tree
    let items ← itemsOfTrees? rest
    return item :: items

def membersOfTrees? : Members → List (Quoted × Tree) → Option Members
  | members, [] => some members
  | members, (quoted, tree) :: rest => do
    let key ← Quoted.text? quoted
    let value ← ofTree? tree
    membersOfTrees? (members.put key value) rest

end

/-- The value that a text spells. -/
def read? (content : String) : Option Json :=
  Tree.read? content.toList >>= ofTree?

def writtenCharacter (character : Char) : List Char :=
  if character = '"' then ['\\', '"']
  else if character = '\\' then ['\\', '\\']
  else if character.toNat < 0x20 then '\\' :: 'u' :: Text.hexDigits 4 character.toNat
  else [character]

def writtenText (value : String) : List Char :=
  '"' :: value.toList.flatMap writtenCharacter ++ ['"']

/-- A number: integers in decimal, doubles with the fewest digits, halves to even, and always with
a point or an exponent. A double that is not finite has no number and becomes null. -/
def writtenNumber : Number → List Char
  | .integer value => Numeral.integer value
  | .real (.finite negative units) =>
    (if negative then ['-'] else []) ++ (Decimal.shortest .toEven units).scientific
  | .real _ => ['n', 'u', 'l', 'l']

mutual

def written : Json → List Char
  | .null => ['n', 'u', 'l', 'l']
  | .bool true => ['t', 'r', 'u', 'e']
  | .bool false => ['f', 'a', 'l', 's', 'e']
  | .number value => writtenNumber value
  | .text value => writtenText value
  | .list items => '[' :: writtenItems items ++ [']']
  | .object members => '\x7b' :: writtenMembers members ++ ['\x7d']

def writtenItems : List Json → List Char
  | [] => []
  | [item] => written item
  | item :: rest => written item ++ ',' :: writtenItems rest

def writtenMembers : List (String × Json) → List Char
  | [] => []
  | [(key, value)] => writtenText key ++ ':' :: written value
  | (key, value) :: rest => writtenText key ++ ':' :: written value ++ ',' :: writtenMembers rest

end

def render (value : Json) : String :=
  String.ofList (written value)

end Json
end BusLink
