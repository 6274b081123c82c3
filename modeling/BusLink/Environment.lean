import BusLink.Number.Numeral
import BusLink.Text.Blank
import BusLink.Text.Bytes
import BusLink.Text.Cut

set_option autoImplicit false

namespace BusLink

structure Environment where
  assignments : List (String × List UInt8) := []

namespace Environment

def entry (name : String) (value : List UInt8) : List UInt8 :=
  Text.bytes name ++ 0x3D :: value

/-- The bytes of a variable: what follows its name and an equals sign in the first entry that
starts with them. -/
def value? (environment : Environment) (name : String) : Option (List UInt8) :=
  environment.assignments.findSome? fun (held, value) =>
    Text.following? (entry name []) (entry held value)

theorem following?_entry (name held : String) (value : List UInt8)
    (plain : 0x3D ∉ Text.bytes name) (plainHeld : 0x3D ∉ Text.bytes held) :
    Text.following? (entry name []) (entry held value) =
      if name = held then some value else none := by
  split
  · rename_i same
    rw [same, Text.following?_eq_some_iff]
    simp [entry]
  · rename_i different
    cases found : Text.following? (entry name []) (entry held value) with
    | none => rfl
    | some rest =>
      rw [Text.following?_eq_some_iff] at found
      simp only [entry, List.append_assoc, List.singleton_append] at found
      have same := Text.eq_of_append_mark plainHeld plain found
      exact absurd (Text.bytes_injective same.symm) different

/-- Without equals signs in names, a variable is looked up by its name. -/
theorem value?_eq_lookup (environment : Environment) (name : String)
    (plain : 0x3D ∉ Text.bytes name)
    (plainAll : ∀ held ∈ environment.assignments, 0x3D ∉ Text.bytes held.1) :
    environment.value? name = environment.assignments.lookup name := by
  obtain ⟨assignments⟩ := environment
  simp only [value?]
  induction assignments with
  | nil => rfl
  | cons first rest ih =>
    have others := ih fun held member => plainAll held (by simp [member])
    rw [List.findSome?_cons, List.lookup_cons, others,
      following?_entry name first.1 first.2 plain (plainAll first (by simp))]
    by_cases same : name = first.1
    · simp [same]
    · simp [same, beq_false_of_ne same]

inductive Problem where
  | notFound (name : String)
  | invalidUtf8 (name : String)
  | empty (name : String)
  | invalid (name value reason : String)
deriving DecidableEq, Repr

def Problem.message : Problem → String
  | .notFound name =>
    "Environment variable '" ++ name ++
      "' not found. Please set this variable in your .env file or environment."
  | .invalidUtf8 name =>
    "Environment variable '" ++ name ++
      "' contains invalid UTF-8 characters. Please check the value."
  | .empty name =>
    "Environment variable '" ++ name ++ "' is empty. Please provide a valid value."
  | .invalid name value reason =>
    "Environment variable '" ++ name ++ "' has an invalid value '" ++ value ++ "': " ++ reason

/-- The text of a variable without blanks around it. -/
def text (environment : Environment) (name : String) : Except Problem String :=
  match environment.value? name with
  | none => .error (.notFound name)
  | some content =>
    match Text.ofBytes? content with
    | none => .error (.invalidUtf8 name)
    | some spelled =>
      let trimmed := Text.trim spelled
      if trimmed.isEmpty then .error (.empty name) else .ok trimmed

/-- The text of a variable, if it has any. -/
def text? (environment : Environment) (name : String) : Option String :=
  (environment.text name).toOption

def parsed {α : Type} (environment : Environment) (read : String → Except String α)
    (name : String) : Except Problem α :=
  match environment.text name with
  | .error problem => .error problem
  | .ok content => (read content).mapError (.invalid name content)

/-- The value of a variable, if it is set and not blank. -/
def parsed? {α : Type} (environment : Environment) (read : String → Except String α)
    (name : String) : Except Problem (Option α) :=
  match environment.parsed read name with
  | .ok value => .ok (some value)
  | .error (.notFound _) => .ok none
  | .error (.empty _) => .ok none
  | .error problem => .error problem

def readWord (content : String) : Except String UInt32 :=
  ((Numeral.readNat (Nat.pow 2 32 - 1) content.toList).mapError Numeral.IntegerFlaw.message).map
    UInt32.ofNat

def readInteger (content : String) : Except String Int :=
  (Numeral.readInt64 content.toList).mapError Numeral.IntegerFlaw.message

def readBool (content : String) : Except String Bool :=
  if content = "true" then .ok true
  else if content = "false" then .ok false
  else .error "provided string was not `true` or `false`"

def readBinary64 (content : String) : Except String Binary64 :=
  match Numeral.readBinary64? content.toList with
  | some value => .ok value
  | none => .error "invalid float literal"

end Environment
end BusLink
