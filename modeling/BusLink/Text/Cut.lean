set_option autoImplicit false

namespace BusLink.Text

/-- The pieces between separators: always one more than there are separators. -/
def pieces (isSeparator : Char → Bool) : List Char → List (List Char)
  | [] => [[]]
  | character :: rest =>
    match pieces isSeparator rest with
    | [] => [[character]]
    | piece :: others =>
      if isSeparator character then [] :: piece :: others
      else (character :: piece) :: others

/-- What stands before and after the first occurrence of a character. -/
def cutAt (mark : Char) : List Char → Option (List Char × List Char)
  | [] => none
  | character :: rest =>
    if character = mark then some ([], rest)
    else (cutAt mark rest).map fun halves => (character :: halves.1, halves.2)

def afterSlashes : List Char → Option (List Char)
  | '/' :: '/' :: rest => some rest
  | _ :: rest => afterSlashes rest
  | [] => none

def following? {α : Type} [DecidableEq α] : List α → List α → Option (List α)
  | [], rest => some rest
  | _ :: _, [] => none
  | expected :: start, first :: rest => if first = expected then following? start rest else none

/-- Whether a text stands somewhere within another. -/
def occursIn (part : List Char) : List Char → Bool
  | [] => part.isEmpty
  | character :: rest => part.isPrefixOf (character :: rest) || occursIn part rest

/-- The text after the first double slash, or all of it if there is none. -/
def withoutScheme (address : List Char) : List Char :=
  (afterSlashes address).getD address

def stripScheme (address : String) : String :=
  String.ofList (withoutScheme address.toList)

theorem following?_eq_some_iff {α : Type} [DecidableEq α] (start whole rest : List α) :
    following? start whole = some rest ↔ whole = start ++ rest := by
  induction start generalizing whole with
  | nil => simp [following?]
  | cons expected start ih =>
    cases whole with
    | nil => simp [following?]
    | cons first whole => by_cases same : first = expected <;> simp [following?, same, ih]

theorem eq_of_append_mark {α : Type} {mark : α} {left right after behind : List α}
    (absentLeft : mark ∉ left) (absentRight : mark ∉ right)
    (same : left ++ mark :: after = right ++ mark :: behind) : left = right := by
  induction left generalizing right with
  | nil =>
    cases right with
    | nil => rfl
    | cons first rest => simp_all
  | cons first rest ih =>
    cases right with
    | nil => simp_all
    | cons other others =>
      obtain ⟨head, tail⟩ := List.cons.inj same
      have inner := ih (fun found => absentLeft (by simp [found]))
        (fun found => absentRight (by simp [found])) tail
      rw [head, inner]

theorem pieces_ne_nil (isSeparator : Char → Bool) (characters : List Char) :
    pieces isSeparator characters ≠ [] := by
  induction characters with
  | nil => simp [pieces]
  | cons character rest ih =>
    unfold pieces
    split
    · simp
    · split <;> simp

theorem cutAt_eq_none_iff (mark : Char) (characters : List Char) :
    cutAt mark characters = none ↔ mark ∉ characters := by
  induction characters with
  | nil => simp [cutAt]
  | cons character rest ih =>
    by_cases same : character = mark
    · simp [cutAt, same]
    · simp [cutAt, same, ih, Ne.symm same]

theorem cutAt_append (mark : Char) (before after : List Char) (absent : mark ∉ before) :
    cutAt mark (before ++ mark :: after) = some (before, after) := by
  induction before with
  | nil => simp [cutAt]
  | cons character rest ih =>
    have other : character ≠ mark := fun same => absent (by simp [same])
    simp [cutAt, other, ih (fun found => absent (by simp [found]))]

theorem eq_of_cutAt {mark : Char} {text before after : List Char}
    (cut : cutAt mark text = some (before, after)) : text = before ++ mark :: after := by
  induction text generalizing before with
  | nil => simp [cutAt] at cut
  | cons character rest ih =>
    by_cases same : character = mark
    · simp [cutAt, same] at cut
      simp [← cut.1, ← cut.2, same]
    · simp [cutAt, same] at cut
      obtain ⟨tail, found, rfl⟩ := cut
      simp [ih found]

end BusLink.Text
