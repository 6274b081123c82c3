import BusLink.Text.Blank
import BusLink.Text.Cut
import Mathlib.Data.List.DropRight
import Mathlib.Data.List.TakeWhile

set_option autoImplicit false

namespace BusLink.Text

variable {isSeparator test : Char → Bool}

theorem pieces_cons_of_separator {mark : Char} (separates : isSeparator mark = true)
    (rest : List Char) : pieces isSeparator (mark :: rest) = [] :: pieces isSeparator rest := by
  rw [pieces]
  split
  · rename_i none
    exact absurd none (pieces_ne_nil isSeparator rest)
  · rename_i found
    rw [if_pos separates, found]

theorem pieces_cons_of_other {character : Char} (other : isSeparator character = false)
    (rest : List Char) :
    pieces isSeparator (character :: rest) =
      (pieces isSeparator rest).modifyHead (character :: ·) := by
  rw [pieces]
  split
  · rename_i none
    exact absurd none (pieces_ne_nil isSeparator rest)
  · rename_i found
    rw [found, other]
    rfl

theorem pieces_of_absent {characters : List Char}
    (absent : ∀ character ∈ characters, isSeparator character = false) :
    pieces isSeparator characters = [characters] := by
  induction characters with
  | nil => rfl
  | cons character rest ih =>
    obtain ⟨other, others⟩ := List.forall_mem_cons.mp absent
    rw [pieces_cons_of_other other, ih others]
    rfl

theorem pieces_append {before : List Char} {mark : Char}
    (absent : ∀ character ∈ before, isSeparator character = false)
    (separates : isSeparator mark = true) (after : List Char) :
    pieces isSeparator (before ++ mark :: after) = before :: pieces isSeparator after := by
  induction before with
  | nil => exact pieces_cons_of_separator separates after
  | cons character rest ih =>
    obtain ⟨other, others⟩ := List.forall_mem_cons.mp absent
    rw [List.cons_append, pieces_cons_of_other other, ih others]
    rfl

theorem pieces_eq_splitOnP (characters : List Char) :
    pieces isSeparator characters = characters.splitOnP isSeparator := by
  induction characters with
  | nil => rfl
  | cons character rest ih =>
    rw [List.splitOnP_cons_eq_if_modifyHead, ← ih]
    cases separates : isSeparator character with
    | true => rw [pieces_cons_of_separator separates, if_pos rfl]
    | false => rw [pieces_cons_of_other separates, if_neg Bool.false_ne_true]

theorem pieces_eq_splitOn (mark : Char) (characters : List Char) :
    pieces (· = mark) characters = characters.splitOn mark := by
  rw [pieces_eq_splitOnP, List.splitOn_eq_splitOnP]
  rfl

theorem dropEndWhile_eq_rdropWhile (characters : List Char) :
    dropEndWhile test characters = characters.rdropWhile test :=
  rfl

theorem dropEndWhile_append {mark : Char} (stays : test mark = false) (front back : List Char) :
    dropEndWhile test (front ++ mark :: back) = front ++ mark :: dropEndWhile test back := by
  unfold dropEndWhile
  rw [List.reverse_append, List.reverse_cons, List.append_assoc, List.dropWhile_append]
  split
  · rename_i gone
    rw [List.isEmpty_iff.mp gone]
    simp [stays]
  · simp

theorem dropWhile_append_mark {mark : Char} (stays : test mark = false) (front back : List Char) :
    (front ++ mark :: back).dropWhile test = front.dropWhile test ++ mark :: back := by
  rw [List.dropWhile_append]
  split
  · rename_i gone
    rw [List.isEmpty_iff.mp gone, List.nil_append, List.dropWhile_cons_of_neg (by simp [stays])]
  · rfl

/-- A mark that is no blank parts the blanks at the front from those at the end. -/
theorem trimBlank_append {mark : Char} (stays : isBlank mark = false) (front back : List Char) :
    trimBlank (front ++ mark :: back) =
      front.dropWhile isBlank ++ mark :: dropEndWhile isBlank back := by
  rw [trimBlank, dropWhile_append_mark stays, dropEndWhile_append stays]

theorem trimBlank_eq_nil_iff (characters : List Char) :
    trimBlank characters = [] ↔ ∀ character ∈ characters, isBlank character = true := by
  rw [trimBlank, dropEndWhile_eq_rdropWhile, List.rdropWhile_eq_nil_iff]
  constructor
  · intro gone character member
    rw [← List.takeWhile_append_dropWhile (p := isBlank) (l := characters)] at member
    rcases List.mem_append.mp member with front | back
    · exact List.mem_takeWhile_imp front
    · exact gone character back
  · intro all character member
    exact all character ((List.dropWhile_suffix isBlank).subset member)

theorem isEmpty_trim_iff {text : String} :
    (trim text).isEmpty = true ↔ ∀ character ∈ text.toList, isBlank character = true := by
  rw [String.isEmpty_iff, ← String.toList_eq_nil_iff, toList_trim, trimBlank_eq_nil_iff]

theorem trimBlank_subset (characters : List Char) : trimBlank characters ⊆ characters := by
  intro character member
  have front : character ∈ characters.dropWhile isBlank :=
    (List.rdropWhile_prefix isBlank _).subset member
  exact (List.dropWhile_suffix isBlank).subset front

theorem trimBlank_dropWhile (characters : List Char) :
    trimBlank (characters.dropWhile isBlank) = trimBlank characters := by
  rw [trimBlank, List.dropWhile_idempotent, trimBlank]

theorem trimBlank_dropEndWhile (characters : List Char) :
    trimBlank (dropEndWhile isBlank characters) = trimBlank characters := by
  cases left : characters.dropWhile isBlank with
  | nil =>
    have gone : dropEndWhile isBlank characters = [] := by
      rw [dropEndWhile_eq_rdropWhile, List.rdropWhile_eq_nil_iff]
      exact List.dropWhile_eq_nil_iff.mp left
    rw [gone, trimBlank, trimBlank, left]
    rfl
  | cons first rest =>
    -- The first character that stays parts the two ends.
    have stays : isBlank first = false := by
      have some : characters.dropWhile isBlank ≠ [] := by
        rw [left]
        exact List.cons_ne_nil first rest
      have head := List.head_dropWhile_not isBlank some
      simpa only [left, List.head_cons] using head
    have whole : characters = characters.takeWhile isBlank ++ first :: rest := by
      rw [← left, List.takeWhile_append_dropWhile]
    rw [whole, dropEndWhile_append stays, trimBlank_append stays, trimBlank_append stays,
      dropEndWhile_eq_rdropWhile, dropEndWhile_eq_rdropWhile, List.rdropWhile_idempotent]

theorem trimBlank_trimBlank (characters : List Char) :
    trimBlank (trimBlank characters) = trimBlank characters :=
  calc trimBlank (trimBlank characters) = trimBlank (characters.dropWhile isBlank) :=
        trimBlank_dropEndWhile _
    _ = trimBlank characters := trimBlank_dropWhile _

theorem ends_of_trimBlank {characters : List Char} (trimmed : trimBlank characters = characters) :
    characters.dropWhile isBlank = characters ∧ dropEndWhile isBlank characters = characters := by
  have suffix := List.dropWhile_suffix (l := characters) isBlank
  have front : characters.dropWhile isBlank = characters := by
    apply suffix.eq_of_length
    have ended := (List.rdropWhile_prefix isBlank (characters.dropWhile isBlank)).length_le
    rw [← dropEndWhile_eq_rdropWhile, ← trimBlank, trimmed] at ended
    exact Nat.le_antisymm suffix.length_le ended
  refine ⟨front, ?_⟩
  rw [trimBlank, front] at trimmed
  exact trimmed

theorem trimBlank_surrounded {front back : List Char}
    (blankFront : ∀ character ∈ front, isBlank character = true)
    (blankBack : ∀ character ∈ back, isBlank character = true) (middle : List Char) :
    trimBlank (front ++ middle ++ back) = trimBlank middle := by
  have ended : dropEndWhile isBlank (front ++ middle ++ back) =
      dropEndWhile isBlank (front ++ middle) := by
    unfold dropEndWhile
    rw [List.reverse_append, List.dropWhile_append_of_pos]
    simpa using blankBack
  rw [← trimBlank_dropEndWhile, ended, trimBlank_dropEndWhile, ← trimBlank_dropWhile,
    List.dropWhile_append_of_pos blankFront, trimBlank_dropWhile]

theorem isBlank_of_printed {character : Char} (low : 0x20 < character.toNat)
    (high : character.toNat < 0x7F) : isBlank character = false := by
  rw [← Bool.not_eq_true]
  intro blank
  simp only [isBlank, blankRanges, List.any_cons, List.any_nil, Bool.or_eq_true, Bool.and_eq_true,
    decide_eq_true_eq, Bool.false_eq_true, or_false] at blank
  omega

theorem isBlank_toLower (character : Char) : isBlank character.toLower = isBlank character := by
  unfold Char.toLower
  split
  · rename_i capital
    have code : 65 ≤ character.toNat ∧ character.toNat ≤ 90 := by
      simpa only [ge_iff_le, UInt32.le_iff_toNat_le, Char.toNat_val, Char.reduceToNat] using capital
    have small : (character.val + ('a'.val - 'A'.val)).toNat = character.toNat + 32 := by
      have apart : ('a'.val - 'A'.val).toNat = 32 := rfl
      rw [UInt32.toNat_add, apart, Char.toNat_val]
      omega
    have printed : isBlank character = false := isBlank_of_printed (by omega) (by omega)
    rw [printed]
    apply isBlank_of_printed
    · show _ < (character.val + ('a'.val - 'A'.val)).toNat
      omega
    · show (character.val + ('a'.val - 'A'.val)).toNat < _
      omega
  · rfl

theorem trimBlank_toLower (characters : List Char) :
    trimBlank (characters.map Char.toLower) = (trimBlank characters).map Char.toLower := by
  have same : isBlank ∘ Char.toLower = isBlank := funext isBlank_toLower
  unfold trimBlank dropEndWhile
  rw [List.dropWhile_map, same, ← List.map_reverse, List.dropWhile_map, same, ← List.map_reverse]

theorem halves_of_append_mark {mark : Char} {left right after behind : List Char}
    (absentLeft : mark ∉ left) (absentRight : mark ∉ right)
    (same : left ++ mark :: after = right ++ mark :: behind) : left = right ∧ after = behind := by
  obtain rfl := eq_of_append_mark absentLeft absentRight same
  exact ⟨rfl, (List.cons.inj (List.append_cancel_left same)).2⟩

theorem cutAt_eq_some_iff {mark : Char} {text before after : List Char} :
    cutAt mark text = some (before, after) ↔ text = before ++ mark :: after ∧ mark ∉ before := by
  constructor
  · intro cut
    refine ⟨eq_of_cutAt cut, fun found => ?_⟩
    obtain ⟨front, back, rfl, absent⟩ := List.eq_append_cons_of_mem found
    rw [eq_of_cutAt cut, List.append_assoc, List.cons_append, cutAt_append _ _ _ absent,
      Option.some.injEq, Prod.mk.injEq] at cut
    have shorter := congrArg List.length cut.1
    simp only [List.length_append, List.length_cons] at shorter
    omega
  · rintro ⟨rfl, absent⟩
    exact cutAt_append mark before after absent

/-- Cutting a trimmed text in two gives the same trimmed halves as cutting the text itself. -/
theorem cutAt_trimBlank {mark : Char} (stays : isBlank mark = false) (characters : List Char) :
    (cutAt mark (trimBlank characters)).map (Prod.map trimBlank trimBlank) =
      (cutAt mark characters).map (Prod.map trimBlank trimBlank) := by
  cases cut : cutAt mark characters with
  | none =>
    have absent : mark ∉ trimBlank characters := fun found =>
      (cutAt_eq_none_iff mark characters).mp cut (trimBlank_subset characters found)
    rw [(cutAt_eq_none_iff mark _).mpr absent]
  | some halves =>
    obtain ⟨whole, first⟩ := cutAt_eq_some_iff.mp cut
    have absent : mark ∉ halves.1.dropWhile isBlank := fun found =>
      first ((List.dropWhile_suffix isBlank).subset found)
    rw [whole, trimBlank_append stays, cutAt_append _ _ _ absent, Option.map_some, Option.map_some,
      Prod.map_apply, Prod.map_apply, trimBlank_dropWhile, trimBlank_dropEndWhile]

end BusLink.Text
