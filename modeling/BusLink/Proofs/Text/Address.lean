import BusLink.Proofs.Text.Pieces
import Mathlib.Data.List.Infix

set_option autoImplicit false

namespace BusLink.Text

/-- The first double slash of an address parts it in two. -/
def FirstSlashes (address before rest : List Char) : Prop :=
  address = before ++ '/' :: '/' :: rest ∧
    ∀ earlier others, address = earlier ++ '/' :: '/' :: others → before.length ≤ earlier.length

/-- The part of an address after its first double slash up to the next slash. -/
def HostPart (address part : List Char) : Prop :=
  ∃ before rest, FirstSlashes address before rest ∧ part = rest.takeWhile (· ≠ '/')

theorem FirstSlashes.cons {address before rest : List Char}
    (first : FirstSlashes address before rest) {character : Char}
    (other : ∀ others, character :: address ≠ '/' :: '/' :: others) :
    FirstSlashes (character :: address) (character :: before) rest := by
  obtain ⟨whole, least⟩ := first
  refine ⟨congrArg (character :: ·) whole, fun earlier others same => ?_⟩
  cases earlier with
  | nil => exact absurd same (other others)
  | cons _ earlier => exact Nat.succ_le_succ (least earlier others (List.cons.inj same).2)

theorem firstSlashes_of_notMem {before : List Char} (plain : '/' ∉ before) (rest : List Char) :
    FirstSlashes (before ++ '/' :: '/' :: rest) before rest := by
  induction before with
  | nil => exact ⟨rfl, fun _ _ _ => Nat.zero_le _⟩
  | cons character before ih =>
    refine (ih fun found => plain (List.mem_cons_of_mem _ found)).cons fun others same => ?_
    exact plain (by simp [(List.cons.inj same).1])

theorem FirstSlashes.unique {address before rest before' rest' : List Char}
    (left : FirstSlashes address before rest) (right : FirstSlashes address before' rest') :
    rest = rest' := by
  have lengths : before.length = before'.length :=
    Nat.le_antisymm (left.2 _ _ right.1) (right.2 _ _ left.1)
  have halves := List.append_inj (left.1.symm.trans right.1) lengths
  exact (List.cons.inj (List.cons.inj halves.2).2).2

theorem HostPart.unique {address part part' : List Char} (left : HostPart address part)
    (right : HostPart address part') : part = part' := by
  obtain ⟨before, rest, first, rfl⟩ := left
  obtain ⟨before', rest', first', rfl⟩ := right
  rw [first.unique first']

theorem afterSlashes_spec (address : List Char) :
    (∃ before rest, afterSlashes address = some rest ∧ FirstSlashes address before rest) ∨
      afterSlashes address = none ∧ ∀ before rest, address ≠ before ++ '/' :: '/' :: rest := by
  fun_induction afterSlashes address with
  | case1 rest => exact .inl ⟨[], rest, rfl, rfl, fun _ _ _ => Nat.zero_le _⟩
  | case2 character address other ih =>
    have noStart : ∀ others, character :: address ≠ '/' :: '/' :: others := by
      intro others same
      obtain ⟨rfl, rfl⟩ := List.cons.inj same
      exact other others rfl rfl
    rcases ih with ⟨before, rest, found, first⟩ | ⟨none, absent⟩
    · exact .inl ⟨character :: before, rest, found, first.cons noStart⟩
    · refine .inr ⟨none, fun before rest same => ?_⟩
      cases before with
      | nil => exact noStart rest same
      | cons _ before => exact absent before rest (List.cons.inj same).2
  | case3 =>
    refine .inr ⟨rfl, fun before rest same => ?_⟩
    cases before <;> cases same

theorem FirstSlashes.withoutScheme_eq {address before rest : List Char}
    (first : FirstSlashes address before rest) : withoutScheme address = rest := by
  rcases afterSlashes_spec address with ⟨front, back, found, other⟩ | ⟨_, absent⟩
  · rw [withoutScheme, found, Option.getD_some, other.unique first]
  · exact absurd first.1 (absent before rest)

theorem withoutScheme_of_single {address : List Char} (single : ¬ ['/', '/'] <:+: address) :
    withoutScheme address = address := by
  rcases afterSlashes_spec address with ⟨before, rest, _, whole, _⟩ | ⟨none, _⟩
  · exact absurd ⟨before, rest, by simp [whole]⟩ single
  · rw [withoutScheme, none, Option.getD_none]

theorem withoutScheme_eq_self_iff (address : List Char) :
    withoutScheme address = address ↔ ¬ ['/', '/'] <:+: address := by
  refine ⟨fun same slashes => ?_, withoutScheme_of_single⟩
  obtain ⟨front, back, whole⟩ := slashes
  rcases afterSlashes_spec address with ⟨before, rest, found, first⟩ | ⟨_, absent⟩
  · rw [withoutScheme, found, Option.getD_some] at same
    have shorter := congrArg List.length first.1
    rw [same, List.length_append, List.length_cons, List.length_cons] at shorter
    omega
  · exact absurd (by simpa using whole.symm) (absent front back)

theorem withoutScheme_of_notMem {address : List Char} (plain : '/' ∉ address) :
    withoutScheme address = address :=
  withoutScheme_of_single fun slashes => plain (slashes.subset (by simp))

theorem dropEndWhile_slashes {characters : List Char}
    (kept : dropEndWhile isBlank characters = characters) (slashes : Nat) :
    dropEndWhile isBlank (characters ++ List.replicate slashes '/') =
      characters ++ List.replicate slashes '/' := by
  cases slashes with
  | zero => rw [List.replicate_zero, List.append_nil, kept]
  | succ slashes =>
    rw [List.replicate_succ', ← List.append_assoc, dropEndWhile_eq_rdropWhile,
      List.rdropWhile_concat_neg _ _ _ (by decide)]

theorem dropSlashes_of_notMem {characters : List Char} (plain : '/' ∉ characters) :
    dropEndWhile (· = '/') characters = characters := by
  rw [dropEndWhile_eq_rdropWhile, List.rdropWhile_eq_self_iff]
  intro some slash
  exact plain (of_decide_eq_true slash ▸ List.getLast_mem some)

theorem dropSlashes_append {characters : List Char} (plain : '/' ∉ characters) (slashes : Nat) :
    dropEndWhile (· = '/') (characters ++ List.replicate slashes '/') = characters := by
  induction slashes with
  | zero =>
    rw [List.replicate_zero, List.append_nil, dropSlashes_of_notMem plain]
  | succ slashes ih =>
    rw [List.replicate_succ', ← List.append_assoc, dropEndWhile_eq_rdropWhile,
      List.rdropWhile_concat_pos _ _ _ (by decide), ← dropEndWhile_eq_rdropWhile, ih]

theorem headD_pieces (isSeparator : Char → Bool) (characters : List Char) :
    (pieces isSeparator characters).headD [] = characters.takeWhile (!isSeparator ·) := by
  induction characters with
  | nil => rfl
  | cons character rest ih =>
    cases separates : isSeparator character with
    | true =>
      rw [pieces_cons_of_separator separates, List.takeWhile_cons_of_neg (by simp [separates])]
      rfl
    | false =>
      rw [pieces_cons_of_other separates, List.takeWhile_cons_of_pos (by simp [separates]), ← ih]
      obtain ⟨piece, others, found⟩ := List.exists_cons_of_ne_nil (pieces_ne_nil isSeparator rest)
      rw [found]
      rfl

theorem occursIn_iff (part characters : List Char) :
    occursIn part characters = true ↔ part <:+: characters := by
  induction characters with
  | nil => simp [occursIn]
  | cons character rest ih => simp [occursIn, List.infix_cons_iff, ih]

theorem hostPart_headD {address : List Char} (slashes : ['/', '/'] <:+: address) :
    HostPart address ((pieces (· = '/') (withoutScheme address)).headD []) := by
  obtain ⟨before, rest, whole⟩ := slashes
  rcases afterSlashes_spec address with ⟨front, back, found, first⟩ | ⟨_, absent⟩
  · refine ⟨front, back, first, ?_⟩
    rw [withoutScheme, found, Option.getD_some, headD_pieces]
    simp
  · exact absurd (by simpa using whole.symm) (absent before rest)

end BusLink.Text
