import BusLink.Time.Clock

set_option autoImplicit false

namespace BusLink

/-- Something together with the instant at which it was noted. -/
structure Stamped (ν : Type) where
  instant : Nat
  what : ν
deriving DecidableEq, Repr

structure Course (ν σ α : Type) where
  value : α
  took : Nat
  notes : List (Stamped ν)
  state : σ

/-- A course that is preceded by another one: the times add up and the notes are joined. -/
def Course.after {ν σ α β : Type} (rest : Course ν σ β) (start : Course ν σ α) : Course ν σ β :=
  ⟨rest.value, start.took + rest.took, start.notes ++ rest.notes, rest.state⟩

/-- An activity with notes `ν` over a state `σ`. -/
def Activity (ν σ α : Type) : Type :=
  (now : Nat) → (state : σ) → Course ν σ α

namespace Activity

variable {ν σ τ α β : Type}

/-- An activity that has a value at once. -/
def done (value : α) : Activity ν σ α :=
  fun _ state => ⟨value, 0, [], state⟩

def followedBy (first : Activity ν σ α) (next : α → Activity ν σ β) : Activity ν σ β :=
  fun now state =>
    let start := first now state
    (next start.value (now + start.took) start.state).after start

instance : Monad (Activity ν σ) where
  pure := done
  bind := followedBy

def now : Activity ν σ Nat :=
  fun now state => ⟨now, 0, [], state⟩

def current : Activity ν σ σ :=
  fun _ state => ⟨state, 0, [], state⟩

def update (change : σ → σ) : Activity ν σ Unit :=
  fun _ state => ⟨(), 0, [], change state⟩

def note (what : ν) : Activity ν σ Unit :=
  fun now state => ⟨(), 0, [⟨now, what⟩], state⟩

/-- Waits until the timer goes off. -/
def wait (clock : Clock) (delay : Nat) : Activity ν σ Unit :=
  fun now state => ⟨(), clock.wake now delay - now, [], state⟩

/-- An activity without notes on a part of the state. -/
def onPart (part : σ → τ) (restore : τ → σ → σ) (inner : Activity Empty τ α) : Activity ν σ α :=
  fun now state =>
    let course := inner now (part state)
    ⟨course.value, course.took, [], restore course.state state⟩

/-- An activity that is cut off when a timer goes off first. It comes to its value if it ends no
later than the timer, and to `none` at that instant otherwise; what it did to the state stays. -/
def within (clock : Clock) (limit : Nat) (inner : Activity Empty σ α) :
    Activity Empty σ (Option α) :=
  fun now state =>
    let course := inner now state
    let last := clock.wake now limit
    if now + course.took ≤ last then ⟨some course.value, course.took, [], course.state⟩
    else ⟨none, last - now, [], course.state⟩

@[simp] theorem value_after (rest : Course ν σ β) (start : Course ν σ α) :
    (rest.after start).value = rest.value := rfl

@[simp] theorem took_after (rest : Course ν σ β) (start : Course ν σ α) :
    (rest.after start).took = start.took + rest.took := rfl

@[simp] theorem notes_after (rest : Course ν σ β) (start : Course ν σ α) :
    (rest.after start).notes = start.notes ++ rest.notes := rfl

@[simp] theorem state_after (rest : Course ν σ β) (start : Course ν σ α) :
    (rest.after start).state = rest.state := rfl

theorem after_at_once (rest : Course ν σ β) (value : α) (state : σ) :
    rest.after ⟨value, 0, [], state⟩ = rest := by
  simp only [Course.after, Nat.zero_add, List.nil_append]

@[ext] theorem course_ext {left right : Course ν σ α} (value : left.value = right.value)
    (took : left.took = right.took) (notes : left.notes = right.notes)
    (state : left.state = right.state) : left = right := by
  cases left
  cases right
  simp_all

@[simp] theorem pure_apply (value : α) (now : Nat) (state : σ) :
    (pure value : Activity ν σ α) now state = ⟨value, 0, [], state⟩ := rfl

@[simp] theorem bind_apply (first : Activity ν σ α) (next : α → Activity ν σ β) (now : Nat)
    (state : σ) :
    (first >>= next) now state =
      (next (first now state).value (now + (first now state).took)
        (first now state).state).after (first now state) := rfl

@[simp] theorem map_apply (change : α → β) (activity : Activity ν σ α) (now : Nat) (state : σ) :
    (change <$> activity) now state =
      ⟨change (activity now state).value, (activity now state).took, (activity now state).notes,
        (activity now state).state⟩ := by
  apply course_ext <;> simp [Functor.map, followedBy, done, Course.after]

@[simp] theorem now_apply (instant : Nat) (state : σ) :
    (now : Activity ν σ Nat) instant state = ⟨instant, 0, [], state⟩ := rfl

@[simp] theorem current_apply (instant : Nat) (state : σ) :
    (current : Activity ν σ σ) instant state = ⟨state, 0, [], state⟩ := rfl

@[simp] theorem update_apply (change : σ → σ) (instant : Nat) (state : σ) :
    (update change : Activity ν σ Unit) instant state = ⟨(), 0, [], change state⟩ := rfl

@[simp] theorem note_apply (what : ν) (instant : Nat) (state : σ) :
    (note what : Activity ν σ Unit) instant state = ⟨(), 0, [⟨instant, what⟩], state⟩ := rfl

@[simp] theorem wait_apply (clock : Clock) (delay instant : Nat) (state : σ) :
    (wait clock delay : Activity ν σ Unit) instant state =
      ⟨(), clock.wake instant delay - instant, [], state⟩ := rfl

@[simp] theorem onPart_apply (part : σ → τ) (restore : τ → σ → σ) (inner : Activity Empty τ α)
    (now : Nat) (state : σ) :
    (onPart part restore inner : Activity ν σ α) now state =
      ⟨(inner now (part state)).value, (inner now (part state)).took, [],
        restore (inner now (part state)).state state⟩ := rfl

/-- Cut off or not, an activity is over when the timer goes off. -/
theorem took_within_le (clock : Clock) (limit : Nat) (inner : Activity Empty σ α) (now : Nat)
    (state : σ) : now + (within clock limit inner now state).took ≤ clock.wake now limit := by
  have ahead := clock.now_le_wake now limit
  simp only [within]
  split
  · assumption
  · dsimp only
    omega

theorem map_id_activity (activity : Activity ν σ α) : id <$> activity = activity := by
  funext now state
  simp

theorem pure_bind_activity (value : α) (next : α → Activity ν σ β) :
    (pure value >>= next) = next value := by
  funext now state
  apply course_ext <;> simp

theorem bind_assoc_activity {γ : Type} (first : Activity ν σ α) (second : α → Activity ν σ β)
    (third : β → Activity ν σ γ) :
    (first >>= second >>= third) = first >>= fun value => second value >>= third := by
  funext now state
  apply course_ext <;> simp [Nat.add_assoc]

instance : LawfulMonad (Activity ν σ) :=
  LawfulMonad.mk' _ map_id_activity pure_bind_activity bind_assoc_activity

end Activity
end BusLink
