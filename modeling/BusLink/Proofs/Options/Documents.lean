import BusLink.Proofs.Options.Fields
import Mathlib

set_option autoImplicit false

namespace BusLink.Options

open Json (Tree Quoted)

namespace Field

/-- The value of an option that a written document means, if it can be one. -/
def decode? : (field : Field) → Tree → Option field.Value
  | .transport, tree => choice? Transport.ofName? tree
  | .retries, tree => word? tree
  | .retryMode, tree => choice? Retry.Mode.ofName? tree
  | .waitUnit, tree => binary64? tree
  | .longestWait, tree => binary64? tree
  | .encoding, tree => Options.text? tree
  | .userAgent, tree => optionalText? tree
  | .customEndpoint, tree => optionalText? tree
  | .subscription, tree => optionalText? tree

theorem put?_eq (field : Field) (options : Options) (tree : Tree) :
    options.put? field tree = (field.decode? tree).map (field.put options) := by
  cases field <;> rfl

def Optional (field : Field) : Prop :=
  field = .userAgent ∨ field = .customEndpoint ∨ field = .subscription

theorem decode?_null (field : Field) :
    (field.Optional → field.decode? .null = some (field.value {})) ∧
      (¬ field.Optional → field.decode? .null = none) := by
  unfold Optional
  cases field <;> simp [decode?, choice?, word?, binary64?, Options.text?, optionalText?, value]

theorem ofName?_eq_some_iff {key : String} {field : Field} :
    ofName? key = some field ↔ key = field.name := by
  constructor
  · intro found
    unfold ofName? at found
    have named := List.find?_some found
    exact (of_decide_eq_true named).symm
  · rintro rfl
    exact ofName?_name field

theorem ofName?_eq_none_iff {key : String} :
    ofName? key = none ↔ ∀ field : Field, key ≠ field.name := by
  simp only [Option.eq_none_iff_forall_ne_some, ne_eq, ofName?_eq_some_iff]

/-- The member carries the name of the option. -/
def About (field : Field) (member : Quoted × Tree) : Prop :=
  Quoted.text? member.1 = some field.name

theorem About.unique {field other : Field} {member : Quoted × Tree} (about : field.About member)
    (aboutOther : other.About member) : field = other := by
  have names : field.name = other.name := Option.some.inj (about.symm.trans aboutOther)
  have found := ofName?_name field
  rw [names, ofName?_name] at found
  exact (Option.some.inj found).symm

/-- The option is what the member about it gives, and stays without such a member. -/
structure Given (field : Field) (members : List (Quoted × Tree)) (old new : field.Value) :
    Prop where
  decoded : ∀ member ∈ members, field.About member → field.decode? member.2 = some new
  missing : (∀ member ∈ members, ¬ field.About member) → new = old

end Field

/-- The name of the member can be read and is the name of no option. -/
def Foreign (member : Quoted × Tree) : Prop :=
  ∃ key, Quoted.text? member.1 = some key ∧ ∀ field : Field, key ≠ field.name

/-- The option that a member is about. -/
def subject? (member : Quoted × Tree) : Option Field :=
  Quoted.text? member.1 >>= Field.ofName?

theorem subject?_eq_some_iff {member : Quoted × Tree} {field : Field} :
    subject? member = some field ↔ field.About member := by
  unfold subject? Field.About
  cases Quoted.text? member.1 with
  | none => simp
  | some key => simp [Field.ofName?_eq_some_iff]

/-- Names can be read, and no option is given twice, nor one that was met before. -/
structure Orderly (met : List Field) (members : List (Quoted × Tree)) : Prop where
  readable : ∀ member ∈ members, (Quoted.text? member.1).isSome = true
  distinct : (members.filterMap subject?).Nodup
  fresh : ∀ field ∈ members.filterMap subject?, field ∉ met

theorem mem_subjects_iff {members : List (Quoted × Tree)} {field : Field} :
    field ∈ members.filterMap subject? ↔ ∃ member ∈ members, field.About member := by
  simp only [List.mem_filterMap, subject?_eq_some_iff]

theorem subject?_eq_none_of_foreign {member : Quoted × Tree} (foreign : Foreign member) :
    subject? member = none := by
  obtain ⟨key, read, unknown⟩ := foreign
  rw [subject?, read]
  exact Field.ofName?_eq_none_iff.mpr unknown

theorem Foreign.not_about {member : Quoted × Tree} (foreign : Foreign member) (field : Field) :
    ¬ field.About member := fun about => by
  cases (subject?_eq_none_of_foreign foreign).symm.trans (subject?_eq_some_iff.mpr about)

theorem orderly_cons_of_foreign {member : Quoted × Tree} (foreign : Foreign member)
    (met : List Field) (members : List (Quoted × Tree)) :
    Orderly met (member :: members) ↔ Orderly met members := by
  have none := subject?_eq_none_of_foreign foreign
  obtain ⟨key, read, _⟩ := foreign
  constructor
  · rintro ⟨readable, distinct, fresh⟩
    rw [List.filterMap_cons_none none] at distinct fresh
    exact ⟨fun other inRest => readable other (List.mem_cons_of_mem _ inRest), distinct, fresh⟩
  · rintro ⟨readable, distinct, fresh⟩
    refine ⟨List.forall_mem_cons.mpr ⟨by rw [read]; rfl, readable⟩, ?_, ?_⟩ <;>
      rwa [List.filterMap_cons_none none]

theorem orderly_cons_of_about {member : Quoted × Tree} {field : Field}
    (about : field.About member) (met : List Field) (members : List (Quoted × Tree)) :
    Orderly met (member :: members) ↔ field ∉ met ∧ Orderly (field :: met) members := by
  have subject := subject?_eq_some_iff.mpr about
  constructor
  · rintro ⟨readable, distinct, fresh⟩
    rw [List.filterMap_cons_some subject] at distinct fresh
    obtain ⟨absent, distinct⟩ := List.nodup_cons.mp distinct
    obtain ⟨new, fresh⟩ := List.forall_mem_cons.mp fresh
    refine ⟨new, fun other inRest => readable other (List.mem_cons_of_mem _ inRest), distinct,
      fun other inRest => ?_⟩
    rw [List.mem_cons, not_or]
    exact ⟨fun same => absent (same ▸ inRest), fresh other inRest⟩
  · rintro ⟨new, readable, distinct, fresh⟩
    simp only [List.mem_cons, not_or] at fresh
    refine ⟨List.forall_mem_cons.mpr ⟨by rw [about]; rfl, readable⟩, ?_, ?_⟩
    · rw [List.filterMap_cons_some subject]
      exact List.nodup_cons.mpr ⟨fun inRest => (fresh field inRest).1 rfl, distinct⟩
    · rw [List.filterMap_cons_some subject]
      exact List.forall_mem_cons.mpr ⟨new, fun other inRest => (fresh other inRest).2⟩

namespace Field

variable {field : Field} {member : Quoted × Tree} {members : List (Quoted × Tree)}
  {old new : field.Value}

theorem given_cons_of_not_about (other : ¬ field.About member) :
    field.Given (member :: members) old new ↔ field.Given members old new := by
  constructor
  · rintro ⟨decoded, missing⟩
    exact ⟨fun found inRest => decoded found (List.mem_cons_of_mem _ inRest),
      fun none => missing (List.forall_mem_cons.mpr ⟨other, none⟩)⟩
  · rintro ⟨decoded, missing⟩
    refine ⟨List.forall_mem_cons.mpr ⟨fun about => absurd about other, decoded⟩, fun none => ?_⟩
    exact missing (List.forall_mem_cons.mp none).2

theorem given_cons_of_about (about : field.About member)
    (only : ∀ other ∈ members, ¬ field.About other) :
    field.Given (member :: members) old new ↔ field.decode? member.2 = some new := by
  constructor
  · intro given
    exact given.decoded member List.mem_cons_self about
  · intro decoded
    exact ⟨List.forall_mem_cons.mpr
        ⟨fun _ => decoded, fun other inRest again => absurd again (only other inRest)⟩,
      fun none => absurd about (none member List.mem_cons_self)⟩

theorem given_of_absent (absent : ∀ other ∈ members, ¬ field.About other) :
    field.Given members old new ↔ new = old :=
  ⟨fun given => given.missing absent, fun same =>
    ⟨fun other inRest about => absurd about (absent other inRest), fun _ => same⟩⟩

end Field

theorem member_cases (member : Quoted × Tree) :
    Quoted.text? member.1 = none ∨ Foreign member ∨ ∃ field : Field, field.About member := by
  cases read : Quoted.text? member.1 with
  | none => exact .inl rfl
  | some key =>
    cases named : Field.ofName? key with
    | none => exact .inr (.inl ⟨key, read, Field.ofName?_eq_none_iff.mp named⟩)
    | some field =>
      exact .inr (.inr ⟨field, by rw [Field.About, read, Field.ofName?_eq_some_iff.mp named]⟩)

section Reading

variable {member : Quoted × Tree} (options : Options) (met : List Field)
  (rest : List (Quoted × Tree))

theorem ofMembers?_cons_of_unreadable (unreadable : Quoted.text? member.1 = none) :
    ofMembers? options met (member :: rest) = none := by
  simp [ofMembers?, unreadable]

theorem ofMembers?_cons_of_foreign (foreign : Foreign member) :
    ofMembers? options met (member :: rest) = ofMembers? options met rest := by
  obtain ⟨key, read, unknown⟩ := foreign
  simp [ofMembers?, read, Field.ofName?_eq_none_iff.mpr unknown]

theorem ofMembers?_cons_of_about {field : Field} (about : field.About member) :
    ofMembers? options met (member :: rest) =
      if field ∈ met then none
      else (field.decode? member.2).bind fun given =>
        ofMembers? (field.put options given) (field :: met) rest := by
  have read : Quoted.text? member.1 = some field.name := about
  simp only [ofMembers?, read, Option.bind_eq_bind, Option.bind_some, Field.ofName?_name,
    Field.put?_eq]
  split
  · rfl
  · cases field.decode? member.2 <;> rfl

end Reading

/-- Where no option is met twice, a member decides its own option and no other. -/
theorem forall_given_cons {field : Field} {member : Quoted × Tree} {met : List Field}
    {rest : List (Quoted × Tree)} {options result : Options} (about : field.About member)
    (orderly : Orderly (field :: met) rest) :
    (∀ asked : Field, asked.Given (member :: rest) (asked.value options) (asked.value result)) ↔
      ∃ given, field.decode? member.2 = some given ∧ ∀ asked : Field,
        asked.Given rest (asked.value (field.put options given)) (asked.value result) := by
  have only : ∀ other ∈ rest, ¬ field.About other := fun other inRest again =>
    orderly.fresh field (mem_subjects_iff.mpr ⟨other, inRest, again⟩) List.mem_cons_self
  have others (given : field.Value) {asked : Field} (different : asked ≠ field) :
      asked.Given (member :: rest) (asked.value options) (asked.value result) ↔
        asked.Given rest (asked.value (field.put options given)) (asked.value result) := by
    rw [Field.value_put_of_ne different]
    exact Field.given_cons_of_not_about fun again => different (again.unique about)
  constructor
  · intro all
    refine ⟨field.value result, (Field.given_cons_of_about about only).mp (all field),
      fun asked => ?_⟩
    by_cases same : asked = field
    · subst same
      rw [Field.value_put]
      exact (Field.given_of_absent only).mpr rfl
    · exact (others _ same).mp (all asked)
  · rintro ⟨given, decoded, all⟩ asked
    by_cases same : asked = field
    · subst same
      have kept := (Field.given_of_absent only).mp (all asked)
      rw [Field.value_put] at kept
      exact (Field.given_cons_of_about about only).mpr (kept ▸ decoded)
    · exact (others given same).mpr (all asked)

/-- What reading the members one by one comes to. -/
theorem ofMembers?_eq_some_iff (members : List (Quoted × Tree)) (options : Options)
    (met : List Field) (result : Options) :
    ofMembers? options met members = some result ↔
      Orderly met members ∧
        ∀ field : Field, field.Given members (field.value options) (field.value result) := by
  induction members generalizing options met with
  | nil =>
    have orderly : Orderly met [] := ⟨by simp, by simp, by simp⟩
    simp only [ofMembers?, Option.some.injEq, orderly, true_and]
    constructor
    · rintro rfl field
      exact (Field.given_of_absent (by simp)).mpr rfl
    · intro given
      exact (eq_of_values fun field => (Field.given_of_absent (by simp)).mp (given field)).symm
  | cons member rest ih =>
    rcases member_cases member with unreadable | foreign | ⟨field, about⟩
    · rw [ofMembers?_cons_of_unreadable _ _ _ unreadable]
      refine iff_of_false (by simp) fun ⟨orderly, _⟩ => ?_
      have readable := orderly.readable member List.mem_cons_self
      rw [unreadable] at readable
      cases readable
    · rw [ofMembers?_cons_of_foreign _ _ _ foreign, ih, orderly_cons_of_foreign foreign]
      exact and_congr_right fun _ => forall_congr' fun field =>
        (Field.given_cons_of_not_about (foreign.not_about field)).symm
    · rw [ofMembers?_cons_of_about _ _ _ about, orderly_cons_of_about about]
      split
      · rename_i again
        exact iff_of_false (by simp) fun ⟨⟨new, _⟩, _⟩ => new again
      · rename_i new
        simp only [Option.bind_eq_some_iff, ih, new, not_false_eq_true, true_and]
        constructor
        · rintro ⟨given, decoded, orderly, all⟩
          exact ⟨orderly, (forall_given_cons about orderly).mpr ⟨given, decoded, all⟩⟩
        · rintro ⟨orderly, all⟩
          obtain ⟨given, decoded, all⟩ := (forall_given_cons about orderly).mp all
          exact ⟨given, decoded, orderly, all⟩

theorem ofTree?_object_eq_some_iff (members : List (Quoted × Tree)) (result : Options) :
    ofTree? (.object members) = some result ↔
      Orderly [] members ∧
        ∀ field : Field, field.Given members (field.value {}) (field.value result) :=
  ofMembers?_eq_some_iff members {} [] result

/-- The same members in another order, but for foreign ones on either side. -/
def Rearranged (members others : List (Quoted × Tree)) : Prop :=
  ∃ added removed, (∀ member ∈ added, Foreign member) ∧ (∀ member ∈ removed, Foreign member) ∧
    (added ++ members).Perm (removed ++ others)

theorem ofTree?_append_foreign {added : List (Quoted × Tree)}
    (foreign : ∀ member ∈ added, Foreign member) (members : List (Quoted × Tree)) :
    ofTree? (.object (added ++ members)) = ofTree? (.object members) := by
  induction added with
  | nil => rfl
  | cons first added ih =>
    obtain ⟨atFirst, later⟩ := List.forall_mem_cons.mp foreign
    rw [← ih later]
    exact ofMembers?_cons_of_foreign _ _ _ atFirst

theorem Orderly.perm {members others : List (Quoted × Tree)} {met : List Field}
    (orderly : Orderly met members) (perm : members.Perm others) : Orderly met others where
  readable member found := orderly.readable member (perm.mem_iff.mpr found)
  distinct := (perm.filterMap subject?).nodup_iff.mp orderly.distinct
  fresh field found := orderly.fresh field ((perm.filterMap subject?).mem_iff.mpr found)

theorem Field.Given.perm {field : Field} {members others : List (Quoted × Tree)}
    {old new : field.Value} (given : field.Given members old new) (perm : members.Perm others) :
    field.Given others old new where
  decoded member found := given.decoded member (perm.mem_iff.mpr found)
  missing absent := given.missing fun member found => absent member (perm.mem_iff.mp found)

theorem ofTree?_perm {members others : List (Quoted × Tree)} (perm : members.Perm others) :
    ofTree? (.object members) = ofTree? (.object others) := by
  apply Option.ext
  intro options
  rw [ofTree?_object_eq_some_iff, ofTree?_object_eq_some_iff]
  exact ⟨fun ⟨orderly, all⟩ => ⟨orderly.perm perm, fun field => (all field).perm perm⟩,
    fun ⟨orderly, all⟩ => ⟨orderly.perm perm.symm, fun field => (all field).perm perm.symm⟩⟩

theorem ofTree?_rearranged {members others : List (Quoted × Tree)}
    (rearranged : Rearranged members others) :
    ofTree? (.object members) = ofTree? (.object others) := by
  obtain ⟨added, removed, foreignAdded, foreignRemoved, perm⟩ := rearranged
  rw [← ofTree?_append_foreign foreignAdded members, ofTree?_perm perm,
    ofTree?_append_foreign foreignRemoved others]

/-- Two members are about one option. -/
def Repeats (members : List (Quoted × Tree)) : Prop :=
  ∃ (field : Field) (first second : Quoted × Tree),
    [first, second].Sublist members ∧ field.About first ∧ field.About second

theorem ofTree?_of_repeats {members : List (Quoted × Tree)} (repeats : Repeats members) :
    ofTree? (.object members) = none := by
  obtain ⟨field, first, second, sublist, aboutFirst, aboutSecond⟩ := repeats
  rw [Option.eq_none_iff_forall_ne_some]
  intro options taken
  obtain ⟨orderly, _⟩ := (ofTree?_object_eq_some_iff members options).mp taken
  have subjects := sublist.filterMap subject?
  rw [List.filterMap_cons_some (subject?_eq_some_iff.mpr aboutFirst),
    List.filterMap_cons_some (subject?_eq_some_iff.mpr aboutSecond), List.filterMap_nil] at subjects
  exact absurd (subjects.nodup orderly.distinct) (by simp)

theorem ofTree?_cons_null {field : Field} {key : Quoted} {members : List (Quoted × Tree)}
    (named : Quoted.text? key = some field.name)
    (absent : ∀ member ∈ members, ¬ field.About member) :
    (field.Optional → ofTree? (.object ((key, .null) :: members)) = ofTree? (.object members)) ∧
      (¬ field.Optional → ofTree? (.object ((key, .null) :: members)) = none) := by
  have about : field.About (key, .null) := named
  have fresh : Orderly [field] members ↔ Orderly [] members := by
    have unmet : field ∉ members.filterMap subject? := fun found => by
      obtain ⟨member, inMembers, again⟩ := mem_subjects_iff.mp found
      exact absent member inMembers again
    constructor
    · rintro ⟨readable, distinct, _⟩
      exact ⟨readable, distinct, by simp⟩
    · rintro ⟨readable, distinct, _⟩
      refine ⟨readable, distinct, fun other found => ?_⟩
      rw [List.mem_singleton]
      rintro rfl
      exact unmet found
  have first : ofTree? (.object ((key, .null) :: members)) =
      (field.decode? .null).bind fun given => ofMembers? (field.put {} given) [field] members := by
    show ofMembers? {} [] _ = _
    rw [ofMembers?_cons_of_about _ _ _ about, if_neg List.not_mem_nil]
  rw [first]
  constructor
  · intro optional
    rw [(Field.decode?_null field).1 optional, Option.bind_some, Field.put_value]
    apply Option.ext
    intro options
    rw [ofMembers?_eq_some_iff, ofTree?_object_eq_some_iff, fresh]
  · intro required
    rw [(Field.decode?_null field).2 required, Option.bind_none]

/-- A list of values is read as the object that gives them to the first options. -/
theorem ofItems?_eq {members : List (Quoted × Tree)} {fields met : List Field}
    (titled : List.Forall₂ Field.About (fields.take members.length) members)
    (distinct : fields.Nodup) (fresh : ∀ field ∈ fields, field ∉ met) (options : Options) :
    ofItems? options fields (members.map Prod.snd) = ofMembers? options met members := by
  induction members generalizing options met fields with
  | nil => cases fields <;> rfl
  | cons member rest ih =>
    cases fields with
    | nil => cases titled
    | cons field fields =>
      rw [List.length_cons, List.take_succ_cons] at titled
      obtain ⟨about, titled⟩ := List.forall₂_cons.mp titled
      obtain ⟨absent, distinct⟩ := List.nodup_cons.mp distinct
      obtain ⟨new, fresh⟩ := List.forall_mem_cons.mp fresh
      have later (options : Options) := ih titled distinct
        (fun other inRest => by
          rw [List.mem_cons, not_or]
          exact ⟨fun same => absent (same ▸ inRest), fresh other inRest⟩ :
          ∀ other ∈ fields, other ∉ field :: met) options
      rw [ofMembers?_cons_of_about _ _ _ about, if_neg new, List.map_cons]
      simp only [ofItems?, Field.put?_eq, later, Option.bind_eq_bind]
      cases field.decode? member.2 <;> rfl

theorem ofItems?_of_long {fields : List Field} {items : List Tree}
    (long : fields.length < items.length) (options : Options) :
    ofItems? options fields items = none := by
  induction fields generalizing items options with
  | nil =>
    cases items with
    | nil => cases long
    | cons item items => rfl
  | cons field fields ih =>
    cases items with
    | nil => cases long
    | cons item items =>
      simp only [ofItems?, ih (Nat.lt_of_succ_lt_succ long)]
      cases options.put? field item <;> rfl

/-- The text is written like this. -/
def Spells (content : String) (tree : Tree) : Prop :=
  Tree.read? content.toList = some tree

theorem read?_of_spells {content : String} {tree : Tree} (spells : Spells content tree) :
    read? content = ofTree? tree := by
  have read : Tree.read? content.toList = some tree := spells
  rw [read?, read]
  rfl

/-- An object is read option by option: it is accepted exactly if its names can be read, no option
is given twice, and the member about an option has a value of that option, which it then is; the
other options keep their defaults. Neither the order of the members nor foreign ones count, and null
is refused but by the texts that may be missing. A list is read as the object that gives its values
to the first options, and is refused if it is too long. -/
theorem read?_account :
    (∀ content members options, Spells content (.object members) →
      (read? content = some options ↔ Orderly [] members ∧
        ∀ field : Field, field.Given members (field.value {}) (field.value options))) ∧
    (∀ content content' members members', Spells content (.object members) →
      Spells content' (.object members') → Rearranged members members' →
      read? content = read? content') ∧
    (∀ content members, Spells content (.object members) → Repeats members →
      read? content = none) ∧
    (∀ content content' before after key, ∀ field : Field,
      Spells content (.object (before ++ after)) →
      Spells content' (.object (before ++ (key, .null) :: after)) →
      Quoted.text? key = some field.name → (∀ member ∈ before ++ after, ¬ field.About member) →
      (field.Optional → read? content' = read? content) ∧
      (¬ field.Optional → read? content' = none)) ∧
    (∀ content content' items members, Spells content (.list items) →
      Spells content' (.object members) → members.map Prod.snd = items →
      List.Forall₂ Field.About (Field.all.take items.length) members →
      read? content = read? content') ∧
    ∀ content items, Spells content (.list items) → 9 < items.length → read? content = none := by
  refine ⟨?_, ?_, ?_, ?_, ?_, ?_⟩
  · intro content members options spells
    rw [read?_of_spells spells]
    exact ofTree?_object_eq_some_iff members options
  · intro content content' members members' spells spells' rearranged
    rw [read?_of_spells spells, read?_of_spells spells', ofTree?_rearranged rearranged]
  · intro content members spells repeats
    rw [read?_of_spells spells, ofTree?_of_repeats repeats]
  · intro content content' before after key field spells spells' named absent
    rw [read?_of_spells spells, read?_of_spells spells', ofTree?_perm List.perm_middle]
    exact ofTree?_cons_null named absent
  · rintro content content' _ members spells spells' rfl titled
    rw [read?_of_spells spells, read?_of_spells spells']
    rw [List.length_map] at titled
    exact ofItems?_eq titled Field.nodup_all (by simp) {}
  · intro content items spells long
    have long : Field.all.length < items.length := long
    rw [read?_of_spells spells]
    exact ofItems?_of_long long {}

def plainly (text : String) : Quoted :=
  text.toList.map .character

def fiveRetries : Quoted × Tree :=
  (plainly "retry_total", .number ⟨false, ['5'], none, none⟩)

def sixRetries : Quoted × Tree :=
  (plainly "retry" ++ .unit 0x5F :: plainly "total", .number ⟨false, ['6'], none, none⟩)

def hugeNumber : Quoted × Tree :=
  (plainly "x", .list [.number ⟨false, ['1'], none, some (false, ['9', '9', '9'])⟩])

def emptyObject : Quoted × Tree :=
  (plainly "y", .object [])

/-- Foreign members come and go, a name that is written in two ways is given twice, null stands for
a missing text only, and a list is read as its object. -/
theorem read?_account_fiveRetries :
    (∃ options, read? "\x7b\"retry_total\":5,\"x\":[1e999]\x7d" = some options ∧
      options.retries = 5 ∧ options.encoding = "UTF-8") ∧
    read? "\x7b\"retry_total\":5,\"x\":[1e999]\x7d" =
      read? "\x7b\"y\":\x7b\x7d,\"retry_total\":5\x7d" ∧
    read? "\x7b\"retry_total\":5,\"retry\\u005ftotal\":6\x7d" = none ∧
    read? "\x7b\"y\":\x7b\x7d,\"user_agent\":null,\"retry_total\":5\x7d" =
      read? "\x7b\"y\":\x7b\x7d,\"retry_total\":5\x7d" ∧
    read? "\x7b\"y\":\x7b\x7d,\"encoding\":null,\"retry_total\":5\x7d" = none ∧
    read? "[\"amqp\",5]" = read? "\x7b\"transport_type\":\"amqp\",\"retry_total\":5\x7d" ∧
    read? "[0,0,0,0,0,0,0,0,0,0]" = none := by
  obtain ⟨decoded, rearranged, repeated, null, list, long⟩ := read?_account
  have foreignX : Foreign hugeNumber := ⟨"x", rfl, fun field => by cases field <;> decide⟩
  have foreignY : Foreign emptyObject := ⟨"y", rfl, fun field => by cases field <;> decide⟩
  have spellsX : Spells "\x7b\"retry_total\":5,\"x\":[1e999]\x7d"
      (.object [fiveRetries, hugeNumber]) := by
    unfold Spells
    cbv
  have spellsY : Spells "\x7b\"y\":\x7b\x7d,\"retry_total\":5\x7d"
      (.object [emptyObject, fiveRetries]) := by
    unfold Spells
    cbv
  have about : Field.retries.About fiveRetries := rfl
  have others {field : Field} (different : field ≠ .retries) :
      ∀ member ∈ [emptyObject, fiveRetries], ¬ field.About member := by
    simp only [List.forall_mem_cons]
    exact ⟨foreignY.not_about field, fun again => different (again.unique about), by simp⟩
  refine ⟨?_, ?_, ?_, ?_, ?_, ?_, ?_⟩
  · have read (base : Options) :
        ofMembers? base [] [fiveRetries, hugeNumber] = some { base with retries := 5 } := rfl
    obtain ⟨options, taken⟩ : ∃ options,
        read? "\x7b\"retry_total\":5,\"x\":[1e999]\x7d" = some options :=
      ⟨_, (read?_of_spells spellsX).trans (read {})⟩
    obtain ⟨_, given⟩ := (decoded _ _ _ spellsX).mp taken
    have retries := (given .retries).decoded fiveRetries (by simp) about
    have encoding := (given .encoding).missing <| List.forall_mem_cons.mpr
      ⟨fun again => absurd (again.unique about) (by decide),
        by simpa using foreignX.not_about .encoding⟩
    have five : Field.retries.decode? fiveRetries.2 = some (5 : UInt32) := by decide
    exact ⟨options, taken, (Option.some.inj (five.symm.trans retries)).symm, encoding⟩
  · have perm : ([emptyObject, fiveRetries] ++ [hugeNumber]).Perm
        ([hugeNumber] ++ [emptyObject, fiveRetries]) := List.perm_append_comm
    exact rearranged _ _ _ _ spellsX spellsY
      ⟨[emptyObject], [hugeNumber], by simpa, by simpa, perm⟩
  · refine repeated _ [fiveRetries, sixRetries] ?_ ⟨.retries, _, _, .refl _, about, rfl⟩
    unfold Spells
    cbv
  · refine (null _ _ [emptyObject] [fiveRetries] (plainly "user_agent") .userAgent spellsY ?_ rfl
      (others (by decide))).1 (by simp [Field.Optional])
    unfold Spells
    cbv
  · refine (null _ _ [emptyObject] [fiveRetries] (plainly "encoding") .encoding spellsY ?_ rfl
      (others (by decide))).2 (by simp [Field.Optional])
    unfold Spells
    cbv
  · refine list _ _ [.text (plainly "amqp"), fiveRetries.2]
      [(plainly "transport_type", .text (plainly "amqp")), fiveRetries] ?_ ?_ rfl ?_
    · unfold Spells
      cbv
    · unfold Spells
      cbv
    · exact .cons rfl (.cons rfl .nil)
  · refine long _ (List.replicate 10 (.number ⟨false, ['0'], none, none⟩)) ?_ (by simp)
    unfold Spells
    cbv

end BusLink.Options
