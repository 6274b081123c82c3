import BusLink.Options.Overlay
import BusLink.Proofs.Options.Fields
import BusLink.Proofs.Retry.Waits
import BusLink.Proofs.Text.Pieces

set_option autoImplicit false

namespace BusLink

open Text (isBlank)

namespace Environment

/-- The bytes of a variable spell no text. -/
def Garbled (environment : Environment) (name : String) : Prop :=
  ∃ content, environment.value? name = some content ∧ Text.ofBytes? content = none

/-- A variable has a text that is not blank, which is this one without the blanks around it. -/
def Tells (environment : Environment) (name trimmed : String) : Prop :=
  ∃ content spelled, environment.value? name = some content ∧
    Text.ofBytes? content = some spelled ∧
    (∃ character ∈ spelled.toList, isBlank character = false) ∧ trimmed = Text.trim spelled

/-- A variable is missing or has a blank text. -/
def Silent (environment : Environment) (name : String) : Prop :=
  ∀ content, environment.value? name = some content →
    ∃ spelled, Text.ofBytes? content = some spelled ∧
      ∀ character ∈ spelled.toList, isBlank character = true

variable {environment : Environment} {name trimmed : String}

theorem Tells.unique {other : String} (told : environment.Tells name trimmed)
    (toldOther : environment.Tells name other) : trimmed = other := by
  obtain ⟨content, spelled, found, reads, _, rfl⟩ := told
  obtain ⟨content', spelled', found', reads', _, rfl⟩ := toldOther
  obtain rfl := Option.some.inj (found.symm.trans found')
  rw [Option.some.inj (reads.symm.trans reads')]

theorem Tells.not_garbled (told : environment.Tells name trimmed) : ¬ environment.Garbled name := by
  obtain ⟨content, spelled, found, reads, _⟩ := told
  rintro ⟨content', found', unread⟩
  obtain rfl := Option.some.inj (found.symm.trans found')
  cases reads.symm.trans unread

theorem Silent.not_garbled (silent : environment.Silent name) : ¬ environment.Garbled name := by
  rintro ⟨content, found, unread⟩
  obtain ⟨spelled, reads, _⟩ := silent content found
  cases reads.symm.trans unread

theorem Silent.not_tells (silent : environment.Silent name) : ¬ environment.Tells name trimmed := by
  rintro ⟨content, spelled, found, reads, ⟨character, member, dark⟩, _⟩
  obtain ⟨spelled', reads', blank⟩ := silent content found
  obtain rfl := Option.some.inj (reads.symm.trans reads')
  exact Bool.false_ne_true (dark.symm.trans (blank character member))

theorem text_cases (environment : Environment) (name : String) :
    (environment.Silent name ∧ (environment.text name = .error (.notFound name) ∨
        environment.text name = .error (.empty name))) ∨
      (environment.Garbled name ∧ environment.text name = .error (.invalidUtf8 name)) ∨
      ∃ trimmed, environment.Tells name trimmed ∧ environment.text name = .ok trimmed := by
  unfold text
  cases found : environment.value? name with
  | none => exact .inl ⟨fun _ other => (nomatch found.symm.trans other), .inl rfl⟩
  | some content =>
    dsimp only
    cases reads : Text.ofBytes? content with
    | none => exact .inr (.inl ⟨⟨content, found, reads⟩, rfl⟩)
    | some spelled =>
      dsimp only
      split
      · rename_i gone
        refine .inl ⟨fun content' found' => ⟨spelled, ?_, Text.isEmpty_trim_iff.mp gone⟩, .inr rfl⟩
        rw [← Option.some.inj (found.symm.trans found'), reads]
      · rename_i some
        have dark := mt Text.isEmpty_trim_iff.mpr some
        simp only [not_forall, Bool.not_eq_true] at dark
        obtain ⟨character, member, dark⟩ := dark
        exact .inr (.inr ⟨Text.trim spelled,
          ⟨content, spelled, found, reads, ⟨character, member, dark⟩, rfl⟩, rfl⟩)

theorem text?_cases (environment : Environment) (name : String) :
    ((¬ ∃ trimmed, environment.Tells name trimmed) ∧ environment.text? name = none) ∨
      ∃ trimmed, environment.Tells name trimmed ∧ environment.text? name = some trimmed := by
  unfold text?
  rcases text_cases environment name with ⟨silent, missing | blank⟩ | ⟨garbled, unread⟩ |
    ⟨trimmed, told, found⟩
  · exact .inl ⟨fun ⟨_, told⟩ => silent.not_tells told, by rw [missing]; rfl⟩
  · exact .inl ⟨fun ⟨_, told⟩ => silent.not_tells told, by rw [blank]; rfl⟩
  · exact .inl ⟨fun ⟨_, told⟩ => told.not_garbled garbled, by rw [unread]; rfl⟩
  · exact .inr ⟨trimmed, told, by rw [found]; rfl⟩

end Environment

namespace Options

/-- A variable from which one of the options is read. -/
structure Source where
  field : Field
  name : String
  read : String → Except String field.Value

namespace Source

def retries : Source :=
  ⟨.retries, "SERVICEBUS_RETRY_TOTAL", Environment.readWord⟩

def retryMode : Source :=
  ⟨.retryMode, "SERVICEBUS_RETRY_MODE", Retry.Mode.read⟩

def waitUnit : Source :=
  ⟨.waitUnit, "SERVICEBUS_RETRY_BACKOFF_FACTOR", Environment.readBinary64⟩

def longestWait : Source :=
  ⟨.longestWait, "SERVICEBUS_RETRY_BACKOFF_MAX", Environment.readBinary64⟩

def transport : Source :=
  ⟨.transport, "SERVICEBUS_TRANSPORT_TYPE", Transport.read⟩

def customEndpoint : Source :=
  ⟨.customEndpoint, "SERVICEBUS_CUSTOM_ENDPOINT_ADDRESS", fun text => .ok (some text)⟩

def userAgent : Source :=
  ⟨.userAgent, "SERVICEBUS_USER_AGENT", fun text => .ok (some text)⟩

/-- The variables that have to be read, in the order in which they are tried. -/
def strict : List Source :=
  [retries, retryMode, waitUnit, longestWait, transport]

/-- The variables whose text is taken as it is. -/
def lenient : List Source :=
  [customEndpoint, userAgent]

/-- The variable is garbled, or what it tells is not to be read. -/
def Unusable (source : Source) (environment : Environment) : Prop :=
  environment.Garbled source.name ∨
    ∃ trimmed reason, environment.Tells source.name trimmed ∧ source.read trimmed = .error reason

/-- A problem of the variable. -/
inductive Complaint (source : Source) (environment : Environment) : Environment.Problem → Prop
  | garbled (garbled : environment.Garbled source.name) :
    source.Complaint environment (.invalidUtf8 source.name)
  | unread {trimmed reason : String} (told : environment.Tells source.name trimmed)
    (unread : source.read trimmed = .error reason) :
    source.Complaint environment (.invalid source.name trimmed reason)

/-- The option is what the variable tells, and stays if it tells nothing. -/
structure Settled (source : Source) (environment : Environment) (old new : Options) : Prop where
  told : ∀ trimmed, environment.Tells source.name trimmed →
    source.read trimmed = .ok (source.field.value new)
  untold : (¬ ∃ trimmed, environment.Tells source.name trimmed) →
    source.field.value new = source.field.value old

/-- Puts what the variable tells over the option. -/
def settle (environment : Environment) (options : Options) (source : Source) :
    Except Fault Options :=
  (overlaid environment source.read source.name (source.field.value options)).map
    (source.field.put options)

variable {source : Source} {environment : Environment} {old new : Options}

theorem Complaint.unusable {problem : Environment.Problem}
    (complaint : source.Complaint environment problem) : source.Unusable environment := by
  cases complaint with
  | garbled garbled => exact .inl garbled
  | unread told unread => exact .inr ⟨_, _, told, unread⟩

theorem Complaint.message {problem : Environment.Problem}
    (complaint : source.Complaint environment problem) :
    ∃ rest, problem.message = "Environment variable '" ++ source.name ++ "'" ++ rest := by
  have quote : "' contains invalid UTF-8 characters. Please check the value." =
      "'" ++ " contains invalid UTF-8 characters. Please check the value." := by decide
  have quote' : "' has an invalid value '" = "'" ++ " has an invalid value '" := by decide
  cases complaint with
  | garbled =>
    refine ⟨" contains invalid UTF-8 characters. Please check the value.", ?_⟩
    unfold Environment.Problem.message
    dsimp only
    rw [quote, ← String.append_assoc]
  | @unread trimmed reason =>
    refine ⟨" has an invalid value '" ++ trimmed ++ "': " ++ reason, ?_⟩
    unfold Environment.Problem.message
    dsimp only
    rw [quote']
    simp only [String.append_assoc]

theorem Settled.congr {old' new' : Options} (settled : source.Settled environment old new)
    (sameOld : source.field.value old' = source.field.value old)
    (sameNew : source.field.value new' = source.field.value new) :
    source.Settled environment old' new' where
  told trimmed told := by rw [sameNew, settled.told trimmed told]
  untold untold := by rw [sameNew, sameOld, settled.untold untold]

theorem settle_cases (source : Source) (environment : Environment) (options : Options) :
    (∃ problem, source.Complaint environment problem ∧
        settle environment options source = .error (.configuration problem.message)) ∨
      (environment.Silent source.name ∧ settle environment options source = .ok options) ∨
      ∃ trimmed given, environment.Tells source.name trimmed ∧ source.read trimmed = .ok given ∧
        settle environment options source = .ok (source.field.put options given) := by
  unfold settle overlaid Environment.parsed? Environment.parsed
  rcases environment.text_cases source.name with ⟨silent, missing | blank⟩ | ⟨garbled, unread⟩ |
    ⟨trimmed, told, found⟩
  · exact .inr (.inl ⟨silent, by simp [missing, Except.map]⟩)
  · exact .inr (.inl ⟨silent, by simp [blank, Except.map]⟩)
  · exact .inl ⟨_, .garbled garbled, by simp [unread, Except.map]⟩
  · rw [found]
    cases read : source.read trimmed with
    | error reason =>
      exact .inl ⟨_, .unread told read, by simp [read, Except.map, Except.mapError]⟩
    | ok given =>
      exact .inr (.inr ⟨trimmed, given, told, read, by simp [read, Except.map, Except.mapError]⟩)

theorem not_unusable_of_silent (silent : environment.Silent source.name) :
    ¬ source.Unusable environment := by
  rintro (garbled | ⟨_, _, told, _⟩)
  · exact silent.not_garbled garbled
  · exact silent.not_tells told

theorem not_unusable_of_read {trimmed : String} {given : source.field.Value}
    (told : environment.Tells source.name trimmed) (read : source.read trimmed = .ok given) :
    ¬ source.Unusable environment := by
  rintro (garbled | ⟨_, _, again, unread⟩)
  · exact told.not_garbled garbled
  · rw [← told.unique again, read] at unread
    cases unread

theorem settled_of_silent (silent : environment.Silent source.name) :
    source.Settled environment old old where
  told _ told := absurd told silent.not_tells
  untold _ := rfl

theorem settled_of_read {trimmed : String} {given : source.field.Value}
    (told : environment.Tells source.name trimmed) (read : source.read trimmed = .ok given) :
    source.Settled environment old (source.field.put old given) where
  told other again := by rw [← told.unique again, read, Field.value_put]
  untold untold := absurd ⟨trimmed, told⟩ untold

theorem settled_of_settle (settles : settle environment old source = .ok new) :
    ¬ source.Unusable environment ∧ source.Settled environment old new ∧
      ∀ other ≠ source.field, other.value new = other.value old := by
  rcases settle_cases source environment old with ⟨_, _, failed⟩ | ⟨silent, kept⟩ |
    ⟨trimmed, given, told, read, taken⟩
  · cases failed.symm.trans settles
  · obtain rfl := Except.ok.inj (kept.symm.trans settles)
    exact ⟨not_unusable_of_silent silent, settled_of_silent silent, fun _ _ => rfl⟩
  · obtain rfl := Except.ok.inj (taken.symm.trans settles)
    exact ⟨not_unusable_of_read told read, settled_of_read told read,
      fun _ different => Field.value_put_of_ne different old given⟩

theorem complaint_of_settle {fault : Fault}
    (failed : settle environment old source = .error fault) :
    ∃ problem, source.Complaint environment problem ∧ fault = .configuration problem.message := by
  rcases settle_cases source environment old with ⟨problem, complaint, other⟩ | ⟨_, kept⟩ |
    ⟨_, _, _, _, taken⟩
  · exact ⟨problem, complaint, Except.error.inj (failed.symm.trans other)⟩
  · cases kept.symm.trans failed
  · cases taken.symm.trans failed

theorem settle_again {base : Options} (usable : ¬ source.Unusable environment)
    (settled : source.Settled environment base old) :
    settle environment old source = .ok old := by
  rcases settle_cases source environment old with ⟨_, complaint, _⟩ | ⟨_, kept⟩ |
    ⟨trimmed, given, told, read, taken⟩
  · exact absurd complaint.unusable usable
  · exact kept
  · have same := Except.ok.inj (read.symm.trans (settled.told trimmed told))
    rw [taken, same, Field.put_value]

/-- What a row of variables does to the options, if each has an option of its own. -/
theorem settled_of_foldlM {sources : List Source} (distinct : (sources.map Source.field).Nodup)
    (settles : sources.foldlM (settle environment) old = .ok new) :
    (∀ source ∈ sources, ¬ source.Unusable environment ∧ source.Settled environment old new) ∧
      ∀ field ∉ sources.map Source.field, field.value new = field.value old := by
  induction sources generalizing old with
  | nil =>
    cases settles
    exact ⟨by simp, fun _ _ => rfl⟩
  | cons first rest ih =>
    rw [List.foldlM_cons] at settles
    obtain ⟨next, atFirst, later⟩ := bind_eq_ok_iff.mp settles
    rw [List.map_cons, List.nodup_cons] at distinct
    obtain ⟨usable, settled, others⟩ := settled_of_settle atFirst
    obtain ⟨laterSettled, laterOthers⟩ := ih distinct.2 later
    constructor
    · intro source member
      rcases List.mem_cons.mp member with rfl | inRest
      · exact ⟨usable, settled.congr rfl (laterOthers source.field distinct.1)⟩
      · obtain ⟨usable, settled⟩ := laterSettled source inRest
        have different : source.field ≠ first.field := fun same =>
          distinct.1 (same ▸ List.mem_map_of_mem inRest)
        exact ⟨usable, settled.congr (others source.field different).symm rfl⟩
    · intro field absent
      rw [List.map_cons, List.mem_cons, not_or] at absent
      rw [laterOthers field absent.2, others field absent.1]

/-- A row of variables fails at the first that cannot be used. -/
theorem complaint_of_foldlM {sources : List Source} {fault : Fault}
    (failed : sources.foldlM (settle environment) old = .error fault) :
    ∃ before source after, sources = before ++ source :: after ∧
      (∀ earlier ∈ before, ¬ earlier.Unusable environment) ∧
      ∃ problem, source.Complaint environment problem ∧ fault = .configuration problem.message := by
  induction sources generalizing old with
  | nil => cases failed
  | cons first rest ih =>
    rw [List.foldlM_cons] at failed
    rcases bind_eq_error_iff.mp failed with atOnce | ⟨next, settles, later⟩
    · exact ⟨[], first, rest, rfl, by simp, complaint_of_settle atOnce⟩
    · obtain ⟨before, source, after, rfl, usable, blamed⟩ := ih later
      refine ⟨first :: before, source, after, rfl, fun earlier member => ?_, blamed⟩
      rcases List.mem_cons.mp member with rfl | inBefore
      · exact (settled_of_settle settles).1
      · exact usable earlier inBefore

theorem foldlM_again {sources : List Source} (base : Options)
    (settled : ∀ source ∈ sources,
      ¬ source.Unusable environment ∧ source.Settled environment base old) :
    sources.foldlM (settle environment) old = .ok old := by
  induction sources with
  | nil => rfl
  | cons first rest ih =>
    obtain ⟨⟨usable, done⟩, others⟩ := List.forall_mem_cons.mp settled
    rw [List.foldlM_cons, settle_again usable done]
    exact ih others

end Source

/-- Options with the texts of the two lenient variables put over them. -/
def withTexts (environment : Environment) (options : Options) : Options :=
  { options with
    customEndpoint :=
      environment.text? "SERVICEBUS_CUSTOM_ENDPOINT_ADDRESS" <|> options.customEndpoint
    userAgent := environment.text? "SERVICEBUS_USER_AGENT" <|> options.userAgent }

/-- The overlay is a loop over the strict variables, and then takes the texts. -/
theorem withEnvironment_eq (environment : Environment) (base : Options) :
    base.withEnvironment environment =
      (Source.strict.foldlM (Source.settle environment) base).map (withTexts environment) := by
  have mapped {α β γ : Type} (first : Except Fault α) (next : α → Except Fault β) (last : β → γ) :
      (first >>= next).map last = first >>= fun found => (next found).map last := by
    cases first <;> rfl
  have settled {β : Type} (options : Options) (source : Source) (next : Options → Except Fault β) :
      (source.settle environment options >>= next) =
        overlaid environment source.read source.name (source.field.value options) >>= fun given =>
          next (source.field.put options given) := by
    unfold Source.settle
    cases overlaid environment source.read source.name (source.field.value options) <;> rfl
  unfold Source.strict Source.retries Source.retryMode Source.waitUnit Source.longestWait
    Source.transport
  simp only [List.foldlM_cons, List.foldlM_nil, settled, mapped]
  rfl

theorem value_withTexts_of_notMem {field : Field} (absent : field ∉ Source.lenient.map Source.field)
    (environment : Environment) (options : Options) :
    field.value (withTexts environment options) = field.value options := by
  cases field <;> first | rfl | exact absurd (by decide) absent

theorem settled_withTexts {source : Source} (member : source ∈ Source.lenient)
    (environment : Environment) (options : Options) :
    source.Settled environment options (withTexts environment options) := by
  have text (name : String) (field base : Option String)
      (overlaid : field = (environment.text? name <|> base)) :
      (∀ trimmed, environment.Tells name trimmed → field = some trimmed) ∧
        ((¬ ∃ trimmed, environment.Tells name trimmed) → field = base) := by
    rcases environment.text?_cases name with ⟨untold, none⟩ | ⟨trimmed, told, found⟩
    · exact ⟨fun trimmed told => absurd ⟨trimmed, told⟩ untold,
        fun _ => by rw [overlaid, none]; rfl⟩
    · refine ⟨fun other again => ?_, fun untold => absurd ⟨trimmed, told⟩ untold⟩
      rw [overlaid, found, ← told.unique again]
      rfl
  rcases List.mem_pair.mp member with rfl | rfl
  all_goals
    obtain ⟨told, untold⟩ := text _ _ _ rfl
    exact ⟨fun trimmed tells => congrArg Except.ok (told trimmed tells).symm, untold⟩

theorem withTexts_again (environment : Environment) (options : Options) :
    withTexts environment (withTexts environment options) = withTexts environment options := by
  unfold withTexts
  cases environment.text? "SERVICEBUS_CUSTOM_ENDPOINT_ADDRESS" <;>
    cases environment.text? "SERVICEBUS_USER_AGENT" <;> rfl

theorem withEnvironment_eq_ok_iff {environment : Environment} {base options : Options} :
    base.withEnvironment environment = .ok options ↔
      ∃ settled, Source.strict.foldlM (Source.settle environment) base = .ok settled ∧
        withTexts environment settled = options := by
  rw [withEnvironment_eq]
  cases Source.strict.foldlM (Source.settle environment) base <;> simp [Except.map]

theorem withEnvironment_eq_error_iff {environment : Environment} {base : Options} {fault : Fault} :
    base.withEnvironment environment = .error fault ↔
      Source.strict.foldlM (Source.settle environment) base = .error fault := by
  rw [withEnvironment_eq]
  cases Source.strict.foldlM (Source.settle environment) base <;> simp [Except.map]

theorem distinct_sources : ((Source.strict ++ Source.lenient).map Source.field).Nodup := by
  decide

theorem settled_of_withEnvironment {environment : Environment} {base options : Options}
    (taken : base.withEnvironment environment = .ok options) :
    (∀ source ∈ Source.strict, ¬ source.Unusable environment) ∧
      (∀ source ∈ Source.strict ++ Source.lenient, source.Settled environment base options) ∧
      ∀ field ∉ (Source.strict ++ Source.lenient).map Source.field,
        field.value options = field.value base := by
  obtain ⟨settled, settles, rfl⟩ := withEnvironment_eq_ok_iff.mp taken
  have distinct := distinct_sources
  rw [List.map_append, List.nodup_append] at distinct
  obtain ⟨strictDistinct, _, apart⟩ := distinct
  obtain ⟨strict, kept⟩ := Source.settled_of_foldlM strictDistinct settles
  refine ⟨fun source member => (strict source member).1, fun source member => ?_,
    fun field absent => ?_⟩
  · rcases List.mem_append.mp member with isStrict | isLenient
    · have other : source.field ∉ Source.lenient.map Source.field := fun found =>
        apart _ (List.mem_map_of_mem isStrict) _ found rfl
      exact (strict source isStrict).2.congr rfl
        (value_withTexts_of_notMem other environment settled)
    · have other : source.field ∉ Source.strict.map Source.field := fun found =>
        apart _ found _ (List.mem_map_of_mem isLenient) rfl
      exact (settled_withTexts isLenient environment settled).congr
        (kept source.field other).symm rfl
  · rw [List.map_append, List.mem_append, not_or] at absent
    rw [value_withTexts_of_notMem absent.2, kept field absent.1]

/-- A second overlay of the same environment changes nothing. -/
theorem withEnvironment_again {environment : Environment} {base options : Options}
    (taken : base.withEnvironment environment = .ok options) :
    options.withEnvironment environment = .ok options := by
  obtain ⟨usable, settled, _⟩ := settled_of_withEnvironment taken
  obtain ⟨_, _, rfl⟩ := withEnvironment_eq_ok_iff.mp taken
  refine withEnvironment_eq_ok_iff.mpr ⟨_, Source.foldlM_again base fun source member => ?_,
    withTexts_again environment _⟩
  exact ⟨usable source member, settled source (List.mem_append_left _ member)⟩

/-- The overlay fails exactly if one of the variables that have to be read cannot be used, and
blames the first of these by its name. Otherwise every option with a variable is what the variable
tells and stays as it was if the variable tells nothing, and the other two options stay. Doing it
twice is doing it once. -/
theorem withEnvironment_account (environment : Environment) (base : Options) :
    ((∃ fault, base.withEnvironment environment = .error fault) ↔
      ∃ source ∈ Source.strict, source.Unusable environment) ∧
    (∀ fault, base.withEnvironment environment = .error fault →
      ∃ before source after, Source.strict = before ++ source :: after ∧
        (∀ earlier ∈ before, ¬ earlier.Unusable environment) ∧
        ∃ problem rest, source.Complaint environment problem ∧
          fault = .configuration problem.message ∧
          problem.message = "Environment variable '" ++ source.name ++ "'" ++ rest) ∧
    (∀ options, base.withEnvironment environment = .ok options →
      (∀ source ∈ Source.strict ++ Source.lenient, source.Settled environment base options) ∧
      options.encoding = base.encoding ∧ options.subscription = base.subscription) ∧
    (base.withEnvironment environment >>= (·.withEnvironment environment)) =
      base.withEnvironment environment ∧
    ofEnvironment environment = withEnvironment environment {} := by
  have blamed (fault : Fault) (failed : base.withEnvironment environment = .error fault) :=
    Source.complaint_of_foldlM (withEnvironment_eq_error_iff.mp failed)
  refine ⟨⟨?_, ?_⟩, ?_, ?_, ?_, rfl⟩
  · rintro ⟨fault, failed⟩
    obtain ⟨before, source, after, whole, _, problem, complaint, _⟩ := blamed fault failed
    exact ⟨source, by simp [whole], complaint.unusable⟩
  · rintro ⟨source, member, unusable⟩
    cases taken : base.withEnvironment environment with
    | error fault => exact ⟨fault, rfl⟩
    | ok options => exact absurd unusable ((settled_of_withEnvironment taken).1 source member)
  · intro fault failed
    obtain ⟨before, source, after, whole, usable, problem, complaint, same⟩ := blamed fault failed
    obtain ⟨rest, wording⟩ := complaint.message
    exact ⟨before, source, after, whole, usable, problem, rest, complaint, same, wording⟩
  · intro options taken
    obtain ⟨_, settled, others⟩ := settled_of_withEnvironment taken
    exact ⟨settled, others .encoding (by decide), others .subscription (by decide)⟩
  · cases taken : base.withEnvironment environment with
    | error fault => rfl
    | ok options => exact withEnvironment_again taken

/-- The third strict variable and a lenient one are garbled, and the second is not to be read. -/
def muddled : Environment :=
  ⟨[("SERVICEBUS_RETRY_BACKOFF_FACTOR", [0xFF]), ("SERVICEBUS_USER_AGENT", [0xFF]),
    ("SERVICEBUS_RETRY_MODE", Text.bytes " linear")]⟩

/-- One strict variable tells something, and a lenient one is garbled. -/
def orderly : Environment :=
  ⟨[("SERVICEBUS_RETRY_TOTAL", Text.bytes " +7 "), ("SERVICEBUS_USER_AGENT", [0xFF])]⟩

/-- The second variable is blamed before the third, and a garbled text changes nothing. -/
theorem withEnvironment_account_muddled :
    (∃ problem rest, withEnvironment muddled {} = .error (.configuration problem) ∧
      problem = "Environment variable '" ++ "SERVICEBUS_RETRY_MODE" ++ "'" ++ rest) ∧
    ∃ options, withEnvironment orderly { userAgent := some "base" } = .ok options ∧
      options.retries = 7 ∧ options.userAgent = some "base" := by
  have silent {environment : Environment} {name : String}
      (missing : environment.value? name = none) : environment.Silent name := fun _ found =>
    nomatch missing.symm.trans found
  constructor
  · have account := withEnvironment_account muddled {}
    have told : muddled.Tells "SERVICEBUS_RETRY_MODE" "linear" :=
      ⟨_, " linear", by decide, Text.ofBytes?_bytes " linear", ⟨'l', by decide, rfl⟩, by decide⟩
    have unusable : Source.retryMode.Unusable muddled := .inr ⟨"linear", _, told, rfl⟩
    have quiet : ¬ Source.retries.Unusable muddled :=
      Source.not_unusable_of_silent (silent (by decide))
    obtain ⟨fault, failed⟩ := account.1.mpr ⟨Source.retryMode, by simp [Source.strict], unusable⟩
    obtain ⟨before, source, after, whole, usable, problem, rest, complaint, rfl, wording⟩ :=
      account.2.1 fault failed
    rcases before with _ | ⟨first, _ | ⟨second, more⟩⟩
    · cases whole
      exact absurd complaint.unusable quiet
    · cases whole
      exact ⟨problem.message, rest, failed, wording⟩
    · obtain ⟨_, tail⟩ := List.cons.inj whole
      obtain ⟨rfl, _⟩ := List.cons.inj tail
      exact absurd unusable (usable Source.retryMode (by simp))
  · have account := withEnvironment_account orderly { userAgent := some "base" }
    have told : orderly.Tells "SERVICEBUS_RETRY_TOTAL" "+7" :=
      ⟨_, " +7 ", by decide, Text.ofBytes?_bytes " +7 ", ⟨'7', by decide, rfl⟩, by decide⟩
    have read : Source.retries.read "+7" = .ok (7 : UInt32) := rfl
    have garbled : orderly.Garbled "SERVICEBUS_USER_AGENT" := ⟨[0xFF], by decide, by decide⟩
    have usable : ∀ source ∈ Source.strict, ¬ source.Unusable orderly := by
      simp only [Source.strict, List.forall_mem_cons]
      exact ⟨Source.not_unusable_of_read told read,
        Source.not_unusable_of_silent (silent (by decide)),
        Source.not_unusable_of_silent (silent (by decide)),
        Source.not_unusable_of_silent (silent (by decide)),
        Source.not_unusable_of_silent (silent (by decide)), by simp⟩
    cases taken : withEnvironment orderly { userAgent := some "base" } with
    | error fault =>
      obtain ⟨source, member, unusable⟩ := account.1.mp ⟨fault, taken⟩
      exact absurd unusable (usable source member)
    | ok options =>
      obtain ⟨settled, _⟩ := account.2.2.1 options taken
      have retries := (settled Source.retries (by simp [Source.strict])).told "+7" told
      have userAgent := (settled Source.userAgent (by simp [Source.lenient])).untold
        fun ⟨_, told⟩ => told.not_garbled garbled
      exact ⟨options, rfl, Except.ok.inj (retries.symm.trans read), userAgent⟩

end Options
end BusLink
