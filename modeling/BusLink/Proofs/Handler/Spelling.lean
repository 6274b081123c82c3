import BusLink.Proofs.Handler.Origin
import BusLink.Proofs.Text.Address

set_option autoImplicit false

namespace BusLink

open Text (isBlank trimBlank withoutScheme stripScheme FirstSlashes dropEndWhile)

namespace Options

structure Valid (options : Options) : Prop where
  unit : options.waitUnit.Sensible
  longest : options.longestWait.Sensible
  encoding : Blueprint.Named options.encoding

/-- Valid options are those of which a configuration is made. -/
theorem exists_ofOptions_iff (hostname : String) (options : Options) :
    (∃ configuration, Configuration.ofOptions hostname options = .ok configuration) ↔
      options.Valid := by
  have named : Blueprint.Named options.encoding ↔ (Text.trim options.encoding).isEmpty = false :=
    Blueprint.named_iff options.encoding
  unfold Configuration.ofOptions
  simp only [bind_eq_ok_iff]
  constructor
  · rintro ⟨configuration, _, unit, _, longest, made⟩
    refine ⟨Configuration.checkSeconds_eq_ok_iff.mp unit,
      Configuration.checkSeconds_eq_ok_iff.mp longest, named.mpr ?_⟩
    split at made
    · cases made
    · rename_i some
      exact Bool.not_eq_true _ ▸ some
  · rintro ⟨unit, longest, encoding⟩
    rw [if_neg (by rw [named.mp encoding]; exact Bool.false_ne_true)]
    exact ⟨_, (), Configuration.checkSeconds_eq_ok_iff.mpr unit, (),
      Configuration.checkSeconds_eq_ok_iff.mpr longest, rfl⟩

end Options

namespace Blueprint

/-- A host by itself: some text without blanks at its ends and without slashes. -/
structure IsHost (host : String) : Prop where
  some : host ≠ ""
  plain : '/' ∉ host.toList
  trimmed : Text.trim host = host

structure IsScheme (scheme : String) : Prop where
  some : scheme ≠ ""
  plain : '/' ∉ scheme.toList

/-- A way to write a host. -/
structure Spelling where
  -- The blanks around the whole.
  front : List Char
  back : List Char
  blankFront : ∀ character ∈ front, isBlank character = true
  blankBack : ∀ character ∈ back, isBlank character = true
  -- The scheme, if there is one.
  scheme : Option String
  isScheme : ∀ name, scheme = some name → IsScheme name
  -- The number of slashes behind the host.
  slashes : Nat

namespace Spelling

def start (spelling : Spelling) : List Char :=
  spelling.scheme.elim [] fun name => name.toList ++ [':', '/', '/']

def write (spelling : Spelling) (host : String) : String :=
  String.ofList (spelling.front ++
    (spelling.start ++ (host.toList ++ List.replicate spelling.slashes '/')) ++ spelling.back)

/-- The slashes behind the host are not taken for the end of a scheme. -/
def Clear (spelling : Spelling) : Prop :=
  spelling.scheme.isSome = true ∨ spelling.slashes ≤ 1

variable (spelling : Spelling) {host : String}

theorem trimBlank_write (host : String) :
    trimBlank (spelling.write host).toList =
      trimBlank (spelling.start ++ (host.toList ++ List.replicate spelling.slashes '/')) := by
  rw [write, String.toList_ofList,
    Text.trimBlank_surrounded spelling.blankFront spelling.blankBack]

theorem ends_of_isHost (isHost : IsHost host) (slashes : Nat) :
    (host.toList ++ List.replicate slashes '/').dropWhile isBlank =
        host.toList ++ List.replicate slashes '/' ∧
      dropEndWhile isBlank (host.toList ++ List.replicate slashes '/') =
        host.toList ++ List.replicate slashes '/' := by
  have trimmed : trimBlank host.toList = host.toList := by
    rw [← Text.toList_trim, isHost.trimmed]
  obtain ⟨front, back⟩ := Text.ends_of_trimBlank trimmed
  refine ⟨?_, Text.dropEndWhile_slashes back slashes⟩
  rw [List.dropWhile_append, front, if_neg]
  rw [List.isEmpty_iff, String.toList_eq_nil_iff]
  exact isHost.some

theorem withoutScheme_write_of_scheme (isHost : IsHost host) {name : String}
    (schemed : spelling.scheme = some name) :
    withoutScheme (trimBlank (spelling.write host).toList) =
      host.toList ++ List.replicate spelling.slashes '/' := by
  have ended : dropEndWhile isBlank (['/'] ++ '/' :: (host.toList ++
      List.replicate spelling.slashes '/')) =
        ['/'] ++ '/' :: (host.toList ++ List.replicate spelling.slashes '/') := by
    rw [Text.dropEndWhile_append (by decide), (ends_of_isHost isHost spelling.slashes).2]
  have plain : '/' ∉ name.toList.dropWhile isBlank ++ [':'] := by
    rw [List.mem_append]
    rintro (inName | colon)
    · exact (spelling.isScheme name schemed).plain ((List.dropWhile_suffix isBlank).subset inName)
    · simp at colon
  have whole : spelling.start ++ (host.toList ++ List.replicate spelling.slashes '/') =
      name.toList ++ ':' :: (['/'] ++ '/' :: (host.toList ++
        List.replicate spelling.slashes '/')) := by
    simp [start, schemed]
  rw [trimBlank_write, whole, Text.trimBlank_append (by decide), ended]
  apply FirstSlashes.withoutScheme_eq
  have first := Text.firstSlashes_of_notMem plain
    (host.toList ++ List.replicate spelling.slashes '/')
  simpa using first

theorem trimBlank_write_of_noScheme (isHost : IsHost host) (bare : spelling.scheme = none) :
    trimBlank (spelling.write host).toList =
      host.toList ++ List.replicate spelling.slashes '/' := by
  obtain ⟨front, back⟩ := ends_of_isHost isHost spelling.slashes
  rw [trimBlank_write, start, bare, Option.elim_none, List.nil_append, trimBlank, front, back]

theorem single_of_le {slashes : Nat} (isHost : IsHost host) (few : slashes ≤ 1) :
    ¬ ['/', '/'] <:+: host.toList ++ List.replicate slashes '/' := by
  intro double
  have count := double.sublist.count_le '/'
  rw [List.count_append, List.count_eq_zero_of_not_mem isHost.plain,
    List.count_replicate_self] at count
  have two : ['/', '/'].count '/' = 2 := by decide
  omega

theorem hostOf_write_of_clear (isHost : IsHost host) (clear : spelling.Clear) :
    hostOf (spelling.write host) = host := by
  have kept : withoutScheme (trimBlank (spelling.write host).toList) =
      host.toList ++ List.replicate spelling.slashes '/' := by
    cases schemed : spelling.scheme with
    | some name => exact spelling.withoutScheme_write_of_scheme isHost schemed
    | none =>
      have few : spelling.slashes ≤ 1 := by simpa [Clear, schemed] using clear
      rw [spelling.trimBlank_write_of_noScheme isHost schemed,
        Text.withoutScheme_of_single (single_of_le isHost few)]
  rw [hostOf, kept, Text.dropSlashes_append isHost.plain, String.ofList_toList]

/-- The slashes of a host without a scheme are its end. -/
theorem hostOf_write_of_not_clear (isHost : IsHost host) (unclear : ¬ spelling.Clear) :
    hostOf (spelling.write host) = "" := by
  simp only [Clear, not_or, Option.not_isSome_iff_eq_none, Nat.not_le] at unclear
  obtain ⟨bare, many⟩ := unclear
  obtain ⟨more, slashes⟩ := Nat.exists_eq_add_of_lt many
  have double : List.replicate spelling.slashes '/' = '/' :: '/' :: List.replicate more '/' := by
    rw [slashes, show 1 + more + 1 = more + 2 by omega, List.replicate_succ, List.replicate_succ]
  have left := (Text.firstSlashes_of_notMem isHost.plain
    (List.replicate more '/')).withoutScheme_eq
  have gone := Text.dropSlashes_append (List.not_mem_nil (a := '/')) more
  rw [hostOf, spelling.trimBlank_write_of_noScheme isHost bare, double, left,
    ← List.nil_append (List.replicate more '/'), gone]

end Spelling

/-- The text begins with a scheme and its mark, and this is the rest. -/
def Schemed (uri rest : String) : Prop :=
  ∃ scheme, IsScheme scheme ∧ uri = scheme ++ "://" ++ rest

theorem Schemed.firstSlashes {uri rest : String} (schemed : Schemed uri rest) :
    ∃ before, FirstSlashes uri.toList before rest.toList := by
  obtain ⟨scheme, isScheme, rfl⟩ := schemed
  have plain : '/' ∉ scheme.toList ++ [':'] := by
    simpa using isScheme.plain
  refine ⟨scheme.toList ++ [':'], ?_⟩
  have first := Text.firstSlashes_of_notMem plain rest.toList
  simpa using first

/-- What a user writes for a host, with or without a scheme, is cleaned to the host exactly if the
slashes behind it are not taken for the end of a scheme; else no host is left. A scheme is removed
from any text that begins with one, yet only a text without double slashes stays as it is: what
stands before the first of them is taken away, whatever it is. -/
theorem hosts_recovered {τ : Type} (blueprint : Blueprint) (named : Named blueprint.entityName)
    (valid : blueprint.options.Valid) (container platform : String) (outside : Collaborators τ) :
    (∀ (host : String) (spelling : Spelling), IsHost host → blueprint.host = spelling.write host →
      (spelling.Clear → ∃ handler, blueprint.build container platform outside = .ok handler ∧
        handler.host = host ∧
        handler.authUri = "sb://" ++ host ++ "/" ++ handler.entityPath) ∧
      (¬ spelling.Clear → blueprint.build container platform outside =
        .error (.invalidArgument "fully_qualified_namespace must not be empty"))) ∧
    (∀ uri rest : String, Schemed uri rest → stripScheme uri = rest) ∧
    (∀ uri : String, stripScheme uri = uri ↔ ¬ ['/', '/'] <:+: uri.toList) ∧
    ∀ (uri : String) (before rest : List Char), FirstSlashes uri.toList before rest →
      stripScheme uri = String.ofList rest := by
  have stripped (uri : String) (before rest : List Char)
      (first : FirstSlashes uri.toList before rest) : stripScheme uri = String.ofList rest := by
    rw [stripScheme, first.withoutScheme_eq]
  refine ⟨fun host spelling isHost written => ⟨fun clear => ?_, fun unclear => ?_⟩,
    fun uri rest schemed => ?_, fun uri => ?_, stripped⟩
  · have recovered : hostOf blueprint.host = host := by
      rw [written, spelling.hostOf_write_of_clear isHost clear]
    obtain ⟨configuration, configured⟩ :=
      (Options.exists_ofOptions_iff (hostOf blueprint.host) blueprint.options).mpr valid
    refine ⟨blueprint.assembled container platform outside configuration, ?_, recovered, ?_⟩
    · exact (build_eq_ok_iff _ _ _ _).mpr
        ⟨recovered ▸ isHost.some, named, configuration, configured, rfl⟩
    · exact congrArg (fun found => "sb://" ++ found ++ "/" ++
        pathOf blueprint.entityName blueprint.options.subscription) recovered
  · have lost : hostOf blueprint.host = "" := by
      rw [written, spelling.hostOf_write_of_not_clear isHost unclear]
    rw [build, lost]
    rfl
  · obtain ⟨before, first⟩ := schemed.firstSlashes
    rw [stripped uri before rest.toList first, String.ofList_toList]
  · rw [← Text.withoutScheme_eq_self_iff, stripScheme, ← String.toList_inj, String.toList_ofList]

theorem valid_default : Options.Valid {} :=
  (Options.exists_ofOptions_iff "" {}).mp (Configuration.ofOptions_default "")

def padded : Spelling where
  front := ['\t', ' ']
  back := ['\n']
  blankFront := List.all_eq_true.mp rfl
  blankBack := List.all_eq_true.mp rfl
  scheme := some "amqp+ssl"
  isScheme _ same := Option.some.inj same ▸ ⟨by decide, by decide⟩
  slashes := 3

def slashed (slashes : Nat) : Spelling :=
  { front := [], back := [], scheme := none, slashes
    blankFront := by simp, blankBack := by simp, isScheme := by simp }

/-- Three slashes behind a scheme's host, and a text in which the first slashes are no scheme's. -/
theorem hosts_recovered_padded :
    let host := "space.example"
    let blueprint : Blueprint := ⟨"\t amqp+ssl://space.example///\n", "q", .external, {}⟩
    (∃ handler, blueprint.build "container" "platform" (Rehearsal.collaborators 0) = .ok handler ∧
      handler.host = host ∧ handler.authUri = "sb://space.example/" ++ handler.entityPath) ∧
    stripScheme "sb://a//b" = "a//b" ∧ stripScheme "a b//c" = "c" ∧ stripScheme "a/b" = "a/b" := by
  intro host blueprint
  have isHost : IsHost host := ⟨by decide, by decide, by decide⟩
  have recovered := hosts_recovered blueprint ⟨'q', by decide, rfl⟩ valid_default "container"
    "platform" (Rehearsal.collaborators 0)
  refine ⟨(recovered.1 host padded isHost (by decide)).1 (.inl rfl),
    recovered.2.1 _ _ ⟨"sb", ⟨by decide, by decide⟩, by decide⟩,
    recovered.2.2.2 "a b//c" ['a', ' ', 'b'] ['c'] ?_, (recovered.2.2.1 _).mpr (by decide)⟩
  have plain : '/' ∉ ['a', ' ', 'b'] := by decide
  exact Text.firstSlashes_of_notMem plain ['c']

/-- Two slashes behind a bare host leave no host, although no scheme stands in front of them. -/
theorem not_recovered_slashedTwice :
    let host := "contoso.servicebus.windows.net"
    let blueprint : Blueprint := ⟨"contoso.servicebus.windows.net//", "orders", .external, {}⟩
    (IsHost host ∧ blueprint.host = (slashed 2).write host ∧ Named blueprint.entityName ∧
      blueprint.options.Valid ∧
      ¬ ∃ handler, blueprint.build "container" "platform" (Rehearsal.collaborators 0) =
        .ok handler) ∧
    (¬ ∃ rest, Schemed blueprint.host rest) ∧ stripScheme blueprint.host ≠ blueprint.host := by
  intro host blueprint
  refine ⟨⟨⟨by decide, by decide, by decide⟩, by decide, ⟨'o', by decide, rfl⟩, valid_default, ?_⟩,
    ?_, by decide⟩
  · rintro ⟨handler, made⟩
    exact ((build_eq_ok_iff _ _ _ _).mp made).1 (by decide)
  · rintro ⟨rest, scheme, _, whole⟩
    have mark : ':' ∈ blueprint.host.toList := by
      rw [whole, String.toList_append, String.toList_append]
      simp
    exact absurd mark (by decide)

end Blueprint
end BusLink
