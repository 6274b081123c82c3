import BusLink.Auth.Credential
import BusLink.Proofs.Auth.Token

set_option autoImplicit false

namespace BusLink.Auth

/-- The kinds of secrets that can be rotated. -/
inductive Rotatable where
  | keyPair
  | signature
deriving DecidableEq

namespace Rotatable

abbrev Secret : Rotatable → Type
  | keyPair => KeyPair
  | signature => String

def credential : Rotatable → Nat → Credential
  | keyPair, slot => .namedKey slot
  | signature, slot => .signature slot

def slot? : Rotatable → Credential → Option Nat
  | keyPair, .namedKey slot => some slot
  | signature, .signature slot => some slot
  | _, _ => none

def stored : (kind : Rotatable) → Vault → Nat → kind.Secret
  | keyPair, vault, slot => vault.keyPair slot
  | signature, vault, slot => vault.signature slot

def store : (kind : Rotatable) → Vault → Nat → kind.Secret → Vault
  | keyPair, vault, slot, pair => vault.rotate slot pair
  | signature, vault, slot, text => vault.replace slot text

/-- What a secret answers to a request for a token. -/
def answer : (kind : Rotatable) → kind.Secret → Int → List String → Except Fault AccessToken
  | keyPair, pair, now, scopes => (Credential.audience scopes).map fun scope =>
      Signature.issue scope pair.policy pair.key now Signature.defaultLifetime
  | signature, text, _, _ => Credential.ofSignature text

theorem token_credential {ρ : Type} (kind : Rotatable) (slot : Nat) (vault : Vault) (now : Int)
    (scopes : List String) (source : List String → StateM ρ (Except Fault AccessToken)) :
    (kind.credential slot).token vault now scopes source =
      pure (kind.answer (kind.stored vault slot) now scopes) := by
  cases kind <;> rfl

theorem slot?_credential (kind other : Rotatable) (slot : Nat) :
    kind.slot? (other.credential slot) = if other = kind then some slot else none := by
  cases kind <;> cases other <;> rfl

end Rotatable

/-- A secret with all who hold it, called by its kind and the number of its first holder. -/
structure Family where
  kind : Rotatable
  founder : Nat
deriving DecidableEq

namespace Family

def credential (family : Family) : Credential :=
  family.kind.credential family.founder

def stored (family : Family) (vault : Vault) : family.kind.Secret :=
  family.kind.stored vault family.founder

def store (family : Family) (vault : Vault) (secret : family.kind.Secret) : Vault :=
  family.kind.store vault family.founder secret

@[simp] theorem stored_store (family : Family) (vault : Vault) (secret : family.kind.Secret) :
    family.stored (family.store vault secret) = secret := by
  obtain ⟨kind, founder⟩ := family
  cases kind <;> simp [stored, store, Rotatable.stored, Rotatable.store]

theorem stored_store_of_ne {family other : Family} (different : other ≠ family) (vault : Vault)
    (secret : family.kind.Secret) :
    other.stored (family.store vault secret) = other.stored vault := by
  obtain ⟨kind, founder⟩ := family
  obtain ⟨otherKind, otherFounder⟩ := other
  cases kind <;> cases otherKind <;>
    simp_all [stored, store, Rotatable.stored, Rotatable.store]

end Family

/-- What clients do with rotatable secrets. Holders go by number, in the order in which they came
up. -/
inductive Step where
  | create (kind : Rotatable) (secret : kind.Secret)
  -- One more holder of what a holder has, whether wrapped or not.
  | clone (holder : Nat)
  | update (holder : Nat) (kind : Rotatable) (secret : kind.Secret)
  | fetch (holder : Nat) (now : Int) (scopes : List String)

/-- The families of all holders after one more step. -/
def enroll (families : List Family) : Step → List Family
  | .create kind _ => families ++ [⟨kind, families.length⟩]
  | .clone holder => families ++ families[holder]?.toList
  | .update .. => families
  | .fetch .. => families

/-- The families of all holders: a new credential founds one, and a clone is of the family of what
it was made from. -/
def families (history : List Step) : List Family :=
  history.foldl enroll []

/-- The step gives a secret to the family, at its founding or through any of its holders. -/
def Sets (history : List Step) (step : Step) (family : Family) (secret : family.kind.Secret) :
    Prop :=
  (step = .create family.kind secret ∧ family.founder = (families history).length) ∨
    ∃ holder, step = .update holder family.kind secret ∧
      (families history)[holder]? = some family

/-- The secret was the last that a step gave to the family. -/
def LastSet (history : List Step) (family : Family) (secret : family.kind.Secret) : Prop :=
  ∃ before step after, history = before ++ step :: after ∧ Sets before step family secret ∧
    ∀ between later rest other, after = between ++ later :: rest →
      ¬ Sets (before ++ step :: between) later family other

section History

variable {history : List Step} {step : Step} {family : Family}

theorem families_append_singleton (history : List Step) (step : Step) :
    families (history ++ [step]) = enroll (families history) step := by
  simp [families]

theorem Sets.unique {secret other : family.kind.Secret} (sets : Sets history step family secret)
    (setsOther : Sets history step family other) : secret = other := by
  rcases sets with ⟨rfl, _⟩ | ⟨holder, rfl, _⟩
  · rcases setsOther with ⟨same, _⟩ | ⟨_, same, _⟩
    · exact eq_of_heq (Step.create.inj same).2
    · cases same
  · rcases setsOther with ⟨same, _⟩ | ⟨_, same, _⟩
    · cases same
    · exact eq_of_heq (Step.update.inj same).2.2

@[simp] theorem not_sets_clone (holder : Nat) (secret : family.kind.Secret) :
    ¬ Sets history (.clone holder) family secret := by
  simp [Sets]

@[simp] theorem not_sets_fetch (holder : Nat) (now : Int) (scopes : List String)
    (secret : family.kind.Secret) : ¬ Sets history (.fetch holder now scopes) family secret := by
  simp [Sets]

/-- A step gives a secret to one family at most. -/
theorem Sets.unique_family {other : Family} {secret : family.kind.Secret}
    {given : other.kind.Secret} (sets : Sets history step family secret)
    (setsOther : Sets history step other given) : other = family := by
  obtain ⟨kind, founder⟩ := family
  obtain ⟨otherKind, otherFounder⟩ := other
  rcases sets with ⟨rfl, atEnd⟩ | ⟨holder, rfl, held⟩
  · rcases setsOther with ⟨same, otherAtEnd⟩ | ⟨_, same, _⟩
    · cases same
      exact congrArg (Family.mk _) (otherAtEnd.trans atEnd.symm)
    · cases same
  · rcases setsOther with ⟨same, _⟩ | ⟨_, same, otherHeld⟩
    · cases same
    · cases same
      exact Option.some.inj (otherHeld.symm.trans held)

theorem mem_enroll (member : family ∈ enroll (families history) step) :
    family ∈ families history ∨ ∃ secret, Sets history step family secret := by
  cases step with
  | create kind secret =>
    rcases List.mem_append.mp member with old | new
    · exact .inl old
    · obtain rfl := List.mem_singleton.mp new
      exact .inr ⟨secret, .inl ⟨rfl, rfl⟩⟩
  | clone holder =>
    rcases List.mem_append.mp member with old | new
    · exact .inl old
    · exact .inl (List.mem_of_getElem? (Option.mem_toList.mp new))
  | update holder kind secret => exact .inl member
  | fetch holder now scopes => exact .inl member

/-- A step that gives the family a secret is the last of its kind, and any other step leaves it to
the history. -/
theorem lastSet_append_singleton_iff {secret : family.kind.Secret} :
    LastSet (history ++ [step]) family secret ↔
      Sets history step family secret ∨
        LastSet history family secret ∧ ∀ other, ¬ Sets history step family other := by
  constructor
  · rintro ⟨before, setting, after, whole, sets, last⟩
    -- Either nothing follows what was set last, or the new step is the end of what follows.
    rcases List.eq_nil_or_concat' after with rfl | ⟨between, final, rfl⟩
    · obtain ⟨rfl, same⟩ := List.append_inj' whole rfl
      cases same
      exact .inl sets
    · rw [← List.cons_append, ← List.append_assoc] at whole
      obtain ⟨rfl, same⟩ := List.append_inj' whole rfl
      cases same
      refine .inr ⟨⟨before, setting, between, rfl, sets, ?_⟩,
        fun other => last between step [] other rfl⟩
      rintro between later rest other rfl
      exact last between later (rest ++ [step]) other (by simp)
  · rintro (sets | ⟨⟨before, setting, after, rfl, sets, last⟩, others⟩)
    · exact ⟨history, step, [], rfl, sets, by simp⟩
    · refine ⟨before, setting, after ++ [step], by simp, sets, ?_⟩
      intro between later rest other whole
      rcases List.eq_nil_or_concat' rest with rfl | ⟨rest, final, rfl⟩
      · obtain ⟨rfl, same⟩ := List.append_inj' whole rfl
        cases same
        exact others other
      · rw [← List.cons_append, ← List.append_assoc] at whole
        obtain ⟨rfl, _⟩ := List.append_inj' whole rfl
        exact last between later rest other rfl

theorem not_lastSet_nil {secret : family.kind.Secret} : ¬ LastSet [] family secret := by
  rintro ⟨before, setting, after, whole, _⟩
  simp at whole

theorem LastSet.unique {secret other : family.kind.Secret} (last : LastSet history family secret)
    (lastOther : LastSet history family other) : secret = other := by
  induction history using List.reverseRecOn with
  | nil => exact absurd last not_lastSet_nil
  | append_singleton history step ih =>
    rw [lastSet_append_singleton_iff] at last lastOther
    rcases last with sets | ⟨last, none⟩
    · rcases lastOther with setsOther | ⟨_, none⟩
      · exact sets.unique setsOther
      · exact absurd sets (none secret)
    · rcases lastOther with setsOther | ⟨lastOther, _⟩
      · exact absurd setsOther (none other)
      · exact ih last lastOther

end History

/-- The secrets, who holds which credential, and what lies outside. -/
structure World (ρ : Type) where
  vault : Vault
  holders : List Credential
  outside : ρ

namespace World

variable {ρ : Type} (source : List String → StateM ρ (Except Fault AccessToken))

/-- The world after a step, and the answer if a token was asked for. A new credential gets a slot of
its own. -/
def step (world : World ρ) : Step → World ρ × Option (Except Fault AccessToken)
  | .create kind secret =>
    let slot := world.holders.length
    ({ world with
        vault := kind.store world.vault slot secret
        holders := world.holders ++ [kind.credential slot] }, none)
  | .clone holder =>
    ({ world with holders := world.holders ++ world.holders[holder]?.toList }, none)
  | .update holder kind secret =>
    match world.holders[holder]? >>= kind.slot? with
    | some slot => ({ world with vault := kind.store world.vault slot secret }, none)
    | none => (world, none)
  | .fetch holder now scopes =>
    match world.holders[holder]? with
    | some credential =>
      let (answer, outside) := credential.token world.vault now scopes source world.outside
      ({ world with outside }, some answer)
    | none => (world, none)

/-- The world after many steps. -/
def after (world : World ρ) (steps : List Step) : World ρ :=
  steps.foldl (fun world step => (world.step source step).1) world

def initial (outside : ρ) : World ρ :=
  ⟨Vault.blank, [], outside⟩

/-- Holders have the credential of their family, whose slot has what was set last. -/
structure Reflects (world : World ρ) (history : List Step) : Prop where
  holders : world.holders = (families history).map Family.credential
  secrets : ∀ family ∈ families history, LastSet history family (family.stored world.vault)

variable {world : World ρ} {history : List Step}

theorem Reflects.length_holders (reflects : world.Reflects history) :
    world.holders.length = (families history).length := by
  rw [reflects.holders, List.length_map]

theorem Reflects.holder? (reflects : world.Reflects history) (holder : Nat) :
    world.holders[holder]? = (families history)[holder]?.map Family.credential := by
  rw [reflects.holders, List.getElem?_map]

theorem Reflects.holders_step (reflects : world.Reflects history) (step : Step) :
    (world.step source step).1.holders =
      (enroll (families history) step).map Family.credential := by
  cases step with
  | create kind secret =>
    simp [World.step, enroll, reflects.holders, Family.credential]
  | clone holder =>
    simp only [World.step, enroll, reflects.holders, List.map_append, List.getElem?_map]
    cases (families history)[holder]? <;> rfl
  | update holder kind secret =>
    simp only [World.step, enroll, ← reflects.holders]
    split <;> rfl
  | fetch holder now scopes =>
    simp only [World.step, enroll, ← reflects.holders]
    split <;> rfl

theorem Reflects.vault_step_of_sets (reflects : world.Reflects history) {step : Step}
    {family : Family} {secret : family.kind.Secret} (sets : Sets history step family secret) :
    (world.step source step).1.vault = family.store world.vault secret := by
  rcases sets with ⟨rfl, founder⟩ | ⟨holder, rfl, held⟩
  · rw [Family.store, founder, ← reflects.length_holders]
    rfl
  · have slot : (world.holders[holder]? >>= family.kind.slot?) = some family.founder := by
      rw [reflects.holder?, held]
      exact (family.kind.slot?_credential family.kind family.founder).trans (if_pos rfl)
    simp only [World.step, slot]
    rfl

theorem Reflects.vault_step_of_not_sets (reflects : world.Reflects history) {step : Step}
    (none : ∀ (family : Family) (secret : family.kind.Secret), ¬ Sets history step family secret) :
    (world.step source step).1.vault = world.vault := by
  cases step with
  | create kind secret => exact absurd (.inl ⟨rfl, rfl⟩) (none ⟨kind, _⟩ secret)
  | clone holder => rfl
  | update holder kind secret =>
    have slot : (world.holders[holder]? >>= kind.slot?) = Option.none := by
      rw [reflects.holder?]
      cases held : (families history)[holder]? with
      | none => rfl
      | some family =>
        refine (kind.slot?_credential family.kind family.founder).trans (if_neg ?_)
        rintro rfl
        exact none family secret (.inr ⟨holder, rfl, held⟩)
    simp only [World.step, slot]
  | fetch holder now scopes =>
    simp only [World.step]
    split <;> rfl

/-- What one step keeps. -/
theorem Reflects.step (reflects : world.Reflects history) (step : Step) :
    (world.step source step).1.Reflects (history ++ [step]) where
  holders := by rw [families_append_singleton, reflects.holders_step source]
  secrets := by
    rw [families_append_singleton]
    intro family member
    rw [lastSet_append_singleton_iff]
    have known := mem_enroll member
    -- The step writes the slot of the family that it gives a secret to, and no other slot.
    by_cases given : ∃ (other : Family) (secret : other.kind.Secret), Sets history step other secret
    · obtain ⟨other, secret, sets⟩ := given
      rw [reflects.vault_step_of_sets source sets]
      by_cases same : family = other
      · subst same
        rw [Family.stored_store]
        exact .inl sets
      · have others (given : family.kind.Secret) : ¬ Sets history step family given :=
          fun again => same (sets.unique_family again)
        rw [Family.stored_store_of_ne same]
        have old := known.resolve_right fun ⟨given, sets⟩ => others given sets
        exact .inr ⟨reflects.secrets family old, others⟩
    · have none (other : Family) (secret : other.kind.Secret) : ¬ Sets history step other secret :=
        fun sets => given ⟨other, secret, sets⟩
      rw [reflects.vault_step_of_not_sets source none]
      have old := known.resolve_right fun ⟨secret, sets⟩ => none family secret sets
      exact .inr ⟨reflects.secrets family old, none family⟩

/-- What a whole history keeps. -/
theorem reflects_after (outside : ρ) (history : List Step) :
    ((initial outside).after source history).Reflects history := by
  induction history using List.reverseRecOn with
  | nil => exact ⟨rfl, by simp [families]⟩
  | append_singleton history step ih =>
    have reflects := ih.step source step
    simpa only [after, List.foldl_append, List.foldl_cons, List.foldl_nil] using reflects

/-- A holder is answered by the secret of its family, and nothing changes by that. -/
theorem Reflects.step_fetch (reflects : world.Reflects history) {holder : Nat} {family : Family}
    (held : (families history)[holder]? = some family) (now : Int) (scopes : List String) :
    world.step source (.fetch holder now scopes) =
      (world, some (family.kind.answer (family.stored world.vault) now scopes)) := by
  have credential : world.holders[holder]? = some family.credential := by
    rw [reflects.holder?, held]
    rfl
  simp only [World.step, credential]
  rw [Family.credential, Rotatable.token_credential]
  rfl

theorem Reflects.lastSet_iff (reflects : world.Reflects history) {family : Family}
    (member : family ∈ families history) (secret : family.kind.Secret) :
    LastSet history family secret ↔ secret = family.stored world.vault := by
  constructor
  · intro last
    exact last.unique (reflects.secrets family member)
  · rintro rfl
    exact reflects.secrets family member

end World

/-- A key pair signs a fresh token for the first scope, one that tells its expiry, and needs a
scope. -/
structure Signs (pair : KeyPair) (now : Int) (scopes : List String)
    (answer : Except Fault AccessToken) : Prop where
  signed : ∀ scope rest, scopes = scope :: rest → answer =
    .ok ⟨Signature.sign scope pair.policy pair.key (now + Signature.defaultLifetime),
      now + Signature.defaultLifetime⟩
  expires : ∀ token, answer = .ok token → ∀ second : Int64,
    second.toInt = now + Signature.defaultLifetime →
      Signature.expiry? token.token = some token.expiresOn
  refused : scopes = [] → answer = .error (.invalidArgument "No token scope provided.")

/-- A signature is handed out as it is, with the expiry that it names, if it names one. -/
structure HandedOut (signature : String) (answer : Except Fault AccessToken) : Prop where
  named : ∀ second, Signature.Expires signature second → answer = .ok ⟨signature, second⟩
  unnamed : (∀ second, ¬ Signature.Expires signature second) → answer =
    .error (.invalidArgument "SAS signature does not contain an 'se' expiry field.")

theorem signs_answer (pair : KeyPair) (now : Int) (scopes : List String) :
    Signs pair now scopes (Rotatable.answer .keyPair pair now scopes) where
  signed := by
    rintro scope rest rfl
    rfl
  expires := by
    intro token answered second atExpiry
    cases scopes with
    | nil => cases answered
    | cons scope rest =>
      have issued : Signature.issue scope pair.policy pair.key now Signature.defaultLifetime =
        token := Except.ok.inj answered
      rw [← issued, Signature.issue, ← atExpiry]
      exact Signature.expiry?_sign scope pair.policy pair.key second
  refused := by
    rintro rfl
    rfl

theorem handedOut_ofSignature (signature : String) :
    HandedOut signature (Credential.ofSignature signature) where
  named := by
    intro second expires
    rw [Credential.ofSignature, (Signature.expiry?_eq_some_iff signature second).mpr expires]
  unnamed := by
    intro none
    have missing : Signature.expiry? signature = Option.none :=
      Option.eq_none_iff_forall_ne_some.mpr fun second found =>
        none second ((Signature.expiry?_eq_some_iff signature second).mp found)
    rw [Credential.ofSignature, missing]

/-- Whatever was done before, a request for a token changes nothing, and is answered by the one
secret that was set last through any holder of the family of whom is asked. -/
theorem fetch_account {ρ : Type} (source : List String → StateM ρ (Except Fault AccessToken))
    (outside : ρ) (history : List Step) (holder : Nat) (now : Int) (scopes : List String) :
    let world := (World.initial outside).after source history
    let asked := world.step source (.fetch holder now scopes)
    asked.1 = world ∧
    (∀ founder, (families history)[holder]? = some ⟨.keyPair, founder⟩ →
      ∃ (pair : KeyPair) (answer : Except Fault AccessToken),
        (∀ other, LastSet history ⟨.keyPair, founder⟩ other ↔ other = pair) ∧
        asked.2 = some answer ∧ Signs pair now scopes answer) ∧
    ∀ founder, (families history)[holder]? = some ⟨.signature, founder⟩ →
      ∃ (signature : String) (answer : Except Fault AccessToken),
        (∀ other, LastSet history ⟨.signature, founder⟩ other ↔ other = signature) ∧
        asked.2 = some answer ∧ HandedOut signature answer := by
  intro world asked
  have reflects : world.Reflects history := World.reflects_after source outside history
  refine ⟨?_, fun founder held => ?_, fun founder held => ?_⟩
  · cases held : (families history)[holder]? with
    | none =>
      have absent : world.holders[holder]? = none := by
        rw [reflects.holder?, held]
        rfl
      simp only [asked, World.step, absent]
    | some family => exact congrArg Prod.fst (reflects.step_fetch source held now scopes)
  · have told := reflects.step_fetch source held now scopes
    exact ⟨_, _, reflects.lastSet_iff (List.mem_of_getElem? held), congrArg Prod.snd told,
      signs_answer _ now scopes⟩
  · have told := reflects.step_fetch source held now scopes
    exact ⟨_, _, reflects.lastSet_iff (List.mem_of_getElem? held), congrArg Prod.snd told,
      handedOut_ofSignature _⟩

def keyRotation : List Step :=
  [.create .keyPair ⟨"old", "k"⟩, .clone 0, .update 1 .keyPair ⟨"new", "n"⟩, .clone 0,
    .fetch 2 0 []]

def signatureRotation : List Step :=
  [.create .signature "x", .fetch 0 0 [], .clone 0, .update 1 .signature "a se=5"]

def issuer (_ : List String) : StateM Unit (Except Fault AccessToken) :=
  pure (.ok ⟨"jwt", 0⟩)

def answerAfter (history : List Step) (holder : Nat) (now : Int) (scopes : List String) :
    Option (Except Fault AccessToken) :=
  (((World.initial ()).after issuer history).step issuer (.fetch holder now scopes)).2

/-- The clone that is made after the rotation signs with the new pair, and the first holder of the
signature hands out the new one. -/
theorem fetch_account_rotated :
    (∃ token, answerAfter keyRotation 2 5 ["a b"] = some (.ok token) ∧
      token.token = Signature.sign "a b" "new" "n" 3605 ∧ token.expiresOn = 3605 ∧
      Signature.expiry? token.token = some 3605) ∧
    answerAfter keyRotation 0 5 [] =
      some (.error (.invalidArgument "No token scope provided.")) ∧
    answerAfter signatureRotation 0 0 [] = some (.ok ⟨"a se=5", 5⟩) ∧
    answerAfter (signatureRotation.take 1) 0 0 [] =
      some (.error (.invalidArgument "SAS signature does not contain an 'se' expiry field.")) := by
  have newPair : LastSet keyRotation ⟨.keyPair, 0⟩ (⟨"new", "n"⟩ : KeyPair) := by
    have given : Sets [.create .keyPair ⟨"old", "k"⟩, .clone 0] (.update 1 .keyPair ⟨"new", "n"⟩)
        ⟨.keyPair, 0⟩ (⟨"new", "n"⟩ : KeyPair) := .inr ⟨1, rfl, rfl⟩
    have last := lastSet_append_singleton_iff.mpr (.inl given)
    have last := lastSet_append_singleton_iff.mpr (.inr ⟨last, not_sets_clone 0⟩)
    exact lastSet_append_singleton_iff.mpr (.inr ⟨last, not_sets_fetch 2 0 []⟩)
  have newSignature : LastSet signatureRotation ⟨.signature, 0⟩ "a se=5" := by
    have given : Sets [.create .signature "x", .fetch 0 0 [], .clone 0]
        (.update 1 .signature "a se=5") ⟨.signature, 0⟩ "a se=5" := .inr ⟨1, rfl, rfl⟩
    exact lastSet_append_singleton_iff.mpr (.inl given)
  have oldSignature : LastSet (signatureRotation.take 1) ⟨.signature, 0⟩ "x" := by
    have given : Sets [] (.create .signature "x") ⟨.signature, 0⟩ "x" := .inl ⟨rfl, rfl⟩
    exact lastSet_append_singleton_iff.mpr (.inl given)
  refine ⟨?_, ?_, ?_, ?_⟩
  · obtain ⟨pair, answer, last, told, signs⟩ :=
      (fetch_account issuer () keyRotation 2 5 ["a b"]).2.1 0 rfl
    obtain rfl := (last ⟨"new", "n"⟩).mp newPair
    have signed := signs.signed "a b" [] rfl
    exact ⟨_, told.trans (congrArg some signed), rfl, rfl, signs.expires _ signed 3605 rfl⟩
  · obtain ⟨pair, answer, last, told, signs⟩ :=
      (fetch_account issuer () keyRotation 0 5 []).2.1 0 rfl
    exact told.trans (congrArg some (signs.refused rfl))
  · obtain ⟨signature, answer, last, told, handedOut⟩ :=
      (fetch_account issuer () signatureRotation 0 0 []).2.2 0 rfl
    obtain rfl := (last "a se=5").mp newSignature
    have expires : Signature.Expires "a se=5" 5 := ⟨[['a']], ['5'], [], by decide, by decide, rfl⟩
    exact told.trans (congrArg some (handedOut.named 5 expires))
  · obtain ⟨signature, answer, last, told, handedOut⟩ :=
      (fetch_account issuer () (signatureRotation.take 1) 0 0 []).2.2 0 rfl
    obtain rfl := (last "x").mp oldSignature
    refine told.trans (congrArg some (handedOut.unnamed fun second expires => ?_))
    have found := (Signature.expiry?_eq_some_iff "x" second).mpr expires
    have missing : Signature.expiry? "x" = none := by decide
    cases missing.symm.trans found

end BusLink.Auth
