import CatalogMigration.Config.Settings
import CatalogMigration.Proofs.Settings.Environment
import CatalogMigration.Proofs.Settings.Reader
import CatalogMigration.Proofs.Settings.Table

namespace CatalogMigration

namespace Settings

def secrets : List String := ["token", "openid_client_secret", "s3_secret_key"]

/-- The settings without the texts of secrets. Whether there is one can still be seen. -/
def veiled (s : Settings) : Settings :=
  { s with
    token := s.token.map fun _ => ""
    openidClientSecret := s.openidClientSecret.map fun _ => ""
    s3SecretKey := s.s3SecretKey.map fun _ => "" }

end Settings

open Settings

namespace SettingValue

def veiled (name : String) : SettingValue → SettingValue
  | .text s => if name ∈ secrets then .text "" else .text s
  | v => v

theorem veiled_of_not_secret {name : String} (plain : name ∉ secrets) (v : SettingValue) :
    v.veiled name = v := by
  cases v <;> simp [veiled, plain]

theorem veiled_text {name : String} (secret : name ∈ secrets) (s : String) :
    (text s).veiled name = .text "" := if_pos secret

end SettingValue

namespace Settings

def veil (table : SettingTable) : SettingTable := table.map fun e => (e.1, e.2.veiled e.1)

theorem map_veiled {α : Type} (x : Except SettingFault α) {f g : α → Settings}
    (veils : ∀ a, (f a).veiled = g a) : (x.map f).map veiled = x.map g := by
  cases x with
  | error fault => rfl
  | ok a => exact congrArg Except.ok (veils a)

theorem set_veiled (s : Settings) (name : String) (v : SettingValue) :
    (s.set name v).map veiled = s.veiled.set name (v.veiled name) := by
  by_cases secret : name ∈ secrets
  · simp only [secrets, List.mem_cons, List.not_mem_nil, or_false] at secret
    rcases secret with rfl | rfl | rfl <;> cases v <;> rfl
  · rw [SettingValue.veiled_of_not_secret secret]
    unfold set
    split
    case h_14 => rfl
    all_goals first
      | exact map_veiled _ fun _ => rfl
      | exact absurd (by decide) secret

theorem taking_veiled (s : Settings) (table : SettingTable) :
    (taking s table).map veiled = taking s.veiled (veil table) := by
  induction table generalizing s with
  | nil => rfl
  | cons e rest ih =>
    obtain ⟨name, v⟩ := e
    rw [veil, List.map_cons, taking_cons, taking_cons, ← set_veiled]
    cases s.set name v with
    | error fault => rfl
    | ok s => exact ih s

end Settings

section Fault

variable {ε α β γ δ : Type}

def faultOf (x : Except ε α) : Except ε Unit := x.map fun _ => ()

theorem faultOf_eq_error {x : Except ε α} {e : ε} : faultOf x = .error e ↔ x = .error e := by
  cases x <;> simp [faultOf, Except.map]

theorem faultOf_bind {x : Except ε α} {y : Except ε β} {f : α → Except ε γ} {g : β → Except ε δ}
    (same : faultOf x = faultOf y) (each : ∀ a b, faultOf (f a) = faultOf (g b)) :
    faultOf (x >>= f) = faultOf (y >>= g) := by
  cases x <;> cases y <;> cases same
  · rfl
  · exact each _ _

end Fault

namespace Settings

theorem credentials_veiled (s : Settings) :
    faultOf s.veiled.credentials = faultOf s.credentials := by
  unfold credentials veiled
  cases s.token <;> cases s.openidClientId <;> cases s.openidClientSecret <;> rfl

theorem choices_veiled (s : Settings) : faultOf s.veiled.choices = faultOf s.choices :=
  faultOf_bind rfl fun _ _ => faultOf_bind rfl fun _ _ => faultOf_bind rfl fun _ _ =>
    faultOf_bind (credentials_veiled s) fun _ _ => rfl

end Settings

namespace WorkloadConfig

theorem faultOf_ofUrl (url : String) (choices choices' : WorkloadChoices) :
    faultOf (ofUrl url choices) = faultOf (ofUrl url choices') := by
  unfold ofUrl
  split
  · rfl
  · split <;> rfl

theorem faultOf_veil (url : String) (table : SettingTable) :
    faultOf (ofTable url (veil table)).1 = faultOf (ofTable url table).1 := by
  have taken : Settings.ofTable (veil table) = (Settings.ofTable table).map veiled :=
    (taking_veiled {} table).symm
  rw [ofTable, ofTable, taken]
  cases Settings.ofTable table with
  | error e => rfl
  | ok s => exact faultOf_bind (choices_veiled s) (faultOf_ofUrl url)

end WorkloadConfig

namespace Settings

theorem span_origin {name origin reason : String} {standard : Option Span}
    {x : Option Numeral.Double} (failed : span name standard x = .error (.config origin reason)) :
    origin = Environment.nameOf name := by
  cases x with
  | none => cases failed
  | some x =>
    simp only [span] at failed
    cases read : Span.ofDouble x with
    | ok s => simp [read] at failed
    | error e =>
      simp only [read] at failed
      cases failed
      rfl

theorem credentials_origin {s : Settings} {origin reason : String}
    (failed : s.credentials = .error (.config origin reason)) : origin = "environment" := by
  unfold credentials at failed
  split at failed <;> cases failed <;> rfl

theorem ofUrl_origin {url origin reason : String} {choices : WorkloadChoices}
    (failed : WorkloadConfig.ofUrl url choices = .error (.config origin reason)) :
    origin = "catalog url" := by
  unfold WorkloadConfig.ofUrl at failed
  split at failed
  · cases failed
    rfl
  · split at failed
    · cases failed
      rfl
    · cases failed

theorem bind_eq_error {ε α β : Type} {x : Except ε α} {f : α → Except ε β} {e : ε} :
    x >>= f = .error e ↔ x = .error e ∨ ∃ a, x = .ok a ∧ f a = .error e := by
  cases x <;> simp [bind, Except.bind]

def lateOrigins : List String :=
  ["environment", "catalog url", Environment.nameOf "soft_delete_wait_seconds",
    Environment.nameOf "operation_timeout_seconds", Environment.nameOf "connect_timeout_seconds"]

theorem late_origin {s : Settings} {url origin reason : String}
    (failed : s.choices >>= WorkloadConfig.ofUrl url = .error (.config origin reason)) :
    origin ∈ lateOrigins := by
  rcases bind_eq_error.mp failed with failed | ⟨_, -, failed⟩
  -- Three durations are read before the credentials, all of them before the address.
  · rcases bind_eq_error.mp failed with failed | ⟨_, -, failed⟩
    · simp [lateOrigins, span_origin failed]
    rcases bind_eq_error.mp failed with failed | ⟨_, -, failed⟩
    · simp [lateOrigins, span_origin failed]
    rcases bind_eq_error.mp failed with failed | ⟨_, -, failed⟩
    · simp [lateOrigins, span_origin failed]
    rcases bind_eq_error.mp failed with failed | ⟨_, -, failed⟩
    · simp [lateOrigins, credentials_origin failed]
    · cases failed
  · simp [lateOrigins, ofUrl_origin failed]

theorem secret_not_late {name : String} (secret : name ∈ secrets) :
    Environment.nameOf name ∉ lateOrigins := by
  have each : ∀ name ∈ secrets, Environment.nameOf name ∉ lateOrigins := by decide +kernel
  exact each name secret

theorem fault?_secret {name : String} (secret : name ∈ secrets) (v : SettingValue) :
    fault? name v = none ∧ ((∃ s, v = .text s) ∨ v = .absent) ∨
      fault? name v = some (.mismatch v .text) := by
  have decoded : fault? name v = match v.text? with
      | .error fault => some fault
      | .ok _ => none := by
    simp only [secrets, List.mem_cons, List.not_mem_nil, or_false] at secret
    rcases secret with rfl | rfl | rfl <;> cases v <;> rfl
  rw [decoded]
  cases v with
  | text s => exact .inl ⟨rfl, .inl ⟨s, rfl⟩⟩
  | absent => exact .inl ⟨rfl, .inr rfl⟩
  | _ => exact .inr rfl

/-- No secret is read as something else than a text. -/
def TextSecrets (table : SettingTable) : Prop := ∀ e ∈ table, e.1 ∈ secrets → ∃ s, e.2 = .text s

theorem Faultless.textSecrets {table : SettingTable} (faultless : Faultless table)
    (present : ∀ e ∈ table, e.2 ≠ .absent) : TextSecrets table := by
  intro e member secret
  rcases fault?_secret secret e.2 with ⟨-, text | absent⟩ | faulty
  · exact text
  · exact absurd absent (present e member)
  · cases (faultless e member).symm.trans faulty

def Likewise (name : String) (v v' : SettingValue) : Prop := v = v' ∨ name ∈ secrets

theorem veil_eq {table table' : SettingTable} (alike : Named.Entrywise Likewise table table')
    (texts : TextSecrets table) (texts' : TextSecrets table') : veil table = veil table' := by
  induction alike with
  | nil => rfl
  | @cons e e' rest rest' first _ ih =>
    obtain ⟨text, others⟩ := List.forall_mem_cons.mp texts
    obtain ⟨text', others'⟩ := List.forall_mem_cons.mp texts'
    obtain ⟨name, v⟩ := e
    obtain ⟨_, v'⟩ := e'
    obtain ⟨rfl, same⟩ := first
    have here : v.veiled name = v'.veiled name := by
      rcases same with rfl | secret
      · rfl
      · obtain ⟨s, rfl⟩ := text secret
        obtain ⟨s', rfl⟩ := text' secret
        rw [SettingValue.veiled_text secret, SettingValue.veiled_text secret]
    rw [veil, List.map_cons, here, ← veil, ih others others']
    rfl

end Settings

namespace Environment

/-- Environments of the same variables whose values differ in secrets at most. -/
def AlikeButSecrets : Environment → Environment → Prop :=
  Named.Entrywise fun key v v' => v = v' ∨ ∃ name ∈ secrets, path? key = some [name]

/-- What a failure could show of a setting's value. -/
def shown (env : Environment) (name : String) : Option String :=
  (Named.get? env.settings name).map SettingValue.diagnostic

theorem AlikeButSecrets.symm {env env' : Environment} (alike : AlikeButSecrets env env') :
    AlikeButSecrets env' env := by
  refine (List.Forall₂.flip alike).imp ?_
  rintro ⟨key, v'⟩ ⟨_, v⟩ ⟨rfl, same⟩
  exact ⟨rfl, same.imp_left Eq.symm⟩

theorem settings_alike {env env' : Environment} (alike : AlikeButSecrets env env') :
    Named.Entrywise Likewise env.settings env'.settings := by
  refine .ofList (List.rel_filterMap ?_ alike)
  rintro ⟨key, v⟩ ⟨_, v'⟩ ⟨rfl, same⟩
  simp only [setting?]
  rcases path : path? key with _ | _ | ⟨name, _ | ⟨_, _⟩⟩
  · exact .none
  · exact .none
  · refine .some ⟨rfl, ?_⟩
    rcases same with rfl | ⟨secret, member, here⟩
    · exact .inl rfl
    · rw [path] at here
      cases here
      exact .inr member
  · exact .some ⟨rfl, .inl rfl⟩

theorem settings_present {env : Environment} : ∀ e ∈ env.settings, e.2 ≠ .absent := by
  intro e member
  obtain ⟨⟨key, v⟩, -, here⟩ := List.mem_filterMap.mp (Named.mem_of_mem_ofList member)
  simp only [setting?] at here
  rcases path : path? key with _ | _ | ⟨name, _ | ⟨_, _⟩⟩ <;> rw [path] at here <;> cases here
  · exact SettingValue.ofText_ne_absent v
  · exact SettingValue.noConfusion

theorem AlikeButSecrets.same_value {env env' : Environment} (alike : AlikeButSecrets env env')
    {name : String} {v : SettingValue} (member : (name, v) ∈ env.settings)
    (plain : name ∉ secrets) : (name, v) ∈ env'.settings := by
  obtain ⟨v', here, rfl | secret⟩ := (settings_alike alike).right member
  · exact here
  · exact absurd secret plain

end Environment

namespace WorkloadConfig

open Environment (nameOf)

variable {env env' : Environment} {url origin reason reason' : String}

theorem failures_alike (alike : env.AlikeButSecrets env') (texts : TextSecrets env.settings)
    (texts' : TextSecrets env'.settings) (url : String) (f : Failure) :
    (ofEnvironment url env).1 = .error f ↔ (ofEnvironment url env').1 = .error f := by
  have veils := veil_eq (Environment.settings_alike alike) texts texts'
  have same : faultOf (ofEnvironment url env).1 = faultOf (ofEnvironment url env').1 := by
    rw [ofEnvironment, ofEnvironment, ← faultOf_veil, veils, faultOf_veil]
  rw [← faultOf_eq_error, same, faultOf_eq_error]

theorem fault_or_late (failed : (ofEnvironment url env).1 = .error (.config origin reason)) :
    (∃ name v fault, (name, v) ∈ env.settings ∧ fault? name v = some fault ∧
      origin = nameOf name ∧ reason = fault.message) ∨
    Faultless env.settings ∧ origin ∈ lateOrigins := by
  rw [ofEnvironment, ofTable] at failed
  cases taken : Settings.ofTable env.settings with
  | error e =>
    obtain ⟨name, fault⟩ := e
    obtain ⟨v, member, faulty⟩ := fault_of_taking taken
    rw [taken] at failed
    cases failed
    exact .inl ⟨name, v, fault, member, faulty, rfl, rfl⟩
  | ok s =>
    rw [taken] at failed
    exact .inr ⟨faultless_of_taking taken, late_origin failed⟩

theorem secret_known {name : String} (secret : name ∈ secrets) : name ∈ names := by
  have each : ∀ name ∈ secrets, name ∈ names := by decide
  exact each name secret

theorem reason_of_secret {name : String} (secret : name ∈ secrets)
    (failed : (ofEnvironment url env).1 = .error (.config (nameOf name) reason)) :
    ∃ shown, env.shown name = some shown ∧
      reason = "invalid type: found " ++ shown ++ ", expected " ++ SettingKind.text.expected := by
  rcases fault_or_late failed with ⟨other, v, fault, member, faulty, same, rfl⟩ | ⟨-, late⟩
  · cases Environment.nameOf_inj (secret_known secret) (known_of_fault? faulty) same
    have found : Named.get? env.settings name = some v :=
      (Named.ascending_ofList _).get?_eq_some member
    rcases fault?_secret secret v with ⟨faultless, -⟩ | mismatch
    · cases faultless.symm.trans faulty
    · cases mismatch.symm.trans faulty
      exact ⟨v.diagnostic, by rw [Environment.shown, found]; rfl, rfl⟩
  · exact absurd late (secret_not_late secret)

theorem reasons_alike (alike : env.AlikeButSecrets env')
    (failed : (ofEnvironment url env).1 = .error (.config origin reason))
    (failed' : (ofEnvironment url env').1 = .error (.config origin reason'))
    (plain : ∀ name ∈ secrets, origin ≠ nameOf name) : reason = reason' := by
  rcases fault_or_late failed with ⟨name, v, fault, member, faulty, rfl, rfl⟩ | ⟨clear, late⟩
  · have same := alike.same_value member fun secret => plain name secret rfl
    rcases fault_or_late failed' with ⟨name', v', fault', member', faulty', names, rfl⟩ | ⟨clear, -⟩
    · cases Environment.nameOf_inj (known_of_fault? faulty) (known_of_fault? faulty') names
      cases (Named.ascending_ofList _).value_unique same member'
      cases faulty.symm.trans faulty'
      rfl
    · cases faulty.symm.trans (clear _ same)
  · rcases fault_or_late failed' with ⟨name', v', fault', member', faulty', rfl, -⟩ | ⟨clear', -⟩
    · have same := alike.symm.same_value member' fun secret => plain name' secret rfl
      cases faulty'.symm.trans (clear _ same)
    · have same := (failures_alike alike (clear.textSecrets Environment.settings_present)
        (clear'.textSecrets Environment.settings_present) url _).mp failed
      cases same.symm.trans failed'
      rfl

/-- Two failures at one place tell environments apart that are alike but for secrets just when the
place is a secret that is read as something else than a text, which is shown. -/
theorem messages_equal_iff_shown_equal (alike : env.AlikeButSecrets env') (url : String) :
    (∀ origin reason reason', (ofEnvironment url env).1 = .error (.config origin reason) →
      (ofEnvironment url env').1 = .error (.config origin reason') →
      ((Failure.config origin reason).message = (Failure.config origin reason').message ↔
        ∀ name ∈ secrets, origin = nameOf name → env.shown name = env'.shown name)) ∧
    (TextSecrets env.settings → TextSecrets env'.settings → ∀ f,
      (ofEnvironment url env).1 = .error f ↔ (ofEnvironment url env').1 = .error f) := by
  refine ⟨fun origin reason reason' failed failed' => ?_,
    fun texts texts' => failures_alike alike texts texts' url⟩
  have messages : (Failure.config origin reason).message = (Failure.config origin reason').message ↔
      reason = reason' := String.append_right_inj _
  rw [messages]
  rcases Classical.em (∃ name ∈ secrets, origin = nameOf name) with ⟨name, secret, rfl⟩ | plain
  · obtain ⟨text, shown, rfl⟩ := reason_of_secret secret failed
    obtain ⟨text', shown', rfl⟩ := reason_of_secret secret failed'
    have here : env.shown name = env'.shown name ↔ text = text' := by
      rw [shown, shown', Option.some.injEq]
    constructor
    · intro equal other member same
      cases Environment.nameOf_inj (secret_known secret) (secret_known member) same
      exact here.mpr (by simpa using equal)
    · intro equal
      rw [here.mp (equal name secret rfl)]
  · have plain : ∀ name ∈ secrets, origin ≠ nameOf name :=
      fun name member same => plain ⟨name, member, same⟩
    exact ⟨fun _ name member same => absurd same (plain name member),
      fun _ => reasons_alike alike failed failed' plain⟩

/-- Numbers as tokens are not shown where another setting fails. -/
theorem failure_before_token :
    let url := "http://localhost:8181/catalog"
    let env (token : String) : Environment :=
      [("MIGRATION_TEST__TOKEN", token), ("MIGRATION_TEST__S3_PATH_STYLE_ACCESS", "maybe")]
    let reason := "invalid type: found string \"maybe\", expected a boolean"
    (env "123456").AlikeButSecrets (env "a654321") ∧
      (ofEnvironment url (env "123456")).1 =
        .error (.config "MIGRATION_TEST__S3_PATH_STYLE_ACCESS" reason) ∧
      ∀ reason', (ofEnvironment url (env "a654321")).1 =
          .error (.config "MIGRATION_TEST__S3_PATH_STYLE_ACCESS" reason') →
        (Failure.config "MIGRATION_TEST__S3_PATH_STYLE_ACCESS" reason).message =
          (Failure.config "MIGRATION_TEST__S3_PATH_STYLE_ACCESS" reason').message := by
  intro url env reason
  have token : Environment.path? "MIGRATION_TEST__TOKEN" = some ["token"] := by decide +kernel
  have alike : (env "123456").AlikeButSecrets (env "a654321") :=
    .cons ⟨rfl, .inr ⟨"token", by decide, token⟩⟩ (.cons ⟨rfl, .inl rfl⟩ .nil)
  have failed : (ofEnvironment url (env "123456")).1 =
      .error (.config "MIGRATION_TEST__S3_PATH_STYLE_ACCESS" reason) := by decide +kernel
  refine ⟨alike, failed, fun reason' failed' => ?_⟩
  exact ((messages_equal_iff_shown_equal alike url).1 _ _ _ failed failed').mpr (by decide +kernel)

/-- A client's secret of digits is told by the failure it causes. -/
theorem secret_of_digits_shown :
    let url := "http://localhost:8181/catalog"
    let env (secret : String) : Environment := [("MIGRATION_TEST__OPENID_CLIENT_ID", "spark"),
      ("MIGRATION_TEST__OPENID_CLIENT_SECRET", secret)]
    (env "20240917").AlikeButSecrets (env "7") ∧
      (ofEnvironment url (env "20240917")).1 =
        .error (.config "MIGRATION_TEST__OPENID_CLIENT_SECRET"
          "invalid type: found unsigned int \x6020240917\x60, expected a string") ∧
      (ofEnvironment url (env "7")).1 =
        .error (.config "MIGRATION_TEST__OPENID_CLIENT_SECRET"
          "invalid type: found unsigned int \x607\x60, expected a string") := by
  intro url env
  have secret : Environment.path? "MIGRATION_TEST__OPENID_CLIENT_SECRET" =
      some ["openid_client_secret"] := by decide +kernel
  exact ⟨.cons ⟨rfl, .inl rfl⟩ (.cons ⟨rfl, .inr ⟨_, by decide, secret⟩⟩ .nil),
    by decide +kernel, by decide +kernel⟩

end WorkloadConfig

end CatalogMigration
