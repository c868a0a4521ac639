import CatalogMigration.Command.Programs
import Mathlib.Data.List.Basic

namespace CatalogMigration

inductive Credentials.AlikeButSecret : Credentials → Credentials → Prop
  | anonymous : AlikeButSecret .anonymous .anonymous
  | token (token token' : String) : AlikeButSecret (.token token) (.token token')
  | client (id secret secret' : String) (tokenEndpoint : Option Url) (scope : Option String) :
    AlikeButSecret (.client id secret tokenEndpoint scope) (.client id secret' tokenEndpoint scope)

theorem Credentials.AlikeButSecret.diagnostic {c c' : Credentials} (alike : c.AlikeButSecret c') :
    c.diagnostic = c'.diagnostic := by
  cases alike <;> rfl

inductive Authentication.AlikeButSecret : Authentication → Authentication → Prop
  | anonymous : AlikeButSecret .anonymous .anonymous
  | token (token token' : String) : AlikeButSecret (.token token) (.token token')
  | client (tokenEndpoint : Option Url) (id secret secret' : String) (scope : Option String) :
    AlikeButSecret (.client tokenEndpoint id secret scope) (.client tokenEndpoint id secret' scope)

theorem Authentication.AlikeButSecret.diagnostic {a a' : Authentication}
    (alike : a.AlikeButSecret a') : a.diagnostic = a'.diagnostic := by
  cases alike <;> rfl

theorem Text.optional_hidden {α : Type} {shown : String} {x y : Option α}
    (present : x.isSome = y.isSome) :
    optional (fun _ => shown) x = optional (fun _ => shown) y := by
  cases x <;> cases y
  case none.some | some.none => cases present
  all_goals rfl

namespace StorageOverrides

structure AlikeButSecret (s s' : StorageOverrides) : Prop where
  same : s' = { s with s3SecretKey := s'.s3SecretKey }
  present : s.s3SecretKey.isSome = s'.s3SecretKey.isSome

theorem AlikeButSecret.diagnostic {s s' : StorageOverrides} (alike : s.AlikeButSecret s') :
    s.diagnostic = s'.diagnostic := by
  rw [alike.same]
  simp only [StorageOverrides.diagnostic, Text.optional_hidden alike.present]

end StorageOverrides

structure WorkloadConfig.AlikeButSecrets (c c' : WorkloadConfig) : Prop where
  same : c' = { c with credentials := c'.credentials, storage := c'.storage }
  credentials : c.credentials.AlikeButSecret c'.credentials
  storage : c.storage.AlikeButSecret c'.storage

theorem WorkloadConfig.AlikeButSecrets.diagnostic {c c' : WorkloadConfig}
    (alike : c.AlikeButSecrets c') : c.diagnostic = c'.diagnostic := by
  rw [alike.same]
  simp only [WorkloadConfig.diagnostic, alike.credentials.diagnostic, alike.storage.diagnostic]

structure ClientConfig.AlikeButSecret (c c' : ClientConfig) : Prop where
  same : c' = { c with authentication := c'.authentication }
  authentication : c.authentication.AlikeButSecret c'.authentication

theorem ClientConfig.AlikeButSecret.diagnostic {c c' : ClientConfig} (alike : c.AlikeButSecret c') :
    c.diagnostic = c'.diagnostic := by
  rw [alike.same]
  simp only [ClientConfig.diagnostic, alike.authentication.diagnostic]

namespace Command.MigrationWorkload

variable {url : String} {env : Environment} {config : WorkloadConfig}

theorem work_of_config (made : (WorkloadConfig.ofEnvironment url env).1 = .ok config)
    (task : Task) : ∃ rest, work task url env =
      ((WorkloadConfig.ofEnvironment url env).2 ++ [announcement task config]).foldr
        (fun e p => .act (.log e) p) rest := by
  refine ⟨(RestSession.run config task).bind fun r => .done (r.map Report.display), ?_⟩
  unfold work
  dsimp only
  rw [made, List.foldr_append, List.foldr_cons, List.foldr_nil]

end Command.MigrationWorkload

open Command.MigrationWorkload in
/-- Texts of secrets make no difference to what is shown of a configuration, to what is logged of it
before a run or to what is shown of a client's configuration, whatever else is configured. A run
logs nothing before that but warnings of settings. -/
theorem diagnostics_hide_secrets :
    (∀ c c' : WorkloadConfig, c.AlikeButSecrets c' → c.diagnostic = c'.diagnostic ∧
      ∀ task, announcement task c = announcement task c') ∧
    (∀ c c' : ClientConfig, c.AlikeButSecret c' → c.diagnostic = c'.diagnostic) ∧
    ∀ task url env config, (WorkloadConfig.ofEnvironment url env).1 = .ok config →
      ∃ rest, work task url env =
        ((WorkloadConfig.ofEnvironment url env).2 ++ [announcement task config]).foldr
          (fun e p => .act (.log e) p) rest := by
  refine ⟨fun c c' alike => ⟨alike.diagnostic, fun task => ?_⟩, fun c c' alike => alike.diagnostic,
    fun task url env config made => work_of_config made task⟩
  rw [announcement, announcement, alike.diagnostic]

open Command.MigrationWorkload in
/-- A client whose secrets hold quotes and the mark of hidden texts, and a run with a secret key. -/
theorem quotes_in_secrets_hidden :
    let address := "http://localhost:8181/catalog"
    let url : Url := ⟨"http".toList, [], none, some (.domain "localhost".toList), some 8181,
      .segments ["catalog".toList], none, none⟩
    let config (secret key : String) : WorkloadConfig :=
      { catalogUrl := url, credentials := .client "spark" secret none (some "lakekeeper"),
        storage := { s3AccessKey := some "minio", s3SecretKey := some key } }
    let client (secret : String) : ClientConfig :=
      { catalogUrl := url, warehouse := "demo", authentication := .client none "spark" secret none }
    let keyed (key : String) : WorkloadConfig :=
      { catalogUrl := url, storage := { s3SecretKey := some key } }
    let env : Environment := [("MIGRATION_TEST__S3_SECRET_KEY", "hunter2")]
    (config "hunter2" "a").AlikeButSecrets (config "\"********" "") ∧
    (client "hunter2").AlikeButSecret (client "") ∧
    (config "hunter2" "a").diagnostic = (config "\"********" "").diagnostic ∧
    (client "hunter2").diagnostic = (client "").diagnostic ∧
    WorkloadConfig.ofEnvironment address env = (.ok (keyed "hunter2"), []) ∧
    ∃ rest, work .read address env = .act (.log (announcement .read (keyed ""))) rest := by
  intro address url config client keyed env
  obtain ⟨workload, clients, runs⟩ := diagnostics_hide_secrets
  have alike : (config "hunter2" "a").AlikeButSecrets (config "\"********" "") :=
    ⟨rfl, .client .., rfl, rfl⟩
  have alikeClient : (client "hunter2").AlikeButSecret (client "") := ⟨rfl, .client ..⟩
  have alikeKeyed : (keyed "hunter2").AlikeButSecrets (keyed "") := ⟨rfl, .anonymous, rfl, rfl⟩
  have made : WorkloadConfig.ofEnvironment address env = (.ok (keyed "hunter2"), []) := by
    decide +kernel
  obtain ⟨rest, run⟩ := runs .read address env (keyed "hunter2") (congrArg Prod.fst made)
  refine ⟨alike, alikeClient, (workload _ _ alike).1, clients _ _ alikeClient, made, rest, ?_⟩
  rw [run, congrArg Prod.snd made, (workload _ _ alikeKeyed).2 .read]
  rfl

end CatalogMigration
