import CatalogMigration.Config.Settings
import CatalogMigration.Proofs.Settings.Environment
import CatalogMigration.Proofs.Settings.Reader
import CatalogMigration.Proofs.Settings.Table

namespace CatalogMigration

open Environment SettingValue

/-- A setting whose value goes into a configuration as it is. -/
inductive TextSetting
  | token
  | s3Endpoint
  | s3AccessKey
  | s3SecretKey
  | s3Region
deriving DecidableEq, Repr

namespace TextSetting

def name : TextSetting → String
  | .token => "token"
  | .s3Endpoint => "s3_endpoint"
  | .s3AccessKey => "s3_access_key"
  | .s3SecretKey => "s3_secret_key"
  | .s3Region => "s3_region"

theorem name_known (t : TextSetting) : t.name ∈ Settings.names := by cases t <;> decide

def choices (v : String) : TextSetting → WorkloadChoices
  | .token => { credentials := .token v }
  | .s3Endpoint => { storage := { s3Endpoint := some v } }
  | .s3AccessKey => { storage := { s3AccessKey := some v } }
  | .s3SecretKey => { storage := { s3SecretKey := some v } }
  | .s3Region => { storage := { s3Region := some v } }

end TextSetting

theorem SettingValue.text?_ofText {v : String} (alphanum : ∀ c ∈ v.toList, c.isAlphanum = true) :
    (ofText v).text? =
      if Mistakable v then .error (.mismatch (ofText v) .text) else .ok (some v) := by
  rcases ofText_cases alphanum with ⟨b, rfl, read⟩ | ⟨n, value, fits, read⟩ | ⟨clear, read⟩
  · rw [read, if_pos (mistakable_truth b)]
    rfl
  · rw [read, if_pos (.inr (.inr ⟨n, value, fits⟩))]
    rfl
  · rw [read, if_neg clear]
    rfl

namespace WorkloadConfig

def notText (name v : String) : Failure :=
  Settings.fault name (SettingFault.mismatch (.ofText v) .text).message

theorem ofUrl_choices {url : String} {plain : WorkloadConfig} (accepted : ofUrl url {} = .ok plain)
    (choices : WorkloadChoices) :
    ofUrl url choices = .ok { plain with toWorkloadChoices := choices } := by
  unfold ofUrl at accepted ⊢
  split at accepted
  · cases accepted
  · split at accepted
    · cases accepted
    · next usable =>
      cases accepted
      exact if_neg usable

variable {url : String} {plain : WorkloadConfig} {env : Environment} {v w : String}

theorem ofEnvironment_text (accepted : ofUrl url {} = .ok plain)
    (alphanum : ∀ c ∈ v.toList, c.isAlphanum = true) {t : TextSetting}
    (own : env.own = [(nameOf t.name, v)]) :
    ofEnvironment url env =
      if Mistakable v then (.error (notText t.name v), [])
      else (.ok { plain with toWorkloadChoices := t.choices v }, []) := by
  have table : env.settings = [(t.name, .ofText v)] :=
    @settings_of_own env [(t.name, v)] (by simpa using t.name_known) own
  have read := text?_ofText alphanum
  rw [ofEnvironment, table]
  by_cases mistakable : Mistakable v
  · rw [if_pos mistakable] at read ⊢
    cases t <;> simp [ofTable, Settings.ofTable_cons, Settings.set, TextSetting.name, read,
      Except.map, notText]
  · rw [if_neg mistakable] at read ⊢
    rw [← ofUrl_choices accepted]
    cases t <;> simp [ofTable, Settings.ofTable_cons, Settings.set, TextSetting.name, read,
      Except.map] <;> exact ⟨rfl, Settings.unknownNames_eq_nil (by simp [Settings.names])⟩

theorem ofEnvironment_client (accepted : ofUrl url {} = .ok plain)
    (id_alphanum : ∀ c ∈ v.toList, c.isAlphanum = true)
    (secret_alphanum : ∀ c ∈ w.toList, c.isAlphanum = true)
    (own : env.own.Perm
      [(nameOf "openid_client_id", v), (nameOf "openid_client_secret", w)]) :
    ofEnvironment url env =
      if Mistakable v then (.error (notText "openid_client_id" v), [])
      else if Mistakable w then (.error (notText "openid_client_secret" w), [])
      else
        (.ok { plain with toWorkloadChoices := { credentials := .client v w none none } }, []) := by
  have table : env.settings =
      [("openid_client_id", .ofText v), ("openid_client_secret", .ofText w)] :=
    settings_of_pair (by decide) (by decide) (by decide) own
  have readId := text?_ofText id_alphanum
  have readSecret := text?_ofText secret_alphanum
  rw [ofEnvironment, table]
  by_cases idMistakable : Mistakable v
  · rw [if_pos idMistakable] at readId ⊢
    simp [ofTable, Settings.ofTable_cons, Settings.set, readId, Except.map, notText]
  rw [if_neg idMistakable] at readId ⊢
  by_cases secretMistakable : Mistakable w
  · rw [if_pos secretMistakable] at readSecret ⊢
    simp [ofTable, Settings.ofTable_cons, Settings.taking_cons, Settings.set, readId, readSecret,
      Except.map, notText]
  · rw [if_neg secretMistakable] at readSecret ⊢
    have known := @Settings.unknownNames_eq_nil
      [("openid_client_id", .ofText v), ("openid_client_secret", .ofText w)]
      (by simp [Settings.names])
    rw [ofTable, Settings.ofTable_cons, known]
    simp [Settings.taking_cons, Settings.set, readId, readSecret, Except.map,
      ← ofUrl_choices accepted]
    rfl

/-- Texts of letters and digits arrive in a configuration as they are written just when none of
them is read as a truth value or a number. Otherwise the first that is makes the whole fail. -/
theorem texts_arrive_iff_unmistakable (accepted : ofUrl url {} = .ok plain)
    (alphanum : ∀ c ∈ v.toList, c.isAlphanum = true)
    (secret_alphanum : ∀ c ∈ w.toList, c.isAlphanum = true) :
    (∀ (t : TextSetting) (env : Environment), env.own = [(nameOf t.name, v)] →
      ofEnvironment url env =
        if Mistakable v then (.error (notText t.name v), [])
        else (.ok { plain with toWorkloadChoices := t.choices v }, [])) ∧
    ∀ env : Environment,
      env.own.Perm [(nameOf "openid_client_id", v), (nameOf "openid_client_secret", w)] →
      ofEnvironment url env =
        if Mistakable v then (.error (notText "openid_client_id" v), [])
        else if Mistakable w then (.error (notText "openid_client_secret" w), [])
        else
          (.ok { plain with toWorkloadChoices := { credentials := .client v w none none } }, []) :=
  ⟨fun _ _ own => ofEnvironment_text accepted alphanum own,
    fun _ own => ofEnvironment_client accepted alphanum secret_alphanum own⟩

/-- A number that does not fit into 64 bits is a text, a truth value is none. -/
theorem long_number_arrives :
    let url := "http://localhost:8181/catalog"
    let plain : WorkloadConfig := {
      catalogUrl := ⟨"http".toList, [], none, some (.domain "localhost".toList), some 8181,
        .segments ["catalog".toList], none, none⟩ }
    let long := "18446744073709551616"
    let alone : Environment := [("PATH", "/bin"), ("MIGRATION_TEST__S3_SECRET_KEY", long)]
    let both : Environment := [("MIGRATION_TEST__OPENID_CLIENT_SECRET", "true"),
      ("MIGRATION_TEST__OPENID_CLIENT_ID", long)]
    ofUrl url {} = .ok plain ∧ (∀ c ∈ long.toList, c.isAlphanum = true) ∧
      ofEnvironment url alone =
        (.ok { plain with storage := { s3SecretKey := some long } }, []) ∧
      ofEnvironment url both = (.error (notText "openid_client_secret" "true"), []) := by
  intro url plain long alone both
  have accepted : ofUrl url {} = .ok plain := by decide +kernel
  have alphanum : ∀ c ∈ long.toList, c.isAlphanum = true :=
    List.all_eq_true.mp (by decide +kernel)
  have arrive := @texts_arrive_iff_unmistakable url plain long "true" accepted alphanum
    (List.all_eq_true.mp (by decide +kernel))
  refine ⟨accepted, alphanum, ?_, ?_⟩
  · rw [arrive.1 .s3SecretKey alone (by decide +kernel), if_neg (by decide +kernel)]
    rfl
  · rw [arrive.2 both (List.perm_pair.mpr (.inr (by decide +kernel))), if_neg (by decide +kernel),
      if_pos (by decide +kernel)]

/-- A token of digits is taken for a number. -/
theorem token_of_digits_refused :
    ofEnvironment "http://localhost:8181/catalog" [("MIGRATION_TEST__TOKEN", "123456")] =
      (.error (.config "MIGRATION_TEST__TOKEN"
        "invalid type: found unsigned int \x60123456\x60, expected a string"), []) := by
  decide +kernel

end WorkloadConfig

end CatalogMigration
