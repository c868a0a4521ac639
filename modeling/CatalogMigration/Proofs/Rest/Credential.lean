import CatalogMigration.Proofs.Rest.Base
import CatalogMigration.Proofs.Text.Characters

namespace CatalogMigration

open Text

namespace EngineProperties

variable {id secret : String}

theorem splitCredential_of_plain (secret : String) (plain : ':' ∉ id.toList) :
    splitCredential (id ++ ":" ++ secret) = (some id, secret) := by
  have parted : (id.toList ++ ':' :: secret.toList).span (· ≠ ':') =
      (id.toList, ':' :: secret.toList) := by
    apply span_append
    · intro c member
      simp only [ne_eq, decide_not, Bool.not_eq_true', decide_eq_false_iff_not]
      rintro rfl
      exact plain member
    · rintro c ⟨⟩
      rfl
  have whole : (id ++ ":" ++ secret).toList = id.toList ++ ':' :: secret.toList := by simp
  rw [splitCredential, whole, parted]
  simp

theorem first_colon {s : String} (colon : ':' ∈ s.toList) :
    ∃ front back : String, s = front ++ ":" ++ back ∧ ':' ∉ front.toList := by
  obtain ⟨front, back, split, first⟩ := List.eq_append_cons_of_mem colon
  refine ⟨String.ofList front, String.ofList back, ?_, by simpa using first⟩
  rw [← String.toList_inj, split]
  simp

theorem splitCredential_joined (id secret front back : String) :
    splitCredential (id ++ ":" ++ secret) = (some front, back) ↔
      ':' ∉ front.toList ∧ front ++ ":" ++ back = id ++ ":" ++ secret := by
  constructor
  · intro split
    obtain ⟨first, rest, whole, plain⟩ := @first_colon (id ++ ":" ++ secret) (by simp)
    rw [whole, splitCredential_of_plain _ plain] at split
    cases split
    exact ⟨plain, whole.symm⟩
  · rintro ⟨plain, whole⟩
    rw [← whole, splitCredential_of_plain _ plain]

theorem count_joined (id secret : String) :
    (id ++ ":" ++ secret).toList.count ':' =
      id.toList.count ':' + secret.toList.count ':' + 1 := by
  simp
  omega

theorem joined_twice_iff (id secret : String) :
    (∃ id' secret', (id', secret') ≠ (id, secret) ∧ id' ++ ":" ++ secret' = id ++ ":" ++ secret) ↔
      ':' ∈ id.toList ∨ ':' ∈ secret.toList := by
  constructor
  · rintro ⟨id', secret', other, same⟩
    by_contra none_of
    obtain ⟨plain, last⟩ := not_or.mp none_of
    -- there is but one colon in the text, so the other identifier has none either
    have counts := count_joined id' secret'
    rw [same, count_joined, List.count_eq_zero_of_not_mem plain,
      List.count_eq_zero_of_not_mem last] at counts
    have plain' : ':' ∉ id'.toList := List.count_eq_zero.mp (by omega)
    have split := splitCredential_of_plain secret' plain'
    rw [same, splitCredential_of_plain _ plain] at split
    cases split
    exact other rfl
  · rintro (colon | colon)
    · obtain ⟨front, back, rfl, plain⟩ := first_colon colon
      refine ⟨front, back ++ ":" ++ secret, ?_, by simp [String.append_assoc]⟩
      intro same
      have shorter : front.length = front.length + ":".length + back.length := by
        simpa using congrArg (·.1.length) same
      have one : ":".length = 1 := rfl
      omega
    · obtain ⟨front, back, rfl, plain⟩ := first_colon colon
      refine ⟨id ++ ":" ++ front, back, ?_, by simp [String.append_assoc]⟩
      intro same
      have longer : id.length + ":".length + front.length = id.length := by
        simpa using congrArg (·.1.length) same
      have one : ":".length = 1 := rfl
      omega

theorem name_of_optional {α : Type} {o : Option α} {name : String} {f : α → String}
    {e : String × String} (member : e ∈ o.toList.map fun a => (name, f a)) : e.1 = name := by
  obtain ⟨a, -, rfl⟩ := List.mem_map.mp member
  rfl

theorem credential_ofConfig {c : WorkloadConfig} {endpoint : Option Url} {scope : Option String}
    (client : c.credentials = .client id secret endpoint scope) :
    (ofConfig c).get? "credential" = some (id ++ ":" ++ secret) := by
  have others : ∀ e ∈ endpoint.toList.map (fun u => ("oauth2-server-uri", u.display)) ++
      scope.toList.map (fun s => ("scope", s)) ++ c.storage.properties, e.1 ≠ "credential" := by
    intro e member
    simp only [StorageOverrides.properties, List.mem_append] at member
    rcases member with (member | member) | (((member | member) | member) | member) | member <;>
      rw [name_of_optional member] <;> decide
  have found := @Named.get?_ofList_append _
    [("uri", withoutSlashes c.catalogUrl.display), ("warehouse", c.warehouse)] _
    ("credential", id ++ ":" ++ secret) others
  rw [get?, ofConfig, client, Credentials.properties]
  simpa [List.append_assoc] using found

theorem credential?_ofConfig {c : WorkloadConfig} {endpoint : Option Url} {scope : Option String}
    (client : c.credentials = .client id secret endpoint scope) :
    (ofConfig c).credential? = some (splitCredential (id ++ ":" ++ secret)) := by
  rw [credential?, credential_ofConfig client, Option.map_some]

end EngineProperties

namespace RestSession

variable {c : WorkloadConfig} {id secret : String} {endpoint : Option Url} {scope : Option String}

/-- Both halves of a session ask in the name of one client just when there is no colon in its
identifier. A credential belongs to no other client just when there is none in the secret either. -/
theorem same_client_iff (client : c.credentials = .client id secret endpoint scope) :
    c.credentials.authentication = .client endpoint id secret scope ∧
    ((EngineProperties.ofConfig c).credential? = some (some id, secret) ↔ ':' ∉ id.toList) ∧
    (∀ front back, (EngineProperties.ofConfig c).credential? = some (some front, back) ↔
      ':' ∉ front.toList ∧ front ++ ":" ++ back = id ++ ":" ++ secret) ∧
    (∀ (c' : WorkloadConfig) (id' secret' : String) (endpoint' : Option Url)
      (scope' : Option String), c'.credentials = .client id' secret' endpoint' scope' →
      ':' ∉ id.toList → ':' ∉ id'.toList →
      (EngineProperties.ofConfig c').get? "credential" =
        (EngineProperties.ofConfig c).get? "credential" → id' = id ∧ secret' = secret) ∧
    ((∃ (c' : WorkloadConfig) (id' secret' : String),
      c'.credentials = .client id' secret' endpoint scope ∧ (id', secret') ≠ (id, secret) ∧
      (EngineProperties.ofConfig c').get? "credential" =
        (EngineProperties.ofConfig c).get? "credential") ↔
      ':' ∈ id.toList ∨ ':' ∈ secret.toList) := by
  have read (front back : String) :
      (EngineProperties.ofConfig c).credential? = some (some front, back) ↔
        ':' ∉ front.toList ∧ front ++ ":" ++ back = id ++ ":" ++ secret := by
    rw [EngineProperties.credential?_ofConfig client, Option.some.injEq,
      EngineProperties.splitCredential_joined]
  refine ⟨by rw [client]; rfl, ?_, read, ?_, ?_⟩
  · rw [read]
    exact and_iff_left rfl
  · intro c' id' secret' endpoint' scope' client' plain plain' same
    rw [EngineProperties.credential_ofConfig client, EngineProperties.credential_ofConfig client',
      Option.some.injEq] at same
    have split := EngineProperties.splitCredential_of_plain secret' plain'
    rw [same, EngineProperties.splitCredential_of_plain _ plain] at split
    cases split
    exact ⟨rfl, rfl⟩
  · rw [← EngineProperties.joined_twice_iff id secret]
    constructor
    · rintro ⟨c', id', secret', client', other, same⟩
      rw [EngineProperties.credential_ofConfig client,
        EngineProperties.credential_ofConfig client', Option.some.injEq] at same
      exact ⟨id', secret', other, same⟩
    · rintro ⟨id', secret', other, same⟩
      let c' : WorkloadConfig := { c with credentials := .client id' secret' endpoint scope }
      have client' : c'.credentials = .client id' secret' endpoint scope := rfl
      refine ⟨c', id', secret', client', other, ?_⟩
      rw [EngineProperties.credential_ofConfig client,
        EngineProperties.credential_ofConfig client', same]

def identifiedBy (id secret : String) : WorkloadConfig where
  credentials := .client id secret none (some "lakekeeper")
  catalogUrl := ⟨"http".toList, [], none, some (.domain "localhost".toList), some 8181,
    .segments ["catalog".toList], none, none⟩

/-- A colon in the secret stays there, but an identifier with a colon has the same credential. -/
theorem colon_of_secret_kept :
    (identifiedBy "spark" "hunter:2").credentials =
        .client "spark" "hunter:2" none (some "lakekeeper") ∧
      (EngineProperties.ofConfig (identifiedBy "spark" "hunter:2")).credential? =
        some (some "spark", "hunter:2") ∧
      ∃ c' id' secret', c'.credentials = .client id' secret' none (some "lakekeeper") ∧
        (id', secret') ≠ ("spark", "hunter:2") ∧
        (EngineProperties.ofConfig c').get? "credential" =
          (EngineProperties.ofConfig (identifiedBy "spark" "hunter:2")).get? "credential" := by
  have client : (identifiedBy "spark" "hunter:2").credentials =
      .client "spark" "hunter:2" none (some "lakekeeper") := rfl
  obtain ⟨-, same, -, -, shared⟩ := same_client_iff client
  exact ⟨client, same.mpr (by decide), shared.mpr (.inr (by decide))⟩

/-- The engine asks in the name of another client, the one that has the credential by right. -/
theorem colon_of_identifier_moved :
    (identifiedBy "a:b" "c").credentials.authentication =
        .client none "a:b" "c" (some "lakekeeper") ∧
      (EngineProperties.ofConfig (identifiedBy "a:b" "c")).credential? = some (some "a", "b:c") ∧
      (EngineProperties.ofConfig (identifiedBy "a:b" "c")).get? "credential" =
        (EngineProperties.ofConfig (identifiedBy "a" "b:c")).get? "credential" := by
  decide +kernel

end RestSession

end CatalogMigration
