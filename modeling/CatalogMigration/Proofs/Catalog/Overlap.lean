import CatalogMigration.Proofs.Catalog.History

namespace CatalogMigration

/-- A creation that succeeds although the table of its name is softly dropped. -/
def CatalogOperation.recreates (key : TableKey) (c : Catalog) : CatalogOperation → Bool
  | .call (.create space t) =>
    !c.unreachable && decide (space ∈ c.spaces) && decide (t.key space = key)
      && (c.tombstones.get? key).isSome
  | _ => false

namespace Catalog

variable {c d : Catalog} {now : Span} {key : TableKey} {o : CatalogOperation}

def neverRecreates (key : TableKey) : Catalog → List (Span × CatalogOperation) → Bool
  | _, [] => true
  | c, o :: os => !o.2.recreates key c && neverRecreates key (o.2.apply o.1 c).2 os

def Apart (key : TableKey) (c : Catalog) : Prop :=
  c.live.get? key = none ∨ c.tombstones.get? key = none

theorem Transition.apart (changed : Transition now c d o) (fresh : o.recreates key c = false)
    (apart : c.Apart key) : d.Apart key := by
  by_cases about : o.key? = some key
  · cases changed with
    | kept live tombstones => exact apart.imp (live ▸ ·) (tombstones ▸ ·)
    | @created space t reachable known live tombstones =>
      have here : t.key space = key := Option.some.inj about
      right
      simpa [CatalogOperation.recreates, reachable, known, here, tombstones] using fresh
    | @rewritten _ k old new about' found live tombstones =>
      have here : k = key := Option.some.inj (about'.symm.trans about)
      rw [here] at found
      right
      rw [tombstones]
      exact apart.resolve_left (by simp [found])
    | @buried space t stored found live tombstones =>
      have here : t.key space = key := Option.some.inj about
      left
      rw [live, here, Assoc.get?_erase_self]
    | @purged space t stored found live tombstones =>
      have here : t.key space = key := Option.some.inj about
      left
      rw [live, here, Assoc.get?_erase_self]
    | @forgotten k live tombstones | @restored k t found live tombstones =>
      have here : k = key := Option.some.inj about
      right
      rw [tombstones, here, Assoc.get?_erase_self]
  · obtain ⟨live, tombstones⟩ := changed.elsewhere about
    exact apart.imp (live ▸ ·) (tombstones ▸ ·)

theorem not_apart_of_recreates (recreated : o.recreates key c = true) :
    ¬ (o.apply now c).2.Apart key := by
  cases o with
  | call request =>
    cases request with
    | create space t =>
      simp only [CatalogOperation.recreates, Bool.and_eq_true, Bool.not_eq_true',
        decide_eq_true_iff] at recreated
      obtain ⟨⟨⟨reachable, known⟩, rfl⟩, buried⟩ := recreated
      obtain ⟨t', found⟩ := Option.isSome_iff_exists.mp buried
      rintro (live | tombstones)
      · simp [CatalogOperation.apply, answer_create reachable known] at live
      · simp [CatalogOperation.apply, answer_create reachable known, found] at tombstones
    | _ => cases recreated
  | _ => cases recreated

theorem apart_of_neverRecreates {operations : List (Span × CatalogOperation)}
    (never : c.neverRecreates key operations = true) (apart : c.Apart key)
    {earlier later : List (Span × CatalogOperation)} (split : operations = earlier ++ later) :
    (c.after earlier).Apart key := by
  induction earlier generalizing c operations with
  | nil => exact apart
  | cons o os ih =>
    subst split
    rw [List.cons_append, neverRecreates, Bool.and_eq_true, Bool.not_eq_true'] at never
    exact ih never.2 ((apply_transition o.1 c o.2).apart never.1 apart) rfl

theorem neverRecreates_of_apart {operations : List (Span × CatalogOperation)}
    (apart : ∀ earlier later, operations = earlier ++ later → (c.after earlier).Apart key) :
    c.neverRecreates key operations = true := by
  induction operations generalizing c with
  | nil => rfl
  | cons o os ih =>
    rw [neverRecreates, Bool.and_eq_true, Bool.not_eq_true', ← Bool.not_eq_true]
    refine ⟨fun recreated => not_apart_of_recreates recreated (apart [o] os rfl), ih ?_⟩
    intro earlier later split
    exact apart (o :: earlier) later (by rw [split, List.cons_append])

theorem Apart.undrop_of_live (apart : c.Apart key) {stored : StoredTable}
    (found : c.live.get? key = some stored) (now : Span) : c.undrop now key = (false, c) :=
  undrop_of_unburied (apart.resolve_left (by simp [found])) now

/-- A key is never live and softly dropped at once in a history, the calls of runs among it, just
when no creation finds the tombstone of its name. Then an undrop of a live table is refused and
leaves it as it is. -/
theorem apart_iff_never_recreated (retention : Span) (key : TableKey)
    (operations : List (Span × CatalogOperation)) :
    let history := (empty retention).after
    ((empty retention).neverRecreates key operations = true ↔
      ∀ earlier later, operations = earlier ++ later → (history earlier).Apart key) ∧
    ((empty retention).neverRecreates key operations = true →
      ∀ now stored, (history operations).live.get? key = some stored →
        (history operations).undrop now key = (false, history operations)) ∧
    ∀ (α : Type) (run : SessionProgram α) (now : Span),
      (run.outcome answer now (history operations)).state =
        history (operations ++ runOperations run now (history operations)) := by
  intro history
  have apart (never : (empty retention).neverRecreates key operations = true) :=
    @apart_of_neverRecreates _ _ _ never (.inl rfl)
  refine ⟨⟨fun never earlier later => apart never, neverRecreates_of_apart⟩, ?_, ?_⟩
  · intro never now stored found
    exact (apart never (List.append_nil _).symm).undrop_of_live found now
  · intro α run now
    rw [outcome_eq_after]
    exact (after_append ..).symm

/-- A table that was brought back and one that was purged are created anew, and an undrop comes too
late for either. -/
theorem undropped_table_recreated :
    let key : TableKey := ⟨"my_namespace", "my_table_2"⟩
    let t : Fixture := .dropped "my_table_2" .soft
    let operations : List (Span × CatalogOperation) :=
      [(.zero, .call (.ensureNamespace "my_namespace")),
        (.zero, .call (.create "my_namespace" t)),
        (.ofSeconds 1, .call (.drop "my_namespace" t .soft)),
        (.ofSeconds 2, .undrop key),
        (.ofSeconds 3, .call (.create "my_namespace" t)),
        (.ofSeconds 4, .call (.drop "my_namespace" t .purge)),
        (.ofSeconds 5, .call (.create "my_namespace" t)),
        (.ofSeconds 6, .call (.append "my_namespace" t fixtureRows))]
    let c := (empty (.ofSeconds 60)).after operations
    (empty (.ofSeconds 60)).neverRecreates key operations = true ∧ c.Apart key ∧
      c.live.get? key = some ⟨.fixture, fixtureRows⟩ ∧ c.undrop (.ofSeconds 7) key = (false, c) := by
  intro key t operations c
  have never : (empty (.ofSeconds 60)).neverRecreates key operations = true := by
    subst operations t key
    decide +kernel
  have live : c.live.get? key = some ⟨.fixture, fixtureRows⟩ := by
    subst c operations t key
    decide +kernel
  obtain ⟨apart, refused, -⟩ := apart_iff_never_recreated (.ofSeconds 60) key operations
  exact ⟨never, apart.mp never operations [] (List.append_nil _).symm, live,
    refused never (.ofSeconds 7) _ live⟩

/-- A table that is created anew while the old one is softly dropped is live beside its tombstone,
and an undrop puts the old one in its place. -/
theorem recreated_table_overlaps :
    let key : TableKey := ⟨"my_namespace", "my_table_2"⟩
    let t : Fixture := .dropped "my_table_2" .soft
    let old : Row := ⟨some 1, some "old", none⟩
    let new : Row := ⟨some 2, some "new", none⟩
    let operations : List (Span × CatalogOperation) :=
      [(.zero, .call (.ensureNamespace "my_namespace")),
        (.zero, .call (.create "my_namespace" t)),
        (.zero, .call (.append "my_namespace" t [old])),
        (.zero, .call (.drop "my_namespace" t .soft)),
        (.zero, .call (.create "my_namespace" t)),
        (.zero, .call (.append "my_namespace" t [new]))]
    let c := (empty (.ofSeconds 60)).after operations
    c.Reachable ∧ c.live.get? key = some ⟨.fixture, [new]⟩ ∧
      c.tombstones.get? key = some ⟨⟨.fixture, [old]⟩, .zero⟩ ∧ ¬ c.Apart key ∧
      (c.undrop .zero key).1 = true ∧
      (c.undrop .zero key).2.live.get? key = some ⟨.fixture, [old]⟩ := by
  intro key t old new operations c
  have live : c.live.get? key = some ⟨.fixture, [new]⟩ := by
    subst c operations new old t key
    decide +kernel
  have buried : c.tombstones.get? key = some ⟨⟨.fixture, [old]⟩, .zero⟩ := by
    subst c operations new old t key
    decide +kernel
  have undropped : (c.undrop .zero key).1 = true ∧
      (c.undrop .zero key).2.live.get? key = some ⟨.fixture, [old]⟩ := by
    subst c operations new old t key
    decide +kernel
  refine ⟨⟨operations, ?_, rfl⟩, live, buried, ?_, undropped⟩
  · subst operations
    simp
  · simp [Apart, live, buried]

end Catalog

end CatalogMigration
