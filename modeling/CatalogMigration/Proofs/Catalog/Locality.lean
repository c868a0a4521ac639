import CatalogMigration.Proofs.Catalog.Refusal

namespace CatalogMigration

namespace Assoc

variable {κ ν : Type} [DecidableEq κ] {m m' : Assoc κ ν} {k : κ}

def only (m : Assoc κ ν) (k : κ) : Assoc κ ν :=
  match m.get? k with
  | some v => empty.insert k v
  | none => empty

theorem only_of_found {v : ν} (found : m.get? k = some v) : m.only k = empty.insert k v := by
  rw [only, found]

theorem only_of_missing (missing : m.get? k = none) : m.only k = empty := by
  rw [only, missing]

theorem only_congr (same : m.get? k = m'.get? k) : m.only k = m'.only k := by
  rw [only, only, same]

@[simp] theorem get?_only_self (m : Assoc κ ν) (k : κ) : (m.only k).get? k = m.get? k := by
  cases found : m.get? k with
  | none => rw [only_of_missing found, get?_empty]
  | some v => rw [only_of_found found, get?_insert_self]

@[simp] theorem only_insert_self (m : Assoc κ ν) (k : κ) (v : ν) :
    (m.insert k v).only k = (m.only k).insert k v := by
  rw [only_of_found (get?_insert_self m k v)]
  cases found : m.get? k with
  | none => rw [only_of_missing found]
  | some w => rw [only_of_found found, insert_insert]

@[simp] theorem only_erase_self (m : Assoc κ ν) (k : κ) :
    (m.erase k).only k = (m.only k).erase k := by
  rw [only_of_missing (get?_erase_self m k)]
  cases found : m.get? k with
  | none => rw [only_of_missing found]; rfl
  | some w => rw [only_of_found found]; simp [insert, erase, empty]

@[simp] theorem only_modify_self (m : Assoc κ ν) (k : κ) (f : ν → ν) :
    (m.modify k f).only k = (m.only k).modify k f := by
  unfold modify
  rw [get?_only_self]
  cases m.get? k with
  | none => rfl
  | some v => exact only_insert_self m k (f v)

end Assoc

/-- The operations that concern a table: those about it and those that set what these meet, its
namespace, the reachability of the catalog and the faults of its name. -/
def CatalogOperation.concerns (key : TableKey) : CatalogOperation → Bool
  | .call (.ensureNamespace space) => space = key.space
  | .setUnreachable _ => true
  | .failAppendsTo table | .failDropsOf table => table = key.table
  | o => o.key? = some key

theorem CatalogOperation.concerns_of_about {o : CatalogOperation} {key : TableKey}
    (about : o.key? = some key) : o.concerns key = true := by
  cases o with
  | call request =>
    cases request with
    | ensureNamespace => cases about
    | create | append | scan | drop => exact decide_eq_true about
  | setUnreachable | failAppendsTo | failDropsOf => cases about
  | replaceRows | replaceSchema | undrop => exact decide_eq_true about

namespace Catalog

variable {c : Catalog} {now : Span} {o : CatalogOperation} {key : TableKey}

/-- A catalog as far as it concerns one table. -/
def only (c : Catalog) (key : TableKey) : Catalog :=
  { c with
    spaces := c.spaces.filter (· = key.space)
    live := c.live.only key
    tombstones := c.tombstones.only key
    drops := c.drops.filter (·.key = key)
    failingAppends := c.failingAppends.filter (· = key.table)
    failingDrops := c.failingDrops.filter (· = key.table) }

theorem ensureNamespace_only (c : Catalog) (key : TableKey) :
    (c.only key).ensureNamespace key.space =
      ((c.ensureNamespace key.space).1.only key, (c.ensureNamespace key.space).2) := by
  by_cases known : key.space ∈ c.spaces <;> simp [ensureNamespace, only, known]

theorem create_only (c : Catalog) (space : String) (t : Fixture) :
    (c.only (t.key space)).create space t =
      ((c.create space t).1, (c.create space t).2.1.only (t.key space),
        (c.create space t).2.2) := by
  by_cases known : space ∈ c.spaces <;> simp [create, only, known, Fixture.key]

theorem append_only (c : Catalog) (space : String) (t : Fixture) (rows : List Row) :
    (c.only (t.key space)).append space t rows =
      ((c.append space t rows).1, (c.append space t rows).2.only (t.key space)) := by
  by_cases failing : t.name ∈ c.failingAppends
  · simp [append, only, failing, Fixture.key]
  · cases found : c.live.get? ⟨space, t.name⟩ <;>
      simp [append, only, failing, Fixture.key, found]

theorem scan_only (c : Catalog) (space : String) (t : Fixture) :
    (c.only (t.key space)).scan space t = c.scan space t := by
  simp only [scan, only, Fixture.key, Assoc.get?_only_self]

theorem drop_only (c : Catalog) (now : Span) (space : String) (t : Fixture) (mode : DropMode) :
    (c.only (t.key space)).drop now space t mode =
      ((c.drop now space t mode).1, (c.drop now space t mode).2.only (t.key space)) := by
  by_cases failing : t.name ∈ c.failingDrops
  · simp [drop, only, failing, Fixture.key]
  · cases found : c.live.get? ⟨space, t.name⟩ with
    | none => simp [drop, only, failing, Fixture.key, found]
    | some stored => cases mode <;> simp [drop, only, failing, Fixture.key, found]

theorem undrop_only (c : Catalog) (now : Span) (key : TableKey) :
    (c.only key).undrop now key = ((c.undrop now key).1, (c.undrop now key).2.only key) := by
  have same : (c.only key).tombstones.get? key = c.tombstones.get? key := Assoc.get?_only_self ..
  cases found : c.tombstones.get? key with
  | none => rw [undrop_of_unburied found, undrop_of_unburied (same.trans found)]
  | some t =>
    cases retained : c.isRetained now t with
    | true =>
      rw [undrop_of_retained found retained, undrop_of_retained (same.trans found) retained]
      simp [only]
    | false =>
      rw [undrop_of_expired found retained, undrop_of_expired (same.trans found) retained]
      simp [only]

theorem answer_only {call : SessionCall}
    (concerned : (CatalogOperation.call call).concerns key = true) (now : Span) (c : Catalog) :
    answer call now (c.only key) =
      ((answer call now c).1, (answer call now c).2.1.only key, (answer call now c).2.2) := by
  cases reachable : c.unreachable with
  | true =>
    have reachable' : (c.only key).unreachable = true := reachable
    rw [Refuses.answer (.offline reachable), Refuses.answer (.offline reachable')]
  | false =>
    have reachable' : (c.only key).unreachable = false := reachable
    cases call with
    | ensureNamespace space =>
      obtain rfl : space = key.space := of_decide_eq_true concerned
      rw [answer_ensureNamespace reachable, answer_ensureNamespace reachable',
        ensureNamespace_only]
    | create space t =>
      obtain rfl : t.key space = key := Option.some.inj (of_decide_eq_true concerned)
      simp only [answer, reachable, reachable', Bool.false_eq_true, if_false]
      exact create_only c space t
    | append space t rows =>
      obtain rfl : t.key space = key := Option.some.inj (of_decide_eq_true concerned)
      simp only [answer, reachable, reachable', Bool.false_eq_true, if_false, append_only]
    | scan space t =>
      obtain rfl : t.key space = key := Option.some.inj (of_decide_eq_true concerned)
      rw [answer_scan reachable, answer_scan reachable', scan_only]
    | drop space t mode =>
      obtain rfl : t.key space = key := Option.some.inj (of_decide_eq_true concerned)
      rw [answer_drop reachable, answer_drop reachable', drop_only]

theorem apply_only (concerned : o.concerns key = true) (now : Span) (c : Catalog) :
    o.apply now (c.only key) = ((o.apply now c).1, (o.apply now c).2.only key) := by
  cases o with
  | call request => simp only [CatalogOperation.apply, answer_only concerned]
  | setUnreachable value => rfl
  | failAppendsTo table =>
    obtain rfl : table = key.table := of_decide_eq_true concerned
    simp [CatalogOperation.apply, only]
  | failDropsOf table =>
    obtain rfl : table = key.table := of_decide_eq_true concerned
    simp [CatalogOperation.apply, only]
  | replaceRows k rows =>
    obtain rfl : k = key := Option.some.inj (of_decide_eq_true concerned)
    simp [CatalogOperation.apply, replaceRows, only]
  | replaceSchema k schema =>
    obtain rfl : k = key := Option.some.inj (of_decide_eq_true concerned)
    simp [CatalogOperation.apply, replaceSchema, only]
  | undrop k =>
    obtain rfl : k = key := Option.some.inj (of_decide_eq_true concerned)
    exact undrop_only c now k

theorem key?_of_dropped? {outcome : CatalogOperation.Outcome} {record : DropRecord}
    (dropped : outcome.dropped? = some record) : outcome.operation.key? = some record.key := by
  unfold CatalogOperation.Outcome.dropped? at dropped
  split at dropped
  · cases dropped
    rfl
  · cases dropped

theorem drops_apply_of_elsewhere (other : o.key? ≠ some key) (now : Span) (c : Catalog) :
    (o.apply now c).2.drops.filter (·.key = key) = c.drops.filter (·.key = key) := by
  rw [apply_drops, List.filter_append]
  cases dropped : CatalogOperation.Outcome.dropped? ⟨now, o, (o.apply now c).1⟩ with
  | none => exact List.append_nil _
  | some record =>
    have elsewhere : record.key ≠ key := fun here => other (here ▸ key?_of_dropped? dropped)
    simp [elsewhere]

theorem answer_spaces {call : SessionCall} {k : TableKey} (about : call.key? = some k)
    (now : Span) (c : Catalog) : (answer call now c).2.1.spaces = c.spaces := by
  cases reachable : c.unreachable with
  | true => rw [Refuses.answer (.offline reachable)]
  | false =>
    simp only [answer, reachable, Bool.false_eq_true, if_false]
    cases call with
    | ensureNamespace => cases about
    | create space t => exact (congrArg spaces (create_rest c space t)).trans rfl
    | append space t rows => exact (congrArg spaces (append_rest c space t rows)).trans rfl
    | scan => rfl
    | drop space t mode => exact (congrArg spaces (drop_rest c now space t mode)).trans rfl

theorem spaces_answer_of_unconcerned {call : SessionCall}
    (other : (CatalogOperation.call call).concerns key = false) (now : Span) (c : Catalog) :
    (answer call now c).2.1.spaces.filter (· = key.space) =
      c.spaces.filter (· = key.space) := by
  cases call with
  | ensureNamespace space =>
    have elsewhere : space ≠ key.space := of_decide_eq_false other
    cases reachable : c.unreachable with
    | true => rw [Refuses.answer (.offline reachable)]
    | false =>
      rw [answer_ensureNamespace reachable]
      by_cases known : space ∈ c.spaces <;> simp [ensureNamespace, known, elsewhere]
  | create | append | scan | drop => rw [answer_spaces rfl]

theorem only_eq_of_tables {d : Catalog} (live : d.live.get? key = c.live.get? key)
    (tombstones : d.tombstones.get? key = c.tombstones.get? key)
    (rest : d = { c with live := d.live, tombstones := d.tombstones }) :
    d.only key = c.only key := by
  rw [rest]
  simp only [only, Assoc.only_congr live, Assoc.only_congr tombstones]

theorem only_apply_of_unconcerned (other : o.concerns key = false) (now : Span) (c : Catalog) :
    (o.apply now c).2.only key = c.only key := by
  have elsewhere : o.key? ≠ some key := fun about => by
    rw [CatalogOperation.concerns_of_about about] at other
    cases other
  obtain ⟨live, tombstones⟩ := (apply_transition now c o).elsewhere elsewhere
  cases o with
  | call request =>
    have continues := answer_continues request now c
    have spaces := spaces_answer_of_unconcerned other now c
    have drops := drops_apply_of_elsewhere elsewhere now c
    simp only [CatalogOperation.apply] at live tombstones drops ⊢
    simp only [only, continues.retention, continues.unreachable, continues.failingAppends,
      continues.failingDrops, spaces, drops, Assoc.only_congr live, Assoc.only_congr tombstones]
  | setUnreachable => cases other
  | failAppendsTo table =>
    have elsewhere : table ≠ key.table := of_decide_eq_false other
    simp [CatalogOperation.apply, only, elsewhere]
  | failDropsOf table =>
    have elsewhere : table ≠ key.table := of_decide_eq_false other
    simp [CatalogOperation.apply, only, elsewhere]
  | replaceRows | replaceSchema => exact only_eq_of_tables live tombstones rfl
  | undrop k => exact only_eq_of_tables live tombstones (undrop_rest c now k)

variable {first second : List (Span × CatalogOperation)}

theorem after_only (operations : List (Span × CatalogOperation)) (c : Catalog) (key : TableKey) :
    (c.after operations).only key =
      (c.only key).after (operations.filter (·.2.concerns key)) := by
  induction operations generalizing c with
  | nil => rfl
  | cons o os ih =>
    show ((o.2.apply o.1 c).2.after os).only key = _
    rw [ih]
    cases concerned : o.2.concerns key with
    | true =>
      simp only [List.filter_cons, concerned, if_true]
      show _ = (o.2.apply o.1 (c.only key)).2.after _
      rw [apply_only concerned]
    | false =>
      simp only [List.filter_cons, concerned, Bool.false_eq_true, if_false]
      rw [only_apply_of_unconcerned concerned]

theorem outcomes_only (operations : List (Span × CatalogOperation)) (c : Catalog)
    (key : TableKey) :
    (c.outcomes operations).filter (·.operation.concerns key) =
      (c.only key).outcomes (operations.filter (·.2.concerns key)) := by
  induction operations generalizing c with
  | nil => rfl
  | cons o os ih =>
    cases concerned : o.2.concerns key with
    | true =>
      simp only [outcomes, List.filter_cons, concerned, if_true]
      rw [ih, apply_only concerned]
    | false =>
      simp only [outcomes, List.filter_cons, concerned, Bool.false_eq_true, if_false]
      rw [ih, only_apply_of_unconcerned concerned]

/-- Two histories from an empty catalog that agree in the operations that concern a table answer
those about it alike and leave the same of it: the live table, its tombstone and its drops on
record. Operations on other tables or namespaces have no influence. -/
theorem tables_independent (retention : Span) (key : TableKey)
    (same : first.filter (·.2.concerns key) = second.filter (·.2.concerns key)) :
    let start := empty retention
    (start.outcomes first).filter (·.operation.key? = some key) =
      (start.outcomes second).filter (·.operation.key? = some key) ∧
    (start.after first).live.get? key = (start.after second).live.get? key ∧
    (start.after first).tombstones.get? key = (start.after second).tombstones.get? key ∧
    (start.after first).drops.filter (·.key = key) =
      (start.after second).drops.filter (·.key = key) := by
  intro start
  have left : (start.after first).only key = (start.after second).only key := by
    rw [after_only, after_only, same]
  have answered : (start.outcomes first).filter (·.operation.concerns key) =
      (start.outcomes second).filter (·.operation.concerns key) := by
    rw [outcomes_only, outcomes_only, same]
  have about (outcomes : List CatalogOperation.Outcome) :
      outcomes.filter (·.operation.key? = some key) =
        (outcomes.filter (·.operation.concerns key)).filter (·.operation.key? = some key) := by
    rw [List.filter_filter]
    refine List.filter_congr fun outcome _ => ?_
    by_cases here : outcome.operation.key? = some key
    · simp [here, CatalogOperation.concerns_of_about here]
    · simp [here]
  refine ⟨?_, ?_, ?_, congrArg drops left⟩
  · rw [about, about (start.outcomes second), answered]
  · simpa [only] using congrArg (·.live.get? key) left
  · simpa [only] using congrArg (·.tombstones.get? key) left

/-- A table that comes back and is kept by a fault of its name, beside a table of the same name in
another namespace that is purged and a fault of another name, and without these. -/
theorem namesake_unnoticed :
    let key : TableKey := ⟨"my_namespace", "my_table_2"⟩
    let t : Fixture := .dropped "my_table_2" .soft
    let own : List (Span × CatalogOperation) :=
      [(.zero, .call (.ensureNamespace "my_namespace")),
        (.zero, .call (.create "my_namespace" t)),
        (.ofSeconds 1, .call (.drop "my_namespace" t .soft)),
        (.ofSeconds 2, .undrop key),
        (.ofSeconds 3, .failDropsOf "my_table_2"),
        (.ofSeconds 4, .call (.drop "my_namespace" t .purge))]
    let others : List (Span × CatalogOperation) :=
      [(.zero, .call (.ensureNamespace "elsewhere")),
        (.zero, .call (.create "elsewhere" t)),
        (.ofSeconds 1, .call (.drop "elsewhere" t .purge)),
        (.ofSeconds 1, .failAppendsTo "my_table_0")]
    let start := empty (.ofSeconds 60)
    (others ++ own).filter (·.2.concerns key) = own.filter (·.2.concerns key) ∧
      (start.outcomes (others ++ own)).filter (·.operation.key? = some key) =
        (start.outcomes own).filter (·.operation.key? = some key) ∧
      (start.after own).live.get? key = some ⟨.fixture, []⟩ ∧
      (start.after (others ++ own)).live.get? key = some ⟨.fixture, []⟩ ∧
      (start.after (others ++ own)).tombstones.get? key =
        (start.after own).tombstones.get? key ∧
      (start.after (others ++ own)).drops.filter (·.key = key) =
        (start.after own).drops.filter (·.key = key) := by
  intro key t own others start
  have same : (others ++ own).filter (·.2.concerns key) = own.filter (·.2.concerns key) := by
    subst start others own t key
    decide +kernel
  have kept : (start.after own).live.get? key = some ⟨.fixture, []⟩ := by
    subst start others own t key
    decide +kernel
  obtain ⟨answered, live, buried, recorded⟩ := tables_independent (.ofSeconds 60) key same
  exact ⟨same, answered, kept, live.trans kept, buried, recorded⟩

end Catalog

end CatalogMigration
