import CatalogMigration.Proofs.Catalog.Refusal

namespace CatalogMigration

def CatalogOperation.Outcome.creates (key : TableKey) : CatalogOperation.Outcome → Bool
  | ⟨_, .call (.create space t), .ok ()⟩ => t.key space = key
  | _ => false

namespace Catalog

variable {c : Catalog} {space : String} {t : Fixture} {mode : DropMode} {stored : StoredTable}
  {now later : Span} {o : CatalogOperation} {key : TableKey}
  {operations : List (Span × CatalogOperation)}

/-- Scans of a table are answered alike, unless the catalog is offline. -/
def Shows (c : Catalog) (key : TableKey) (shown : Except SessionError TableScan) : Prop :=
  ∀ (t : Fixture) (now : Span), t.name = key.table →
    (answer (.scan key.space t) now c).1 = if c.unreachable then .error offline else shown

theorem shows_of_scan {shown : Except SessionError TableScan}
    (scanned : ∀ t : Fixture, t.name = key.table → c.scan key.space t = shown) :
    c.Shows key shown := by
  intro t now named
  cases reachable : c.unreachable with
  | true => rw [Refuses.answer (.offline reachable), if_pos rfl]
  | false =>
    rw [answer_scan reachable, if_neg Bool.false_ne_true]
    exact scanned t named

theorem shows_of_live (found : c.live.get? key = some stored) :
    c.Shows key (.ok ⟨stored.schema, stored.rows⟩) :=
  shows_of_scan fun t named => scan_of_found (t := t) (by rwa [Fixture.key, named])

theorem shows_of_lost (lost : c.live.get? key = none) :
    c.Shows key (.error (.notFound key.display)) := by
  refine shows_of_scan fun t named => ?_
  have here : t.key key.space = key := by rw [Fixture.key, named]
  rw [scan_of_lost (here ▸ lost), here]

theorem not_refused_of_ok {call : SessionCall} {r : call.Result}
    (granted : (answer call now c).1 = .ok r) (e : SessionError) : ¬ c.Refuses call e := by
  intro refuses
  rw [refuses.answer] at granted
  cases granted

theorem drop_of_granted (found : c.live.get? (t.key space) = some stored)
    (granted : (answer (.drop space t mode) now c).1 = .ok ()) :
    (answer (.drop space t mode) now c).2.1.live.get? (t.key space) = none ∧
      (answer (.drop space t mode) now c).2.1.tombstones.get? (t.key space) =
        match mode with
        | .soft => some ⟨stored, now⟩
        | .purge => none := by
  have refused := not_refused_of_ok granted
  have reachable : c.unreachable = false :=
    Bool.eq_false_iff.mpr fun unreachable => refused _ (.offline unreachable)
  have accepted : t.name ∉ c.failingDrops := fun failing =>
    refused _ (.failingDrop reachable failing)
  rw [Fixture.key] at found
  rw [answer_drop reachable, drop, if_neg accepted, found]
  cases mode <;> simp [Fixture.key]

theorem apply_elsewhere (other : o.key? ≠ some key) (now : Span) (c : Catalog) :
    (o.apply now c).2.live.get? key = c.live.get? key ∧
      (o.apply now c).2.tombstones.get? key = c.tombstones.get? key :=
  (apply_transition now c o).elsewhere other

theorem tombstone_after (others : ∀ o ∈ operations, o.2.key? ≠ some key) :
    (c.after operations).tombstones.get? key = c.tombstones.get? key :=
  @after_invariant c (fun d => d.tombstones.get? key = c.tombstones.get? key) operations
    (fun o member d same => (apply_elsewhere (others o member) o.1 d).2.trans same) rfl

theorem after_retention (operations : List (Span × CatalogOperation)) :
    (c.after operations).retention = c.retention :=
  @after_invariant c (fun d => d.retention = c.retention) operations
    (fun o _ d same => (apply_retention o.1 d o.2).trans same) rfl

theorem undrop_of_buried (buried : c.tombstones.get? key = some ⟨stored, now⟩) (later : Span) :
    ((c.undrop later key).1 = true ↔ later.nanos - now.nanos < c.retention.nanos) ∧
      ((c.undrop later key).1 = true →
        (c.undrop later key).2.Shows key (.ok ⟨stored.schema, stored.rows⟩)) := by
  cases retained : c.isRetained later ⟨stored, now⟩ with
  | true =>
    rw [undrop_of_retained buried retained]
    exact ⟨⟨fun _ => of_decide_eq_true retained, fun _ => rfl⟩,
      fun _ => shows_of_live (Assoc.get?_insert_self ..)⟩
  | false =>
    rw [undrop_of_expired buried retained]
    exact ⟨⟨nofun, fun within => absurd within (of_decide_eq_false retained)⟩, nofun⟩

/-- Neither live nor softly dropped. -/
structure Gone (key : TableKey) (c : Catalog) : Prop where
  live : c.live.get? key = none
  tombstones : c.tombstones.get? key = none

theorem Gone.apply (gone : c.Gone key)
    (uncreated : CatalogOperation.Outcome.creates key ⟨now, o, (o.apply now c).1⟩ = false) :
    (o.apply now c).2.Gone key := by
  by_cases about : o.key? = some key
  · have changed := apply_transition now c o
    revert uncreated
    generalize after : (o.apply now c).2 = d at changed
    intro uncreated
    cases changed with
    | kept live tombstones => exact ⟨live ▸ gone.live, tombstones ▸ gone.tombstones⟩
    | @created space t reachable known live tombstones =>
      have here : t.key space = key := Option.some.inj about
      simp [CatalogOperation.apply, answer_create reachable known,
        CatalogOperation.Outcome.creates, here] at uncreated
    | rewritten about' found =>
      have here := Option.some.inj (about'.symm.trans about)
      rw [here, gone.live] at found
      cases found
    | buried found | purged found =>
      have here := Option.some.inj about
      rw [here, gone.live] at found
      cases found
    | forgotten live tombstones =>
      refine ⟨live ▸ gone.live, ?_⟩
      rw [tombstones, Assoc.get?_erase, gone.tombstones, ite_self]
    | restored found =>
      have here := Option.some.inj about
      rw [here, gone.tombstones] at found
      cases found
  · obtain ⟨live, tombstones⟩ := apply_elsewhere about now c
    exact ⟨live.trans gone.live, tombstones.trans gone.tombstones⟩

theorem Gone.after (gone : c.Gone key)
    (uncreated : ∀ outcome ∈ c.outcomes operations, outcome.creates key = false) :
    (c.after operations).Gone key := by
  induction operations generalizing c with
  | nil => exact gone
  | cons o os ih =>
    have first := uncreated _ (List.mem_cons_self ..)
    exact ih (gone.apply first) fun outcome member => uncreated _ (List.mem_cons_of_mem _ member)

theorem Gone.undrop (gone : c.Gone key) (now : Span) : (c.undrop now key).1 = false := by
  rw [undrop_of_unburied gone.tombstones]

theorem Keyed.after (keyed : c.Keyed) (operations : List (Span × CatalogOperation)) :
    (c.after operations).Keyed :=
  after_invariant (fun o _ d => (apply_transition o.1 d o.2).keyed) keyed

theorem Gone.unlisted (gone : c.Gone key) (keyed : c.Keyed) :
    key.table ∉ c.liveTables key.space ∧ ∀ now, key.table ∉ c.tombstonedTables now key.space := by
  rw [liveTables_eq_listed, keyed.live.mem_listed]
  refine ⟨fun ⟨stored, found, _⟩ => ?_, fun now listed => ?_⟩
  · rw [gone.live] at found
    cases found
  · obtain ⟨t, found, -⟩ := keyed.mem_tombstonedTables.mp listed
    rw [gone.tombstones] at found
    cases found

/-- A live table whose soft drop is granted can be brought back just while less than the retention
has passed, whatever was done to other tables, and then is scanned as it was. One whose purge is
granted is neither live nor softly dropped, in no listing, not brought back and not found by a scan,
whatever is done but for a creation of its name that is granted. While a catalog is offline it
answers the scans of both as it answers every call. -/
theorem dropped_table_recoverable_or_gone (reachable : c.Reachable)
    (found : c.live.get? (t.key space) = some stored) (now : Span)
    (operations : List (Span × CatalogOperation)) :
    let key := t.key space
    let dropped (mode : DropMode) := answer (.drop space t mode) now c
    let later (mode : DropMode) := (dropped mode).2.1.after operations
    ((dropped .soft).1 = .ok () → (∀ o ∈ operations, o.2.key? ≠ some key) →
      ∀ moment,
        (((later .soft).undrop moment key).1 = true ↔
          moment.nanos - now.nanos < c.retention.nanos) ∧
        (((later .soft).undrop moment key).1 = true →
          ((later .soft).undrop moment key).2.Shows key (.ok ⟨stored.schema, stored.rows⟩))) ∧
    ((dropped .purge).1 = .ok () →
      (∀ outcome ∈ (dropped .purge).2.1.outcomes operations, outcome.creates key = false) →
        (later .purge).Gone key ∧ key.table ∉ (later .purge).liveTables key.space ∧
        (∀ moment, key.table ∉ (later .purge).tombstonedTables moment key.space) ∧
        (∀ moment, ((later .purge).undrop moment key).1 = false) ∧
        (later .purge).Shows key (.error (.notFound key.display))) := by
  intro key dropped later
  constructor
  · intro granted others moment
    have buried : (later .soft).tombstones.get? key = some ⟨stored, now⟩ :=
      (tombstone_after others).trans (drop_of_granted found granted).2
    have retention : (later .soft).retention = c.retention :=
      (after_retention operations).trans (answer_continues _ now c).retention
    rw [← retention]
    exact undrop_of_buried buried moment
  · intro granted uncreated
    have gone : (later .purge).Gone key :=
      Gone.after ⟨(drop_of_granted found granted).1, (drop_of_granted found granted).2⟩ uncreated
    have keyed : (later .purge).Keyed :=
      ((answer_transition _ now c).keyed reachable.keyed).after operations
    obtain ⟨dead, unburied⟩ := gone.unlisted keyed
    exact ⟨gone, dead, unburied, gone.undrop, shows_of_lost gone.live⟩

/-- A table that an older tombstone of its name stands beside: dropped softly it comes back as it
was last, purged it is gone together with the older one. -/
theorem recreated_table_dropped :
    let key : TableKey := ⟨"my_namespace", "my_table_2"⟩
    let t : Fixture := .dropped "my_table_2" .soft
    let new : Row := ⟨some 2, some "new", none⟩
    let c := (empty (.ofSeconds 60)).after
      [(.zero, .call (.ensureNamespace "my_namespace")),
        (.zero, .call (.create "my_namespace" t)),
        (.ofSeconds 1, .call (.drop "my_namespace" t .soft)),
        (.ofSeconds 2, .call (.create "my_namespace" t)),
        (.ofSeconds 2, .call (.append "my_namespace" t [new]))]
    let operations : List (Span × CatalogOperation) :=
      [(.ofSeconds 4, .call (.create "elsewhere" t)), (.ofSeconds 5, .failDropsOf "my_table_2")]
    let dropped (mode : DropMode) := answer (.drop "my_namespace" t mode) (.ofSeconds 3) c
    let later (mode : DropMode) := (dropped mode).2.1.after operations
    c.Reachable ∧ c.live.get? key = some ⟨.fixture, [new]⟩ ∧
      (dropped .soft).1 = .ok () ∧ (dropped .purge).1 = .ok () ∧
      ((later .soft).undrop (.ofSeconds 62) key).1 = true ∧
      ((later .soft).undrop (.ofSeconds 62) key).2.Shows key (.ok ⟨.fixture, [new]⟩) ∧
      ¬ ((later .soft).undrop (.ofSeconds 63) key).1 = true ∧
      (later .purge).Gone key ∧ ((later .purge).undrop (.ofSeconds 4) key).1 = false := by
  intro key t new c operations dropped later
  have reachable : c.Reachable := by
    refine ⟨_, ?_, rfl⟩
    decide
  have live : c.live.get? key = some ⟨.fixture, [new]⟩ := by
    subst later dropped operations c new t key
    decide +kernel
  have granted : (dropped .soft).1 = .ok () ∧ (dropped .purge).1 = .ok () := by
    subst later dropped operations c new t key
    decide +kernel
  have others : ∀ o ∈ operations, o.2.key? ≠ some key := by
    subst later dropped operations c new t key
    decide
  have uncreated : ∀ outcome ∈ (dropped .purge).2.1.outcomes operations,
      outcome.creates key = false := by
    subst later dropped operations c new t key
    decide +kernel
  have found : c.live.get? (t.key "my_namespace") = some ⟨.fixture, [new]⟩ := live
  obtain ⟨soft, purge⟩ :=
    dropped_table_recoverable_or_gone reachable found (.ofSeconds 3) operations
  have within := (soft granted.1 others (.ofSeconds 62)).1.mpr (by decide)
  have expired := mt (soft granted.1 others (.ofSeconds 63)).1.mp (by decide)
  obtain ⟨gone, -, -, refused, -⟩ := purge granted.2 uncreated
  exact ⟨reachable, live, granted.1, granted.2, within,
    (soft granted.1 others (.ofSeconds 62)).2 within, expired, gone, refused _⟩

/-- A catalog that goes offline after a drop answers no scan: not with the table that was brought
back, nor that a purged one is not found. -/
theorem outage_hides_dropped_table :
    let key : TableKey := ⟨"my_namespace", "my_table_2"⟩
    let t : Fixture := .dropped "my_table_2" .soft
    let c := (empty (.ofSeconds 60)).after
      [(.zero, .call (.ensureNamespace "my_namespace")),
        (.zero, .call (.create "my_namespace" t)),
        (.zero, .call (.append "my_namespace" t fixtureRows))]
    let operations : List (Span × CatalogOperation) := [(.zero, .setUnreachable true)]
    let dropped (mode : DropMode) := answer (.drop "my_namespace" t mode) .zero c
    let later (mode : DropMode) := (dropped mode).2.1.after operations
    let restored := (later .soft).undrop .zero key
    c.Reachable ∧ c.live.get? key = some ⟨.fixture, fixtureRows⟩ ∧
      (∀ o ∈ operations, o.2.key? ≠ some key) ∧
      (dropped .soft).1 = .ok () ∧ restored.1 = true ∧
      (answer (.scan "my_namespace" t) .zero restored.2).1 ≠ .ok ⟨.fixture, fixtureRows⟩ ∧
      (answer (.scan "my_namespace" t) .zero restored.2).1 = .error offline ∧
      (dropped .purge).1 = .ok () ∧
      (∀ outcome ∈ (dropped .purge).2.1.outcomes operations, outcome.creates key = false) ∧
      (answer (.scan "my_namespace" t) .zero (later .purge)).1 ≠
        .error (.notFound key.display) := by
  intro key t c operations dropped later restored
  refine ⟨⟨_, by simp, rfl⟩, ?_⟩
  subst restored later dropped operations c t key
  decide +kernel

end Catalog

end CatalogMigration
