import CatalogMigration.Catalog.Operation

namespace CatalogMigration

def Fixture.key (space : String) (t : Fixture) : TableKey := ⟨space, t.name⟩

namespace Catalog

variable {c d : Catalog} {space : String} {t : Fixture} {now : Span}

section Answer

variable (reachable : c.unreachable = false)

include reachable

theorem answer_ensureNamespace : answer (.ensureNamespace space) now c =
    (.ok (), (c.ensureNamespace space).1, (c.ensureNamespace space).2) := by
  simp [answer, reachable]

theorem answer_create (known : space ∈ c.spaces) : answer (.create space t) now c =
    (.ok (), { c with live := c.live.insert (t.key space) ⟨t.schema, []⟩ },
      [createdTable (t.key space) (c.live.get? (t.key space)).isSome]) := by
  simp [answer, reachable, create, known, Fixture.key]

theorem answer_append {rows : List Row} {stored : StoredTable}
    (accepted : t.name ∉ c.failingAppends)
    (found : c.live.get? (t.key space) = some stored) :
    answer (.append space t rows) now c =
      (.ok (), { c with
        live := c.live.insert (t.key space) { stored with rows := stored.rows ++ rows } }, []) := by
  rw [Fixture.key] at found
  simp [answer, reachable, append, accepted, found, Fixture.key]

theorem answer_append_of_lost {rows : List Row} (accepted : t.name ∉ c.failingAppends)
    (lost : c.live.get? (t.key space) = none) :
    answer (.append space t rows) now c = (.error (.notFound (t.key space).display), c, []) := by
  rw [Fixture.key] at lost
  simp [answer, reachable, append, accepted, lost, Fixture.key]

theorem answer_scan : answer (.scan space t) now c = (c.scan space t, c, []) := by
  simp [answer, reachable]

theorem answer_drop {mode : DropMode} : answer (.drop space t mode) now c =
    ((c.drop now space t mode).1, (c.drop now space t mode).2, []) := by
  simp [answer, reachable]

theorem answer_drop_of_found {mode : DropMode} {stored : StoredTable}
    (accepted : t.name ∉ c.failingDrops) (found : c.live.get? (t.key space) = some stored) :
    (answer (.drop space t mode) now c).1 = .ok () ∧
      (answer (.drop space t mode) now c).2.1.live = c.live.erase (t.key space) := by
  rw [Fixture.key] at found
  simp [answer, reachable, drop, accepted, found, Fixture.key]

theorem answer_drop_of_lost {mode : DropMode} (accepted : t.name ∉ c.failingDrops)
    (lost : c.live.get? (t.key space) = none) :
    answer (.drop space t mode) now c = (.error (.notFound (t.key space).display), c, []) := by
  rw [Fixture.key] at lost
  simp [answer, reachable, drop, accepted, lost, Fixture.key]

end Answer

theorem scan_of_found {stored : StoredTable} (found : c.live.get? (t.key space) = some stored) :
    c.scan space t = .ok ⟨stored.schema, stored.rows⟩ := by
  rw [Fixture.key] at found
  simp [scan, found]

theorem scan_of_lost (lost : c.live.get? (t.key space) = none) :
    c.scan space t = .error (.notFound (t.key space).display) := by
  rw [Fixture.key] at lost
  simp [scan, lost, Fixture.key]

theorem ensureNamespace_fst (c : Catalog) (space : String) :
    ∃ spaces, space ∈ spaces ∧ (c.ensureNamespace space).1 = { c with spaces } := by
  unfold ensureNamespace
  split
  · exact ⟨c.spaces, ‹_›, rfl⟩
  · exact ⟨space :: c.spaces, List.mem_cons_self .., rfl⟩

/-- What calls leave as it is: a catalog keeps its settings and forgets no namespace. -/
structure Continues (before after : Catalog) : Prop where
  retention : after.retention = before.retention
  unreachable : after.unreachable = before.unreachable
  failingAppends : after.failingAppends = before.failingAppends
  failingDrops : after.failingDrops = before.failingDrops
  spaces : before.spaces ⊆ after.spaces

theorem Continues.refl (c : Catalog) : Continues c c := ⟨rfl, rfl, rfl, rfl, List.Subset.refl _⟩

theorem Continues.trans {e : Catalog} (first : Continues c d) (second : Continues d e) :
    Continues c e where
  retention := second.retention.trans first.retention
  unreachable := second.unreachable.trans first.unreachable
  failingAppends := second.failingAppends.trans first.failingAppends
  failingDrops := second.failingDrops.trans first.failingDrops
  spaces := List.Subset.trans first.spaces second.spaces

theorem ensureNamespace_continues (c : Catalog) (space : String) :
    Continues c (c.ensureNamespace space).1 := by
  unfold ensureNamespace
  split
  · exact .refl c
  · exact ⟨rfl, rfl, rfl, rfl, List.subset_cons_self ..⟩

theorem create_continues (c : Catalog) (space : String) (t : Fixture) :
    Continues c (c.create space t).2.1 := by
  unfold create
  split
  · exact ⟨rfl, rfl, rfl, rfl, List.Subset.refl _⟩
  · exact .refl c

theorem append_continues (c : Catalog) (space : String) (t : Fixture) (rows : List Row) :
    Continues c (c.append space t rows).2 := by
  unfold append
  split
  · exact .refl c
  · cases found : c.live.get? ⟨space, t.name⟩ with
    | none =>
      simp only [found]
      exact .refl c
    | some stored =>
      simp only [found]
      exact ⟨rfl, rfl, rfl, rfl, List.Subset.refl _⟩

theorem drop_continues (c : Catalog) (now : Span) (space : String) (t : Fixture) (mode : DropMode) :
    Continues c (c.drop now space t mode).2 := by
  unfold drop
  split
  · exact .refl c
  · cases found : c.live.get? ⟨space, t.name⟩ with
    | none =>
      simp only [found]
      exact .refl c
    | some stored =>
      simp only [found]
      exact ⟨rfl, rfl, rfl, rfl, List.Subset.refl _⟩

theorem answer_continues (call : SessionCall) (now : Span) (c : Catalog) :
    Continues c (answer call now c).2.1 := by
  unfold answer
  split
  · exact .refl c
  · cases call with
    | ensureNamespace space => exact ensureNamespace_continues c space
    | create space t => exact create_continues c space t
    | append space t rows => exact append_continues c space t rows
    | scan space t => exact .refl c
    | drop space t mode => exact drop_continues c now space t mode

theorem answer_unreachable (call : SessionCall) (now : Span) (c : Catalog) :
    (answer call now c).2.1.unreachable = c.unreachable :=
  (answer_continues call now c).unreachable

theorem after_unreachable (operations : List (Span × CatalogOperation))
    (online : ∀ o ∈ operations, o.2 ≠ .setUnreachable true) (reachable : c.unreachable = false) :
    (c.after operations).unreachable = false := by
  induction operations generalizing c with
  | nil => exact reachable
  | cons o os ih =>
    refine ih (fun p member => online p (by simp [member])) ?_
    have kept := online o (by simp)
    obtain ⟨now, o⟩ := o
    cases o with
    | call request => exact (answer_unreachable request now c).trans reachable
    | setUnreachable value =>
      cases value with
      | false => rfl
      | true => exact absurd rfl kept
    | failAppendsTo | failDropsOf | replaceRows | replaceSchema => exact reachable
    | undrop key =>
      show (c.undrop now key).2.unreachable = false
      unfold undrop
      split
      · exact reachable
      · simp only
        split <;> exact reachable

end Catalog

end CatalogMigration
