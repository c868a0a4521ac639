import CatalogMigration.Proofs.Catalog.Transition

namespace CatalogMigration

def SessionCall.Within (tables : TableKey → Prop) (call : SessionCall) : Prop :=
  ∀ key, call.key? = some key → tables key

namespace Catalog

variable {a b c d : Catalog} {now later : Span} {tables others : TableKey → Prop}
  {call : SessionCall} {key : TableKey}

def held (c : Catalog) (key : TableKey) : Option StoredTable × Option StoredTable :=
  (c.live.get? key, (c.tombstones.get? key).map (·.table))

/-- What calls about some tables do: they touch no others and keep what all calls keep. -/
structure ChangesOnly (tables : TableKey → Prop) (before after : Catalog) : Prop where
  continues : Continues before after
  held : ∀ key, ¬ tables key → after.held key = before.held key

namespace ChangesOnly

theorem refl (tables : TableKey → Prop) (c : Catalog) : ChangesOnly tables c c :=
  ⟨.refl c, fun _ _ => rfl⟩

theorem trans {e : Catalog} (first : ChangesOnly tables c d) (second : ChangesOnly tables d e) :
    ChangesOnly tables c e :=
  ⟨first.continues.trans second.continues,
    fun key other => (second.held key other).trans (first.held key other)⟩

theorem mono (changes : ChangesOnly tables c d) (among : ∀ key, tables key → others key) :
    ChangesOnly others c d :=
  ⟨changes.continues, fun key other => changes.held key (mt (among key) other)⟩

end ChangesOnly

theorem answer_changesOnly (within : call.Within tables) (now : Span) (c : Catalog) :
    ChangesOnly tables c (answer call now c).2.1 := by
  refine ⟨answer_continues call now c, fun key other => ?_⟩
  have apart : (CatalogOperation.call call).key? ≠ some key := fun about => other (within key about)
  obtain ⟨live, tombstones⟩ := (answer_transition call now c).elsewhere apart
  rw [held, held, live, tombstones]

/-- Two catalogs that hold the same of some tables and fail alike. -/
structure Agree (tables : TableKey → Prop) (c d : Catalog) : Prop where
  unreachable : d.unreachable = c.unreachable
  failingAppends : d.failingAppends = c.failingAppends
  failingDrops : d.failingDrops = c.failingDrops
  held : ∀ key, tables key → d.held key = c.held key

namespace Agree

theorem refl (tables : TableKey → Prop) (c : Catalog) : Agree tables c c :=
  ⟨rfl, rfl, rfl, fun _ _ => rfl⟩

theorem live (agree : Agree tables c d) (own : tables key) :
    d.live.get? key = c.live.get? key :=
  congrArg Prod.fst (agree.held key own)

theorem softlyDropped (agree : Agree tables c d) (own : tables key) :
    (d.tombstones.get? key).map (·.table) = (c.tombstones.get? key).map (·.table) :=
  congrArg Prod.snd (agree.held key own)

theorem insert (agree : Agree tables c d) (key : TableKey) (stored : StoredTable) :
    Agree tables { c with live := c.live.insert key stored }
      { d with live := d.live.insert key stored } where
  unreachable := agree.unreachable
  failingAppends := agree.failingAppends
  failingDrops := agree.failingDrops
  held other own := by
    simp only [Catalog.held, Assoc.get?_insert, agree.live own, agree.softlyDropped own]

theorem erase (agree : Agree tables c d) (key : TableKey) (stored : StoredTable) (mode : DropMode)
    (now later : Span) (drops drops' : List DropRecord) :
    Agree tables
      { c with
        live := c.live.erase key
        tombstones := match mode with
          | .soft => c.tombstones.insert key ⟨stored, now⟩
          | .purge => c.tombstones.erase key
        drops }
      { d with
        live := d.live.erase key
        tombstones := match mode with
          | .soft => d.tombstones.insert key ⟨stored, later⟩
          | .purge => d.tombstones.erase key
        drops := drops' } where
  unreachable := agree.unreachable
  failingAppends := agree.failingAppends
  failingDrops := agree.failingDrops
  held other own := by
    have buried := agree.softlyDropped own
    cases mode with
    | soft =>
      simp only [Catalog.held, Assoc.get?_erase, Assoc.get?_insert, agree.live own]
      split
      · rfl
      · rw [buried]
    | purge =>
      simp only [Catalog.held, Assoc.get?_erase, agree.live own]
      split
      · rfl
      · rw [buried]

theorem spaces (agree : Agree tables c d) (known known' : List String) :
    Agree tables { c with spaces := known } { d with spaces := known' } :=
  ⟨agree.unreachable, agree.failingAppends, agree.failingDrops, agree.held⟩

theorem elsewhere {e : Catalog} (agree : Agree tables c d) (changes : ChangesOnly others d e)
    (apart : ∀ key, tables key → ¬ others key) : Agree tables c e := by
  obtain ⟨continues, held⟩ := changes
  exact ⟨continues.unreachable.trans agree.unreachable,
    continues.failingAppends.trans agree.failingAppends,
    continues.failingDrops.trans agree.failingDrops,
    fun key own => (held key (apart key own)).trans (agree.held key own)⟩

end Agree

/-- A catalog that is offline or knows the namespaces of some tables. -/
def Usable (tables : TableKey → Prop) (c : Catalog) : Prop :=
  c.unreachable = true ∨ ∀ key, tables key → key.space ∈ c.spaces

theorem Usable.continues (usable : Usable tables c) (continues : Continues c d) :
    Usable tables d :=
  usable.imp (continues.unreachable.trans ·) fun known key own => continues.spaces (known key own)

theorem Agree.append (agree : Agree tables c d) {space : String} {t : Fixture}
    (own : tables (t.key space)) (rows : List Row) :
    (c.append space t rows).1 = (d.append space t rows).1 ∧
      Agree tables (c.append space t rows).2 (d.append space t rows).2 := by
  have live := agree.live own
  have refused : (t.name ∈ d.failingAppends) = (t.name ∈ c.failingAppends) := by
    rw [agree.failingAppends]
  rw [Fixture.key] at live
  simp only [Catalog.append, live, refused]
  split
  · exact ⟨rfl, agree⟩
  · cases c.live.get? ⟨space, t.name⟩ with
    | none => exact ⟨rfl, agree⟩
    | some stored => exact ⟨rfl, agree.insert _ _⟩

theorem Agree.drop (agree : Agree tables c d) {space : String} {t : Fixture}
    (own : tables (t.key space)) (mode : DropMode) (now later : Span) :
    (c.drop now space t mode).1 = (d.drop later space t mode).1 ∧
      Agree tables (c.drop now space t mode).2 (d.drop later space t mode).2 := by
  have live := agree.live own
  have refused : (t.name ∈ d.failingDrops) = (t.name ∈ c.failingDrops) := by
    rw [agree.failingDrops]
  rw [Fixture.key] at live
  simp only [Catalog.drop, live, refused]
  split
  · exact ⟨rfl, agree⟩
  · cases c.live.get? ⟨space, t.name⟩ with
    | none => exact ⟨rfl, agree⟩
    | some stored => exact ⟨rfl, agree.erase _ stored mode now later _ _⟩

theorem Agree.answer_offline (agree : Agree tables c d) (offline : c.unreachable = true)
    (call : SessionCall) (now later : Span) :
    (answer call now c).1 = (answer call later d).1 ∧
      Agree tables (answer call now c).2.1 (answer call later d).2.1 := by
  have offline' := agree.unreachable.trans offline
  simp only [Catalog.answer, offline, offline', if_true]
  exact ⟨trivial, agree⟩

theorem Agree.answer_ensureNamespace (agree : Agree tables c d) (space : String)
    (now later : Span) :
    (answer (.ensureNamespace space) now c).1 = (answer (.ensureNamespace space) later d).1 ∧
      Agree tables (answer (.ensureNamespace space) now c).2.1
        (answer (.ensureNamespace space) later d).2.1 := by
  cases reachable : c.unreachable with
  | true => exact agree.answer_offline reachable _ now later
  | false =>
    obtain ⟨spaces, -, ensured⟩ := c.ensureNamespace_fst space
    obtain ⟨spaces', -, ensured'⟩ := d.ensureNamespace_fst space
    rw [Catalog.answer_ensureNamespace reachable,
      Catalog.answer_ensureNamespace (agree.unreachable.trans reachable), ensured, ensured']
    exact ⟨rfl, agree.spaces spaces spaces'⟩

theorem Agree.answer (agree : Agree tables c d) (within : call.Within tables)
    (usable : Usable tables c) (usable' : Usable tables d) (now later : Span) :
    (answer call now c).1 = (answer call later d).1 ∧
      Agree tables (answer call now c).2.1 (answer call later d).2.1 := by
  cases reachable : c.unreachable with
  | true => exact agree.answer_offline reachable call now later
  | false =>
    have reachable' := agree.unreachable.trans reachable
    cases call with
    | ensureNamespace space => exact agree.answer_ensureNamespace space now later
    | create space t =>
      have known : space ∈ c.spaces :=
        usable.resolve_left (by simp [reachable]) (t.key space) (within _ rfl)
      have known' : space ∈ d.spaces :=
        usable'.resolve_left (by simp [reachable']) (t.key space) (within _ rfl)
      rw [answer_create reachable known, answer_create reachable' known']
      exact ⟨rfl, agree.insert _ _⟩
    | append space t rows =>
      simp only [Catalog.answer, reachable, reachable', Bool.false_eq_true, if_false]
      exact agree.append (within _ rfl) rows
    | scan space t =>
      have live := agree.live (within _ rfl : tables (t.key space))
      rw [Fixture.key] at live
      rw [answer_scan reachable, answer_scan reachable', scan, scan, live]
      exact ⟨rfl, agree⟩
    | drop space t mode =>
      rw [answer_drop reachable, answer_drop reachable']
      exact agree.drop (within _ rfl) mode now later

end Catalog

end CatalogMigration
