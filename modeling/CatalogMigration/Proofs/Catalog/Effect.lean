import CatalogMigration.Proofs.Catalog.Answer
import CatalogMigration.Table.FixtureSet
import Mathlib.Data.List.Nodup

namespace CatalogMigration

theorem Fixture.key_ne_of_fresh {space : String} {t : Fixture} {ts : List Fixture}
    (fresh : t.name ∉ ts.map (·.name)) : ∀ u ∈ ts, t.key space ≠ u.key space := by
  intro u member same
  have name : t.name = u.name := congrArg TableKey.table same
  exact fresh (name ▸ List.mem_map_of_mem member)

def Fixture.stored (t : Fixture) : StoredTable := ⟨t.schema, fixtureRows⟩

namespace FixtureSet

variable (fixtures : FixtureSet)

theorem distinct_dropped : (fixtures.dropped.map (·.1.name)).Nodup := by
  have distinct := fixtures.distinct
  rw [List.map_append, List.map_map] at distinct
  exact distinct.of_append_right

variable {fixtures}

theorem mem_all_of_maintained {t : Fixture} (member : t ∈ fixtures.maintained) : t ∈ fixtures.all :=
  List.mem_append_left _ member

theorem mem_all_of_dropped {p : Fixture × DropMode} (member : p ∈ fixtures.dropped) :
    p.1 ∈ fixtures.all :=
  List.mem_append_right _ (List.mem_map_of_mem member)

theorem maintained_name_ne_dropped {t : Fixture} {p : Fixture × DropMode}
    (kept : t ∈ fixtures.maintained) (dropped : p ∈ fixtures.dropped) : t.name ≠ p.1.name := by
  have distinct := fixtures.distinct
  rw [List.map_append] at distinct
  have apart := List.disjoint_of_nodup_append distinct
  intro name
  refine apart (List.mem_map_of_mem kept) ?_
  rw [name]
  exact List.mem_map_of_mem (List.mem_map_of_mem dropped)

theorem maintained_key_ne_dropped {space : String} {t : Fixture} {p : Fixture × DropMode}
    (kept : t ∈ fixtures.maintained) (dropped : p ∈ fixtures.dropped) :
    t.key space ≠ p.1.key space :=
  fun same => maintained_name_ne_dropped kept dropped (congrArg TableKey.table same)

end FixtureSet

namespace Catalog

variable {c : Catalog} {space : String} {t : Fixture} {now : Span}

def filled (c : Catalog) (space : String) (tables : List Fixture) : Catalog :=
  { c with live := tables.foldl (fun live t => live.insert (t.key space) t.stored) c.live }

theorem filled_cons (c : Catalog) (space : String) (t : Fixture) (ts : List Fixture) :
    c.filled space (t :: ts) = (c.filled space [t]).filled space ts := rfl

theorem live_filled_of_forall_ne {tables : List Fixture} {key : TableKey}
    (apart : ∀ t ∈ tables, key ≠ t.key space) :
    (c.filled space tables).live.get? key = c.live.get? key := by
  induction tables generalizing c with
  | nil => rfl
  | cons t ts ih =>
    have first : (c.filled space [t]).live.get? key = c.live.get? key := by
      rw [filled, List.foldl_cons, List.foldl_nil, Assoc.get?_insert, if_neg (apart t (by simp))]
    rw [filled_cons, ← first]
    exact ih fun u member => apart u (by simp [member])

theorem live_filled_of_mem {tables : List Fixture} (distinct : (tables.map (·.name)).Nodup)
    (member : t ∈ tables) : (c.filled space tables).live.get? (t.key space) = some t.stored := by
  induction tables generalizing c with
  | nil => cases member
  | cons u ts ih =>
    obtain ⟨fresh, distinct⟩ := List.nodup_cons.mp distinct
    rw [filled_cons]
    rcases List.mem_cons.mp member with rfl | member
    -- The writes after the one of the table go to other keys.
    · have last : (c.filled space [t]).live.get? (t.key space) = some t.stored := by
        simp [filled]
      rw [← last]
      exact live_filled_of_forall_ne (Fixture.key_ne_of_fresh fresh)
    · exact ih distinct member

def accepted (c : Catalog) (pairs : List (Fixture × DropMode)) : List (Fixture × DropMode) :=
  pairs.filter (·.1.name ∉ c.failingDrops)

def refused (c : Catalog) (pairs : List (Fixture × DropMode)) : List (Fixture × DropMode) :=
  pairs.filter (·.1.name ∈ c.failingDrops)

theorem accepted_of_none_refused {pairs : List (Fixture × DropMode)}
    (none_refused : c.refused pairs = []) : c.accepted pairs = pairs := by
  rw [refused, List.filter_eq_nil_iff] at none_refused
  rw [accepted, List.filter_eq_self]
  simpa using none_refused

/-- What accepted drops of written tables change, key by key. -/
structure Buried (now : Span) (space : String) (pairs : List (Fixture × DropMode))
    (before after : Catalog) : Prop where
  gone : ∀ p ∈ pairs, after.live.get? (p.1.key space) = none
  soft : ∀ t, (t, .soft) ∈ pairs → after.tombstones.get? (t.key space) = some ⟨t.stored, now⟩
  purge : ∀ t, (t, .purge) ∈ pairs → after.tombstones.get? (t.key space) = none
  elsewhere : ∀ key, (∀ p ∈ pairs, key ≠ p.1.key space) →
    after.live.get? key = before.live.get? key ∧
      after.tombstones.get? key = before.tombstones.get? key
  recorded : after.drops = before.drops ++ pairs.map fun p => ⟨p.1.key space, p.2, now⟩
  rest : after = { before with
    live := after.live, tombstones := after.tombstones, drops := after.drops }

namespace Buried

variable {p : Fixture × DropMode} {pairs : List (Fixture × DropMode)}
  {before middle after : Catalog}

theorem nil : Buried now space [] c c where
  gone := by simp
  soft := by simp
  purge := by simp
  elsewhere _ _ := ⟨rfl, rfl⟩
  recorded := by simp
  rest := rfl

theorem drop (now : Span) (mode : DropMode) (found : c.live.get? (t.key space) = some t.stored)
    (accepted : t.name ∉ c.failingDrops) :
    (c.drop now space t mode).1 = .ok () ∧
      Buried now space [(t, mode)] c (c.drop now space t mode).2 := by
  rw [Fixture.key] at found
  rw [Catalog.drop, if_neg accepted, found]
  refine ⟨rfl, ?_, ?_, ?_, ?_, rfl, rfl⟩
  · simp [Fixture.key]
  · simp +contextual [Fixture.key, eq_comm]
  · simp +contextual [Fixture.key, eq_comm]
  · intro key apart
    have other : key ≠ t.key space := apart _ (List.mem_singleton_self _)
    rw [Fixture.key] at other
    cases mode <;> simp [Assoc.get?_erase, Assoc.get?_insert, other]

theorem unreachable (buried : Buried now space pairs before after) :
    after.unreachable = before.unreachable := by
  rw [buried.rest]

theorem failingDrops (buried : Buried now space pairs before after) :
    after.failingDrops = before.failingDrops := by
  rw [buried.rest]

theorem live_apart (buried : Buried now space [p] before after)
    (apart : ∀ q ∈ pairs, p.1.key space ≠ q.1.key space)
    (live : ∀ q ∈ pairs, before.live.get? (q.1.key space) = some q.1.stored) :
    ∀ q ∈ pairs, after.live.get? (q.1.key space) = some q.1.stored := by
  intro q member
  obtain ⟨same, -⟩ := buried.elsewhere (q.1.key space) (by simpa using (apart q member).symm)
  rw [same]
  exact live q member

theorem cons (first : Buried now space [p] before middle)
    (others : Buried now space pairs middle after)
    (apart : ∀ q ∈ pairs, p.1.key space ≠ q.1.key space) :
    Buried now space (p :: pairs) before after := by
  obtain ⟨live, tombstones⟩ := others.elsewhere _ apart
  refine ⟨?_, ?_, ?_, ?_, ?_, ?_⟩
  · intro q member
    rcases List.mem_cons.mp member with rfl | member
    · rw [live]
      exact first.gone q (List.mem_singleton_self q)
    · exact others.gone q member
  · intro t member
    rcases List.mem_cons.mp member with rfl | member
    · rw [tombstones]
      exact first.soft t (List.mem_singleton_self _)
    · exact others.soft t member
  · intro t member
    rcases List.mem_cons.mp member with rfl | member
    · rw [tombstones]
      exact first.purge t (List.mem_singleton_self _)
    · exact others.purge t member
  · intro key other
    obtain ⟨live', tombstones'⟩ := others.elsewhere key fun q member => other q (by simp [member])
    obtain ⟨live, tombstones⟩ := first.elsewhere key fun q member => other q (by simp_all)
    exact ⟨live'.trans live, tombstones'.trans tombstones⟩
  · rw [others.recorded, first.recorded, List.append_assoc]
    rfl
  · rw [others.rest, first.rest]

end Buried

end Catalog

end CatalogMigration
