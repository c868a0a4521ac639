import CatalogMigration.Proofs.Catalog.Answer

namespace CatalogMigration

def SessionCall.key? : SessionCall → Option TableKey
  | .ensureNamespace _ => none
  | .create space t | .append space t _ | .scan space t | .drop space t _ => some (t.key space)

def CatalogOperation.key? : CatalogOperation → Option TableKey
  | .call c => c.key?
  | .replaceRows key _ | .replaceSchema key _ | .undrop key => some key
  | .setUnreachable _ | .failAppendsTo _ | .failDropsOf _ => none

namespace Catalog

/-- What an operation at a time can make of the tables of a catalog. -/
inductive Transition (now : Span) (before after : Catalog) : CatalogOperation → Prop
  | kept {o : CatalogOperation} (live : after.live = before.live)
    (tombstones : after.tombstones = before.tombstones) : Transition now before after o
  | created {space : String} {t : Fixture} (reachable : before.unreachable = false)
    (known : space ∈ before.spaces)
    (live : after.live = before.live.insert (t.key space) ⟨t.schema, []⟩)
    (tombstones : after.tombstones = before.tombstones) :
    Transition now before after (.call (.create space t))
  | rewritten {o : CatalogOperation} {key : TableKey} {old new : StoredTable}
    (about : o.key? = some key) (found : before.live.get? key = some old)
    (live : after.live = before.live.insert key new)
    (tombstones : after.tombstones = before.tombstones) : Transition now before after o
  | buried {space : String} {t : Fixture} {stored : StoredTable}
    (found : before.live.get? (t.key space) = some stored)
    (live : after.live = before.live.erase (t.key space))
    (tombstones : after.tombstones = before.tombstones.insert (t.key space) ⟨stored, now⟩) :
    Transition now before after (.call (.drop space t .soft))
  | purged {space : String} {t : Fixture} {stored : StoredTable}
    (found : before.live.get? (t.key space) = some stored)
    (live : after.live = before.live.erase (t.key space))
    (tombstones : after.tombstones = before.tombstones.erase (t.key space)) :
    Transition now before after (.call (.drop space t .purge))
  | forgotten {key : TableKey} (live : after.live = before.live)
    (tombstones : after.tombstones = before.tombstones.erase key) :
    Transition now before after (.undrop key)
  | restored {key : TableKey} {t : Tombstone} (found : before.tombstones.get? key = some t)
    (live : after.live = before.live.insert key t.table)
    (tombstones : after.tombstones = before.tombstones.erase key) :
    Transition now before after (.undrop key)

variable {c d : Catalog} {now : Span} {o : CatalogOperation}

theorem create_transition (space : String) (t : Fixture) (reachable : c.unreachable = false) :
    Transition now c (c.create space t).2.1 (.call (.create space t)) := by
  unfold create
  split
  · next known => exact .created reachable known rfl rfl
  · exact .kept rfl rfl

theorem append_transition (space : String) (t : Fixture) (rows : List Row) :
    Transition now c (c.append space t rows).2 (.call (.append space t rows)) := by
  unfold append
  split
  · exact .kept rfl rfl
  · cases found : c.live.get? ⟨space, t.name⟩ with
    | none =>
      simp only [found]
      exact .kept rfl rfl
    | some stored =>
      simp only [found]
      exact .rewritten rfl found rfl rfl

theorem drop_transition (space : String) (t : Fixture) (mode : DropMode) :
    Transition now c (c.drop now space t mode).2 (.call (.drop space t mode)) := by
  unfold drop
  split
  · exact .kept rfl rfl
  · cases found : c.live.get? ⟨space, t.name⟩ with
    | none =>
      simp only [found]
      exact .kept rfl rfl
    | some stored =>
      simp only [found]
      cases mode with
      | soft => exact .buried found rfl rfl
      | purge => exact .purged found rfl rfl

theorem answer_transition (call : SessionCall) (now : Span) (c : Catalog) :
    Transition now c (answer call now c).2.1 (.call call) := by
  cases reachable : c.unreachable with
  | true =>
    simp only [answer, reachable, if_true]
    exact .kept rfl rfl
  | false =>
    cases call with
    | ensureNamespace space =>
      obtain ⟨spaces, -, same⟩ := ensureNamespace_fst c space
      rw [answer_ensureNamespace reachable, same]
      exact .kept rfl rfl
    | create space t =>
      simp only [answer, reachable, Bool.false_eq_true, if_false]
      exact create_transition space t reachable
    | append space t rows =>
      simp only [answer, reachable, Bool.false_eq_true, if_false]
      exact append_transition space t rows
    | scan space t =>
      rw [answer_scan reachable]
      exact .kept rfl rfl
    | drop space t mode =>
      rw [answer_drop reachable]
      exact drop_transition space t mode

theorem modify_transition {key : TableKey} (f : StoredTable → StoredTable)
    (about : o.key? = some key) :
    Transition now c { c with live := c.live.modify key f } o := by
  cases found : c.live.get? key with
  | none => exact .kept (by simp [Assoc.modify, found]) rfl
  | some stored =>
    have rewritten : c.live.modify key f = c.live.insert key (f stored) := by
      simp [Assoc.modify, found]
    exact .rewritten about found rewritten rfl

theorem undrop_of_unburied {key : TableKey} (unburied : c.tombstones.get? key = none)
    (now : Span) : c.undrop now key = (false, c) := by
  simp only [undrop, unburied]

theorem undrop_of_retained {key : TableKey} {t : Tombstone}
    (found : c.tombstones.get? key = some t) (retained : c.isRetained now t = true) :
    c.undrop now key = (true, { c with
      tombstones := c.tombstones.erase key, live := c.live.insert key t.table }) := by
  simp only [undrop, found]
  exact if_pos retained

theorem undrop_of_expired {key : TableKey} {t : Tombstone}
    (found : c.tombstones.get? key = some t) (expired : c.isRetained now t = false) :
    c.undrop now key = (false, { c with tombstones := c.tombstones.erase key }) := by
  simp only [undrop, found]
  exact if_neg (Bool.eq_false_iff.mp expired)

theorem undrop_transition (key : TableKey) :
    Transition now c (c.undrop now key).2 (.undrop key) := by
  cases found : c.tombstones.get? key with
  | none =>
    rw [undrop_of_unburied found]
    exact .kept rfl rfl
  | some t =>
    cases retained : c.isRetained now t with
    | true =>
      rw [undrop_of_retained found retained]
      exact .restored found rfl rfl
    | false =>
      rw [undrop_of_expired found retained]
      exact .forgotten rfl rfl

theorem apply_transition (now : Span) (c : Catalog) (o : CatalogOperation) :
    Transition now c (o.apply now c).2 o := by
  cases o with
  | call request => exact answer_transition request now c
  | setUnreachable | failAppendsTo | failDropsOf => exact .kept rfl rfl
  | replaceRows key rows => exact modify_transition _ rfl
  | replaceSchema key schema => exact modify_transition _ rfl
  | undrop key => exact undrop_transition key

theorem Transition.elsewhere (changed : Transition now c d o) {key : TableKey}
    (other : o.key? ≠ some key) :
    d.live.get? key = c.live.get? key ∧ d.tombstones.get? key = c.tombstones.get? key := by
  have apart {k : TableKey} (about : o.key? = some k) : key ≠ k :=
    fun same => other (same ▸ about)
  cases changed with
  | kept live tombstones => exact ⟨by rw [live], by rw [tombstones]⟩
  | created _ _ live tombstones =>
    rw [live, tombstones, Assoc.get?_insert, if_neg (apart rfl)]
    exact ⟨rfl, rfl⟩
  | rewritten about _ live tombstones =>
    rw [live, tombstones, Assoc.get?_insert, if_neg (apart about)]
    exact ⟨rfl, rfl⟩
  | buried _ live tombstones =>
    rw [live, tombstones, Assoc.get?_erase, Assoc.get?_insert, if_neg (apart rfl),
      if_neg (apart rfl)]
    exact ⟨rfl, rfl⟩
  | purged _ live tombstones =>
    rw [live, tombstones, Assoc.get?_erase, Assoc.get?_erase, if_neg (apart rfl),
      if_neg (apart rfl)]
    exact ⟨rfl, rfl⟩
  | forgotten live tombstones =>
    rw [live, tombstones, Assoc.get?_erase, if_neg (apart rfl)]
    exact ⟨rfl, rfl⟩
  | restored _ live tombstones =>
    rw [live, tombstones, Assoc.get?_insert, Assoc.get?_erase, if_neg (apart rfl),
      if_neg (apart rfl)]
    exact ⟨rfl, rfl⟩

end Catalog

end CatalogMigration
