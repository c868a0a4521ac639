import CatalogMigration.Proofs.Catalog.History

namespace CatalogMigration

def CatalogOperation.Outcome.dropped? : CatalogOperation.Outcome → Option DropRecord
  | ⟨now, .call (.drop space t mode), .ok ()⟩ => some ⟨t.key space, mode, now⟩
  | _ => none

namespace Catalog

/-- Why a catalog refuses a call. -/
inductive Refuses (c : Catalog) : SessionCall → SessionError → Prop
  | offline {call : SessionCall} (unreachable : c.unreachable = true) : Refuses c call offline
  | unknownSpace {space : String} {t : Fixture} (reachable : c.unreachable = false)
    (unknown : space ∉ c.spaces) :
    Refuses c (.create space t) (.notFound ("namespace " ++ space))
  | failingAppend {space : String} {t : Fixture} {rows : List Row}
    (reachable : c.unreachable = false) (failing : t.name ∈ c.failingAppends) :
    Refuses c (.append space t rows)
      (.catalog ("commit to " ++ (t.key space).display ++ " rejected"))
  | lostAppend {space : String} {t : Fixture} {rows : List Row} (reachable : c.unreachable = false)
    (accepted : t.name ∉ c.failingAppends) (lost : c.live.get? (t.key space) = none) :
    Refuses c (.append space t rows) (.notFound (t.key space).display)
  | lostScan {space : String} {t : Fixture} (reachable : c.unreachable = false)
    (lost : c.live.get? (t.key space) = none) :
    Refuses c (.scan space t) (.notFound (t.key space).display)
  | failingDrop {space : String} {t : Fixture} {mode : DropMode}
    (reachable : c.unreachable = false) (failing : t.name ∈ c.failingDrops) :
    Refuses c (.drop space t mode) (.catalog ("drop of " ++ (t.key space).display ++ " rejected"))
  | lostDrop {space : String} {t : Fixture} {mode : DropMode} (reachable : c.unreachable = false)
    (accepted : t.name ∉ c.failingDrops) (lost : c.live.get? (t.key space) = none) :
    Refuses c (.drop space t mode) (.notFound (t.key space).display)

variable {c d : Catalog} {call : SessionCall} {e : SessionError} {now : Span}
  {o : CatalogOperation}

theorem Refuses.answer (refuses : c.Refuses call e) (now : Span) :
    answer call now c = (.error e, c, []) := by
  cases refuses with
  | offline unreachable => cases call <;> simp [Catalog.answer, unreachable]
  | unknownSpace reachable unknown => simp [Catalog.answer, reachable, create, unknown]
  | failingAppend reachable failing =>
    simp [Catalog.answer, reachable, append, failing, Fixture.key]
  | lostAppend reachable accepted lost => exact answer_append_of_lost reachable accepted lost
  | lostScan reachable lost => rw [answer_scan reachable, scan_of_lost lost]
  | failingDrop reachable failing => simp [Catalog.answer, reachable, drop, failing, Fixture.key]
  | lostDrop reachable accepted lost => exact answer_drop_of_lost reachable accepted lost

theorem refuses_of_error (failed : (answer call now c).1 = .error e) : c.Refuses call e := by
  -- Where a reason is at hand, it is the one that was given.
  have given {e' : SessionError} (refuses : c.Refuses call e') : c.Refuses call e := by
    rw [refuses.answer now] at failed
    cases failed
    exact refuses
  cases reachable : c.unreachable with
  | true => exact given (.offline reachable)
  | false =>
    cases call with
    | ensureNamespace space =>
      rw [answer_ensureNamespace reachable] at failed
      cases failed
    | create space t =>
      by_cases known : space ∈ c.spaces
      · rw [answer_create reachable known] at failed
        cases failed
      · exact given (.unknownSpace reachable known)
    | append space t rows =>
      by_cases failing : t.name ∈ c.failingAppends
      · exact given (.failingAppend reachable failing)
      · cases found : c.live.get? (t.key space) with
        | none => exact given (.lostAppend reachable failing found)
        | some stored =>
          rw [answer_append reachable failing found] at failed
          cases failed
    | scan space t =>
      cases found : c.live.get? (t.key space) with
      | none => exact given (.lostScan reachable found)
      | some stored =>
        rw [answer_scan reachable, scan_of_found found] at failed
        cases failed
    | drop space t mode =>
      by_cases failing : t.name ∈ c.failingDrops
      · exact given (.failingDrop reachable failing)
      · cases found : c.live.get? (t.key space) with
        | none => exact given (.lostDrop reachable failing found)
        | some stored =>
          rw [(answer_drop_of_found reachable failing found).1] at failed
          cases failed

-- What each operation can change. All else in a catalog stays.

theorem create_rest (c : Catalog) (space : String) (t : Fixture) :
    (c.create space t).2.1 = { c with live := (c.create space t).2.1.live } := by
  unfold create
  split <;> rfl

theorem append_rest (c : Catalog) (space : String) (t : Fixture) (rows : List Row) :
    (c.append space t rows).2 = { c with live := (c.append space t rows).2.live } := by
  unfold append
  split
  · rfl
  · cases found : c.live.get? ⟨space, t.name⟩ <;> simp only [found]

theorem drop_rest (c : Catalog) (now : Span) (space : String) (t : Fixture) (mode : DropMode) :
    (c.drop now space t mode).2 = { c with
      live := (c.drop now space t mode).2.live
      tombstones := (c.drop now space t mode).2.tombstones
      drops := (c.drop now space t mode).2.drops } := by
  unfold drop
  split
  · rfl
  · cases found : c.live.get? ⟨space, t.name⟩ <;> simp only [found]

theorem undrop_rest (c : Catalog) (now : Span) (key : TableKey) :
    (c.undrop now key).2 = { c with
      live := (c.undrop now key).2.live, tombstones := (c.undrop now key).2.tombstones } := by
  unfold undrop
  split
  · rfl
  · simp only
    split <;> rfl

theorem drop_drops (c : Catalog) (now : Span) (space : String) (t : Fixture) (mode : DropMode) :
    (c.drop now space t mode).2.drops = c.drops ++ (CatalogOperation.Outcome.dropped?
      ⟨now, .call (.drop space t mode), (c.drop now space t mode).1⟩).toList := by
  unfold drop
  split
  · exact (List.append_nil _).symm
  · cases found : c.live.get? ⟨space, t.name⟩ with
    | none =>
      simp only [found]
      exact (List.append_nil _).symm
    | some stored =>
      simp only [found]
      rfl

theorem apply_drops (now : Span) (c : Catalog) (o : CatalogOperation) :
    (o.apply now c).2.drops =
      c.drops ++ (CatalogOperation.Outcome.dropped? ⟨now, o, (o.apply now c).1⟩).toList := by
  have unrecorded : c.drops = c.drops ++ [] := (List.append_nil _).symm
  cases o with
  | call request =>
    cases reachable : c.unreachable with
    | true =>
      have refuses : c.Refuses request offline := .offline reachable
      simp only [CatalogOperation.apply, refuses.answer]
      cases request <;> exact unrecorded
    | false =>
      simp only [CatalogOperation.apply, answer, reachable, Bool.false_eq_true, if_false]
      cases request with
      | ensureNamespace space =>
        obtain ⟨spaces, -, ensured⟩ := c.ensureNamespace_fst space
        exact (congrArg drops ensured).trans unrecorded
      | create space t => exact (congrArg drops (create_rest c space t)).trans unrecorded
      | append space t rows => exact (congrArg drops (append_rest c space t rows)).trans unrecorded
      | scan space t => exact unrecorded
      | drop space t mode => exact drop_drops c now space t mode
  | setUnreachable | failAppendsTo | failDropsOf | replaceRows | replaceSchema => exact unrecorded
  | undrop key =>
    show (c.undrop now key).2.drops = c.drops ++ []
    rw [undrop_rest, List.append_nil]

theorem after_drops (operations : List (Span × CatalogOperation)) : (c.after operations).drops =
    c.drops ++ (c.outcomes operations).filterMap (·.dropped?) := by
  induction operations generalizing c with
  | nil => exact (List.append_nil _).symm
  | cons o os ih =>
    show ((o.2.apply o.1 c).2.after os).drops = _
    rw [ih, apply_drops, List.append_assoc, outcomes, List.filterMap_cons]
    cases CatalogOperation.Outcome.dropped? ⟨o.1, o.2, (o.2.apply o.1 c).1⟩ <;> rfl

/-- Every table, live or softly dropped, is in a namespace that is known. -/
structure Homed (c : Catalog) : Prop where
  live : ∀ key stored, c.live.get? key = some stored → key.space ∈ c.spaces
  tombstones : ∀ key t, c.tombstones.get? key = some t → key.space ∈ c.spaces

theorem homed_empty (retention : Span) : (empty retention).Homed := ⟨nofun, nofun⟩

theorem Transition.homed (changed : Transition now c d o) (spaces : c.spaces ⊆ d.spaces)
    (homed : c.Homed) : d.Homed := by
  have inserted {ν : Type} {m : Assoc TableKey ν} {k : TableKey} {v : ν}
      (here : k.space ∈ c.spaces) (others : ∀ key w, m.get? key = some w → key.space ∈ c.spaces) :
      ∀ key w, (m.insert k v).get? key = some w → key.space ∈ d.spaces := by
    intro key w found
    rw [Assoc.get?_insert] at found
    split at found
    · next same => exact spaces (same ▸ here)
    · exact spaces (others key w found)
  have erased {ν : Type} {m : Assoc TableKey ν} {k : TableKey}
      (others : ∀ key w, m.get? key = some w → key.space ∈ c.spaces) :
      ∀ key w, (m.erase k).get? key = some w → key.space ∈ d.spaces := by
    intro key w found
    rw [Assoc.get?_erase] at found
    split at found
    · cases found
    · exact spaces (others key w found)
  have lives : ∀ key w, c.live.get? key = some w → key.space ∈ d.spaces :=
    fun key w found => spaces (homed.live key w found)
  have buries : ∀ key w, c.tombstones.get? key = some w → key.space ∈ d.spaces :=
    fun key w found => spaces (homed.tombstones key w found)
  cases changed with
  | kept live tombstones => exact ⟨live ▸ lives, tombstones ▸ buries⟩
  | created _ known live tombstones =>
    exact ⟨live ▸ inserted known homed.live, tombstones ▸ buries⟩
  | rewritten _ found live tombstones =>
    exact ⟨live ▸ inserted (homed.live _ _ found) homed.live, tombstones ▸ buries⟩
  | buried found live tombstones =>
    exact ⟨live ▸ erased homed.live,
      tombstones ▸ inserted (homed.live _ _ found) homed.tombstones⟩
  | purged _ live tombstones =>
    exact ⟨live ▸ erased homed.live, tombstones ▸ erased homed.tombstones⟩
  | forgotten live tombstones => exact ⟨live ▸ lives, tombstones ▸ erased homed.tombstones⟩
  | restored found live tombstones =>
    exact ⟨live ▸ inserted (homed.tombstones _ _ found) homed.live,
      tombstones ▸ erased homed.tombstones⟩

theorem spaces_subset_apply (now : Span) (c : Catalog) (o : CatalogOperation) :
    c.spaces ⊆ (o.apply now c).2.spaces := by
  cases o with
  | call request => exact (answer_continues request now c).spaces
  | setUnreachable | failAppendsTo | failDropsOf | replaceRows | replaceSchema =>
    exact List.Subset.refl _
  | undrop key =>
    show c.spaces ⊆ (c.undrop now key).2.spaces
    rw [undrop_rest]
    exact List.Subset.refl _

theorem homed_after (retention : Span) (operations : List (Span × CatalogOperation)) :
    ((empty retention).after operations).Homed :=
  after_invariant
    (fun o _ c => (apply_transition o.1 c o.2).homed (spaces_subset_apply o.1 c o.2))
    (homed_empty retention)

/-- After any history a call that is answered with an error was refused for one of the reasons there
are and leaves the whole catalog as it was, every table is in a namespace that is known, and the
drops on record are those that were granted, in their order. -/
theorem failed_calls_change_nothing (retention : Span)
    (operations : List (Span × CatalogOperation)) :
    let c := (empty retention).after operations
    (∀ (call : SessionCall) (now : Span) (e : SessionError),
      (answer call now c).1 = .error e → c.Refuses call e ∧ (answer call now c).2 = (c, [])) ∧
    (∀ key, (c.live.get? key).isSome ∨ (c.tombstones.get? key).isSome → key.space ∈ c.spaces) ∧
    c.drops = ((empty retention).outcomes operations).filterMap (·.dropped?) := by
  intro c
  refine ⟨fun call now e failed => ?_, fun key held => ?_, after_drops operations⟩
  · have refuses : c.Refuses call e := refuses_of_error failed
    exact ⟨refuses, congrArg Prod.snd (refuses.answer now)⟩
  · have homed : c.Homed := homed_after retention operations
    rcases held with held | held
    · obtain ⟨stored, found⟩ := Option.isSome_iff_exists.mp held
      exact homed.live key stored found
    · obtain ⟨t, found⟩ := Option.isSome_iff_exists.mp held
      exact homed.tombstones key t found

/-- A drop made to fail and one of a table that is softly dropped already are refused and leave no
record. -/
theorem failed_drops_unrecorded :
    let key : TableKey := ⟨"my_namespace", "my_table_2"⟩
    let kept : Fixture := .maintained "my_table_0"
    let t : Fixture := .dropped "my_table_2" .soft
    let operations : List (Span × CatalogOperation) :=
      [(.zero, .call (.ensureNamespace "my_namespace")),
        (.zero, .call (.create "my_namespace" kept)),
        (.zero, .call (.create "my_namespace" t)),
        (.ofSeconds 1, .call (.drop "my_namespace" t .soft)),
        (.ofSeconds 2, .call (.drop "my_namespace" t .purge)),
        (.ofSeconds 3, .failDropsOf "my_table_0")]
    let c := (empty (.ofSeconds 60)).after operations
    let refused : SessionError := .catalog "drop of my_namespace.my_table_0 rejected"
    (answer (.drop "my_namespace" kept .purge) (.ofSeconds 4) c).1 = .error refused ∧
      c.Refuses (.drop "my_namespace" kept .purge) refused ∧
      (answer (.drop "my_namespace" kept .purge) (.ofSeconds 4) c).2 = (c, []) ∧
      (c.tombstones.get? key).isSome ∧ key.space ∈ c.spaces ∧
      c.drops = [⟨key, .soft, .ofSeconds 1⟩] := by
  intro key kept t operations c refused
  have failed :
      (answer (.drop "my_namespace" kept .purge) (.ofSeconds 4) c).1 = .error refused := by
    subst refused c operations t kept key
    decide +kernel
  have held : (c.tombstones.get? key).isSome := by
    subst refused c operations t kept key
    decide +kernel
  have granted : ((empty (.ofSeconds 60)).outcomes operations).filterMap (·.dropped?) =
      [⟨key, .soft, .ofSeconds 1⟩] := by
    subst refused c operations t kept key
    decide +kernel
  obtain ⟨unchanged, known, recorded⟩ := failed_calls_change_nothing (.ofSeconds 60) operations
  obtain ⟨refuses, same⟩ := unchanged _ _ _ failed
  exact ⟨failed, refuses, same, held, known key (.inr held), recorded.trans granted⟩

end Catalog

end CatalogMigration
