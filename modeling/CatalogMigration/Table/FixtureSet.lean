import CatalogMigration.Table.Fixture

namespace CatalogMigration

structure FixtureSet where
  maintained : List Fixture
  dropped : List (Fixture × DropMode)
  nonempty : maintained ≠ []
  maintained_role : ∀ t ∈ maintained, t.role = .maintained
  dropped_role : ∀ p ∈ dropped, p.1.role = .dropped p.2
  distinct : ((maintained ++ dropped.map (·.1)).map (·.name)).Nodup
  covered : dropped = [] ∨ ∀ mode ∈ DropMode.all, mode ∈ dropped.map (·.2)

inductive FixtureFault
  | nothingMaintained
  | droppedAmongMaintained (name : String) (role : TableRole)
  | noDropMode (name : String)
  | repeatedName (name : String)
  | unusedModes (modes : List DropMode)
deriving DecidableEq, Repr

def FixtureFault.message : FixtureFault → String
  | .nothingMaintained => "at least one table has to be maintained"
  | .droppedAmongMaintained name role =>
    "table " ++ name ++ " is in the maintained set but has role " ++ role.diagnostic
  | .noDropMode name => "table " ++ name ++ " is in the dropped set but has no drop mode"
  | .repeatedName name => "table name " ++ name ++ " is used more than once"
  | .unusedModes modes =>
    "dropped tables never use drop mode(s): " ++ ", ".intercalate (modes.map DropMode.display)

namespace FixtureSet

def withModes : List Fixture → Except FixtureFault (List (Fixture × DropMode))
  | [] => .ok []
  | t :: ts =>
    match t.role with
    | .maintained => .error (.noDropMode t.name)
    | .dropped mode =>
      match withModes ts with
      | .error fault => .error fault
      | .ok rest => .ok ((t, mode) :: rest)

def firstRepeated? (seen : List String) : List String → Option String
  | [] => none
  | n :: ns => if n ∈ seen then some n else firstRepeated? (n :: seen) ns

def unused (dropped : List (Fixture × DropMode)) : List DropMode :=
  DropMode.all.filter (· ∉ dropped.map (·.2))

theorem withModes_role {ts : List Fixture} {ps : List (Fixture × DropMode)}
    (h : withModes ts = .ok ps) : ∀ p ∈ ps, p.1.role = .dropped p.2 := by
  induction ts generalizing ps with
  | nil => cases h; simp
  | cons t ts ih =>
    unfold withModes at h
    split at h
    · cases h
    · next mode role =>
      split at h
      · cases h
      · next rest tail =>
        cases h
        simpa [role] using fun p member => ih tail p member

theorem nodup_of_firstRepeated?_eq_none {ns seen : List String}
    (h : firstRepeated? seen ns = none) : ns.Nodup ∧ ∀ n ∈ ns, n ∉ seen := by
  induction ns generalizing seen with
  | nil => simp
  | cons n ns ih =>
    unfold firstRepeated? at h
    split at h
    · cases h
    · next fresh =>
      obtain ⟨nodup, apart⟩ := ih h
      refine ⟨List.nodup_cons.mpr ⟨fun member => apart n member (by simp), nodup⟩, ?_⟩
      intro m member
      rcases List.mem_cons.mp member with rfl | member
      · exact fresh
      · exact fun seenBefore => apart m member (by simp [seenBefore])

/-- The set of two lists of fixtures, or the first condition they break. -/
def ofLists (maintained dropped : List Fixture) : Except FixtureFault FixtureSet :=
  if nonempty : maintained = [] then .error .nothingMaintained
  else match roles : maintained.find? (·.role ≠ .maintained) with
  | some t => .error (.droppedAmongMaintained t.name t.role)
  | none =>
    match modes : withModes dropped with
    | .error fault => .error fault
    | .ok pairs =>
      match names : firstRepeated? [] ((maintained ++ pairs.map (·.1)).map (·.name)) with
      | some name => .error (.repeatedName name)
      | none =>
        if covered : pairs = [] ∨ unused pairs = [] then
          .ok {
            maintained, dropped := pairs, nonempty
            maintained_role := fun t member => by
              simpa using List.find?_eq_none.mp roles t member
            dropped_role := withModes_role modes
            distinct := (nodup_of_firstRepeated?_eq_none names).1
            covered := covered.imp id fun h mode member => by
              simpa using List.filter_eq_nil_iff.mp h mode member }
        else .error (.unusedModes (unused pairs))

/-- Maintained tables first, then dropped ones. -/
def all (s : FixtureSet) : List Fixture := s.maintained ++ s.dropped.map (·.1)

end FixtureSet

end CatalogMigration
