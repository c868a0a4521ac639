import CatalogMigration.Failure
import CatalogMigration.Table.FixtureSet
import Mathlib.Data.List.Induction
import Mathlib.Data.List.Nodup

namespace CatalogMigration.FixtureSet

variable {maintained dropped ts : List Fixture} {t : Fixture} {fault : FixtureFault}

/-- Some tables to keep, none of them dropped, and a drop mode for each of the others. -/
structure RightRoles (maintained dropped : List Fixture) : Prop where
  nonempty : maintained ≠ []
  kept : ∀ t ∈ maintained, t.role = .maintained
  moded : ∀ t ∈ dropped, ∃ mode, t.role = .dropped mode

structure Acceptable (maintained dropped : List Fixture) : Prop
    extends RightRoles maintained dropped where
  distinct : ((maintained ++ dropped).map (·.name)).Nodup
  covered : dropped = [] ∨ ∀ mode, ∃ t ∈ dropped, t.role = .dropped mode

/-- The first condition that two lists break, in words. -/
inductive Rejected (maintained dropped : List Fixture) : String → Prop
  | nothingMaintained (nothing : maintained = []) :
    Rejected maintained dropped "at least one table has to be maintained"
  | droppedAmongMaintained {before after : List Fixture} {t : Fixture}
    (split : maintained = before ++ t :: after) (kept : ∀ u ∈ before, u.role = .maintained)
    (wrong : t.role ≠ .maintained) :
    Rejected maintained dropped
      ("table " ++ t.name ++ " is in the maintained set but has role " ++ t.role.diagnostic)
  | noDropMode {before after : List Fixture} {t : Fixture} (nonempty : maintained ≠ [])
    (kept : ∀ u ∈ maintained, u.role = .maintained) (split : dropped = before ++ t :: after)
    (moded : ∀ u ∈ before, ∃ mode, u.role = .dropped mode) (wrong : t.role = .maintained) :
    Rejected maintained dropped
      ("table " ++ t.name ++ " is in the dropped set but has no drop mode")
  | repeatedName {before after : List Fixture} {t : Fixture} (roles : RightRoles maintained dropped)
    (split : maintained ++ dropped = before ++ t :: after) (fresh : (before.map (·.name)).Nodup)
    (again : t.name ∈ before.map (·.name)) :
    Rejected maintained dropped ("table name " ++ t.name ++ " is used more than once")
  | unusedModes (roles : RightRoles maintained dropped)
    (distinct : ((maintained ++ dropped).map (·.name)).Nodup) (some_dropped : dropped ≠ [])
    (missing : ∃ mode, ∀ t ∈ dropped, t.role ≠ .dropped mode) :
    Rejected maintained dropped
      ("dropped tables never use drop mode(s): " ++ ", ".intercalate
        ((DropMode.all.filter fun mode => ∀ t ∈ dropped, t.role ≠ .dropped mode).map
          DropMode.display))

theorem role_ne_maintained_iff : t.role ≠ .maintained ↔ ∃ mode, t.role = .dropped mode := by
  cases t.role <;> simp

theorem all_or_first (passes : Fixture → Prop) [DecidablePred passes] (ts : List Fixture) :
    (∀ t ∈ ts, passes t) ∨ ∃ before t after, ts = before ++ t :: after ∧
      (∀ u ∈ before, passes u) ∧ ¬ passes t := by
  cases found : ts.find? (¬ passes ·) with
  | none => exact .inl (by simpa using found)
  | some t =>
    obtain ⟨fails, before, after, split, passed⟩ := List.find?_eq_some_iff_append.mp found
    exact .inr ⟨before, t, after, split, by simpa using passed, by simpa using fails⟩

def Paired (ts : List Fixture) (pairs : List (Fixture × DropMode)) : Prop :=
  pairs.map (fun p => (p.1, TableRole.dropped p.2)) = ts.map fun t => (t, t.role)

namespace Paired

variable {pairs : List (Fixture × DropMode)} {mode : DropMode}

theorem tables (paired : Paired ts pairs) : pairs.map (·.1) = ts := by
  simpa [Function.comp_def] using congrArg (List.map Prod.fst) paired

theorem mem_modes_iff (paired : Paired ts pairs) :
    mode ∈ pairs.map (·.2) ↔ ∃ t ∈ ts, t.role = .dropped mode := by
  have roles : pairs.map (fun p => TableRole.dropped p.2) = ts.map (·.role) := by
    simpa [Function.comp_def] using congrArg (List.map Prod.snd) paired
  have member : TableRole.dropped mode ∈ pairs.map (fun p => TableRole.dropped p.2) ↔
      TableRole.dropped mode ∈ ts.map (·.role) := by rw [roles]
  simpa using member

theorem unused_eq (paired : Paired ts pairs) :
    unused pairs = DropMode.all.filter fun mode => ∀ t ∈ ts, t.role ≠ .dropped mode :=
  List.filter_congr fun mode _ => by simp [paired.mem_modes_iff]

end Paired

theorem withModes_of_moded (moded : ∀ t ∈ ts, ∃ mode, t.role = .dropped mode) :
    ∃ pairs, withModes ts = .ok pairs ∧ Paired ts pairs := by
  induction ts with
  | nil => exact ⟨[], rfl, rfl⟩
  | cons t ts ih =>
    obtain ⟨mode, role⟩ := moded t (List.mem_cons_self ..)
    obtain ⟨pairs, rest, paired⟩ := ih fun u member => moded u (List.mem_cons_of_mem _ member)
    refine ⟨(t, mode) :: pairs, by simp only [withModes, role, rest], ?_⟩
    rw [Paired, List.map_cons, List.map_cons, paired, role]

theorem withModes_of_unmoded {before after : List Fixture}
    (moded : ∀ u ∈ before, ∃ mode, u.role = .dropped mode) (wrong : t.role = .maintained) :
    withModes (before ++ t :: after) = .error (.noDropMode t.name) := by
  induction before with
  | nil => simp only [List.nil_append, withModes, wrong]
  | cons u us ih =>
    obtain ⟨mode, role⟩ := moded u (List.mem_cons_self ..)
    have rest := ih fun v member => moded v (List.mem_cons_of_mem _ member)
    simp only [List.cons_append, withModes, role, rest]

theorem firstRepeated?_of_nodup {seen names : List String} (nodup : names.Nodup)
    (fresh : ∀ n ∈ names, n ∉ seen) : firstRepeated? seen names = none := by
  induction names generalizing seen with
  | nil => rfl
  | cons n ns ih =>
    obtain ⟨apart, nodup⟩ := List.nodup_cons.mp nodup
    rw [firstRepeated?, if_neg (fresh n (List.mem_cons_self ..))]
    refine ih nodup fun m member => ?_
    rw [List.mem_cons, not_or]
    exact ⟨fun same => apart (same ▸ member), fresh m (List.mem_cons_of_mem _ member)⟩

theorem firstRepeated?_of_split {seen before after : List String} {name : String}
    (nodup : before.Nodup) (fresh : ∀ n ∈ before, n ∉ seen) (again : name ∈ before ∨ name ∈ seen) :
    firstRepeated? seen (before ++ name :: after) = some name := by
  induction before generalizing seen with
  | nil => exact if_pos (again.resolve_left List.not_mem_nil)
  | cons n ns ih =>
    obtain ⟨apart, nodup⟩ := List.nodup_cons.mp nodup
    rw [List.cons_append, firstRepeated?, if_neg (fresh n (List.mem_cons_self ..))]
    refine ih nodup (fun m member => ?_) ?_
    · rw [List.mem_cons, not_or]
      exact ⟨fun same => apart (same ▸ member), fresh m (List.mem_cons_of_mem _ member)⟩
    · simpa [or_assoc, or_left_comm] using again

theorem nodup_or_repeated (ts : List Fixture) : (ts.map (·.name)).Nodup ∨
    ∃ before t after, ts = before ++ t :: after ∧ (before.map (·.name)).Nodup ∧
      t.name ∈ before.map (·.name) := by
  induction ts using List.reverseRecOn with
  | nil => exact .inl List.nodup_nil
  | append_singleton ts t ih =>
    rcases ih with nodup | ⟨before, u, after, split, nodup, again⟩
    · by_cases again : t.name ∈ ts.map (·.name)
      · exact .inr ⟨ts, t, [], rfl, nodup, again⟩
      · rw [List.map_append]
        exact .inl (nodup.append (List.nodup_singleton _) (by simpa using again))
    · exact .inr ⟨before, u, after ++ [t], by simp [split], nodup, again⟩

theorem ofLists_lists (maintained dropped : List Fixture) :
    (ofLists maintained dropped).map (fun set => (set.maintained, set.dropped)) =
      if maintained = [] then .error .nothingMaintained
      else match maintained.find? (·.role ≠ .maintained) with
        | some t => .error (.droppedAmongMaintained t.name t.role)
        | none =>
          match withModes dropped with
          | .error fault => .error fault
          | .ok pairs =>
            match firstRepeated? [] ((maintained ++ pairs.map (·.1)).map (·.name)) with
            | some name => .error (.repeatedName name)
            | none =>
              if pairs = [] ∨ unused pairs = [] then .ok (maintained, pairs)
              else .error (.unusedModes (unused pairs)) := by
  unfold ofLists
  split
  · rfl
  split
  · next found => simp only [found]; rfl
  next passed =>
  simp only [passed]
  split
  · next found => simp only [found]; rfl
  next modes =>
  simp only [modes]
  split
  · next found => simp only [found]; rfl
  next fresh =>
  simp only [fresh]
  split <;> rfl

theorem ofLists_eq_error {f : FixtureSet → List Fixture × List (Fixture × DropMode)}
    (lists : (ofLists maintained dropped).map f = .error fault) :
    ofLists maintained dropped = .error fault := by
  cases made : ofLists maintained dropped with
  | error other =>
    rw [made] at lists
    exact congrArg Except.error (Except.error.inj lists)
  | ok set =>
    rw [made] at lists
    cases lists

theorem RightRoles.lists (roles : RightRoles maintained dropped) :
    ∃ pairs, Paired dropped pairs ∧
      (ofLists maintained dropped).map (fun set => (set.maintained, set.dropped)) =
        match firstRepeated? [] ((maintained ++ dropped).map (·.name)) with
        | some name => .error (.repeatedName name)
        | none =>
          if pairs = [] ∨ unused pairs = [] then .ok (maintained, pairs)
          else .error (.unusedModes (unused pairs)) := by
  obtain ⟨pairs, modes, paired⟩ := withModes_of_moded roles.moded
  have passed : maintained.find? (·.role ≠ .maintained) = none := by simpa using roles.kept
  refine ⟨pairs, paired, ?_⟩
  simp only [ofLists_lists, if_neg roles.nonempty, passed, modes, paired.tables]

theorem ofLists_of_rejected {text : String} (rejected : Rejected maintained dropped text) :
    ∃ fault, ofLists maintained dropped = .error fault ∧ fault.message = text := by
  have lists := ofLists_lists maintained dropped
  cases rejected with
  | nothingMaintained nothing =>
    rw [if_pos nothing] at lists
    exact ⟨_, ofLists_eq_error lists, rfl⟩
  | @droppedAmongMaintained before after t split kept wrong =>
    have nonempty : maintained ≠ [] := by simp [split]
    have first : maintained.find? (·.role ≠ .maintained) = some t :=
      List.find?_eq_some_iff_append.mpr
        ⟨by simpa using wrong, before, after, split, by simpa using kept⟩
    simp only [if_neg nonempty, first] at lists
    exact ⟨_, ofLists_eq_error lists, rfl⟩
  | @noDropMode before after t nonempty kept split moded wrong =>
    have passed : maintained.find? (·.role ≠ .maintained) = none := by simpa using kept
    have unmoded : withModes dropped = .error (.noDropMode t.name) := by
      rw [split]
      exact withModes_of_unmoded moded wrong
    simp only [if_neg nonempty, passed, unmoded] at lists
    exact ⟨_, ofLists_eq_error lists, rfl⟩
  | @repeatedName before after t roles split fresh again =>
    obtain ⟨pairs, -, lists⟩ := roles.lists
    have names : (maintained ++ dropped).map (·.name) =
        before.map (·.name) ++ t.name :: after.map (·.name) := by
      rw [split, List.map_append, List.map_cons]
    rw [names, firstRepeated?_of_split fresh (by simp) (.inl again)] at lists
    exact ⟨_, ofLists_eq_error lists, rfl⟩
  | unusedModes roles distinct some_dropped missing =>
    obtain ⟨pairs, paired, lists⟩ := roles.lists
    obtain ⟨mode, none_uses⟩ := missing
    have uncovered : ¬ (pairs = [] ∨ unused pairs = []) := by
      rintro (nothing | nothing)
      · exact some_dropped (by rw [← paired.tables, nothing, List.map_nil])
      · rw [paired.unused_eq, List.filter_eq_nil_iff] at nothing
        exact nothing mode (by cases mode <;> decide) (by simpa using none_uses)
    rw [firstRepeated?_of_nodup distinct (by simp)] at lists
    simp only [if_neg uncovered] at lists
    exact ⟨_, ofLists_eq_error lists, by rw [paired.unused_eq]; rfl⟩

theorem ofLists_of_acceptable (acceptable : Acceptable maintained dropped) :
    ∃ set, ofLists maintained dropped = .ok set ∧ set.maintained = maintained ∧
      Paired dropped set.dropped := by
  obtain ⟨pairs, paired, lists⟩ := acceptable.lists
  have covered : pairs = [] ∨ unused pairs = [] := by
    rcases acceptable.covered with nothing | covered
    · left
      rw [nothing] at paired
      simpa [Paired] using paired
    · right
      rw [paired.unused_eq, List.filter_eq_nil_iff]
      intro mode _ none_uses
      obtain ⟨t, member, role⟩ := covered mode
      exact (of_decide_eq_true none_uses) t member role
  rw [firstRepeated?_of_nodup acceptable.distinct (by simp)] at lists
  simp only [if_pos covered] at lists
  cases made : ofLists maintained dropped with
  | error fault =>
    rw [made] at lists
    cases lists
  | ok set =>
    rw [made] at lists
    obtain ⟨rfl, rfl⟩ := Prod.mk.inj (Except.ok.inj lists)
    exact ⟨set, rfl, rfl, paired⟩

theorem acceptable_or_rejected (maintained dropped : List Fixture) :
    Acceptable maintained dropped ∨ ∃ text, Rejected maintained dropped text := by
  by_cases nothing : maintained = []
  · exact .inr ⟨_, .nothingMaintained nothing⟩
  rcases all_or_first (·.role = .maintained) maintained with
    kept | ⟨before, t, after, split, kept, wrong⟩
  swap
  · exact .inr ⟨_, .droppedAmongMaintained split kept wrong⟩
  rcases all_or_first (·.role ≠ .maintained) dropped with
    moded | ⟨before, t, after, split, moded, wrong⟩
  swap
  · exact .inr ⟨_, .noDropMode nothing kept split
      (fun u member => role_ne_maintained_iff.mp (moded u member)) (not_not.mp wrong)⟩
  have roles : RightRoles maintained dropped :=
    ⟨nothing, kept, fun u member => role_ne_maintained_iff.mp (moded u member)⟩
  rcases nodup_or_repeated (maintained ++ dropped) with
    distinct | ⟨before, t, after, split, fresh, again⟩
  swap
  · exact .inr ⟨_, .repeatedName roles split fresh again⟩
  by_cases covered : dropped = [] ∨ ∀ mode, ∃ t ∈ dropped, t.role = .dropped mode
  · exact .inl ⟨roles, distinct, covered⟩
  · rw [not_or, not_forall] at covered
    obtain ⟨some_dropped, mode, none_uses⟩ := covered
    exact .inr ⟨_, .unusedModes roles distinct some_dropped
      ⟨mode, fun t member role => none_uses ⟨t, member, role⟩⟩⟩

/-- Two lists make a set just when they are acceptable. The set holds them in their order, each
dropped table with the mode of its own role. Else the failure tells the first condition they break
and the first table that breaks it. -/
theorem made_iff_acceptable (maintained dropped : List Fixture) :
    let made := (ofLists maintained dropped).mapError fun fault =>
      Failure.invalidFixtures fault.message
    ((∃ set, made = .ok set) ↔ Acceptable maintained dropped) ∧
    (∀ set, made = .ok set → set.maintained = maintained ∧
      set.dropped.map (fun p => (p.1, TableRole.dropped p.2)) = dropped.map (fun t => (t, t.role)) ∧
      set.all = maintained ++ dropped) ∧
    ∀ failure, made = .error failure ↔
      ∃ text, failure = .invalidFixtures text ∧ Rejected maintained dropped text := by
  intro made
  have accepted (acceptable : Acceptable maintained dropped) :
      ∃ set, made = .ok set ∧ set.maintained = maintained ∧ Paired dropped set.dropped := by
    obtain ⟨set, ok, lists⟩ := ofLists_of_acceptable acceptable
    exact ⟨set, by simp only [made, ok]; rfl, lists⟩
  have refused {text : String} (rejected : Rejected maintained dropped text) :
      made = .error (.invalidFixtures text) := by
    obtain ⟨fault, error, rfl⟩ := ofLists_of_rejected rejected
    simp only [made, error]
    rfl
  have acceptable_of_ok {set : FixtureSet} (ok : made = .ok set) :
      Acceptable maintained dropped := by
    rcases acceptable_or_rejected maintained dropped with acceptable | ⟨text, rejected⟩
    · exact acceptable
    · rw [refused rejected] at ok
      cases ok
  refine ⟨⟨fun ⟨set, ok⟩ => acceptable_of_ok ok, fun acceptable => ?_⟩, fun set ok => ?_,
    fun failure => ⟨fun error => ?_, ?_⟩⟩
  · obtain ⟨set, ok, -⟩ := accepted acceptable
    exact ⟨set, ok⟩
  · obtain ⟨set', ok', kept, paired⟩ := accepted (acceptable_of_ok ok)
    rw [ok'] at ok
    cases ok
    exact ⟨kept, paired, by rw [all, kept, paired.tables]⟩
  · rcases acceptable_or_rejected maintained dropped with acceptable | ⟨text, rejected⟩
    · obtain ⟨set, ok, -⟩ := accepted acceptable
      rw [ok] at error
      cases error
    · rw [refused rejected] at error
      cases error
      exact ⟨text, rfl, rejected⟩
  · rintro ⟨text, rfl, rejected⟩
    exact refused rejected

/-- A name of a kept table that a dropped one repeats is the fault although a drop mode is unused
too. Without the repetition the modes are the fault, and with all of them there is a set. -/
theorem repetition_before_unused_modes :
    let kept : List Fixture := [.maintained "t", .maintained "u"]
    let made (dropped : List Fixture) := (ofLists kept dropped).mapError fun fault =>
      Failure.invalidFixtures fault.message
    let repeated := "table name u is used more than once"
    let unused := "dropped tables never use drop mode(s): purge"
    made [.dropped "v" .soft, .dropped "u" .soft] = .error (.invalidFixtures repeated) ∧
      Rejected kept [.dropped "v" .soft, .dropped "u" .soft] repeated ∧
      made [.dropped "v" .soft] = .error (.invalidFixtures unused) ∧
      Rejected kept [.dropped "v" .soft] unused ∧
      ∃ set, made [.dropped "v" .purge, .dropped "w" .soft] = .ok set ∧ set.maintained = kept ∧
        set.all = kept ++ [.dropped "v" .purge, .dropped "w" .soft] := by
  intro kept made repeated unused
  have rejected {dropped : List Fixture} {text : String}
      (failed : made dropped = .error (.invalidFixtures text)) : Rejected kept dropped text := by
    obtain ⟨text, same, rejected⟩ := ((made_iff_acceptable kept dropped).2.2 _).mp failed
    cases same
    exact rejected
  have acceptable : Acceptable kept [.dropped "v" .purge, .dropped "w" .soft] := by
    refine ⟨⟨by decide, by decide, by simp [Fixture.dropped]⟩, by decide, .inr fun mode => ?_⟩
    cases mode <;> simp [Fixture.dropped]
  obtain ⟨made_iff, held, -⟩ :=
    made_iff_acceptable kept [.dropped "v" .purge, .dropped "w" .soft]
  obtain ⟨set, ok⟩ := made_iff.mpr acceptable
  exact ⟨rfl, rejected rfl, rfl, rejected rfl, set, ok, (held set ok).1, (held set ok).2.2⟩

end CatalogMigration.FixtureSet
