import CatalogMigration.Config.Settings
import CatalogMigration.Proofs.Settings.Table
import CatalogMigration.Proofs.Text.Characters
import CatalogMigration.Proofs.Text.Parts
import Mathlib.Data.List.Nodup

namespace CatalogMigration

open Numeral Text

namespace Named

variable {α : Type} {es : List (String × α)} {p : String → Bool} {name : String}

theorem insert_front (above : ∀ e ∈ es, name < e.1) (value : α) :
    insert es name value = (name, value) :: es := by
  cases es with
  | nil => rfl
  | cons first rest =>
    have greater := above first List.mem_cons_self
    rw [insert, if_neg (not_lt_of_gt greater), if_neg greater.ne']

theorem filter_insert (ascending : Ascending es) (value : α) :
    (insert es name value).filter (p ·.1) =
      if p name then insert (es.filter (p ·.1)) name value else es.filter (p ·.1) := by
  induction es with
  | nil => cases kept : p name <;> simp [insert, kept]
  | cons first rest ih =>
    obtain ⟨below, others⟩ := List.pairwise_cons.mp ascending
    rw [insert]
    by_cases less : first.1 < name
    · rw [if_pos less, List.filter_cons, ih others]
      cases keptFirst : p first.1 <;> cases kept : p name <;> simp [insert, keptFirst, less]
    · by_cases same : first.1 = name
      · cases kept : p name <;> simp [insert, kept, same]
      · have greater : name < first.1 := lt_of_le_of_ne (not_lt.mp less) (Ne.symm same)
        have above : ∀ e ∈ (first :: rest).filter (p ·.1), name < e.1 := by
          intro e member
          rcases List.mem_cons.mp (List.mem_of_mem_filter member) with rfl | later
          · exact greater
          · exact greater.trans (below e later)
        rw [if_neg less, if_neg same, insert_front above, List.filter_cons]

theorem filter_ofList (entries : List (String × α)) :
    (ofList entries).filter (p ·.1) = ofList (entries.filter (p ·.1)) := by
  suffices each : ∀ es : List (String × α), Ascending es →
      (entries.foldl (fun es e => insert es e.1 e.2) es).filter (p ·.1) =
        (entries.filter (p ·.1)).foldl (fun es e => insert es e.1 e.2) (es.filter (p ·.1)) from
    each [] .nil
  induction entries with
  | nil => exact fun es _ => rfl
  | cons e entries ih =>
    intro es ascending
    rw [List.foldl_cons, ih _ (ascending.insert e.1 e.2), filter_insert ascending, List.filter_cons]
    cases p e.1 <;> rfl

theorem mem_names_insert (es : List (String × α)) (name : String) (value : α) (other : String) :
    other ∈ (insert es name value).map (·.1) ↔ other = name ∨ other ∈ es.map (·.1) := by
  induction es with
  | nil => simp [insert]
  | cons first rest ih =>
    rw [insert]
    split
    · rw [List.map_cons, List.mem_cons, ih, List.map_cons, List.mem_cons, or_left_comm]
    · split
      · next same => simp [same]
      · rw [List.map_cons, List.mem_cons]

theorem mem_names_ofList (entries : List (String × α)) (name : String) :
    name ∈ (ofList entries).map (·.1) ↔ name ∈ entries.map (·.1) := by
  suffices each : ∀ es : List (String × α),
      name ∈ (entries.foldl (fun es e => insert es e.1 e.2) es).map (·.1) ↔
        name ∈ es.map (·.1) ∨ name ∈ entries.map (·.1) from
    (each []).trans (or_iff_right List.not_mem_nil)
  induction entries with
  | nil => simp
  | cons e entries ih =>
    intro es
    rw [List.foldl_cons, ih, mem_names_insert, List.map_cons, List.mem_cons, or_assoc, or_left_comm]

end Named

namespace Settings

theorem set_unknown {name : String} (unknown : name ∉ names) (s : Settings) (v : SettingValue) :
    s.set name v = .ok s := by
  unfold set
  split
  case h_14 => rfl
  all_goals exact absurd (by decide) unknown

theorem taking_known (s : Settings) (table : SettingTable) :
    taking s (table.filter fun e => decide (e.1 ∈ names)) = taking s table := by
  induction table generalizing s with
  | nil => rfl
  | cons e rest ih =>
    obtain ⟨name, v⟩ := e
    by_cases known : name ∈ names
    · rw [List.filter_cons_of_pos (by simpa using known), taking_cons, taking_cons]
      cases s.set name v with
      | error fault => rfl
      | ok s => exact ih s
    · rw [List.filter_cons_of_neg (by simpa using known), taking_cons, set_unknown known, ih]

end Settings

namespace Environment

def parts? (name : String) : Option (List String) :=
  let cs := trimmed name.toList
  if (cs.take variablePrefix.length).map lowered = variablePrefix.map lowered then
    let key := (trimmed (pointed (cs.drop variablePrefix.length))).map lowered
    some ((splitOn '.' key).map String.ofList)
  else none

theorem path?_eq_some_iff {name : String} {parts : List String} :
    path? name = some parts ↔ parts? name = some parts ∧ "" ∉ parts := by
  unfold path? parts?
  dsimp only
  split
  · generalize splitOn '.' _ = pieces
    have empty : pieces.any List.isEmpty = true ↔ "" ∈ pieces.map String.ofList := by simp
    rw [Option.some.injEq]
    by_cases some_empty : pieces.any List.isEmpty = true
    · rw [if_pos some_empty]
      refine ⟨nofun, ?_⟩
      rintro ⟨rfl, filled⟩
      exact absurd (empty.mp some_empty) filled
    · rw [if_neg some_empty, Option.some.injEq]
      refine ⟨?_, And.left⟩
      rintro rfl
      exact ⟨rfl, fun member => some_empty (empty.mpr member)⟩
  · simp

/-- A variable of the workload whose name starts with a part that no setting has. -/
def IsUnknown (name : String) : Prop :=
  ∃ first rest, parts? name = some (first :: rest) ∧ (first = "" ∨ first ∉ Settings.names)

/-- The second environment is the first one and unknown variables, wherever they stand. -/
inductive Extended : Environment → Environment → Prop
  | nil : Extended [] []
  | kept {env env' : Environment} (e : String × String) (others : Extended env env') :
    Extended (e :: env) (e :: env')
  | inserted {env env' : Environment} {e : String × String} (unknown : IsUnknown e.1)
    (others : Extended env env') : Extended env (e :: env')

variable {env env' : Environment} {name first : String} {rest : List String}

theorem path?_of_setting? {v : String} {e : String × SettingValue}
    (read : setting? name v = some e) : ∃ rest, path? name = some (e.1 :: rest) := by
  unfold setting? at read
  split at read
  · next path =>
    cases read
    exact ⟨[], path⟩
  · next path =>
    cases read
    exact ⟨_, path⟩
  · cases read

theorem setting?_of_path? (path : path? name = some (first :: rest)) (v : String) :
    ∃ w, setting? name v = some (first, w) := by
  rw [setting?, path]
  cases rest with
  | nil => exact ⟨_, rfl⟩
  | cons next rest => exact ⟨_, rfl⟩

theorem IsUnknown.not_known (unknown : IsUnknown name) {v : String} {e : String × SettingValue}
    (read : setting? name v = some e) : e.1 ∉ Settings.names := by
  obtain ⟨first, rest, parts, unnamed⟩ := unknown
  obtain ⟨others, path⟩ := path?_of_setting? read
  obtain ⟨same, filled⟩ := path?_eq_some_iff.mp path
  obtain ⟨rfl, -⟩ := List.cons.inj (Option.some.inj (parts.symm.trans same))
  rcases unnamed with empty | unnamed
  · exact absurd (empty ▸ List.mem_cons_self) filled
  · exact unnamed

theorem Extended.read (extended : Extended env env') :
    (env'.filterMap fun e => setting? e.1 e.2).filter (fun e => decide (e.1 ∈ Settings.names)) =
      (env.filterMap fun e => setting? e.1 e.2).filter fun e => decide (e.1 ∈ Settings.names) := by
  induction extended with
  | nil => rfl
  | kept e _ ih =>
    rw [List.filterMap_cons, List.filterMap_cons]
    cases setting? e.1 e.2 with
    | none => exact ih
    | some read => rw [List.filter_cons, List.filter_cons, ih]
  | @inserted env env' e unknown _ ih =>
    rw [List.filterMap_cons]
    cases read : setting? e.1 e.2 with
    | none => exact ih
    | some setting => rw [List.filter_cons_of_neg (by simpa using unknown.not_known read), ih]

theorem Extended.ofTable (extended : Extended env env') :
    Settings.ofTable env'.settings = Settings.ofTable env.settings := by
  have known : env'.settings.filter (fun e => decide (e.1 ∈ Settings.names)) =
      env.settings.filter fun e => decide (e.1 ∈ Settings.names) := by
    rw [settings, settings, Named.filter_ofList (p := fun name => decide (name ∈ Settings.names)),
      Named.filter_ofList (p := fun name => decide (name ∈ Settings.names)), extended.read]
  have taken := Settings.taking_known {} env.settings
  rw [← known, Settings.taking_known] at taken
  exact taken

theorem mem_names_settings (env : Environment) (name : String) :
    name ∈ env.settings.map (·.1) ↔ ∃ e ∈ env, ∃ rest, path? e.1 = some (name :: rest) := by
  rw [settings, Named.mem_names_ofList, List.mem_map]
  constructor
  · rintro ⟨setting, member, rfl⟩
    obtain ⟨e, inside, read⟩ := List.mem_filterMap.mp member
    exact ⟨e, inside, path?_of_setting? read⟩
  · rintro ⟨e, inside, rest, path⟩
    obtain ⟨v, read⟩ := setting?_of_path? path e.2
    exact ⟨(name, v), List.mem_filterMap.mpr ⟨e, inside, read⟩, rfl⟩

end Environment

section Letters

theorem lowered_of_not_ascii {c : Char} (beyond : ¬ c.toNat < 128) : lowered c = c := by
  have greater : ¬ c ≤ 'Z' := by
    intro less
    have bound : c.toNat ≤ 90 := less
    omega
  simp [lowered, greater]

theorem raised_of_not_ascii {c : Char} (beyond : ¬ c.toNat < 128) : Environment.raised c = c := by
  have greater : ¬ c ≤ 'z' := by
    intro less
    have bound : c.toNat ≤ 122 := less
    omega
  simp [Environment.raised, greater]

theorem lowered_lowered (c : Char) : lowered (lowered c) = lowered c := by
  by_cases ascii : c.toNat < 128
  · refine forall_ascii ascii ?_
    decide +kernel
  · rw [lowered_of_not_ascii ascii, lowered_of_not_ascii ascii]

theorem lowered_raised {c : Char} (lower : lowered c = c) : lowered (Environment.raised c) = c := by
  by_cases ascii : c.toNat < 128
  · revert lower
    refine forall_ascii ascii ?_
    decide +kernel
  · rw [raised_of_not_ascii ascii, lower]

end Letters

namespace Environment

def Lower (name : String) : Prop := ∀ c ∈ name.toList, lowered c = c

instance (name : String) : Decidable (Lower name) := List.decidableBAll _ name.toList

theorem nameOf_inj_of_lower {name other : String} (lower : Lower name) (other_lower : Lower other)
    (same : nameOf name = nameOf other) : name = other := by
  have back {name : String} (lower : Lower name) :
      (name.toList.map raised).map lowered = name.toList := by
    rw [List.map_map]
    have each : ∀ c ∈ name.toList, (lowered ∘ raised) c = id c :=
      fun c member => lowered_raised (lower c member)
    rw [List.map_congr_left each, List.map_id]
  have raised_same : name.toList.map raised = other.toList.map raised := by
    have chars := congrArg String.toList same
    rw [nameOf, nameOf, String.toList_ofList, String.toList_ofList] at chars
    exact List.append_cancel_left chars
  apply String.toList_injective
  rw [← back lower, raised_same, back other_lower]

theorem lower_of_parts? {name : String} {parts : List String} (read : parts? name = some parts) :
    ∀ part ∈ parts, Lower part := by
  unfold parts? at read
  dsimp only at read
  split at read
  · rw [← Option.some.inj read]
    intro part member c inside
    obtain ⟨piece, split, rfl⟩ := List.mem_map.mp member
    rw [String.toList_ofList] at inside
    obtain ⟨d, -, rfl⟩ := List.mem_map.mp (mem_of_mem_splitOn split inside).1
    exact lowered_lowered d
  · cases read

theorem lower_of_known {name : String} (known : name ∈ Settings.names) : Lower name := by
  have each : ∀ name ∈ Settings.names, Lower name := by decide +kernel
  exact each name known

end Environment

namespace Settings

def Mentions (name : String) (w : Event) : Prop :=
  ("variable", LogValue.rendered (Environment.nameOf name)) ∈ w.fields

instance (name : String) (w : Event) : Decidable (Mentions name w) :=
  inferInstanceAs (Decidable (_ ∈ w.fields))

/-- The warning that the variable of a setting is ignored. -/
def Warns (name : String) (w : Event) : Prop :=
  w = ⟨.warn, "migration_tests::config", "ignoring unknown setting",
    [("variable", .rendered (Environment.nameOf name))]⟩

instance (name : String) (w : Event) : Decidable (Warns name w) :=
  inferInstanceAs (Decidable (w = _))

theorem mentions_ignored {name other : String} :
    Mentions name (ignored other) ↔ Environment.nameOf name = Environment.nameOf other := by
  simp [Mentions, ignored]

theorem warns_ignored {name other : String} :
    Warns name (ignored other) ↔ Environment.nameOf name = Environment.nameOf other := by
  simp [Warns, ignored, eq_comm]

theorem nodup_unknownNames {table : SettingTable} (ascending : Named.Ascending table) :
    (unknownNames table).Nodup := by
  have distinct : (table.map (·.1)).Nodup := by
    rw [List.nodup_iff_pairwise_ne, List.pairwise_map]
    exact ascending.imp ne_of_lt
  exact distinct.filter _

theorem mem_unknownNames_iff {env : Environment} {name : String} :
    name ∈ unknownNames env.settings ↔
      (∃ e ∈ env, ∃ rest, Environment.path? e.1 = some (name :: rest)) ∧ name ∉ names := by
  rw [unknownNames, List.mem_filter, Environment.mem_names_settings]
  simp

theorem lower_of_unknownNames {env : Environment} {name : String}
    (member : name ∈ unknownNames env.settings) : Environment.Lower name := by
  obtain ⟨⟨e, -, rest, path⟩, -⟩ := mem_unknownNames_iff.mp member
  have parts := (Environment.path?_eq_some_iff.mp path).1
  exact Environment.lower_of_parts? parts name List.mem_cons_self

theorem countP_ignored {env : Environment} {name : String} (lower : Environment.Lower name)
    {tells : Event → Bool} (by_name : ∀ other,
      tells (ignored other) = true ↔ Environment.nameOf name = Environment.nameOf other) :
    ((unknownNames env.settings).map ignored).countP tells =
      (unknownNames env.settings).count name := by
  rw [List.countP_map, List.count]
  refine List.countP_congr fun other member => ?_
  rw [Function.comp_apply, by_name, beq_iff_eq]
  refine ⟨fun same => ?_, fun same => congrArg _ same.symm⟩
  exact (Environment.nameOf_inj_of_lower lower (lower_of_unknownNames member) same).symm

theorem countP_mentions {env : Environment} {name : String} (lower : Environment.Lower name) :
    ((unknownNames env.settings).map ignored).countP (Mentions name) =
      (unknownNames env.settings).count name :=
  countP_ignored lower fun other => by rw [decide_eq_true_eq, mentions_ignored]

theorem countP_warns {env : Environment} {name : String} (lower : Environment.Lower name) :
    ((unknownNames env.settings).map ignored).countP (Warns name) =
      (unknownNames env.settings).count name :=
  countP_ignored lower fun other => by rw [decide_eq_true_eq, warns_ignored]

end Settings

namespace WorkloadConfig

open Settings Environment

theorem ofTable_of_taken {table table' : SettingTable}
    (same : Settings.ofTable table = Settings.ofTable table') (url : String) :
    (ofTable url table).1 = (ofTable url table').1 := by
  rw [ofTable, ofTable, same]
  cases Settings.ofTable table' <;> rfl

theorem warnings_of_taken {env : Environment} {s : Settings}
    (taken : Settings.ofTable env.settings = .ok s) (url : String) :
    (ofEnvironment url env).2 = (unknownNames env.settings).map ignored := by
  rw [ofEnvironment, ofTable, taken]

/-- Unknown variables make no difference to a configuration or to the failure there is instead.
Where the settings are read, all that is told are warnings: one for each unknown name, which is told
of nowhere else, and none that is about a known one. -/
theorem unknown_variables_inert (url : String) :
    (∀ env env', Extended env env' → (ofEnvironment url env').1 = (ofEnvironment url env).1) ∧
    ∀ (env : Environment) (s : Settings), Settings.ofTable env.settings = .ok s →
      (∀ w ∈ (ofEnvironment url env).2, ∃ name ∉ names, Warns name w) ∧
      (∀ e ∈ env, ∀ first rest, parts? e.1 = some (first :: rest) → "" ∉ first :: rest →
        first ∉ names → (ofEnvironment url env).2.countP (Warns first) = 1 ∧
          (ofEnvironment url env).2.countP (Mentions first) = 1) ∧
      ∀ name ∈ names, (ofEnvironment url env).2.countP (Mentions name) = 0 := by
  refine ⟨fun env env' extended => ofTable_of_taken extended.ofTable url, fun env s taken => ?_⟩
  rw [warnings_of_taken taken]
  refine ⟨?_, ?_, ?_⟩
  · intro w told
    obtain ⟨name, unknown, rfl⟩ := List.mem_map.mp told
    exact ⟨name, (mem_unknownNames_iff.mp unknown).2, warns_ignored.mpr rfl⟩
  · intro e member first rest parts filled unknown
    have lower := lower_of_parts? parts first List.mem_cons_self
    have warned : first ∈ unknownNames env.settings :=
      mem_unknownNames_iff.mpr ⟨⟨e, member, rest, path?_eq_some_iff.mpr ⟨parts, filled⟩⟩, unknown⟩
    rw [countP_warns lower, countP_mentions lower, and_self_iff]
    exact List.count_eq_one_of_mem (nodup_unknownNames (Named.ascending_ofList _)) warned
  · intro name known
    rw [countP_mentions (lower_of_known known)]
    refine List.count_eq_zero.mpr fun member => ?_
    exact (mem_unknownNames_iff.mp member).2 known

/-- Malformed values, empty parts and other spellings of unknown names around a token. -/
theorem unknown_around_token :
    let url := "http://localhost:8181/catalog"
    let env : Environment := [("MIGRATION_TEST__TOKEN", "abc"), ("MIGRATION_TEST__SPEED", "1")]
    let env' : Environment := [("migration_test__Limits.Upper", "\x7b"),
      ("MIGRATION_TEST__TOKEN", "abc"), ("MIGRATION_TEST____TOKEN", "true"),
      ("MIGRATION_TEST__SPEED", "1"), ("Migration_Test__ speed__B", "[")]
    Extended env env' ∧ (∃ s, Settings.ofTable env'.settings = .ok s ∧ s.token = some "abc") ∧
    (ofEnvironment url env').1 = (ofEnvironment url env).1 ∧
    (ofEnvironment url env').2.countP (Warns "speed") = 1 ∧
    (ofEnvironment url env').2.countP (Warns "limits") = 1 ∧
    (ofEnvironment url env').2.countP (Mentions "token") = 0 := by
  intro url env env'
  obtain ⟨inert, warned⟩ := unknown_variables_inert url
  have limits : parts? "migration_test__Limits.Upper" = some ["limits", "upper"] := by
    decide +kernel
  have empty : parts? "MIGRATION_TEST____TOKEN" = some ["", "token"] := by decide +kernel
  have speed : parts? "MIGRATION_TEST__SPEED" = some ["speed"] := by decide +kernel
  have spaced : parts? "Migration_Test__ speed__B" = some ["speed", "b"] := by decide +kernel
  have extended : Extended env env' :=
    .inserted ⟨_, _, limits, .inr (by decide)⟩ (.kept _ (.inserted ⟨_, _, empty, .inl rfl⟩
      (.kept _ (.inserted ⟨_, _, spaced, .inr (by decide)⟩ .nil))))
  have taken : Settings.ofTable env'.settings = .ok { token := some "abc" } := by decide +kernel
  obtain ⟨-, once, never⟩ := warned env' _ taken
  have warnSpeed := once ("MIGRATION_TEST__SPEED", "1") (by simp [env']) _ _ speed
    (by decide) (by decide)
  have warnLimits := once ("migration_test__Limits.Upper", "\x7b") (by simp [env']) _ _ limits
    (by decide) (by decide)
  exact ⟨extended, ⟨_, taken, rfl⟩, inert env env' extended, warnSpeed.1, warnLimits.1,
    never "token" (by decide)⟩

end WorkloadConfig

end CatalogMigration
