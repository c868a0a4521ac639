import CatalogMigration.Settings.Basic
import Mathlib.Data.List.Basic
import Mathlib.Data.List.Permutation
import Mathlib.Data.String.Basic

namespace CatalogMigration

namespace Environment

def own (env : Environment) : Environment := env.filter fun e => (path? e.1).isSome

theorem settings_own (env : Environment) : env.own.settings = env.settings := by
  have unread : ∀ e ∈ env, (if (path? e.1).isSome then setting? e.1 e.2 else none) =
      setting? e.1 e.2 := by
    intro e _
    cases path : path? e.1 <;> simp [setting?, path]
  rw [settings, settings, own, List.filterMap_filter]
  exact congrArg Named.ofList (List.filterMap_congr unread)

theorem path?_nameOf {name : String} (known : name ∈ Settings.names) :
    path? (nameOf name) = some [name] := by
  have each : ∀ name ∈ Settings.names, path? (nameOf name) = some [name] := by decide +kernel
  exact each name known

theorem nameOf_inj {name other : String} (known : name ∈ Settings.names)
    (other_known : other ∈ Settings.names) (same : nameOf name = nameOf other) : name = other := by
  have paths := congrArg path? same
  rw [path?_nameOf known, path?_nameOf other_known] at paths
  cases paths
  rfl

theorem setting?_nameOf {name : String} (known : name ∈ Settings.names) (v : String) :
    setting? (nameOf name) v = some (name, .ofText v) := by
  rw [setting?, path?_nameOf known]

theorem settings_of_own {env : Environment} {vars : List (String × String)}
    (known : ∀ e ∈ vars, e.1 ∈ Settings.names)
    (own : env.own = vars.map fun e => (nameOf e.1, e.2)) :
    env.settings = Named.ofList (vars.map fun e => (e.1, .ofText e.2)) := by
  have read : vars.filterMap (fun e => setting? (nameOf e.1) e.2) =
      vars.map fun e => (e.1, .ofText e.2) := by
    refine List.filterMap_eq_map_iff_forall_eq_some.mpr fun e member => ?_
    exact setting?_nameOf (known e member) e.2
  rw [← settings_own, own, settings, List.filterMap_map, Function.comp_def, read]

theorem settings_of_pair {env : Environment} {first second v w : String}
    (first_known : first ∈ Settings.names) (second_known : second ∈ Settings.names)
    (ascending : first < second)
    (own : env.own.Perm [(nameOf first, v), (nameOf second, w)]) :
    env.settings = [(first, .ofText v), (second, .ofText w)] := by
  rcases List.perm_pair.mp own with own | own
  · rw [@settings_of_own env [(first, v), (second, w)] (by simp [first_known, second_known]) own]
    simp [Named.ofList, Named.insert, ascending]
  · rw [@settings_of_own env [(second, w), (first, v)] (by simp [first_known, second_known]) own]
    simp [Named.ofList, Named.insert, ascending.ne', not_lt_of_gt ascending]

end Environment

end CatalogMigration
