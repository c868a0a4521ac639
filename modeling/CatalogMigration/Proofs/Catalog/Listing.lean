import CatalogMigration.Proofs.Catalog.Transition
import Mathlib.Data.List.Nodup
import Mathlib.Data.String.Basic

namespace CatalogMigration

namespace Assoc

variable {κ ν : Type} [DecidableEq κ] {m : Assoc κ ν} {k : κ}

def Distinct (m : Assoc κ ν) : Prop := (m.entries.map (·.1)).Nodup

omit [DecidableEq κ] in
theorem distinct_empty : (empty : Assoc κ ν).Distinct := List.nodup_nil

theorem Distinct.erase (distinct : m.Distinct) (k : κ) : (m.erase k).Distinct :=
  List.Nodup.sublist (List.Sublist.map _ List.filter_sublist) distinct

theorem Distinct.insert (distinct : m.Distinct) (k : κ) (v : ν) : (m.insert k v).Distinct := by
  refine List.nodup_cons.mpr ⟨?_, distinct.erase k⟩
  simp [Assoc.erase]

theorem mem_of_get? {v : ν} (found : m.get? k = some v) : (k, v) ∈ m.entries := by
  obtain ⟨e, first, rfl⟩ := Option.map_eq_some_iff.mp found
  have here : e.1 = k := by simpa using List.find?_some first
  rw [← here]
  exact List.mem_of_find?_eq_some first

theorem Distinct.get?_of_mem (distinct : m.Distinct) {v : ν} (member : (k, v) ∈ m.entries) :
    m.get? k = some v := by
  have listed : (m.entries.find? (·.1 = k)).isSome :=
    List.find?_isSome.mpr ⟨_, member, by simp⟩
  obtain ⟨e, first⟩ := Option.isSome_iff_exists.mp listed
  have here : e.1 = k := by simpa using List.find?_some first
  have same : e = (k, v) :=
    List.inj_on_of_nodup_map distinct (List.mem_of_find?_eq_some first) member here
  rw [get?, first, same]
  rfl

theorem Distinct.mem_iff (distinct : m.Distinct) {v : ν} :
    (k, v) ∈ m.entries ↔ m.get? k = some v :=
  ⟨distinct.get?_of_mem, mem_of_get?⟩

end Assoc

namespace Named

theorem notAfter_iff (a b : String) : (!decide (b < a)) = true ↔ a ≤ b := by
  rw [Bool.not_eq_true', decide_eq_false_iff_not, not_lt]

theorem sorted_pairwise (names : List String) : (sorted names).Pairwise (· ≤ ·) := by
  have pairwise := @List.pairwise_mergeSort _ (fun a b : String => !decide (b < a))
    (fun a b c => by simpa only [notAfter_iff] using le_trans)
    (fun a b => by rw [Bool.or_eq_true, notAfter_iff, notAfter_iff]; exact le_total a b) names
  simpa only [sorted, notAfter_iff] using pairwise

end Named

def Assoc.listed {ν : Type} (m : Assoc TableKey ν) (space : String) (p : ν → Bool) : List String :=
  Named.sorted ((m.entries.filter fun e => e.1.space = space && p e.2).map (·.1.table))

namespace Assoc.Distinct

variable {ν : Type} {m m' : Assoc TableKey ν} {space name : String} {p p' : ν → Bool}

theorem mem_listed (distinct : m.Distinct) :
    name ∈ m.listed space p ↔ ∃ v, m.get? ⟨space, name⟩ = some v ∧ p v = true := by
  rw [listed, Named.sorted, List.mem_mergeSort, List.mem_map]
  constructor
  · rintro ⟨⟨⟨space', name'⟩, v⟩, member, rfl⟩
    rw [List.mem_filter, Bool.and_eq_true, decide_eq_true_iff] at member
    obtain ⟨member, rfl, holds⟩ := member
    exact ⟨v, distinct.get?_of_mem member, holds⟩
  · rintro ⟨v, found, holds⟩
    exact ⟨_, List.mem_filter.mpr ⟨mem_of_get? found, by simp [holds]⟩, rfl⟩

theorem listed_nodup (distinct : m.Distinct) (space : String) (p : ν → Bool) :
    (m.listed space p).Nodup := by
  have keys : ((m.entries.filter fun e => e.1.space = space && p e.2).map (·.1)).Nodup :=
    List.Nodup.sublist (List.filter_sublist.map _) distinct
  refine (List.mergeSort_perm ..).nodup_iff.mpr (List.Nodup.of_map (TableKey.mk space) ?_)
  have whole : ∀ e ∈ m.entries.filter fun e => e.1.space = space && p e.2,
      TableKey.mk space e.1.table = e.1 := by
    intro e member
    rw [List.mem_filter, Bool.and_eq_true, decide_eq_true_iff] at member
    rw [← member.2.1]
  rwa [List.map_map, List.map_congr_left (g := (·.1)) whole]

theorem listed_congr (distinct : m.Distinct) (distinct' : m'.Distinct)
    (same : ∀ name, (∃ v, m.get? ⟨space, name⟩ = some v ∧ p v = true) ↔
      ∃ v, m'.get? ⟨space, name⟩ = some v ∧ p' v = true) :
    m.listed space p = m'.listed space p' := by
  refine List.Perm.eq_of_pairwise (fun x y _ _ => le_antisymm) (Named.sorted_pairwise _)
    (Named.sorted_pairwise _) ?_
  refine (List.perm_ext_iff_of_nodup (distinct.listed_nodup ..) (distinct'.listed_nodup ..)).mpr ?_
  intro name
  rw [distinct.mem_listed, distinct'.mem_listed, same]

end Assoc.Distinct

namespace Catalog

variable {c d : Catalog} {now later : Span} {space name : String}

theorem liveTables_eq_listed : c.liveTables space = c.live.listed space fun _ => true := by
  simp only [liveTables, Assoc.listed, Bool.and_true]

theorem tombstonedTables_eq_listed :
    c.tombstonedTables now space = c.tombstones.listed space (c.isRetained now) := rfl

structure Keyed (c : Catalog) : Prop where
  live : c.live.Distinct
  tombstones : c.tombstones.Distinct

theorem keyed_empty (retention : Span) : (empty retention).Keyed :=
  ⟨Assoc.distinct_empty, Assoc.distinct_empty⟩

theorem Transition.keyed {o : CatalogOperation} (changed : Transition now c d o) (keyed : c.Keyed) :
    d.Keyed := by
  obtain ⟨lives, buries⟩ := keyed
  cases changed with
  | kept live tombstones => exact ⟨live ▸ lives, tombstones ▸ buries⟩
  | created _ _ live tombstones => exact ⟨live ▸ lives.insert .., tombstones ▸ buries⟩
  | rewritten _ _ live tombstones => exact ⟨live ▸ lives.insert .., tombstones ▸ buries⟩
  | buried _ live tombstones => exact ⟨live ▸ lives.erase _, tombstones ▸ buries.insert ..⟩
  | purged _ live tombstones => exact ⟨live ▸ lives.erase _, tombstones ▸ buries.erase _⟩
  | forgotten live tombstones => exact ⟨live ▸ lives, tombstones ▸ buries.erase _⟩
  | restored _ live tombstones => exact ⟨live ▸ lives.insert .., tombstones ▸ buries.erase _⟩

theorem Keyed.mem_tombstonedTables (keyed : c.Keyed) : name ∈ c.tombstonedTables now space ↔
    ∃ t, c.tombstones.get? ⟨space, name⟩ = some t ∧ c.isRetained now t = true :=
  keyed.tombstones.mem_listed

end Catalog

end CatalogMigration
