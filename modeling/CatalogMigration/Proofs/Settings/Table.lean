import CatalogMigration.Settings.Basic
import Mathlib.Data.List.Forall2
import Mathlib.Data.String.Basic

namespace CatalogMigration

namespace Named

variable {α β : Type} {es : List (String × α)}

def Ascending (entries : List (String × α)) : Prop := entries.Pairwise (·.1 < ·.1)

theorem mem_of_mem_insert {e : String × α} {name : String} {value : α}
    (member : e ∈ insert es name value) : e = (name, value) ∨ e ∈ es := by
  induction es with
  | nil => exact .inl (List.mem_singleton.mp member)
  | cons first rest ih =>
    rw [insert] at member
    split at member
    · rcases List.mem_cons.mp member with rfl | later
      · exact .inr List.mem_cons_self
      · exact (ih later).imp_right (List.mem_cons_of_mem _)
    · split at member
      · exact (List.mem_cons.mp member).imp_right (List.mem_cons_of_mem _)
      · exact List.mem_cons.mp member

theorem mem_of_mem_ofList {entries : List (String × α)} {e : String × α}
    (member : e ∈ ofList entries) : e ∈ entries := by
  suffices each : ∀ es : List (String × α),
      e ∈ entries.foldl (fun es e => insert es e.1 e.2) es → e ∈ es ∨ e ∈ entries from
    (each [] member).resolve_left List.not_mem_nil
  clear member
  induction entries with
  | nil => exact fun es member => .inl member
  | cons first rest ih =>
    intro es member
    rcases ih _ member with member | member
    · rcases mem_of_mem_insert member with rfl | member
      · exact .inr List.mem_cons_self
      · exact .inl member
    · exact .inr (List.mem_cons_of_mem _ member)

theorem Ascending.insert (ascending : Ascending es) (name : String) (value : α) :
    Ascending (insert es name value) := by
  induction es with
  | nil => exact List.pairwise_singleton _ _
  | cons first rest ih =>
    obtain ⟨below, others⟩ := List.pairwise_cons.mp ascending
    rw [Named.insert]
    split
    · next less =>
      refine List.pairwise_cons.mpr ⟨fun e member => ?_, ih others⟩
      rcases mem_of_mem_insert member with rfl | member
      · exact less
      · exact below e member
    · next notLess =>
      split
      · next same => exact List.pairwise_cons.mpr ⟨fun e member => same ▸ below e member, others⟩
      · next other =>
        have greater : name < first.1 := lt_of_le_of_ne (not_lt.mp notLess) (Ne.symm other)
        refine List.pairwise_cons.mpr ⟨fun e member => ?_, ascending⟩
        rcases List.mem_cons.mp member with rfl | member
        · exact greater
        · exact greater.trans (below e member)

theorem ascending_ofList (entries : List (String × α)) : Ascending (ofList entries) := by
  suffices each : ∀ es : List (String × α), Ascending es →
      Ascending (entries.foldl (fun es e => Named.insert es e.1 e.2) es) from each [] .nil
  induction entries with
  | nil => exact fun es ascending => ascending
  | cons e entries ih => exact fun es ascending => ih _ (ascending.insert e.1 e.2)

theorem Ascending.value_unique (ascending : Ascending es) {name : String} {a b : α}
    (first : (name, a) ∈ es) (second : (name, b) ∈ es) : a = b := by
  induction es with
  | nil => cases first
  | cons e rest ih =>
    obtain ⟨below, others⟩ := List.pairwise_cons.mp ascending
    rcases List.mem_cons.mp first with rfl | early
    · rcases List.mem_cons.mp second with same | late
      · exact (congrArg Prod.snd same).symm
      · exact absurd rfl (below _ late).ne
    · rcases List.mem_cons.mp second with rfl | late
      · exact absurd rfl (below _ early).ne
      · exact ih others early late

theorem Ascending.get?_eq_some (ascending : Ascending es) {name : String} {a : α}
    (member : (name, a) ∈ es) : get? es name = some a := by
  rw [get?]
  cases found : es.find? (·.1 = name) with
  | none => simpa using List.find?_eq_none.mp found _ member
  | some e =>
    have same : e.1 = name := by simpa using List.find?_some found
    have here : (name, e.2) ∈ es := same ▸ List.mem_of_find?_eq_some found
    rw [Option.map_some, ascending.value_unique member here]

theorem mem_insert_self (name : String) (value : α) : (name, value) ∈ insert es name value := by
  induction es with
  | nil => exact List.mem_singleton_self _
  | cons first rest ih =>
    rw [insert]
    split
    · exact List.mem_cons_of_mem _ ih
    · split <;> exact List.mem_cons_self

theorem mem_insert_of_ne {e : String × α} (member : e ∈ es) {name : String} (other : name ≠ e.1)
    (value : α) : e ∈ insert es name value := by
  induction es with
  | nil => cases member
  | cons first rest ih =>
    rw [insert]
    split
    · exact (List.mem_cons.mp member).elim (fun same => same ▸ List.mem_cons_self)
        fun later => List.mem_cons_of_mem _ (ih later)
    · split
      · next same =>
        rcases List.mem_cons.mp member with rfl | later
        · exact absurd same.symm other
        · exact List.mem_cons_of_mem _ later
      · exact List.mem_cons_of_mem _ member

theorem get?_ofList_append {front entries : List (String × α)} {e : String × α}
    (others : ∀ d ∈ entries, d.1 ≠ e.1) : get? (ofList (front ++ e :: entries)) e.1 = some e.2 := by
  suffices stays : ∀ es, e ∈ es → e ∈ entries.foldl (fun es d => insert es d.1 d.2) es by
    apply (ascending_ofList _).get?_eq_some
    rw [ofList, List.foldl_append, List.foldl_cons]
    exact stays _ (mem_insert_self e.1 e.2)
  induction entries with
  | nil => exact fun es member => member
  | cons d entries ih =>
    obtain ⟨here, later⟩ := List.forall_mem_cons.mp others
    exact fun es member => ih later _ (mem_insert_of_ne member here d.2)

theorem get?_ofList_cons {e : String × α} {entries : List (String × α)}
    (others : ∀ d ∈ entries, d.1 ≠ e.1) : get? (ofList (e :: entries)) e.1 = some e.2 :=
  @get?_ofList_append _ [] entries e others

variable {R : String → α → β → Prop}

def Entrywise (R : String → α → β → Prop) : List (String × α) → List (String × β) → Prop :=
  List.Forall₂ fun e e' => e.1 = e'.1 ∧ R e.1 e.2 e'.2

theorem Entrywise.insert {es' : List (String × β)} (related : Entrywise R es es') {name : String}
    {a : α} {b : β} (here : R name a b) :
    Entrywise R (insert es name a) (insert es' name b) := by
  induction related with
  | nil => exact .cons ⟨rfl, here⟩ .nil
  | @cons e e' rest rest' first others ih =>
    obtain ⟨key, value⟩ := e
    obtain ⟨key', value'⟩ := e'
    obtain ⟨rfl, related⟩ := first
    simp only [Named.insert]
    split
    · exact .cons ⟨rfl, related⟩ ih
    · split
      · exact .cons ⟨rfl, here⟩ others
      · exact .cons ⟨rfl, here⟩ (.cons ⟨rfl, related⟩ others)

theorem Entrywise.ofList {entries : List (String × α)} {entries' : List (String × β)}
    (related : Entrywise R entries entries') : Entrywise R (ofList entries) (ofList entries') := by
  suffices each : ∀ es es', Entrywise R es es' →
      Entrywise R (entries.foldl (fun es e => Named.insert es e.1 e.2) es)
        (entries'.foldl (fun es e => Named.insert es e.1 e.2) es') from each [] [] .nil
  induction related with
  | nil => exact fun es es' related => related
  | @cons e e' rest rest' first _ ih =>
    obtain ⟨key, value⟩ := e
    obtain ⟨key', value'⟩ := e'
    obtain ⟨rfl, here⟩ := first
    exact fun es es' related => ih _ _ (related.insert here)

theorem Entrywise.right {es' : List (String × β)} (related : Entrywise R es es') {name : String}
    {a : α} (member : (name, a) ∈ es) : ∃ b, (name, b) ∈ es' ∧ R name a b := by
  induction related with
  | nil => cases member
  | @cons e e' rest rest' first others ih =>
    rcases List.mem_cons.mp member with rfl | later
    · obtain ⟨rfl, related⟩ := first
      exact ⟨e'.2, List.mem_cons_self, related⟩
    · obtain ⟨b, here, related⟩ := ih later
      exact ⟨b, List.mem_cons_of_mem _ here, related⟩

end Named

namespace Settings

/-- Why a value cannot be a setting's, if it cannot. What was set before does not matter. -/
def fault? (name : String) (v : SettingValue) : Option SettingFault :=
  match ({} : Settings).set name v with
  | .error fault => some fault
  | .ok _ => none

theorem map_error_iff {α : Type} (x : Except SettingFault α) (f g : α → Settings)
    (fault : SettingFault) : x.map f = .error fault ↔
      (match x.map g with
        | .error fault => some fault
        | .ok _ => none) = some fault := by
  cases x <;> simp [Except.map]

theorem set_error_iff (s : Settings) (name : String) (v : SettingValue) (fault : SettingFault) :
    s.set name v = .error fault ↔ fault? name v = some fault := by
  unfold fault? set
  split
  case h_14 => simp
  all_goals exact map_error_iff _ _ _ fault

theorem known_of_fault? {name : String} {v : SettingValue} {fault : SettingFault}
    (faulty : fault? name v = some fault) : name ∈ names := by
  unfold fault? set at faulty
  split at faulty
  · next failed =>
    split at failed
    case h_14 => cases failed
    all_goals decide
  · cases faulty

def taking (s : Settings) (table : SettingTable) : Except (String × SettingFault) Settings :=
  table.foldlM (fun s (name, v) => (s.set name v).mapError (name, ·)) s

theorem taking_cons (s : Settings) (name : String) (v : SettingValue) (rest : SettingTable) :
    taking s ((name, v) :: rest) = match s.set name v with
      | .error fault => .error (name, fault)
      | .ok s => taking s rest := by
  rw [taking, List.foldlM_cons]
  dsimp only
  cases s.set name v <;> rfl

@[simp]
theorem taking_nil (s : Settings) : taking s [] = .ok s := rfl

theorem ofTable_cons (name : String) (v : SettingValue) (rest : SettingTable) :
    ofTable ((name, v) :: rest) = match ({} : Settings).set name v with
      | .error fault => .error (name, fault)
      | .ok s => taking s rest :=
  taking_cons {} name v rest

theorem fault_of_taking {s : Settings} {table : SettingTable} {name : String}
    {fault : SettingFault} (failed : taking s table = .error (name, fault)) :
    ∃ v, (name, v) ∈ table ∧ fault? name v = some fault := by
  induction table generalizing s with
  | nil => cases failed
  | cons e rest ih =>
    obtain ⟨key, value⟩ := e
    rw [taking_cons] at failed
    cases set : s.set key value with
    | error f =>
      rw [set] at failed
      cases failed
      exact ⟨value, List.mem_cons_self, (set_error_iff s name value fault).mp set⟩
    | ok s' =>
      rw [set] at failed
      obtain ⟨v, member, faulty⟩ := ih failed
      exact ⟨v, List.mem_cons_of_mem _ member, faulty⟩

def Faultless (table : SettingTable) : Prop := ∀ e ∈ table, fault? e.1 e.2 = none

theorem faultless_of_taking {s s' : Settings} {table : SettingTable}
    (taken : taking s table = .ok s') : Faultless table := by
  induction table generalizing s with
  | nil => exact fun e member => nomatch member
  | cons e rest ih =>
    obtain ⟨name, v⟩ := e
    rw [taking_cons] at taken
    cases set : s.set name v with
    | error f =>
      rw [set] at taken
      cases taken
    | ok next =>
      rw [set] at taken
      refine List.forall_mem_cons.mpr ⟨?_, ih taken⟩
      refine Option.eq_none_iff_forall_ne_some.mpr fun fault faulty => ?_
      rw [(set_error_iff s name v fault).mpr faulty] at set
      cases set

theorem unknownNames_eq_nil {table : SettingTable} (known : ∀ e ∈ table, e.1 ∈ names) :
    unknownNames table = [] := by
  refine List.filter_eq_nil_iff.mpr fun name member => ?_
  obtain ⟨e, here, rfl⟩ := List.mem_map.mp member
  simp [known e here]

end Settings

end CatalogMigration
