namespace CatalogMigration

structure Assoc (κ ν : Type) where
  entries : List (κ × ν)
deriving DecidableEq, Repr

namespace Assoc

variable {κ ν : Type} [DecidableEq κ]

def empty : Assoc κ ν := ⟨[]⟩

def get? (m : Assoc κ ν) (k : κ) : Option ν := (m.entries.find? (·.1 = k)).map (·.2)

def erase (m : Assoc κ ν) (k : κ) : Assoc κ ν := ⟨m.entries.filter (·.1 ≠ k)⟩

def insert (m : Assoc κ ν) (k : κ) (v : ν) : Assoc κ ν := ⟨(k, v) :: (m.erase k).entries⟩

def modify (m : Assoc κ ν) (k : κ) (f : ν → ν) : Assoc κ ν :=
  match m.get? k with
  | some v => m.insert k (f v)
  | none => m

@[simp] theorem get?_empty (k : κ) : (empty : Assoc κ ν).get? k = none := rfl

theorem get?_erase (m : Assoc κ ν) (k j : κ) :
    (m.erase k).get? j = if j = k then none else m.get? j := by
  unfold get? erase
  induction m.entries with
  | nil => simp
  | cons e es ih =>
    by_cases hk : e.1 = k
    · by_cases hj : e.1 = j
      · simp_all
      · have : j ≠ k := fun h => hj (hk.trans h.symm)
        simp_all
    · by_cases hj : e.1 = j
      · have : j ≠ k := fun h => hk (hj.trans h)
        simp_all
      · simp_all

@[simp] theorem get?_erase_self (m : Assoc κ ν) (k : κ) : (m.erase k).get? k = none := by
  simp [get?_erase]

theorem get?_insert (m : Assoc κ ν) (k j : κ) (v : ν) :
    (m.insert k v).get? j = if j = k then some v else m.get? j := by
  by_cases h : j = k
  · subst h; simp [get?, insert]
  · have h' : ¬ k = j := fun e => h e.symm
    have := get?_erase m k j
    simp only [h, if_false] at this ⊢
    rw [← this]
    simp [get?, insert, h']

@[simp] theorem get?_insert_self (m : Assoc κ ν) (k : κ) (v : ν) :
    (m.insert k v).get? k = some v := by
  simp [get?_insert]

@[simp] theorem insert_insert (m : Assoc κ ν) (k : κ) (v v' : ν) :
    (m.insert k v).insert k v' = m.insert k v' := by
  simp [insert, erase]

end Assoc

namespace Named

variable {α : Type}

def insert : List (String × α) → String → α → List (String × α)
  | [], name, value => [(name, value)]
  | e :: es, name, value =>
    if e.1 < name then e :: insert es name value
    else if e.1 = name then (name, value) :: es
    else (name, value) :: e :: es

def get? (entries : List (String × α)) (name : String) : Option α :=
  (entries.find? (·.1 = name)).map (·.2)

/-- Of repeated names the last entry stays. -/
def ofList (entries : List (String × α)) : List (String × α) :=
  entries.foldl (fun es e => insert es e.1 e.2) []

def sorted (names : List String) : List String := names.mergeSort fun a b => !(b < a)

end Named

end CatalogMigration
