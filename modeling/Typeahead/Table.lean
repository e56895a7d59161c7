namespace Typeahead.Table

/-! Tables as lists of pairs. An entry that is written again keeps its place; a new one comes last. -/

variable {κ α : Type} [BEq κ]

/-- Changes the entry of a key, which is there afterwards. -/
def alter (key : κ) (change : Option α → α) : List (κ × α) → List (κ × α)
  | [] => [(key, change none)]
  | (name, value) :: rest =>
    if name == key then (name, change (some value)) :: rest else (name, value) :: alter key change rest

def put (key : κ) (value : α) (table : List (κ × α)) : List (κ × α) := alter key (fun _ => value) table

def erase (key : κ) (table : List (κ × α)) : List (κ × α) := table.filter fun entry => !(entry.1 == key)

/-- Puts all entries of one table into another. -/
def putAll (entries : List (κ × α)) (table : List (κ × α)) : List (κ × α) :=
  entries.foldl (fun table entry => put entry.1 entry.2 table) table

section

variable [LawfulBEq κ] {table : List (κ × α)}

theorem lookup_alter_self (key : κ) (change : Option α → α) (table : List (κ × α)) :
    (alter key change table).lookup key = some (change (table.lookup key)) := by
  induction table with
  | nil => simp [alter]
  | cons entry rest ih =>
    obtain ⟨name, value⟩ := entry
    by_cases same : name = key
    · subst same; simp [alter]
    · have other : (key == name) = false := by simp [Ne.symm same]
      simp [alter, same, List.lookup_cons, other, ih]

theorem lookup_alter_other {key name : κ} (change : Option α → α) (table : List (κ × α)) (different : name ≠ key) :
    (alter key change table).lookup name = table.lookup name := by
  induction table with
  | nil =>
    have other : (name == key) = false := by simp [different]
    simp [alter, List.lookup_cons, other]
  | cons entry rest ih =>
    obtain ⟨first, value⟩ := entry
    by_cases same : first = key
    · subst same
      have other : (name == first) = false := by simp [different]
      simp [alter, List.lookup_cons, other]
    · simp [alter, same, List.lookup_cons, ih]

@[simp] theorem lookup_put_self (key : κ) (value : α) (table : List (κ × α)) :
    (put key value table).lookup key = some value := lookup_alter_self key _ table

theorem lookup_put_other {key name : κ} (value : α) (table : List (κ × α)) (different : name ≠ key) :
    (put key value table).lookup name = table.lookup name := lookup_alter_other _ table different

@[simp] theorem put_put (key : κ) (first last : α) (table : List (κ × α)) :
    put key last (put key first table) = put key last table := by
  induction table with
  | nil => simp [put, alter]
  | cons entry rest ih =>
    obtain ⟨name, value⟩ := entry
    simp only [put, alter] at ih ⊢
    by_cases same : name = key
    · simp [alter, same]
    · simp [alter, same, ih]

@[simp] theorem lookup_erase_self (key : κ) (table : List (κ × α)) : (erase key table).lookup key = none := by
  induction table with
  | nil => rfl
  | cons entry rest ih =>
    obtain ⟨name, value⟩ := entry
    simp only [erase] at ih ⊢
    by_cases same : name = key
    · subst same; simpa using ih
    · have other : (key == name) = false := by simp [Ne.symm same]
      simpa [same, List.lookup_cons, other] using ih

theorem lookup_erase_other {key name : κ} (table : List (κ × α)) (different : name ≠ key) :
    (erase key table).lookup name = table.lookup name := by
  induction table with
  | nil => rfl
  | cons entry rest ih =>
    obtain ⟨first, value⟩ := entry
    simp only [erase] at ih ⊢
    by_cases same : first = key
    · subst same
      have other : (name == first) = false := by simp [different]
      simpa [List.lookup_cons, other] using ih
    · simp [same, List.lookup_cons, ih]

theorem mem_keys_alter (key : κ) (change : Option α → α) (table : List (κ × α)) {name : κ} :
    name ∈ (alter key change table).map (·.1) ↔ name = key ∨ name ∈ table.map (·.1) := by
  induction table with
  | nil => simp [alter]
  | cons entry rest ih =>
      obtain ⟨first, value⟩ := entry
      by_cases same : first = key
      · subst same
        simp [alter]
      · simp only [alter, beq_eq_false_iff_ne.mpr same, Bool.false_eq_true, if_false, List.map_cons, List.mem_cons, ih]
        exact or_left_comm

theorem nodup_keys_alter (key : κ) (change : Option α → α) (distinct : (table.map (·.1)).Nodup) :
    ((alter key change table).map (·.1)).Nodup := by
  induction table with
  | nil => simp [alter]
  | cons entry rest ih =>
      obtain ⟨first, value⟩ := entry
      obtain ⟨absent, restDistinct⟩ := List.nodup_cons.mp distinct
      by_cases same : first = key
      · subst same
        simpa [alter] using distinct
      · simp only [alter, beq_eq_false_iff_ne.mpr same, Bool.false_eq_true, if_false, List.map_cons, List.nodup_cons]
        refine ⟨?_, ih restDistinct⟩
        rw [mem_keys_alter]
        intro either
        obtain isKey | later := either
        · exact same isKey
        · exact absent later

/-- Where every key is there once, its entry is the one that is looked up. -/
theorem mem_iff_lookup (distinct : (table.map (·.1)).Nodup) {key : κ} {value : α} :
    (key, value) ∈ table ↔ table.lookup key = some value := by
  induction table with
  | nil => simp
  | cons entry rest ih =>
      obtain ⟨first, held⟩ := entry
      obtain ⟨absent, restDistinct⟩ := List.nodup_cons.mp distinct
      have later := ih restDistinct
      by_cases same : key = first
      · subst same
        have notLater : (key, value) ∉ rest := fun member => absent (List.mem_map.mpr ⟨_, member, rfl⟩)
        simp [notLater, eq_comm]
      · simp [List.lookup_cons, beq_eq_false_iff_ne.mpr same, same, later]

end

end Typeahead.Table
