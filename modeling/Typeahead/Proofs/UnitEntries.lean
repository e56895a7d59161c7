import Typeahead.Frontend.Store

namespace Typeahead.Frontend.UnitStore

/-! What the store of translation units has for a file: a unit together with the key of its flags. Every step on
the store is described by what it does to these entries. -/

variable {κ : Type} {store : UnitStore κ} {path other : String} {key : κ} {unit : TranslationUnit}

/-- The files that have a unit are the files that have a key. -/
def Keyed (store : UnitStore κ) : Prop :=
  ∀ path, (store.units.lookup path).isSome = (store.keys.lookup path).isSome

def stored? (store : UnitStore κ) (path : String) : Option (TranslationUnit × κ) :=
  match store.units.lookup path, store.keys.lookup path with
  | some unit, some key => some (unit, key)
  | _, _ => none

theorem keyed_empty : ({} : UnitStore κ).Keyed := fun _ => rfl

theorem stored?_eq_some_iff :
    store.stored? path = some (unit, key) ↔ store.units.lookup path = some unit ∧ store.keys.lookup path = some key := by
  unfold stored?
  split
  · rename_i foundUnit foundKey
    simp [foundUnit, foundKey]
  · rename_i missing
    simpa using fun foundUnit foundKey => missing unit key foundUnit foundKey

theorem get?_eq_map_stored? (keyed : store.Keyed) (path : String) : store.get? path = (store.stored? path).map (·.1) := by
  have both := keyed path
  unfold get? stored?
  cases foundUnit : store.units.lookup path <;> cases foundKey : store.keys.lookup path <;>
    simp [foundUnit, foundKey] at both ⊢

theorem stored?_mark_self (store : UnitStore κ) (path : String) (key : κ) :
    (store.mark path key).stored? path = some (.placeholder, key) := by
  simp [stored?, mark]

theorem stored?_mark_other (store : UnitStore κ) (key : κ) (different : other ≠ path) :
    (store.mark path key).stored? other = store.stored? other := by
  simp only [stored?, mark, Table.lookup_put_other _ _ different]

theorem Keyed.mark (keyed : store.Keyed) (path : String) (key : κ) : (store.mark path key).Keyed := by
  intro other
  by_cases same : other = path
  · subst same
    simp [UnitStore.mark]
  · simp only [UnitStore.mark, Table.lookup_put_other _ _ same]
    exact keyed other

theorem stored?_remove_self (store : UnitStore κ) (path : String) : (store.remove path).stored? path = none := by
  simp [stored?, remove]

theorem stored?_remove_other (store : UnitStore κ) (different : other ≠ path) :
    (store.remove path).stored? other = store.stored? other := by
  simp only [stored?, remove, Table.lookup_erase_other _ different]

theorem Keyed.remove (keyed : store.Keyed) (path : String) : (store.remove path).Keyed := by
  intro other
  by_cases same : other = path
  · subst same
    simp [UnitStore.remove]
  · simp only [UnitStore.remove, Table.lookup_erase_other _ same]
    exact keyed other

theorem stored?_put_self {old : TranslationUnit} (found : store.stored? path = some (old, key)) (unit : TranslationUnit) :
    (store.put path unit).stored? path = some (unit, key) := by
  obtain ⟨_, foundKey⟩ := stored?_eq_some_iff.mp found
  simp [stored?, put, foundKey]

theorem stored?_put_other (store : UnitStore κ) (unit : TranslationUnit) (different : other ≠ path) :
    (store.put path unit).stored? other = store.stored? other := by
  simp only [stored?, put, Table.lookup_put_other _ _ different]

theorem Keyed.put {old : TranslationUnit} (keyed : store.Keyed) (found : store.stored? path = some (old, key))
    (unit : TranslationUnit) : (store.put path unit).Keyed := by
  intro other
  by_cases same : other = path
  · subst same
    obtain ⟨_, foundKey⟩ := stored?_eq_some_iff.mp found
    simp [UnitStore.put, foundKey]
  · simp only [UnitStore.put, Table.lookup_put_other _ _ same]
    exact keyed other

section Enter

variable [BEq κ] [LawfulBEq κ] [Inhabited κ]

/-- The unit of a file that was parsed with flags of a key. -/
def held? (store : UnitStore κ) (path : String) (key : κ) : Option TranslationUnit :=
  match store.stored? path with
  | some (unit, known) => if known == key then some unit else none
  | none => none

omit [Inhabited κ] in
theorem held?_eq_some_iff : store.held? path key = some unit ↔ store.stored? path = some (unit, key) := by
  unfold held?
  cases store.stored? path with
  | none => simp
  | some entry =>
      obtain ⟨found, known⟩ := entry
      by_cases same : known = key <;> simp [same]

/-- A unit that was parsed with flags of the key is given out as it is. -/
theorem enter_of_held? (held : store.held? path key = some unit) : store.enter path key = (some unit, store) := by
  obtain ⟨foundUnit, foundKey⟩ := stored?_eq_some_iff.mp (held?_eq_some_iff.mp held)
  simp [enter, get?, foundUnit, readKey, foundKey]

/-- In any other case a placeholder is entered. -/
theorem enter_of_not_held? (keyed : store.Keyed) (missing : store.held? path key = none) :
    store.enter path key = (none, store.mark path key) := by
  unfold enter get?
  cases foundUnit : store.units.lookup path with
  | none => rfl
  | some unit =>
      have hasKey := keyed path
      rw [foundUnit, Option.isSome_some] at hasKey
      obtain ⟨known, foundKey⟩ := Option.isSome_iff_exists.mp hasKey.symm
      have otherKey : known ≠ key := by
        rintro rfl
        have held := held?_eq_some_iff.mpr (stored?_eq_some_iff.mpr ⟨foundUnit, foundKey⟩)
        rw [missing] at held
        cases held
      simp [readKey, foundKey, otherKey]

end Enter

section Finish

variable (made : Option TranslationUnit)

/-- Once a unit has been made or not, the file has it with the key of its flags, or has nothing. -/
theorem stored?_finish_mark_self (store : UnitStore κ) (path : String) (key : κ) :
    ((store.mark path key).finish path made).stored? path = made.map (·, key) := by
  cases made with
  | none => exact stored?_remove_self _ path
  | some unit => exact stored?_put_self (stored?_mark_self store path key) unit

theorem stored?_finish_mark_other (store : UnitStore κ) (key : κ) (different : other ≠ path) :
    ((store.mark path key).finish path made).stored? other = store.stored? other := by
  rw [← stored?_mark_other store key different]
  cases made with
  | none => exact stored?_remove_other _ different
  | some unit => exact stored?_put_other _ unit different

theorem Keyed.finish_mark (keyed : store.Keyed) (path : String) (key : κ) :
    ((store.mark path key).finish path made).Keyed := by
  cases made with
  | none => exact (keyed.mark path key).remove path
  | some unit => exact (keyed.mark path key).put (stored?_mark_self store path key) unit

end Finish

/-- The key of a unit that is of no use, where a file has one. -/
def deadKey? (store : UnitStore κ) (path : String) : Option κ :=
  ((store.stored? path).filter fun entry => !entry.1.isLive).map (·.2)

theorem deadKey?_of_stored? (found : store.stored? path = some (unit, key)) :
    store.deadKey? path = if unit.isLive then none else some key := by
  cases live : unit.isLive <;> simp [deadKey?, found, live]

theorem deadKey?_eq_some_iff :
    store.deadKey? path = some key ↔ ∃ unit, store.stored? path = some (unit, key) ∧ unit.isLive = false := by
  cases found : store.stored? path with
  | none => simp [deadKey?, found]
  | some entry =>
      obtain ⟨unit, known⟩ := entry
      rw [deadKey?_of_stored? found]
      cases live : unit.isLive <;> grind

theorem deadKey?_of_none (missing : store.stored? path = none) : store.deadKey? path = none := by
  simp [deadKey?, missing]

theorem isUpdating_iff_deadKey? (keyed : store.Keyed) (path : String) :
    ((store.get? path).map TranslationUnit.isUpdating).getD false = (store.deadKey? path).isSome := by
  rw [get?_eq_map_stored? keyed]
  cases found : store.stored? path with
  | none => simp [deadKey?, found]
  | some entry =>
      obtain ⟨unit, key⟩ := entry
      rw [deadKey?_of_stored? found]
      cases live : unit.isLive <;> simp [TranslationUnit.isUpdating, live]

end Typeahead.Frontend.UnitStore
