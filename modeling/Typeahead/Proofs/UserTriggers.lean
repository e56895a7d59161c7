import Mathlib.Data.List.Basic
import Typeahead.Proofs.TextPieces
import Typeahead.Trigger

namespace Typeahead

/-! The triggers of each filetype. A key of the default entries lists filetypes between commas and gives its triggers to
each of them; a key of the user's entries gives them to the filetype of that very name. -/

namespace TriggerTable

variable {table : TriggerTable} {entries user : List (String × List String)} {filetype trigger : String}

/-- Where every step of a fold adds what its item gives, the fold adds what some item gives. -/
theorem foldl_gives_iff {σ ι : Type} (holds : σ → Prop) {adding : σ → ι → σ} {gives : ι → Prop}
    (step : ∀ known item, holds (adding known item) ↔ holds known ∨ gives item) (items : List ι) (known : σ) :
    holds (items.foldl adding known) ↔ holds known ∨ ∃ item ∈ items, gives item := by
  induction items generalizing known with
  | nil => simp
  | cons item items ih => rw [List.foldl_cons, ih, step, or_assoc, List.exists_mem_cons_iff]

theorem mem_insertText (known : List String) (text : String) :
    trigger ∈ insertText known text ↔ trigger ∈ known ∨ trigger = text := by
  unfold insertText
  split
  · rename_i listed
    have isKnown : text ∈ known := by simpa using listed
    exact ⟨.inl, fun either => either.elim id fun same => same ▸ isKnown⟩
  · simp

theorem nodup_insertText {known : List String} (once : known.Nodup) (text : String) : (insertText known text).Nodup := by
  unfold insertText
  split
  · exact once
  · rename_i absent
    have new : text ∉ known := by simpa using absent
    refine List.nodup_append.mpr ⟨once, by simp, ?_⟩
    rintro listed member _ (isText | ⟨_, ⟨⟩⟩) rfl
    exact new member

theorem add_eq_alter (table : TriggerTable) (filetype : String) (texts : List String) :
    table.add filetype texts = Table.alter filetype (fun known => texts.foldl insertText (known.getD [])) table := by
  induction table with
  | nil => rfl
  | cons entry rest ih =>
      obtain ⟨name, known⟩ := entry
      simp only [TriggerTable.add, Table.alter, ih, Option.getD_some]

theorem triggers_add (table : TriggerTable) (added : String) (texts : List String) (filetype : String) :
    (table.add added texts).triggers filetype =
      if filetype = added then texts.foldl insertText (table.triggers filetype) else table.triggers filetype := by
  rw [add_eq_alter, triggers]
  split
  · subst filetype
    rw [Table.lookup_alter_self]
    rfl
  · rename_i other
    rw [Table.lookup_alter_other _ _ other]
    rfl

theorem mem_triggers_add (table : TriggerTable) (added : String) (texts : List String) :
    trigger ∈ (table.add added texts).triggers filetype ↔
      trigger ∈ table.triggers filetype ∨ added = filetype ∧ trigger ∈ texts := by
  rw [triggers_add]
  split
  · rename_i same
    refine (foldl_gives_iff (trigger ∈ ·) mem_insertText texts _).trans ?_
    simp [same]
  · rename_i other
    simp [Ne.symm other]

/-- Each trigger of a filetype is in the table once. -/
def EachOnce (table : TriggerTable) : Prop := ∀ filetype, (table.triggers filetype).Nodup

theorem EachOnce.add (once : table.EachOnce) (added : String) (texts : List String) :
    (table.add added texts).EachOnce := by
  intro filetype
  rw [triggers_add]
  split
  · exact List.foldlRecOn texts insertText (once filetype) fun _ distinct text _ => nodup_insertText distinct text
  · exact once filetype

/-- An entry whose key lists the filetype between commas has the trigger. -/
def Lists (entries : List (String × List String)) (filetype trigger : String) : Prop :=
  ∃ entry ∈ entries, filetype ∈ Text.split ',' entry.1 ∧ trigger ∈ entry.2

/-- An entry whose key is the filetype has the trigger. -/
def Names (entries : List (String × List String)) (filetype trigger : String) : Prop :=
  ∃ entry ∈ entries, entry.1 = filetype ∧ trigger ∈ entry.2

theorem mem_triggers_addListed (table : TriggerTable) (entry : String × List String) :
    trigger ∈ (table.addListed entry).triggers filetype ↔
      trigger ∈ table.triggers filetype ∨ filetype ∈ Text.split ',' entry.1 ∧ trigger ∈ entry.2 := by
  refine (foldl_gives_iff (trigger ∈ ·.triggers filetype) (fun table added => mem_triggers_add table added entry.2) _
    table).trans ?_
  simp

theorem mem_triggers_defaults : trigger ∈ defaults.triggers filetype ↔ Lists defaultSpec filetype trigger := by
  have added := foldl_gives_iff (trigger ∈ TriggerTable.triggers · filetype) mem_triggers_addListed defaultSpec []
  refine added.trans ?_
  simp [triggers, Lists]

theorem eachOnce_defaults : defaults.EachOnce := by
  have none : EachOnce [] := fun _ => List.nodup_nil
  refine List.foldlRecOn defaultSpec addListed none fun table once entry _ => ?_
  exact List.foldlRecOn _ _ once fun table once added _ => once.add added entry.2

/-- Entries as the value they are given as: a record from keys to lists of texts. -/
def entriesValue (entries : List (String × List String)) : Value :=
  .record (entries.map fun entry => (entry.1, Value.texts entry.2))

theorem asTexts_texts (texts : List String) : (Value.texts texts).asTexts = .ok texts := by
  change (texts.map Value.text).mapM Value.asText = .ok texts
  induction texts with
  | nil => rfl
  | cons text texts ih =>
      rw [List.map_cons, List.mapM_cons, ih]
      rfl

/-- The table with the user's entries, each under its whole key. -/
def extended (user : List (String × List String)) : TriggerTable :=
  user.foldl (fun table entry => table.add entry.1 entry.2) defaults

theorem withUser_entries (user : List (String × List String)) : withUser (entriesValue user) = .ok (extended user) := by
  change (user.map fun entry => (entry.1, Value.texts entry.2)).foldlM (fun table entry => do
    return TriggerTable.add table entry.1 (← entry.2.asTexts)) defaults = _
  unfold extended
  generalize defaults = table
  induction user generalizing table with
  | nil => rfl
  | cons entry user ih =>
      simp only [List.map_cons, List.foldlM_cons, asTexts_texts]
      exact ih (table.add entry.1 entry.2)

theorem eachOnce_extended (user : List (String × List String)) : (extended user).EachOnce :=
  List.foldlRecOn user _ eachOnce_defaults fun _ once entry _ => once.add entry.1 entry.2

theorem mem_triggers_extended : trigger ∈ (extended user).triggers filetype ↔
    Lists defaultSpec filetype trigger ∨ Names user filetype trigger := by
  rw [← mem_triggers_defaults]
  exact foldl_gives_iff (trigger ∈ ·.triggers filetype) (fun table entry => mem_triggers_add table entry.1 entry.2) user
    defaults

theorem Lists.no_comma (lists : Lists entries filetype trigger) : ',' ∉ filetype.toList := by
  obtain ⟨_, _, listed, _⟩ := lists
  exact Text.not_mem_of_mem_split listed

theorem Names.lists (names : Names entries filetype trigger) (noComma : ',' ∉ filetype.toList) :
    Lists entries filetype trigger := by
  obtain ⟨entry, member, isKey, has⟩ := names
  refine ⟨entry, member, ?_, has⟩
  rw [isKey, Text.split_of_not_mem noComma]
  exact List.mem_singleton_self filetype

/-- The default triggers stay, and the user's entries add theirs to the filetype that is their whole key. These are the
triggers of all entries whose keys list the filetype between commas if and only if each trigger of an entry that lists
it among others is there anyway and, should the filetype itself have a comma, entries with that key give no triggers. -/
theorem withUser_adds_listed_iff (user : List (String × List String)) (filetype : String) :
    ∃ table, withUser (entriesValue user) = .ok table ∧ (table.triggers filetype).Nodup ∧
      (∀ trigger, trigger ∈ table.triggers filetype ↔
        Lists defaultSpec filetype trigger ∨ Names user filetype trigger) ∧
      ((∀ trigger, trigger ∈ table.triggers filetype ↔
          Lists defaultSpec filetype trigger ∨ Lists user filetype trigger) ↔
        (∀ entry ∈ user, filetype ∈ Text.split ',' entry.1 → entry.1 ≠ filetype → ∀ trigger ∈ entry.2,
          Lists defaultSpec filetype trigger ∨ Names user filetype trigger) ∧
        (',' ∈ filetype.toList → ∀ entry ∈ user, entry.1 = filetype → entry.2 = [])) := by
  refine ⟨extended user, withUser_entries user, eachOnce_extended user filetype,
    fun trigger => mem_triggers_extended, ?_⟩
  simp only [mem_triggers_extended]
  constructor
  · intro same
    refine ⟨fun entry member listed _ trigger has => (same trigger).mpr (.inr ⟨entry, member, listed, has⟩), ?_⟩
    -- a filetype with a comma is a piece of no key, so a trigger that its own entry gives it is listed nowhere
    intro comma entry member isKey
    rw [List.eq_nil_iff_forall_not_mem]
    intro trigger has
    rcases (same trigger).mp (.inr ⟨entry, member, isKey, has⟩) with lists | lists
    · exact lists.no_comma comma
    · exact lists.no_comma comma
  · rintro ⟨listedAnyway, noKeyWithComma⟩ trigger
    constructor
    · refine Or.imp_right fun names => names.lists fun comma => ?_
      obtain ⟨entry, member, isKey, has⟩ := names
      rw [noKeyWithComma comma entry member isKey] at has
      exact List.not_mem_nil has
    · rintro (byDefault | ⟨entry, member, listed, has⟩)
      · exact .inl byDefault
      · by_cases isKey : entry.1 = filetype
        · exact .inr ⟨entry, member, isKey, has⟩
        · exact listedAnyway entry member listed isKey trigger has

/-- A key that lists two filetypes between commas, neither of which gets the trigger. -/
theorem listed_filetypes_without_trigger :
    let user := [("css,scss", [":"])]
    Lists user "css" ":" ∧ Lists user "scss" ":" ∧ ∃ table, withUser (entriesValue user) = .ok table ∧
      table.triggers "css" = [] ∧ table.triggers "scss" = [] ∧ table.triggers "css,scss" = [":"] := by
  refine ⟨⟨_, List.mem_singleton_self _, ?_⟩, ⟨_, List.mem_singleton_self _, ?_⟩, _, withUser_entries _, ?_⟩
  all_goals decide +kernel

end TriggerTable

end Typeahead
