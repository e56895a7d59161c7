import Mathlib.Data.List.Nodup
import Typeahead.Identifier.Database
import Typeahead.Proofs.Selection

namespace Typeahead.Identifier

/-! Candidates are made once. A text that is asked for again has the candidate that it had, and no candidate ever loses
its text, so that different candidates have different texts. What files list are candidates, and a query goes through
the files of a filetype and takes each candidate where it is first seen: that is why it finds no text twice. -/

open Letter

namespace Repository

variable {repository later : Repository} {candidate other : Nat} {text : Bytes}

theorem text?_intern (repository : Repository) (text : Bytes) :
    (repository.intern text).2.text? (repository.intern text).1 = some text := by
  unfold intern text?
  split
  · rename_i known
    exact List.getElem?_idxOf known
  · exact List.getElem?_concat_length

theorem prefix_intern (repository : Repository) (text : Bytes) :
    repository.texts <+: (repository.intern text).2.texts := by
  unfold intern
  split
  · exact List.prefix_rfl
  · exact List.prefix_append _ _

theorem prefix_internAll (repository : Repository) (given : List Bytes) :
    repository.texts <+: (repository.internAll given).2.texts := by
  induction given generalizing repository with
  | nil => exact List.prefix_rfl
  | cons text given ih => exact (repository.prefix_intern _).trans (ih _)

theorem text?_mono (grows : repository.texts <+: later.texts) (found : repository.text? candidate = some text) :
    later.text? candidate = some text := by
  obtain ⟨more, same⟩ := grows
  have inside : candidate < repository.texts.length := (List.getElem?_eq_some_iff.mp found).1
  rw [text?, ← same, List.getElem?_append_left inside]
  exact found

/-- Different candidates have different texts. -/
theorem text?_injective (first : repository.text? candidate = some text) (second : repository.text? other = some text) :
    candidate = other := by
  have inside : candidate < repository.texts.length := (List.getElem?_eq_some_iff.mp first).1
  exact (List.getElem?_inj inside repository.distinct).mp (first.trans second.symm)

/-- The candidates of some texts have these texts, as they can be shown. -/
theorem map_text?_internAll (repository : Repository) (given : List Bytes) :
    (repository.internAll given).1.map (repository.internAll given).2.text? =
      given.map fun text => some (Candidate.shown text) := by
  induction given generalizing repository with
  | nil => rfl
  | cons text given ih =>
      have made := repository.text?_intern (Candidate.shown text)
      have kept := prefix_internAll (repository.intern (Candidate.shown text)).2 given
      simp only [internAll, List.map_cons, ih, text?_mono kept made]

theorem exists_text?_internAll {given : List Bytes} (made : candidate ∈ (repository.internAll given).1) :
    ∃ text, (repository.internAll given).2.text? candidate = some text := by
  have mapped := List.mem_map_of_mem (f := (repository.internAll given).2.text?) made
  rw [map_text?_internAll] at mapped
  obtain ⟨one, _, same⟩ := List.mem_map.mp mapped
  exact ⟨_, same.symm⟩

theorem exists_mem_internAll_iff (repository : Repository) (given : List Bytes) (text : Bytes) :
    (∃ candidate ∈ (repository.internAll given).1, (repository.internAll given).2.text? candidate = some text) ↔
      ∃ one ∈ given, text = Candidate.shown one := by
  have listed : some text ∈ (repository.internAll given).1.map (repository.internAll given).2.text? ↔
      some text ∈ given.map fun text => some (Candidate.shown text) := by rw [map_text?_internAll]
  simpa only [List.mem_map, Option.some.injEq, @eq_comm _ _ text] using listed

end Repository

namespace Database

variable {database : Database} {filetype query text : Bytes} {source : Source}

theorem mem_foldl_insertNew {candidate : Nat} (added known : List Nat) :
    candidate ∈ added.foldl insertNew known ↔ candidate ∈ known ∨ candidate ∈ added := by
  induction added generalizing known with
  | nil => simp
  | cons first rest ih =>
      have inserted : candidate ∈ insertNew known first ↔ candidate ∈ known ∨ candidate = first := by
        unfold insertNew
        split
        · rename_i there
          have first_mem : first ∈ known := by simpa using there
          exact ⟨Or.inl, fun either => either.elim id fun same => same ▸ first_mem⟩
        · simp
      rw [List.foldl_cons, ih, inserted, List.mem_cons, or_assoc]

theorem nodup_foldl_insertNew (added : List Nat) {known : List Nat} (distinct : known.Nodup) :
    (added.foldl insertNew known).Nodup := by
  induction added generalizing known with
  | nil => exact distinct
  | cons first rest ih =>
      apply ih
      unfold insertNew
      split
      · exact distinct
      · rename_i absent
        apply List.nodup_append.mpr
        refine ⟨distinct, by simp, fun listed member last isLast same => absent ?_⟩
        rw [List.mem_singleton.mp isLast] at same
        simpa [same] using member

/-- Candidates that are all different are listed as they come. -/
theorem foldl_insertNew_of_nodup {known added : List Nat} (distinct : (known ++ added).Nodup) :
    added.foldl insertNew known = known ++ added := by
  induction added generalizing known with
  | nil => simp
  | cons first rest ih =>
      have absent : first ∉ known := fun member =>
        (List.nodup_append.mp distinct).2.2 first member first List.mem_cons_self rfl
      have inserted : insertNew known first = known ++ [first] := by simp [insertNew, absent]
      have regrouped : (known ++ [first]) ++ rest = known ++ first :: rest := by simp
      rw [List.foldl_cons, inserted, ih (regrouped.symm ▸ distinct), regrouped]

theorem nodup_candidates (table : FileTable) : (candidates table).Nodup := by
  have kept : ∀ seen : List Nat, seen.Nodup →
      (table.foldl (fun seen entry => entry.2.foldl insertNew seen) seen).Nodup := by
    induction table with
    | nil => exact fun seen distinct => distinct
    | cons entry rest ih => exact fun seen distinct => ih _ (nodup_foldl_insertNew entry.2 distinct)
  exact kept [] List.nodup_nil

theorem mem_candidates {candidate : Nat} (table : FileTable) :
    candidate ∈ candidates table ↔ ∃ entry ∈ table, candidate ∈ entry.2 := by
  have collected : ∀ seen : List Nat,
      candidate ∈ table.foldl (fun seen entry => entry.2.foldl insertNew seen) seen ↔
        candidate ∈ seen ∨ ∃ entry ∈ table, candidate ∈ entry.2 := by
    induction table with
    | nil => simp
    | cons entry rest ih =>
        intro seen
        rw [List.foldl_cons, ih, mem_foldl_insertNew, List.exists_mem_cons_iff, or_assoc]
  exact (collected []).trans (by simp)

/-- No text is known twice: each candidate is taken once, and has a text of its own. -/
theorem nodup_texts (database : Database) (filetype : Bytes) : (database.texts filetype).Nodup := by
  refine (nodup_candidates (database.files filetype)).filterMap ?_
  intro candidate other text first second
  exact Repository.text?_injective first second

/-- A query ranks all texts of its filetype. -/
theorem query_eq_rank (nonempty : query ≠ []) (ascii : ∀ letter ∈ query, isAscii letter) :
    database.query query filetype = Ranking.rank query id (database.texts filetype) := by
  have notEmpty : query.isEmpty = false := by simpa using nonempty
  unfold Database.query texts files
  cases database.tables.lookup filetype with
  | none =>
      rw [Ranking.rank_eq id _ nonempty ascii]
      rfl
  | some table => simp [notEmpty]

end Database

end Typeahead.Identifier
