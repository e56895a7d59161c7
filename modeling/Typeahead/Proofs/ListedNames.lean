import Mathlib.Data.List.Induction
import Typeahead.Completer.FileName
import Typeahead.Proofs.Acts
import Typeahead.Proofs.TextPieces

namespace Typeahead.Completer.FileNameState

/-! The completions for listed paths. A mark tells whether a name has occurred, and in the end what stands under it; so
the names and the marks have to agree after each path. -/

namespace Listing

section Marks

/-- For each of the paths with a name, whether it is a folder. -/
def kindsUnder (isFolder : String → Bool) (paths : List String) (name : String) : List Bool :=
  (paths.filter (Path.name · = name)).map isFolder

def union (kinds : List Bool) : Nat := kinds.foldl (fun mark isFolder => mark ||| markOf isFolder) 0

theorem union_eq (kinds : List Bool) :
    union kinds = (if false ∈ kinds then 1 else 0) ||| (if true ∈ kinds then 2 else 0) := by
  induction kinds using List.reverseRecOn with
  | nil => rfl
  | append_singleton kinds last ih =>
      have step : union (kinds ++ [last]) = union kinds ||| markOf last := by simp [union]
      rw [step, ih]
      by_cases file : false ∈ kinds <;> by_cases folder : true ∈ kinds <;> cases last <;> simp [file, folder, markOf]

theorem union_eq_zero_iff {kinds : List Bool} : union kinds = 0 ↔ kinds = [] := by
  rw [union_eq, List.eq_nil_iff_forall_not_mem, Bool.forall_bool]
  by_cases file : false ∈ kinds <;> by_cases folder : true ∈ kinds <;> simp [file, folder]

/-- There is a label for every mark of something. -/
theorem label_union {kinds : List Bool} (some : kinds ≠ []) :
    label (union kinds) = .ok
      (if false ∉ kinds then "[Dir]" else if true ∉ kinds then "[File]" else "[File&Dir]") := by
  have either : false ∈ kinds ∨ true ∈ kinds := by
    obtain ⟨kind, member⟩ := List.exists_mem_of_ne_nil kinds some
    cases kind with
    | false => exact .inl member
    | true => exact .inr member
  rw [union_eq]
  by_cases file : false ∈ kinds <;> by_cases folder : true ∈ kinds <;> simp_all [label, labels, List.lookup_cons]

end Marks

section Paths

variable {isFolder : String → Bool} {paths : List String} {listing : Listing}

/-- What has been listed for paths. -/
structure Holds (isFolder : String → Bool) (paths : List String) (listing : Listing) : Prop where
  names : listing.names = (paths.map Path.name).eraseDups
  marks : ∀ name, listing.mark name = union (kindsUnder isFolder paths name)

/-- A name is marked exactly if it has occurred. -/
theorem Holds.mark_eq_zero_iff (holds : Holds isFolder paths listing) (name : String) :
    listing.mark name = 0 ↔ name ∉ paths.map Path.name := by
  rw [holds.marks, union_eq_zero_iff]
  simp [kindsUnder]

theorem mark_note (name path : String) : (listing.note isFolder path).mark name =
    if Path.name path = name then listing.mark name ||| markOf (isFolder path) else listing.mark name := by
  by_cases same : Path.name path = name
  · subst same
    simp [note, mark]
  · simp [note, mark, same, Table.lookup_put_other _ _ (Ne.symm same)]

theorem Holds.note (holds : Holds isFolder paths listing) (path : String) :
    Holds isFolder (paths ++ [path]) (listing.note isFolder path) where
  names := by
    rw [List.map_append, List.map_singleton, Text.eraseDups_concat, ← holds.names]
    simp only [Listing.note, holds.mark_eq_zero_iff]
    by_cases seen : Path.name path ∈ paths.map Path.name <;> simp [seen]
  marks name := by
    rw [mark_note, holds.marks]
    by_cases same : Path.name path = name <;> simp [kindsUnder, union, same]

theorem holds_ofPaths (isFolder : String → Bool) (paths : List String) :
    Holds isFolder paths (ofPaths isFolder paths) := by
  induction paths using List.reverseRecOn with
  | nil => exact ⟨rfl, fun _ => rfl⟩
  | append_singleton paths path ih =>
      rw [ofPaths, List.foldl_append]
      exact ih.note path

end Paths

end Listing

/-- What is shown beside a name. -/
def labelFor (isFolder : String → Bool) (paths : List String) (name : String) : String :=
  if ∀ path ∈ paths, Path.name path = name → isFolder path = true then "[Dir]"
  else if ∀ path ∈ paths, Path.name path = name → isFolder path = false then "[File]"
  else "[File&Dir]"

theorem label_mark {isFolder : String → Bool} {paths : List String} {name : String}
    (occurs : name ∈ paths.map Path.name) :
    Listing.label ((Listing.ofPaths isFolder paths).mark name) = .ok (labelFor isFolder paths name) := by
  have some : Listing.kindsUnder isFolder paths name ≠ [] := by
    obtain ⟨path, member, isName⟩ := List.mem_map.mp occurs
    have among : isFolder path ∈ Listing.kindsUnder isFolder paths name :=
      List.mem_map_of_mem (List.mem_filter.mpr ⟨member, by simpa using isName⟩)
    exact List.ne_nil_of_mem among
  have folders : false ∉ Listing.kindsUnder isFolder paths name ↔
      ∀ path ∈ paths, Path.name path = name → isFolder path = true := by simp [Listing.kindsUnder]
  have files : true ∉ Listing.kindsUnder isFolder paths name ↔
      ∀ path ∈ paths, Path.name path = name → isFolder path = false := by simp [Listing.kindsUnder]
  rw [(Listing.holds_ofPaths isFolder paths).marks, Listing.label_union some, labelFor]
  simp only [folders, files]

theorem completion_labelled (name : String) (isFolder : String → Bool) (paths : List String) :
    Response.completion (.text name) { extra := .text (labelFor isFolder paths name) } =
      .record [("insertion_text", .text name), ("extra_menu_info", .text (labelFor isFolder paths name))] := by
  have shown : (Value.text (labelFor isFolder paths name)).isPresent = true := by
    unfold labelFor
    split_ifs <;> rfl
  simp only [Response.completion, Response.addPresent, shown]
  rfl

/-- For all paths there is one completion for each name among them, in the order in which the names first occur, and it
is labelled with what stands under its name: folders only, files only, or both. -/
theorem completions_once_for_each_name (isFolder : String → Bool) (paths : List String) :
    completions isFolder paths = .ok (.list ((paths.map Path.name).eraseDups.map fun name =>
      .record [("insertion_text", .text name), ("extra_menu_info", .text (labelFor isFolder paths name))])) := by
  have names := (Listing.holds_ofPaths isFolder paths).names
  refine bind_eq_ok_iff.mpr ⟨_, mapM_eq_ok_iff.mpr ?_, rfl⟩
  rw [names, List.forall₂_map_right_iff, List.forall₂_same]
  intro name member
  rw [label_mark (List.mem_eraseDups.mp member), ← completion_labelled]
  rfl

end Typeahead.Completer.FileNameState
