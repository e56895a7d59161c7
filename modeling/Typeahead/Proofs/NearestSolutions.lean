import Mathlib.Logic.Function.Iterate
import Typeahead.Path.Glob
import Typeahead.Path.Solution

namespace Typeahead.Path

/-! The search for solution files goes upwards from folder to folder, and ends where a folder is its own or has some. It
finds what the pattern `*.sln` stands for. -/

section Pattern

namespace Glob

theorem accepts_exactly (characters text : List Char) :
    accepts (characters.map .exactly) text = true ↔ text = characters := by
  induction characters generalizing text with
  | nil => cases text <;> simp [accepts]
  | cons character characters ih =>
      cases text with
      | nil => simp [accepts]
      | cons first rest => simp [accepts, acceptsChar, ih]

/-- A star before plain characters: the text ends with these. -/
theorem accepts_ending (characters text : List Char) :
    accepts (.anything :: characters.map .exactly) text = characters.isSuffixOf text := by
  rw [accepts, Bool.eq_iff_iff, List.isSuffixOf_iff_suffix]
  induction text with
  | nil => rw [accepts.anywhere, accepts_exactly, List.suffix_nil, eq_comm]
  | cons first rest ih =>
      rw [accepts.anywhere, Bool.or_eq_true, ih, accepts_exactly, List.suffix_cons_iff, eq_comm]

end Glob

/-- A name that the pattern for solution files stands for. A dot at its start has to be written out in a pattern. -/
def isSolution (name : String) : Bool := matchesGlob name "*.sln" && !Text.startsWith name "."

theorem matchesGlob_sln (name : String) : matchesGlob name "*.sln" = Text.endsWith name ".sln" := by
  have parts : Glob.ofString "*.sln" = .anything :: ".sln".toList.map .exactly := rfl
  rw [matchesGlob, parts, Glob.accepts_ending, Text.endsWith]

/-- The names in a folder; the empty path is the working folder. -/
def listing (workspace : Workspace) (folder : String) : List String :=
  (workspace.names? (if folder.isEmpty then "." else folder)).getD []

theorem solutionsIn_eq (workspace : Workspace) (folder : String) :
    solutionsIn workspace folder = (listing workspace folder).filter isSolution := by
  refine List.filter_congr fun name _ => ?_
  rw [isSolution, matchesGlob_sln]

end Pattern

section Search

variable {workspace : Workspace} {place : String} {answer : List String × String} {steps : Nat}

/-- A search upwards from a place has come to an answer after a number of steps: there were no solution files on the
way, and it stopped because there are some or there is no way on. Each step leads to a shorter path. -/
structure Ends (workspace : Workspace) (place : String) (steps : Nat) (answer : List String × String) : Prop where
  folder : answer.2 = folder^[steps] place
  files : answer.1 = solutionsIn workspace answer.2
  nearer : ∀ fewer < steps, solutionsIn workspace (Path.folder^[fewer] place) = []
  stops : answer.1 ≠ [] ∨ Path.folder answer.2 = answer.2
  shorter : steps + answer.2.length ≤ place.length

theorem Ends.up (none : solutionsIn workspace place = []) (moves : Path.folder place ≠ place)
    (rest : Ends workspace (Path.folder place) steps answer) : Ends workspace place (steps + 1) answer where
  folder := by rw [Function.iterate_succ_apply, rest.folder]
  files := rest.files
  nearer fewer isFewer := by
    cases fewer with
    | zero => exact none
    | succ fewer =>
        rw [Function.iterate_succ_apply]
        exact rest.nearer fewer (by omega)
  stops := rest.stops
  shorter := by
    have := rest.shorter
    have := length_folder_lt moves
    omega

theorem exists_ends (workspace : Workspace) (place : String) :
    ∃ steps, Ends workspace place steps (solutionsFrom workspace place) := by
  fun_induction solutionsFrom workspace place with
  | case1 place found some => exact ⟨0, rfl, rfl, by simp, .inl (by simpa using some), by simp⟩
  | case2 place found none fixed => exact ⟨0, rfl, rfl, by simp, .inr fixed, by simp⟩
  | case3 place found none moves shorter ih =>
      obtain ⟨steps, rest⟩ := ih
      exact ⟨steps + 1, rest.up (by simpa using none) moves⟩

/-- If nothing was found, there is nothing to find in any folder of the way. -/
theorem Ends.none_of_nil (ends : Ends workspace place steps answer) (none : answer.1 = []) (any : Nat) :
    solutionsIn workspace (Path.folder^[any] place) = [] := by
  by_cases before : any < steps
  · exact ends.nearer any before
  · have fixed : Path.folder answer.2 = answer.2 := ends.stops.resolve_left (by simp [none])
    obtain ⟨more, rfl⟩ := Nat.exists_eq_add_of_le' (Nat.not_lt.mp before)
    rw [Function.iterate_add_apply, ← ends.folder, Function.iterate_fixed fixed, ← ends.files, none]

end Search

/-- The search for the solution files around a file ends after finitely many steps upwards from the file's folder. It
gives the solution files of the folder that it has come to, together with that folder; there are none in the nearer
folders, and if it gives none, there are none in any folder of the way, which has come to its end. -/
theorem solutionsFor_nearest (workspace : Workspace) (path : String) :
    ∃ steps ≤ path.length, ∃ found,
      solutionsFor workspace path = (found, folder^[steps] (folder path)) ∧
      found = (listing workspace (folder^[steps] (folder path))).filter isSolution ∧
      (∀ fewer < steps, ∀ name ∈ listing workspace (folder^[fewer] (folder path)), isSolution name = false) ∧
      (found = [] → folder (folder^[steps] (folder path)) = folder^[steps] (folder path) ∧
        ∀ any, ∀ name ∈ listing workspace (folder^[any] (folder path)), isSolution name = false) := by
  obtain ⟨steps, ends⟩ := exists_ends workspace (folder path)
  have none (any : Nat) (empty : solutionsIn workspace (folder^[any] (folder path)) = []) :
      ∀ name ∈ listing workspace (folder^[any] (folder path)), isSolution name = false := by
    rw [solutionsIn_eq, List.filter_eq_nil_iff] at empty
    simpa using empty
  refine ⟨steps, ?_, (solutionsFor workspace path).1, Prod.ext rfl ends.folder, ?_, ?_, ?_⟩
  · have := ends.shorter
    have := length_folder_le path
    omega
  · rw [← solutionsIn_eq, ← ends.folder]
    exact ends.files
  · exact fun fewer isFewer => none fewer (ends.nearer fewer isFewer)
  · intro empty
    have fixed := ends.stops.resolve_left (not_not_intro empty)
    rw [ends.folder] at fixed
    exact ⟨fixed, fun any => none any (ends.none_of_nil empty any)⟩

end Typeahead.Path
