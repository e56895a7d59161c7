import Mathlib.Data.List.Forall2
import Mathlib.Data.List.ReduceOption
import Typeahead.Flags.Project
import Typeahead.Proofs.PreparedFlags

namespace Typeahead

/-! Folders in flags. A folder runs on from its flag or is the argument of it; either way it is seen from the working
folder afterwards. What has been settled like this stays as it is. -/

namespace Path

theorem isAbsolute_iff_exists {path : String} : isAbsolute path ↔ ∃ rest, path.toList = '/' :: rest := by
  rw [isAbsolute, Text.startsWith_iff]
  exact ⟨fun ⟨rest, cut⟩ => ⟨rest, cut.symm⟩, fun ⟨rest, cut⟩ => ⟨rest, cut.symm⟩⟩

theorem isAbsolute_append {path : String} (rooted : isAbsolute path) (rest : String) : isAbsolute (path ++ rest) := by
  obtain ⟨inner, cut⟩ := isAbsolute_iff_exists.mp rooted
  exact isAbsolute_iff_exists.mpr ⟨inner ++ rest.toList, by rw [String.toList_append, cut, List.cons_append]⟩

theorem isAbsolute_join {folder : String} (rooted : isAbsolute folder) (next : String) :
    isAbsolute (join folder next) := by
  unfold join
  split
  · assumption
  · split
    · exact isAbsolute_append rooted next
    · exact isAbsolute_append (isAbsolute_append rooted "/") next

theorem join_of_isAbsolute {next : String} (rooted : isAbsolute next) (folder : String) : join folder next = next :=
  if_pos rooted

theorem ne_empty_of_isAbsolute {path : String} (rooted : isAbsolute path) : path ≠ "" := by
  rintro rfl
  exact absurd rooted (by decide)

end Path

namespace Flags

open Text

section Starts

variable {flag start path : String}

/-- A flag that runs on into a folder. -/
def IsAttached (flag : String) : Prop := ∃ start ∈ relocatedFlags, ∃ path, path ≠ "" ∧ flag = start ++ path

theorem startsWith_dash (isStart : start ∈ relocatedFlags) : startsWith start "-" := by
  revert start
  decide

theorem not_startsWith_dash (rooted : Path.isAbsolute path) : ¬ startsWith path "-" := by
  obtain ⟨rest, cut⟩ := Path.isAbsolute_iff_exists.mp rooted
  rw [startsWith_iff, cut]
  exact fun starts => absurd (List.cons_prefix_cons.mp starts).1 (by decide)

theorem start_ne_empty (isStart : start ∈ relocatedFlags) : start ≠ "" := by
  rintro rfl
  exact absurd (startsWith_dash isStart) (by decide)

/-- None of the flags that take a folder is the beginning of another one, so a flag runs on from one of them only. -/
theorem start_unique {other : String} (isStart : start ∈ relocatedFlags) (isOther : other ∈ relocatedFlags)
    (starts : startsWith flag start) (otherStarts : startsWith flag other) : start = other := by
  have apart : ∀ start ∈ relocatedFlags, ∀ other ∈ relocatedFlags, start.toList <+: other.toList → start = other := by
    decide
  rw [startsWith_iff] at starts otherStarts
  rcases List.prefix_or_prefix_of_prefix starts otherStarts with shorter | longer
  · exact apart start isStart other isOther shorter
  · exact (apart other isOther start isStart longer).symm

theorem path_unique {other otherPath : String} (isStart : start ∈ relocatedFlags) (isOther : other ∈ relocatedFlags)
    (same : start ++ path = other ++ otherPath) : start = other ∧ path = otherPath := by
  have starts := startsWith_append start path
  have otherStarts := startsWith_append other otherPath
  rw [← same] at otherStarts
  obtain rfl := start_unique isStart isOther starts otherStarts
  exact ⟨rfl, by rw [← drop_append start path, same, drop_append]⟩

theorem not_isAttached_of_mem (exact : flag ∈ relocatedFlags) : ¬ IsAttached flag := by
  rintro ⟨start, isStart, path, runs, cut⟩
  have same : flag ++ "" = start ++ path := by rw [String.append_empty, cut]
  exact runs (path_unique exact isStart same).2.symm

theorem startsWith_dash_of_isAttached (attached : IsAttached flag) : startsWith flag "-" := by
  obtain ⟨start, isStart, path, _, rfl⟩ := attached
  obtain ⟨rest, cut⟩ := (startsWith_iff start "-").mp (startsWith_dash isStart)
  rw [startsWith_iff, String.toList_append, ← cut, List.append_assoc]
  exact List.prefix_append _ _

theorem relocateAttached_append (isStart : start ∈ relocatedFlags) (folder path : String) :
    relocateAttached folder (start ++ path) = some (start ++ Path.join folder path) := by
  have starts := startsWith_append start path
  rw [relocateAttached]
  cases found : relocatedFlags.find? fun other => startsWith (start ++ path) other with
  | none => exact absurd starts (List.find?_eq_none.mp found start isStart)
  | some other =>
      obtain rfl := start_unique isStart (List.mem_of_find?_eq_some found) starts (List.find?_some found)
      rw [Option.map_some, drop_append]

theorem relocateAttached_of_not (alone : ¬ IsAttached flag) (other : flag ∉ relocatedFlags) (folder : String) :
    relocateAttached folder flag = none := by
  rw [relocateAttached, Option.map_eq_none_iff, List.find?_eq_none]
  intro start isStart starts
  have cut := eq_append_drop starts
  refine alone ⟨start, isStart, _, ?_, cut⟩
  intro nothing
  rw [nothing, String.append_empty] at cut
  exact other (cut ▸ isStart)

end Starts

/-- The flag before another one, if there is any, wants a folder to come next. -/
def expectsFolder (before : Option String) : Bool := before.any relocatedFlags.contains

/-- What stands for a flag afterwards, if anything does, given the flag before it. -/
inductive Becomes (folder : String) (before : Option String) (flag : String) : Option String → Prop
  | attached {start path : String} (isStart : start ∈ relocatedFlags) (runs : path ≠ "") (cut : flag = start ++ path) :
      Becomes folder before flag (some (start ++ Path.join folder path))
  | argument (alone : ¬ IsAttached flag) (expected : expectsFolder before) :
      Becomes folder before flag (some (Path.join folder flag))
  | same (alone : ¬ IsAttached flag) (unexpected : expectsFolder before = false) (present : flag ≠ "") :
      Becomes folder before flag (some flag)
  | dropped (unexpected : expectsFolder before = false) (absent : flag = "") : Becomes folder before flag none

section Step

variable {folder : String} {before : Option String} {flag : String} {image : Option String}

/-- What is put in the place of a flag, unless it is empty. -/
def replacement (folder : String) (isArgument : Bool) (flag : String) : String :=
  let alone := if isArgument then Path.join folder flag else flag
  if relocatedFlags.contains flag then alone else (relocateAttached folder flag).getD alone

theorem relocateFrom_cons (folder : String) (isArgument : Bool) (flag : String) (rest : List String) :
    relocateFrom folder isArgument (flag :: rest) =
      (if replacement folder isArgument flag = "" then [] else [replacement folder isArgument flag]) ++
        relocateFrom folder (relocatedFlags.contains flag) rest := by
  have alone_eq : (if isArgument && !Path.isAbsolute flag then Path.join folder flag else flag) =
      if isArgument then Path.join folder flag else flag := by
    cases isArgument with
    | false => rfl
    | true => cases rooted : Path.isAbsolute flag <;> simp [Path.join, rooted]
  rw [relocateFrom, alone_eq]
  change (if (replacement folder isArgument flag).isEmpty then relocateFrom folder (relocatedFlags.contains flag) rest
    else replacement folder isArgument flag :: relocateFrom folder (relocatedFlags.contains flag) rest) = _
  by_cases nothing : replacement folder isArgument flag = "" <;> simp [nothing]

theorem replacement_append {start path : String} (isStart : start ∈ relocatedFlags) (runs : path ≠ "") (isArgument : Bool) :
    replacement folder isArgument (start ++ path) = start ++ Path.join folder path := by
  have inexact : relocatedFlags.contains (start ++ path) = false := by
    rw [List.contains_eq_mem, decide_eq_false_iff_not]
    exact fun exact => not_isAttached_of_mem exact ⟨start, isStart, path, runs, rfl⟩
  rw [replacement, inexact, relocateAttached_append isStart]
  rfl

theorem replacement_of_not_isAttached (alone : ¬ IsAttached flag) (isArgument : Bool) :
    replacement folder isArgument flag = if isArgument then Path.join folder flag else flag := by
  unfold replacement
  by_cases exact : flag ∈ relocatedFlags
  · exact if_pos (List.contains_iff_mem.mpr exact)
  · rw [relocateAttached_of_not alone exact]
    exact ite_self _

theorem Becomes.absolute (becomes : Becomes folder before flag image) (rooted : Path.isAbsolute folder)
    (expected : expectsFolder before) (undashed : ¬ startsWith flag "-") : ∃ path, image = some path ∧ Path.isAbsolute path := by
  cases becomes with
  | attached isStart runs cut => exact absurd (startsWith_dash_of_isAttached ⟨_, isStart, _, runs, cut⟩) undashed
  | argument => exact ⟨_, rfl, Path.isAbsolute_join rooted flag⟩
  | same _ unexpected => simp [expected] at unexpected
  | dropped unexpected => simp [expected] at unexpected

theorem Becomes.kept (becomes : Becomes folder before flag image) (present : flag ≠ "") : ∃ kept, image = some kept := by
  cases becomes with
  | attached => exact ⟨_, rfl⟩
  | argument => exact ⟨_, rfl⟩
  | same => exact ⟨_, rfl⟩
  | dropped _ absent => exact absurd absent present

/-- A flag gives way to what it becomes, and the rest is settled in view of it. -/
theorem exists_becomes (rooted : Path.isAbsolute folder) (before : Option String) (flag : String) (rest : List String) :
    ∃ image, Becomes folder before flag image ∧
      relocateFrom folder (expectsFolder before) (flag :: rest) =
        image.toList ++ relocateFrom folder (expectsFolder (some flag)) rest := by
  rw [relocateFrom_cons]
  by_cases attached : IsAttached flag
  · obtain ⟨start, isStart, path, runs, rfl⟩ := attached
    refine ⟨_, .attached isStart runs rfl, ?_⟩
    rw [replacement_append isStart runs, if_neg]
    · rfl
    · exact fun nothing => start_ne_empty isStart (String.append_eq_empty_iff.mp nothing).1
  · rw [replacement_of_not_isAttached attached]
    cases expected : expectsFolder before with
    | true =>
        refine ⟨_, .argument attached expected, ?_⟩
        rw [if_pos rfl, if_neg (Path.ne_empty_of_isAbsolute (Path.isAbsolute_join rooted flag))]
        rfl
    | false =>
        by_cases absent : flag = ""
        · exact ⟨_, .dropped expected absent, by subst absent; rfl⟩
        · refine ⟨_, .same attached expected absent, ?_⟩
          rw [if_neg Bool.false_ne_true, if_neg absent]
          rfl

end Step

/-- Each flag with the one before it. -/
def withBefore (before : Option String) (flags : List String) : List (Option String × String) :=
  (before :: flags.map some).zip flags

theorem exists_images {folder : String} (rooted : Path.isAbsolute folder) (before : Option String) (flags : List String) :
    ∃ images : List (Option String),
      List.Forall₂ (fun placed image => Becomes folder placed.1 placed.2 image) (withBefore before flags) images ∧
        relocateFrom folder (expectsFolder before) flags = images.reduceOption := by
  induction flags generalizing before with
  | nil => exact ⟨[], .nil, rfl⟩
  | cons flag rest ih =>
      obtain ⟨image, becomes, replaced⟩ := exists_becomes rooted before flag rest
      obtain ⟨images, each, later⟩ := ih (some flag)
      refine ⟨image :: images, .cons becomes each, ?_⟩
      rw [replaced, later]
      cases image <;> rfl

/-- Flags in which every folder is absolute, given the flag before them. -/
inductive Settled : Option String → List String → Prop
  | nil (before : Option String) : Settled before []
  | cons {before : Option String} {flag : String} {rest : List String} (present : flag ≠ "")
      (runs : ∀ start ∈ relocatedFlags, ∀ path, path ≠ "" → flag = start ++ path → Path.isAbsolute path)
      (argument : expectsFolder before → Path.isAbsolute flag ∨ IsAttached flag) (later : Settled (some flag) rest) :
      Settled before (flag :: rest)

namespace Settled

variable {folder : String} {before other : Option String} {flag : String} {flags : List String}

theorem of_imp (settled : Settled before flags) (fewer : expectsFolder other → expectsFolder before) : Settled other flags := by
  cases settled with
  | nil => exact .nil other
  | cons present runs argument later => exact .cons present runs (argument ∘ fewer) later

theorem absolute_of_mem (settled : Settled before flags) {start path : String} (isStart : start ∈ relocatedFlags)
    (runs : path ≠ "") (member : start ++ path ∈ flags) : Path.isAbsolute path := by
  induction settled with
  | nil => cases member
  | cons present continues argument later ih =>
      cases member with
      | head => exact continues start isStart path runs rfl
      | tail _ member => exact ih member

/-- Settled flags become themselves. -/
theorem eq_of_becomes (settled : Settled before (flag :: flags)) {image : Option String} (becomes : Becomes folder before flag image) :
    image = some flag := by
  cases settled with
  | cons present runs argument later =>
      cases becomes with
      | attached isStart continues cut =>
          rw [Path.join_of_isAbsolute (runs _ isStart _ continues cut), cut]
      | argument alone expected =>
          rw [Path.join_of_isAbsolute ((argument expected).resolve_right alone)]
      | same => rfl
      | dropped _ absent => exact absurd absent present

theorem relocateFrom_eq (rooted : Path.isAbsolute folder) (settled : Settled before flags) :
    relocateFrom folder (expectsFolder before) flags = flags := by
  induction flags generalizing before with
  | nil => rfl
  | cons flag rest ih =>
      obtain ⟨image, becomes, replaced⟩ := exists_becomes rooted before flag rest
      rw [replaced, settled.eq_of_becomes becomes]
      cases settled with
      | cons present runs argument later =>
          rw [ih later]
          rfl

theorem relocateFrom (rooted : Path.isAbsolute folder) (before : Option String) (flags : List String) :
    Settled before (Flags.relocateFrom folder (expectsFolder before) flags) := by
  induction flags generalizing before with
  | nil => exact .nil before
  | cons flag rest ih =>
      obtain ⟨image, becomes, replaced⟩ := exists_becomes rooted before flag rest
      rw [replaced]
      have later := ih (some flag)
      cases becomes with
      | @attached start path isStart runs cut =>
          have rootedPath := Path.isAbsolute_join rooted path
          have attached : IsAttached (start ++ Path.join folder path) :=
            ⟨start, isStart, _, Path.ne_empty_of_isAbsolute rootedPath, rfl⟩
          refine .cons ?_ ?_ (fun _ => .inr attached) (later.of_imp fun expected => ?_)
          · exact fun nothing => start_ne_empty isStart (String.append_eq_empty_iff.mp nothing).1
          · intro other isOther otherPath _ same
            rwa [← (path_unique isStart isOther same).2]
          -- It still runs on, so what comes next is not its argument now either.
          · exact absurd attached (not_isAttached_of_mem (List.contains_iff_mem.mp expected))
      -- An argument may have been a flag that takes a folder; once it is absolute it has no dash, and is none any more.
      | argument alone expected =>
          have rootedFlag := Path.isAbsolute_join rooted flag
          refine .cons (Path.ne_empty_of_isAbsolute rootedFlag) ?_ (fun _ => .inl rootedFlag) (later.of_imp fun again => ?_)
          · exact fun start isStart path runs cut =>
              absurd (startsWith_dash_of_isAttached ⟨start, isStart, path, runs, cut⟩) (not_startsWith_dash rootedFlag)
          · exact absurd (startsWith_dash (List.contains_iff_mem.mp again)) (not_startsWith_dash rootedFlag)
      | same alone unexpected present =>
          refine .cons present ?_ ?_ later
          · exact fun start isStart path runs cut => absurd ⟨start, isStart, path, runs, cut⟩ alone
          · simp [unexpected]
      | dropped unexpected absent => exact later.of_imp (by simp [unexpected])

end Settled

section Relocate

variable {folder : String} {flags : List String}

theorem relocate_eq (rooted : Path.isAbsolute folder) (flags : List String) :
    relocate flags folder = relocateFrom folder false flags := by
  have present := Path.ne_empty_of_isAbsolute rooted
  exact if_neg (by simpa using present)

/-- What becomes of a flag stands in its place. -/
theorem exists_image {images : List (Option String)}
    (each : List.Forall₂ (fun placed image => Becomes folder placed.1 placed.2 image) (withBefore none flags) images)
    {place : Nat} {before : Option String} {flag : String} (isBefore : (none :: flags.map some)[place]? = some before)
    (isFlag : flags[place]? = some flag) : ∃ image, images[place]? = some image ∧ Becomes folder before flag image := by
  have placed : (withBefore none flags)[place]? = some (before, flag) :=
    List.getElem?_zip_eq_some.mpr ⟨isBefore, isFlag⟩
  obtain ⟨inside, found⟩ := List.getElem?_eq_some_iff.mp placed
  have becomes := each.get inside (each.length_eq ▸ inside)
  rw [List.get_eq_getElem, found] at becomes
  exact ⟨_, List.getElem?_eq_getElem _, becomes⟩

/-- Folders are made absolute once and for all. Every flag that runs on into a folder then runs on into an absolute
one, the argument of a flag that takes a folder has become absolute, and each flag is kept in its place unless it is
empty. -/
theorem relocate_once_and_for_all (rooted : Path.isAbsolute folder) (flags : List String) :
    relocate (relocate flags folder) folder = relocate flags folder ∧
      (∀ start ∈ relocatedFlags, ∀ path, path ≠ "" → start ++ path ∈ relocate flags folder → Path.isAbsolute path) ∧
      ∃ images : List (Option String), relocate flags folder = images.reduceOption ∧
        List.Forall₂ (fun placed image => Becomes folder placed.1 placed.2 image) (withBefore none flags) images ∧
        (∀ (place : Nat) start flag, start ∈ relocatedFlags → flags[place]? = some start → flags[place + 1]? = some flag →
          ¬ startsWith flag "-" → ∃ path, images[place + 1]? = some (some path) ∧ Path.isAbsolute path) ∧
        ∀ (place : Nat) flag, flags[place]? = some flag → flag ≠ "" → ∃ image, images[place]? = some (some image) := by
  have settled := Settled.relocateFrom rooted none flags
  simp only [relocate_eq rooted]
  refine ⟨settled.relocateFrom_eq rooted, fun start isStart path runs => settled.absolute_of_mem isStart runs, ?_⟩
  obtain ⟨images, each, all⟩ := exists_images rooted none flags
  refine ⟨images, all, each, ?_, ?_⟩
  · intro place start flag isStart isBefore isFlag undashed
    have placed : (none :: flags.map some)[place + 1]? = some (some start) := by simpa using isBefore
    obtain ⟨image, isImage, becomes⟩ := exists_image each placed isFlag
    obtain ⟨path, rfl, rootedPath⟩ := becomes.absolute rooted (List.contains_iff_mem.mpr isStart) undashed
    exact ⟨path, isImage, rootedPath⟩
  · intro place flag isFlag present
    obtain ⟨inside, _⟩ := List.getElem?_eq_some_iff.mp isFlag
    have bound : place < (none :: flags.map some).length := by
      simp
      omega
    obtain ⟨image, isImage, becomes⟩ := exists_image each (List.getElem?_eq_getElem bound) isFlag
    obtain ⟨kept, rfl⟩ := becomes.kept present
    exact ⟨kept, isImage⟩

end Relocate

/-- A flag that takes a folder is itself taken for one, and an empty folder is the folder of the list. -/
theorem relocate_once_and_for_all_nested :
    let flags := ["-I", "-I", "lib", "-isystem", "", "", "-iquotesrc"]
    let moved := ["-I", "/work/-I", "/work/lib", "-isystem", "/work/", "-iquote/work/src"]
    Path.isAbsolute "/work" ∧ relocate flags "/work" = moved ∧ relocate moved "/work" = moved ∧
      Path.isAbsolute "/work/src" := by
  intro flags moved
  have rooted : Path.isAbsolute "/work" := by decide
  have isMoved : relocate flags "/work" = moved := by decide
  obtain ⟨again, absolute, _⟩ := relocate_once_and_for_all rooted flags
  rw [isMoved] at again absolute
  exact ⟨rooted, isMoved, again, absolute "-iquote" (by decide) "/work/src" (by decide) (by decide)⟩

end Flags

end Typeahead
