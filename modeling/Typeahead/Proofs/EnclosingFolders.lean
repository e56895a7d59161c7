import Mathlib.Data.List.Infix
import Mathlib.Data.List.Chain
import Mathlib.Data.List.Induction
import Mathlib.Logic.Function.Iterate
import Typeahead.Proofs.ConfConsent
import Typeahead.Proofs.PreparedFlags

namespace Typeahead

/-! The folders around a file. A path is taken apart from its end and put together again part by part; for a path
without repeated separators this gives its folder, the folder of that, and so on to the outermost one. The
configuration files for a source file are looked for in these folders, in this order, and the one for all projects
comes last. -/

namespace Path

section Cut

variable {before name path : List Char}

theorem cut_of_not_mem (noSeparator : '/' ∉ path) : cut path = ([], path) := by
  have all : path.reverse.takeWhile (· != '/') = path.reverse := by
    rw [List.takeWhile_eq_self_iff]
    intro character member
    simpa using ne_of_mem_of_not_mem (List.mem_reverse.mp member) noSeparator
  simp [cut, all]

theorem cut_append (noSeparator : '/' ∉ name) (before : List Char) :
    cut (before ++ '/' :: name) = (before ++ ['/'], name) := by
  have last : (before ++ '/' :: name).reverse.takeWhile (· != '/') = name.reverse := by
    have other : ∀ character ∈ name.reverse, (character != '/') = true := by
      intro character member
      simpa using ne_of_mem_of_not_mem (List.mem_reverse.mp member) noSeparator
    rw [List.reverse_append, List.reverse_cons, List.append_assoc, List.takeWhile_append_of_pos other]
    simp
  have start : (before ++ '/' :: name).length - name.length = (before ++ ['/']).length := by
    simp only [List.length_append, List.length_cons, List.length_nil]
    omega
  simp only [cut, last, List.reverse_reverse, start]
  rw [List.append_cons before '/' name, List.take_left]

theorem trimSeparators_append (inside : before ≠ []) (trimmed : '/' ∉ before.getLast?) :
    trimSeparators (before ++ ['/']) = before := by
  obtain ⟨start, last, rfl⟩ := (List.eq_nil_or_concat before).resolve_left inside
  have other : last ≠ '/' := by simpa using trimmed
  simp [trimSeparators, other]

theorem folderChars_of_not_mem (noSeparator : '/' ∉ path) : folderChars path = [] := by
  rw [folderChars, cut_of_not_mem noSeparator]
  rfl

theorem folderChars_in_root (noSeparator : '/' ∉ name) : folderChars ('/' :: name) = ['/'] := by
  rw [folderChars, ← List.nil_append ('/' :: name), cut_append noSeparator]
  rfl

theorem folderChars_append (inside : before ≠ []) (trimmed : '/' ∉ before.getLast?) (noSeparator : '/' ∉ name) :
    folderChars (before ++ '/' :: name) = before := by
  rw [folderChars, cut_append noSeparator, trimSeparators_append inside trimmed]

theorem nameChars_of_not_mem (noSeparator : '/' ∉ path) : nameChars path = path := by
  rw [nameChars, cut_of_not_mem noSeparator]

theorem nameChars_append (noSeparator : '/' ∉ name) (before : List Char) :
    nameChars (before ++ '/' :: name) = name := by
  rw [nameChars, cut_append noSeparator]

end Cut

section Folders

/-- The paths of folders, without repeated separators and without one at the end, the root apart. -/
inductive IsFolder : List Char → Prop
  | root : IsFolder ['/']
  | first {name : List Char} (named : name ≠ []) (noSeparator : '/' ∉ name) : IsFolder name
  | inRoot {name : List Char} (named : name ≠ []) (noSeparator : '/' ∉ name) : IsFolder ('/' :: name)
  | inFolder {before name : List Char} (outer : IsFolder before) (notRoot : before ≠ ['/']) (named : name ≠ [])
      (noSeparator : '/' ∉ name) : IsFolder (before ++ '/' :: name)

variable {path folder name : List Char}

theorem IsFolder.ne_nil (isFolder : IsFolder folder) : folder ≠ [] := by
  cases isFolder with
  | root => simp
  | first named _ => exact named
  | inRoot _ _ => simp
  | inFolder _ _ _ _ => simp

theorem not_mem_getLast? (noSeparator : '/' ∉ name) : '/' ∉ name.getLast? :=
  fun isLast => noSeparator (List.mem_of_getLast? isLast)

theorem IsFolder.trimmed (isFolder : IsFolder folder) (notRoot : folder ≠ ['/']) : '/' ∉ folder.getLast? := by
  cases isFolder with
  | root => exact absurd rfl notRoot
  | first _ noSeparator => exact not_mem_getLast? noSeparator
  | inRoot named noSeparator =>
      rw [List.getLast?_cons_of_ne_nil named]
      exact not_mem_getLast? noSeparator
  | inFolder _ _ named noSeparator =>
      rw [List.getLast?_append_of_ne_nil _ (List.cons_ne_nil _ _), List.getLast?_cons_of_ne_nil named]
      exact not_mem_getLast? noSeparator

theorem exists_last_separator (mem : '/' ∈ path) : ∃ before name, path = before ++ '/' :: name ∧ '/' ∉ name := by
  obtain ⟨name, before, split, absent⟩ := List.eq_append_cons_of_mem (List.mem_reverse.mpr mem)
  refine ⟨before.reverse, name.reverse, ?_, by simpa using absent⟩
  rw [← List.reverse_reverse path, split]
  simp

theorem trimmed_of_single {before : List Char} (single : ¬ ['/', '/'] <:+: before ++ '/' :: name) :
    '/' ∉ before.getLast? := by
  intro isLast
  obtain ⟨start, rfl⟩ := List.getLast?_eq_some_iff.mp isLast
  exact single ⟨start, name, by simp⟩

theorem isFolder_of_single {path : List Char} (single : ¬ ['/', '/'] <:+: path) (inside : path ≠ [])
    (trimmed : '/' ∉ path.getLast?) : IsFolder path := by
  by_cases mem : '/' ∈ path
  · obtain ⟨before, name, rfl, noSeparator⟩ := exists_last_separator mem
    have named : name ≠ [] := by
      rintro rfl
      simp at trimmed
    by_cases first : before = []
    · subst first
      exact .inRoot named noSeparator
    · have outerTrimmed := trimmed_of_single single
      have outerSingle : ¬ ['/', '/'] <:+: before := fun twice => single (twice.trans (List.prefix_append _ _).isInfix)
      have outer := isFolder_of_single outerSingle first outerTrimmed
      refine .inFolder outer ?_ named noSeparator
      rintro rfl
      simp at outerTrimmed
  · exact .first inside mem
termination_by path.length
decreasing_by simp_all

theorem isFolder_folderChars (single : ¬ ['/', '/'] <:+: path) (inside : folderChars path ≠ []) :
    IsFolder (folderChars path) := by
  by_cases mem : '/' ∈ path
  · obtain ⟨before, name, rfl, noSeparator⟩ := exists_last_separator mem
    by_cases first : before = []
    · subst first
      rw [List.nil_append, folderChars_in_root noSeparator]
      exact .root
    · have trimmed := trimmed_of_single single
      rw [folderChars_append first trimmed noSeparator]
      exact isFolder_of_single (fun twice => single (twice.trans (List.prefix_append _ _).isInfix)) first trimmed
  · exact absurd (folderChars_of_not_mem mem) inside

end Folders

section Joining

variable {before name : List Char}

theorem not_isAbsolute_of_not_mem (noSeparator : '/' ∉ name) : isAbsolute (String.ofList name) = false := by
  rw [isAbsolute, ← Bool.not_eq_true, Text.startsWith_iff]
  intro starts
  have member := starts.subset (List.mem_singleton_self '/')
  exact noSeparator (by simpa using member)

theorem join_in_root (noSeparator : '/' ∉ name) : join "/" (String.ofList name) = String.ofList ('/' :: name) := by
  have atRoot : ("/".isEmpty || Text.endsWith "/" "/") = true := by decide
  rw [join, not_isAbsolute_of_not_mem noSeparator, atRoot]
  apply String.toList_inj.mp
  simp

theorem join_ofList (inside : before ≠ []) (trimmed : '/' ∉ before.getLast?) (noSeparator : '/' ∉ name) :
    join (String.ofList before) (String.ofList name) = String.ofList (before ++ '/' :: name) := by
  have notEmpty : (String.ofList before).isEmpty = false := by simpa using inside
  have endsOtherwise : Text.endsWith (String.ofList before) "/" = false := by
    obtain ⟨start, last, rfl⟩ := (List.eq_nil_or_concat before).resolve_left inside
    have other : last ≠ '/' := by simpa using trimmed
    simp [Text.endsWith, List.isSuffixOf, List.isPrefixOf, other.symm]
  rw [join, not_isAbsolute_of_not_mem noSeparator, notEmpty, endsOtherwise]
  apply String.toList_inj.mp
  simp

theorem folder_join {folder : String} (isFolder : IsFolder folder.toList) (noSeparator : '/' ∉ name) :
    Path.folder (join folder (String.ofList name)) = folder := by
  by_cases isRoot : folder.toList = ['/']
  · obtain rfl : folder = "/" := String.toList_inj.mp isRoot
    rw [join_in_root noSeparator, Path.folder, String.toList_ofList, folderChars_in_root noSeparator]
  · have trimmed := isFolder.trimmed isRoot
    have joined := join_ofList isFolder.ne_nil trimmed noSeparator
    rw [String.ofList_toList] at joined
    rw [joined, Path.folder, String.toList_ofList, folderChars_append isFolder.ne_nil trimmed noSeparator,
      String.ofList_toList]

end Joining

section Enclosing

/-- Parts put together again. -/
def joined : List String → String
  | [] => ""
  | first :: rest => joinAll first rest

/-- What the first parts give, the longest first. -/
def foldersOf (parts : List String) : List String :=
  ((List.range parts.length).map fun index => joined (parts.take (index + 1))).reverse

theorem enclosing_eq (path : String) : enclosing path = foldersOf (components (folder path)) := rfl

theorem joined_concat {parts : List String} (inside : parts ≠ []) (last : String) :
    joined (parts ++ [last]) = join (joined parts) last := by
  cases parts with
  | nil => exact absurd rfl inside
  | cons first rest => exact List.foldl_append

theorem foldersOf_concat (parts : List String) (last : String) :
    foldersOf (parts ++ [last]) = joined (parts ++ [last]) :: foldersOf parts := by
  have earlier : (List.range parts.length).map (fun index => joined ((parts ++ [last]).take (index + 1))) =
      (List.range parts.length).map fun index => joined (parts.take (index + 1)) := by
    refine List.map_congr_left fun index within => ?_
    rw [List.take_append_of_le_length (List.mem_range.mp within)]
  have whole : (parts ++ [last]).take (parts.length + 1) = parts ++ [last] := List.take_of_length_le (by simp)
  rw [foldersOf, List.length_append, List.length_singleton, List.range_succ, List.map_append, earlier,
    List.reverse_append, List.map_singleton, whole]
  rfl

theorem componentChars_eq_concat {path : List Char} (named : nameChars path ≠ []) :
    componentChars path = componentChars (folderChars path) ++ [nameChars path] := by
  rw [componentChars]
  simp [named]

theorem componentChars_root : componentChars ['/'] = [['/']] := by
  have nameless : nameChars ['/'] = [] := by decide
  have itself : folderChars ['/'] = ['/'] := by decide
  rw [componentChars]
  simp [nameless, itself]

variable {folder before name : List Char}

theorem componentChars_first (named : name ≠ []) (noSeparator : '/' ∉ name) : componentChars name = [name] := by
  have nowhere : componentChars [] = [] := by
    rw [componentChars]
    decide
  rw [componentChars_eq_concat (by rwa [nameChars_of_not_mem noSeparator]), folderChars_of_not_mem noSeparator,
    nameChars_of_not_mem noSeparator, nowhere, List.nil_append]

theorem componentChars_in_root (named : name ≠ []) (noSeparator : '/' ∉ name) :
    componentChars ('/' :: name) = [['/'], name] := by
  have itsName : nameChars ('/' :: name) = name := nameChars_append noSeparator []
  rw [componentChars_eq_concat (by rwa [itsName]), folderChars_in_root noSeparator, itsName, componentChars_root]
  rfl

theorem componentChars_append (outer : IsFolder before) (notRoot : before ≠ ['/']) (named : name ≠ [])
    (noSeparator : '/' ∉ name) : componentChars (before ++ '/' :: name) = componentChars before ++ [name] := by
  rw [componentChars_eq_concat (by rwa [nameChars_append noSeparator]), nameChars_append noSeparator,
    folderChars_append outer.ne_nil (outer.trimmed notRoot) noSeparator]

theorem IsFolder.componentChars_ne_nil (isFolder : IsFolder folder) : componentChars folder ≠ [] := by
  cases isFolder with
  | root => simp [componentChars_root]
  | first named noSeparator => simp [componentChars_first named noSeparator]
  | inRoot named noSeparator => simp [componentChars_in_root named noSeparator]
  | inFolder outer notRoot named noSeparator => simp [componentChars_append outer notRoot named noSeparator]

theorem IsFolder.joined_components (isFolder : IsFolder folder) :
    joined ((componentChars folder).map String.ofList) = String.ofList folder := by
  induction isFolder with
  | root =>
      rw [componentChars_root]
      rfl
  | first named noSeparator =>
      rw [componentChars_first named noSeparator]
      rfl
  | inRoot named noSeparator =>
      rw [componentChars_in_root named noSeparator]
      exact join_in_root noSeparator
  | inFolder outer notRoot named noSeparator ih =>
      have parts : (componentChars _).map String.ofList ≠ [] := List.map_eq_nil_iff.not.mpr outer.componentChars_ne_nil
      rw [componentChars_append outer notRoot named noSeparator, List.map_append, List.map_singleton,
        joined_concat parts, ih, join_ofList outer.ne_nil (outer.trimmed notRoot) noSeparator]

/-- A folder and those around it. -/
def outwards (folder : List Char) : List String := foldersOf ((componentChars folder).map String.ofList)

theorem enclosing_eq_outwards (path : String) : enclosing path = outwards (folderChars path.toList) := by
  rw [enclosing_eq, components, Path.folder, String.toList_ofList]
  rfl

theorem outwards_root : outwards ['/'] = ["/"] := by
  rw [outwards, componentChars_root]
  rfl

theorem outwards_first (named : name ≠ []) (noSeparator : '/' ∉ name) : outwards name = [String.ofList name] := by
  rw [outwards, componentChars_first named noSeparator]
  rfl

theorem outwards_in_root (named : name ≠ []) (noSeparator : '/' ∉ name) :
    outwards ('/' :: name) = [String.ofList ('/' :: name), "/"] := by
  rw [outwards, componentChars_in_root named noSeparator, ← join_in_root noSeparator]
  rfl

theorem outwards_append (outer : IsFolder before) (notRoot : before ≠ ['/']) (named : name ≠ [])
    (noSeparator : '/' ∉ name) :
    outwards (before ++ '/' :: name) = String.ofList (before ++ '/' :: name) :: outwards before := by
  have whole := (IsFolder.inFolder outer notRoot named noSeparator).joined_components
  rw [componentChars_append outer notRoot named noSeparator, List.map_append, List.map_singleton] at whole
  rw [outwards, componentChars_append outer notRoot named noSeparator, List.map_append, List.map_singleton,
    foldersOf_concat, whole]
  rfl

theorem IsFolder.head?_outwards (isFolder : IsFolder folder) :
    (outwards folder).head? = some (String.ofList folder) := by
  cases isFolder with
  | root => rw [outwards_root]; rfl
  | first named noSeparator => rw [outwards_first named noSeparator]; rfl
  | inRoot named noSeparator => rw [outwards_in_root named noSeparator]; rfl
  | inFolder outer notRoot named noSeparator => rw [outwards_append outer notRoot named noSeparator]; rfl

theorem IsFolder.of_mem_outwards (isFolder : IsFolder folder) {around : String} (member : around ∈ outwards folder) :
    IsFolder around.toList := by
  induction isFolder with
  | root =>
      rw [outwards_root, List.mem_singleton] at member
      subst member
      exact .root
  | first named noSeparator =>
      rw [outwards_first named noSeparator, List.mem_singleton] at member
      subst member
      rw [String.toList_ofList]
      exact .first named noSeparator
  | inRoot named noSeparator =>
      rw [outwards_in_root named noSeparator, List.mem_pair] at member
      rcases member with rfl | rfl
      · rw [String.toList_ofList]
        exact .inRoot named noSeparator
      · exact .root
  | inFolder outer notRoot named noSeparator ih =>
      rw [outwards_append outer notRoot named noSeparator, List.mem_cons] at member
      rcases member with rfl | later
      · rw [String.toList_ofList]
        exact .inFolder outer notRoot named noSeparator
      · exact ih later

/-- The next folder: the one that a folder lies in. -/
def Next (inner outer : String) : Prop := Path.folder inner = outer ∧ outer.length < inner.length

theorem IsFolder.isChain_outwards (isFolder : IsFolder folder) : (outwards folder).IsChain Next := by
  induction isFolder with
  | root =>
      rw [outwards_root]
      exact .singleton _
  | first named noSeparator =>
      rw [outwards_first named noSeparator]
      exact .singleton _
  | inRoot named noSeparator =>
      rw [outwards_in_root named noSeparator, List.isChain_pair, Next, Path.folder, String.toList_ofList,
        folderChars_in_root noSeparator]
      exact ⟨rfl, by simpa using List.length_pos_of_ne_nil named⟩
  | @inFolder before name outer notRoot named noSeparator ih =>
      rw [outwards_append outer notRoot named noSeparator, List.isChain_cons]
      refine ⟨fun next isNext => ?_, ih⟩
      rw [outer.head?_outwards, Option.mem_some_iff] at isNext
      subst isNext
      rw [Next, Path.folder, String.toList_ofList, folderChars_append outer.ne_nil (outer.trimmed notRoot) noSeparator]
      refine ⟨rfl, ?_⟩
      rw [String.length_ofList, String.length_ofList, List.length_append, List.length_cons]
      omega

/-- The outermost folder on the way to a file: the root, or the first part. -/
def outermost (path : String) : String :=
  if isAbsolute path then "/" else String.ofList (path.toList.takeWhile (· != '/'))

theorem isAbsolute_iff {path : String} : isAbsolute path = true ↔ path.toList.head? = some '/' := by
  rw [isAbsolute, Text.startsWith_iff, show "/".toList = ['/'] from rfl, List.singleton_prefix_iff_head?_eq_some]

theorem outermost_append (inside : before ≠ []) (name : List Char) :
    outermost (String.ofList (before ++ '/' :: name)) = outermost (String.ofList before) := by
  have start : isAbsolute (String.ofList (before ++ '/' :: name)) = isAbsolute (String.ofList before) := by
    rw [Bool.eq_iff_iff, isAbsolute_iff, isAbsolute_iff, String.toList_ofList, String.toList_ofList,
      List.head?_append_of_ne_nil _ inside]
  have first : (before ++ '/' :: name).takeWhile (· != '/') = before.takeWhile (· != '/') := by
    rw [List.takeWhile_append]
    split
    · rename_i same
      rw [(List.takeWhile_prefix _).eq_of_length same]
      simp
    · rfl
  simp only [outermost, start, String.toList_ofList, first]

theorem IsFolder.getLast?_outwards (isFolder : IsFolder folder) :
    (outwards folder).getLast? = some (outermost (String.ofList folder)) := by
  induction isFolder with
  | root =>
      rw [outwards_root]
      decide
  | @first name named noSeparator =>
      have whole : name.takeWhile (· != '/') = name := by
        rw [List.takeWhile_eq_self_iff]
        intro character member
        simpa using ne_of_mem_of_not_mem member noSeparator
      rw [outwards_first named noSeparator, outermost, not_isAbsolute_of_not_mem noSeparator, String.toList_ofList,
        whole]
      rfl
  | @inRoot name named noSeparator =>
      have absolute : isAbsolute (String.ofList ('/' :: name)) = true := isAbsolute_iff.mpr (by simp)
      rw [outwards_in_root named noSeparator, outermost, absolute]
      rfl
  | inFolder outer notRoot named noSeparator ih =>
      have further : outwards _ ≠ [] := List.ne_nil_of_mem (List.mem_of_getLast? ih)
      rw [outwards_append outer notRoot named noSeparator, List.getLast?_cons_of_ne_nil further, ih,
        outermost_append outer.ne_nil]

/-- A folder lies around another one: it is the folder that the other one lies in, or that one's folder, and so on. -/
def Encloses (outer inner : String) : Prop := outer.length < inner.length ∧ ∃ steps, Path.folder^[steps] inner = outer

theorem Encloses.trans {outermost outer inner : String} (further : Encloses outermost outer)
    (near : Encloses outer inner) : Encloses outermost inner := by
  obtain ⟨shorter, steps, rfl⟩ := near
  obtain ⟨shortest, more, rfl⟩ := further
  exact ⟨shortest.trans shorter, more + steps, Function.iterate_add_apply _ _ _ _⟩

theorem IsFolder.pairwise_outwards (isFolder : IsFolder folder) :
    (outwards folder).Pairwise fun inner outer => Encloses outer inner := by
  have chain : (outwards folder).IsChain fun inner outer => Encloses outer inner :=
    isFolder.isChain_outwards.imp fun inner outer next => ⟨next.2, 1, next.1⟩
  have : IsTrans String fun inner outer => Encloses outer inner := ⟨fun _ _ _ near further => further.trans near⟩
  exact List.isChain_iff_pairwise.mp chain

variable {path : String}

theorem outermost_folder (single : ¬ ['/', '/'] <:+: path.toList) (inside : folderChars path.toList ≠ []) :
    outermost (String.ofList (folderChars path.toList)) = outermost path := by
  by_cases mem : '/' ∈ path.toList
  · obtain ⟨before, name, split, noSeparator⟩ := exists_last_separator mem
    obtain rfl : path = String.ofList (before ++ '/' :: name) := by rw [← split, String.ofList_toList]
    rw [String.toList_ofList] at single ⊢
    by_cases first : before = []
    · subst first
      have absolute : isAbsolute (String.ofList ('/' :: name)) = true := isAbsolute_iff.mpr (by simp)
      rw [List.nil_append, folderChars_in_root noSeparator, outermost, outermost, absolute]
      rfl
    · rw [folderChars_append first (trimmed_of_single single) noSeparator, outermost_append first]
  · exact absurd (folderChars_of_not_mem mem) inside

end Enclosing

end Path

namespace Conf

open Typeahead.Path

variable {workspace : Workspace} {path global : String}

theorem run_fallback (isGlobal : IsGlobal workspace global) :
    fallback.run.run workspace = (.ok (if global ≠ "" ∧ workspace.has global then [global] else []), workspace) := by
  obtain ⟨text, given, rfl⟩ := isGlobal
  have reading : globalPath.run.run workspace = (.ok (workspace.expandHome text), workspace) := by
    unfold globalPath
    rw [Act.run_bind_ok (run_option_some given)]
    rfl
  have chosen : ∀ path : String, (if !path.isEmpty && workspace.has path then [path] else []) =
      if path ≠ "" ∧ workspace.has path then [path] else [] := by
    intro path
    simp only [Bool.and_eq_true, Bool.not_eq_true', ne_eq, ← Bool.not_eq_true, String.isEmpty_iff]
  unfold fallback
  rw [Act.run_bind_ok reading, Act.run_bind_ok (Act.run_get workspace), chosen]
  rfl

theorem run_candidates (isGlobal : IsGlobal workspace global) (path : String) :
    (candidates path).run.run workspace =
      (.ok (around workspace path ++ if global ≠ "" ∧ workspace.has global then [global] else []), workspace) := by
  unfold candidates
  rw [Act.run_bind_ok (Act.run_get workspace), Act.run_bind_ok (run_fallback isGlobal)]
  rfl

theorem folder_conf {folder : String} (isFolder : IsFolder folder.toList) :
    Path.folder (join folder fileName) = folder := by
  have noSeparator : '/' ∉ fileName.toList := by decide
  simpa using folder_join isFolder noSeparator

theorem pairwise_around {folder : List Char} (isFolder : IsFolder folder) (present : String → Bool) :
    (((outwards folder).map fun folder => join folder fileName).filter present).Pairwise fun inner outer =>
      Encloses (Path.folder outer) (Path.folder inner) := by
  refine List.Pairwise.filter _ (List.pairwise_map.mpr ?_)
  refine isFolder.pairwise_outwards.imp_of_mem fun inMember outMember encloses => ?_
  rwa [folder_conf (isFolder.of_mem_outwards inMember), folder_conf (isFolder.of_mem_outwards outMember)]

/-- The folders around a file lead outwards from its own one, and its configuration files are those that exist in them,
the nearest first, before the one for all projects. -/
theorem enclosing_folders_and_confs (inside : folder path ≠ "") (single : ¬ ['/', '/'] <:+: path.toList) :
    (enclosing path).head? = some (folder path) ∧
    (enclosing path).IsChain (fun inner outer => folder inner = outer) ∧
    (enclosing path).getLast? = some (outermost path) ∧
    (enclosing path).Nodup ∧
    ∀ workspace global, IsGlobal workspace global →
      ∃ near,
        (candidates path).run.run workspace =
          (.ok (near ++ if global ≠ "" ∧ workspace.has global then [global] else []), workspace) ∧
        (∀ file, file ∈ near ↔ (∃ around ∈ enclosing path, file = join around fileName) ∧ workspace.has file) ∧
        near.Pairwise fun inner outer => Encloses (folder outer) (folder inner) := by
  have some : folderChars path.toList ≠ [] := fun none => inside (congrArg String.ofList none)
  have isFolder := isFolder_folderChars single some
  rw [enclosing_eq_outwards]
  refine ⟨isFolder.head?_outwards, isFolder.isChain_outwards.imp fun _ _ next => next.1, ?_, ?_, ?_⟩
  · rw [isFolder.getLast?_outwards, outermost_folder single some]
  · exact isFolder.pairwise_outwards.imp fun encloses same => absurd encloses.1 (by simp [same])
  · intro workspace global isGlobal
    refine ⟨around workspace path, run_candidates isGlobal path, fun file => ?_, ?_⟩
    · rw [around, enclosing_eq_outwards, List.mem_filter, List.mem_map]
      simp only [eq_comm]
    · rw [around, enclosing_eq_outwards]
      exact pairwise_around isFolder _

def twoProjects : Workspace where
  files :=
    { files := [("/p/.ycm_extra_conf.py", ⟨.conf {}, 0⟩), ("/p/src/.ycm_extra_conf.py", ⟨.conf {}, 0⟩),
        ("/g.py", ⟨.conf {}, 0⟩)]
      folders := ["/", "/p", "/p/src"] }
  options := [("global_ycm_extra_conf", .text "/g.py")]

theorem enclosing_folders_and_confs_two_projects :
    folder "/p/src/x.c" ≠ "" ∧ ¬ ['/', '/'] <:+: "/p/src/x.c".toList ∧ IsGlobal twoProjects "/g.py" ∧
      (enclosing "/p/src/x.c").head? = some "/p/src" ∧ (enclosing "/p/src/x.c").getLast? = some "/" ∧
      ∃ near,
        (candidates "/p/src/x.c").run.run twoProjects = (.ok (near ++ ["/g.py"]), twoProjects) ∧
        "/p/src/.ycm_extra_conf.py" ∈ near ∧ "/p/.ycm_extra_conf.py" ∈ near ∧ "/.ycm_extra_conf.py" ∉ near := by
  have inside : folder "/p/src/x.c" ≠ "" := by decide
  have single : ¬ ['/', '/'] <:+: "/p/src/x.c".toList := by decide
  have isGlobal : IsGlobal twoProjects "/g.py" := ⟨"/g.py", rfl, by decide⟩
  have present : "/g.py" ≠ "" ∧ twoProjects.has "/g.py" := by decide +kernel
  have folders : enclosing "/p/src/x.c" = ["/p/src", "/p", "/"] := by
    have project : IsFolder ['/', 'p'] := .inRoot (by decide) (by decide)
    have source : folderChars "/p/src/x.c".toList = ['/', 'p'] ++ '/' :: ['s', 'r', 'c'] := by decide
    rw [enclosing_eq_outwards, source, outwards_append project (by decide) (by decide) (by decide),
      outwards_in_root (by decide) (by decide)]
    decide
  obtain ⟨first, -, last, -, confs⟩ := enclosing_folders_and_confs inside single
  obtain ⟨near, found, members, -⟩ := confs twoProjects "/g.py" isGlobal
  rw [if_pos present] at found
  have ownFolder : folder "/p/src/x.c" = "/p/src" := by decide
  have root : outermost "/p/src/x.c" = "/" := by decide
  rw [ownFolder] at first
  rw [root] at last
  refine ⟨inside, single, isGlobal, first, last, near, found, ?_, ?_, ?_⟩
  · exact (members _).mpr ⟨⟨"/p/src", by rw [folders]; decide, by decide⟩, by decide +kernel⟩
  · exact (members _).mpr ⟨⟨"/p", by rw [folders]; decide, by decide⟩, by decide +kernel⟩
  · exact fun member => absurd ((members _).mp member).2 (by decide +kernel)

end Conf

end Typeahead
