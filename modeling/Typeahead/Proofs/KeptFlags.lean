import Mathlib.Data.List.Induction
import Mathlib.Data.List.DropRight
import Typeahead.Flags.Cache
import Typeahead.Proofs.ConfAnswers

namespace Typeahead.Flags

/-! Which flags a file gets. As long as its configuration gives the same flags to be kept, a file has them in the form
in which they were first asked for since everything was last forgotten, in whatever form they are asked for later. -/

variable {workspace : Workspace} {path : String} {flags : List String}

/-- Flags of a file in the form that the engine gets, with or without its own folder of include files. -/
def formed (workspace : Workspace) (path : String) (flags : List String) (withOwn : Bool) : List String :=
  sanitize (removeUnusedFrom workspace.real path {}
    (dropCompiler (if withOwn then flags ++ ownIncludes workspace else flags)))

/-- A configuration has given flags, and lets them be kept. -/
structure Gives (result : Value) (flags : List String) : Prop where
  isReady : ((result.field? "flags_ready").getD (.bool true)).isPresent = true
  listed : ∃ list, result.field "flags" = .ok list ∧ list.elements = .ok (flags.map .text)
  nonempty : flags ≠ []
  isKept : ∃ value, result.field "do_cache" = .ok value ∧ value.isPresent = true

/-- A file has a configuration that gives the same flags for it whatever else it is told. -/
def Configured (workspace : Workspace) (path : String) (flags : List String) : Prop :=
  ∃ module, ((Conf.moduleFor path).run.run workspace).1 = .ok (some module) ∧
    ∀ data, ∃ result, Conf.flagsFor module path data = .ok result ∧ Gives result flags

theorem Configured.alike {after : Workspace} (configured : Configured workspace path flags)
    (alike : Conf.Alike workspace after) : Configured after path flags := by
  obtain ⟨module, found, gives⟩ := configured
  refine ⟨module, ?_, gives⟩
  rw [(Conf.steady_moduleFor path).answers workspace after alike]
  exact found

theorem formed_alike {after : Workspace} (alike : Conf.Alike workspace after) (path : String) (flags : List String)
    (withOwn : Bool) : formed after path flags withOwn = formed workspace path flags withOwn := by
  unfold formed ownIncludes
  rw [alike.real_eq, alike.places_eq]

theorem mapM_asTextFor (operation : String) (flags : List String) :
    (flags.map Value.text).mapM (Value.asTextFor operation) = .ok flags := by
  induction flags with
  | nil => rfl
  | cons flag rest ih =>
      rw [List.map_cons, List.mapM_cons, ih]
      rfl

theorem prepare_eq (workspace : Workspace) (path : String) (present : flags ≠ []) (withOwn : Bool) :
    prepare workspace.real (if withOwn then flags ++ ownIncludes workspace else flags) path =
      .ok (formed workspace path flags withOwn) := by
  cases flags with
  | nil => exact absurd rfl present
  | cons first rest => cases withOwn <;> rfl

section Asking

variable {cache : Cache} (withOwn : Bool) (data : Value)

theorem run_forFile_kept (kept : cache.kept.lookup path = some flags) (workspace : Workspace) :
    (forFile path withOwn data).run.run (cache, workspace) = (.ok (some flags), (cache, workspace)) := by
  have reading : (get : Cached _).run.run (cache, workspace) = (.ok (cache, workspace), (cache, workspace)) := rfl
  unfold forFile
  rw [Act.run_bind_ok reading]
  simp only [kept]
  rfl

theorem run_forFile_given (absent : cache.kept.lookup path = none) (configured : Configured workspace path flags) :
    ∃ after, Conf.Alike workspace after ∧ (forFile path withOwn data).run.run (cache, workspace) =
      (.ok (some (formed workspace path flags withOwn)),
        (cache.keep path (formed workspace path flags withOwn), after)) := by
  obtain ⟨module, found, answers⟩ := configured
  obtain ⟨result, isResult, gives⟩ := answers data
  obtain ⟨list, isList, elements⟩ := gives.listed
  obtain ⟨keep, isKeep, keeps⟩ := gives.isKept
  have alike := (Conf.steady_moduleFor path).keeps workspace
  rcases asking : (Conf.moduleFor path).run.run workspace with ⟨answer, after⟩
  rw [asking] at found alike
  simp only at found alike
  subst found
  refine ⟨after, alike, ?_⟩
  have reading (state : Cache × Workspace) : (get : Cached _).run.run state = (.ok state, state) := rfl
  unfold forFile
  rw [Act.run_bind_ok (reading _)]
  simp only [absent]
  rw [Act.run_bind_ok (Act.run_lift_ok asking cache)]
  simp only [isResult]
  rw [Act.run_bind_ok (Act.run_lift_except (.ok result) _)]
  cases result with
  | record fields =>
      have present : (Value.record fields).isPresent = true := by
        cases fields with
        | nil => cases isList
        | cons field rest => rfl
      have isReady : ((Value.Fields.get? fields "flags_ready").getD (.bool true)).isPresent = true := gives.isReady
      simp only [present, isReady, Bool.not_true, Bool.false_eq_true, if_false, pure_bind]
      have someFlags : (flags.map Value.text).isEmpty = false := by simpa using gives.nonempty
      rw [isList, Act.run_bind_ok (Act.run_lift_except (.ok list) _), elements,
        Act.run_bind_ok (Act.run_lift_except (.ok (flags.map Value.text)) _), someFlags, mapM_asTextFor]
      simp only [Bool.false_eq_true, if_false]
      rw [Act.run_bind_ok (Act.run_lift_except (.ok flags) _), Act.run_bind_ok (reading _)]
      simp only [prepare_eq after path gives.nonempty, formed_alike alike]
      rw [Act.run_bind_ok (Act.run_lift_except (.ok _) _), isKeep, Act.run_bind_ok (Act.run_lift_except (.ok keep) _),
        keeps]
      rfl
  | _ => cases isList

end Asking

/-- What is asked of kept flags. -/
inductive Call where
  | flags (path : String) (withOwn : Bool) (data : Value)
  | folders (path : String)
  | clear

namespace Call

def perform : Call → Cached Unit
  | .flags path withOwn data => do let _ ← forFile path withOwn data
  | .folders path => do let _ ← foldersFor path
  | .clear => Flags.clear

def isClear : Call → Bool
  | .clear => true
  | _ => false

/-- The form in which a call asks for the flags of a file. -/
def form? (path : String) : Call → Option Bool
  | .flags asked withOwn _ => if asked = path then some withOwn else none
  | .folders asked => if asked = path then some false else none
  | .clear => none

end Call

def afterCalls (calls : List Call) (state : Cache × Workspace) : Cache × Workspace :=
  calls.foldl (fun state call => (call.perform.run.run state).2) state

theorem afterCalls_concat (calls : List Call) (call : Call) (state : Cache × Workspace) :
    afterCalls (calls ++ [call]) state = (call.perform.run.run (afterCalls calls state)).2 := by
  simp [afterCalls]

/-- The form in which the flags of a file were first asked for since they were last forgotten. -/
def firstForm? (calls : List Call) (path : String) : Option Bool :=
  (calls.rtakeWhile (!·.isClear)).findSome? (Call.form? path)

theorem firstForm?_concat (calls : List Call) (call : Call) (path : String) :
    firstForm? (calls ++ [call]) path =
      if call.isClear then none else (firstForm? calls path).or (call.form? path) := by
  unfold firstForm?
  cases clears : call.isClear with
  | true =>
      rw [List.rtakeWhile_concat_neg _ _ _ (by simp [clears])]
      rfl
  | false =>
      rw [List.rtakeWhile_concat_pos _ _ _ (by simp [clears]), List.findSome?_append]
      simp only [List.findSome?_cons, List.findSome?_nil, Bool.false_eq_true, if_false]
      cases call.form? path <;> rfl

/-- What is kept after some calls. -/
structure Keeping (workspace : Workspace) (given : String → List String) (calls : List Call)
    (state : Cache × Workspace) : Prop where
  alike : Conf.Alike workspace state.2
  kept : ∀ path, state.1.kept.lookup path =
    (firstForm? calls path).map (formed workspace path (given path))

section Run

variable {given : String → List String} {calls : List Call} {state : Cache × Workspace}

theorem Keeping.forFile (keeping : Keeping workspace given calls state)
    (configured : Configured workspace path (given path)) (withOwn : Bool) (data : Value) :
    ((forFile path withOwn data).run.run state).1 =
        .ok (some (formed workspace path (given path) ((firstForm? calls path).getD withOwn))) ∧
      Conf.Alike workspace ((forFile path withOwn data).run.run state).2.2 ∧
      ∀ other, ((forFile path withOwn data).run.run state).2.1.kept.lookup other =
        ((firstForm? calls other).or (if path = other then some withOwn else none)).map
          (formed workspace other (given other)) := by
  obtain ⟨cache, after⟩ := state
  have kept := keeping.kept path
  cases first : firstForm? calls path with
  | some form =>
      rw [first, Option.map_some] at kept
      rw [run_forFile_kept withOwn data kept after]
      refine ⟨rfl, keeping.alike, fun other => ?_⟩
      rw [keeping.kept other]
      by_cases same : path = other
      · subst same
        rw [first]
        rfl
      · simp [same]
  | none =>
      rw [first, Option.map_none] at kept
      obtain ⟨last, alike, asking⟩ := run_forFile_given withOwn data kept (configured.alike keeping.alike)
      rw [formed_alike keeping.alike] at asking
      rw [asking]
      refine ⟨rfl, Conf.Alike.equivalence.trans keeping.alike alike, fun other => ?_⟩
      by_cases same : path = other
      · subst same
        rw [first]
        simp [Cache.keep]
      · rw [Cache.keep, Table.lookup_put_other _ _ (Ne.symm same), keeping.kept other]
        simp [same]

theorem Keeping.step (keeping : Keeping workspace given calls state) (call : Call)
    (configured : ∀ path form, call.form? path = some form → Configured workspace path (given path)) :
    Keeping workspace given (calls ++ [call]) (call.perform.run.run state).2 := by
  cases call with
  | flags path withOwn data =>
      have asked := keeping.forFile (configured path withOwn (by simp [Call.form?])) withOwn data
      simp only [Call.perform]
      rw [Act.run_effect]
      refine ⟨asked.2.1, fun other => ?_⟩
      rw [asked.2.2 other, firstForm?_concat]
      rfl
  | folders path =>
      have asked := keeping.forFile (configured path false (by simp [Call.form?])) false .null
      simp only [Call.perform, foldersFor]
      rw [Act.run_effect, Act.run_bind_pure]
      refine ⟨asked.2.1, fun other => ?_⟩
      rw [asked.2.2 other, firstForm?_concat]
      rfl
  | clear =>
      refine ⟨keeping.alike, fun other => ?_⟩
      rw [firstForm?_concat]
      rfl

theorem keeping_afterCalls (configured : ∀ call ∈ calls, ∀ path form, call.form? path = some form →
    Configured workspace path (given path)) : Keeping workspace given calls (afterCalls calls ({}, workspace)) := by
  induction calls using List.reverseRecOn with
  | nil => exact ⟨Conf.Alike.equivalence.refl workspace, fun _ => rfl⟩
  | append_singleton calls call ih =>
      rw [afterCalls_concat]
      have before := ih fun other member => configured other (List.mem_append_left _ member)
      exact before.step call (configured call (by simp))

end Run

/-- Whatever flags and folders of include files were asked for before: a file whose configuration gives the same flags
to be kept gets them in the form in which they were first asked for since everything was last forgotten. That is what a
cache without any flags would give exactly if the two forms come to the same. -/
theorem flags_kept_in_first_form (workspace : Workspace) (given : String → List String) (calls : List Call)
    (configured : ∀ call ∈ calls, ∀ path form, call.form? path = some form → Configured workspace path (given path))
    (path : String) (here : Configured workspace path (given path)) (withOwn : Bool) (data : Value) :
    let state := afterCalls calls ({}, workspace)
    let answer (cache : Cache) := ((forFile path withOwn data).run.run (cache, state.2)).1
    let form := (firstForm? calls path).getD withOwn
    answer state.1 = .ok (some (formed workspace path (given path) form)) ∧
    answer {} = .ok (some (formed workspace path (given path) withOwn)) ∧
    (answer state.1 = answer {} ↔
      formed workspace path (given path) form = formed workspace path (given path) withOwn) := by
  intro state answer form
  have keeping : Keeping workspace given calls state := keeping_afterCalls configured
  have unkept : Keeping workspace given [] ({}, state.2) := ⟨keeping.alike, fun _ => rfl⟩
  have kept : answer state.1 = .ok (some (formed workspace path (given path) form)) :=
    (keeping.forFile here withOwn data).1
  have fresh : answer {} = .ok (some (formed workspace path (given path) withOwn)) :=
    (unkept.forFile here withOwn data).1
  refine ⟨kept, fresh, ?_⟩
  rw [kept, fresh]
  simp

/-- Flags that were asked for with the engine's own include files come with these when they are wanted without. -/
theorem flags_kept_in_first_form_after_clear :
    let conf : ConfFile := { result := fun _ _ => .record [("flags", .list [.text "-Wall"]), ("do_cache", .bool true)] }
    let workspace : Workspace :=
      { confs := { modules := [("/p/.ycm_extra_conf.py", some ⟨"/p/.ycm_extra_conf.py", conf⟩)]
                   sources := [("/p/x.c", some "/p/.ycm_extra_conf.py")] } }
    let calls : List Call := [.folders "/p/x.c", .clear, .flags "/p/x.c" true .null]
    Configured workspace "/p/x.c" ["-Wall"] ∧
      ((forFile "/p/x.c" false .null).run.run (afterCalls calls ({}, workspace))).1 =
        .ok (some (formed workspace "/p/x.c" ["-Wall"] true)) := by
  intro conf workspace calls
  have gives : Gives (.record [("flags", .list [.text "-Wall"]), ("do_cache", .bool true)]) ["-Wall"] :=
    ⟨rfl, ⟨_, rfl, rfl⟩, List.cons_ne_nil _ _, ⟨_, rfl, rfl⟩⟩
  have configured : Configured workspace "/p/x.c" ["-Wall"] :=
    ⟨⟨"/p/.ycm_extra_conf.py", conf⟩, rfl, fun _ => ⟨_, rfl, gives⟩⟩
  have everywhere : ∀ call ∈ calls, ∀ path form, call.form? path = some form → Configured workspace path ["-Wall"] := by
    intro call member path form asked
    have isFile : "/p/x.c" = path := by
      simp only [calls, List.mem_cons, List.not_mem_nil, or_false] at member
      rcases member with same | same | same <;> subst same <;> simp_all [Call.form?]
    rw [← isFile]
    exact configured
  obtain ⟨answered, _⟩ :=
    flags_kept_in_first_form workspace (fun _ => ["-Wall"]) calls everywhere "/p/x.c" configured false .null
  exact ⟨configured, answered⟩

/-- Flags that were first asked for to learn their folders lack the engine's own include files from then on. -/
theorem flags_without_own_includes :
    let conf : ConfFile := { result := fun _ _ => .record [("flags", .list [.text "-Wall"]), ("do_cache", .bool true)] }
    let workspace : Workspace :=
      { confs := { modules := [("/p/.ycm_extra_conf.py", some ⟨"/p/.ycm_extra_conf.py", conf⟩)]
                   sources := [("/p/x.c", some "/p/.ycm_extra_conf.py")] } }
    let answer (state : Cache × Workspace) := ((forFile "/p/x.c" true .null).run.run state).1
    Configured workspace "/p/x.c" ["-Wall"] ∧
      answer (afterCalls [.folders "/p/x.c"] ({}, workspace)) = .ok (some ["-Wall"]) ∧
      answer ({}, workspace) = .ok (some ["-Wall", "-isystem", "/ycm/python/clang_includes"]) := by
  intro conf workspace answer
  have gives : Gives (.record [("flags", .list [.text "-Wall"]), ("do_cache", .bool true)]) ["-Wall"] :=
    ⟨rfl, ⟨_, rfl, rfl⟩, List.cons_ne_nil _ _, ⟨_, rfl, rfl⟩⟩
  have kept : (answer (afterCalls [.folders "/p/x.c"] ({}, workspace))).toOption = some (some ["-Wall"]) := by
    decide +kernel
  have fresh : (answer ({}, workspace)).toOption =
      some (some ["-Wall", "-isystem", "/ycm/python/clang_includes"]) := by decide +kernel
  exact ⟨⟨⟨"/p/.ycm_extra_conf.py", conf⟩, rfl, fun _ => ⟨_, rfl, gives⟩⟩, Act.eq_ok_of_toOption kept,
    Act.eq_ok_of_toOption fresh⟩

end Typeahead.Flags
