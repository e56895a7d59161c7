import Typeahead.Proofs.ConfConsent

namespace Typeahead

/-! Questions to the store of configuration files do not change each other's answers. What a question leaves in the
store is what the same question would find out again. -/

namespace Act

variable {σ α β : Type} {relation : σ → σ → Prop} {act : Act σ α} {next : α → Act σ β}

/-- States that are related get the same answer, and an act leads to a related state. -/
structure Steady (relation : σ → σ → Prop) (act : Act σ α) : Prop where
  keeps : act.Keeps relation
  answers : ∀ first second, relation first second → (act.run.run second).1 = (act.run.run first).1

theorem Steady.bind (equivalence : Equivalence relation) (before : act.Steady relation)
    (rest : ∀ value, (next value).Steady relation) : (act >>= next).Steady relation where
  keeps :=
    have : Chains relation := ⟨equivalence.refl, equivalence.trans⟩
    before.keeps.bind fun value => (rest value).keeps
  answers first second related := by
    have same := before.answers first second related
    have firstLeads := before.keeps first
    have secondLeads := before.keeps second
    rcases firstRun : act.run.run first with ⟨result, firstAfter⟩
    rcases secondRun : act.run.run second with ⟨secondResult, secondAfter⟩
    rw [firstRun] at firstLeads same
    rw [secondRun] at secondLeads same
    simp only at same firstLeads secondLeads
    subst same
    cases secondResult with
    | error fault => rw [run_bind_error firstRun, run_bind_error secondRun]
    | ok value =>
        rw [run_bind_ok firstRun, run_bind_ok secondRun]
        have afterwards := equivalence.trans (equivalence.symm firstLeads) (equivalence.trans related secondLeads)
        exact (rest value).answers firstAfter secondAfter afterwards

section Reading

variable (equivalence : Equivalence relation)
include equivalence

theorem steady_pure (value : α) : (pure value : Act σ α).Steady relation :=
  ⟨fun state => equivalence.refl state, fun _ _ _ => rfl⟩

theorem steady_throw (fault : Fault) : (throw fault : Act σ α).Steady relation :=
  ⟨fun state => equivalence.refl state, fun _ _ _ => rfl⟩

theorem steady_except (result : Except Fault α) : (liftM result : Act σ α).Steady relation :=
  ⟨fun state => equivalence.refl state, fun _ _ _ => rfl⟩

end Reading

theorem steady_get {look : σ → Act σ β} (same : ∀ first second, relation first second → look second = look first)
    (each : ∀ state, (look state).Steady relation) : (get >>= look).Steady relation where
  keeps state := (each state).keeps state
  answers first second related := by
    rw [run_bind_ok (run_get first), run_bind_ok (run_get second), same first second related]
    exact (each first).answers first second related

end Act

namespace Conf

variable {workspace after : Workspace} {path source : String}

/-- Workspaces that differ in their stores of configuration files only. -/
def SameScene (before after : Workspace) : Prop := ∃ confs, after = { before with confs }

theorem SameScene.equivalence : Equivalence SameScene where
  refl workspace := ⟨workspace.confs, rfl⟩
  symm := by
    intro before after scene
    obtain ⟨confs, isAfter⟩ := scene
    subst isAfter
    exact ⟨before.confs, rfl⟩
  trans := by
    intro first second third firstScene secondScene
    obtain ⟨confs, isSecond⟩ := firstScene
    obtain ⟨others, isThird⟩ := secondScene
    subst isSecond isThird
    exact ⟨others, rfl⟩

theorem sameScene_decided (workspace : Workspace) (path : String) (entry : Option ConfModule) :
    SameScene workspace (decided workspace path entry) := ⟨_, rfl⟩

theorem firstVerdict_confs (workspace : Workspace) (confs : ConfStore) (path : String) (patterns : List Value) :
    firstVerdict { workspace with confs } path patterns = firstVerdict workspace path patterns := by
  induction patterns with
  | nil => rfl
  | cons pattern rest ih =>
      simp only [firstVerdict, ih]
      rfl

section Scene

variable {relation : Workspace → Workspace → Prop} (equivalence : Equivalence relation)
  (scene : ∀ before after, relation before after → SameScene before after)

include scene in
theorem steady_reading {β : Type} {look : Workspace → Act Workspace β}
    (ignores : ∀ workspace confs, look { workspace with confs } = look workspace)
    (each : ∀ workspace, (look workspace).Steady relation) : (get >>= look).Steady relation := by
  refine Act.steady_get ?_ each
  intro before after related
  obtain ⟨confs, isAfter⟩ := scene before after related
  subst isAfter
  exact ignores before confs

include equivalence scene

theorem steady_option (key : String) : (Workspace.option key).Steady relation := by
  refine steady_reading scene (fun _ _ => rfl) fun workspace => ?_
  cases workspace.options.lookup key with
  | some value => exact Act.steady_pure equivalence value
  | none => exact Act.steady_throw equivalence _

theorem steady_globalPath : globalPath.Steady relation := by
  refine (steady_option equivalence scene _).bind equivalence fun value => ?_
  cases value with
  | text path => exact steady_reading scene (fun _ _ => rfl) fun workspace => Act.steady_pure equivalence _
  | _ => exact Act.steady_throw equivalence _

theorem steady_mayRun (path : String) : (mayRun path).Steady relation := by
  refine (steady_globalPath equivalence scene).bind equivalence fun isGlobal => ?_
  split
  · exact Act.steady_pure equivalence true
  refine (steady_option equivalence scene _).bind equivalence fun confirm => ?_
  split
  · exact Act.steady_pure equivalence true
  refine (steady_option equivalence scene _).bind equivalence fun listed => ?_
  refine (Act.steady_except equivalence _).bind equivalence fun patterns => ?_
  refine steady_reading scene (fun workspace confs => ?_) fun workspace => ?_
  · simp only [firstVerdict_confs]
  · refine (Act.steady_except equivalence _).bind equivalence fun verdict => ?_
    cases verdict with
    | some verdict => exact Act.steady_pure equivalence verdict
    | none => exact Act.steady_throw equivalence _

theorem steady_fallback : fallback.Steady relation := by
  refine (steady_globalPath equivalence scene).bind equivalence fun path => ?_
  exact steady_reading scene (fun _ _ => rfl) fun workspace => Act.steady_pure equivalence _

end Scene

section Loading

/-- What an unforced load finds out about a file that nothing is known of. -/
def unknownAnswer (workspace : Workspace) (path : String) : Except Fault (Option ConfModule) := do
  if ← ((mayRun path).run.run workspace).1 then
    return some (← ((run path).run.run workspace).1)
  else return none

/-- A file that something is known of is not looked at again. Anything else is kept as it was found out, as far as it
could be. -/
theorem run_load (workspace : Workspace) (path : String) (isPath : path.isEmpty = false) :
    match known? workspace path with
    | some entry => (load path).run.run workspace = (.ok entry, workspace)
    | none => (load path).run.run workspace =
        (unknownAnswer workspace path, match unknownAnswer workspace path with
          | .ok entry => decided workspace path entry
          | .error _ => workspace) := by
  unfold load
  simp only [isPath, Bool.false_eq_true, if_false]
  rw [Act.run_bind_ok (Act.run_get workspace)]
  cases known : known? workspace path with
  | some entry =>
      rw [known?] at known
      simp only [known]
      rfl
  | none =>
      rw [known?] at known
      simp only [known]
      obtain ⟨answer, asking, _⟩ := run_mayRun workspace path
      rcases answer with fault | _ | _
      · rw [Act.run_bind_error asking]
        simp only [unknownAnswer, asking]
        rfl
      · rw [Act.run_bind_ok asking]
        simp only [unknownAnswer, asking]
        rfl
      · rw [Act.run_bind_ok asking]
        rcases run_run workspace path with ⟨module, _, done⟩ | ⟨fault, failed⟩
        · simp only [if_true]
          rw [Act.run_bind_ok done]
          simp only [unknownAnswer, asking, done]
          rfl
        · simp only [if_true]
          rw [Act.run_bind_error failed]
          simp only [unknownAnswer, asking, failed]
          rfl

theorem steady_run (path : String) : (run path).Steady SameScene := by
  refine steady_reading (fun _ _ => id) (fun _ _ => rfl) fun workspace => ?_
  cases workspace.file? path with
  | some file => exact ⟨fun workspace => sameScene_decided workspace path _, fun _ _ _ => rfl⟩
  | none =>
      refine steady_reading (fun _ _ => id) (fun _ _ => rfl) fun workspace => ?_
      exact Act.steady_throw SameScene.equivalence _

theorem unknownAnswer_congr (scene : SameScene workspace after) (path : String) :
    unknownAnswer after path = unknownAnswer workspace path := by
  have mayRun := (steady_mayRun SameScene.equivalence (fun _ _ => id) path).answers workspace after scene
  have running := (steady_run path).answers workspace after scene
  simp only [unknownAnswer, mayRun, running]

/-- Every unforced load has the same answer. -/
structure SameLoads (before after : Workspace) : Prop where
  scene : SameScene before after
  loads : ∀ path, ((load path).run.run after).1 = ((load path).run.run before).1

theorem SameLoads.equivalence : Equivalence SameLoads where
  refl workspace := ⟨SameScene.equivalence.refl workspace, fun _ => rfl⟩
  symm same := ⟨SameScene.equivalence.symm same.scene, fun path => (same.loads path).symm⟩
  trans first second := ⟨SameScene.equivalence.trans first.scene second.scene,
    fun path => (second.loads path).trans (first.loads path)⟩

/-- It is no matter whether something is known already or still to be found out. -/
theorem sameLoads_of_known? (scene : SameScene workspace after)
    (known : ∀ path, path.isEmpty = false → known? after path = known? workspace path ∨
      (known? workspace path = none ∧ ∃ entry, unknownAnswer workspace path = .ok entry ∧
        known? after path = some entry)) : SameLoads workspace after := by
  refine ⟨scene, fun path => ?_⟩
  cases isPath : path.isEmpty with
  | true =>
      simp only [load, isPath, if_true]
      rfl
  | false =>
      have before := run_load workspace path isPath
      have afterwards := run_load after path isPath
      have unknown := unknownAnswer_congr scene path
      rcases known path isPath with same | ⟨isNew, entry, answer, isKnown⟩
      · rw [same] at afterwards
        cases isKnown : known? workspace path with
        | some entry => simp_all only
        | none => simp_all only
      · simp_all only

theorem keeps_load (path : String) : (load path).Keeps SameLoads := by
  intro workspace
  cases isPath : path.isEmpty with
  | true =>
      simp only [load, isPath, if_true]
      exact SameLoads.equivalence.refl workspace
  | false =>
      have loading := run_load workspace path isPath
      cases known : known? workspace path with
      | some entry =>
          simp only [known] at loading
          rw [loading]
          exact SameLoads.equivalence.refl workspace
      | none =>
          simp only [known] at loading
          rw [loading]
          cases answer : unknownAnswer workspace path with
          | error fault => exact SameLoads.equivalence.refl workspace
          | ok entry =>
              refine sameLoads_of_known? (sameScene_decided workspace path entry) fun other _ => ?_
              by_cases same : other = path
              · subst same
                exact Or.inr ⟨known, entry, answer, known?_decided_self workspace other entry⟩
              · exact Or.inl (known?_decided_other workspace entry same)

theorem steady_load (path : String) : (load path).Steady SameLoads :=
  ⟨keeps_load path, fun _ _ same => same.loads path⟩

theorem steady_firstLoaded (paths : List String) : (firstLoaded paths).Steady SameLoads := by
  induction paths with
  | nil => exact Act.steady_pure SameLoads.equivalence none
  | cons path rest ih =>
      refine (steady_load path).bind SameLoads.equivalence fun loaded => ?_
      cases loaded with
      | some module => exact Act.steady_pure SameLoads.equivalence (some path)
      | none => exact ih

end Loading

section Searching

/-- Looks for the configuration file of a source file that none is known for. -/
def search (source : String) : Act Workspace (Option String) := do
  match ← firstLoaded (around (← get) source) with
  | some path => return some path
  | none => do firstLoaded (← fallback)

theorem steady_search (source : String) : (search source).Steady SameLoads := by
  have scene : ∀ before after, SameLoads before after → SameScene before after := fun _ _ same => same.scene
  refine steady_reading scene (fun _ _ => rfl) fun workspace => ?_
  refine (steady_firstLoaded _).bind SameLoads.equivalence fun nearest => ?_
  cases nearest with
  | some path => exact Act.steady_pure SameLoads.equivalence (some path)
  | none =>
      refine (steady_fallback SameLoads.equivalence scene).bind SameLoads.equivalence fun last => ?_
      exact steady_firstLoaded last

theorem pathFor_eq (source : String) :
    pathFor source = (do
      match (← get).confs.sources.lookup source with
      | some known => return known
      | none => do
        let found ← search source
        assign source found
        return found) := by
  unfold pathFor search
  refine bind_congr fun workspace => ?_
  cases workspace.confs.sources.lookup source with
  | some known => rfl
  | none =>
      simp only [bind_assoc]
      refine bind_congr fun workspace => bind_congr fun nearest => ?_
      cases nearest with
      | some path => rfl
      | none =>
          simp only [bind_assoc]
          rfl

/-- What is known of a source file is not looked for again. Anything else is kept as it was found, if it was. -/
theorem run_pathFor (workspace : Workspace) (source : String) :
    match workspace.confs.sources.lookup source with
    | some known => (pathFor source).run.run workspace = (.ok known, workspace)
    | none => (pathFor source).run.run workspace =
        (((search source).run.run workspace).1, match (search source).run.run workspace with
          | (.ok found, after) => ((assign source found).run.run after).2
          | (.error _, after) => after) := by
  rw [pathFor_eq, Act.run_bind_ok (Act.run_get workspace)]
  cases workspace.confs.sources.lookup source with
  | some known => rfl
  | none =>
      rcases searching : (search source).run.run workspace with ⟨fault | found, after⟩
      · exact Act.run_bind_error searching
      · exact Act.run_bind_ok searching

/-- What is known of source files stays as it is. -/
def SameSources (before after : Workspace) : Prop := after.confs.sources = before.confs.sources

instance : Act.Chains SameSources := Act.chains_same fun workspace : Workspace => workspace.confs.sources

theorem keeps_load_sources (path : String) : (load path).Keeps SameSources := by
  intro workspace
  cases isPath : path.isEmpty with
  | true =>
      simp only [load, isPath, if_true]
      rfl
  | false =>
      have loading := run_load workspace path isPath
      cases known : known? workspace path with
      | some entry =>
          simp only [known] at loading
          rw [loading]
          rfl
      | none =>
          simp only [known] at loading
          rw [loading]
          cases unknownAnswer workspace path <;> rfl

theorem keeps_firstLoaded_sources (paths : List String) : (firstLoaded paths).Keeps SameSources := by
  induction paths with
  | nil => exact Act.keeps_pure none
  | cons path rest ih =>
      refine (keeps_load_sources path).bind fun loaded => ?_
      cases loaded with
      | some module => exact Act.keeps_pure (some path)
      | none => exact ih

theorem keeps_search_sources (source : String) : (search source).Keeps SameSources := by
  refine Act.keeps_get.bind fun workspace => ?_
  refine (keeps_firstLoaded_sources _).bind fun nearest => ?_
  cases nearest with
  | some path => exact Act.keeps_pure (some path)
  | none =>
      refine Act.Keeps.bind (fun workspace => ?_) keeps_firstLoaded_sources
      rw [SameSources, fallback_leaves]

/-- Every question has the same answer. -/
structure Alike (before after : Workspace) : Prop where
  loads : SameLoads before after
  paths : ∀ source, ((pathFor source).run.run after).1 = ((pathFor source).run.run before).1

theorem Alike.equivalence : Equivalence Alike where
  refl workspace := ⟨SameLoads.equivalence.refl workspace, fun _ => rfl⟩
  symm alike := ⟨SameLoads.equivalence.symm alike.loads, fun source => (alike.paths source).symm⟩
  trans first second := ⟨SameLoads.equivalence.trans first.loads second.loads,
    fun source => (second.paths source).trans (first.paths source)⟩

theorem Alike.real_eq (alike : Alike workspace after) : after.real = workspace.real := by
  obtain ⟨confs, isAfter⟩ := alike.loads.scene
  subst isAfter
  rfl

theorem Alike.places_eq (alike : Alike workspace after) : after.places = workspace.places := by
  obtain ⟨confs, isAfter⟩ := alike.loads.scene
  subst isAfter
  rfl

theorem alike_of_sources (same : SameLoads workspace after)
    (known : ∀ source, after.confs.sources.lookup source = workspace.confs.sources.lookup source ∨
      (workspace.confs.sources.lookup source = none ∧ ∃ found, ((search source).run.run workspace).1 = .ok found ∧
        after.confs.sources.lookup source = some found)) : Alike workspace after := by
  refine ⟨same, fun source => ?_⟩
  have before := run_pathFor workspace source
  have afterwards := run_pathFor after source
  have searching := (steady_search source).answers workspace after same
  rcases known source with unchanged | ⟨isNew, found, answer, isKnown⟩
  · rw [unchanged] at afterwards
    cases isKnown : workspace.confs.sources.lookup source with
    | some found => simp_all only
    | none => simp_all only
  · simp_all only

theorem keeps_load_alike (path : String) : (load path).Keeps Alike := fun workspace =>
  alike_of_sources (keeps_load path workspace) fun source => Or.inl (by rw [keeps_load_sources path workspace])

theorem keeps_pathFor (source : String) : (pathFor source).Keeps Alike := by
  intro workspace
  have finding := run_pathFor workspace source
  cases known : workspace.confs.sources.lookup source with
  | some found =>
      simp only [known] at finding
      rw [finding]
      exact Alike.equivalence.refl workspace
  | none =>
      simp only [known] at finding
      have same := (steady_search source).keeps workspace
      have sources := keeps_search_sources source workspace
      rcases searching : (search source).run.run workspace with ⟨fault | found, after⟩
      · rw [searching] at finding same sources
        rw [finding]
        exact alike_of_sources same fun other => Or.inl (by rw [sources])
      · rw [searching] at finding same sources
        rw [finding]
        -- What the search has left in the store of files stays; the source file is new among those that are known.
        have noted : SameLoads after ((assign source found).run.run after).2 :=
          sameLoads_of_known? ⟨_, rfl⟩ fun _ _ => Or.inl rfl
        refine alike_of_sources (SameLoads.equivalence.trans same noted) fun other => ?_
        by_cases isSource : other = source
        · subst isSource
          refine Or.inr ⟨known, found, by rw [searching], ?_⟩
          show List.lookup other ((other, found) :: after.confs.sources) = some found
          exact List.lookup_cons_self
        · refine Or.inl ?_
          show List.lookup other ((source, found) :: after.confs.sources) = _
          have different : (other == source) = false := beq_eq_false_iff_ne.mpr isSource
          rw [List.lookup_cons, different, show after.confs.sources = workspace.confs.sources from sources]

theorem steady_moduleFor (source : String) : (moduleFor source).Steady Alike := by
  have finding : (pathFor source).Steady Alike := ⟨keeps_pathFor source, fun _ _ alike => alike.paths source⟩
  refine finding.bind Alike.equivalence fun found => ?_
  cases found with
  | some path => exact ⟨keeps_load_alike path, fun _ _ alike => alike.loads.loads path⟩
  | none => exact Act.steady_pure Alike.equivalence none

end Searching

end Conf

end Typeahead
