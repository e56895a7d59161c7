import Mathlib.Data.List.Induction
import Typeahead.Proofs.ConfRuns

namespace Typeahead.Conf

/-! Configuration files are run with consent only. A file is run because that is forced, because it is the global one,
because the user wants no questions, or because the first pattern that covers it allows it. A file that was turned down
stays so until it is run by force. -/

variable {workspace : Workspace} {path : String}

/-- The configuration file for all projects. -/
def IsGlobal (workspace : Workspace) (path : String) : Prop :=
  ∃ text, workspace.options.lookup "global_ycm_extra_conf" = some (.text text) ∧ workspace.expandHome text = path

/-- The user is never asked about configuration files. -/
def NeverAsks (workspace : Workspace) : Prop :=
  ∃ value, workspace.options.lookup "confirm_extra_conf" = some value ∧ value.isPresent = false

/-- A pattern matches a file, whatever marks stand before it. -/
def Covers (workspace : Workspace) (path pattern : String) : Prop :=
  matchesPattern workspace path (String.ofList (pattern.toList.dropWhile (· == '!'))) = true

/-- The first pattern that covers a file has no mark before it. -/
def FirstAllows (workspace : Workspace) (path : String) (patterns : List Value) : Prop :=
  ∃ earlier pattern later, patterns = earlier ++ .text pattern :: later ∧
    (∀ other, .text other ∈ earlier → ¬ Covers workspace path other) ∧
    Covers workspace path pattern ∧ pattern.toList.head? ≠ some '!'

/-- The options consent to running a file. -/
def Consents (workspace : Workspace) (path : String) : Prop :=
  IsGlobal workspace path ∨ NeverAsks workspace ∨
    ∃ value patterns, workspace.options.lookup "extra_conf_globlist" = some value ∧ value.elements = .ok patterns ∧
      FirstAllows workspace path patterns

/-- Consent depends on the options, and on where the user is at home and works. -/
theorem consents_congr {other : Workspace} (options : other.options = workspace.options)
    (places : other.places = workspace.places) : Consents other path ↔ Consents workspace path := by
  simp only [Consents, IsGlobal, NeverAsks, FirstAllows, Covers, matchesPattern, Workspace.expandHome,
    Workspace.absolute, options, places]

theorem head?_of_nth_zero {letters : List Char} {first : Char} (found : Value.nth letters 0 = .ok first) :
    letters.head? = some first := by
  cases letters with
  | nil => cases found
  | cons letter rest =>
      have position : Value.position? (letter :: rest).length 0 = some 0 := by simp [Value.position?]
      simp only [Value.nth, position] at found
      cases found
      rfl

theorem firstVerdict_text (pattern : String) (rest : List Value) :
    firstVerdict workspace path (.text pattern :: rest) = (Value.nth pattern.toList 0 >>= fun first =>
      if matchesPattern workspace path (String.ofList (pattern.toList.dropWhile (· == '!'))) then .ok (some (first != '!'))
      else firstVerdict workspace path rest) := rfl

theorem firstAllows_of_firstVerdict {patterns : List Value}
    (allowed : firstVerdict workspace path patterns = .ok (some true)) : FirstAllows workspace path patterns := by
  induction patterns with
  | nil => cases allowed
  | cons pattern rest ih =>
      cases pattern with
      | text pattern =>
          rw [firstVerdict_text] at allowed
          cases found : Value.nth pattern.toList 0 with
          | error fault =>
              rw [found] at allowed
              cases allowed
          | ok first =>
              rw [found] at allowed
              change (if matchesPattern workspace path _ = true then _ else _) = _ at allowed
              split at allowed
              · rename_i covers
                refine ⟨[], pattern, rest, rfl, nofun, covers, ?_⟩
                rw [head?_of_nth_zero found]
                simp only [Except.ok.injEq, Option.some.injEq, bne_iff_ne] at allowed
                simpa using allowed
              · rename_i uncovered
                obtain ⟨earlier, allowing, later, rfl, others, covers, bare⟩ := ih allowed
                refine ⟨.text pattern :: earlier, allowing, later, rfl, ?_, covers, bare⟩
                intro other member
                rcases List.mem_cons.mp member with same | inRest
                · cases same
                  exact uncovered
                · exact others other inRest
      | _ => cases allowed

section Options

variable {key : String}

theorem run_option_some {value : Value} (found : workspace.options.lookup key = some value) :
    (Workspace.option key).run.run workspace = (.ok value, workspace) := by
  unfold Workspace.option
  rw [Act.run_bind_ok (Act.run_get workspace), found]
  rfl

theorem run_option_none (missing : workspace.options.lookup key = none) :
    (Workspace.option key).run.run workspace = (.error (.missing (.text key)), workspace) := by
  unfold Workspace.option
  rw [Act.run_bind_ok (Act.run_get workspace), missing]
  rfl

end Options

theorem run_globalPath (workspace : Workspace) :
    (∃ text, workspace.options.lookup "global_ycm_extra_conf" = some (.text text) ∧
      globalPath.run.run workspace = (.ok (workspace.expandHome text), workspace)) ∨
    ∃ fault, globalPath.run.run workspace = (.error fault, workspace) := by
  unfold globalPath
  cases found : workspace.options.lookup "global_ycm_extra_conf" with
  | none => exact Or.inr ⟨_, Act.run_bind_error (run_option_none found)⟩
  | some value =>
      rw [Act.run_bind_ok (run_option_some found)]
      cases value with
      | text text => exact Or.inl ⟨text, rfl, rfl⟩
      | _ => exact Or.inr ⟨_, rfl⟩

/-- Whether a file may be run is read from the options, and a yes is their consent. -/
theorem run_mayRun (workspace : Workspace) (path : String) :
    ∃ answer, (mayRun path).run.run workspace = (answer, workspace) ∧ (answer = .ok true → Consents workspace path) := by
  unfold mayRun
  rcases run_globalPath workspace with ⟨text, isText, reading⟩ | ⟨fault, failing⟩
  · rw [Act.run_bind_ok reading]
    by_cases isGlobal : path = workspace.expandHome text
    · subst isGlobal
      simp only [beq_self_eq_true, if_true]
      exact ⟨.ok true, rfl, fun _ => Or.inl ⟨text, isText, rfl⟩⟩
    · simp only [beq_iff_eq, isGlobal, if_false]
      cases confirm : workspace.options.lookup "confirm_extra_conf" with
      | none => exact ⟨_, Act.run_bind_error (run_option_none confirm), nofun⟩
      | some value =>
          rw [Act.run_bind_ok (run_option_some confirm)]
          cases asks : value.isPresent with
          | false => exact ⟨.ok true, rfl, fun _ => Or.inr (Or.inl ⟨value, confirm, asks⟩)⟩
          | true =>
              simp only [Bool.not_true, Bool.false_eq_true, if_false]
              cases listed : workspace.options.lookup "extra_conf_globlist" with
              | none => exact ⟨_, Act.run_bind_error (run_option_none listed), nofun⟩
              | some list =>
                  rw [Act.run_bind_ok (run_option_some listed)]
                  cases elements : list.elements with
                  | error fault => exact ⟨.error fault, rfl, nofun⟩
                  | ok patterns =>
                      rw [Act.run_bind_ok (Act.run_lift_except (.ok patterns) workspace),
                        Act.run_bind_ok (Act.run_get workspace)]
                      rcases decided : firstVerdict workspace path patterns with fault | _ | verdict
                      · exact ⟨.error fault, rfl, nofun⟩
                      · exact ⟨_, rfl, nofun⟩
                      · refine ⟨.ok verdict, rfl, ?_⟩
                        rintro ⟨⟩
                        exact Or.inr (Or.inr ⟨list, patterns, listed, elements, firstAllows_of_firstVerdict decided⟩)
  · exact ⟨_, Act.run_bind_error failing, nofun⟩

/-- The workspace in which a file has been loaded or turned down. -/
def decided (workspace : Workspace) (path : String) (entry : Option ConfModule) : Workspace :=
  { workspace with confs := { workspace.confs with modules := Table.put path entry workspace.confs.modules } }

/-- What is known of a file: nothing yet, that it was turned down, or its configuration. -/
def known? (workspace : Workspace) (path : String) : Option (Option ConfModule) := workspace.confs.modules.lookup path

theorem known?_decided_self (workspace : Workspace) (path : String) (entry : Option ConfModule) :
    known? (decided workspace path entry) path = some entry := Table.lookup_put_self path entry _

theorem known?_decided_other {other : String} (workspace : Workspace) (entry : Option ConfModule)
    (different : other ≠ path) : known? (decided workspace path entry) other = known? workspace other :=
  Table.lookup_put_other entry _ different

/-- A configuration is known under the path it was read from. -/
def Own (workspace : Workspace) : Prop := ∀ path module, known? workspace path = some (some module) → module.path = path

theorem Own.decided (own : Own workspace) {entry : Option ConfModule}
    (ofPath : ∀ module, entry = some module → module.path = path) : Own (decided workspace path entry) := by
  intro other module found
  by_cases same : other = path
  · subst same
    rw [known?_decided_self] at found
    exact ofPath module (Option.some.inj found)
  · rw [known?_decided_other _ _ same] at found
    exact own other module found

/-- Running a file that there is makes its configuration known; anything else changes nothing. -/
theorem run_run (workspace : Workspace) (path : String) :
    (∃ module, module.path = path ∧ (run path).run.run workspace = (.ok module, decided workspace path (some module))) ∨
      ∃ fault, (run path).run.run workspace = (.error fault, workspace) := by
  unfold run
  rw [Act.run_bind_ok (Act.run_get workspace)]
  cases workspace.file? path with
  | some file =>
      obtain ⟨content, modified⟩ := file
      cases content with
      | text content => exact Or.inl ⟨⟨path, { style := .missing }⟩, rfl, rfl⟩
      | conf conf => exact Or.inl ⟨⟨path, conf⟩, rfl, rfl⟩
  | none => exact Or.inr ⟨_, rfl⟩

/-- What an unforced call may do: it runs files that nothing was known of, with the consent of the options, and what
was known stays known. -/
structure Consulted (before after : List String × Workspace) : Prop where
  options : after.2.options = before.2.options
  places : after.2.places = before.2.places
  stays : ∀ path entry, known? before.2 path = some entry → known? after.2 path = some entry
  own : Own before.2 → Own after.2
  executed : ∃ new, after.1 = before.1 ++ new ∧
    ∀ path ∈ new, Consents before.2 path ∧ known? before.2 path = none

namespace Consulted

variable {before middle after : List String × Workspace}

theorem refl (state : List String × Workspace) : Consulted state state :=
  ⟨rfl, rfl, fun _ _ => id, id, [], by simp, nofun⟩

theorem trans (first : Consulted before middle) (second : Consulted middle after) : Consulted before after where
  options := second.options.trans first.options
  places := second.places.trans first.places
  stays path entry known := second.stays path entry (first.stays path entry known)
  own := second.own ∘ first.own
  executed := by
    obtain ⟨new, isNew, ofNew⟩ := first.executed
    obtain ⟨newer, isNewer, ofNewer⟩ := second.executed
    refine ⟨new ++ newer, by rw [isNewer, isNew, List.append_assoc], ?_⟩
    intro path member
    -- What was known before the first part would still be known to the second.
    rcases List.mem_append.mp member with inNew | inNewer
    · exact ofNew path inNew
    · obtain ⟨consents, unknown⟩ := ofNewer path inNewer
      refine ⟨(consents_congr first.options first.places).mp consents, ?_⟩
      cases known : known? before.2 path with
      | none => rfl
      | some entry =>
          rw [first.stays path entry known] at unknown
          cases unknown

theorem deciding (ran : List String) {entry : Option ConfModule} (unknown : known? workspace path = none)
    (ofPath : ∀ module, entry = some module → module.path = path) :
    Consulted (ran, workspace) (ran, decided workspace path entry) where
  options := rfl
  places := rfl
  stays other known isKnown := by
    have different : other ≠ path := by
      rintro rfl
      rw [unknown] at isKnown
      cases isKnown
    rw [known?_decided_other _ _ different]
    exact isKnown
  own own := own.decided ofPath
  executed := ⟨[], by simp, nofun⟩

theorem executing (ran : List String) (unknown : known? workspace path = none) (consents : Consents workspace path) :
    Consulted (ran, workspace) (ran ++ [path], workspace) where
  options := rfl
  places := rfl
  stays _ _ := id
  own := id
  executed := ⟨[path], rfl, by simpa using ⟨consents, unknown⟩⟩

end Consulted

theorem run_executing (ran : List String) (workspace : Workspace) (path : String) :
    (executing path).run.run (ran, workspace) =
      (((run path).run.run workspace).1, (ran ++ [path], ((run path).run.run workspace).2)) := rfl

/-- An unforced load asks the options first. What it gives is known afterwards, and where it fails it changes
nothing. -/
theorem run_loadBy (state : List String × Workspace) (path : String) :
    let ended := (loadBy executing path false).run.run state
    Consulted state ended.2 ∧ (∀ module, ended.1 = .ok (some module) → known? ended.2.2 path = some (some module)) ∧
      ∀ fault, ended.1 = .error fault → ended.2.2 = state.2 := by
  obtain ⟨ran, workspace⟩ := state
  unfold loadBy
  split
  · exact ⟨.refl _, nofun, nofun⟩
  · simp only [Bool.false_eq_true, if_false]
    rw [Act.run_bind_ok (Act.run_lift_ok (Act.run_get workspace) ran)]
    cases known : workspace.confs.modules.lookup path with
    | some entry =>
        refine ⟨.refl _, ?_, nofun⟩
        rintro module ⟨⟩
        exact known
    | none =>
        obtain ⟨answer, asking, consents⟩ := run_mayRun workspace path
        simp only
        rcases answer with fault | _ | _
        · rw [Act.run_bind_error (Act.run_lift_error asking ran)]
          exact ⟨.refl _, nofun, fun _ _ => rfl⟩
        · rw [Act.run_bind_ok (Act.run_lift_ok asking ran)]
          exact ⟨.deciding ran known nofun, nofun, nofun⟩
        · rw [Act.run_bind_ok (Act.run_lift_ok asking ran)]
          have attempted : Consulted (ran, workspace) (ran ++ [path], workspace) := .executing ran known (consents rfl)
          have running := run_executing ran workspace path
          simp only [if_true]
          rcases run_run workspace path with ⟨module, ofPath, done⟩ | ⟨fault, failed⟩
          · rw [done] at running
            rw [Act.run_bind_ok running]
            refine ⟨attempted.trans (.deciding (ran ++ [path]) known ?_), ?_, nofun⟩
            · rintro _ ⟨⟩
              exact ofPath
            · rintro _ ⟨⟩
              exact known?_decided_self workspace path (some module)
          · rw [failed] at running
            rw [Act.run_bind_error running]
            exact ⟨attempted, nofun, fun _ _ => rfl⟩

section Search

instance : Act.Chains Consulted := ⟨.refl, .trans⟩

theorem keeps_loadBy (path : String) : (loadBy executing path false).Keeps Consulted :=
  fun state => (run_loadBy state path).1

theorem keeps_firstLoadedBy (paths : List String) : (firstLoadedBy executing paths).Keeps Consulted := by
  induction paths with
  | nil => exact Act.keeps_pure none
  | cons path rest ih =>
      refine (keeps_loadBy path).bind fun loaded => ?_
      cases loaded with
      | some module => exact Act.keeps_pure (some path)
      | none => exact ih

theorem keeps_lift {α : Type} {act : Act Workspace α} (leaves : ∀ workspace, (act.run.run workspace).2 = workspace) :
    (liftM act : Act (List String × Workspace) α).Keeps Consulted := by
  rintro ⟨ran, workspace⟩
  rw [Act.run_lift, leaves]
  exact .refl _

theorem keeps_assign (source : String) (found : Option String) :
    (liftM (assign source found) : Act (List String × Workspace) Unit).Keeps Consulted :=
  fun _ => ⟨rfl, rfl, fun _ _ => id, id, [], (List.append_nil _).symm, nofun⟩

theorem fallback_leaves (workspace : Workspace) : (fallback.run.run workspace).2 = workspace := by
  unfold fallback
  rcases run_globalPath workspace with ⟨text, _, reading⟩ | ⟨fault, failing⟩
  · rw [Act.run_bind_ok reading]
    rfl
  · rw [Act.run_bind_error failing]

theorem keeps_pathForBy (source : String) : (pathForBy executing source).Keeps Consulted := by
  have assigning (found : Option String) :
      (do assign source found; return found : Act (List String × Workspace) (Option String)).Keeps Consulted :=
    (keeps_assign source found).bind fun _ => Act.keeps_pure found
  refine Act.Keeps.bind (keeps_lift fun _ => rfl) fun workspace => ?_
  cases workspace.confs.sources.lookup source with
  | some known => exact Act.keeps_pure known
  | none =>
      refine Act.Keeps.bind (keeps_lift fun _ => rfl) fun workspace => ?_
      refine (keeps_firstLoadedBy _).bind fun nearest => ?_
      cases nearest with
      | some path => exact assigning (some path)
      | none =>
          refine Act.Keeps.bind (keeps_lift fallback_leaves) fun last => ?_
          exact (keeps_firstLoadedBy last).bind assigning

theorem keeps_moduleForBy (source : String) : (moduleForBy executing source).Keeps Consulted := by
  refine (keeps_pathForBy source).bind fun found => ?_
  cases found with
  | some path => exact keeps_loadBy path
  | none => exact Act.keeps_pure none

theorem known?_of_moduleForBy {source : String} {state after : List String × Workspace} {module : ConfModule}
    (ended : (moduleForBy executing source).run.run state = (.ok (some module), after)) :
    ∃ path, known? after.2 path = some (some module) := by
  unfold moduleForBy at ended
  rcases searching : (pathForBy executing source).run.run state with ⟨_ | _ | path, found⟩
  · rw [Act.run_bind_error searching] at ended
    cases ended
  · rw [Act.run_bind_ok searching] at ended
    cases ended
  · rw [Act.run_bind_ok searching] at ended
    have known := (run_loadBy found path).2.1 module
    simp only at ended
    rw [ended] at known
    exact ⟨path, known rfl⟩

end Search

theorem Visit.outcome_eq {visit : Visit} {answer : Except Fault (Option ConfModule)} {executed : List String}
    {after : Workspace} {act : Act (List String × Workspace) (Option ConfModule)} {state : List String × Workspace}
    (ended : act.run.run state = (answer, (executed, after)))
    (noted : act.run.run state = (visit.answer workspace, (visit.executed workspace, visit.after workspace))) :
    visit.answer workspace = answer ∧ visit.executed workspace = executed ∧ visit.after workspace = after := by
  rw [ended] at noted
  cases noted
  exact ⟨rfl, rfl, rfl⟩

/-- What a visit that forces nothing and turns nothing down does. -/
structure Unforced (visit : Visit) (workspace : Workspace) : Prop where
  consulted : Consulted ([], visit.scene workspace) (visit.executed workspace, visit.after workspace)
  known : ∀ module, visit.answer workspace = .ok (some module) →
    ∃ path, known? (visit.after workspace) path = some (some module)

/-- What a visit does that runs a file by force. -/
structure Forced (visit : Visit) (workspace : Workspace) (path : String) : Prop where
  executed : visit.executed workspace = if path.isEmpty then [] else [path]
  after : visit.after workspace = visit.scene workspace ∨
    ∃ module, module.path = path ∧ visit.after workspace = decided (visit.scene workspace) path (some module)
  answer : ∀ module, visit.answer workspace = .ok (some module) → module.path = path
  failed : ∀ fault, visit.answer workspace = .error fault → visit.after workspace = visit.scene workspace

theorem forced_of_call {visit : Visit} (forces : visit.call = .load path true) (workspace : Workspace) :
    Forced visit workspace path := by
  have noted := visit.run_performBy_executing workspace
  rw [forces] at noted
  simp only [Call.performBy, loadBy, if_true] at noted
  by_cases isEmpty : path.isEmpty
  · simp only [isEmpty, if_true] at noted
    obtain ⟨answer, executed, after⟩ := Visit.outcome_eq rfl noted
    exact ⟨by rw [executed, if_pos isEmpty], Or.inl after, by rw [answer]; nofun, fun _ _ => after⟩
  · simp only [isEmpty, Bool.false_eq_true, if_false] at noted
    have running := run_executing [] (visit.scene workspace) path
    rcases run_run (visit.scene workspace) path with ⟨module, ofPath, done⟩ | ⟨fault, failed⟩
    · rw [done] at running
      rw [Act.run_bind_ok running] at noted
      obtain ⟨answer, executed, after⟩ := Visit.outcome_eq rfl noted
      refine ⟨by rw [executed, if_neg isEmpty, List.nil_append], Or.inr ⟨module, ofPath, after⟩, ?_, by rw [answer]; nofun⟩
      rw [answer]
      rintro _ ⟨⟩
      exact ofPath
    · rw [failed] at running
      rw [Act.run_bind_error running] at noted
      obtain ⟨answer, executed, after⟩ := Visit.outcome_eq rfl noted
      exact ⟨by rw [executed, if_neg isEmpty, List.nil_append], Or.inl after, by rw [answer]; nofun, fun _ _ => after⟩

/-- A visit asks the options, runs a file by force, or turns one down. -/
theorem visit_cases (visit : Visit) (workspace : Workspace) :
    ((∀ path, visit.call ≠ .load path true) ∧ Unforced visit workspace) ∨
      (∃ path, visit.call = .load path true ∧ Forced visit workspace path) ∨
      ∃ path, visit.call = .disable path ∧ visit.executed workspace = [] ∧
        visit.after workspace = decided (visit.scene workspace) path none ∧ visit.answer workspace = .ok none := by
  have noted := visit.run_performBy_executing workspace
  cases isCall : visit.call with
  | load path force =>
      cases force with
      | true => exact Or.inr (Or.inl ⟨path, rfl, forced_of_call isCall workspace⟩)
      | false =>
          rw [isCall] at noted
          obtain ⟨consulted, known, _⟩ := run_loadBy ([], visit.scene workspace) path
          simp only [Call.performBy] at noted
          rw [noted] at consulted known
          exact Or.inl ⟨by simp, consulted, fun module given => ⟨path, known module given⟩⟩
  | disable path =>
      rw [isCall] at noted
      obtain ⟨answer, executed, after⟩ := Visit.outcome_eq rfl noted
      exact Or.inr (Or.inr ⟨path, rfl, executed, after, answer⟩)
  | pathFor source =>
      rw [isCall] at noted
      have consulted := (keeps_pathForBy source).bind (fun _ => Act.keeps_pure (none : Option ConfModule))
        ([], visit.scene workspace)
      simp only [Call.performBy] at noted
      rw [noted] at consulted
      refine Or.inl ⟨nofun, consulted, ?_⟩
      intro module given
      rcases searching : (pathForBy executing source).run.run ([], visit.scene workspace) with ⟨_ | found, after⟩
      · rw [given, Act.run_bind_error searching] at noted
        cases noted
      · rw [given, Act.run_bind_ok searching] at noted
        cases noted
  | moduleFor source =>
      rw [isCall] at noted
      have consulted := keeps_moduleForBy source ([], visit.scene workspace)
      simp only [Call.performBy] at noted
      rw [noted] at consulted
      refine Or.inl ⟨nofun, consulted, ?_⟩
      intro module given
      rw [given] at noted
      exact known?_of_moduleForBy noted

/-- A file was turned down by one of some visits, and none since then has run it by force. -/
def TurnedDown (visits : List Visit) (path : String) : Prop :=
  ∃ earlier files later, visits = earlier ++ ⟨.disable path, files⟩ :: later ∧
    ∀ visit ∈ later, visit.call ≠ .load path true

/-- What every visit leaves as it is. -/
structure Unchanged (before after : Workspace) : Prop where
  options : after.options = before.options
  places : after.places = before.places
  own : Own before → Own after

theorem unchanged_after (visit : Visit) (workspace : Workspace) : Unchanged workspace (visit.after workspace) := by
  rcases visit_cases visit workspace with ⟨_, unforced⟩ | ⟨path, _, forced⟩ | ⟨path, _, _, after, _⟩
  · exact ⟨unforced.consulted.options, unforced.consulted.places, unforced.consulted.own⟩
  · rcases forced.after with after | ⟨module, ofPath, after⟩
    · rw [after]
      exact ⟨rfl, rfl, id⟩
    · rw [after]
      refine ⟨rfl, rfl, fun own => Own.decided own ?_⟩
      rintro _ ⟨⟩
      exact ofPath
  · rw [after]
    exact ⟨rfl, rfl, fun own => Own.decided own nofun⟩

theorem known?_after_of_turnedDown {visit : Visit} (denied : known? workspace path = some none)
    (calm : visit.call ≠ .load path true) : known? (visit.after workspace) path = some none := by
  rcases visit_cases visit workspace with ⟨_, unforced⟩ | ⟨other, forces, forced⟩ | ⟨other, _, _, after, _⟩
  · exact unforced.consulted.stays path none denied
  · have different : path ≠ other := by
      rintro rfl
      exact calm forces
    rcases forced.after with after | ⟨module, _, after⟩
    · rw [after]
      exact denied
    · rw [after, known?_decided_other _ _ different]
      exact denied
  · rw [after]
    by_cases same : path = other
    · subst same
      exact known?_decided_self _ path none
    · rw [known?_decided_other _ _ same]
      exact denied

theorem unchanged_afterVisits (visits : List Visit) (workspace : Workspace) :
    Unchanged workspace (afterVisits visits workspace) := by
  induction visits using List.reverseRecOn with
  | nil => exact ⟨rfl, rfl, id⟩
  | append_singleton visits visit ih =>
      rw [afterVisits_concat]
      have last := unchanged_after visit (afterVisits visits workspace)
      exact ⟨last.options.trans ih.options, last.places.trans ih.places, last.own ∘ ih.own⟩

theorem known?_afterVisits_of_turnedDown {visits : List Visit} (turnedDown : TurnedDown visits path)
    (workspace : Workspace) : known? (afterVisits visits workspace) path = some none := by
  obtain ⟨earlier, files, later, rfl, calm⟩ := turnedDown
  induction later using List.reverseRecOn with
  | nil =>
      rw [afterVisits_concat]
      exact known?_decided_self _ path none
  | append_singleton later visit ih =>
      rw [← List.cons_append, ← List.append_assoc, afterVisits_concat]
      exact known?_after_of_turnedDown (ih fun other member => calm other (List.mem_append_left _ member))
        (calm visit (by simp))

theorem after_of_failed_load {visit : Visit} {force : Bool} {fault : Fault} (loads : visit.call = .load path force)
    (failed : visit.answer workspace = .error fault) : visit.after workspace = visit.scene workspace := by
  cases force with
  | true => exact (forced_of_call loads workspace).failed fault failed
  | false =>
      have noted := visit.run_performBy_executing workspace
      have leaves := (run_loadBy ([], visit.scene workspace) path).2.2 fault
      rw [loads] at noted
      simp only [Call.performBy] at noted
      rw [noted] at leaves
      exact leaves failed

/-- Whatever was asked before, and whatever files there are: a call runs a configuration file only by force or with the
consent of the options; a file that was turned down is neither run nor given out without force; what is loaded by force
is run; and a load that fails, as it does where only the user can tell, leaves the store as it was. -/
theorem runs_with_consent_only (workspace : Workspace) (visits : List Visit) (visit : Visit) :
    let before := afterVisits visits { workspace with confs := {} }
    (visit.call.performBy executing).run.run ([], visit.scene before) =
      (visit.answer before, (visit.executed before, visit.after before)) ∧
    (∀ path ∈ visit.executed before, visit.call = .load path true ∨ Consents workspace path) ∧
    (∀ path, TurnedDown visits path → visit.call ≠ .load path true →
      path ∉ visit.executed before ∧ ∀ module, visit.answer before = .ok (some module) → module.path ≠ path) ∧
    (∀ path, visit.call = .load path true → path.isEmpty = false → visit.executed before = [path]) ∧
    ∀ path force fault, visit.call = .load path force → visit.answer before = .error fault →
      (visit.after before).confs = before.confs := by
  intro before
  have unchanged : Unchanged { workspace with confs := {} } before := unchanged_afterVisits visits _
  have own : Own before := unchanged.own nofun
  refine ⟨visit.run_performBy_executing before, ?_, ?_, ?_, ?_⟩
  · intro path ran
    rcases visit_cases visit before with ⟨_, unforced⟩ | ⟨forcedPath, forces, forced⟩ | ⟨_, _, executed, _⟩
    · obtain ⟨new, isNew, consented⟩ := unforced.consulted.executed
      simp only [List.nil_append] at isNew
      rw [isNew] at ran
      exact Or.inr ((consents_congr unchanged.options unchanged.places).mp (consented path ran).1)
    · rw [forced.executed] at ran
      split at ran
      · cases ran
      · rw [List.mem_singleton.mp ran]
        exact Or.inl forces
    · rw [executed] at ran
      cases ran
  · intro path turnedDown calm
    have denied : known? before path = some none := known?_afterVisits_of_turnedDown turnedDown _
    rcases visit_cases visit before with ⟨_, unforced⟩ | ⟨forcedPath, forces, forced⟩ | ⟨_, _, executed, _, answer⟩
    · constructor
      · intro ran
        obtain ⟨new, isNew, consented⟩ := unforced.consulted.executed
        simp only [List.nil_append] at isNew
        rw [isNew] at ran
        have unknown : known? before path = none := (consented path ran).2
        rw [denied] at unknown
        cases unknown
      -- What is given out is known under its own path, but under this one the file is turned down.
      · rintro module given rfl
        obtain ⟨other, known⟩ := unforced.known module given
        have ofOther : module.path = other := unforced.consulted.own own other module known
        rw [← ofOther, unforced.consulted.stays module.path none denied] at known
        cases known
    · have different : forcedPath ≠ path := by
        rintro rfl
        exact calm forces
      constructor
      · rw [forced.executed]
        split
        · exact List.not_mem_nil
        · simpa using Ne.symm different
      · intro module given
        rw [forced.answer module given]
        exact different
    · rw [executed, answer]
      exact ⟨List.not_mem_nil, nofun⟩
  · intro path forces isPath
    rw [(forced_of_call forces before).executed, isPath]
    rfl
  · intro path force fault loads failed
    rw [after_of_failed_load loads failed]
    rfl

/-- A search runs the file for all projects and not again once that is turned down, and a load that has to ask leaves
the store alone. -/
theorem runs_with_consent_only_in_search :
    let workspace : Workspace :=
      { options := [("global_ycm_extra_conf", .text "/p/.ycm_extra_conf.py"), ("confirm_extra_conf", .bool true),
                    ("extra_conf_globlist", .list [])] }
    let start : Workspace := { workspace with confs := {} }
    let files : Files := { files := [("/p/.ycm_extra_conf.py", ⟨.conf {}, 0⟩)], folders := ["/", "/p"] }
    let search : Visit := ⟨.moduleFor "/p/x.c", files⟩
    let denial : List Visit := [search, ⟨.disable "/p/.ycm_extra_conf.py", files⟩]
    let asking : Visit := ⟨.load "/q/.ycm_extra_conf.py" false, files⟩
    ("/p/.ycm_extra_conf.py" ∈ search.executed start ∧ Consents workspace "/p/.ycm_extra_conf.py") ∧
    (TurnedDown denial "/p/.ycm_extra_conf.py" ∧
      "/p/.ycm_extra_conf.py" ∉ search.executed (afterVisits denial start)) ∧
    (asking.answer start = .error (.unknownConf "/q/.ycm_extra_conf.py") ∧
      (asking.after start).confs = start.confs) := by
  intro workspace start files search denial asking
  have ran : search.executed start = ["/p/.ycm_extra_conf.py"] := by decide +kernel
  have isIn : "/p/.ycm_extra_conf.py" ∈ search.executed start := by
    rw [ran]
    exact List.mem_singleton_self _
  have turnedDown : TurnedDown denial "/p/.ycm_extra_conf.py" := ⟨[search], files, [], rfl, nofun⟩
  have asked : asking.answer start = .error (.unknownConf "/q/.ycm_extra_conf.py") := rfl
  obtain ⟨_, consented, _⟩ := runs_with_consent_only workspace [] search
  obtain ⟨_, _, stays, _⟩ := runs_with_consent_only workspace denial search
  obtain ⟨_, _, _, _, leaves⟩ := runs_with_consent_only workspace [] asking
  exact ⟨⟨isIn, (consented _ isIn).resolve_left nofun⟩, ⟨turnedDown, (stays _ turnedDown nofun).1⟩, asked,
    leaves _ _ _ rfl asked⟩

end Typeahead.Conf
