import Mathlib.Data.List.DropRight
import Typeahead.Flags.Prepare
import Typeahead.Proofs.TextPieces

namespace Typeahead

/-! What the preparation of flags for the engine leaves of them. Both of its steps take one flag after the other and keep
it or not, by what they remember of the flags before it, so an occurrence of a flag among others is settled by what
stands before it. -/

namespace Flags

open Text

variable {real : String → String} {filename flag : String} {before flags : List String} {previous : Previous}

/-- The flag that follows some others survives a step: for all of them, the step gives what it gives for the others, and
then the flag. -/
def Survives (step : List String → List String) (before : List String) (flag : String) : Prop :=
  step (before ++ [flag]) = step before ++ [flag]

/-- A step that takes one flag after the other and keeps it or not. -/
structure OneByOne (step : List String → List String) : Prop where
  nil : step [] = []
  concat : ∀ before flag, Survives step before flag ∨ step (before ++ [flag]) = step before

namespace OneByOne

variable {step later : List String → List String}

theorem sublist (oneByOne : OneByOne step) (flags : List String) : (step flags).Sublist flags := by
  induction flags using List.reverseRecOn with
  | nil => rw [oneByOne.nil]
  | append_singleton before flag ih =>
      rcases oneByOne.concat before flag with survives | dropped
      · rw [survives]
        exact ih.append (List.Sublist.refl [flag])
      · rw [dropped]
        exact ih.trans (List.sublist_append_left before [flag])

theorem isPrefix_append (oneByOne : OneByOne step) (before rest : List String) : step before <+: step (before ++ rest) := by
  induction rest using List.reverseRecOn with
  | nil => simp
  | append_singleton rest flag ih =>
      rw [← List.append_assoc]
      rcases oneByOne.concat (before ++ rest) flag with survives | dropped
      · rw [survives]
        exact ih.trans (List.prefix_append _ _)
      · rwa [dropped]

theorem exists_survives (oneByOne : OneByOne step) (member : flag ∈ step flags) : ∃ before, Survives step before flag := by
  induction flags using List.reverseRecOn with
  | nil =>
      rw [oneByOne.nil] at member
      exact absurd member List.not_mem_nil
  | append_singleton before last ih =>
      rcases oneByOne.concat before last with survives | dropped
      · rw [survives, List.mem_append, List.mem_singleton] at member
        rcases member with earlier | rfl
        · exact ih earlier
        · exact ⟨before, survives⟩
      · exact ih (dropped ▸ member)

theorem comp (oneByOne : OneByOne step) (laterOneByOne : OneByOne later) : OneByOne (later ∘ step) where
  nil := by rw [Function.comp_apply, oneByOne.nil, laterOneByOne.nil]
  concat before flag := by
    simp only [Survives, Function.comp_apply]
    rcases oneByOne.concat before flag with survives | dropped
    · rw [survives]
      exact laterOneByOne.concat (step before) flag
    · rw [dropped]
      exact .inr rfl

theorem survives_comp_iff (oneByOne : OneByOne step) :
    Survives (later ∘ step) before flag ↔ Survives step before flag ∧ Survives later (step before) flag := by
  simp only [Survives, Function.comp_apply]
  constructor
  · intro survives
    rcases oneByOne.concat before flag with kept | dropped
    · rw [kept] at survives
      exact ⟨kept, survives⟩
    · rw [dropped] at survives
      simp at survives
  · rintro ⟨kept, survives⟩
    rw [kept, survives]

end OneByOne

/-- A scan with a state keeps a flag or drops it, and goes on in the next state. -/
structure ScansBy {σ : Type} (drops : σ → String → Bool) (next : σ → String → σ)
    (scan : σ → List String → List String) : Prop where
  nil : ∀ state, scan state [] = []
  cons : ∀ state flag rest,
    scan state (flag :: rest) = (if drops state flag then [] else [flag]) ++ scan (next state flag) rest

namespace ScansBy

variable {σ : Type} {drops : σ → String → Bool} {next : σ → String → σ} {scan : σ → List String → List String}

/-- The last of some flags is settled in the state that the others have led to. -/
theorem concat (scans : ScansBy drops next scan) (state : σ) (before : List String) (flag : String) :
    scan state (before ++ [flag]) = scan state before ++ if drops (before.foldl next state) flag then [] else [flag] := by
  induction before generalizing state with
  | nil => rw [List.nil_append, scans.cons, scans.nil, scans.nil, List.append_nil, List.nil_append, List.foldl_nil]
  | cons first rest ih => rw [List.cons_append, scans.cons, ih, scans.cons, List.append_assoc, List.foldl_cons]

theorem survives_iff (scans : ScansBy drops next scan) (state : σ) :
    Survives (scan state) before flag ↔ drops (before.foldl next state) flag = false := by
  rw [Survives, scans.concat]
  cases drops (before.foldl next state) flag <;> simp

theorem oneByOne (scans : ScansBy drops next scan) (state : σ) : OneByOne (scan state) where
  nil := scans.nil state
  concat before flag := by
    rw [scans.survives_iff, scans.concat]
    cases drops (before.foldl next state) flag <;> simp

end ScansBy

namespace Previous

/-- Whether a flag is dropped after what has come before. -/
def drops (real : String → String) (filename : String) (previous : Previous) (flag : String) : Bool :=
  previous.skipNext || flag == "-c" || flag == "-o" || flag == filename || real flag == filename ||
    (!startsWith flag "-" && (!previous.startsWithDash || (!previous.isInclude && contains flag "/")))

def next (real : String → String) (filename : String) (previous : Previous) (flag : String) : Previous where
  skipNext := !previous.skipNext && flag == "-o"
  isInclude := if previous.drops real filename flag then previous.isInclude else includeFlags.contains flag
  startsWithDash := startsWith flag "-"

end Previous

theorem scansBy_removeUnusedFrom (real : String → String) (filename : String) :
    ScansBy (Previous.drops real filename) (Previous.next real filename) (removeUnusedFrom real filename) where
  nil _ := rfl
  cons previous flag rest := by
    change (if previous.drops real filename flag then _ else _) = _
    cases dropped : previous.drops real filename flag with
    | true => simp [Previous.next, dropped]
    | false =>
        have notOutput : (flag == "-o") = false := by simp_all [Previous.drops]
        simp [Previous.next, dropped, notOutput]

theorem scansBy_sanitizeFrom :
    ScansBy (fun skipNext flag => startsWith flag "-arch" || skipNext)
      (fun skipNext flag => flag == "-arch" || (startsWith flag "-arch" && skipNext)) sanitizeFrom where
  nil _ := rfl
  cons skipNext flag rest := by
    rw [sanitizeFrom]
    cases isArch : flag == "-arch" with
    | true =>
        have starts : startsWith "-arch" "-arch" = true := by decide
        simp [beq_iff_eq.mp isArch, starts]
    | false => cases startsWith flag "-arch" <;> cases skipNext <;> simp

/-- What the first step leaves of some flags. Without any flags it fails. -/
def remaining (real : String → String) (filename : String) (flags : List String) : List String :=
  (removeUnused real flags filename).toOption.getD []

/-- What both steps leave of some flags. Without any flags they fail. -/
def prepared (real : String → String) (filename : String) (flags : List String) : List String :=
  (prepare real flags filename).toOption.getD []

/-- A compiler in front needs no care: as a first flag without a dash, it is a stray name. -/
theorem removeUnusedFrom_dropCompiler (flags : List String) :
    removeUnusedFrom real filename {} (dropCompiler flags) = removeUnusedFrom real filename {} flags := by
  cases flags with
  | nil => rfl
  | cons first rest =>
      cases dashed : startsWith first "-" with
      | true => simp [dropCompiler, dashed]
      | false =>
          have notOutput : (first == "-o") = false := by
            rw [beq_eq_false_iff_ne]
            rintro rfl
            exact absurd dashed (by decide)
          have dropped : Previous.drops real filename {} first = true := by simp [Previous.drops, dashed]
          -- nothing is remembered of it either, so the rest is scanned as if it stood first
          have unchanged : Previous.next real filename {} first = {} := by
            simp [Previous.next, dropped, dashed, notOutput]
          rw [(scansBy_removeUnusedFrom real filename).cons, dropped, unchanged]
          simp [dropCompiler, dashed]

theorem removeUnused_of_nonempty (nonempty : flags ≠ []) :
    removeUnused real flags filename = .ok (removeUnusedFrom real filename {} flags) := by
  rw [← removeUnusedFrom_dropCompiler]
  cases flags with
  | nil => exact absurd rfl nonempty
  | cons first rest => rfl

theorem prepare_of_nonempty (nonempty : flags ≠ []) :
    prepare real flags filename = .ok (sanitize (removeUnusedFrom real filename {} flags)) := by
  rw [prepare, removeUnused_of_nonempty nonempty]
  rfl

theorem remaining_eq : remaining real filename = removeUnusedFrom real filename {} := by
  funext flags
  cases flags with
  | nil => rfl
  | cons first rest =>
      rw [remaining, removeUnused_of_nonempty (List.cons_ne_nil first rest)]
      rfl

theorem prepared_eq : prepared real filename = sanitize ∘ remaining real filename := by
  rw [remaining_eq]
  funext flags
  cases flags with
  | nil => rfl
  | cons first rest =>
      rw [prepared, prepare_of_nonempty (List.cons_ne_nil first rest)]
      rfl

/-- What is remembered after some flags. -/
def Previous.after (real : String → String) (filename : String) (before : List String) : Previous :=
  before.foldl (Previous.next real filename) {}

theorem Previous.after_concat (real : String → String) (filename : String) (before : List String) (flag : String) :
    Previous.after real filename (before ++ [flag]) = (Previous.after real filename before).next real filename flag := by
  rw [Previous.after, List.foldl_concat]
  rfl

theorem oneByOne_remaining (real : String → String) (filename : String) : OneByOne (remaining real filename) := by
  rw [remaining_eq]
  exact (scansBy_removeUnusedFrom real filename).oneByOne {}

theorem survives_remaining_iff : Survives (remaining real filename) before flag ↔
    (Previous.after real filename before).drops real filename flag = false := by
  rw [remaining_eq]
  exact (scansBy_removeUnusedFrom real filename).survives_iff {}

theorem oneByOne_sanitize : OneByOne sanitize := scansBy_sanitizeFrom.oneByOne false

theorem oneByOne_prepared (real : String → String) (filename : String) : OneByOne (prepared real filename) := by
  rw [prepared_eq]
  exact (oneByOne_remaining real filename).comp oneByOne_sanitize

/-- The last of some flags is an `-o` that is not itself taken for the file of an `-o` before it. -/
def takesNext (flags : List String) : Bool := flags.foldl (fun takes flag => !takes && flag == "-o") false

theorem skipNext_after (real : String → String) (filename : String) (before : List String) :
    (Previous.after real filename before).skipNext = takesNext before :=
  (List.foldl_hom Previous.skipNext fun _ _ => rfl).symm

theorem survives_remaining_of_dash_iff (dashed : startsWith flag "-") :
    Survives (remaining real filename) before flag ↔
      flag ≠ "-c" ∧ flag ≠ "-o" ∧ ¬ takesNext before ∧ flag ≠ filename ∧ real flag ≠ filename := by
  rw [survives_remaining_iff]
  simp only [Previous.drops, skipNext_after, dashed, Bool.not_true, Bool.false_and, Bool.or_false, Bool.or_eq_false_iff,
    beq_eq_false_iff_ne, Bool.not_eq_true]
  tauto

theorem mem_rtakeWhile_arch_iff (before : List String) :
    before.foldl (fun skipNext flag => flag == "-arch" || (startsWith flag "-arch" && skipNext)) false = true ↔
      "-arch" ∈ before.rtakeWhile (startsWith · "-arch") := by
  have starts : startsWith "-arch" "-arch" = true := by decide
  induction before using List.reverseRecOn with
  | nil => simp
  | append_singleton before flag ih =>
      simp only [List.foldl_concat, List.rtakeWhile_concat, Bool.or_eq_true, Bool.and_eq_true, ih, beq_iff_eq]
      by_cases isMachine : startsWith flag "-arch"
      · simp [isMachine, eq_comm, or_comm]
      · have other : flag ≠ "-arch" := fun same => isMachine (same ▸ starts)
        simp [isMachine, other]

theorem survives_sanitize_iff : Survives sanitize before flag ↔
    ¬ (startsWith flag "-arch" ∨ "-arch" ∈ before.rtakeWhile (startsWith · "-arch")) := by
  rw [← mem_rtakeWhile_arch_iff, ← Bool.or_eq_true, Bool.not_eq_true]
  exact scansBy_sanitizeFrom.survives_iff false

theorem startsWith_dash_of_arch (isMachine : startsWith flag "-arch") : startsWith flag "-" := by
  rw [startsWith_iff] at isMachine ⊢
  exact List.IsPrefix.trans (by decide) isMachine

theorem survives_prepared_iff : Survives (prepared real filename) before flag ↔
    Survives (remaining real filename) before flag ∧ Survives sanitize (remaining real filename before) flag := by
  rw [prepared_eq]
  exact (oneByOne_remaining real filename).survives_comp_iff

/-- What an include flag that is left takes as its file or folder is left with it. -/
theorem survives_argument {including argument : String} (isInclude : including ∈ includeFlags)
    (survives : Survives (prepared real filename) before including) (plain : ¬ startsWith argument "-")
    (other : argument ≠ filename) (elsewhere : real argument ≠ filename) :
    Survives (prepared real filename) (before ++ [including]) argument := by
  obtain ⟨kept, safe⟩ := survives_prepared_iff.mp survives
  rw [survives_prepared_iff]
  constructor
  · rw [survives_remaining_iff] at kept ⊢
    have notOutput : (including == "-o") = false := by simp_all [Previous.drops]
    have dashed : startsWith including "-" := by
      have allDashed : ∀ flag ∈ includeFlags, startsWith flag "-" := by decide
      exact allDashed including isInclude
    have afterInclude : (Previous.after real filename before).next real filename including = ⟨false, true, true⟩ := by
      simp [Previous.next, kept, notOutput, dashed, isInclude]
    have notOption : ∀ option ∈ ["-c", "-o"], (argument == option) = false := by
      have allDashed : ∀ option ∈ ["-c", "-o"], startsWith option "-" := by decide
      intro option member
      rw [beq_eq_false_iff_ne]
      rintro rfl
      exact plain (allDashed argument member)
    rw [Previous.after_concat, afterInclude]
    simp [Previous.drops, other, elsewhere, notOption "-c" (by simp), notOption "-o" (by simp)]
  · have left : remaining real filename (before ++ [including]) = remaining real filename before ++ [including] := kept
    have noMachine := (not_or.mp (survives_sanitize_iff.mp safe)).1
    rw [left, survives_sanitize_iff, List.rtakeWhile_concat_neg (startsWith · "-arch") _ _ noMachine]
    simpa using fun isMachine => plain (startsWith_dash_of_arch isMachine)

theorem of_mem_prepared (member : flag ∈ prepared real filename flags) :
    flag ≠ "-c" ∧ flag ≠ "-o" ∧ ¬ startsWith flag "-arch" ∧ flag ≠ filename := by
  obtain ⟨before, survives⟩ := (oneByOne_prepared real filename).exists_survives member
  obtain ⟨kept, safe⟩ := survives_prepared_iff.mp survives
  rw [survives_remaining_iff] at kept
  simp only [Previous.drops, Bool.or_eq_false_iff, beq_eq_false_iff_ne] at kept
  obtain ⟨⟨⟨⟨⟨_, notCompile⟩, notOutput⟩, other⟩, _⟩, _⟩ := kept
  exact ⟨notCompile, notOutput, (not_or.mp (survives_sanitize_iff.mp safe)).1, other⟩

/-- Preparing some flags never fails. It takes them one by one and leaves no `-c`, no `-o`, no machine flag and not the
file itself. The first step leaves a flag with a dash unless it is `-c` or `-o`, follows an `-o` that is not itself
left out that way, or is the file or resolves to it. The second step leaves out exactly the machine flags and what
follows a stretch of them with an `-arch` among them. An include flag that is left has what follows it with it, unless
that has a dash or is the file or resolves to it. -/
theorem prepare_keeps_what_is_needed (real : String → String) (filename : String) {flags : List String}
    (nonempty : flags ≠ []) :
    removeUnused real flags filename = .ok (remaining real filename flags) ∧
    prepare real flags filename = .ok (prepared real filename flags) ∧
    (OneByOne (remaining real filename) ∧ OneByOne sanitize ∧ OneByOne (prepared real filename)) ∧
    (prepared real filename flags).Sublist flags ∧
    (∀ flag ∈ prepared real filename flags,
      flag ≠ "-c" ∧ flag ≠ "-o" ∧ ¬ startsWith flag "-arch" ∧ flag ≠ filename) ∧
    (∀ before flag after, flags = before ++ flag :: after → startsWith flag "-" →
      (Survives (remaining real filename) before flag ↔
        flag ≠ "-c" ∧ flag ≠ "-o" ∧ ¬ takesNext before ∧ flag ≠ filename ∧ real flag ≠ filename)) ∧
    (∀ before flag, Survives sanitize before flag ↔
      ¬ (startsWith flag "-arch" ∨ "-arch" ∈ before.rtakeWhile (startsWith · "-arch"))) ∧
    ∀ before including argument after, flags = before ++ including :: argument :: after → including ∈ includeFlags →
      Survives (prepared real filename) before including →
      ¬ startsWith argument "-" → argument ≠ filename → real argument ≠ filename →
        prepared real filename before ++ [including, argument] <+: prepared real filename flags := by
  refine ⟨?_, ?_, ⟨oneByOne_remaining real filename, oneByOne_sanitize, oneByOne_prepared real filename⟩,
    (oneByOne_prepared real filename).sublist flags, fun flag => of_mem_prepared,
    fun before flag after _ dashed => survives_remaining_of_dash_iff dashed, fun before flag => survives_sanitize_iff, ?_⟩
  · rw [removeUnused_of_nonempty nonempty, remaining_eq]
  · rw [prepare_of_nonempty nonempty, prepared_eq, remaining_eq]
    rfl
  · rintro before including argument after rfl isInclude survives plain other elsewhere
    have follows := survives_argument isInclude survives plain other elsewhere
    have both : prepared real filename (before ++ [including] ++ [argument]) =
        prepared real filename before ++ [including, argument] := by
      rw [show prepared real filename (before ++ [including] ++ [argument]) = _ from follows,
        show prepared real filename (before ++ [including]) = _ from survives, List.append_assoc]
      rfl
    have split : before ++ including :: argument :: after = before ++ [including] ++ [argument] ++ after := by simp
    rw [← both, split]
    exact (oneByOne_prepared real filename).isPrefix_append _ _

theorem prepare_keeps_what_is_needed_of_line :
    let flags := ["cc", "-o", "-o", "-Wall", "-arch", "-archx", "x86", "-I", "inc/a", "b/c.cpp"]
    flags ≠ [] ∧ takesNext (flags.take 2) ∧ ¬ takesNext (flags.take 3) ∧
      Survives (prepared id "/f.cpp") (flags.take 7) "-I" ∧
      prepared id "/f.cpp" (flags.take 7) ++ ["-I", "inc/a"] <+: prepared id "/f.cpp" flags ∧
      prepare id flags "/f.cpp" = .ok ["-Wall", "-I", "inc/a"] := by
  intro flags
  have nonempty : flags ≠ [] := List.cons_ne_nil _ _
  have survives : Survives (prepared id "/f.cpp") (flags.take 7) "-I" := by
    unfold Survives
    decide +kernel
  obtain ⟨_, ready, _, _, _, _, _, argument⟩ := prepare_keeps_what_is_needed id "/f.cpp" nonempty
  refine ⟨nonempty, by decide +kernel, by decide +kernel, survives, ?_, ?_⟩
  · exact argument (flags.take 7) "-I" "inc/a" ["b/c.cpp"] rfl (by decide) survives (by decide +kernel) (by decide)
      (by decide)
  · rw [ready]
    exact congrArg Except.ok (by decide +kernel)

end Flags

end Typeahead
