import Typeahead.Proofs.LastDiagnostics

namespace Typeahead.Completer.SemanticState

open Frontend (Diagnostic)

/-! Which of the diagnostics of a line the cursor is told about. The scan keeps the nearest so far and looks only for
what is nearer, but it starts from a fixed distance: where every diagnostic of the line is at least that far away, it
finds none of them. -/

/-- How many columns a diagnostic is away. -/
def away (column : Int) (diagnostic : Diagnostic) : Nat := (column - diagnostic.location.column).natAbs

/-- The first of the nearest: all before it are further away, and none behind it is nearer. -/
def IsFirstNearest (column : Int) (diagnostics : List Diagnostic) (closest : Diagnostic) : Prop :=
  ∃ before after, diagnostics = before ++ closest :: after ∧
    (∀ diagnostic ∈ before, away column closest < away column diagnostic) ∧
      ∀ diagnostic ∈ after, away column closest ≤ away column diagnostic

section FirstNearest

variable {column : Int} {first closest : Diagnostic} {diagnostics rest : List Diagnostic}

theorem isFirstNearest_cons_iff : IsFirstNearest column (first :: rest) closest ↔
    (closest = first ∧ ∀ diagnostic ∈ rest, away column first ≤ away column diagnostic) ∨
      (away column closest < away column first ∧ IsFirstNearest column rest closest) := by
  constructor
  · intro ⟨before, after, split, further, noneNearer⟩
    cases before with
    | nil =>
        obtain ⟨rfl, rfl⟩ := List.cons.inj split
        exact .inl ⟨rfl, noneNearer⟩
    | cons earlier before =>
        obtain ⟨rfl, rfl⟩ := List.cons.inj split
        obtain ⟨nearer, further⟩ := List.forall_mem_cons.mp further
        exact .inr ⟨nearer, before, after, rfl, further, noneNearer⟩
  · intro either
    rcases either with ⟨rfl, noneNearer⟩ | ⟨nearer, before, after, rfl, further, noneNearer⟩
    · exact ⟨[], rest, rfl, by simp, noneNearer⟩
    · exact ⟨first :: before, after, rfl, List.forall_mem_cons.mpr ⟨nearer, further⟩, noneNearer⟩

theorem IsFirstNearest.le (nearest : IsFirstNearest column diagnostics closest) :
    ∀ diagnostic ∈ diagnostics, away column closest ≤ away column diagnostic := by
  obtain ⟨before, after, rfl, further, noneNearer⟩ := nearest
  intro diagnostic member
  rcases List.mem_append.mp member with earlier | later
  · exact Nat.le_of_lt (further diagnostic earlier)
  · rcases List.mem_cons.mp later with rfl | later
    · exact Nat.le_refl _
    · exact noneNearer diagnostic later

theorem exists_isFirstNearest (column : Int) (first : Diagnostic) (rest : List Diagnostic) :
    ∃ closest, IsFirstNearest column (first :: rest) closest := by
  induction rest generalizing first with
  | nil => exact ⟨first, isFirstNearest_cons_iff.mpr (.inl ⟨rfl, by simp⟩)⟩
  | cons second rest ih =>
      obtain ⟨closest, nearest⟩ := ih second
      by_cases nearer : away column closest < away column first
      · exact ⟨closest, isFirstNearest_cons_iff.mpr (.inr ⟨nearer, nearest⟩)⟩
      · refine ⟨first, isFirstNearest_cons_iff.mpr (.inl ⟨rfl, fun diagnostic member => ?_⟩)⟩
        exact Nat.le_trans (Nat.not_lt.mp nearer) (nearest.le diagnostic member)

end FirstNearest

section Scan

variable {column : Int} {limit : Nat} {diagnostics : List Diagnostic}

theorem nearest_eq_none (allFar : ∀ diagnostic ∈ diagnostics, limit ≤ away column diagnostic) :
    nearest column limit diagnostics = none := by
  induction diagnostics with
  | nil => rfl
  | cons first rest ih =>
      obtain ⟨far, allFar⟩ := List.forall_mem_cons.mp allFar
      exact (if_neg (Nat.not_lt.mpr far)).trans (ih allFar)

/-- The scan finds the first of the nearest, unless that is too far away. -/
theorem nearest_eq {closest : Diagnostic} (isNearest : IsFirstNearest column diagnostics closest) :
    nearest column limit diagnostics = if away column closest < limit then some closest else none := by
  -- the limit shrinks to the distance of what is found, so it is generalised
  induction diagnostics generalizing limit with
  | nil =>
      obtain ⟨before, after, split, _⟩ := isNearest
      simp at split
  | cons first rest ih =>
      have step : nearest column limit (first :: rest) =
          if away column first < limit then some ((nearest column (away column first) rest).getD first)
          else nearest column limit rest := rfl
      rw [step]
      rcases isFirstNearest_cons_iff.mp isNearest with ⟨rfl, noneNearer⟩ | ⟨nearer, isNearest⟩
      · split
        · rw [nearest_eq_none noneNearer, Option.getD_none]
        · next far =>
            refine nearest_eq_none fun diagnostic member => ?_
            exact Nat.le_trans (Nat.not_lt.mp far) (noneNearer diagnostic member)
      · split
        · next near =>
            rw [ih isNearest, if_pos nearer, Option.getD_some, if_pos (Nat.lt_trans nearer near)]
        · exact ih isNearest

end Scan

/-- Where a line has diagnostics, the answer for the cursor is the full text of the first of the nearest, if that is
less than `furthest` columns away; otherwise there is none, and the question fails. -/
theorem detail_of_nearest_iff {request : Value} {file : String} {line column : Int}
    (asks : Asks request file line column) (state : SemanticState) (workspace : Workspace)
    (present : ∃ diagnostic ∈ state.diagnostics, LiesOn diagnostic file line) :
    ∃ closest, IsFirstNearest (column + 1) (state.diagnostics.filter (LiesOn · file line)) closest ∧
      (detail request state workspace = .ok (Response.message (.text closest.long)) ↔
        away (column + 1) closest < furthest) ∧
      (detail request state workspace = .error (.noFeature "no diagnostic is near enough") ↔
        furthest ≤ away (column + 1) closest) := by
  obtain ⟨diagnostic, kept, lies⟩ := present
  have member : diagnostic ∈ state.diagnostics.filter (LiesOn · file line) :=
    List.mem_filter.mpr ⟨kept, decide_eq_true lies⟩
  rw [detail_eq asks]
  unfold explain
  cases here : state.diagnostics.filter (LiesOn · file line) with
  | nil => simp [here] at member
  | cons first rest =>
      obtain ⟨closest, isNearest⟩ := exists_isFirstNearest (column + 1) first rest
      refine ⟨closest, isNearest, ?_⟩
      dsimp only [List.isEmpty_cons]
      rw [nearest_eq isNearest]
      by_cases near : away (column + 1) closest < furthest
      · simp [near]
      · simp [near, Nat.not_lt.mp near]

/-- A completer that has kept diagnostics in the third line of a file, at these columns and with these full texts. -/
def keeping (found : List (Int × String)) : SemanticState :=
  { core := semanticCore
    diagnostics := found.map fun entry => { location := ⟨"/f.cpp", 3, entry.1⟩, long := entry.2 } }

/-- Of two diagnostics that are as near, the first is told. -/
theorem detail_of_nearest_iff_between :
    let state := keeping [(1010, "far"), (8, "unused"), (12, "undeclared")]
    let unused : Diagnostic := { location := ⟨"/f.cpp", 3, 8⟩, long := "unused" }
    (∃ diagnostic ∈ state.diagnostics, LiesOn diagnostic "/f.cpp" 2) ∧
      IsFirstNearest (9 + 1) (state.diagnostics.filter (LiesOn · "/f.cpp" 2)) unused ∧
      away (9 + 1) unused < furthest ∧
      detail (cursorRequest "/f.cpp" 2 9) state {} = .ok (Response.message (.text "unused")) := by
  intro state unused
  have present : ∃ diagnostic ∈ state.diagnostics, LiesOn diagnostic "/f.cpp" 2 := by decide
  have asks : Asks (cursorRequest "/f.cpp" 2 9) "/f.cpp" 2 9 := ⟨rfl, rfl, rfl⟩
  obtain ⟨closest, isNearest, told_iff, _⟩ := detail_of_nearest_iff asks state {} present
  have scanned : nearest (9 + 1) furthest (state.diagnostics.filter (LiesOn · "/f.cpp" 2)) = some unused := by decide
  rw [nearest_eq isNearest] at scanned
  obtain ⟨_, isUnused⟩ := Option.ite_none_right_eq_some.mp scanned
  rw [Option.some.inj isUnused] at isNearest told_iff
  exact ⟨present, isNearest, by decide, told_iff.mpr (by decide)⟩

/-- The only diagnostic of a long line is not told to a cursor at the start of the line: the question fails. -/
theorem detail_fails_on_long_line :
    let state := keeping [(1000, "unused")]
    (∃ diagnostic ∈ state.diagnostics, LiesOn diagnostic "/f.cpp" 2) ∧
      detail (cursorRequest "/f.cpp" 2 0) state {} = .error (.noFeature "no diagnostic is near enough") := by
  refine ⟨by decide, ?_⟩
  rw [detail_eq ⟨rfl, rfl, rfl⟩]
  rfl

end Typeahead.Completer.SemanticState
