import Typeahead.Completer.Identifier
import Typeahead.Proofs.Acts
import Typeahead.Proofs.IdentifierMap

namespace Typeahead.Completer.IdentifierState

/-! Candidates that are long enough. The list of ranked candidates is cut first, and the short ones are taken out of
what is left, so a short candidate takes the place of a long one that is ranked below it. -/

section Cut

variable {α : Type} {keeps : α → Bool} {items : List α} {count : Nat}

theorem take_filter_append (keeps : α → Bool) (items : List α) (count : Nat) :
    (items.filter keeps).take count = (items.take count).filter keeps ++
      ((items.drop count).filter keeps).take (count - ((items.take count).filter keeps).length) := by
  have short : ((items.take count).filter keeps).length ≤ count :=
    (List.length_filter_le _ _).trans (List.length_take_le _ _)
  conv_lhs => rw [← List.take_append_drop count items, List.filter_append, List.take_append,
    List.take_of_length_le short]

/-- Cutting a list and taking items out of it can be swapped only if it takes out none of the first ones or all of
the later ones. -/
theorem filter_take_eq_take_filter_iff (keeps : α → Bool) (items : List α) (count : Nat) :
    (items.take count).filter keeps = (items.filter keeps).take count ↔
      (∀ item ∈ items.take count, keeps item) ∨ ∀ item ∈ items.drop count, ¬ keeps item := by
  rw [take_filter_append, List.self_eq_append_right, List.take_eq_nil_iff, List.filter_eq_nil_iff, Nat.sub_eq_zero_iff_le]
  constructor
  · rintro (full | none)
    · refine .inl (List.length_filter_eq_length_iff.mp (Nat.le_antisymm (List.length_filter_le _ _) ?_))
      exact (List.length_take_le _ _).trans full
    · exact .inr none
  · rintro (all | none)
    · rw [List.filter_eq_self.mpr all, List.length_take]
      by_cases longer : count ≤ items.length
      · exact .inl (by omega)
      · exact .inr (by simp [List.drop_of_length_le (Nat.le_of_not_le longer)])
    · exact .inr none

end Cut

/-- A request for completions of what has been typed, which is enough of it. -/
structure Asks (settings : Settings) (request : Value) (query filetype : String) : Prop where
  isLong : isLongEnough settings.minimum request = .ok true
  query : request.field "query" = .ok (.text query)
  filetype : ∃ filetypes, request.field "filetypes" = .ok filetypes ∧ filetypes.item 0 = .ok (.text filetype)

/-- The candidates of a request, the best first. -/
def ranked (database : Identifier.Database) (query filetype : String) : Except Fault (List String) :=
  (database.query (Bytes.ofString (Text.strip query)) (Bytes.ofString filetype)).map (·.map Bytes.toString)

/-- A text that has a number of characters, or more. -/
def IsLong (minimum : Int) (text : String) : Prop := minimum ≤ text.length

instance (minimum : Int) (text : String) : Decidable (IsLong minimum text) := inferInstanceAs (Decidable (_ ≤ _))

/-- Texts as they are answered. -/
def completions (texts : List String) : Value :=
  .list (texts.map fun text => Response.completion (.text text) {})

theorem completions_injective : Function.Injective completions := by
  intro texts others same
  refine List.map_injective_iff.mpr ?_ (Value.list.inj same)
  intro text other alike
  have fields : [("insertion_text", Value.text text)] = [("insertion_text", Value.text other)] := Value.record.inj alike
  simpa using fields

theorem answer_eq_iff {texts others : List String} {ended : IdentifierState × Workspace} :
    ((.ok (completions texts) : Except Fault Value), ended) = (.ok (completions others), ended) ↔ texts = others :=
  ⟨fun same => completions_injective (Except.ok.inj (Prod.mk.inj same).1), fun same => by rw [same]⟩

theorem removeSmall_eq (texts : List String) (minimum : Int) :
    removeSmall texts (.int minimum) = .ok (texts.filter (IsLong minimum)) := by
  have measured : (texts.mapM fun text => do return (text, !(← (Value.int text.length).less (.int minimum))) :
      Except Fault _) = .ok (texts.map fun text => (text, decide (IsLong minimum text))) := by
    rw [mapM_eq_ok_iff, List.forall₂_map_right_iff, List.forall₂_same]
    intro text _
    have same : (!decide ((text.length : Int) < minimum)) = decide (IsLong minimum text) := by
      rw [Bool.eq_iff_iff, Bool.not_eq_true', decide_eq_false_iff_not, Int.not_lt, decide_eq_true_iff]
      rfl
    exact congrArg (fun isLong => Except.ok (text, isLong)) same
  have isZero_iff : (Value.int minimum).same (.int 0) = (minimum == 0) := rfl
  unfold removeSmall
  rw [measured, isZero_iff]
  -- With a minimum of zero nothing is compared, and everything would be long enough.
  split
  · next isZero =>
      obtain rfl := eq_of_beq isZero
      rw [List.filter_eq_self.mpr fun text _ => by simp [IsLong]]
      rfl
  · change Except.ok (((texts.map _).filter _).map _) = _
    rw [List.filter_map, List.map_map]
    simp [Function.comp_def]

variable {state : IdentifierState} {request : Value} {query filetype : String} {minimum : Int}

theorem run_compute (asks : Asks state.core.settings request query filetype)
    (isSet : state.core.settings.option "min_num_identifier_candidate_chars" = .ok (.int minimum)) (workspace : Workspace) :
    (compute request).run.run (state, workspace) =
      ((ranked state.database query filetype).map fun texts => completions ((texts.take limit).filter (IsLong minimum)),
        state, workspace) := by
  obtain ⟨filetypes, areTypes, isFirst⟩ := asks.filetype
  have uses : (shouldUse request).run.run (state, workspace) = (.ok true, state, workspace) := by
    unfold shouldUse
    rw [Act.run_bind_ok (Act.run_get _), asks.isLong]
    rfl
  unfold compute ranked
  rw [Act.run_bind_ok uses, asks.query, areTypes]
  iterate 3 refine (Act.run_bind_ok rfl).trans ?_
  rw [isFirst]
  iterate 2 refine (Act.run_bind_ok rfl).trans ?_
  cases found : state.database.query (Bytes.ofString (Text.strip query)) (Bytes.ofString filetype) with
  | error fault =>
      have failed : (liftM (state.database.query (Bytes.ofString (Text.strip query)) (Bytes.ofString filetype)) :
          Doing _).run.run (state, workspace) = (.error fault, state, workspace) := by rw [found, Act.run_lift_except]
      exact Act.run_bind_error failed
  | ok texts =>
      have asked : (liftM (state.database.query (Bytes.ofString (Text.strip query)) (Bytes.ofString filetype)) :
          Doing _).run.run (state, workspace) = (.ok texts, state, workspace) := by rw [found, Act.run_lift_except]
      refine (Act.run_bind_ok asked).trans ?_
      rw [isSet]
      refine (Act.run_bind_ok (Act.run_lift_except (.ok _) _)).trans ?_
      rw [removeSmall_eq, List.map_take]
      rfl

theorem ranked_exists (database : Identifier.Database) (filetype : String)
    (ascii : ∀ letter ∈ Bytes.ofString (Text.strip query), Letter.isAscii letter) :
    ∃ texts, ranked database query filetype = .ok texts := by
  unfold ranked
  by_cases nothing : Bytes.ofString (Text.strip query) = []
  · have found : database.query (Bytes.ofString (Text.strip query)) (Bytes.ofString filetype) = .ok [] := by
      rw [nothing]
      exact if_pos (by simp)
    exact ⟨[], by rw [found]; rfl⟩
  · rw [Identifier.Database.query_eq_rank nothing ascii, Ranking.rank_eq id _ nothing ascii]
    exact ⟨_, rfl⟩

/-- The answer is what is long enough among the first of the ranked candidates, as many of them as are shown at most.
These are the first of the candidates that are long enough if and only if none of the first candidates is short or none
of the later ones is long. Something is answered if and only if one of the first candidates is long enough, whatever
comes after them. -/
theorem first_long_candidates_iff (asks : Asks state.core.settings request query filetype)
    (isSet : state.core.settings.option "min_num_identifier_candidate_chars" = .ok (.int minimum)) (workspace : Workspace) :
    (compute request).run.run (state, workspace) = ((ranked state.database query filetype).map fun texts =>
        completions ((texts.take limit).filter (IsLong minimum)), state, workspace) ∧
      ((compute request).run.run (state, workspace) = ((ranked state.database query filetype).map fun texts =>
          completions ((texts.filter (IsLong minimum)).take limit), state, workspace) ↔
        ∀ texts, ranked state.database query filetype = .ok texts →
          (∀ text ∈ texts.take limit, IsLong minimum text) ∨ ∀ text ∈ texts.drop limit, ¬ IsLong minimum text) ∧
      (∀ texts, ranked state.database query filetype = .ok texts →
        ((∃ shown, shown ≠ [] ∧ (compute request).run.run (state, workspace) = (.ok (completions shown), state, workspace)) ↔
          ∃ text ∈ texts.take limit, IsLong minimum text)) ∧
      ((∀ letter ∈ Bytes.ofString (Text.strip query), Letter.isAscii letter) →
        ∃ texts, ranked state.database query filetype = .ok texts) := by
  rw [run_compute asks isSet]
  refine ⟨rfl, ?_, ?_, ranked_exists state.database filetype⟩
  · cases ranked state.database query filetype with
    | error fault => simp [Except.map]
    | ok texts =>
        have swaps := filter_take_eq_take_filter_iff (fun text => decide (IsLong minimum text)) texts limit
        simp only [decide_eq_true_iff] at swaps
        exact (answer_eq_iff.trans swaps).trans
          ⟨fun either others same => Except.ok.inj same ▸ either, fun each => each texts rfl⟩
  · intro texts found
    rw [found]
    change (∃ shown, shown ≠ [] ∧ (Except.ok (completions _), state, workspace) = _) ↔ _
    simp only [answer_eq_iff]
    simp

/-- Ten names of three letters, and a longer one. -/
def elevenNames : List String :=
  ["aa0", "aa1", "aa2", "aa3", "aa4", "aa5", "aa6", "aa7", "aa8", "aa9", "aalong"]

/-- A completer that knows eleven names, where candidates have to be of a given length. -/
def knowingNames (minimum : Int) : IdentifierState where
  core := ⟨⟨[("min_num_identifier_candidate_chars", .int minimum)], .int 2, []⟩, {}⟩
  database := ({} : Identifier.Database).add ⟨Bytes.ofString "cpp", Bytes.ofString "/x"⟩ (elevenNames.map Bytes.ofString)

def typedRequest : Value :=
  .record [("column_num", .int 2), ("start_column", .int 0), ("query", .text "aa"), ("filetypes", Value.texts ["cpp"])]

theorem asks_typedRequest (minimum : Int) : Asks (knowingNames minimum).core.settings typedRequest "aa" "cpp" where
  isLong := rfl
  query := rfl
  filetype := ⟨_, rfl, rfl⟩

theorem ranked_elevenNames (minimum : Int) : ranked (knowingNames minimum).database "aa" "cpp" = .ok elevenNames :=
  Act.eq_ok_of_toOption (show (ranked (knowingNames 0).database "aa" "cpp").toOption = some elevenNames by decide +kernel)

/-- Where all names are long enough, the first ten are answered. -/
theorem first_long_candidates_iff_three_letters :
    Asks (knowingNames 3).core.settings typedRequest "aa" "cpp" ∧
      (compute typedRequest).run.run (knowingNames 3, {}) =
        ((ranked (knowingNames 3).database "aa" "cpp").map fun texts =>
          completions ((texts.filter (IsLong 3)).take limit), knowingNames 3, {}) := by
  refine ⟨asks_typedRequest 3, (first_long_candidates_iff (asks_typedRequest 3) rfl {}).2.1.mpr fun texts found => .inl ?_⟩
  rw [ranked_elevenNames] at found
  cases found
  decide

/-- The one name that is long enough comes after ten others, and nothing is answered. -/
theorem long_candidate_cut_off :
    ranked (knowingNames 4).database "aa" "cpp" = .ok elevenNames ∧
      (elevenNames.filter (IsLong 4)).take limit = ["aalong"] ∧
      (compute typedRequest).run.run (knowingNames 4, {}) = (.ok (completions []), knowingNames 4, {}) := by
  refine ⟨ranked_elevenNames 4, by decide, ?_⟩
  rw [run_compute (asks_typedRequest 4) rfl, ranked_elevenNames]
  have none : (elevenNames.take limit).filter (IsLong 4) = [] := by decide
  change (Except.ok (completions ((elevenNames.take limit).filter (IsLong 4))), _) = _
  rw [none]

end Typeahead.Completer.IdentifierState
