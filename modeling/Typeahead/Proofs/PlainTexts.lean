import Mathlib.Data.List.Infix
import Typeahead.Completer.Omni
import Typeahead.Proofs.EditorAnswers
import Typeahead.Proofs.Selection

namespace Typeahead

/-! Answers that are lists of plain texts. Whether an answer is such a list, a list of records or a record with a list
is found out by asking what it and its first item hold, and a text holds every part of itself. A list that contains one
of the words that are asked for is therefore taken for something else. -/

open Letter

namespace Text

theorem occursIn_iff (part text : List Char) : occursIn part text = true ↔ part <:+: text := by
  induction text with
  | nil => simp [occursIn]
  | cons character text ih => simp [occursIn, ih, List.infix_cons_iff]

theorem contains_iff (text part : String) : contains text part = true ↔ part.toList <:+: text.toList :=
  occursIn_iff part.toList text.toList

end Text

namespace Ranking

variable {texts : List String} {query : String}

/-- The texts are taken for something else: one of them is the name of a record's list, or the first contains the name
of a field that items have their text in. -/
def Mistaken (texts : List String) : Prop :=
  "words" ∈ texts ∨ ∃ first ∈ texts.head?, "word".toList <:+: first.toList ∨ "insertion_text".toList <:+: first.toList

theorem holds_texts (texts : List String) (name : String) :
    (Value.texts texts).holds (.text name) = .ok (decide (name ∈ texts)) := by
  simp only [Value.texts, Value.holds, List.any_map, Except.ok.injEq]
  rw [Bool.eq_iff_iff]
  simp [Value.same, Function.comp_def]

theorem holds_text (content part : String) :
    (Value.text content).holds (.text part) = .ok (decide (part.toList <:+: content.toList)) := by
  simp only [Value.holds, Except.ok.injEq]
  rw [Bool.eq_iff_iff, Text.contains_iff, decide_eq_true_iff]

/-- The field in which the texts of items like this one are looked for. -/
def fieldFor (first : String) : String :=
  if "word".toList <:+: first.toList then "word"
  else if "insertion_text".toList <:+: first.toList then "insertion_text"
  else ""

theorem textProperty_text (first : String) : textProperty (.text first) = .ok (fieldFor first) := by
  simp only [textProperty, holds_text, fieldFor, bind, Except.bind, decide_eq_true_eq]
  split
  · rfl
  · split <;> rfl

theorem answerItems_texts (texts : List String) :
    answerItems (Value.texts texts) =
      if "words" ∈ texts then .error (.wrongKind "list indices must be integers or slices, not str")
      else .ok (Value.texts texts) := by
  simp only [answerItems, holds_texts, bind, Except.bind, decide_eq_true_eq]
  split <;> rfl

theorem rankAnswer_texts (first : String) (rest : List String) (query : String) :
    rankAnswer (Value.texts (first :: rest)) (.text query) =
      if "words" ∈ first :: rest then .error (.wrongKind "list indices must be integers or slices, not str")
      else rankItems (Value.texts (first :: rest)) (fieldFor first) query := by
  have item : (Value.texts (first :: rest)).item 0 = .ok (.text first) := by
    simp [Value.texts, Value.item, Value.nth, Value.position?]
  change (answerItems (Value.texts (first :: rest)) >>= fun items => do
    let property ← textProperty (← items.item 0)
    rankItems items property query) = _
  rw [answerItems_texts]
  split
  · rfl
  · simp only [bind, Except.bind, item, textProperty_text]

theorem rankItems_texts_of_named {property : String} (named : property ≠ "") (first : String) (rest : List String)
    (typed : query ≠ "") :
    rankItems (Value.texts (first :: rest)) property query =
      .error (.wrongKind "string indices must be integers, not 'str'") := by
  have notEmpty : query.isEmpty = false := by simpa using typed
  have unnamed : property.isEmpty = false := by simpa using named
  simp [rankItems, Value.texts, notEmpty, itemText, unnamed, Value.field, Except.map, List.mapM_cons, bind, Except.bind]

theorem rankItems_texts_exists (texts : List String) (typed : query ≠ "")
    (ascii : ∀ letter ∈ Bytes.ofString query, isAscii letter) :
    ∃ kept, rankItems (Value.texts texts) "" query = .ok kept := by
  have haveTexts : HaveTexts "" (texts.map Value.text) := by
    intro item listed
    obtain ⟨text, _, rfl⟩ := List.mem_map.mp listed
    rfl
  obtain ⟨kept, ranked, _⟩ := rank_perm_filter (fun item => Bytes.ofString (textOf "" item)) (texts.map Value.text)
    (Bytes.ofString_ne_nil typed) ascii
  refine ⟨.list kept, ?_⟩
  rw [Value.texts, rankItems_eq_rank haveTexts typed, ranked]
  rfl

theorem fieldFor_eq_empty_iff (first : String) :
    fieldFor first = "" ↔ ¬ ("word".toList <:+: first.toList ∨ "insertion_text".toList <:+: first.toList) := by
  unfold fieldFor
  split_ifs <;> simp_all

theorem rankAnswer_of_mistaken (mistaken : Mistaken texts) (typed : query ≠ "") :
    ∃ explanation, rankAnswer (Value.texts texts) (.text query) = .error (.wrongKind explanation) := by
  cases texts with
  | nil => simp [Mistaken] at mistaken
  | cons first rest =>
      rw [rankAnswer_texts]
      by_cases listed : "words" ∈ first :: rest
      · exact ⟨_, if_pos listed⟩
      · have named : fieldFor first ≠ "" := by
          rw [Ne, fieldFor_eq_empty_iff, not_not]
          simpa [Mistaken, listed] using mistaken
        rw [if_neg listed, rankItems_texts_of_named named first rest typed]
        exact ⟨_, rfl⟩

theorem rankAnswer_of_not_mistaken (plain : ¬ Mistaken texts) (nonempty : texts ≠ []) :
    rankAnswer (Value.texts texts) (.text query) = rankItems (Value.texts texts) "" query := by
  cases texts with
  | nil => exact absurd rfl nonempty
  | cons first rest =>
      obtain ⟨absent, unnamed⟩ := not_or.mp plain
      have noField : fieldFor first = "" := by
        rw [fieldFor_eq_empty_iff]
        simpa using unnamed
      rw [rankAnswer_texts, if_neg absent, noField]

end Ranking

namespace Completer.OmniState

variable {state : OmniState} {workspace : Workspace} {request returned : Value} {function query : String} {start : Int}
  {texts : List String}

def startQuestion (function : String) : String := function ++ "(1,\"\")"

def itemsQuestion (function query : String) : String := function ++ "(0,'" ++ Editor.escape query ++ "')"

/-- The editor's function says where the completion starts, and then returns something for the query. -/
structure Returns (state : OmniState) (workspace : Workspace) (request : Value) (function query : String) (start : Int)
    (returned : Value) : Prop where
  isFunction : state.function = .text function
  named : function ≠ ""
  hasQuery : request.field "query" = .ok (.text query)
  starts : Editor.intAnswerTo workspace (startQuestion function) = .ok start
  fromStart : 0 ≤ start
  items : Editor.answerTo workspace (itemsQuestion function query) = .ok returned

/-- The workspace once both questions are asked. -/
def asked (workspace : Workspace) (function query : String) : Workspace :=
  { workspace with events := workspace.events ++
      [.evaluate (startQuestion function), .evaluate (itemsQuestion function query)] }

/-- The workspace once the user is told that the function failed. -/
def told (workspace : Workspace) (explanation : String) : Workspace :=
  { workspace with events := workspace.events ++ [.command (Editor.messageCommand (badValue ++ " " ++ explanation))] }

theorem itemsIn_texts (nonempty : ∀ text ∈ texts, text ≠ "") :
    itemsIn (Value.texts texts) =
      if "words" ∈ texts then .error (.wrongKind "list indices must be integers or slices, not str")
      else .ok (texts.map .text) := by
  have kept : (texts.map Value.text).filter (·.isPresent) = texts.map .text := by
    rw [List.filter_eq_self]
    intro item listed
    obtain ⟨text, member, rfl⟩ := List.mem_map.mp listed
    simpa [Value.isPresent] using nonempty text member
  have elements : (Value.texts texts).elements = .ok (texts.map .text) := rfl
  by_cases listed : "words" ∈ texts
  · simp only [itemsIn, Ranking.holds_texts, listed, decide_true, bind, Except.bind, if_true]
    rfl
  · simp only [itemsIn, Ranking.holds_texts, listed, decide_false, bind, Except.bind, Bool.false_eq_true, if_false, pure,
      Except.pure, elements, kept]

theorem Returns.isPresent (returns : Returns state workspace request function query start returned) :
    state.function.isPresent = true := by
  simp [returns.isFunction, Value.isPresent, returns.named]

theorem Returns.run_ask (returns : Returns state workspace request function query start returned) :
    (ask state.function request).run.run workspace = ((itemsIn returned).map .list, asked workspace function query) := by
  have notBefore : ¬ start < 0 := by have := returns.fromStart; omega
  let between : Workspace := { workspace with events := workspace.events ++ [.evaluate (startQuestion function)] }
  have first : (Editor.evaluateInt (startQuestion function)).run.run workspace = (.ok start, between) := by
    rw [Editor.run_evaluateInt, returns.starts]
  -- the first question is an event, and the answers do not depend on the events
  have answered : Editor.answerTo between (itemsQuestion function query) = .ok returned := returns.items
  have second : (Editor.evaluate (itemsQuestion function query)).run.run between =
      (.ok returned, asked workspace function query) := by
    rw [Editor.run_evaluate, answered]
    simp [asked, between]
  rw [ask, returns.isFunction, returns.hasQuery]
  refine (Act.run_bind_ok rfl).trans ?_
  refine (Act.run_bind_ok rfl).trans ?_
  refine (Act.run_bind_ok first).trans ?_
  rw [if_neg notBefore]
  refine (Act.run_bind_ok rfl).trans ?_
  refine (Act.run_bind_ok rfl).trans ?_
  refine (Act.run_bind_ok second).trans ?_
  cases itemsIn returned <;> rfl

theorem Returns.run_gather (returns : Returns state workspace request function query start returned)
    {items : List Value} (found : itemsIn returned = .ok items) :
    (gather request).run.run (state, workspace) = (.ok (.list items), (state, asked workspace function query)) := by
  have answered : (ask state.function request).run.run workspace = (.ok (.list items), asked workspace function query) := by
    rw [returns.run_ask, found]
    rfl
  rw [gather, Act.run_bind_ok (Act.run_get _)]
  simp only [returns.isPresent, Bool.not_true, Bool.false_eq_true, if_false]
  exact Act.run_tryCatch_ok (Act.run_lift_ok answered state)

/-- A failure that is put down to the function is told, and there are no items then. -/
theorem Returns.run_gather_fault (returns : Returns state workspace request function query start returned)
    {fault : Fault} (failed : itemsIn returned = .error fault) (functions : isFunctionsFault fault = true) :
    (gather request).run.run (state, workspace) =
      (.ok (.list []), (state, told (asked workspace function query) fault.text)) := by
  have answered : (ask state.function request).run.run workspace = (.error fault, asked workspace function query) := by
    rw [returns.run_ask, failed]
    rfl
  have posted := Editor.run_postMessage (badValue ++ " " ++ fault.text) (asked workspace function query)
  rw [gather, Act.run_bind_ok (Act.run_get _)]
  simp only [returns.isPresent, Bool.not_true, Bool.false_eq_true, if_false]
  rw [Act.run_tryCatch_error (Act.run_lift_error answered state)]
  simp only [functions, Bool.not_true, Bool.false_eq_true, if_false]
  rw [Act.run_bind_ok (Act.run_lift_ok posted state)]
  rfl

end Completer.OmniState

open Ranking Completer.OmniState in
/-- Ranking an answer that is a list of plain texts is ranking these texts if and only if they are not taken for
something else, and fails otherwise; and the editor's function gives the completer the texts that it returns if and only
if none of them is the name of a record's list, and otherwise none, with a complaint. -/
theorem plain_texts_unharmed_iff (texts : List String) (query : String) (someText : texts ≠ [])
    (nonempty : ∀ text ∈ texts, text ≠ "") (typed : query ≠ "") (ascii : ∀ letter ∈ Bytes.ofString query, isAscii letter) :
    (∃ kept, rankItems (Value.texts texts) "" query = .ok kept ∧
      (rankAnswer (Value.texts texts) (.text query) = .ok kept ↔ ¬ Mistaken texts)) ∧
    (Mistaken texts → ∃ explanation, rankAnswer (Value.texts texts) (.text query) = .error (.wrongKind explanation)) ∧
    ∀ state workspace request function wanted start,
      Returns state workspace request function wanted start (Value.texts texts) →
        (((gather request).run.run (state, workspace)).1 = .ok (Value.texts texts) ↔ "words" ∉ texts) ∧
        ("words" ∈ texts → ∃ explanation, (gather request).run.run (state, workspace) =
          (.ok (.list []), (state, told (asked workspace function wanted) explanation))) := by
  refine ⟨?_, fun mistaken => rankAnswer_of_mistaken mistaken typed, ?_⟩
  · obtain ⟨kept, ranked⟩ := rankItems_texts_exists texts typed ascii
    refine ⟨kept, ranked, fun same mistaken => ?_, fun plain => ?_⟩
    · obtain ⟨explanation, failed⟩ := rankAnswer_of_mistaken mistaken typed
      cases failed.symm.trans same
    · rw [rankAnswer_of_not_mistaken plain someText, ranked]
  · intro state workspace request function wanted start returns
    have items := itemsIn_texts nonempty
    by_cases listed : "words" ∈ texts
    · rw [if_pos listed] at items
      have failed := returns.run_gather_fault items rfl
      refine ⟨⟨fun same => ?_, fun absent => absurd listed absent⟩, fun _ => ⟨_, failed⟩⟩
      rw [failed] at same
      cases texts with
      | nil => exact absurd rfl someText
      | cons first rest => cases same
    · rw [if_neg listed] at items
      rw [returns.run_gather items]
      exact ⟨⟨fun _ => listed, fun _ => rfl⟩, fun member => absurd member listed⟩

open Ranking Completer.OmniState in
theorem plain_texts_unharmed_iff_omni :
    let texts := ["fob", "swordfish", "fab"]
    let state : Completer.OmniState := { core := ⟨⟨[], .null, []⟩, {}⟩, function := .text "Omni" }
    let workspace : Workspace :=
      { editor := { answers := [("Omni(1", .ok (.text "3")), ("Omni(0", .ok (Value.texts texts))] } }
    let request : Value := .record [("query", .text "f'")]
    Returns state workspace request "Omni" "f'" 3 (Value.texts texts) ∧
      ((gather request).run.run (state, workspace)).1 = .ok (Value.texts texts) ∧
      rankAnswer (Value.texts texts) (.text "f") = rankItems (Value.texts texts) "" "f" := by
  intro texts state workspace request
  have question : itemsQuestion "Omni" "f'" = "Omni(0,'f''')" := by decide +kernel
  have other : Text.startsWith "Omni(0,'f''')" "Omni(1" = false := by decide +kernel
  have same : Text.startsWith "Omni(0,'f''')" "Omni(0" = true := by decide +kernel
  have returns : Returns state workspace request "Omni" "f'" 3 (Value.texts texts) :=
    ⟨rfl, by decide, rfl, by rfl, by decide, by
      rw [question]
      simp [Editor.answerTo, Editor.answer?, workspace, other, same]⟩
  have plain : ¬ Mistaken texts := by
    simp only [Mistaken, texts, List.head?_cons, Option.mem_def, Option.some.injEq, exists_eq_left']
    decide
  obtain ⟨⟨kept, ranked, unharmed⟩, _, returned⟩ :=
    plain_texts_unharmed_iff texts "f" (by decide) (by decide) (by decide) (by decide +kernel)
  refine ⟨returns, (returned _ _ _ _ _ _ returns).1.mpr (by decide), ?_⟩
  rw [unharmed.mpr plain, ranked]

open Ranking in
/-- A list of one plain text whose text contains the name of a field. -/
theorem keyword_taken_for_record :
    rankItems (Value.texts ["keyword"]) "" "k" = .ok (Value.texts ["keyword"]) ∧
      rankAnswer (Value.texts ["keyword"]) (.text "k") =
        .error (.wrongKind "string indices must be integers, not 'str'") := by
  have haveTexts : HaveTexts "" [.text "keyword"] := by simp [HaveTexts, text?]
  have keeps : Keeps (Bytes.ofString "k") (Bytes.ofString "keyword") := by decide +kernel
  have textOf_text : textOf "" (.text "keyword") = "keyword" := rfl
  obtain ⟨kept, ranked, rearranged⟩ := rank_perm_filter (fun item => Bytes.ofString (textOf "" item)) [.text "keyword"]
    (Bytes.ofString_ne_nil (by decide)) (by decide +kernel : ∀ letter ∈ Bytes.ofString "k", isAscii letter)
  have all : kept = [.text "keyword"] := by simpa [textOf_text, keeps] using rearranged
  refine ⟨?_, rfl⟩
  change rankItems (.list [.text "keyword"]) "" "k" = .ok (.list [.text "keyword"])
  rw [rankItems_eq_rank haveTexts (by decide), ranked, all]
  rfl

end Typeahead
