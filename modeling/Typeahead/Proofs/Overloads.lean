import Mathlib.Data.List.Induction
import Typeahead.Proofs.SignatureTexts
import Typeahead.Proofs.UnderscoreRuns

namespace Typeahead.Frontend

/-! Overloads are merged without loss. The table of places and the list of completions grow together: a text has a
place in the table exactly where a completion with it stands. Along a run over the results each completion then
keeps what its first overload says and has the lines of all of them. -/

namespace Offer

/-- The text of the last chunk of a kind. -/
def lastText (offer : Offer) (kind : ChunkKind) : String :=
  ((((offer.chunks.getD []).filter (·.kind = kind)).getLast?).map Chunk.text).getD ""

def typedText (offer : Offer) : String := offer.lastText .typedText

def returnType (offer : Offer) : String := offer.lastText .resultType

/-- All of the signature but the return type, without pairs of underscores. -/
def shown (offer : Offer) : String :=
  String.ofList ((underscoreRuns (signatureText (shownPieces (offer.chunks.getD []))).toList).flatMap leftOf)

def line (offer : Offer) : String := offer.returnType ++ " " ++ offer.shown ++ "\n"

end Offer

theorem addShown_exists (signature : Signature) (chunk : Chunk) :
    ∃ shown sawParen sawParameters, signature.addShown chunk = { signature with shown, sawParen, sawParameters } := by
  unfold Signature.addShown Signature.spacing
  split_ifs
  all_goals exact ⟨_, _, _, rfl⟩

theorem typedText_add (signature : Signature) (chunk : Chunk) :
    (signature.add chunk).typedText = if chunk.kind = .typedText then chunk.text else signature.typedText := by
  obtain ⟨shown, sawParen, sawParameters, same⟩ := addShown_exists signature chunk
  unfold Signature.add
  rw [same]
  cases chunk.kind <;> rfl

theorem returnType_add (signature : Signature) (chunk : Chunk) :
    (signature.add chunk).returnType = if chunk.kind = .resultType then chunk.text else signature.returnType := by
  obtain ⟨shown, sawParen, sawParameters, same⟩ := addShown_exists signature chunk
  unfold Signature.add
  rw [same]
  cases chunk.kind <;> rfl

/-- What each chunk of a kind replaces is in the end the text of the last such chunk. -/
theorem read_ofChunks {read : Signature → String} {kind : ChunkKind} (empty : read {} = "")
    (replaces : ∀ signature chunk, read (signature.add chunk) = if chunk.kind = kind then chunk.text else read signature)
    (chunks : List Chunk) :
    read (Signature.ofChunks chunks) = (((chunks.filter (·.kind = kind)).getLast?).map Chunk.text).getD "" := by
  induction chunks using List.reverseRecOn with
  | nil => exact empty
  | append_singleton chunks chunk ih =>
      have step : Signature.ofChunks (chunks ++ [chunk]) = (Signature.ofChunks chunks).add chunk := by
        simp [Signature.ofChunks]
      rw [step, replaces, List.filter_append]
      by_cases isKind : chunk.kind = kind
      · simp [isKind]
      · simp [isKind, ih]

theorem insertion_ofOffer (offer : Offer) : (Completion.ofOffer offer).insertion = offer.typedText :=
  read_ofChunks rfl typedText_add _

theorem returnType_ofOffer (offer : Offer) : (Completion.ofOffer offer).returnType = offer.returnType :=
  read_ofChunks rfl returnType_add _

theorem menu_ofOffer (offer : Offer) : (Completion.ofOffer offer).menu = offer.shown := by
  rw [Offer.shown, ← erasePairs_eq_flatMap, ← (reads_ofChunks (offer.chunks.getD [])).shown]
  rfl

theorem detailed_ofOffer (offer : Offer) : (Completion.ofOffer offer).detailed = offer.line := by
  rw [Offer.line, ← returnType_ofOffer, ← menu_ofOffer]
  rfl

/-- A completion is made of the overloads with its text: the first of them and the lines of all. -/
structure Merges (overloads : List Offer) (completion : Completion) : Prop where
  first : ∃ offer, overloads.find? (·.typedText = completion.insertion) = some offer ∧
    completion.kind = kindLetter offer.cursorKind ∧ completion.returnType = offer.returnType ∧
    completion.menu = offer.shown
  lines : completion.detailed =
    String.join ((overloads.filter (·.typedText = completion.insertion)).map Offer.line)

namespace Merges

variable {overloads : List Offer} {completion : Completion} {next : Offer}

theorem beside (merges : Merges overloads completion) (other : next.typedText ≠ completion.insertion) :
    Merges (overloads ++ [next]) completion where
  first := by
    obtain ⟨offer, found, same⟩ := merges.first
    exact ⟨offer, by rw [List.find?_append, found, Option.some_or], same⟩
  lines := by
    rw [List.filter_append, merges.lines]
    simp [other]

theorem overload (merges : Merges overloads completion) (same : next.typedText = completion.insertion) :
    Merges (overloads ++ [next]) { completion with detailed := completion.detailed ++ next.line } where
  first := by
    obtain ⟨offer, found, same⟩ := merges.first
    exact ⟨offer, by rw [List.find?_append, found, Option.some_or], same⟩
  lines := by
    have listed : [next].filter (·.typedText = completion.insertion) = [next] := by simp [same]
    rw [List.filter_append, listed, List.map_append, String.join_append, ← merges.lines]
    simp

theorem alone (unknown : ∀ offer ∈ overloads, offer.typedText ≠ next.typedText) :
    Merges (overloads ++ [next]) (Completion.ofOffer next) where
  first := by
    have absent : overloads.find? (·.typedText = (Completion.ofOffer next).insertion) = none := by
      rw [List.find?_eq_none, insertion_ofOffer]
      simpa using unknown
    refine ⟨next, ?_, rfl, returnType_ofOffer next, menu_ofOffer next⟩
    rw [List.find?_append, absent]
    simp [insertion_ofOffer]
  lines := by
    have absent : overloads.filter (·.typedText = next.typedText) = [] := by
      rw [List.filter_eq_nil_iff]
      simpa using unknown
    rw [insertion_ofOffer, List.filter_append, absent, detailed_ofOffer]
    simp

end Merges

namespace Gathered

variable {gathered : Gathered} {overloads : List Offer} {next : Offer} {place : Nat} {text : String}

/-- The inserted text at a place. -/
def textAt? (gathered : Gathered) (place : Nat) : Option String := gathered.completions[place]?.map (·.insertion)

theorem textAt?_concat (completion : Completion) (places : List (String × Nat)) (place : Nat) :
    textAt? ⟨gathered.completions ++ [completion], places⟩ place =
      if place = gathered.completions.length then some completion.insertion else gathered.textAt? place := by
  obtain inside | rfl | outside := Nat.lt_trichotomy place gathered.completions.length
  · simp [textAt?, List.getElem?_append_left inside, Nat.ne_of_lt inside]
  · simp [textAt?]
  · have beyond : (gathered.completions ++ [completion]).length ≤ place := by
      rw [List.length_append, List.length_singleton]
      omega
    rw [textAt?, List.getElem?_eq_none beyond, if_neg (by omega), textAt?, List.getElem?_eq_none (by omega)]

/-- More lines for a completion change no text. -/
theorem textAt?_modify (lines : String) (places : List (String × Nat)) (place other : Nat) :
    textAt? ⟨gathered.completions.modify place fun known => { known with detailed := known.detailed ++ lines }, places⟩
      other = gathered.textAt? other := by
  rw [textAt?, textAt?, List.getElem?_modify]
  cases gathered.completions[other]? with
  | none => rfl
  | some completion => by_cases same : place = other <;> simp [same]

/-- What has been gathered from overloads. -/
structure Holds (gathered : Gathered) (overloads : List Offer) : Prop where
  placed : ∀ text place, gathered.places.lookup text = some place ↔ gathered.textAt? place = some text
  inOrder : gathered.completions.map (·.insertion) = (overloads.map Offer.typedText).eraseDups
  merged : ∀ completion ∈ gathered.completions, Merges overloads completion

theorem holds_empty : Holds {} [] where
  placed := by simp [textAt?]
  inOrder := rfl
  merged := by simp

theorem Holds.mem_texts (holds : gathered.Holds overloads) :
    text ∈ overloads.map Offer.typedText ↔ ∃ place, gathered.textAt? place = some text := by
  rw [← List.mem_eraseDups, ← holds.inOrder, List.mem_iff_getElem?]
  simp [textAt?]

theorem add_of_known (known : gathered.places.lookup next.typedText = some place)
    (inside : place < gathered.completions.length) :
    gathered.add (Completion.ofOffer next) =
      ⟨gathered.completions.modify place fun known => { known with detailed := known.detailed ++ next.line },
        Table.alter next.typedText (·.getD gathered.completions.length) gathered.places⟩ := by
  have earlier : place ≠ gathered.completions.length := by omega
  simp only [add, insertion_ofOffer, known, Option.getD_some, earlier, if_false]
  rw [← detailed_ofOffer]
  rfl

theorem add_of_unknown (unknown : gathered.places.lookup next.typedText = none) :
    gathered.add (Completion.ofOffer next) =
      ⟨gathered.completions ++ [Completion.ofOffer next],
        Table.alter next.typedText (·.getD gathered.completions.length) gathered.places⟩ := by
  simp [add, insertion_ofOffer, unknown]

theorem Holds.add_known (holds : gathered.Holds overloads)
    (known : gathered.places.lookup next.typedText = some place) :
    (gathered.add (Completion.ofOffer next)).Holds (overloads ++ [next]) := by
  have there := (holds.placed _ _).mp known
  obtain ⟨_, stands, _⟩ := Option.map_eq_some_iff.mp there
  obtain ⟨inside, _⟩ := List.getElem?_eq_some_iff.mp stands
  rw [add_of_known known inside]
  refine ⟨fun text other => ?_, ?_, fun completion member => ?_⟩
  · have kept : (Table.alter next.typedText (·.getD gathered.completions.length) gathered.places).lookup text =
        gathered.places.lookup text := by
      by_cases same : text = next.typedText
      · rw [same, Table.lookup_alter_self, known, Option.getD_some]
      · exact Table.lookup_alter_other _ _ same
    rw [kept, holds.placed text other, textAt?_modify]
  · have seen : next.typedText ∈ overloads.map Offer.typedText := holds.mem_texts.mpr ⟨place, there⟩
    have unchanged : (gathered.completions.modify place
        fun known => { known with detailed := known.detailed ++ next.line }).map (·.insertion) =
          gathered.completions.map (·.insertion) := by
      apply List.ext_getElem?
      intro other
      rw [List.getElem?_map, List.getElem?_map]
      exact textAt?_modify next.line gathered.places place other
    rw [unchanged, holds.inOrder, List.map_append, List.map_singleton, Text.eraseDups_concat, if_pos seen]
  · obtain ⟨other, stands⟩ := List.mem_iff_getElem?.mp member
    rw [List.getElem?_modify] at stands
    obtain ⟨old, stood, rfl⟩ := Option.map_eq_some_iff.mp stands
    have merges := holds.merged old (List.mem_of_getElem? stood)
    have textThere : gathered.textAt? other = some old.insertion := by rw [textAt?, stood]; rfl
    by_cases same : place = other
    · subst same
      have isText : next.typedText = old.insertion := Option.some.inj (there.symm.trans textThere)
      simpa using merges.overload isText
    · -- the text has one place only
      have otherText : next.typedText ≠ old.insertion := by
        intro isText
        rw [isText, (holds.placed _ _).mpr textThere] at known
        exact same (Option.some.inj known).symm
      simpa [same] using merges.beside otherText

theorem Holds.add_unknown (holds : gathered.Holds overloads)
    (unknown : gathered.places.lookup next.typedText = none) :
    (gathered.add (Completion.ofOffer next)).Holds (overloads ++ [next]) := by
  have nowhere : ∀ place, gathered.textAt? place ≠ some next.typedText := by
    intro place there
    rw [(holds.placed _ _).mpr there] at unknown
    cases unknown
  have unseen : next.typedText ∉ overloads.map Offer.typedText := by
    intro seen
    obtain ⟨place, there⟩ := holds.mem_texts.mp seen
    exact nowhere place there
  rw [add_of_unknown unknown]
  refine ⟨fun text place => ?_, ?_, fun completion member => ?_⟩
  · have ends : gathered.textAt? gathered.completions.length = none := by simp [textAt?]
    rw [textAt?_concat, insertion_ofOffer]
    by_cases same : text = next.typedText
    · subst same
      rw [Table.lookup_alter_self, unknown, Option.getD_none]
      by_cases last : place = gathered.completions.length
      · simp [last]
      · simp [last, Ne.symm last, nowhere place]
    · rw [Table.lookup_alter_other _ _ same, holds.placed]
      by_cases last : place = gathered.completions.length
      · simp [last, ends, Ne.symm same]
      · simp [last]
  · rw [List.map_append, holds.inOrder, List.map_append, List.map_singleton, List.map_singleton, insertion_ofOffer,
      Text.eraseDups_concat, if_neg unseen]
  · obtain old | isNew := List.mem_append.mp member
    · have merges := holds.merged completion old
      have otherText : next.typedText ≠ completion.insertion := by
        intro isText
        obtain ⟨place, stands⟩ := List.mem_iff_getElem?.mp old
        exact nowhere place (by rw [textAt?, stands, isText]; rfl)
      exact merges.beside otherText
    · rw [List.mem_singleton.mp isNew]
      exact Merges.alone fun offer listed same => unseen (List.mem_map.mpr ⟨offer, listed, same⟩)

theorem Holds.add (holds : gathered.Holds overloads) (next : Offer) :
    (gathered.add (Completion.ofOffer next)).Holds (overloads ++ [next]) := by
  cases found : gathered.places.lookup next.typedText with
  | none => exact holds.add_unknown found
  | some place => exact holds.add_known found

theorem holds_foldl (offers : List Offer) :
    (offers.foldl Gathered.addOffer {}).Holds (offers.filter Offer.isAvailable) := by
  induction offers using List.reverseRecOn with
  | nil => exact holds_empty
  | append_singleton offers offer ih =>
      rw [List.foldl_append, List.filter_append]
      cases available : offer.isAvailable with
      | true => simpa [addOffer, available] using ih.add offer
      | false => simpa [addOffer, available] using ih

end Gathered

/-- There is one completion for each typed text among the available results, in the order in which the texts first
appear, and it merges the results with its text; the other results, those without chunks among them, change nothing. -/
theorem Completion.ofOffers_merges_overloads (offers : List Offer) :
    let available := offers.filter fun offer => offer.chunks.isSome && offer.availability == 0
    (ofOffers offers).map (·.insertion) = (available.map Offer.typedText).eraseDups ∧
      (∀ completion ∈ ofOffers offers, Merges available completion) ∧ ofOffers offers = ofOffers available := by
  have holds := Gathered.holds_foldl offers
  refine ⟨holds.inOrder, holds.merged, ?_⟩
  have skips : Gathered.addOffer = fun gathered offer =>
      if offer.chunks.isSome && offer.availability == 0 then gathered.addOffer offer else gathered := by
    funext gathered offer
    unfold Gathered.addOffer Offer.isAvailable
    split <;> rfl
  rw [ofOffers, ofOffers, List.foldl_filter, ← skips]

/-- Two overloads of one function, with another function and two results that are not available between them. -/
theorem Completion.ofOffers_merges_overloads_of_find :
    let chunk (kind : ChunkKind) (text : String) : Chunk := .mk kind text []
    let optional : Chunk := .mk .optional "" [chunk .comma ", ", chunk .placeholder "int __pos"]
    let offers : List Offer :=
      [{ chunks := some [chunk .resultType "int", chunk .typedText "find", chunk .leftParen "(",
          chunk .placeholder "char __c", optional, chunk .rightParen ")", chunk .informative " const"], cursorKind := 21 },
        { chunks := none, cursorKind := 21 },
        { chunks := some [chunk .typedText "erase"], availability := 2, cursorKind := 21 },
        { chunks := some [chunk .resultType "bool", chunk .typedText "empty", chunk .leftParen "(",
          chunk .rightParen ")"], cursorKind := 8 },
        { chunks := some [chunk .resultType "long", chunk .typedText "find", chunk .leftParen "(",
          chunk .rightParen ")"], cursorKind := 1 }]
    let find : Completion :=
      { insertion := "find", menu := "find( char c, int pos ) const", returnType := "int"
        detailed := "int find( char c, int pos ) const\nlong find()\n", kind := "f" }
    let empty : Completion :=
      { insertion := "empty", menu := "empty()", returnType := "bool", detailed := "bool empty()\n", kind := "f" }
    ofOffers offers = [find, empty] ∧ ∀ completion ∈ [find, empty], Merges (offers.filter Offer.isAvailable) completion := by
  intro chunk optional offers find empty
  have computed : ofOffers offers = [find, empty] := by decide +kernel
  refine ⟨computed, ?_⟩
  rw [← computed]
  exact (ofOffers_merges_overloads offers).2.1

end Typeahead.Frontend
