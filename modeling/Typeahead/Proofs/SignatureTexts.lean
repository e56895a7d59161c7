import Mathlib.Data.List.Induction
import Typeahead.Frontend.Completion
import Typeahead.Proofs.TextPieces

namespace Typeahead.Frontend

/-! The text that is shown of a signature, told from its chunks. What is no part of it is left out, and blanks stand
where the parameters begin and end. -/

mutual

/-- The texts that a chunk is made of; an optional one has those of its pieces. -/
def Chunk.leaves : Chunk → List String
  | .mk kind text nested => if kind = .optional then Chunk.allLeaves nested else [text]

def Chunk.allLeaves : List Chunk → List String
  | [] => []
  | chunk :: rest => Chunk.leaves chunk ++ Chunk.allLeaves rest

end

mutual

theorem fullText_eq : ∀ chunk : Chunk, chunk.fullText = String.join chunk.leaves
  | .mk kind text nested => by
      unfold Chunk.fullText Chunk.leaves
      split
      · exact fullTexts_eq nested
      · simp

theorem fullTexts_eq : ∀ chunks : List Chunk, Chunk.fullTexts chunks = String.join (Chunk.allLeaves chunks)
  | [] => rfl
  | chunk :: rest => by
      unfold Chunk.fullTexts Chunk.allLeaves
      rw [fullText_eq chunk, fullTexts_eq rest, String.join_append]

end

section Pieces

/-- The chunks that are part of the signature without its return type. -/
def shownPieces (chunks : List Chunk) : List Chunk :=
  chunks.filter fun chunk => chunk.kind ∉ [.text, .currentParameter, .resultType, .verticalSpace, .unknown]

/-- From the first opening parenthesis on there is something that is neither a parenthesis nor a remark. -/
def HasParameters (kinds : List ChunkKind) : Prop :=
  ∃ kind ∈ kinds.dropWhile (· ≠ .leftParen), kind ∉ [.leftParen, .rightParen, .informative]

instance (kinds : List ChunkKind) : Decidable (HasParameters kinds) :=
  inferInstanceAs (Decidable (∃ kind ∈ kinds.dropWhile (· ≠ .leftParen), kind ∉ [.leftParen, .rightParen, .informative]))

/-- The blank before a piece with which the parameters begin, and before each closing parenthesis after that. -/
def gap (before : List ChunkKind) (kind : ChunkKind) : String :=
  if HasParameters (before ++ [kind]) ∧ (HasParameters before → kind = .rightParen) then " " else ""

/-- The text of a signature, with all its underscores. -/
def signatureText (pieces : List Chunk) : String :=
  String.join (pieces.zipIdx.map fun (piece, place) =>
    gap ((pieces.take place).map Chunk.kind) piece.kind ++ String.join piece.leaves)

theorem signatureText_concat (pieces : List Chunk) (piece : Chunk) :
    signatureText (pieces ++ [piece]) =
      signatureText pieces ++ (gap (pieces.map Chunk.kind) piece.kind ++ String.join piece.leaves) := by
  have earlier : ∀ entry ∈ pieces.zipIdx, (pieces ++ [piece]).take entry.2 = pieces.take entry.2 := by
    intro entry listed
    have inside := (List.mem_zipIdx listed).2.1
    exact List.take_append_of_le_length (by omega)
  have same : (pieces.zipIdx.map fun (entry : Chunk × Nat) =>
      gap (((pieces ++ [piece]).take entry.2).map Chunk.kind) entry.1.kind ++ String.join entry.1.leaves) =
      pieces.zipIdx.map fun (entry : Chunk × Nat) =>
        gap ((pieces.take entry.2).map Chunk.kind) entry.1.kind ++ String.join entry.1.leaves := by
    apply List.map_congr_left
    intro entry listed
    rw [earlier entry listed]
  unfold signatureText
  rw [List.zipIdx_append, List.map_append, String.join_append, same]
  simp

theorem hasParameters_concat (kinds : List ChunkKind) (kind : ChunkKind) :
    HasParameters (kinds ++ [kind]) ↔
      HasParameters kinds ∨ .leftParen ∈ kinds ∧ kind ∉ [.leftParen, .rightParen, .informative] := by
  unfold HasParameters
  rw [List.dropWhile_append]
  by_cases opened : ChunkKind.leftParen ∈ kinds
  · have rest : (kinds.dropWhile (· ≠ .leftParen)).isEmpty = false := by
      rw [Bool.eq_false_iff, ne_eq, List.isEmpty_iff, List.dropWhile_eq_nil_iff]
      intro never
      simpa using never _ opened
    rw [rest, if_neg Bool.false_ne_true]
    simp only [List.mem_append, or_and_right, exists_or, List.mem_singleton, exists_eq_left, opened, true_and]
  · have nothing : kinds.dropWhile (· ≠ .leftParen) = [] := by
      rw [List.dropWhile_eq_nil_iff]
      intro other listed
      have different : other ≠ .leftParen := fun same => opened (same ▸ listed)
      simpa using different
    rw [nothing]
    by_cases isOpening : kind = .leftParen <;> simp [opened, isOpening]

/-- What has been read of some chunks. -/
structure Reads (chunks : List Chunk) (signature : Signature) : Prop where
  shown : signature.shown = signatureText (shownPieces chunks)
  sawParen : signature.sawParen = true ↔ .leftParen ∈ (shownPieces chunks).map Chunk.kind
  sawParameters : signature.sawParameters = true ↔ HasParameters ((shownPieces chunks).map Chunk.kind)

theorem isShown_iff (kind : ChunkKind) :
    kind.isShown = true ↔ kind ∉ [.text, .currentParameter, .resultType, .verticalSpace, .unknown] := by
  cases kind <;> decide

theorem Reads.spacing {chunks : List Chunk} {signature : Signature} (reads : Reads chunks signature) (kind : ChunkKind) :
    let before := (shownPieces chunks).map Chunk.kind
    (signature.spacing kind).shown = signature.shown ++ gap before kind ∧
      ((signature.spacing kind).sawParen = true ↔ .leftParen ∈ before ++ [kind]) ∧
      ((signature.spacing kind).sawParameters = true ↔ HasParameters (before ++ [kind])) := by
  simp only [gap, hasParameters_concat, List.mem_append, ← reads.sawParen, ← reads.sawParameters]
  obtain ⟨shown, returnType, typedText, sawParen, sawParameters⟩ := signature
  cases sawParen <;> cases sawParameters <;> cases kind <;> simp [Signature.spacing]

theorem Reads.addShown {chunks : List Chunk} {signature : Signature} (reads : Reads chunks signature) (chunk : Chunk) :
    Reads (chunks ++ [chunk]) (signature.addShown chunk) := by
  have cut : shownPieces (chunks ++ [chunk]) = shownPieces chunks ++ shownPieces [chunk] := List.filter_append _ _
  unfold Signature.addShown
  split
  · rename_i isShown
    have alone : shownPieces [chunk] = [chunk] := by simpa [shownPieces] using (isShown_iff chunk.kind).mp isShown
    obtain ⟨shown, sawParen, sawParameters⟩ := reads.spacing chunk.kind
    rw [alone] at cut
    refine ⟨?_, ?_, ?_⟩
    · rw [cut, signatureText_concat, ← reads.shown, ← String.append_assoc, ← shown, fullText_eq]
    · rw [cut, List.map_append]
      exact sawParen
    · rw [cut, List.map_append]
      exact sawParameters
  · rename_i hidden
    have nothing : shownPieces [chunk] = [] := by
      rw [isShown_iff] at hidden
      exact List.filter_cons_of_neg (by rwa [decide_eq_true_iff])
    rw [nothing, List.append_nil] at cut
    refine ⟨?_, ?_, ?_⟩
    · rw [cut, reads.shown]
    · rw [cut, reads.sawParen]
    · rw [cut, reads.sawParameters]

theorem reads_ofChunks (chunks : List Chunk) : Reads chunks (Signature.ofChunks chunks) := by
  induction chunks using List.reverseRecOn with
  | nil => exact ⟨rfl, by simp [Signature.ofChunks, shownPieces], by simp [Signature.ofChunks, shownPieces, HasParameters]⟩
  | append_singleton chunks chunk ih =>
      have step : Signature.ofChunks (chunks ++ [chunk]) = (Signature.ofChunks chunks).add chunk := by
        simp [Signature.ofChunks]
      have next := ih.addShown chunk
      rw [step, Signature.add]
      -- the other texts that a chunk replaces have no part in this one
      split
      · exact ⟨next.shown, next.sawParen, next.sawParameters⟩
      · exact ⟨next.shown, next.sawParen, next.sawParameters⟩
      · exact next

end Pieces

end Typeahead.Frontend
