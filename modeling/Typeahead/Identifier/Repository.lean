import Typeahead.Candidate

namespace Typeahead.Identifier

/-! The candidates that have been made. There is one for each text, and it is known by its place among them. -/

structure Repository where
  texts : List Bytes
  distinct : texts.Nodup

namespace Repository

def empty : Repository := ⟨[], List.nodup_nil⟩

/-- The text of a candidate. -/
def text? (repository : Repository) (candidate : Nat) : Option Bytes := repository.texts[candidate]?

/-- The candidate of a text, which is made if there is none. -/
def intern (repository : Repository) (text : Bytes) : Nat × Repository :=
  if known : text ∈ repository.texts then (repository.texts.idxOf text, repository)
  else
    (repository.texts.length, {
      texts := repository.texts ++ [text]
      distinct := by
        rw [List.nodup_append]
        refine ⟨repository.distinct, by simp, fun other there last isLast same => known ?_⟩
        rwa [← List.mem_singleton.mp isLast, ← same] })

/-- The candidates of some texts, in their order. Texts that cannot be shown take part as the empty text. -/
def internAll (repository : Repository) : List Bytes → List Nat × Repository
  | [] => ([], repository)
  | text :: texts =>
    let (candidate, repository) := repository.intern (Candidate.shown text)
    let (candidates, repository) := repository.internAll texts
    (candidate :: candidates, repository)

end Repository

end Typeahead.Identifier
