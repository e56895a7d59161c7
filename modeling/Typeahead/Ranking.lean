import Typeahead.Match

namespace Typeahead

/-! Filtering candidates by a query and listing the best first. -/

open Letter

namespace Ranking

variable {α : Type}

/-- Puts an item behind the last one it is not listed before, or in front when it beats the first. -/
def insert (before : α → α → Bool) (item : α) (sorted : List α) : List α :=
  match sorted with
  | [] => [item]
  | first :: _ =>
    if before item first then item :: sorted
    else
      let backwards := sorted.reverse
      (backwards.dropWhile (before item)).reverse ++ item :: (backwards.takeWhile (before item)).reverse

/-- Lists the items in order, one after the other. Sorting works like this up to sixteen items. Longer lists are first cut
into parts, so that items of which neither is listed before the other may come out in another order there. -/
def sort (before : α → α → Bool) (items : List α) : List α :=
  items.foldl (fun sorted item => insert before item sorted) []

/-- A query with an upper-case letter asks for case to count. -/
def caseCounts (query : Bytes) : Bool := query.any isUpper

def match? (query : Bytes) (letters : LetterSet) (candidate : Candidate) : Option Match :=
  if candidate.letters.contains letters then Match.ofQuery? candidate query (caseCounts query) else none

/-- The items whose text matches, best first. An empty query keeps everything as it is. -/
def rank (query : Bytes) (text : α → Bytes) (items : List α) : Except Fault (List α) :=
  if query.isEmpty then .ok items
  else do
    let candidates ← items.mapM fun item => (Candidate.ofText (Candidate.shown (text item))).map (item, ·)
    let letters ← LetterSet.ofText query
    let found := candidates.filterMap fun (item, candidate) => (match? query letters candidate).map (item, ·)
    return (sort (fun left right => left.2.before right.2) found).map (·.1)

end Ranking

end Typeahead
