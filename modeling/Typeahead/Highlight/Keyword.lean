import Typeahead.Highlight.Group

namespace Typeahead.Highlight

/-! Keywords of highlight groups: the words of their lines that are no arguments of the listing. -/

open Text

/-- Words of a listing that are arguments and no keywords. -/
def argumentWords : List String :=
  ["cchar", "conceal", "contained", "containedin", "nextgroup", "skipempty", "skipnl", "skipwhite", "transparent",
   "concealends", "contains", "display", "extend", "fold", "oneline", "keepend", "excludenl"]

/-- An argument with a value, `name=value`. -/
def isAssignment (word : String) : Bool :=
  let name := word.toList.takeWhile isNameChar
  !name.isEmpty && (word.toList.drop name.length).head? == some '='

def isKeyword (word : String) : Bool :=
  !word.isEmpty && word.toList.all fun character => isNameChar character || character == ','

/-- A keyword without the comma behind it. -/
def withoutComma (word : String) : String :=
  if endsWith word "," then take (word.length - 1) word else word

def lineKeywords (line : String) : List String :=
  if startsWith line linkStart then []
  else
    let found := words line
    match found with
    | [] => []
    | first :: _ =>
      if argumentWords.contains first then []
      else
        (found.filter fun word => !argumentWords.contains word && !isAssignment word && isKeyword word).map
          withoutComma

def Group.keywords (group : Group) : List String := group.lines.flatMap lineKeywords

/-- The keywords of a listing: those of all groups below the roots. -/
def keywords (output : String) : Except Fault (List String) := do
  let table := table output
  let below ← roots.mapM fun root =>
    match table.lookup root with
    | some node => descendants table (table.length + builtIn.length + 1) node
    | none => .error (.missing (.text root))
  return (below.flatten.flatMap fun node => node.group.keywords).eraseDups

end Typeahead.Highlight
