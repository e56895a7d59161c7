import Typeahead.Text.Basic
import Typeahead.Text.Alphanumeric
import Typeahead.Fault

namespace Typeahead.Highlight

/-! Highlight groups as the editor lists them: a line `name xxx content`, then indented lines of the same
group. A line `links to Other` makes a group a child of another. -/

open Text

def isNameChar (character : Char) : Bool := isAlphanumeric character || character == '_'

/-- The name and the first content line of a group, where a line starts one. -/
def heading? (line : String) : Option (String × String) :=
  let characters := line.toList
  let name := characters.takeWhile isNameChar
  let rest := characters.dropWhile isNameChar
  let mark := rest.dropWhile isSpace
  let after := mark.drop 3
  let content := after.dropWhile isSpace
  let gap := after.takeWhile isSpace
  if name.isEmpty || mark.length == rest.length || mark.take 3 != ['x', 'x', 'x'] || gap.isEmpty then none
  else if !content.isEmpty then some (String.ofList name, strip (String.ofList content))
  else if gap.length < 2 then none
  else some (String.ofList name, "")

structure Group where
  name : String
  lines : List String
  deriving DecidableEq, Repr

/-- Collects the groups of a listing, in order. -/
def groupsFrom (current : Option Group) : List String → List Group
  | [] => current.toList
  | line :: rest =>
    if line.isEmpty then groupsFrom current rest
    else
      match heading? line, current with
      | some (name, content), none => groupsFrom (some ⟨name, [content]⟩) rest
      | some (name, content), some group => group :: groupsFrom (some ⟨name, [content]⟩) rest
      | none, none => groupsFrom none rest
      | none, some group =>
        if startsWith line " " || startsWith line "\t" then
          groupsFrom (some { group with lines := group.lines ++ [strip line] }) rest
        else groupsFrom (some group) rest

def listed (output : String) : List Group := groupsFrom none (split '\n' output)

def linkStart : String := "links to "

/-- The names of the groups a group links to. -/
def Group.parents (group : Group) : List String :=
  group.lines.filterMap fun line => if startsWith line linkStart then some (drop linkStart.length line) else none

/-- The groups every listing starts from, with their parents. -/
def builtIn : List (String × Option String) :=
  [("Statement", none), ("Type", none), ("Boolean", none), ("Include", none),
   ("Conditional", some "Statement"), ("Repeat", some "Statement"), ("Label", some "Statement"),
   ("Operator", some "Statement"), ("Keyword", some "Statement"), ("Exception", some "Statement"),
   ("StorageClass", some "Type"), ("Structure", some "Type"), ("Typedef", some "Type")]

/-- The groups whose descendants have the keywords. -/
def roots : List String := ["Statement", "Boolean", "Include", "Type"]

/-- A group in its place: a listed group of a built-in name takes the name, while the built-in one keeps
its parent. -/
structure Node where
  group : Group
  isBuiltIn : Bool
  deriving DecidableEq, Repr

/-- The group that goes by each name, in the order in which the names came up. -/
abbrev Table := List (String × Node)

def Table.put (table : Table) (node : Node) : Table :=
  match table with
  | [] => [(node.group.name, node)]
  | (name, old) :: rest =>
    if name == node.group.name then (name, node) :: rest else (name, old) :: Table.put rest node

def initial : Table := builtIn.map fun (name, _) => (name, ⟨⟨name, []⟩, true⟩)

def table (output : String) : Table := (listed output).foldl (fun table group => table.put ⟨group, false⟩) initial

/-- The children of a group: the built-in ones it was made with, then the listed ones that link to it,
once for each link. -/
def children (table : Table) (parent : Node) : List Node :=
  let fixed := if parent.isBuiltIn then
      builtIn.filterMap fun (name, above) =>
        if above == some parent.group.name then some ⟨⟨name, []⟩, true⟩ else none
    else []
  let linked := if table.lookup parent.group.name == some parent then
      table.flatMap fun (_, node) => (node.group.parents.filter (· == parent.group.name)).map fun _ => node
    else []
  fixed ++ linked

/-- All descendants, each child before its own ones. Links that lead back are endless. -/
def descendants (table : Table) : Nat → Node → Except Fault (List Node)
  | 0, _ => .error .endless
  | fuel + 1, node => do
    let below ← (children table node).mapM fun child => (descendants table fuel child).map (child :: ·)
    return below.flatten

end Typeahead.Highlight
