import Typeahead.Workload.Basic
import Typeahead.Insertion
import Typeahead.Editor.Setting
import Typeahead.Highlight.Keyword

namespace Typeahead.Workload

/-! What happens while somebody types: completions are fitted to what follows, the place where one starts is
looked for, and the words of the file's syntax are gathered. -/

/-- Texts that overlap partly, hardly and wholly. -/
def overlapping : List (String × String) :=
  [("find_all_completions_", "completions_of_a_word"),
   ("the_bar", "arrow"),
   ("a_word_that_stands_before_and_behind_", "a_word_that_stands_before_and_behind_")]

/-- The lengths of the overlaps of pairs of texts. -/
def overlaps : Workload := fun size => return do
  let found ← total size fun index => do
    let (left, right) := inTurn overlapping index
    return Insertion.overlapLength left.toList right.toList
  return .int found

/-- Items fitted to the text behind the cursor, as texts and as records in turn. -/
def adjustments : Workload := fun size => do
  let word := "message_box_tail"
  let item (index : Nat) : Value := if index % 2 == 0 then .text word else .record [("word", .text word)]
  let items := Value.list ((List.range size).map item)
  return do
    let fitted ← Insertion.adjust (word ++ " = 0") items
    let first ← fitted.item 0
    let last ← fitted.item (-1)
    return .list [.int (sizeOf fitted), ← first.field "word", ← last.field "abbr"]

/-- Where completions start at the columns of a line, and which options the editor has for the server. -/
def positions : Workload := fun size => do
  let line := "foo.bar_baz( quux )"
  let globals := Value.record [("ycm_min_num_of_chars_for_completion", .text "2"),
    ("ycm_semantic_triggers", .record []), ("loaded_others", .text "1")]
  modify fun workspace => { workspace with editor :=
    { buffers := [{ name := "/work/typed.cpp", lines := [line] }], answers := [("g:", .ok globals)] } }
  return do
    let found ← total size fun index => do
      Editor.setCursor (.int 1) (.int (index % (line.length + 1) : Nat))
      let start ← Editor.completionStart
      let isFinished ← Editor.identifierFinished
      let isIdentifier ← Editor.lastIsIdentifier
      return start.toNat + isFinished.toNat + isIdentifier.toNat
    let options ← (← Editor.serverOptions).asFields
    return .list [.int found, Value.texts (Text.sorted (options.map (·.1)))]

/-- Groups of a syntax with the groups they link to. -/
def syntaxGroups : List (String × String × List String) :=
  [("cStatement", "Statement", ["goto", "break", "return", "continue", "asm"]),
   ("cLabel", "Label", ["case", "default"]),
   ("cConditional", "Conditional", ["if", "else", "switch"]),
   ("cRepeat", "Repeat", ["while", "for", "do"]),
   ("cOperator", "Operator", ["sizeof", "alignof", "typeid"]),
   ("cType", "Type", ["int", "long", "short", "char", "void", "signed", "unsigned", "float", "double", "size_t",
    "ptrdiff_t", "intptr_t", "wchar_t", "char16_t", "char32_t"]),
   ("cStructure", "Structure", ["struct", "union", "enum", "typedef", "class", "template", "namespace"]),
   ("cStorageClass", "StorageClass", ["static", "register", "auto", "volatile", "extern", "const", "inline",
    "mutable", "virtual"]),
   ("cppStatement", "Statement", ["new", "delete", "this", "friend", "using", "decltype", "noexcept", "self", "yield"]),
   ("cppAccess", "cppStatement", ["public", "protected", "private"]),
   ("cppExceptions", "Exception", ["throw", "try", "catch", "finally"]),
   ("cppBoolean", "Boolean", ["true", "false", "nullptr"])]

def groupText (group : String × String × List String) : String :=
  let (name, parent, words) := group
  name ++ " xxx " ++ Text.join " " words ++ "\n             links to " ++ parent ++ "\n"

/-- A listing of a syntax with some groups of its own for each copy. -/
def listing (copies : Nat) : String :=
  let copy (index : Nat) : String :=
    let token (letter : String) : String := "tok" ++ toString index ++ letter
    String.join (syntaxGroups.map groupText) ++
    groupText ("copy" ++ toString index, "Keyword", ["a", "b", "c"].map token)
  String.join ((List.range copies).map copy)

/-- The keywords of a syntax. -/
def keywordsOfSyntax : Workload := fun size => do
  let listing := listing size
  let group : Highlight.Group := ⟨"small", ["foo bar", "zoo goo contained", "links to Statement"]⟩
  return do
    let found ← Highlight.keywords listing
    return .list [.int found.length, Value.texts (Text.sorted found), .int group.keywords.length]

end Typeahead.Workload
