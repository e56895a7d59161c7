import Typeahead.Text.Basic

namespace Typeahead.Path

/-! Patterns for names: `*` stands for any text, `?` for any character, a bracket for one of its
characters. -/

/-- Characters from the first to the last. -/
structure CharRange where
  first : Char
  last : Char

inductive GlobPart where
  | anything
  | anyChar
  | oneOf (negated : Bool) (ranges : List CharRange)
  | exactly (character : Char)

namespace Glob

/-- The content of a bracket and what follows it; a bracket that is not closed is none. -/
def bracket? (text : List Char) : Option (List Char × List Char) :=
  let (mark, text) := match text with
    | '!' :: rest => (['!'], rest)
    | text => ([], text)
  let (first, text) := match text with
    | ']' :: rest => ([']'], rest)
    | text => ([], text)
  match text.dropWhile (· != ']') with
  | _ :: after => some (mark ++ first ++ text.takeWhile (· != ']'), after)
  | [] => none

/-- Cuts the content of a bracket at the hyphens that make ranges: a hyphen has a character on both
sides, and the end of a range starts no other. -/
def chunks : Nat → List Char → List Char → List (List Char)
  | 0, seen, rest => [seen ++ rest]
  | _ + 1, seen, [] => [seen]
  | fuel + 1, seen, character :: rest =>
    if character == '-' then
      match rest with
      | [] => [seen, []]
      | next :: more =>
        match more with
        | [] => [seen, [next]]
        | second :: more => seen :: chunks fuel [next, second] more
    else chunks fuel (seen ++ [character]) rest

/-- A hyphen at the very end stands for itself. -/
def closeChunks (pieces : List (List Char)) : List (List Char) :=
  match pieces.reverse with
  | [] :: last :: before => ((last ++ ['-']) :: before).reverse
  | _ => pieces

/-- Ranges that run backwards vanish with both their ends. -/
def dropEmptyRanges : List (List Char) → List (List Char)
  | [] => []
  | piece :: rest =>
    match dropEmptyRanges rest with
    | [] => [piece]
    | next :: rest =>
      match piece.getLast?, next.head? with
      | some last, some first =>
        if last.toNat > first.toNat then (piece.dropLast ++ next.drop 1) :: rest else piece :: next :: rest
      | _, _ => piece :: next :: rest

def single (character : Char) : CharRange := ⟨character, character⟩

/-- The ranges between neighbouring pieces, and the characters left over. -/
def rangesOf : Option Char → List (List Char) → List CharRange
  | _, [] => []
  | open?, piece :: rest =>
    let (ranges, piece) : List CharRange × List Char := match open?, piece with
      | some first, last :: piece => ([⟨first, last⟩], piece)
      | some first, [] => ([single first], [])
      | none, piece => ([], piece)
    if rest.isEmpty then ranges ++ piece.map single
    else match piece.getLast? with
      | some last => ranges ++ piece.dropLast.map single ++ rangesOf (some last) rest
      | none => ranges ++ single '-' :: rangesOf none rest

/-- The part a bracket stands for. -/
def ofBracket (content : List Char) : GlobPart :=
  let (negated, rest) := match content with
    | '!' :: rest => (true, rest)
    | content => (false, content)
  if rest.isEmpty then (if negated then .anyChar else .oneOf false [])
  else
    match rest with
    | [] => .oneOf negated []
    | first :: more =>
      if !content.contains '-' then .oneOf negated (rest.map single)
      else
        let pieces := dropEmptyRanges (closeChunks (chunks rest.length [first] more))
        .oneOf negated (rangesOf none pieces)

def ofChars : Nat → List Char → List GlobPart
  | 0, _ => []
  | _ + 1, [] => []
  | fuel + 1, '*' :: rest => .anything :: ofChars fuel rest
  | fuel + 1, '?' :: rest => .anyChar :: ofChars fuel rest
  | fuel + 1, '[' :: rest =>
    match bracket? rest with
    | some (content, after) => ofBracket content :: ofChars fuel after
    | none => .exactly '[' :: ofChars fuel rest
  | fuel + 1, character :: rest => .exactly character :: ofChars fuel rest

def ofString (pattern : String) : List GlobPart := ofChars (pattern.length + 1) pattern.toList

def acceptsChar (part : GlobPart) (character : Char) : Bool :=
  match part with
  | .anything => true
  | .anyChar => true
  | .exactly expected => character == expected
  | .oneOf negated ranges => negated != ranges.any fun range => range.first ≤ character && character ≤ range.last

/-- Whether a pattern stands for a whole text. -/
def accepts : List GlobPart → List Char → Bool
  | [], text => text.isEmpty
  | .anything :: parts, text =>
    let rec anywhere : List Char → Bool
      | [] => accepts parts []
      | character :: rest => accepts parts (character :: rest) || anywhere rest
    anywhere text
  | part :: parts, text =>
    match text with
    | [] => false
    | character :: rest => acceptsChar part character && accepts parts rest

end Glob

def matchesGlob (name pattern : String) : Bool := Glob.accepts (Glob.ofString pattern) name.toList

end Typeahead.Path
