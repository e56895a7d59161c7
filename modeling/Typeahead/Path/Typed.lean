import Typeahead.Text.Basic

namespace Typeahead.Path

/-! Paths while they are typed: the path at the end of a line, and the file name of an include line. -/

/-- A letter of a drive name, by the range from `A` to `z`. -/
def isDriveLetter (character : Char) : Bool := 'A' ≤ character && character ≤ 'z'

/-- A character that goes on a path. Printable ASCII characters that usually end one do not. -/
def continuesPath (character : Char) : Bool :=
  character.isAlphanum || " /()$+_~.-[]".toList.contains character || character < ' ' || '~' < character

/-- What follows an opening of a path: a drive, a slash, a tilde, or dots and a slash. -/
def afterOpening : List Char → Option (List Char)
  | [] => none
  | character :: rest =>
    if character == '/' || character == '~' then some rest
    else if character == '.' then
      match rest.dropWhile (· == '.') with
      | '/' :: after => some after
      | _ => none
    else if isDriveLetter character then
      match rest.dropWhile isDriveLetter with
      | ':' :: '/' :: after => some after
      | _ => none
    else none

theorem length_afterOpening {text rest : List Char} (found : afterOpening text = some rest) :
    rest.length < text.length := by
  unfold afterOpening at found
  split at found
  · contradiction
  · rename_i character tail
    split at found
    · cases found; simp
    · split at found
      · have shorter := (List.dropWhile_sublist (· == '.') (l := tail)).length_le
        split at found
        · rename_i after dropped
          cases found
          simp only [dropped, List.length_cons] at shorter ⊢
          omega
        · contradiction
      · split at found
        · have shorter := (List.dropWhile_sublist isDriveLetter (l := tail)).length_le
          split at found
          · rename_i after dropped
            cases found
            simp only [dropped, List.length_cons] at shorter ⊢
            omega
          · contradiction
        · contradiction

/-- Whether the whole text is a path: one or more openings, and then characters that go on a path. -/
def isPath (text : List Char) : Bool :=
  match found : afterOpening text with
  | none => false
  | some rest =>
    have := length_afterOpening found
    rest.all continuesPath || isPath rest
termination_by text.length

/-- The longest path that ends a text. -/
def atEnd : List Char → Option (List Char)
  | [] => none
  | character :: rest => if isPath (character :: rest) then some (character :: rest) else atEnd rest

/-- Takes a text off the start. -/
def afterText? : List Char → List Char → Option (List Char)
  | [], text => some text
  | _ :: _, [] => none
  | expected :: more, character :: rest => if expected == character then afterText? more rest else none

/-- An include line that has been opened: whether by a bracket, and the path so far. -/
structure Include where
  inBrackets : Bool
  path : List Char
  deriving DecidableEq, Repr

def Include.ofLine? (line : List Char) : Option Include := do
  let rest ← afterText? ['#'] (line.dropWhile Text.isSpace)
  let rest ← afterText? "include".toList rest <|> afterText? "import".toList rest
  match rest.dropWhile Text.isSpace with
  | '"' :: path => some ⟨false, path⟩
  | '<' :: path => some ⟨true, path⟩
  | _ => none

/-- Whether a path has just been opened; a line end may follow. -/
def startsInclude (line : List Char) : Bool :=
  match Include.ofLine? line with
  | some found => found.path.isEmpty || found.path == ['\n']
  | none => false

end Typeahead.Path
