import Typeahead.Table

namespace Typeahead.Frontend

/-! Completions from the chunks that a compiler front end describes them by. Overloads of one name become
one completion that lists all their signatures. -/

inductive ChunkKind where
  | optional
  | typedText
  | text
  | placeholder
  | informative
  | currentParameter
  | leftParen
  | rightParen
  | leftBracket
  | rightBracket
  | leftBrace
  | rightBrace
  | leftAngle
  | rightAngle
  | comma
  | resultType
  | colon
  | semicolon
  | equal
  | horizontalSpace
  | verticalSpace
  | unknown
  deriving DecidableEq, Repr, Inhabited

namespace ChunkKind

/-- All kinds, in the order of their codes. -/
def all : List ChunkKind :=
  [.optional, .typedText, .text, .placeholder, .informative, .currentParameter, .leftParen, .rightParen,
   .leftBracket, .rightBracket, .leftBrace, .rightBrace, .leftAngle, .rightAngle, .comma, .resultType, .colon,
   .semicolon, .equal, .horizontalSpace, .verticalSpace]

def ofCode (code : Int) : ChunkKind := if 0 ≤ code then (all[code.toNat]?).getD .unknown else .unknown

/-- Whether the chunk is part of the signature that is shown. -/
def isShown : ChunkKind → Bool
  | .text | .currentParameter | .resultType | .verticalSpace | .unknown => false
  | _ => true

end ChunkKind

/-- A piece of a completion. An optional piece is made of further ones. -/
inductive Chunk where
  | mk (kind : ChunkKind) (text : String) (nested : List Chunk)
  deriving Inhabited

namespace Chunk

def kind : Chunk → ChunkKind
  | mk kind _ _ => kind

def text : Chunk → String
  | mk _ text _ => text

def nested : Chunk → List Chunk
  | mk _ _ nested => nested

mutual

/-- The text of a chunk; that of an optional one is put together from its pieces. -/
def fullText : Chunk → String
  | mk kind text nested => if kind = .optional then fullTexts nested else text

def fullTexts : List Chunk → String
  | [] => ""
  | chunk :: rest => fullText chunk ++ fullTexts rest

end

end Chunk

/-- What has been read of the chunks of a completion. -/
structure Signature where
  shown : String := ""
  returnType : String := ""
  typedText : String := ""
  sawParen : Bool := false
  sawParameters : Bool := false

namespace Signature

/-- The blank inside parentheses that are not empty. -/
def spacing (signature : Signature) (kind : ChunkKind) : Signature :=
  if kind = .leftParen then { signature with sawParen := true }
  else if signature.sawParen && !signature.sawParameters && kind ≠ .rightParen && kind ≠ .informative then
    { signature with sawParameters := true, shown := signature.shown ++ " " }
  else if signature.sawParameters && kind = .rightParen then { signature with shown := signature.shown ++ " " }
  else signature

def addShown (signature : Signature) (chunk : Chunk) : Signature :=
  if chunk.kind.isShown then
    let spaced := signature.spacing chunk.kind
    { spaced with shown := spaced.shown ++ chunk.fullText }
  else signature

def add (signature : Signature) (chunk : Chunk) : Signature :=
  let signature := signature.addShown chunk
  match chunk.kind with
  | .resultType => { signature with returnType := chunk.text }
  | .typedText => { signature with typedText := chunk.text }
  | _ => signature

def ofChunks (chunks : List Chunk) : Signature := chunks.foldl add {}

end Signature

/-- Erases pairs of underscores, from left to right. -/
def erasePairs : List Char → List Char
  | [] => []
  | '_' :: '_' :: rest => erasePairs rest
  | character :: rest => character :: erasePairs rest

/-- The letter that stands for a kind of symbol, by the kind's code. -/
def kindLetter (code : Int) : String :=
  if code == 2 then "s"
  else if code == 4 || code == 31 then "c"
  else if code == 5 then "e"
  else if code == 1 || code == 3 || code == 20 then "t"
  else if code == 6 then "m"
  else if [8, 21, 30, 26, 24, 25].contains code then "f"
  else if code == 9 then "v"
  else if code == 501 then "d"
  else if code == 10 then "p"
  else if code == 22 || code == 33 then "n"
  else "u"

structure Completion where
  insertion : String := ""
  menu : String := ""
  returnType : String := ""
  detailed : String := ""
  kind : String := ""
  deriving DecidableEq, Repr

/-- One result of the front end. Without chunks there is nothing to complete with. -/
structure Offer where
  chunks : Option (List Chunk) := some []
  availability : Int := 0
  cursorKind : Int := 1

namespace Offer

def isAvailable (offer : Offer) : Bool := offer.chunks.isSome && offer.availability == 0

end Offer

namespace Completion

/-- The line that describes one overload. -/
def line (returnType shown : String) : String := returnType ++ " " ++ shown ++ "\n"

def ofOffer (offer : Offer) : Completion :=
  let signature := Signature.ofChunks (offer.chunks.getD [])
  let shown := String.ofList (erasePairs signature.shown.toList)
  { insertion := signature.typedText, menu := shown, returnType := signature.returnType
    detailed := line signature.returnType shown, kind := kindLetter offer.cursorKind }

end Completion

/-- The completions so far, in the order of their first overloads, and where the one with each inserted text stands. -/
structure Gathered where
  completions : List Completion := []
  places : List (String × Nat) := []

namespace Gathered

/-- Adds a completion. One whose text has no place yet gets the next one; an overload of a known one only adds its
line there. -/
def add (gathered : Gathered) (next : Completion) : Gathered :=
  let count := gathered.completions.length
  let place := (gathered.places.lookup next.insertion).getD count
  let places := Table.alter next.insertion (·.getD count) gathered.places
  if place = count then ⟨gathered.completions ++ [next], places⟩
  else
    let withLine (known : Completion) : Completion :=
      { known with detailed := known.detailed ++ Completion.line next.returnType next.menu }
    ⟨gathered.completions.modify place withLine, places⟩

def addOffer (gathered : Gathered) (offer : Offer) : Gathered :=
  if offer.isAvailable then gathered.add (Completion.ofOffer offer) else gathered

end Gathered

/-- The completions of the results of a front end. -/
def Completion.ofOffers (offers : List Offer) : List Completion := (offers.foldl Gathered.addOffer {}).completions

end Typeahead.Frontend
