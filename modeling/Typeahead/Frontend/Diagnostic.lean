import Typeahead.Frontend.Location

namespace Typeahead.Frontend

/-! What a compiler front end finds wrong in a file. -/

/-- A finding as the front end reports it, with the findings that explain it. -/
inductive Finding where
  | mk (severity : Int) (location : Location) (spelling formatted : String) (ranges : List Range)
      (children : List Finding)
  deriving Inhabited

namespace Finding

mutual

/-- The text of a finding and of all that explain it. -/
def fullText : Finding → String
  | mk _ _ _ formatted _ children => formatted ++ fullTexts children

def fullTexts : List Finding → String
  | [] => ""
  | finding :: rest => fullText finding ++ fullTexts rest

end

end Finding

structure Token where
  location : Location
  spelling : String

structure Diagnostic where
  location : Location := {}
  extent : Range := {}
  ranges : List Range := []
  /-- An error, a warning, or only for information. -/
  kind : String := "E"
  text : String := ""
  long : String := ""
  deriving DecidableEq, Repr

namespace Diagnostic

def kindOf (severity : Int) : String :=
  if severity == 0 || severity == 1 then "I" else if severity == 2 then "W" else "E"

/-- The range of the token that starts at a place. Its length counts bytes. -/
def extentAt (tokens : List Token) (location : Location) : Range :=
  match tokens.find? fun token => token.location == location with
  | some token => ⟨location, { location with column := location.column + token.spelling.utf8ByteSize }⟩
  | none => {}

def ofFinding (tokens : List Token) (finding : Finding) : Diagnostic :=
  match finding with
  | .mk severity location spelling _ ranges _ =>
    { location, extent := extentAt tokens location, ranges, kind := kindOf severity, text := spelling
      long := finding.fullText }

/-- The diagnostics of findings, except those that only inform. -/
def ofFindings (tokens : List Token) (findings : List Finding) : List Diagnostic :=
  (findings.map (ofFinding tokens)).filter fun diagnostic => diagnostic.kind != "I"

end Diagnostic

end Typeahead.Frontend
