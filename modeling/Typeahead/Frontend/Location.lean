namespace Typeahead.Frontend

/-! Places in source files, as a compiler front end gives them. Lines and columns count from 1. -/

structure Location where
  path : String := ""
  line : Int := 0
  column : Int := 0
  deriving DecidableEq, Repr, Inhabited

/-- A place without a file is no place. -/
def Location.isValid (location : Location) : Bool := !location.path.isEmpty

structure Range where
  start : Location := {}
  stop : Location := {}
  deriving DecidableEq, Repr, Inhabited

end Typeahead.Frontend
