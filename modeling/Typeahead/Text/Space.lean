namespace Typeahead.Text

/-! White space, as the Unicode Standard 14 assigns it, together with the ASCII separators. -/

def spaceRanges : List (Nat × Nat) :=
  [(9, 13), (28, 32), (133, 133), (160, 160), (5760, 5760), (8192, 8202), (8232, 8233), (8239, 8239), (8287, 8287),
   (12288, 12288)]

def isSpace (character : Char) : Bool :=
  spaceRanges.any fun (first, last) => first ≤ character.toNat && character.toNat ≤ last

end Typeahead.Text
