import Typeahead.Fault
import Typeahead.Letter

namespace Typeahead.Identifier

/-! Identifiers in the text of a buffer, and the removal of comments and quoted text before they are
collected. -/

open Letter

/-- The characters an identifier may start with. -/
def startsIdentifier (letter : UInt8) : Bool := isAlpha letter || letter == underscore

/-- The identifiers of a text, in order and with repetitions. -/
def extract (text : Bytes) : List Bytes :=
  match text with
  | [] => []
  | letter :: rest =>
    if startsIdentifier letter then
      (letter :: rest.takeWhile isWord) :: extract (rest.dropWhile isWord)
    else extract rest
termination_by text.length
decreasing_by
  · have := (List.dropWhile_sublist isWord (l := rest)).length_le
    simp only [List.length_cons]
    omega
  · simp

def slash : UInt8 := 47
def star : UInt8 := 42
def hash : UInt8 := 35
def quote : UInt8 := 39
def doubleQuote : UInt8 := 34
def backslash : UInt8 := 92

def endsLine (letter : UInt8) : Bool := letter == 10 || letter == 13 || letter == 12

/-- What follows the end of a block comment. -/
def afterBlockComment : Bytes → Option Bytes
  | [] => none
  | letter :: rest =>
    match rest with
    | [] => none
    | next :: after => if letter == star && next == slash then some after else afterBlockComment rest

/-- What follows the closing quote. A backslash escapes a backslash or the quote, unless no quote is
left to close the text then. -/
def afterQuoted (closing : UInt8) : Bytes → Option Bytes
  | [] => none
  | [letter] => if letter == closing then some [] else none
  | letter :: next :: rest =>
    if letter == closing then some (next :: rest)
    else if letter == backslash && (next == backslash || next == closing) && rest.contains closing then
      afterQuoted closing rest
    else afterQuoted closing (next :: rest)
termination_by text => text.length

/-- What follows a comment or a quoted text that starts here. `escaped` says that a backslash stands
before it, where no quoted text starts. -/
def afterIgnored? (escaped : Bool) : Bytes → Option Bytes
  | [] => none
  | letter :: rest =>
    if letter == hash then some (rest.dropWhile (!endsLine ·))
    else if letter == slash then
      match rest with
      | [] => none
      | next :: after =>
        if next == slash then some (after.dropWhile (!endsLine ·))
        else if next == star then afterBlockComment after
        else none
    else if (letter == quote || letter == doubleQuote) && !escaped then afterQuoted letter rest
    else none

theorem length_afterBlockComment {text after : Bytes} (found : afterBlockComment text = some after) :
    after.length < text.length := by
  induction text with
  | nil => simp [afterBlockComment] at found
  | cons letter rest ih =>
    cases rest with
    | nil => simp [afterBlockComment] at found
    | cons next tail =>
      rw [afterBlockComment] at found
      split at found
      · cases found
        simp only [List.length_cons]
        omega
      · have := ih found
        simp only [List.length_cons] at this ⊢
        omega

theorem length_afterQuoted {closing : UInt8} {text after : Bytes}
    (found : afterQuoted closing text = some after) : after.length < text.length := by
  fun_induction afterQuoted closing text with
  | case1 => simp at found
  | case2 letter same => simp at found; simp [← found]
  | case3 => simp at found
  | case4 letter next rest same => simp at found; simp [← found]
  | case5 letter next rest differs escaped ih =>
    have := ih found
    simp only [List.length_cons]
    omega
  | case6 letter next rest differs plain ih =>
    have := ih found
    simp only [List.length_cons] at this ⊢
    omega

theorem length_afterIgnored? {escaped : Bool} {text after : Bytes}
    (found : afterIgnored? escaped text = some after) : after.length < text.length := by
  cases text with
  | nil => simp [afterIgnored?] at found
  | cons letter rest =>
    simp only [afterIgnored?] at found
    split at found
    · have := (List.dropWhile_sublist (!endsLine ·) (l := rest)).length_le
      cases found
      simp only [List.length_cons]
      omega
    · split at found
      · cases rest with
        | nil => simp at found
        | cons next tail =>
          simp only at found
          split at found
          · have := (List.dropWhile_sublist (!endsLine ·) (l := tail)).length_le
            cases found
            simp only [List.length_cons]
            omega
          · split at found
            · have := length_afterBlockComment found
              simp only [List.length_cons]
              omega
            · simp at found
      · split at found
        · have := length_afterQuoted found
          simp only [List.length_cons]
          omega
        · simp at found

/-- What a search that is given up fails with. -/
def givenUp : Fault := .failed "std::exception"

/-- The text without comments and quoted texts. After one of them the next search starts afresh: a backslash
before the removed part escapes nothing. A search may be given up, which depends on the text that it starts with. -/
def removeIgnoredAfter (givesUp : Bytes → Bool) (escaped : Bool) (text : Bytes) : Except Fault Bytes :=
  match found : afterIgnored? escaped text with
  | some after =>
    have := length_afterIgnored? found
    if givesUp after then .error givenUp else removeIgnoredAfter givesUp false after
  | none =>
    match text with
    | [] => .ok []
    | letter :: rest => (removeIgnoredAfter givesUp (letter == backslash) rest).map (letter :: ·)
termination_by text.length

def removeIgnored (givesUp : Bytes → Bool) (text : Bytes) : Except Fault Bytes :=
  if givesUp text then .error givenUp else removeIgnoredAfter givesUp false text

/-- The identifiers a buffer contributes. -/
def ofBuffer (givesUp : Bytes → Bool) (fromIgnored : Bool) (text : Bytes) : Except Fault (List Bytes) :=
  if fromIgnored then .ok (extract text) else (removeIgnored givesUp text).map extract

end Typeahead.Identifier
