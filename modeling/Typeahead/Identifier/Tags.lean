import Typeahead.Letter
import Typeahead.Table

namespace Typeahead.Identifier

/-! Tags files: one entry a line, `name TAB path TAB … language:Name …`. Only entries of known languages
count, and a path that is not absolute starts from the folder of the tags file. -/

def tab : UInt8 := 9

/-- Characters that end a field. -/
def endsField (letter : UInt8) : Bool := letter == 9 || letter == 10 || letter == 13

/-- Characters that end a line. -/
def breaksLine (letter : UInt8) : Bool := letter == 10 || letter == 13 || letter == 12

def languageLabel : Bytes := [108, 97, 110, 103, 117, 97, 103, 101, 58]

structure TagEntry where
  name : Bytes
  path : Bytes
  language : Bytes
  deriving DecidableEq, Repr

/-- A field and what follows it. -/
def field? (text : Bytes) : Option (Bytes × Bytes) :=
  let field := text.takeWhile (!endsField ·)
  if field.isEmpty then none else some (field, text.dropWhile (!endsField ·))

def afterTab? : Bytes → Option Bytes
  | [] => none
  | letter :: rest => if letter == tab then some rest else none

def languageHere? (text : Bytes) : Option (Bytes × Bytes) :=
  if languageLabel.isPrefixOf text then field? (text.drop languageLabel.length) else none

/-- The language named after the first label of the line that has a name behind it, and what follows. -/
def language? : Bytes → Option (Bytes × Bytes)
  | [] => none
  | letter :: rest =>
    match languageHere? (letter :: rest) with
    | some found => some found
    | none => if breaksLine letter then none else language? rest

/-- The entry that starts here, and the rest of the text from the end of its line on. -/
def tag? (text : Bytes) : Option (TagEntry × Bytes) := do
  let (name, text) ← field? text
  let text ← afterTab? text
  let (path, text) ← field? text
  let text ← afterTab? text
  let (language, text) ← language? text
  return (⟨name, path, language⟩, text.dropWhile (!breaksLine ·))

/-- Whether a line starts between two characters; a carriage return and a line feed together end one line. -/
def startsLine (previous : UInt8) (next : Option UInt8) : Bool :=
  breaksLine previous && !(previous == 13 && next == some 10)

theorem length_field? {text field rest : Bytes} (found : field? text = some (field, rest)) :
    rest.length < text.length := by
  cases text with
  | nil => simp [field?] at found
  | cons letter tail =>
    cases stops : endsField letter with
    | true => simp [field?, stops] at found
    | false =>
      have := (List.dropWhile_sublist (!endsField ·) (l := tail)).length_le
      simp only [field?, List.takeWhile, List.dropWhile, stops, Bool.not_false, List.isEmpty_cons,
        Bool.false_eq_true, if_false, Option.some.injEq, Prod.mk.injEq] at found
      rw [← found.2, List.length_cons]
      omega

theorem length_afterTab? {text rest : Bytes} (found : afterTab? text = some rest) :
    rest.length ≤ text.length := by
  cases text with
  | nil => simp [afterTab?] at found
  | cons letter tail =>
    simp only [afterTab?] at found
    split at found
    · cases found
      simp
    · simp at found

theorem length_languageHere? {text language rest : Bytes}
    (found : languageHere? text = some (language, rest)) : rest.length ≤ text.length := by
  simp only [languageHere?] at found
  split at found
  · have := length_field? found
    simp only [List.length_drop] at this
    omega
  · simp at found

theorem length_language? {text language rest : Bytes} (found : language? text = some (language, rest)) :
    rest.length ≤ text.length := by
  induction text with
  | nil => simp [language?] at found
  | cons letter tail ih =>
    cases here : languageHere? (letter :: tail) with
    | some pair =>
      simp only [language?, here, Option.some.injEq] at found
      subst found
      exact length_languageHere? here
    | none =>
      simp only [language?, here] at found
      split at found
      · simp at found
      · have := ih found
        simp only [List.length_cons]
        omega

theorem length_tag? {text rest : Bytes} {entry : TagEntry} (found : tag? text = some (entry, rest)) :
    rest.length < text.length := by
  simp only [tag?, Option.bind_eq_bind, Option.bind_eq_some_iff, Option.pure_def, Option.some.injEq,
    Prod.mk.injEq] at found
  obtain ⟨⟨name, first⟩, nameFound, second, tabFound, ⟨path, third⟩, pathFound, fourth, nextTab,
    ⟨language, last⟩, languageFound, _, same⟩ := found
  simp only at tabFound nextTab same
  have := length_field? nameFound
  have := length_afterTab? tabFound
  have := length_field? pathFound
  have := length_afterTab? nextTab
  have := length_language? languageFound
  have := (List.dropWhile_sublist (!breaksLine ·) (l := last)).length_le
  rw [← same]
  omega

/-- The entry that starts here, where one may start. -/
def tagAt? (atStart : Bool) (text : Bytes) : Option (TagEntry × Bytes) :=
  if atStart then tag? text else none

theorem length_tagAt? {atStart : Bool} {text rest : Bytes} {entry : TagEntry}
    (found : tagAt? atStart text = some (entry, rest)) : rest.length < text.length := by
  cases atStart with
  | false => simp [tagAt?] at found
  | true => exact length_tag? (by simpa [tagAt?] using found)

def entriesFrom (atStart : Bool) (text : Bytes) : List TagEntry :=
  match found : tagAt? atStart text with
  | some (entry, rest) =>
    have := length_tagAt? found
    entry :: entriesFrom true rest
  | none =>
    match text with
    | [] => []
    | letter :: rest => entriesFrom (startsLine letter rest.head?) rest
termination_by text.length

def entries (text : Bytes) : List TagEntry := entriesFrom true text

def filetypeOfLanguage : List (String × String) :=
  [("Ant", "ant"), ("Asm", "asm"), ("Awk", "awk"), ("Basic", "basic"), ("C++", "cpp"), ("C#", "cs"), ("C", "c"),
   ("COBOL", "cobol"), ("DosBatch", "dosbatch"), ("Eiffel", "eiffel"), ("Erlang", "erlang"),
   ("Fortran", "fortran"), ("HTML", "html"), ("Java", "java"), ("JavaScript", "javascript"), ("Lisp", "lisp"),
   ("Lua", "lua"), ("Make", "make"), ("MatLab", "matlab"), ("OCaml", "ocaml"), ("Pascal", "pascal"),
   ("Perl", "perl"), ("PHP", "php"), ("Python", "python"), ("REXX", "rexx"), ("Ruby", "ruby"),
   ("Scheme", "scheme"), ("Sh", "sh"), ("SLang", "slang"), ("SML", "sml"), ("SQL", "sql"), ("Tcl", "tcl"),
   ("Tex", "tex"), ("Vera", "vera"), ("Verilog", "verilog"), ("VHDL", "vhdl"), ("Vim", "vim"), ("YACC", "yacc")]

/-- The filetype of a language, whose name ends where a zero byte stands. -/
def filetype? (language : Bytes) : Option Bytes :=
  let known := language.takeWhile (· != 0)
  (filetypeOfLanguage.find? fun (name, _) => Bytes.ofString name == known).map fun (_, filetype) =>
    Bytes.ofString filetype

def pathSeparator : UInt8 := 47

/-- A name behind two separators: it names a machine, and no folder of one. -/
def isMachine (path : Bytes) : Bool :=
  [pathSeparator, pathSeparator].isPrefixOf path && !(path.drop 2).contains pathSeparator

/-- Whether a path starts at a root. The name of a machine does not, unless it is of one letter. -/
def isAbsolute (path : Bytes) : Bool :=
  path.head? == some pathSeparator && (!isMachine path || path.length == 3)

/-- The folder part of a path: what stands before its last separators, or the root. -/
def folderOf (path : Bytes) : Bytes :=
  let folder := (path.reverse.dropWhile (· != pathSeparator)).reverse
  let trimmed := (folder.reverse.dropWhile (· == pathSeparator)).reverse
  if isMachine path then [] else if trimmed.isEmpty then folder.take 1 else trimmed

/-- A path of an entry, seen from the folder of the tags file. -/
def locate (folder path : Bytes) : Bytes :=
  if isAbsolute path || folder.isEmpty then path
  else if folder.getLast? == some pathSeparator || path.head? == some pathSeparator then folder ++ path
  else folder ++ pathSeparator :: path

/-- Where an identifier was found. -/
structure Source where
  filetype : Bytes
  path : Bytes
  deriving DecidableEq, Repr

/-- The identifiers of a tags file, each with its source, in file order. -/
def ofTags (tagsPath text : Bytes) : List (Source × Bytes) :=
  (entries text).filterMap fun entry =>
    (filetype? entry.language).map fun filetype => (⟨filetype, locate (folderOf tagsPath) entry.path⟩, entry.name)

/-- Identifiers by filetype and path, with repetitions. -/
abbrev TagTable := List (Bytes × List (Bytes × List Bytes))

namespace TagTable

/-- Lists an identifier behind those of its source. -/
def push (table : TagTable) (source : Source) (name : Bytes) : TagTable :=
  Table.alter source.filetype
    (fun files => Table.alter source.path (fun names => names.getD [] ++ [name]) (files.getD [])) table

def names? (table : TagTable) (source : Source) : Option (List Bytes) :=
  (table.lookup source.filetype).bind (·.lookup source.path)

/-- The identifiers of a tags file by their sources. -/
def ofText (tagsPath text : Bytes) : TagTable :=
  (ofTags tagsPath text).foldl (fun table tagged => table.push tagged.1 tagged.2) []

end TagTable

end Typeahead.Identifier
