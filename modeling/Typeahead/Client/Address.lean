import Typeahead.Fault
import Typeahead.Text.Basic

namespace Typeahead

/-! Addresses on the network, and how a relative one is resolved against another. -/

structure Address where
  scheme : String
  host : String := ""
  path : String := ""
  parameters : String := ""
  query : String := ""
  fragment : String := ""
  deriving DecidableEq, Repr

namespace Address

/-- Splits at the first place where a character stands. -/
def splitAt (separator : Char) (text : List Char) : List Char × List Char :=
  (text.takeWhile (· != separator), (text.dropWhile (· != separator)).drop 1)

def isSchemeChar (character : Char) : Bool := character.isAlphanum || ['+', '-', '.'].contains character

/-- The scheme in front of an address, in lower case, and what follows it. -/
def scheme? (text : List Char) : Option (String × List Char) :=
  let (start, rest) := splitAt ':' text
  match start with
  | first :: _ =>
    if text.contains ':' && first.isAlpha && start.all isSchemeChar then
      some (String.ofList (start.map Char.toLower), rest)
    else none
  | [] => none

/-- Drops what may not stand in an address: control characters and blanks before it, tabs and line ends. -/
def cleaned (text : List Char) : List Char :=
  (text.dropWhile fun character => character.toNat ≤ 0x20).filter fun character =>
    !(['\t', '\r', '\n'].contains character)

/-- The parameters behind the last part of a path. -/
def splitParameters (path : List Char) : List Char × List Char :=
  let last := (path.reverse.takeWhile (· != '/')).reverse
  if last.contains ';' then
    let (name, parameters) := splitAt ';' last
    (path.take (path.length - last.length) ++ name, parameters)
  else (path, [])

def schemesWithParameters : List String :=
  ["", "ftp", "hdl", "prospero", "http", "https", "shttp", "rtsp", "rtspu", "sip", "sips", "mms", "sftp", "tel"]

/-- Reads an address; one without a scheme has a given one. -/
def read (otherwise : String) (text : String) : Except Fault Address := do
  let text := cleaned text.toList
  let (scheme, rest) := (scheme? text).getD (otherwise, text)
  let ends (character : Char) : Bool := ['/', '?', '#'].contains character
  let (host, rest) := match rest with
    | '/' :: '/' :: rest => (rest.takeWhile (!ends ·), rest.dropWhile (!ends ·))
    | rest => ([], rest)
  if host.contains '[' != host.contains ']' then .error (.refused "Invalid IPv6 URL")
  let (rest, fragment) := splitAt '#' rest
  let (path, query) := splitAt '?' rest
  let (path, parameters) := if schemesWithParameters.contains scheme then splitParameters path else (path, [])
  return ⟨scheme, String.ofList host, String.ofList path, String.ofList parameters, String.ofList query,
    String.ofList fragment⟩

def write (address : Address) : String :=
  let path := address.path ++ if address.parameters.isEmpty then "" else ";" ++ address.parameters
  let path := if path.isEmpty || Text.startsWith path "/" then path else "/" ++ path
  address.scheme ++ "://" ++ address.host ++ path ++
    (if address.query.isEmpty then "" else "?" ++ address.query) ++
    (if address.fragment.isEmpty then "" else "#" ++ address.fragment)

/-- A path without steps to the same or the enclosing folder. -/
def resolvedParts (parts : List String) : List String :=
  let resolved := parts.foldl (fun resolved part =>
    if part == ".." then resolved.dropLast else if part == "." then resolved else resolved ++ [part]) []
  match parts.getLast? with
  | some "." | some ".." => resolved ++ [""]
  | _ => resolved

/-- The parts of a relative path below a base without empty ones in between. -/
def partsBelow (base path : String) : List String :=
  let parts := Text.split '/' base
  let parts := if parts.getLast? == some "" then parts else parts.dropLast
  match parts ++ Text.split '/' path with
  | first :: rest => first :: (rest.dropLast.filter (!·.isEmpty) ++ rest.getLast?.toList)
  | [] => []

/-- The address that a text stands for when it is found at a base. -/
def resolve (base text : String) : Except Fault String := do
  if text.isEmpty then return base
  let base ← read "" base
  let address ← read base.scheme text
  if address.scheme != base.scheme then return text
  if !address.host.isEmpty then return address.write
  let address := { address with host := base.host }
  if address.path.isEmpty && address.parameters.isEmpty then
    return { address with
      path := base.path
      parameters := base.parameters
      query := if address.query.isEmpty then base.query else address.query }.write
  let parts := if Text.startsWith address.path "/" then Text.split '/' address.path
    else partsBelow base.path address.path
  let path := Text.join "/" (resolvedParts parts)
  return { address with path := if path.isEmpty then "/" else path }.write

/-- What stands behind the last separator. -/
def lastPart (address : String) : String := (Text.split '/' address).getLastD ""

end Address

end Typeahead
