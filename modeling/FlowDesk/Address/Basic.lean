/-
# Web addresses

An address names a scheme, an authority with a host, a path, and maybe a query
and a fragment. Reading an address brings it to its written form: scheme and
host in lower case, no port that the scheme has anyway, no steps in place or
back in the path, and escapes for the characters that need them.
-/

import FlowDesk.Address.Host

namespace FlowDesk

/-- An address in its written form. -/
structure Address where
  scheme : String
  user : String
  host : String
  /-- The number of the port, unless it is the one of the scheme. -/
  portNumber : Option Int
  path : String
  query : Option String
  fragment : Option String

namespace Address

/-- Why an address is refused. -/
inductive Error where
  | tooLong
  | longPart (name : String)
  | control (c : Char) (position : Nat)
  | host (error : HostError)
  | portNumber (text : String)
  | twoSlashes
  | colon
  deriving DecidableEq

/-- The sentence that refuses an address. -/
def Error.message : Error → String
  | .tooLong => "URL too long"
  | .longPart name => s!"URL component \x27{name}\x27 too long"
  | .control c position =>
    s!"Invalid non-printable ASCII character in URL, {Text.quoted (String.singleton c)} " ++
      s!"at position {position}."
  | .host error => error.message
  | .portNumber text => s!"Invalid port: {Text.quoted text}"
  | .twoSlashes => "Relative URLs cannot have a path starting with \x27//\x27"
  | .colon => "Relative URLs cannot have a path starting with \x27:\x27"

/-- The parts of an address as they were given. -/
structure Parts where
  scheme : List Char
  authority : List Char
  path : List Char
  query : Option (List Char)
  fragment : Option (List Char)

/-- The parts of a text. -/
def Parts.ofText (cs : List Char) : Parts :=
  let isSchemeLetter (c : Char) : Bool := c.isAlphanum || c = '+' || c = '.' || c = '-'
  let first := if cs.head?.any Char.isAlpha then cs.takeWhile isSchemeLetter else []
  let (scheme, afterScheme) := match cs.drop first.length with
    | ':' :: rest => (first, rest)
    | _ => ([], cs)
  let inAuthority (c : Char) : Bool := c ≠ '/' && c ≠ '?' && c ≠ '#'
  let (authority, afterAuthority) := match afterScheme with
    | '/' :: '/' :: rest => (rest.takeWhile inAuthority, rest.dropWhile inAuthority)
    | rest => ([], rest)
  let inPath (c : Char) : Bool := c ≠ '?' && c ≠ '#'
  let afterPath := afterAuthority.dropWhile inPath
  let (query, afterQuery) := match afterPath with
    | '?' :: rest => (some (rest.takeWhile (· ≠ '#')), rest.dropWhile (· ≠ '#'))
    | rest => (none, rest)
  let fragment := match afterQuery with
    | '#' :: rest => some rest
    | _ => none
  ⟨scheme, authority, afterAuthority.takeWhile inPath, query, fragment⟩

/-- An authority: who asks, the host, and the port. -/
def authorityParts (authority : List Char) : List Char × List Char × List Char :=
  let reversed := authority.reverse
  let hasUser := authority.contains '@'
  let user := if hasUser then ((reversed.dropWhile (· ≠ '@')).drop 1).reverse else []
  let rest := if hasUser then (reversed.takeWhile (· ≠ '@')).reverse else authority
  let bracketed := if rest.head? = some '[' then (rest.reverse.dropWhile (· ≠ ']')).reverse else []
  let host := if bracketed.isEmpty then rest.takeWhile (· ≠ ':') else bracketed
  match rest.drop host.length with
  | ':' :: portText => (user, host, portText)
  | portText => (user, host, portText)

/-- The port that a scheme has unless another one is given. -/
def usualPort? (scheme : String) : Option Int :=
  if scheme = "ftp" then some 21
  else if scheme = "http" || scheme = "ws" then some 80
  else if scheme = "https" || scheme = "wss" then some 443
  else none

/-- The number of a port that is not the one of the scheme. -/
def portOf (scheme portText : List Char) : Except Error (Option Int) :=
  let text := String.ofList portText
  if portText.isEmpty then .ok none
  else match Numeral.integer? text with
    | none => .error (.portNumber text)
    | some n => .ok (if usualPort? (String.ofList scheme) = some n then none else some n)

/-- Whether a character is one of printed ASCII other than these. -/
def isPrintedBut (others : String) (c : Char) : Bool :=
  0x20 < c.toNat && c.toNat < 0x7F && !others.toList.contains c

/-- The characters of a fragment that are written as they are. -/
def isPlainInFragment : Char → Bool := isPrintedBut "\x22<>`"

/-- The characters of a query that are written as they are. -/
def isPlainInQuery : Char → Bool := isPrintedBut "\x22#<>"

/-- The characters of a path that are written as they are. -/
def isPlainInPath : Char → Bool := isPrintedBut "\x22#<>?`\x7b\x7d"

/-- The characters before the host that are written as they are. -/
def isPlainInUser : Char → Bool := isPrintedBut "\x22#<>?`\x7b\x7d/;=@[\\]^|"

/-- Take a step of a path, the steps so far being in reverse order. -/
def walk (steps : List (List Char)) (step : List Char) : List (List Char) :=
  if step = ['.'] then steps
  else if step = ['.', '.'] then (if steps = [] || steps = [[]] then steps else steps.drop 1)
  else step :: steps

/-- A path without steps in place or back. -/
def straight (path : List Char) : List Char :=
  let steps := Text.split (· = '/') path
  if steps.contains ['.'] || steps.contains ['.', '.'] then
    ['/'].intercalate (steps.foldl walk []).reverse
  else path

/-- The address with some parts. The path of one that has neither scheme nor
authority is kept as it is, but must not look like an authority or a scheme. -/
def ofParts (parts : Parts) : Except Error Address := do
  let (user, host, portText) := authorityParts parts.authority
  let host ← (Host.written host).mapError .host
  let port ← portOf parts.scheme portText
  let user := Text.Percent.escape isPlainInUser user
  let isRooted := !parts.scheme.isEmpty || !user.isEmpty || !host.isEmpty || port.isSome
  if !isRooted && ['/', '/'].isPrefixOf parts.path then .error .twoSlashes
  else if !isRooted && [':'].isPrefixOf parts.path then .error .colon
  else
    let path := if isRooted then straight parts.path else parts.path
    return {
      scheme := String.ofList (parts.scheme.map Char.toLower)
      user := String.ofList user
      host := String.ofList host
      portNumber := port
      path := String.ofList (Text.Percent.escape isPlainInPath path)
      query := parts.query.map fun cs => String.ofList (Text.Percent.escape isPlainInQuery cs)
      fragment := parts.fragment.map fun cs =>
        String.ofList (Text.Percent.escape isPlainInFragment cs) }

/-- The greatest length of an address. -/
def mostLetters : Nat := 65536

/-- Whether a character is a control character of ASCII. -/
def isControl (c : Char) : Bool := c.toNat < 0x20 || c.toNat = 0x7F

/-- Read an address. -/
def read (text : String) : Except Error Address :=
  let cs := text.toList
  if mostLetters < cs.length then .error .tooLong
  else match cs.find? isControl with
    | some c => .error (.control c (cs.takeWhile (· ≠ c)).length)
    | none => ofParts (.ofText cs)

/-- The host as it is written after the two slashes, with who asks and the
port. -/
def authority (address : Address) : String :=
  let user := if address.user = "" then "" else address.user ++ "@"
  let host := if address.host.toList.contains ':' then s!"[{address.host}]" else address.host
  let port := match address.portNumber with
    | some n => s!":{n}"
    | none => ""
  user ++ host ++ port

/-- The text of an address. -/
def text (address : Address) : String :=
  let authority := address.authority
  (if address.scheme = "" then "" else address.scheme ++ ":") ++
    (if authority = "" then "" else "//" ++ authority) ++ address.path ++
    (match address.query with | some query => "?" ++ query | none => "") ++
    (match address.fragment with | some fragment => "#" ++ fragment | none => "")

/-- Whether an address says by itself where it leads. -/
def isAbsolute (address : Address) : Bool :=
  address.scheme ≠ "" && address.host ≠ ""

/-- The parts of an address, to make another one of. -/
def parts (address : Address) : Parts :=
  ⟨address.scheme.toList, address.authority.toList, address.path.toList,
    address.query.map String.toList, address.fragment.map String.toList⟩

/-- The address with some parts, none of which may be too long. -/
def remade (parts : Parts) : Except Error Address :=
  let isLong (cs : List Char) : Bool := mostLetters < cs.length
  if isLong parts.authority then .error (.longPart "authority")
  else if isLong parts.path then .error (.longPart "path")
  else if parts.query.any isLong then .error (.longPart "query")
  else if parts.fragment.any isLong then .error (.longPart "fragment")
  else ofParts parts

/-- An address with another query. -/
def withQuery (address : Address) (query : String) : Except Error Address :=
  remade { address.parts with query := some query.toList }

/-- The place that an address leads to from a base: itself when it is absolute,
or else its path and query at the base. -/
def fromBase (address base : Address) : Except Error Address :=
  if address.isAbsolute then .ok address
  else
    let path := '/' :: address.path.toList.dropWhile (· = '/')
    remade ⟨base.scheme.toList, base.authority.toList, path,
      address.query.map String.toList, base.fragment.map String.toList⟩

/-- The address of nowhere. -/
def blank : Address := ⟨"", "", "", none, "", none, none⟩

end Address

end FlowDesk
