import SchemaDrift.Address.Host
import SchemaDrift.Text.Blank

/-!
# Addresses

An address says where a request is sent: by a scheme, a host with a port, a path and
a query.  It is taken apart and checked as by httpx, of which release 0.27 or later is
required.

* `Address` — the parts of an address.
* `Address.ofText?` — the address that a text is.
* `Address.isAbsolute` — does an address say enough to send a request?
* `Address.obstacle?` — why no request to an address can be sent.
* `Address.reference` — the path and query of an address, as they are sent.
-/

namespace SchemaDrift

/-- The parts of an address, as they are written. -/
structure Address where
  scheme : List Char
  /-- What stands before the host and its at sign. -/
  user : List Char
  host : List Char
  port : List Char
  path : List Char
  query : Option (List Char)
  deriving DecidableEq, Repr, Inhabited

namespace Address

open Text

/-! ## Parts -/

/-- A character of a scheme. -/
def isSchemeChar (c : Char) : Bool :=
  isLetter c || isDigit c || c == '+' || c == '.' || c == '-'

/-- The scheme at the start of a text, perhaps an empty one, and the rest. -/
def splitScheme (text : List Char) : List Char × List Char :=
  let scheme := text.takeWhile isSchemeChar
  match text.drop scheme.length with
  | ':' :: rest => if scheme.head?.all isLetter then (scheme, rest) else ([], text)
  | _ => ([], text)

/-- The user before the last at sign, and the rest. -/
def splitUser (text : List Char) : List Char × List Char :=
  let rest := (text.reverse.takeWhile (· != '@')).reverse
  (text.take (text.length - rest.length - 1), rest)

/-- The host, which may stand in brackets, and the port after a colon. -/
def splitPort (text : List Char) : List Char × List Char :=
  let bracketed := (text.reverse.dropWhile (· != ']')).reverse
  let host :=
    if text.head? == some '[' && !bracketed.isEmpty then bracketed
    else text.takeWhile (· != ':')
  match text.drop host.length with
  | ':' :: port => (host, port)
  | port => (host, port)

/-- The user, host and port after two slashes, and the rest of a text. -/
def splitAuthority (text : List Char) : (List Char × List Char × List Char) × List Char :=
  match text with
  | '/' :: '/' :: rest =>
      let authority := rest.takeWhile fun c => c != '/' && c != '?' && c != '#'
      let (user, place) := splitUser authority
      ((user, splitPort place), rest.drop authority.length)
  | _ => (([], [], []), text)

/-- The parts of a text. -/
def ofParts (text : List Char) : Address :=
  let (scheme, rest) := splitScheme text
  let ((user, host, port), rest) := splitAuthority rest
  let path := rest.takeWhile fun c => c != '?' && c != '#'
  let query :=
    match rest.drop path.length with
    | '?' :: rest => some (rest.takeWhile (· != '#'))
    | _ => none
  { scheme, user, host, port, path, query }

/-! ## Soundness -/

/-- The most characters of an address. -/
def lengthLimit : Nat := 65536

/-- The most digits of a port. -/
def portLimit : Nat := 4300

/-- Do underscores stand between digits only, one at a time? -/
def areDigitGroups (text : List Char) : Bool :=
  (piecesBetween (· == '_') text).all fun group =>
    !group.isEmpty && group.all isDecimalDigit

/-- Is a port sound?  It may be missing, have a sign, and have space around it. -/
def isPort (text : List Char) : Bool :=
  let number := trimBlanks text
  let digits :=
    match number with
    | '+' :: rest => rest
    | '-' :: rest => rest
    | _ => number
  text.isEmpty || (areDigitGroups digits && (digits.filter (· != '_')).length ≤ portLimit)

/-- Does an address name neither a scheme nor a place? -/
def isBare (address : Address) : Bool :=
  address.scheme.isEmpty && address.user.isEmpty && address.host.isEmpty
    && address.port.isEmpty

/-- Are the parts of an address sound?  Without scheme and place a path starts neither
with two slashes nor with a colon. -/
def isSound (address : Address) : Bool :=
  let isMisleading := ['/', '/'].isPrefixOf address.path || address.path.head? == some ':'
  isHost address.host && isPort address.port && !(address.isBare && isMisleading)

/-- A character that stands in no address. -/
def isControl (c : Char) : Bool := c.toNat < 0x20 || c.toNat == 0x7f

/-- The address that a text is. -/
def ofText? (text : String) : Option Address :=
  let address := ofParts text.toList
  if text.length ≤ lengthLimit && !text.toList.any isControl && address.isSound then some address
  else none

/-! ## What is sent -/

/-- Does an address say enough to send a request: a scheme and a host? -/
def isAbsolute (address : Address) : Bool := !address.scheme.isEmpty && !address.host.isEmpty

/-- The schemes by which requests can be sent. -/
def schemes : List String := ["http", "https", "ws", "wss"]

/-- Why no request to an address can be sent, whatever the network is like: its scheme is
missing, or it is none by which requests can be sent. -/
def obstacle? (address : Address) : Option String :=
  let scheme := String.ofList (address.scheme.map Char.toLower)
  if scheme = "" then some "Request URL is missing an 'http://' or 'https://' protocol."
  else if schemes.contains scheme then none
  else some ("Request URL has an unsupported protocol '" ++ scheme ++ "://'.")

/-- The steps of a path that are reached by one more step.  Two dots lead back. -/
def reach (reached : List (List Char)) (step : List Char) : List (List Char) :=
  if step = ['.'] then reached
  else if step = ['.', '.'] then
    if reached.isEmpty || reached == [[]] then reached else reached.dropLast
  else reached ++ [step]

/-- A path without steps that lead nowhere or back. -/
def straightened (path : List Char) : List Char :=
  List.intercalate ['/'] ((piecesBetween (· == '/') path).foldl reach [])

/-- A character by the bytes that stand for it. -/
def escaped (c : Char) : List Char :=
  (String.singleton c).toUTF8.toList.flatMap fun byte => '%' :: upperHex 2 byte.toNat

/-- A text with the given characters escaped, and those beyond ASCII. -/
def escapedText (special : List Char) (text : List Char) : List Char :=
  text.flatMap fun c => if 0x80 ≤ c.toNat || special.contains c then escaped c else [c]

/-- The characters that are escaped in paths. -/
def pathSpecials : List Char := [' ', '"', '#', '<', '>', '?', '`', '\x7b', '\x7d']

/-- The characters that are escaped in queries. -/
def querySpecials : List Char := [' ', '"', '#', '<', '>']

/-- The path and query of an address as they are sent; the path has one slash in
front. -/
def reference (address : Address) : String :=
  let path := if address.isBare then address.path else straightened address.path
  let query := address.query.map (escapedText querySpecials)
  String.ofList ('/' :: (escapedText pathSpecials path).dropWhile (· == '/')
    ++ (query.map ('?' :: ·)).getD [])

end Address

end SchemaDrift
