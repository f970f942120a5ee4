import Rulebound.Address.Host

/-!
# Addresses

Where a server is: a scheme, a user, a host with the number of its gate, a path, a query and a
fragment. An address is read into a normal form: the scheme and the host are in lower case, the
gate number that a scheme uses anyway is left out, steps back in the path are taken, and what may
not stand in a part is escaped.
-/

namespace Rulebound

structure Address where
  scheme : List Char
  user : List Char
  host : List Char
  gate : Option Int
  path : List Char
  query : Option (List Char)
  fragment : Option (List Char)
deriving DecidableEq, Repr, Inhabited

namespace Address

/-! ## Safe characters -/

def isPlainBut (others : List Char) (c : Char) : Bool :=
  0x20 < c.toNat && c.toNat < 0x7F && !others.contains c

def isFragmentSafe : Char → Bool :=
  isPlainBut ['"', '<', '>', '\x60']

def isQuerySafe : Char → Bool :=
  isPlainBut ['"', '#', '<', '>']

def isPathSafe : Char → Bool :=
  isPlainBut ['"', '#', '<', '>', '?', '\x60', '\x7b', '\x7d']

def isUserSafe : Char → Bool :=
  isPlainBut ['"', '#', '<', '>', '?', '\x60', '\x7b', '\x7d', '/', ';', '=', '@', '[', '\\', ']',
    '^', '|']

/-! ## Paths -/

/-- Pieces between slashes with the steps back taken. The empty piece before the first slash is
kept. -/
def takeSteps (taken : List (List Char)) : List (List Char) → List (List Char)
  | [] => taken
  | piece :: rest =>
      if piece = ['.'] then takeSteps taken rest
      else if piece = ['.', '.'] then
        takeSteps (if taken = [[]] then taken else taken.dropLast) rest
      else takeSteps (taken ++ [piece]) rest

def normalPath (path : List Char) : List Char :=
  let pieces := Text.splitChars '/' path
  if pieces.contains ['.'] || pieces.contains ['.', '.'] then
    Text.joinChars ['/'] (takeSteps [] pieces)
  else path

def pathFlaw? (hasScheme hasHost : Bool) (path : List Char) : Option Flaw :=
  if hasHost then
    if path.isEmpty || path.head? = some '/' then none else some .looseAfterHost
  else if hasScheme then none
  else if Text.startsWith ['/', '/'] path then some .doubleSlash
  else if Text.startsWith [':'] path then some .leadingColon
  else none

def isPlaced (address : Address) : Bool :=
  !address.scheme.isEmpty || !address.user.isEmpty || !address.host.isEmpty ||
    address.gate.isSome

def withPath (address : Address) (path : List Char) (query : Option (List Char)) : Address :=
  { address with
    path := Text.percentEncode isPathSafe (if address.isPlaced then normalPath path else path)
    query := query.map (Text.percentEncode isQuerySafe) }

/-! ## Reading -/

def usualGate? (scheme : List Char) : Option Int :=
  [("ftp", 21), ("http", 80), ("https", 443), ("ws", 80), ("wss", 443)].lookup
    (String.ofList scheme)

def readGate (scheme text : List Char) : Except Flaw (Option Int) :=
  if text.isEmpty then .ok none
  else
    match readInt? (String.ofList text) with
    | some gate => .ok (if usualGate? scheme = some gate then none else some gate)
    | none => .error (.gate (String.ofList text))

def isScheme : List Char → Bool
  | [] => true
  | c :: rest =>
      c.isAlpha && rest.all fun c => Host.isAlphanumeric c || ['+', '.', '-'].contains c

def takeScheme (text : List Char) : List Char × List Char :=
  match Text.cut ':' text with
  | (front, some rest) => if isScheme front then (front, rest) else ([], text)
  | _ => ([], text)

/-- Whether a character stands in the part that names the host, and does not begin the next. -/
def isOfHost (c : Char) : Bool :=
  c != '/' && c != '?' && c != '#'

def takeHost : List Char → List Char × List Char
  | '/' :: '/' :: rest => (rest.takeWhile isOfHost, rest.dropWhile isOfHost)
  | text => ([], text)

def takeUser (text : List Char) : List Char × List Char :=
  match Text.cut '@' text.reverse with
  | (host, some user) => (user.reverse, host.reverse)
  | _ => ([], text)

def takeName (text : List Char) : List Char × List Char :=
  match text.head?, Text.cut ']' text.reverse with
  | some '[', (rest, some front) => ((']' :: front).reverse, rest.reverse)
  | _, _ => (text.takeWhile (· != ':'), text.dropWhile (· != ':'))

def dropColon : List Char → List Char
  | ':' :: rest => rest
  | text => text

/-- The first control character of a text with its place. -/
def control? (text : List Char) : Option Flaw :=
  (text.zipIdx.find? fun (c, _) => c.toNat < 0x20 || c.toNat = 0x7F).map fun (c, place) =>
    .control c place

/-- No longer text is an address. -/
def longestText : Nat := 65536

def ofText (text : String) : Except Flaw Address := do
  if longestText < text.length then throw .tooLong
  if let some flaw := control? text.toList then throw flaw
  let (scheme, rest) := takeScheme text.toList
  let (place, rest) := takeHost rest
  let (rest, fragment) := Text.cut '#' rest
  let (path, query) := Text.cut '?' rest
  let (user, place) := takeUser place
  let (name, gate) := takeName place
  let scheme := scheme.map Char.toLower
  let host ← Host.encode name
  let address : Address := {
    scheme
    user := Text.percentEncode isUserSafe user
    host
    gate := ← readGate scheme (dropColon gate)
    path := []
    query := none
    fragment := fragment.map (Text.percentEncode isFragmentSafe) }
  let hasHost := !address.user.isEmpty || !host.isEmpty || address.gate.isSome
  if let some flaw := pathFlaw? (!scheme.isEmpty) hasHost path then throw flaw
  return address.withPath path query

/-! ## Writing -/

def marked (mark : Char) : Option (List Char) → List Char
  | some part => mark :: part
  | none => []

def place (address : Address) : List Char :=
  (if address.user.isEmpty then [] else address.user ++ ['@']) ++
    (if address.host.contains ':' then '[' :: address.host ++ [']'] else address.host) ++
    marked ':' (address.gate.map intChars)

def text (address : Address) : String :=
  String.ofList <|
    (if address.scheme.isEmpty then [] else address.scheme ++ [':']) ++
    (if address.place.isEmpty then [] else '/' :: '/' :: address.place) ++
    address.path ++ marked '?' address.query ++ marked '#' address.fragment

/-- What is asked for at the host: the path, which is a slash at least, and the query. -/
def target (address : Address) : List Char :=
  (if address.path.isEmpty then ['/'] else address.path) ++ marked '?' address.query

/-- The address of a path below another address. The path comes after everything that is asked for
there, with one slash between them at least; it ends the query, if there is one. -/
def within (address : Address) (path : String) : Address :=
  let target := address.target
  let folder := if target.getLast? = some '/' then target else target ++ ['/']
  let (path, query) := Text.cut '?' (folder ++ path.toList.dropWhile (· == '/'))
  address.withPath path query

def namesScheme (text : String) : Bool :=
  let isEnd (c : Char) : Bool := c == ':' || c == '/'
  let front := text.toList.takeWhile (!isEnd ·)
  !front.isEmpty && (text.toList.drop front.length).head? == some ':'

end Address

end Rulebound
