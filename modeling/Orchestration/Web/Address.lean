import Orchestration.Number.Numeral
import Orchestration.Text.Blank
import Orchestration.Text.Digit
import Orchestration.Text.Half
import Orchestration.Web.Host

namespace Orchestration.Web

-- As it is read: scheme and host are in lower case, the usual port of the scheme is left out, steps to the same and
-- to the upper level are taken, and what its parts cannot hold is escaped.
structure Address where
  scheme : List Char
  userinfo : List Char
  host : List Char
  port : Option Int
  path : List Char
  query : Option (List Char)
  fragment : Option (List Char)
  deriving DecidableEq, Repr

inductive AddressFault where
  | malformed
  | broken
  deriving DecidableEq, Repr

namespace Address

-- The most code points of an address.
def longest : Nat := 65536

def isControl (c : Char) : Bool := c.toNat < 0x20 || c.toNat == 0x7F

def isGraphic (c : Char) : Bool := 0x20 < c.toNat && c.toNat < 0x7F

def isQuerySafe (c : Char) : Bool := isGraphic c && !(['\x22', '#', '<', '>'].contains c)

def isFragmentSafe (c : Char) : Bool := isGraphic c && !(['\x22', '<', '>', '\x60'].contains c)

def isPathSafe (c : Char) : Bool := isQuerySafe c && !(['?', '\x60', '\x7b', '\x7d'].contains c)

def isUserSafe (c : Char) : Bool :=
  isPathSafe c && !(['/', ';', '=', '@', '[', '\x5c', ']', '^', '|'].contains c)

def written (safe : Char → Bool) (cs : List Char) : Except AddressFault (List Char) :=
  if Text.broken cs then .error .broken else .ok (quote safe (Text.chars cs))

def writtenPart (safe : Char → Bool) : Option (List Char) → Except AddressFault (Option (List Char))
  | none => .ok none
  | some cs => (written safe cs).map some

-- The levels of a path behind those that are done, without steps to the same or the upper level.
def resolve (done : List (List Char)) : List (List Char) → List (List Char)
  | [] => done
  | step :: rest =>
      if step == ['.'] then resolve done rest
      else if step == ['.', '.'] then
        resolve (if done.isEmpty || done == [[]] then done else done.dropLast) rest
      else resolve (done ++ [step]) rest

def resolved (path : List Char) : List Char :=
  let steps := Text.pieces (· == '/') path
  if steps.contains ['.'] || steps.contains ['.', '.'] then
    List.intercalate ['/'] (resolve [] steps)
  else path

-- The number that a text is in digits of any script, with a sign perhaps, and single low lines
-- between digits perhaps.
def number? (cs : List Char) : Option Int :=
  let text := Text.trimBy Text.isBlank cs
  let (negative, digits) := match text with
    | '-' :: rest => (true, rest)
    | '+' :: rest => (false, rest)
    | _ => (false, text)
  let groups := Text.pieces (· == '_') digits
  if groups.contains [] then none
  else do
    let values ← groups.flatten.mapM Text.digit?
    if Numeral.longestInteger < values.length then none
    else
      let n : Int := (values.foldl (fun n d => 10 * n + d) 0 : Nat)
      some (if negative then -n else n)

def usualPort? (scheme : List Char) : Option Int :=
  match String.ofList scheme with
  | "ftp" => some 21
  | "http" => some 80
  | "https" => some 443
  | "ws" => some 80
  | "wss" => some 443
  | _ => none

-- The port, if one has to be named.
def readPort (scheme port : List Char) : Except AddressFault (Option Int) :=
  if port.isEmpty then .ok none
  else match number? port with
    | some n => .ok (if usualPort? scheme = some n then none else some n)
    | none => .error .malformed

def isSchemeChar (c : Char) : Bool := c.isAlphanum || c == '+' || c == '.' || c == '-'

-- The scheme, which may be empty, and what stands behind its colon.
def cutScheme (cs : List Char) : List Char × List Char :=
  let scheme := if cs.head?.any Char.isAlpha then cs.takeWhile isSchemeChar else []
  match cs.drop scheme.length with
  | ':' :: rest => (scheme, rest)
  | _ => ([], cs)

-- What stands behind two slashes up to the path.
def cutAuthority : List Char → List Char × List Char
  | '/' :: '/' :: rest =>
      let authority := rest.takeWhile fun c => c != '/' && c != '?' && c != '#'
      (authority, rest.drop authority.length)
  | cs => ([], cs)

-- What stands behind a mark, if the mark is there.
def behind (mark : Char) : List Char → Option (List Char)
  | c :: rest => if c == mark then some rest else none
  | [] => none

-- The user is all before the last at sign.
def cutUser (authority : List Char) : List Char × List Char :=
  if authority.contains '@' then
    let server := (authority.reverse.takeWhile (· != '@')).reverse
    ((authority.take (authority.length - server.length)).dropLast, server)
  else ([], authority)

-- The host, with its brackets if it has them, and the port.
def cutHost (server : List Char) : List Char × List Char :=
  let host :=
    if server.head? == some '[' && server.contains ']' then
      server.take (server.length - (server.reverse.takeWhile (· != ']')).length)
    else server.takeWhile (· != ':')
  let rest := server.drop host.length
  (host, (behind ':' rest).getD rest)

-- The address of parts that are not yet escaped. A path behind a server is empty or begins with
-- a slash. Without a scheme and a server it begins neither with two slashes nor with a colon.
def ofParts (scheme authority path : List Char) (query fragment : Option (List Char)) :
    Except AddressFault Address := do
  let (user, server) := cutUser authority
  let (host, port) := cutHost server
  let user ← written isUserSafe user
  let host ← match host? host with
    | some host => .ok host
    | none => .error .malformed
  let port ← readPort scheme port
  let served := !(user.isEmpty && host.isEmpty && port.isNone)
  if served && !path.isEmpty && path.head? != some '/' then .error .malformed
  else if scheme.isEmpty && !served && (['/', '/'].isPrefixOf path || path.head? == some ':') then
    .error .malformed
  else
    let path ← written isPathSafe (if scheme.isEmpty && !served then path else resolved path)
    return ⟨scheme.map Char.toLower, user, host, port, path,
      ← writtenPart isQuerySafe query, ← writtenPart isFragmentSafe fragment⟩

def parse (cs : List Char) : Except AddressFault Address :=
  if longest < (Text.points cs).length || cs.any isControl then .error .malformed
  else
    let (scheme, rest) := cutScheme cs
    let (authority, rest) := cutAuthority rest
    let path := rest.takeWhile fun c => c != '?' && c != '#'
    let tail := rest.drop path.length
    let query := (behind '?' tail).map (·.takeWhile (· != '#'))
    let fragment := behind '#' (tail.dropWhile (· != '#'))
    ofParts scheme authority path query fragment

def server (a : Address) : List Char :=
  (if a.host.contains ':' then '[' :: (a.host ++ [']']) else a.host) ++
    (match a.port with
      | some n => ':' :: (toString n).toList
      | none => [])

def authority (a : Address) : List Char :=
  (if a.userinfo.isEmpty then [] else a.userinfo ++ ['@']) ++ a.server

-- A part behind its mark, if there is one.
def marked (mark : Char) : Option (List Char) → List Char
  | some cs => mark :: cs
  | none => []

def text (a : Address) : List Char :=
  (if a.scheme.isEmpty then [] else a.scheme ++ [':']) ++
    (if a.authority.isEmpty then [] else '/' :: '/' :: a.authority) ++
    a.path ++ marked '?' a.query ++ marked '#' a.fragment

-- The address that is nowhere.
def nowhere : Address := ⟨[], [], [], none, ['/'], none, none⟩

def isAbsolute (a : Address) : Bool := !a.scheme.isEmpty && !a.host.isEmpty

def seenFrom (a place : Address) : Address :=
  if a.isAbsolute then a
  else
    let path := '/' :: a.path.dropWhile (· == '/')
    { place with
      path := if place.scheme.isEmpty && place.authority.isEmpty then path else resolved path
      query := a.query
      fragment := none }

def destination (place : Address) (cs : List Char) : Except AddressFault Address := do
  let a := (← parse cs).seenFrom place
  if a.host.all isAscii then return a else .error .broken

theorem seenFrom_of_isAbsolute {a : Address} (place : Address) (h : a.isAbsolute = true) :
    a.seenFrom place = a := by
  simp [seenFrom, h]

end Address
end Orchestration.Web
