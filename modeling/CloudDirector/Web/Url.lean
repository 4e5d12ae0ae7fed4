import CloudDirector.Web.Host

/-!
# Addresses

An absolute address is taken apart into scheme, authority, path, query and fragment, each kept in
the form in which it is written out again: blanks and control characters around it and line breaks
inside it are dropped, the common schemes also take backslashes for slashes and leave out their
default port, the steps `.` and `..` of a path are followed, and characters that a part may not
hold are percent-encoded.
-/

namespace CloudDirector.Web

open Text (pieces splitFirst splitLast?)

/-- The path of an address. -/
inductive Path where
  /-- Steps, each after a slash. -/
  | steps (steps : List (List Char))
  /-- Something that is no list of steps. -/
  | whole (text : List Char)
  deriving DecidableEq

/-- Who is addressed. -/
structure Authority where
  user : List Char := []
  password : List Char := []
  host : String
  port : Option Nat := none
  deriving DecidableEq

/-- An address. -/
structure Url where
  scheme : String
  authority : Option Authority
  path : Path
  query : Option (List Char)
  fragment : Option (List Char)
  deriving DecidableEq

/-! ## Reading -/

/-- The default port of a scheme. -/
def defaultPort? : String → Option Nat
  | "http" | "ws" => some 80
  | "https" | "wss" => some 443
  | "ftp" => some 21
  | _ => none

/-- Whether a scheme is one of those whose addresses are read more leniently. -/
def isSpecial (scheme : String) : Bool := scheme == "file" || (defaultPort? scheme).isSome

/-- The scheme in front of a colon, in lower case, and what follows. -/
def readScheme (cs : List Char) : Option (String × List Char) :=
  let isSchemeChar (c : Char) : Bool := c.isAlphanum || c == '+' || c == '-' || c == '.'
  match cs with
  | c :: _ =>
    if c.isAlpha then
      match cs.dropWhile isSchemeChar with
      | ':' :: rest => some (.ofList ((cs.takeWhile isSchemeChar).map Char.toLower), rest)
      | _ => none
    else none
  | [] => none

/-- Whether a character ends a step of a path. -/
def isSlash (special : Bool) (c : Char) : Bool := c == '/' || (special && c == '\\')

/-- Whether a character ends an authority. -/
def endsAuthority (special : Bool) (c : Char) : Bool := isSlash special c || c == '?' || c == '#'

/-- A step of a path that stands for the place itself. -/
def isHere (step : List Char) : Bool :=
  (step.map Char.toLower == ['.']) || (step.map Char.toLower == "%2e".toList)

/-- A step of a path that goes back one step. -/
def isBack (step : List Char) : Bool :=
  ["..", ".%2e", "%2e.", "%2e%2e"].any fun s => step.map Char.toLower == s.toList

/-- Follows steps.  `taken` holds the steps taken, last first. -/
def followSteps (taken : List (List Char)) : List (List Char) → List (List Char)
  | [] => taken.reverse
  | [step] =>
    if isBack step then ([] :: taken.drop 1).reverse
    else if isHere step then ([] :: taken).reverse
    else (step :: taken).reverse
  | step :: rest =>
    if isBack step then followSteps (taken.drop 1) rest
    else if isHere step then followSteps taken rest
    else followSteps (step :: taken) rest

/-- Pieces between slashes. -/
def stepsOf (special : Bool) (cs : List Char) : List (List Char) :=
  pieces (· == '/') (cs.map fun c => if isSlash special c then '/' else c)

/-- The steps of the text after the first slash of a path. -/
def readSteps (special : Bool) (cs : List Char) : Path :=
  .steps (followSteps [] ((stepsOf special cs).map (percentEncode inPathSet)))

/-- A path without the empty steps in front, the last step being kept. -/
def dropEmptySteps : Path → Path
  | .steps list =>
    match list.dropWhile List.isEmpty with
    | [] => .steps [[]]
    | list => .steps list
  | path => path

/-- The path of an address with an authority. -/
def readPath (special : Bool) : List Char → Path
  | [] => if special then .steps [[]] else .steps []
  | c :: rest => if isSlash special c then readSteps special rest else readSteps special (c :: rest)

/-- The end of a host: the first colon outside brackets. -/
def splitHost (inBrackets : Bool) : List Char → List Char × List Char
  | [] => ([], [])
  | c :: rest =>
    if c = ':' ∧ !inBrackets then ([], c :: rest)
    else
      let inBrackets := if c = '[' then true else if c = ']' then false else inBrackets
      let (host, port) := splitHost inBrackets rest
      (c :: host, port)

/-- The port after a host. -/
def readPort (scheme : String) (cs : List Char) : Except AddressFault (Option Nat) :=
  match ofDigits? 10 cs with
  | none => .error .badPort
  | some n =>
    if 65535 < n then .error .badPort
    else if cs.isEmpty ∨ defaultPort? scheme = some n then .ok none
    else .ok (some n)

/-- The authority of an address. -/
def readAuthority (scheme : String) (cs : List Char) : Except AddressFault Authority := do
  let special := isSpecial scheme
  let (user, password, place) ← match splitLast? '@' cs with
    | none => pure ([], [], cs)
    | some (info, place) =>
      if place.isEmpty then throw .emptyHost
      let user := info.takeWhile (· != ':')
      let password := (info.dropWhile (· != ':')).drop 1
      pure (percentEncode inUserSet user, percentEncode inUserSet password, place)
  let (host, port) := splitHost false place
  let host ← if special then parseHost host else parseOpaqueHost host
  match port with
  | [] => return { user, password, host }
  | _ :: port =>
    if host.isEmpty then throw .emptyHost
    return { user, password, host, port := ← readPort scheme port }

/-- The address of a scheme and what follows its colon. -/
def readAfterScheme (scheme : String) (cs : List Char) : Except AddressFault Url := do
  let special := isSpecial scheme
  let (front, fragment) := splitFirst '#' cs
  let (front, query) := splitFirst '?' front
  let fragment := fragment.map (percentEncode inFragmentSet)
  let query := query.map (percentEncode fun c => inQuerySet c || (special && c == '\''))
  let slashes := front.takeWhile (isSlash special)
  let (authority, path) ←
    if scheme = "file" then
      if slashes.length < 2 then pure (some { host := "" }, dropEmptySteps (readPath true front))
      else
        let rest := front.drop 2
        let host := rest.takeWhile fun c => !isSlash true c
        let host ← if host.isEmpty then pure "" else parseHost host
        pure (some { host := if host = "localhost" then "" else host },
          dropEmptySteps (readPath true (rest.dropWhile fun c => !isSlash true c)))
    else if special ∨ 2 ≤ slashes.length then
      let rest := if special then front.dropWhile (isSlash special) else front.drop 2
      let authority ← readAuthority scheme (rest.takeWhile fun c => !endsAuthority special c)
      pure (some authority, readPath special (rest.dropWhile fun c => !endsAuthority special c))
    else match front with
      | '/' :: rest => pure (none, readSteps false rest)
      | _ => pure (none, .whole (percentEncode isControl front))
  return { scheme, authority, path, query, fragment }

/-- The address that a text spells. -/
def Url.parse (text : String) : Except AddressFault Url :=
  let isOuter (c : Char) : Bool := c.toNat ≤ 0x20
  let cs := ((text.toList.dropWhile isOuter).reverse.dropWhile isOuter).reverse
  let cs := cs.filter fun c => !(c == '\t' || c == '\n' || c == '\r')
  match readScheme cs with
  | some (scheme, rest) => readAfterScheme scheme rest
  | none => .error .relative

/-! ## Writing -/

namespace Path

/-- A path as it is written. -/
def render : Path → List Char
  | steps list => list.flatMap ('/' :: ·)
  | whole text => text

/-- The steps of a path. -/
def steps? : Path → Option (List (List Char))
  | steps list => some list
  | whole _ => none

end Path

/-- An authority as it is written. -/
def Authority.render (a : Authority) : List Char :=
  let password := if a.password.isEmpty then [] else ':' :: a.password
  let user := if a.user.isEmpty && a.password.isEmpty then [] else a.user ++ password ++ ['@']
  let port := match a.port with
    | some n => ':' :: Nat.toDigits 10 n
    | none => []
  user ++ a.host.toList ++ port

namespace Url

/-- An address as it is written.  Two slashes that start a path are not to be read as those of an
authority, so that a point is put before them. -/
def render (u : Url) : String :=
  let authority := match u.authority, u.path with
    | some a, _ => '/' :: '/' :: a.render
    | none, .steps ([] :: _ :: _) => ['/', '.']
    | none, _ => []
  let query := match u.query with
    | some q => '?' :: q
    | none => []
  let fragment := match u.fragment with
    | some f => '#' :: f
    | none => []
  .ofList (u.scheme.toList ++ ':' :: authority ++ u.path.render ++ query ++ fragment)

/-- The address with one more pair in its query. -/
def appendPair (u : Url) (key value : String) : Url :=
  let pair := formEncode key.toList ++ '=' :: formEncode value.toList
  let query := match u.query with
    | some (c :: q) => (c :: q) ++ '&' :: pair
    | _ => pair
  { u with query := some query }

/-- The address with more pairs in its query. -/
def appendPairs (u : Url) (pairs : List (String × String)) : Url :=
  pairs.foldl (fun u (key, value) => u.appendPair key value) u

end Url

end CloudDirector.Web
