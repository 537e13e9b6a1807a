import CodeBridge.Uri.Basic
import CodeBridge.Uri.Host
import CodeBridge.Uri.Path

/-! # Normal form of URIs

Text from a client becomes a URI by the rules that web browsers share: the scheme and the host are
put in lower case, `.` and `..` segments are resolved, and characters that a part does not admit
are percent-encoded. `file`, `http`, `https`, `ws`, `wss` and `ftp` are hierarchical in every case,
take a backslash for a slash and look their hosts up; any other scheme is hierarchical only if a
slash follows it, and its path is kept as it is otherwise.
-/

namespace CodeBridge.Uri

/-! ## Cutting the text into parts -/

/-- The text without surrounding blanks and control characters, none of which can be meant. -/
def trim (cs : List Char) : List Char :=
  let isOuter := fun c : Char => c.toNat ≤ 0x20
  ((cs.dropWhile isOuter).reverse.dropWhile isOuter).reverse

/-- The part before the first occurrence of a character, and the part after it if it occurs. -/
def cut (mark : Char) (cs : List Char) : List Char × Option (List Char) :=
  (cs.takeWhile (· ≠ mark),
    match cs.dropWhile (· ≠ mark) with
    | [] => none
    | _ :: rest => some rest)

/-- The parts before and after the last occurrence of a character, if it occurs. -/
def cutLast? (mark : Char) (cs : List Char) : Option (List Char × List Char) :=
  match cs.reverse.dropWhile (· ≠ mark) with
  | [] => none
  | _ :: front => some (front.reverse, (cs.reverse.takeWhile (· ≠ mark)).reverse)

def isSchemeChar (c : Char) : Bool :=
  c.isAlphanum || ['+', '-', '.'].contains c

/-- The scheme before the first colon, in lower case. -/
def scheme? (cs : List Char) : Option (List Char) :=
  match cs.takeWhile isSchemeChar, cs.dropWhile isSchemeChar with
  | first :: name, ':' :: _ =>
    if first.isAlpha then some ((first :: name).map Char.toLower) else none
  | _, _ => none

/-- What the rules for hierarchical parts depend on. -/
structure Manner where
  /-- The scheme is hierarchical in every case. -/
  special : Bool
  defaultPort : Option Nat

/-- The schemes that are hierarchical in every case, with their default ports. -/
def specialSchemes : List (String × Option Nat) :=
  [("file", none), ("http", some 80), ("https", some 443), ("ws", some 80), ("wss", some 443),
    ("ftp", some 21)]

/-! ## Authorities -/

/-- User name and password, before the last `@`. -/
def renderUserInfo (cs : List Char) : List Char :=
  match cut ':' cs with
  | (name, password) =>
    let name := percentEncode encodedInUserInfo name
    let password := percentEncode encodedInUserInfo (password.getD [])
    if name.isEmpty && password.isEmpty then []
    else name ++ (if password.isEmpty then [] else ':' :: password) ++ ['@']

/-- The user information at the front of an authority, and what follows it. An `@` without anything
before it is skipped unless nothing but more parts follows; `closed` says that the text ends with
the path. -/
def userInfo (special closed : Bool) (cs : List Char) : Except UriError (List Char × List Char) :=
  let authority := cs.takeWhile fun c => !isSlash special c
  let path := cs.dropWhile fun c => !isSlash special c
  match cutLast? '@' authority with
  | none => .ok ([], cs)
  | some ([], []) => if closed && path.isEmpty then .ok ([], path) else .error .emptyHost
  | some (user, place) => .ok (renderUserInfo user, place ++ path)

/-- The host at the front, and what follows it: a colon outside of brackets or a slash ends it. -/
def spanHost (special inBrackets : Bool) : List Char → List Char × List Char
  | [] => ([], [])
  | c :: rest =>
    if (c == ':' && !inBrackets) || isSlash special c then ([], c :: rest)
    else
      let (host, rest) := spanHost special (c == '[' || (inBrackets && c != ']')) rest
      (c :: host, rest)

/-- The port behind a host, and what follows it. The default port is left out. -/
def port (default : Option Nat) : List Char → Except UriError (List Char × List Char)
  | ':' :: cs =>
    let digits := cs.takeWhile Char.isDigit
    let rest := cs.dropWhile Char.isDigit
    let port := digits.foldl (fun n c => n * 10 + (c.toNat - '0'.toNat)) 0
    if UInt16.size ≤ port ∨ !rest.head?.all (isSlash true) then .error .port
    else if digits.isEmpty ∨ default = some port then .ok ([], rest)
    else .ok (':' :: Nat.toDigits 10 port, rest)
  | rest => .ok ([], rest)

/-- An authority after its two slashes, and the path after it. Only a scheme that is not special
goes without a host, and then without user and port as well. -/
def authority (manner : Manner) (closed : Bool) (cs : List Char) :
    Except UriError (List Char × List Char) := do
  let (user, rest) ← userInfo manner.special closed cs
  let (name, rest) := spanHost manner.special false rest
  if name.isEmpty && manner.special then throw .emptyHost
  let host ← if manner.special then lookupHost name else plainHost name
  if host.isEmpty && rest.head? == some ':' then throw .emptyHost
  let (port, rest) ← port manner.defaultPort rest
  if host.isEmpty && !user.isEmpty then throw .emptyHost
  return (user ++ host ++ port, rest)

/-! ## Whole identifiers -/

/-- A path without its first slash. -/
def dropSlash (special : Bool) : List Char → List Char
  | c :: rest => if isSlash special c then rest else c :: rest
  | [] => []

/-- A `file` path behind a host. A drive at the root takes the place of the host. -/
def fileOn (host path : List Char) : List Char :=
  let trail := resolve true true path
  ['/', '/'] ++ (if trail.onDrive then [] else host) ++ trail.renderFile

/-- What follows `file:`, up to the query, with the breaks behind drives. Without a host the slash
before the path belongs to it as an empty segment. -/
def fileBody : List Char → Except UriError (List Char)
  | a :: b :: rest =>
    if isSlash true a && isSlash true b then
      let name := withoutBreaks (rest.takeWhile fun c => !isSlash true c)
      let path := rest.dropWhile fun c => !isSlash true c
      if isDrive name then .ok (fileOn [] rest)
      else if name.isEmpty then .ok (fileOn [] path)
      else do
        let host ← lookupHost name
        if host == "localhost".toList then return fileOn [] path
        else return fileOn host (dropSlash true path)
    else .ok (fileOn [] (dropSlash true (a :: b :: rest)))
  | path => .ok (fileOn [] (dropSlash true path))

/-- What follows the colon of another scheme that is hierarchical in every case. -/
def specialBody (defaultPort : Option Nat) (closed : Bool) (cs : List Char) :
    Except UriError (List Char) := do
  let (authority, path) ← authority ⟨true, defaultPort⟩ closed (cs.dropWhile (isSlash true))
  return ['/', '/'] ++ authority ++ (resolve false true (dropSlash true path)).render

/-- What follows the colon of any other scheme. -/
def plainBody (closed : Bool) : List Char → Except UriError (List Char)
  | '/' :: '/' :: rest => do
    let (authority, path) ← authority ⟨false, none⟩ closed rest
    return ['/', '/'] ++ authority ++
      if path.isEmpty then [] else (resolve false false (dropSlash false path)).render
  | '/' :: rest =>
    let trail := resolve false false rest
    match trail.segments.reverse with
    | [] :: _ :: _ => .ok (['/', '.'] ++ trail.render)
    | _ => .ok trail.render
  | path => .ok (percentEncode isControl path)

/-- A part behind its mark, if it is there. -/
def renderPart (mark : Char) (encoded : Char → Bool) : Option (List Char) → List Char
  | some part => mark :: percentEncode encoded (withoutBreaks part)
  | none => []

/-- The normal form of a run of characters. -/
def normalize (cs : List Char) : Except UriError (List Char) :=
  match scheme? (withoutBreaks (trim cs)) with
  | none => .error .relative
  | some scheme => do
    let (rest, fragment) := cut '#' (trim cs)
    let (text, query) := cut '?' rest
    let body := (text.dropWhile (· ≠ ':')).drop 1
    let special := specialSchemes.lookup (String.ofList scheme)
    let closed := query.isNone && fragment.isNone
    let body ←
      match special with
      | some (some port) => specialBody (some port) closed (withoutBreaks body)
      | some none => fileBody (keepDriveBreaks [] body)
      | none => plainBody closed (withoutBreaks body)
    let encodedInQuery := if special.isSome then encodedInSpecialQuery else encodedInQuery
    return scheme ++ ':' :: (body ++ renderPart '?' encodedInQuery query ++
      renderPart '#' encodedInFragment fragment)

/-- The URI that a text names. -/
def parse (text : String) : Except UriError Uri :=
  (normalize text.toList).map fun cs => ⟨String.ofList cs⟩

/-- The URI that a text names, if it names one. -/
def parse? (text : String) : Option Uri :=
  (parse text).toOption

end CodeBridge.Uri
