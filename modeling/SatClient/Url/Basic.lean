import SatClient.Url.Host
import SatClient.Url.Path

/-! URLs. The parts of a URL are kept for the schemes that reach a server over the network;
of all others only the scheme is of interest, once the rest was found to be in order.

A text is read without the control characters and blanks around it, and without any tab or
line break inside.
-/

namespace SatClient

namespace Url

inductive Network where
  | http
  | https
  | ws
  | wss
  | ftp
  deriving DecidableEq, Repr

namespace Network

def text : Network → String
  | http => "http"
  | https => "https"
  | ws => "ws"
  | wss => "wss"
  | ftp => "ftp"

def ofText? (word : String) : Option Network :=
  [http, https, ws, wss, ftp].find? (·.text == word)

def port : Network → Nat
  | http | ws => 80
  | https | wss => 443
  | ftp => 21

end Network

/-- A name and a password, as they are written. -/
structure Credentials where
  username : List Char
  password : List Char
  deriving DecidableEq, Repr

/-- What follows the scheme of a URL that names a server. A port is kept only where it is
not the one the scheme implies.
-/
structure Place where
  credentials : Credentials
  host : Host
  port : Option Nat
  path : Path
  query : Option (List Char)
  fragment : Option (List Char)
  deriving DecidableEq, Repr

/-- Whether a character ends the part of a URL that names a server. -/
def endsAuthority (backslash : Bool) (c : Char) : Bool :=
  c == '/' || c == '?' || c == '#' || (backslash && c == '\\')

/-- The credentials that a text stands for: a colon divides the name from the password. -/
def Credentials.parse (text : List Char) : Credentials :=
  let (name, rest) := text.span (· ≠ ':')
  ⟨Part.userinfo.escaped name, Part.userinfo.escaped (rest.drop 1)⟩

/-- The text up to the last character of a kind, and the text after it. -/
def splitLast? (c : Char) (text : List Char) : Option (List Char × List Char) :=
  if text.contains c then
    let after := (text.reverse.takeWhile (· ≠ c)).reverse
    some (text.take (text.length - after.length - 1), after)
  else none

/-- Credentials, whether there was any text for them, and the text after them. An empty
name before the last at sign needs a host behind it at once.
-/
def readCredentials (backslash : Bool) (text : List Char) :
    Except Fault (Credentials × List Char) :=
  let (authority, rest) := text.span (!endsAuthority backslash ·)
  match splitLast? '@' authority with
  | none => .ok (⟨[], []⟩, text)
  | some (before, after) =>
      if before.isEmpty && after.isEmpty && !rest.isEmpty then .error .emptyHost
      else .ok (.parse before, after ++ rest)

/-- The characters of a host and those after it. A colon ends a host, but not between square
brackets.
-/
def spanHost (backslash inBrackets : Bool) : List Char → List Char × List Char
  | [] => ([], [])
  | c :: rest =>
      if endsAuthority backslash c || (c == ':' && !inBrackets) then ([], c :: rest)
      else
        let inBrackets := if c == '[' then true else if c == ']' then false else inBrackets
        let (host, after) := spanHost backslash inBrackets rest
        (c :: host, after)

def maxPort : Nat := 65535

def readPort (text : List Char) : Except Fault (Option Nat × List Char) :=
  let (digits, rest) := text.span Char.isDigit
  let n := digits.foldl (fun n c => 10 * n + (c.toNat - 48)) 0
  if maxPort < n then .error .invalidPort
  else if rest.head?.any (!endsAuthority true ·) then .error .invalidPort
  else .ok (if digits.isEmpty then none else some n, rest)

/-- The port behind a host, if there is a colon, and the text after it. -/
def readPortPart : List Char → Except Fault (Option Nat × List Char)
  | ':' :: rest => readPort rest
  | rest => .ok (none, rest)

/-- A text up to the first character of a kind, and what follows that character, if there
is one.
-/
def cut (c : Char) (text : List Char) : List Char × Option (List Char) :=
  match text.span (· ≠ c) with
  | (before, []) => (before, none)
  | (before, _ :: after) => (before, some after)

/-- What follows the scheme and its slashes in a URL that names a server. -/
def readPlace (scheme : Network) (text : List Char) : Except Fault Place := do
  let (credentials, text) ← readCredentials true text
  let (host, text) := spanHost true false text
  if host.isEmpty then throw .emptyHost
  let host ← Host.parse host
  let (port, text) ← readPortPart text
  let (text, fragment) := cut '#' text
  let (path, query) := cut '?' text
  return {
    credentials, host
    port := if port = some scheme.port then none else port
    path := Path.parse path
    query := query.map Part.query.escaped
    fragment := fragment.map Part.fragment.escaped
  }

/-- Check what follows two slashes after a scheme that says nothing about servers. -/
def checkAuthority (text : List Char) : Except Fault Unit := do
  let (credentials, text) ← readCredentials false text
  let (host, text) := spanHost false false text
  Host.checkOpaque host
  if host.isEmpty && text.head? == some ':' then throw .emptyHost
  let _ ← readPortPart text
  if host.isEmpty && credentials ≠ ⟨[], []⟩ then throw .emptyHost

/-- Check what follows the scheme for files. Only a host between two slashes and the next
one can be wrong.
-/
def checkFile : List Char → Except Fault Unit
  | a :: b :: rest =>
      if (a == '/' || a == '\\') && (b == '/' || b == '\\') then
        let host := rest.takeWhile (!endsAuthority true ·)
        if host.isEmpty || Path.isDrive host then .ok ()
        else (fun _ => ()) <$> Host.parse host
      else .ok ()
  | _ => .ok ()

/-- A word of letters, digits, plus signs, hyphens and points before a colon, in lowercase,
and the text after the colon. The first character has to be a letter.
-/
def readScheme? (text : List Char) : Option (String × List Char) :=
  let (word, rest) := text.span fun c =>
    c.isAlphanum || c == '+' || c == '-' || c == '.'
  match word, rest with
  | first :: _, ':' :: rest =>
      if first.isAlpha then some (String.ofList (word.map Char.toLower), rest) else none
  | _, _ => none

/-- A text without control characters and blanks around it, and without tabs and line
breaks.
-/
def cleaned (text : List Char) : List Char :=
  (Text.dropEndWhile (·.toNat ≤ 0x20) (text.dropWhile (·.toNat ≤ 0x20))).filter
    fun c => !(c == '\t' || c == '\n' || c == '\r')

end Url

/-- A URL: the scheme and the place of a server, or the scheme alone. -/
inductive Url where
  | server (scheme : Url.Network) (place : Url.Place)
  | other (scheme : String)
  deriving DecidableEq, Repr

namespace Url

def parse (text : String) : Except Fault Url :=
  match readScheme? (cleaned text.toList) with
  | none => .error .relativeWithoutBase
  | some (scheme, rest) =>
      match Network.ofText? scheme with
      | some network =>
          server network <$> readPlace network (rest.dropWhile fun c => c == '/' || c == '\\')
      | none =>
          if scheme = "file" then do
            checkFile rest
            return other scheme
          else
            match rest with
            | '/' :: '/' :: rest => do
                checkAuthority rest
                return other scheme
            | _ => .ok (other scheme)

def schemeText : Url → String
  | server scheme _ => scheme.text
  | other scheme => scheme

def Credentials.text (credentials : Credentials) : List Char :=
  if credentials.username.isEmpty && credentials.password.isEmpty then []
  else
    credentials.username
      ++ (if credentials.password.isEmpty then [] else ':' :: credentials.password) ++ ['@']

def Place.target (place : Place) : String :=
  String.ofList (place.path.text ++ (place.query.elim [] ('?' :: ·)))

def Place.text (place : Place) : List Char :=
  place.credentials.text ++ place.host.text
    ++ (place.port.elim [] fun port => ':' :: (toString port).toList)
    ++ place.path.text ++ (place.query.elim [] ('?' :: ·)) ++ (place.fragment.elim [] ('#' :: ·))

def serverText (scheme : Network) (place : Place) : String :=
  scheme.text ++ "://" ++ String.ofList place.text

end Url

end SatClient
