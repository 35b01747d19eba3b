import MarkdownPages.Text.Basic

/-!
# The parts of a URL

A URL is split just far enough to find its host, whose name has an encoding of its own.  What
follows the host is one part, since path, query and fragment are encoded alike.
-/

namespace MarkdownPages.Url

open Text

/-- The parts of a URL in order; a part that is missing is empty. -/
structure Parts where
  scheme : Text
  slashes : Bool
  auth : Text
  host : Text
  /-- The digits behind the host, after a colon. -/
  portNumber : Text
  /-- Path, query and fragment. -/
  tail : Text
deriving DecidableEq, Repr

namespace Parts

def toText (p : Parts) : Text :=
  p.scheme ++ (if p.slashes then "//".toList else []) ++
    (if p.auth.isEmpty then [] else p.auth ++ ['@']) ++
    (if p.host.contains ':' then '[' :: p.host ++ [']'] else p.host) ++
    (if p.portNumber.isEmpty then [] else ':' :: p.portNumber) ++ p.tail

def isSchemeChar (c : Char) : Bool :=
  let c := lowerVariant c
  c.isAlphanum || c == '.' || c == '+' || c == '-'

def splitScheme (s : Text) : Text × Text :=
  let name := s.takeWhile isSchemeChar
  match name, s.drop name.length with
  | _ :: _, ':' :: rest => (name ++ [':'], rest)
  | _, _ => ([], s)

def isHostless (scheme : Text) : Bool := scheme == "javascript:".toList

def needsSlashes (scheme : Text) : Bool :=
  ["http:", "https:", "ftp:", "gopher:", "file:"].any (·.toList == scheme)

def endsAuthority (c : Char) : Bool := c == '/' || c == '?' || c == '#'

def endsHost (c : Char) : Bool :=
  "%/?;#'".toList.contains c || "\x7b\x7d|\\^`<>\" \r\n\t".toList.contains c

def splitAtLast? (p : Char → Bool) (s : Text) : Option (Text × Text) :=
  let after := (s.reverse.takeWhile (fun c => !p c)).reverse
  if after.length < s.length then some (s.take (s.length - after.length - 1), after) else none

def splitPortNumber (s : Text) : Text × Text :=
  match splitAtLast? (· == ':') s with
  | some (host, digits) => if digits.all Char.isDigit then (host, digits) else (s, [])
  | none => (s, [])

def isLabelChar (c : Char) : Bool := c.isAlphanum || c == '+' || c == '_' || c == '-'

def isLabel (label : Text) : Bool :=
  label.length ≤ 63 && label.all fun c => isLabelChar c || 127 < c.toNat

/--
The labels up to the first one that is not well formed, of which the start is kept, and what does
not belong to the host.
-/
def splitLabels : List Text → List Text × Option Text
  | [] => ([], none)
  | label :: labels =>
    if isLabel label then
      let (kept, rest) := splitLabels labels
      (label :: kept, rest)
    else
      let start := (label.takeWhile isLabelChar).take 63
      ([start], some (['.'].intercalate (label.drop start.length :: labels)))

/-- A host has at most 255 characters; an address stands in brackets. -/
def splitHost (s : Text) : Text × Text :=
  if s.head? = some '[' ∧ s.getLast? = some ']' then
    (if 255 < s.length then [] else (s.drop 1).dropLast, [])
  else
    let (labels, rest) := splitLabels (s.splitOn '.')
    let host := ['.'].intercalate labels
    (if 255 < host.length then [] else host, rest.getD [])

def splitAuth (s : Text) : Text × Text :=
  let authority := s.takeWhile (fun c => !endsAuthority c)
  match splitAtLast? (· == '@') authority with
  | some (auth, _) => (auth, s.drop (auth.length + 1))
  | none => ([], s)

/-- Where the host and its number end; a colon at their end belongs to what follows. -/
def splitAuthority (s : Text) : Text × Text :=
  let authority := s.takeWhile (fun c => !endsHost c)
  let authority := if authority.getLast? = some ':' then authority.dropLast else authority
  (authority, s.drop authority.length)

def ofText (url : Text) : Parts :=
  let (scheme, rest) := splitScheme (trim url)
  let slashes := "//".toList.isPrefixOf rest && !isHostless scheme
  let rest := if slashes then rest.drop 2 else rest
  if !isHostless scheme && (slashes || (!scheme.isEmpty && !needsSlashes scheme)) then
    let (auth, rest) := splitAuth rest
    let (authority, tail) := splitAuthority rest
    let (hostName, portNumber) := splitPortNumber authority
    let (host, beyond) := splitHost hostName
    ⟨scheme, slashes, auth, host, portNumber, beyond ++ tail⟩
  else ⟨scheme, slashes, [], [], [], rest⟩

end Parts

end MarkdownPages.Url
