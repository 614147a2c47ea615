/-
  MountControl — URLs.

  A URL is read into its scheme, host, port and path; user, query and
  fragment are skipped.  Blanks around it and tabs and line breaks within it
  are dropped.  A path after an authority or a slash is a list of segments,
  in which `.` and `..` are resolved; any other path is opaque and stays as
  it is.  Hosts are opaque too, except those of the well-known schemes,
  which have to be names or addresses.
-/
import MountControl.Net.Ipv6
import MountControl.Net.Percent
import MountControl.Text.Blank

namespace MountControl.Net

/-- Why a text is no URL. -/
inductive UrlError
  /-- A host is needed. -/
  | emptyHost
  /-- The host is no name. -/
  | invalidName
  /-- The port is no number below 65536. -/
  | invalidPort
  /-- The host is no IPv4 address. -/
  | invalidIpv4
  /-- The host is no IPv6 address. -/
  | invalidIpv6
  /-- The host has a character that no host may have. -/
  | invalidCharacter
  /-- There is no scheme. -/
  | relative
  deriving DecidableEq, Repr

/-- The text of a failure. -/
def UrlError.message : UrlError → String
  | .emptyHost => "empty host"
  | .invalidName => "invalid international domain name"
  | .invalidPort => "invalid port number"
  | .invalidIpv4 => "invalid IPv4 address"
  | .invalidIpv6 => "invalid IPv6 address"
  | .invalidCharacter => "invalid domain character"
  | .relative => "relative URL without a base"

/-- A URL. -/
structure Url where
  /-- The scheme, in lower case. -/
  scheme : List Char
  /-- The host, if there is one. -/
  host : Option (List Char)
  /-- The port, if one is given. -/
  port : Option Nat
  /-- The path. -/
  path : List Char
  deriving DecidableEq, Repr

/-! ## Schemes -/

/-- What a scheme says about the rest. -/
inductive SchemeKind
  /-- Hosts are names or addresses. -/
  | named
  /-- The host may be absent, and there is no port. -/
  | file
  /-- Hosts are opaque. -/
  | plain
  deriving DecidableEq, Repr

/-- The kind of a scheme. -/
def SchemeKind.of (scheme : List Char) : SchemeKind :=
  if scheme ∈ ["http", "https", "ws", "wss", "ftp"].map String.toList then .named
  else if scheme = "file".toList then .file
  else .plain

/-- May the character stand in a scheme? -/
def isSchemeChar (c : Char) : Bool := c.isAlphanum || c ∈ ['+', '-', '.']

/-- The scheme of a text, and what follows its colon. -/
def cutScheme (text : List Char) : Option (List Char × List Char) :=
  match text with
  | [] => none
  | first :: _ =>
    if first.isAlpha then
      match text.dropWhile isSchemeChar with
      | ':' :: rest => some ((text.takeWhile isSchemeChar).map Char.toLower, rest)
      | _ => none
    else none

/-! ## Hosts -/

/-- Characters that no opaque host may have. -/
def isForbiddenInHost (c : Char) : Bool :=
  c ∈ ['\x00', '\t', '\n', '\r', ' ', '#', '/', ':', '<', '>', '?', '@', '[', '\\', ']', '^', '|']

/-- The host in brackets. -/
def bracketed (host : List Char) : Except UrlError (List Char) :=
  if host.length < 2 ∨ host.getLast? ≠ some ']' then .error .invalidIpv6
  else
    match Ipv6.parse? ((host.drop 1).dropLast) with
    | some numbers => .ok ('[' :: Ipv6.write numbers ++ [']'])
    | none => .error .invalidIpv6

/-- An opaque host. -/
def opaqueHost (host : List Char) : Except UrlError (List Char) :=
  if host.head? = some '[' then bracketed host
  else if host.any isForbiddenInHost then .error .invalidCharacter
  else .ok (Percent.encode Percent.isControl host)

/-- Characters that no name may have. -/
def isForbiddenInName (c : Char) : Bool :=
  c.toNat ≤ 0x20 || c.toNat = 0x7F
    || c ∈ ['%', '#', '/', ':', '<', '>', '?', '@', '[', '\\', ']', '^', '|']

/-- The number of a part of an IPv4 address: hexadecimal after `0x`, octal after `0`, decimal
    otherwise.  The outer option is whether it is a number at all, the inner one whether it has
    32 bits. -/
def ipv4Number? (part : List Char) : Option (Option Nat) :=
  let read (base : Nat) (digits : List Char) : Option (Option Nat) :=
    if digits.isEmpty then some (some 0)
    else (Text.Numeral.value? base digits).map fun n => if n < UInt32.size then some n else none
  match part with
  | [] => none
  | '0' :: 'x' :: rest => read 16 rest
  | '0' :: 'X' :: rest => read 16 rest
  | '0' :: d :: rest => read 8 (d :: rest)
  | digits => read 10 digits

/-- The parts of a name, without an empty one at its end. -/
def nameParts (name : List Char) : List (List Char) :=
  let parts := Text.fields '.' name
  if 1 < parts.length ∧ parts.getLast? = some [] then parts.dropLast else parts

/-- Is the last part of a name a number?  Such a name has to be an address. -/
def endsInNumber (name : List Char) : Bool :=
  match (nameParts name).getLast? with
  | none | some [] => false
  | some last => last.all Char.isDigit || (ipv4Number? last).isSome

/-- Is the name an IPv4 address?  All parts but the last are octets, and the last one fills what
    they leave. -/
def isIpv4 (name : List Char) : Bool :=
  let parts := nameParts name
  match parts.mapM fun part => (ipv4Number? part).join with
  | none => false
  | some numbers =>
    numbers.length ≤ 4
      && numbers.dropLast.all (· < 256)
      && numbers.getLastD 0 < Nat.pow 256 (5 - numbers.length)

/-- The host of a well-known scheme. -/
def namedHost (host : List Char) : Except UrlError (List Char) :=
  if host.head? = some '[' then bracketed host
  else
    let name := (Text.decodeLossy (Percent.decode host)).map Char.toLower
    if name.any isForbiddenInName || Text.replacement ∈ name then .error .invalidName
    else if name.isEmpty then .error .emptyHost
    else if endsInNumber name then
      if isIpv4 name then .ok name else .error .invalidIpv4
    else .ok name

/-! ## Authorities -/

/-- Does the character end an authority? -/
def endsAuthority (kind : SchemeKind) (c : Char) : Bool :=
  c ∈ ['/', '?', '#'] || (kind ≠ .plain && c = '\\')

/-- Skips the user before a host: up to the last at sign of the authority. -/
def skipUser (kind : SchemeKind) (text : List Char) : Except UrlError (List Char × Bool) :=
  let authority := text.takeWhile fun c => !endsAuthority kind c
  match Text.cutLast '@' authority with
  | none => .ok (text, false)
  | some (user, _) =>
    let rest := text.drop (user.length + 1)
    if user.isEmpty then
      match rest with
      | c :: _ => if endsAuthority kind c then .error .emptyHost else .ok (rest, false)
      | [] => .ok (rest, false)
    else .ok (rest, user ≠ [':'])

/-- The host at the front of a text and what follows it; a colon in brackets does not end it. -/
def takeHost (kind : SchemeKind) : (inside : Bool) → List Char → List Char × List Char
  | _, [] => ([], [])
  | inside, c :: rest =>
    if (c = ':' && !inside) || endsAuthority kind c then ([], c :: rest)
    else
      let inside := if c = '[' then true else if c = ']' then false else inside
      let (host, after) := takeHost kind inside rest
      (c :: host, after)

/-- The port at the front of a text: digits, up to the end of the authority. -/
def takePort (text : List Char) : Except UrlError (Option Nat × List Char) :=
  let digits := text.takeWhile Char.isDigit
  let rest := text.drop digits.length
  match Text.Numeral.value? 10 digits with
  | some n =>
    if 65536 ≤ n then .error .invalidPort
    else if ends rest then .ok (some n, rest) else .error .invalidPort
  | none => if ends rest then .ok (none, rest) else .error .invalidPort
where
  /-- Is the port over here? -/
  ends : List Char → Bool
    | [] => true
    | c :: _ => c ∈ ['/', '\\', '?', '#']

/-- Host and port at the front of a text. -/
def takeAuthority (kind : SchemeKind) (text : List Char) :
    Except UrlError (Option (List Char) × Option Nat × List Char) := do
  let (text, hasUser) ← skipUser kind text
  let (host, rest) := takeHost kind false text
  if kind = .named ∧ host.isEmpty then throw .emptyHost
  let name ← if kind = .plain then opaqueHost host else namedHost host
  if name.isEmpty ∧ (rest.head? = some ':' ∨ hasUser) then throw .emptyHost
  let (port, rest) ←
    match rest with
    | ':' :: digits => takePort digits
    | _ => pure (none, rest)
  return (if name.isEmpty then none else some name, port, rest)

/-! ## Paths -/

/-- Does the text of a segment mean the directory itself? -/
def isSingleDot (segment : List Char) : Bool :=
  segment.map Char.toLower ∈ [".", "%2e"].map String.toList

/-- Does the text of a segment mean the directory above? -/
def isDoubleDot (segment : List Char) : Bool :=
  segment.map Char.toLower ∈ ["..", ".%2e", "%2e.", "%2e%2e"].map String.toList

/-- Is the segment a drive letter?  The directory above it is not left. -/
def isDrive : List Char → Bool
  | [c, d] => c.isAlpha && d ∈ [':', '|']
  | _ => false

/-- The segments without their last one. -/
def leave : List (List Char) → List (List Char)
  | [] => []
  | segment :: above => if isDrive segment then segment :: above else above

/-- Resolves segments; `above` are the directories passed so far, the last one first.  What comes
    out has the last segment first. -/
def resolve : (above : List (List Char)) → List (List Char) → List (List Char)
  | above, [] => [] :: above
  | above, [last] =>
    if isDoubleDot last then [] :: leave above
    else if isSingleDot last then [] :: above
    else last :: above
  | above, segment :: rest =>
    if isDoubleDot segment then resolve (leave above) rest
    else if isSingleDot segment then resolve above rest
    else resolve (segment :: above) rest

/-- Is the character over the end of a path? -/
def endsPath (c : Char) : Bool := c = '?' || c = '#'

/-- The path of segments that a text spells after a slash. -/
def slashedPath (text : List Char) : List Char :=
  let segments := Text.fields '/' (Percent.encode Percent.inPath (text.takeWhile (!endsPath ·)))
  '/' :: ['/'].intercalate (resolve [] segments).reverse

/-- The path after an authority; none where nothing follows it. -/
def pathAfterAuthority (text : List Char) : List Char :=
  match text with
  | [] => []
  | '/' :: rest => slashedPath rest
  | c :: rest => if endsPath c then [] else slashedPath (c :: rest)

/-! ## Whole URLs -/

/-- The text without what is dropped from it: blanks and controls around it, tabs and line breaks
    within it. -/
def strip (text : List Char) : List Char :=
  let outer (c : Char) : Bool := c.toNat ≤ 0x20
  (Text.trimEndOf outer (text.dropWhile outer)).filter fun c => c ∉ ['\t', '\n', '\r']

/-- Reads what follows the colon of an ordinary scheme. -/
def parsePlain (scheme rest : List Char) : Except UrlError Url :=
  match rest with
  | '/' :: '/' :: text =>
    (takeAuthority .plain text).map fun (host, port, text) =>
      ⟨scheme, host, port, pathAfterAuthority text⟩
  | '/' :: text => .ok ⟨scheme, none, none, slashedPath text⟩
  | text =>
    .ok ⟨scheme, none, none, Percent.encode Percent.isControl (text.takeWhile (!endsPath ·))⟩

/-- Reads what follows the colon of a well-known scheme. -/
def parseNamed (scheme rest : List Char) : Except UrlError Url :=
  let isSlash (c : Char) : Bool := c = '/' || c = '\\'
  (takeAuthority .named (rest.dropWhile isSlash)).map fun (host, port, text) =>
    ⟨scheme, host, port, slashedPath ((text.map fun c => if c = '\\' then '/' else c).drop 1)⟩

/-- Reads what follows the colon of the scheme of files. -/
def parseFile (scheme rest : List Char) : Except UrlError Url :=
  let isSlash (c : Char) : Bool := c = '/' || c = '\\'
  match rest with
  | a :: b :: text =>
    if isSlash a && isSlash b then
      let host := text.takeWhile fun c => !endsAuthority .file c
      if host.isEmpty || isDrive host then .ok ⟨scheme, none, none, slashedPath text⟩
      else
        (namedHost host).map fun name =>
          ⟨scheme, some name, none, slashedPath (text.drop (host.length + 1))⟩
    else .ok ⟨scheme, none, none, slashedPath rest⟩
  | _ => .ok ⟨scheme, none, none, slashedPath rest⟩

/-- Reads a URL. -/
def Url.parse (text : List Char) : Except UrlError Url :=
  match cutScheme (strip text) with
  | none => .error .relative
  | some (scheme, rest) =>
    match SchemeKind.of scheme with
    | .plain => parsePlain scheme rest
    | .named => parseNamed scheme rest
    | .file => parseFile scheme rest

end MountControl.Net
