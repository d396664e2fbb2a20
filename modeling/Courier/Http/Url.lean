import Courier.Text.Blank
import Courier.Text.Percent

/-!
Addresses of HTTP services. An address has a scheme, a host, maybe a port, a path, and maybe a query
and a fragment. It is kept in one normal form: scheme and host in lower case, no port that the
scheme implies, a path that starts with a slash and has no dot segments, and no character that has
to be encoded.
-/

namespace Courier.Http

/-- Why a text is no address. -/
inductive UrlFault where
  /-- It has no scheme, or what follows the scheme is no host and port. -/
  | malformed
  /-- It is the address of something else than an HTTP service. -/
  | otherScheme
  deriving DecidableEq, Repr

namespace Url

def isSchemeChar (c : Char) : Bool := c.isAlphanum || c == '+' || c == '-' || c == '.'

/-- The scheme in lower case, and what follows its colon. -/
def splitScheme? (cs : List Char) : Option (String × List Char) :=
  match cs with
  | [] => none
  | c :: _ =>
    let scheme := cs.takeWhile isSchemeChar
    match cs.drop scheme.length with
    | ':' :: rest => if c.isAlpha then some (Text.lower (String.ofList scheme), rest) else none
    | _ => none

def impliedPort? (scheme : String) : Option Nat :=
  if scheme = "http" then some 80 else if scheme = "https" then some 443 else none

def endsAuthority (c : Char) : Bool := c == '/' || c == '\\' || c == '?' || c == '#'

def isHostChar (c : Char) : Bool :=
  !(c.toNat ≤ 0x20 || c.toNat == 0x7f || "#%/:<>?@[\\]^|".toList.contains c)

/-- The number of a port; none at all is no port. -/
def readPort? (cs : List Char) : Option (Option Nat) :=
  if cs.isEmpty then some none
  else
    let digits := String.ofList cs
    if cs.all Char.isDigit then ((digits.toNat?).filter (· < 65536)).map some else none

/-- Host and port, without what is implied. Names and passwords in front of them are not kept. -/
def readAuthority? (scheme : String) (cs : List Char) : Option (List Char) :=
  let place := (cs.reverse.takeWhile (· != '@')).reverse
  let bracketed := place.head? == some '['
  let host := if bracketed then place.takeWhile (· != ']') ++ [']'] else place.takeWhile (· != ':')
  let rest := place.drop host.length
  let inner := if bracketed then host.tail.dropLast else host
  let valid := !inner.isEmpty && inner.all fun c => isHostChar c || (bracketed && c == ':')
  if !valid then none
  else
    let port? := match rest with
      | [] => some none
      | ':' :: digits => readPort? digits
      | _ => none
    port?.map fun port =>
      let host := host.map Char.toLower
      match port.filter fun n => impliedPort? scheme != some n with
      | some n => host ++ [':'] ++ (toString n).toList
      | none => host

/-- Encodes the characters that may not stand as they are. -/
def encode (reserved : List Char) (cs : List Char) : List Char :=
  cs.flatMap fun c =>
    if c.toNat < 0x20 || 0x7e < c.toNat || reserved.contains c then
      (String.singleton c).toUTF8.toList.flatMap Text.percentByte
    else [c]

/-- Whether a segment stands for the folder it is in. -/
def isHere (segment : List Char) : Bool :=
  [".", "%2e"].contains (Text.lower (String.ofList segment))

/-- Whether a segment stands for the folder above. -/
def isAbove (segment : List Char) : Bool :=
  ["..", ".%2e", "%2e.", "%2e%2e"].contains (Text.lower (String.ofList segment))

/-- Resolves dot segments; `above` holds the segments so far, the last one first. A path that ends
    with a dot segment ends with a slash. -/
def resolve (above : List (List Char)) : List (List Char) → List (List Char)
  | [] => above.reverse
  | segment :: rest =>
    if isAbove segment then
      resolve (if rest.isEmpty then [] :: above.drop 1 else above.drop 1) rest
    else if isHere segment then resolve (if rest.isEmpty then [] :: above else above) rest
    else resolve (segment :: above) rest

def readPath (cs : List Char) : List Char :=
  let slashed := cs.map fun c => if c = '\\' then '/' else c
  let segments := match Text.cut '/' slashed with
    | [] :: rest => rest
    | segments => segments
  let encoded := (resolve [] segments).map
    (encode [' ', '"', '#', '<', '>', '?', '`', '\x7b', '\x7d'])
  encoded.flatMap fun segment => '/' :: segment

/-- Path, query and fragment in normal form. -/
def readRest (cs : List Char) : List Char :=
  let main := cs.takeWhile (· != '#')
  let fragment := cs.drop main.length
  let path := main.takeWhile (· != '?')
  let query := main.drop path.length
  (match readPath path with
    | [] => ['/']
    | path => path)
    ++ encode [' ', '"', '<', '>', '\''] query ++ encode [' ', '"', '<', '>', '`'] fragment

/-- The text without what is never part of an address: controls and spaces at its ends, and tabs and
    line breaks anywhere. -/
def stripped (cs : List Char) : List Char :=
  let isEdge := fun c : Char => decide (c.toNat ≤ 0x20)
  (((cs.dropWhile isEdge).reverse.dropWhile isEdge).reverse).filter fun c =>
    c != '\t' && c != '\n' && c != '\r'

def normal (text : String) : Except UrlFault String :=
  match splitScheme? (stripped text.toList) with
  | none => .error .malformed
  | some (scheme, rest) =>
    if (impliedPort? scheme).isNone then .error .otherScheme
    else
      let rest := rest.dropWhile fun c => c == '/' || c == '\\'
      let authority := rest.takeWhile fun c => !endsAuthority c
      match readAuthority? scheme authority with
      | none => .error .malformed
      | some place =>
        .ok (scheme ++ "://" ++ String.ofList (place ++ readRest (rest.drop authority.length)))

/-- Whether a text is the address of anything. -/
def isAddress (text : String) : Bool :=
  match normal text with
  | .error .malformed => false
  | _ => true

end Url

end Courier.Http
