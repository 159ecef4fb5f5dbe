import SqlGateway.Text.Blank
import SqlGateway.Text.Case
import SqlGateway.Text.Quoted
import SqlGateway.Url.Address
set_option autoImplicit false

/-!
# URLs: parts

What follows the scheme of a URL with an authority: user, password, host, port,
path and query.  Tabs and line breaks are dropped wherever they stand.
-/

namespace SqlGateway.Url

/-- Why a URL has no parts. -/
inductive Fault where
  | badBrackets
  | badFuture
  | bracketedIPv4
  | notAddress (host : String)
  /-- A character that is compatible with a delimiter stands in the authority. -/
  | hiddenDelimiter (authority : String)
  | portNotNumber (port : String)
  | portRange
  /-- More digits than an integer literal may have. -/
  | portDigits (count : Nat)
  deriving DecidableEq, Repr

def Fault.message : Fault → String
  | .badBrackets => "Invalid IPv6 URL"
  | .badFuture => "IPvFuture address is invalid"
  | .bracketedIPv4 => "An IPv4 address cannot be in brackets"
  | .notAddress host => Text.quoted host ++ " does not appear to be an IPv4 or IPv6 address"
  | .hiddenDelimiter a =>
    "netloc '" ++ a ++ "' contains invalid characters under NFKC normalization"
  | .portNotNumber p => "Port could not be cast to integer value as " ++ Text.quoted p
  | .portRange => "Port out of range 0-65535"
  | .portDigits n => "Exceeds the limit (4300 digits) for integer string conversion: value has " ++
      toString n ++ " digits; use sys.set_int_max_str_digits() to increase the limit"

/-- The parts of a URL behind its scheme; texts are still in percent code. -/
structure Parts where
  username : Option (List Char)
  password : Option (List Char)
  host : List Char
  port : Option Nat
  path : List Char
  query : List Char
  deriving Repr

/-- Characters whose compatibility form holds a delimiter. -/
def hidesDelimiter (c : Char) : Bool :=
  [0x2047, 0x2048, 0x2049, 0x2100, 0x2101, 0x2105, 0x2106, 0x2a74, 0xfe13, 0xfe16, 0xfe55, 0xfe56,
    0xfe5f, 0xfe6b, 0xff03, 0xff0f, 0xff1a, 0xff1f, 0xff20].contains c.toNat

/-- The text before the last character that satisfies `p`, if there is one, and the text after
it. -/
def cutAtLast (p : Char → Bool) (cs : List Char) : Option (List Char) × List Char :=
  match cutAt p cs.reverse with
  | (after, some before) => (some before.reverse, after.reverse)
  | (after, none) => (none, after.reverse)

/-- A host in brackets must be an address of version six or of a future one. -/
def checkBrackets (authority : List Char) : Except Fault Unit :=
  match authority.contains '[', authority.contains ']' with
  | false, false => .ok ()
  | true, true =>
    let inside := ((cutAt (· == '[') authority).2).getD []
    let host := (cutAt (· == ']') inside).1
    if host.head? == some 'v' then
      if isFutureAddress host then .ok () else .error .badFuture
    else if isIPv4 host then .error .bracketedIPv4
    else if isIPv6 host then .ok ()
    else .error (.notAddress (String.ofList host))
  | _, _ => .error .badBrackets

/-- Host and port of an authority without its user. -/
def hostAndPort (cs : List Char) : List Char × List Char :=
  match cutAt (· == '[') cs with
  | (_, some bracketed) =>
    let (host, rest) := cutAt (· == ']') bracketed
    (host, ((cutAt (· == ':') (rest.getD [])).2).getD [])
  | (_, none) =>
    let (host, port) := cutAt (· == ':') cs
    (host, port.getD [])

/-- Hosts are in lower case up to a zone. -/
def lowerHost (cs : List Char) : List Char :=
  let zone := cs.dropWhile (· != '%')
  (Text.toLower (String.ofList (cs.takeWhile (· != '%')))).toList ++ zone

/-- A port is a number of ASCII digits in the range of ports, or nothing. -/
def portOf (cs : List Char) : Except Fault (Option Nat) :=
  if cs.isEmpty then .ok none
  else if !cs.all Char.isDigit then .error (.portNotNumber (String.ofList cs))
  else if 4300 < cs.length then .error (.portDigits cs.length)
  else
    let n := cs.foldl (fun n c => n * 10 + (c.toNat - 48)) 0
    if n ≤ 65535 then .ok (some n) else .error .portRange

/-- The parts of what follows `scheme://`. -/
def split (rest : List Char) : Except Fault Parts := do
  let cs := rest.filter fun c => c != '\t' && c != '\r' && c != '\n'
  let isDelimiter (c : Char) : Bool := c == '/' || c == '?' || c == '#'
  let authority := cs.takeWhile fun c => !isDelimiter c
  let tail := cs.drop authority.length
  checkBrackets authority
  let beforeFragment := (cutAt (· == '#') tail).1
  let (path, query) := cutAt (· == '?') beforeFragment
  if authority.any hidesDelimiter then
    .error (.hiddenDelimiter (String.ofList authority))
  else
    let (user, hostInfo) := cutAtLast (· == '@') authority
    let (username, password) := match user with
      | none => (none, none)
      | some u =>
        let (name, secret) := cutAt (· == ':') u
        (some name, secret)
    let (host, port) := hostAndPort hostInfo
    let port ← portOf port
    return { username, password, host := lowerHost host, port, path, query := query.getD [] }

end SqlGateway.Url
