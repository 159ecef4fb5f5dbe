import SqlGateway.Url.Percent
set_option autoImplicit false

/-!
# URLs: numeric host addresses

Which texts are addresses of version four and of version six.  The groups of the
latter may be left out once, its last two may be written as an address of version
four, and a zone may follow a percent sign.
-/

namespace SqlGateway.Url

/-- A number below 256 without leading zeros. -/
def isOctet (cs : List Char) : Bool :=
  !cs.isEmpty && cs.length ≤ 3 && cs.all Char.isDigit && (cs == ['0'] || cs.head? != some '0') &&
    cs.foldl (fun n c => n * 10 + (c.toNat - 48)) 0 < 256

/-- Four octets. -/
def isIPv4 (cs : List Char) : Bool :=
  let octets := splitAt (· == '.') cs
  octets.length == 4 && octets.all isOctet

/-- One to four hexadecimal digits. -/
def isHextet (cs : List Char) : Bool :=
  !cs.isEmpty && cs.length ≤ 4 && cs.all fun c => (Text.hexValue? c).isSome

/-- The groups of an address, where a last one of version four counts for two. -/
def hextetGroups? (cs : List Char) : Option (List (List Char)) :=
  let groups := splitAt (· == ':') cs
  match groups.getLast? with
  | some last =>
    if groups.length < 3 then none
    else if last.contains '.' then
      if isIPv4 last then some (groups.dropLast ++ [['0'], ['0']]) else none
    else some groups
  | none => none

/-- The places of empty groups other than the first and the last. -/
def innerGaps (groups : List (List Char)) : List Nat :=
  (groups.zipIdx.filter fun g => g.1.isEmpty && 0 < g.2 && g.2 + 1 < groups.length).map Prod.snd

/-- Groups that make an address: eight of them, or fewer with one gap.  An end that is empty
belongs to the gap. -/
def isGroupList (groups : List (List Char)) : Bool :=
  match innerGaps groups with
  | [] => groups.length == 8 && groups.all isHextet
  | [gap] =>
    let before := groups.take gap
    let after := groups.drop (gap + 1)
    let before := if before == [[]] then [] else before
    let after := if after == [[]] then [] else after
    before.length + after.length ≤ 7 && before.all isHextet && after.all isHextet
  | _ => false

def isIPv6 (cs : List Char) : Bool :=
  let (address, zone) := cutAt (· == '%') cs
  let zoneFits := match zone with
    | none => true
    | some z => !z.isEmpty && !z.contains '%'
  !cs.contains '/' && zoneFits &&
    match hextetGroups? address with
    | some groups => groups.length ≤ 9 && isGroupList groups
    | none => false

/-- The letter v, hexadecimal digits, a point, and something without line breaks. -/
def isFutureAddress (cs : List Char) : Bool :=
  match cs with
  | 'v' :: rest =>
    let digits := rest.takeWhile fun c => (Text.hexValue? c).isSome
    match rest.drop digits.length with
    | '.' :: tail => !digits.isEmpty && !tail.isEmpty && !tail.contains '\n'
    | _ => false
  | _ => false

end SqlGateway.Url
