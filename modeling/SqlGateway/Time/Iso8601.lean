import SqlGateway.Number.Ratio
import SqlGateway.Time.Calendar
import SqlGateway.Text.Digit
set_option autoImplicit false

/-!
# Time: ISO 8601 text

A time is written as `YYYY-MM-DDTHH:MM:SS`, with six digits of fraction when it
has one, and with its offset `±HH:MM`, to which seconds and a fraction are added
when it has them.

Reading is wider.  A date is in calendar or week form, with or without hyphens;
any one character separates it from the clock; the clock has two to six digits
with colons or without, and a fraction of any length after a point or a comma, of
which six digits count.  `Z` or a signed clock is the offset.
-/

namespace SqlGateway.Time

/-! ## Writing -/

/-- The last `width` decimal digits of a number. -/
def padded : Nat → Nat → List Char
  | 0, _ => []
  | width + 1, n => padded width (n / 10) ++ [Text.digitChar (n % 10)]

def Date.chars (d : Date) : List Char :=
  padded 4 d.year ++ '-' :: (padded 2 d.month ++ '-' :: padded 2 d.day)

/-- A fraction of a second, absent when it is zero. -/
def fractionChars (micro : Nat) : List Char := if micro = 0 then [] else '.' :: padded 6 micro

def Clock.chars (c : Clock) : List Char :=
  padded 2 c.hour ++ ':' :: (padded 2 c.minute ++ ':' :: (padded 2 c.second ++
    fractionChars c.micro))

def Offset.chars (o : Offset) : List Char :=
  let n := o.micros.natAbs
  let micro := n % 1000000
  let s := n / 1000000
  (if o.micros < 0 then '-' else '+') :: (padded 2 (s / 3600) ++ ':' :: (padded 2 (s / 60 % 60) ++
    (if s % 60 = 0 ∧ micro = 0 then [] else ':' :: (padded 2 (s % 60) ++ fractionChars micro))))

def DateTime.chars (t : DateTime) : List Char :=
  t.date.chars ++ 'T' :: (t.clock.chars ++ (match t.offset with
    | some o => o.chars
    | none => []))

def Date.toText (d : Date) : String := String.ofList d.chars

def DateTime.toText (t : DateTime) : String := String.ofList t.chars

/-! ## Reading digits -/

/-- Exactly `n` ASCII digits at the front, and the rest. -/
def takeDigits? : Nat → List Char → Option (List Nat × List Char)
  | 0, cs => some ([], cs)
  | n + 1, c :: cs =>
    match Text.asciiDigit? c with
    | some d => (takeDigits? n cs).map fun r => (d :: r.1, r.2)
    | none => none
  | _ + 1, [] => none

/-- A number of exactly `n` digits at the front, and the rest. -/
def takeNumber? (n : Nat) (cs : List Char) : Option (Nat × List Char) :=
  (takeDigits? n cs).map fun r => (Text.ofDigits 10 r.1, r.2)

/-- A hyphen, if the date is written with hyphens. -/
def takeHyphen? (hyphens : Bool) (cs : List Char) : Option (List Char) :=
  if hyphens then
    match cs with
    | '-' :: cs => some cs
    | _ => none
  else some cs

/-! ## Reading dates -/

def isAsciiDigit (c : Char) : Bool := (Text.asciiDigit? c).isSome

/-- Where the date ends: its length, told from the fifth character on.  In the week form
without a day a hyphen may separate the date from the clock; two digits after it say that
it does. -/
def dateLength? (cs : List Char) : Option Nat :=
  let len := cs.length
  if len < 7 then none
  else if len == 7 then some 7
  else if cs[4]? == some '-' then
    if cs[5]? == some 'W' then
      if cs[8]? == some '-' then
        if len == 9 then none
        else if (cs[10]?.map isAsciiDigit).getD false then some 8
        else some 10
      else some 8
    else some 10
  else if cs[4]? == some 'W' then
    let digitsEnd := 7 + ((cs.drop 7).takeWhile isAsciiDigit).length
    if digitsEnd < 9 then some digitsEnd
    else if digitsEnd % 2 == 0 then some 7
    else some 8
  else some 8

/-- The date at the front of the text; `len` characters are the date's. -/
def readDate? (cs : List Char) (len : Nat) : Option Date := do
  let (year, rest) ← takeNumber? 4 cs
  let hyphens := rest.head? == some '-'
  let rest := if hyphens then rest.drop 1 else rest
  if rest.head? == some 'W' then
    let (week, rest) ← takeNumber? 2 (rest.drop 1)
    if cs.length - rest.length < len then
      let rest ← takeHyphen? hyphens rest
      let (day, _) ← takeNumber? 1 rest
      Date.ofWeek? year week day
    else Date.ofWeek? year week 1
  else
    let (month, rest) ← takeNumber? 2 rest
    let rest ← takeHyphen? hyphens rest
    let (day, _) ← takeNumber? 2 rest
    Date.mk? year month day

/-! ## Reading clocks -/

/-- The numbers of a clock as written, not yet checked against a day. -/
structure ClockDigits where
  hour : Nat := 0
  minute : Nat := 0
  second : Nat := 0
  micro : Nat := 0
  /-- Everything up to the end was read, and no mark is left over. -/
  exact : Bool := true
  deriving Repr

/-- A fraction of a second of one to six digits, in microseconds; more digits are dropped. -/
def readFraction? (cs : List Char) : Option (Nat × Bool) :=
  let n := min cs.length 6
  match takeNumber? n cs with
  | some (v, rest) =>
    some (v * Number.tenTo (6 - n), (rest.dropWhile isAsciiDigit).isEmpty)
  | none => none

/-- Finish with a fraction. -/
def ClockDigits.withFraction? (c : ClockDigits) (cs : List Char) : Option ClockDigits :=
  (readFraction? cs).map fun r => { c with micro := r.1, exact := r.2 }

/-- Store the number that was read at a position: hour, minute or second. -/
def ClockDigits.setAt (c : ClockDigits) (position value : Nat) : ClockDigits :=
  match position with
  | 0 => { c with hour := value }
  | 1 => { c with minute := value }
  | _ => { c with second := value }

/-- Read two digits for each of `todo` further positions.  After each pair the text ends,
or the separator says how it goes on: a colon or nothing to the next pair, a point or a
comma to the fraction.  A single ASCII mark at the very end is left over. -/
def readPairs? (colons : Bool) : Nat → ClockDigits → List Char → Option ClockDigits
  | 0, c, cs => c.withFraction? cs
  | todo + 1, c, cs =>
    match takeNumber? 2 cs with
    | none => none
    | some (v, rest) =>
      let c := c.setAt (2 - todo) v
      match rest with
      | [] => some c
      | [mark] => if mark.toNat < 128 then some { c with exact := false } else none
      | mark :: rest' =>
        let colons := if todo == 2 then mark == ':' else colons
        if colons && mark == ':' then readPairs? colons todo c rest'
        else if mark == '.' || mark == ',' then c.withFraction? rest'
        else if colons then none
        else readPairs? colons todo c rest

/-- The offset's numbers as an offset; the zero offset drops what is less than a second. -/
def offsetOf? (negative : Bool) (c : ClockDigits) : Option Offset :=
  let s := c.hour * 3600 + c.minute * 60 + c.second
  if s == 0 then some Offset.utc
  else
    let n : Int := (s * 1000000 + c.micro : Nat)
    Offset.mk? (if negative then -n else n)

/-- Clock and offset after the separator. -/
def readClock? (cs : List Char) : Option (Clock × Option Offset) := do
  let isMark := fun c => c == '+' || c == '-' || c == 'Z'
  let front := cs.takeWhile fun c => !isMark c
  let rest := cs.dropWhile fun c => !isMark c
  let c ← readPairs? true 3 {} front
  match rest with
  | [] =>
    if c.exact then
      let clock ← Clock.mk? c.hour c.minute c.second c.micro
      some (clock, none)
    else none
  | 'Z' :: tail =>
    if tail.isEmpty then
      let clock ← Clock.mk? c.hour c.minute c.second c.micro
      some (clock, some Offset.utc)
    else none
  | sign :: tail =>
    let o ← readPairs? true 3 {} tail
    if o.exact then
      let offset ← offsetOf? (sign == '-') o
      let clock ← Clock.mk? c.hour c.minute c.second c.micro
      some (clock, some offset)
    else none

/-- Read a date and a time; a date alone means midnight. -/
def DateTime.ofChars? (cs : List Char) : Option DateTime := do
  let len ← dateLength? cs
  let date ← readDate? cs len
  match cs.drop len with
  | [] => some ⟨date, Clock.midnight, none⟩
  | _ :: rest =>
    let (clock, offset) ← readClock? rest
    some ⟨date, clock, offset⟩

def DateTime.ofText? (s : String) : Option DateTime := DateTime.ofChars? s.toList

/-- Read a date alone, in the calendar or the week form. -/
def Date.ofText? (s : String) : Option Date :=
  let cs := s.toList
  if cs.length == 7 || cs.length == 8 || cs.length == 10 then readDate? cs cs.length else none

end SqlGateway.Time
