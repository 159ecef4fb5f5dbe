set_option autoImplicit false

/-!
# Queries: markers and placeholders

A hand-written fragment marks each bound value with `?`; rendered SQL shows each
one as the placeholder of a parameter style.  Neither is recognised inside quoted
text.  A quote opened by `'`, `"` or a backtick lasts to the next occurrence of
the same character, so a doubled quote closes and opens again and stays inside.
-/

namespace SqlGateway

/-- How rendered SQL shows a bound value. -/
inductive ParamStyle where
  /-- A question mark. -/
  | qmark
  /-- A percent sign and the letter s. -/
  | format
  deriving DecidableEq, Repr, Inhabited

namespace ParamStyle

def name : ParamStyle → String
  | .qmark => "qmark"
  | .format => "format"

def placeholder : ParamStyle → String
  | .qmark => "?"
  | .format => "%s"

def ofName? (s : String) : Option ParamStyle :=
  [.qmark, .format].find? fun p => p.name == s

end ParamStyle

namespace Query

/-- Characters that open quoted text: string literals and quoted identifiers. -/
def isQuote (c : Char) : Bool := c == '\'' || c == '"' || c == '\x60'

/-- Where a scanner stands: outside quoted text, or inside text opened by a quote. -/
abbrev QuoteState := Option Char

/-- The state after one character. -/
def QuoteState.step (q : QuoteState) (c : Char) : QuoteState :=
  match q with
  | some open_ => if c == open_ then none else q
  | none => if isQuote c then some c else none

/-- The state after a text. -/
def QuoteState.after (q : QuoteState) (cs : List Char) : QuoteState := cs.foldl QuoteState.step q

/-- The text ends outside quoted text. -/
def endsUnquoted (cs : List Char) : Bool := (QuoteState.after none cs).isNone

/-- The pieces of a text between its markers, in order; the first of them goes on from what
has been read so far. -/
def splitMarkersFrom (q : QuoteState) : List Char → List Char × List (List Char)
  | [] => ([], [])
  | c :: rest =>
    let (piece, more) := splitMarkersFrom (q.step c) rest
    if q.isNone && c == '?' then ([], piece :: more) else (c :: piece, more)

/-- Split a fragment at its markers; there is one piece more than there are markers. -/
def splitMarkers (fragment : String) : List String :=
  let (piece, more) := splitMarkersFrom none fragment.toList
  (piece :: more).map String.ofList

/-- Count the question marks outside quoted text. -/
def countQmark (q : QuoteState) : List Char → Nat
  | [] => 0
  | c :: rest => (if q.isNone && c == '?' then 1 else 0) + countQmark (q.step c) rest

/-- Count the format placeholders outside quoted text.  A percent sign takes the character
after it along, whatever it is. -/
def countFormat (q : QuoteState) : List Char → Nat
  | [] => 0
  | c :: rest =>
    if q.isNone && c == '%' then
      match rest with
      | [] => 0
      | d :: rest => (if d == 's' then 1 else 0) + countFormat none rest
    else countFormat (q.step c) rest

/-- Count the placeholders of a style in rendered SQL. -/
def countPlaceholders (sql : String) (style : ParamStyle) : Nat :=
  match style with
  | .qmark => countQmark none sql.toList
  | .format => countFormat none sql.toList

end Query

end SqlGateway
