import Mathlib.Data.List.Forall2
import SqlGateway.Proofs.Dialect.Lexer
import SqlGateway.Proofs.Query.Reading
set_option autoImplicit false

/-!
# Dialects: the grammar of conditions

Condition text is read with the precedence of SQL: brackets bind first, then NOT, then AND,
then OR.  BETWEEN takes the AND between its bounds for itself, and a hand-written fragment is
one atom whatever it holds.

A reader takes tokens from the front and leaves the others.  It *reads* tokens as a result
when it gives the result wherever the tokens stand before nothing, a closing bracket or one
of some words.  There is one such statement for each form of condition and one for each level
of precedence.
-/

namespace SqlGateway

open Query

/-- What takes tokens from the front, and the tokens that it leaves. -/
abbrev Reader (α : Type) : Type := List Token → Option (α × List Token)

namespace Token

/-- A word in capitals. -/
def capitals (cs : List Char) : String := String.ofList (cs.map Char.toUpper)

/-- The token is the word, in any case. -/
def spells (w : String) : Token → Bool
  | .word cs => capitals cs == w
  | _ => false

/-- The connectives as words. -/
def and : Token := .word ['A', 'N', 'D']

def or : Token := .word ['O', 'R']

def not : Token := .word ['N', 'O', 'T']

def null : Token := .word ['N', 'U', 'L', 'L']

/-- The words that shape a condition; a name in quotes is none of them. -/
def keywords : List String := ["AND", "BETWEEN", "IN", "IS", "LIKE", "NOT", "NULL", "OR"]

/-- The part of a name that the token is. -/
def namePart? : Token → Option (List Char)
  | .quoted cs => some cs
  | .word cs =>
    if cs == ['*'] || (Dialect.isWord cs && !keywords.contains (capitals cs)) then some cs
    else none
  | _ => none

/-- Values in the place of the placeholders, all of them. -/
def supply : List Token → List Value → Option (List Token)
  | [], [] => some []
  | [], _ :: _ => none
  | .placeholder :: ts, vs =>
    match vs with
    | [] => none
    | v :: vs => (supply ts vs).map (.value v :: ·)
  | t :: ts, vs => (supply ts vs).map (t :: ·)

/-- Groups of tokens with a token between them. -/
def between (t : Token) : List (List Token) → List Token
  | [] => []
  | [ts] => ts
  | ts :: rest => ts ++ t :: between t rest

end Token

/-! ## Names and operands -/

/-- Parts of a name with dots between them. -/
def readParts : Reader (List (List Char))
  | t :: .dot :: rest => do
    let part ← t.namePart?
    let (parts, rest) ← readParts rest
    return (part :: parts, rest)
  | t :: rest => do
    let part ← t.namePart?
    return ([part], rest)
  | [] => none

/-- A column by its name. -/
def readName : Reader Column := fun ts => do
  let (parts, rest) ← readParts ts
  return (⟨String.ofList (Dialect.dotted parts)⟩, rest)

/-- The right side of a comparison. -/
def readOperand : Reader Operand
  | .value v :: rest => some (.literal v, rest)
  | ts => do
    let (column, rest) ← readName ts
    return (.column column, rest)

/-- Values with commas between them, and a closing bracket. -/
def readValues : Reader (List Value)
  | .value v :: .closing :: rest => some ([v], rest)
  | .value v :: .comma :: rest => do
    let (vs, rest) ← readValues rest
    return (v :: vs, rest)
  | _ => none

/-! ## Tests on a column -/

/-- The comparison that is written with signs. -/
def Comparison.ofSigns? (cs : List Char) : Option Comparison :=
  [.eq, .ne, .gt, .ge, .lt, .le].find? fun op => op.symbol.toList == cs

/-- The rest of a comparison. -/
def readComparison (op : Comparison) (left : Column) : Reader Condition := fun ts => do
  let (right, rest) ← readOperand ts
  return (.compare op left right, rest)

/-- The bounds after BETWEEN; the AND between them is no connective. -/
def readBounds (column : Column) (negated : Bool) : Reader Condition
  | .value low :: t :: .value high :: rest =>
    if t.spells "AND" then some (.between column low high negated, rest) else none
  | _ => none

/-- The set after IN. -/
def readMembers (column : Column) (negated : Bool) : Reader Condition
  | .opening :: rest => do
    let (members, rest) ← readValues rest
    return (.inSet column members negated, rest)
  | _ => none

/-- A test that NOT may precede. -/
def readRange (column : Column) (negated : Bool) : Reader Condition
  | t :: rest =>
    if t.spells "LIKE" then readComparison (if negated then .notLike else .like) column rest
    else if t.spells "BETWEEN" then readBounds column negated rest
    else if t.spells "IN" then readMembers column negated rest
    else none
  | [] => none

/-- The rest of a test after IS. -/
def readNull (column : Column) (negated : Bool) : Reader Condition
  | t :: rest => if t.spells "NULL" then some (.isNull column negated, rest) else none
  | [] => none

/-- A reader that is told whether a NOT came first. -/
def readSigned {α : Type} (reader : Bool → Reader α) : Reader α
  | t :: rest => if t.spells "NOT" then reader true rest else reader false (t :: rest)
  | [] => none

/-- What follows the column in a condition. -/
def readTest (column : Column) : Reader Condition
  | .symbol cs :: rest => do
    let op ← Comparison.ofSigns? cs
    readComparison op column rest
  | t :: rest =>
    if t.spells "IS" then readSigned (readNull column) rest
    else if t.spells "ILIKE" then readComparison .ilike column rest
    else readSigned (readRange column) (t :: rest)
  | [] => none

/-! ## Atoms -/

/-- Values and the pieces of a hand-written fragment that follow them. -/
def readPieces : List Token → List (List Char) × List Value × List Token
  | .value v :: .written s :: rest =>
    let (pieces, vs, rest) := readPieces rest
    (s.toList :: pieces, v :: vs, rest)
  | ts => ([], [], ts)

/-- A comparison of two digits. -/
def readConstant : Reader Reading
  | .word one :: .symbol sign :: .word digit :: rest =>
    if one == ['1'] && sign == ['='] then
      if digit == ['1'] then some (.constant true, rest)
      else if digit == ['0'] then some (.constant false, rest)
      else none
    else none
  | _ => none

/-- A condition without connectives. -/
def readAtom : Reader Reading
  | .written s :: rest =>
    let (pieces, vs, rest) := readPieces rest
    some (.atom (.raw (String.ofList (rejoin s.toList pieces)) vs), rest)
  | ts =>
    match readName ts with
    | some (column, rest) => do
      let (c, rest) ← readTest column rest
      return (.atom c, rest)
    | none => readConstant ts

/-! ## Precedence -/

/-- A whole condition in brackets, or an atom. -/
def readPrimary (whole : Reader Reading) : Reader Reading
  | .opening :: rest => do
    let (r, rest) ← whole rest
    match rest with
    | .closing :: rest => return (r, rest)
    | _ => none
  | ts => readAtom ts

/-- Any number of NOTs in front. -/
def readNegated (item : Reader Reading) : Reader Reading
  | [] => item []
  | t :: rest =>
    if t.spells "NOT" then do
      let (r, rest) ← readNegated item rest
      return (.not r, rest)
    else item (t :: rest)

/-- Items with a keyword between them, so many at most. -/
def readChain (item : Reader Reading) (keyword : String) : Nat → Reader (List Reading)
  | 0, _ => none
  | n + 1, ts => do
    let (r, rest) ← item ts
    match rest with
    | [] => return ([r], [])
    | t :: after =>
      if t.spells keyword then
        let (rs, rest) ← readChain item keyword n after
        return (r :: rs, rest)
      else return ([r], rest)

/-- Items with a keyword between them; there cannot be more of them than tokens. -/
def readItems (item : Reader Reading) (keyword : String) : Reader (List Reading) := fun ts =>
  readChain item keyword (ts.length + 1) ts

/-- Conditions with AND between them. -/
def readConjunction (whole : Reader Reading) : Reader Reading := fun ts => do
  let (rs, rest) ← readItems (readNegated (readPrimary whole)) "AND" ts
  return (.joined .and rs, rest)

/-- Conjunctions with OR between them, which brackets may nest so deep. -/
def readDisjunction : Nat → Reader Reading
  | 0, _ => none
  | depth + 1, ts => do
    let (rs, rest) ← readItems (readConjunction (readDisjunction depth)) "OR" ts
    return (.joined .or rs, rest)

/-- The reading of condition text with its values; nothing may be left over. -/
def Dialect.read (d : Dialect) (gs : List Glyph) (vs : List Value) : Option Reading := do
  let placeholders ← tokensOf d gs
  let ts ← Token.supply placeholders vs
  let (r, rest) ← readDisjunction (ts.length + 1) ts
  if rest.isEmpty then some r else none

/-! ## What is read -/

/-- The tokens are none, or begin with a closing bracket or one of the words. -/
def Stops (words : List String) : List Token → Prop
  | [] => True
  | t :: _ => t = .closing ∨ ∃ w ∈ words, t.spells w = true

/-- Before the words, the reader takes the tokens for the result. -/
def Reads {α : Type} (reader : Reader α) (words : List String) (ts : List Token) (a : α) : Prop :=
  ∀ rest, Stops words rest → reader (ts ++ rest) = some (a, rest)

/-- What may follow a part of a conjunction. -/
def connectives : List String := ["AND", "OR"]

/-- At any depth of brackets, the tokens are read as one part of a conjunction. -/
def ReadsPart (ts : List Token) (r : Reading) : Prop :=
  ∀ depth, ts.length ≤ depth →
    Reads (readNegated (readPrimary (readDisjunction depth))) connectives ts r

/-- The tokens are read as a whole condition. -/
def ReadsWhole (ts : List Token) (r : Reading) : Prop :=
  ∀ depth, ts.length < depth → Reads (readDisjunction depth) [] ts r

theorem Token.spells_unique {t : Token} {v w : String} (hv : t.spells v = true)
    (hw : t.spells w = true) : v = w := by
  cases t with
  | word cs => exact (beq_iff_eq.1 hv).symm.trans (beq_iff_eq.1 hw)
  | _ => cases hv

theorem Stops.mono {words words' : List String} {ts : List Token} (h : Stops words ts)
    (hwords : words ⊆ words') : Stops words' ts := by
  cases ts with
  | nil => trivial
  | cons t rest => exact h.imp id fun ⟨w, hw, ht⟩ => ⟨w, hwords hw, ht⟩

/-! ### Precedence -/

theorem Token.between_cons_cons (sep : Token) (ts ts' : List Token) (rest : List (List Token)) :
    sep.between (ts :: ts' :: rest) = ts ++ sep :: sep.between (ts' :: rest) := rfl

theorem length_le_of_mem_between {sep : Token} {tss : List (List Token)} {ts : List Token}
    (h : ts ∈ tss) : ts.length ≤ (sep.between tss).length := by
  induction tss with
  | nil => cases h
  | cons us rest ih =>
    cases rest with
    | nil =>
      rw [List.mem_singleton.1 h]
      exact Nat.le_refl _
    | cons us' rest =>
      rw [Token.between_cons_cons, List.length_append, List.length_cons]
      rcases List.mem_cons.1 h with rfl | h
      · omega
      · have := ih h
        omega

theorem length_le_length_between (sep : Token) (tss : List (List Token)) :
    tss.length ≤ (sep.between tss).length + 1 := by
  induction tss with
  | nil => simp
  | cons ts rest ih =>
    cases rest with
    | nil => simp
    | cons ts' rest =>
      rw [Token.between_cons_cons, List.length_append, List.length_cons]
      simp only [List.length_cons] at ih ⊢
      omega

/-- What a chain takes: all items, each before the keyword or before what may follow all. -/
theorem readChain_reads {item : Reader Reading} {outer : List String} {keyword : String}
    {sep : Token} (hsep : sep.spells keyword = true) (houter : keyword ∉ outer)
    {tss : List (List Token)} {rs : List Reading}
    (h : List.Forall₂ (Reads item (keyword :: outer)) tss rs) (hsome : tss ≠ []) {n : Nat}
    (hn : tss.length ≤ n) : Reads (readChain item keyword n) outer (sep.between tss) rs := by
  intro rest hrest
  induction h generalizing n with
  | nil => exact absurd rfl hsome
  | @cons ts r tss rs hitem hmore ih =>
    obtain ⟨n, rfl⟩ := Nat.exists_eq_succ_of_ne_zero (Nat.ne_zero_of_lt hn)
    cases hmore with
    | nil =>
      -- What follows the last item is not the keyword, which would go on with the chain.
      have hlast := hitem rest (hrest.mono (List.subset_cons_self keyword outer))
      rw [Token.between, readChain, hlast]
      cases rest with
      | nil => rfl
      | cons t after =>
        have hother : t.spells keyword = false := by
          rcases hrest with rfl | ⟨w, hw, ht⟩
          · rfl
          · refine Bool.eq_false_iff.2 fun hkeyword => houter ?_
            rwa [Token.spells_unique hkeyword ht]
        simp [hother]
    | @cons ts' _ tss _ _ _ =>
      have hrests := ih (by simp) (Nat.le_of_succ_le_succ hn)
      have hfirst := hitem (sep :: (sep.between (ts' :: tss) ++ rest))
        (.inr ⟨keyword, List.mem_cons_self, hsep⟩)
      rw [Token.between_cons_cons, List.append_assoc, readChain, List.cons_append, hfirst]
      simp [hsep, hrests]

theorem readItems_reads {item : Reader Reading} {outer : List String} {keyword : String}
    {sep : Token} (hsep : sep.spells keyword = true) (houter : keyword ∉ outer)
    {tss : List (List Token)} {rs : List Reading}
    (h : List.Forall₂ (Reads item (keyword :: outer)) tss rs) (hsome : tss ≠ []) :
    Reads (readItems item keyword) outer (sep.between tss) rs := by
  intro rest hrest
  have hlength := length_le_length_between sep tss
  refine readChain_reads hsep houter h hsome ?_ rest hrest
  rw [List.length_append]
  omega

theorem readConjunction_reads {whole : Reader Reading} {tss : List (List Token)} {rs : List Reading}
    (h : List.Forall₂ (Reads (readNegated (readPrimary whole)) connectives) tss rs)
    (hsome : tss ≠ []) :
    Reads (readConjunction whole) ["OR"] (Token.between .and tss) (.joined .and rs) := by
  intro rest hrest
  rw [readConjunction, readItems_reads (by decide) (by decide) h hsome rest hrest]
  rfl

theorem readDisjunction_reads {depth : Nat} {tss : List (List Token)} {rs : List Reading}
    (h : List.Forall₂ (Reads (readConjunction (readDisjunction depth)) ["OR"]) tss rs)
    (hsome : tss ≠ []) :
    Reads (readDisjunction (depth + 1)) [] (Token.between .or tss) (.joined .or rs) := by
  intro rest hrest
  rw [readDisjunction, readItems_reads (by decide) (by decide) h hsome rest hrest]
  rfl

theorem parts_read {sep : Token} {tss : List (List Token)} {rs : List Reading}
    (h : List.Forall₂ ReadsPart tss rs) {depth : Nat}
    (hdepth : (sep.between tss).length ≤ depth) :
    List.Forall₂ (Reads (readNegated (readPrimary (readDisjunction depth))) connectives)
      tss rs := by
  have hlength : ∀ ts ∈ tss, ts.length ≤ depth :=
    fun ts hts => Nat.le_trans (length_le_of_mem_between hts) hdepth
  exact ((List.forall₂_and_left tss rs).2 ⟨hlength, h⟩).imp
    fun ts r ⟨hts, hpart⟩ => hpart depth hts

/-- Parts with AND between them are a whole condition. -/
theorem readsWhole_and {tss : List (List Token)} {rs : List Reading}
    (h : List.Forall₂ ReadsPart tss rs) (hsome : tss ≠ []) :
    ReadsWhole (Token.between .and tss) (.joined .and rs) := by
  intro depth hdepth
  obtain ⟨depth, rfl⟩ := Nat.exists_eq_succ_of_ne_zero (Nat.ne_zero_of_lt hdepth)
  have hparts := parts_read h (Nat.le_of_lt_succ hdepth)
  have hconjunction := readConjunction_reads hparts hsome
  exact @readDisjunction_reads depth [_] [_] (.cons hconjunction .nil) (by simp)

/-- Parts with OR between them are a whole condition. -/
theorem readsWhole_or {tss : List (List Token)} {rs : List Reading}
    (h : List.Forall₂ ReadsPart tss rs) (hsome : tss ≠ []) :
    ReadsWhole (Token.between .or tss) (.joined .or rs) := by
  intro depth hdepth
  obtain ⟨depth, rfl⟩ := Nat.exists_eq_succ_of_ne_zero (Nat.ne_zero_of_lt hdepth)
  refine readDisjunction_reads ?_ hsome
  refine (parts_read h (Nat.le_of_lt_succ hdepth)).imp fun ts r hpart => ?_
  exact @readConjunction_reads _ [ts] [r] (.cons hpart .nil) (by simp)

example : Dialect.generic.read
    (Glyph.signs "a = ? OR NOT b IS NULL AND c BETWEEN ? AND ?".toList)
    [.null, .bool false, .bool true] =
    some (.or [.atom (.compare .eq ⟨"a"⟩ (.literal .null)),
      .and [.not (.atom (.isNull ⟨"b"⟩ false)),
        .atom (.between ⟨"c"⟩ (.bool false) (.bool true) false)]]) := by rfl

/-- A part alone is a whole condition. -/
theorem ReadsPart.whole {ts : List Token} {r : Reading} (h : ReadsPart ts r) :
    ReadsWhole ts r :=
  @readsWhole_and [ts] [r] (.cons h .nil) (by simp)

theorem readPrimary_bracketed {ts : List Token} {r : Reading} (h : ReadsWhole ts r) {depth : Nat}
    (hdepth : ts.length < depth) (rest : List Token) :
    readPrimary (readDisjunction depth) (.opening :: ts ++ .closing :: rest) = some (r, rest) := by
  rw [List.cons_append, readPrimary, h depth hdepth (.closing :: rest) (.inl rfl)]
  rfl

/-- A whole condition in brackets is a part. -/
theorem ReadsWhole.bracketed {ts : List Token} {r : Reading} (h : ReadsWhole ts r) :
    ReadsPart (.opening :: ts ++ [.closing]) r := by
  intro depth hdepth rest _
  have hlength : ts.length < depth := by
    simp only [List.length_append, List.length_cons, List.length_nil] at hdepth
    omega
  rw [List.append_assoc, List.singleton_append]
  exact readPrimary_bracketed h hlength rest

/-- A negated condition in brackets is a part. -/
theorem ReadsWhole.negation {ts : List Token} {r : Reading} (h : ReadsWhole ts r) :
    ReadsPart (.not :: .opening :: ts ++ [.closing]) (.not r) := by
  intro depth hdepth rest hrest
  have hinner := h.bracketed depth
    (Nat.le_of_succ_le (by simpa using hdepth)) rest hrest
  have hspells : Token.not.spells "NOT" = true := by decide
  rw [List.cons_append, List.cons_append, List.cons_append, readNegated, hspells]
  exact congrArg (Option.bind · _) hinner

/-- An atom is a part, when neither a bracket nor NOT comes first. -/
theorem ReadsPart.of_atom {t : Token} {ts : List Token} {r : Reading} (hopening : t ≠ .opening)
    (hnot : t.spells "NOT" = false) (h : Reads readAtom connectives (t :: ts) r) :
    ReadsPart (t :: ts) r := by
  intro depth _ rest hrest
  have hatom := h rest hrest
  rw [List.cons_append] at hatom ⊢
  rw [readNegated, hnot, ← hatom]
  cases t with
  | opening => exact absurd rfl hopening
  | _ => rfl

/-! ### Names -/

theorem dotted_nameParts (cs : List Char) : Dialect.dotted (nameParts cs) = cs := by
  induction cs with
  | nil => rfl
  | cons c cs ih =>
    rw [nameParts]
    have hsome := nameParts_ne_nil cs
    split
    · next hdot =>
      obtain rfl := beq_iff_eq.1 hdot
      rw [Dialect.dotted]
      · rw [ih]
        rfl
      · exact hsome
    · cases hparts : nameParts cs with
      | nil => exact absurd hparts hsome
      | cons part more =>
        rw [hparts] at ih
        cases more with
        | nil => exact congrArg (c :: ·) ih
        | cons _ _ => exact congrArg (c :: ·) ih

section

variable {d : Dialect}

/-- A word that needs no quotes as a part of a name shapes no condition. -/
theorem not_keyword_of_standsBare {part : List Char} (h : d.standsBare part = true) :
    Token.keywords.contains (Token.capitals part) = false := by
  rcases Bool.or_eq_true_iff.1 h with hstar | hplain
  · rw [beq_iff_eq.1 hstar]
    decide
  · have hreserved := (Bool.and_eq_true_iff.1 hplain).2
    have hcommon : ∀ w ∈ Token.keywords, w ∈ Dialect.commonReserved := by decide
    refine Bool.eq_false_iff.2 fun hkeyword => ?_
    have hmem := hcommon _ (List.contains_iff_mem.1 hkeyword)
    have hword : d.isReserved part = true :=
      Bool.or_eq_true_iff.2 (.inl (List.contains_iff_mem.2 hmem))
    rw [hword] at hreserved
    cases hreserved

theorem namePart?_partToken {part : List Char} (hline : '\n' ∉ part) :
    (d.partToken part).namePart? = some part := by
  unfold Dialect.partToken
  split
  · next hbare =>
    rw [Token.namePart?, if_pos]
    rw [not_keyword_of_standsBare hbare, Bool.not_false, Bool.and_true]
    rcases Bool.or_eq_true_iff.1 hbare with hstar | hplain
    · rw [hstar, Bool.true_or]
    · rw [isWord_of_isPlain (Bool.and_eq_true_iff.1 hplain).1 hline, Bool.or_true]
  · rfl

theorem partToken_eq (part : List Char) :
    d.partToken part = .word part ∨ d.partToken part = .quoted part := by
  unfold Dialect.partToken
  split
  · exact .inl rfl
  · exact .inr rfl

theorem partToken_ne {t : Token} (hword : ∀ cs, .word cs ≠ t) (hquoted : ∀ cs, .quoted cs ≠ t)
    (part : List Char) : d.partToken part ≠ t := by
  rcases @partToken_eq d part with h | h <;> rw [h]
  · exact hword part
  · exact hquoted part

theorem partToken_not (part : List Char) : (d.partToken part).spells "NOT" = false := by
  unfold Dialect.partToken
  split
  · next hbare =>
    refine Bool.eq_false_iff.2 fun hnot => ?_
    have hkeyword := not_keyword_of_standsBare hbare
    rw [beq_iff_eq.1 hnot] at hkeyword
    cases hkeyword
  · rfl

/-- A name is read as its column, where no dot follows. -/
theorem readName_nameTokens {name : String} (hline : '\n' ∉ name.toList) {rest : List Token}
    (hrest : ∀ after, rest ≠ .dot :: after) :
    readName (d.nameTokens name ++ rest) = some (⟨name⟩, rest) := by
  have hparts : ∀ part ∈ nameParts name.toList, '\n' ∉ part :=
    fun part hpart hmem => hline (mem_of_mem_nameParts hpart hmem)
  have hall : readParts (d.nameTokens name ++ rest) = some (nameParts name.toList, rest) := by
    have hsome := nameParts_ne_nil name.toList
    rw [Dialect.nameTokens]
    generalize nameParts name.toList = parts at hparts hsome
    induction parts with
    | nil => exact absurd rfl hsome
    | cons part more ih =>
      have hpart := @namePart?_partToken d part (hparts part List.mem_cons_self)
      cases more with
      | nil =>
        rw [Dialect.partTokens, List.singleton_append, readParts]
        · rw [hpart]
          rfl
        · exact fun after hafter => absurd hafter (hrest after)
      | cons part' more =>
        have hmore := ih (fun p hp => hparts p (List.mem_cons_of_mem part hp))
          (List.cons_ne_nil part' more)
        rw [Dialect.partTokens, List.cons_append, List.cons_append, readParts, hpart, hmore]
        · rfl
        · simp
  rw [readName, hall]
  simp only [bind, Option.bind, dotted_nameParts, String.ofList_toList, pure]

/-- A name begins with one of its parts. -/
theorem nameTokens_eq_cons (name : String) :
    ∃ part more, d.nameTokens name = d.partToken part :: more := by
  have hsome := nameParts_ne_nil name.toList
  rw [Dialect.nameTokens]
  cases hparts : nameParts name.toList with
  | nil => exact absurd hparts hsome
  | cons part more =>
    cases more with
    | nil => exact ⟨part, [], by rw [Dialect.partTokens]⟩
    | cons part' more =>
      refine ⟨part, .dot :: d.partTokens (part' :: more), ?_⟩
      rw [Dialect.partTokens]
      exact List.cons_ne_nil part' more

theorem Stops.ne {words : List String} {t : Token} {rest : List Token}
    (h : Stops words (t :: rest)) : t ≠ .dot ∧ ∀ v, t ≠ .value v := by
  rcases h with rfl | ⟨w, -, ht⟩
  · exact ⟨Token.noConfusion, fun _ => Token.noConfusion⟩
  · cases t with
    | word cs => exact ⟨Token.noConfusion, fun _ => Token.noConfusion⟩
    | _ => cases ht

/-! ### Tests -/

/-- An operand as tokens. -/
def Dialect.operandTokens (d : Dialect) : Operand → List Token
  | .literal v => [.value v]
  | .column column => d.nameTokens column.name

theorem readOperand_reads {right : Operand}
    (hline : ∀ column, right = .column column → '\n' ∉ column.name.toList) :
    Reads readOperand connectives (d.operandTokens right) right := by
  intro rest hrest
  cases right with
  | literal v => rfl
  | column column =>
    have hname := @readName_nameTokens d column.name (hline column rfl) rest
      fun after hafter => (Stops.ne (hafter ▸ hrest)).1 rfl
    obtain ⟨part, more, htokens⟩ := @nameTokens_eq_cons d column.name
    rw [Dialect.operandTokens]
    rw [htokens, List.cons_append] at hname ⊢
    rw [readOperand, hname]
    · rfl
    · intro v after hvalue
      exact partToken_ne (fun _ => Token.noConfusion) (fun _ => Token.noConfusion) part
        (List.cons.inj hvalue).1

theorem readComparison_reads (op : Comparison) (left : Column) {right : Operand}
    (hline : ∀ column, right = .column column → '\n' ∉ column.name.toList) :
    Reads (readComparison op left) connectives (d.operandTokens right)
      (.compare op left right) := by
  intro rest hrest
  rw [readComparison, readOperand_reads hline rest hrest]
  rfl

theorem readTest_comparison (op : Comparison) (left : Column) {right : Operand}
    (hline : ∀ column, right = .column column → '\n' ∉ column.name.toList) :
    Reads (readTest left) connectives (op.tokens ++ d.operandTokens right)
      (.compare op left right) := by
  intro rest hrest
  have hright := readComparison_reads (d := d) op left hline rest hrest
  cases op with
  | _ => exact hright

/-- The tokens of a NOT that may be there. -/
def Token.sign (negated : Bool) : List Token := if negated then [.not] else []

theorem readSigned_reads {α : Type} {reader : Bool → Reader α} {words : List String} {t : Token}
    {ts : List Token} {a : α} {negated : Bool} (hnot : t.spells "NOT" = false)
    (h : Reads (reader negated) words (t :: ts) a) :
    Reads (readSigned reader) words (Token.sign negated ++ t :: ts) a := by
  intro rest hrest
  have hreader := h rest hrest
  cases negated with
  | false =>
    rw [List.cons_append] at hreader
    simp only [Token.sign, Bool.false_eq_true, if_false, List.nil_append, List.cons_append,
      readSigned, hnot, hreader]
  | true => exact hreader

/-- A test after a name is a part. -/
theorem ReadsPart.of_test {name : String} (hline : '\n' ∉ name.toList) {ts : List Token}
    {c : Condition} (hts : ∃ t more, ts = t :: more ∧ t ≠ .dot)
    (h : Reads (readTest ⟨name⟩) connectives ts c) :
    ReadsPart (d.nameTokens name ++ ts) (.atom c) := by
  obtain ⟨part, more, htokens⟩ := @nameTokens_eq_cons d name
  have hatom : Reads readAtom connectives (d.nameTokens name ++ ts) (.atom c) := by
    intro rest hrest
    have hname : readName (d.nameTokens name ++ (ts ++ rest)) = some (⟨name⟩, ts ++ rest) := by
      obtain ⟨t, after, rfl, hdot⟩ := hts
      exact readName_nameTokens hline fun _ hafter => hdot (List.cons.inj hafter).1
    rw [List.append_assoc]
    rw [htokens, List.cons_append] at hname ⊢
    rw [readAtom, hname]
    · simp only [h rest hrest]
      rfl
    · intro s after hwritten
      exact partToken_ne (fun _ => Token.noConfusion) (fun _ => Token.noConfusion) part
        (List.cons.inj hwritten).1
  rw [htokens, List.cons_append] at hatom ⊢
  exact .of_atom (partToken_ne (fun _ => Token.noConfusion) (fun _ => Token.noConfusion) part)
    (partToken_not part) hatom

theorem readTest_nullity (column : Column) (negated : Bool) :
    Reads (readTest column) connectives (.word ['I', 'S'] :: (Token.sign negated ++ [.null]))
      (.isNull column negated) := by
  intro rest hrest
  have hnull : Reads (readNull column negated) connectives [.null] (.isNull column negated) :=
    fun _ _ => rfl
  exact readSigned_reads (by decide) hnull rest hrest

/-- A test that may be negated is read after its column. -/
theorem readTest_range {column : Column} {negated : Bool} {t : Token} {ts : List Token}
    {c : Condition} (ht : ∃ w ∈ ["LIKE", "BETWEEN", "IN"], t.spells w = true)
    (h : Reads (readRange column negated) connectives (t :: ts) c) :
    Reads (readTest column) connectives (Token.sign negated ++ t :: ts) c := by
  intro rest hrest
  obtain ⟨w, hw, ht⟩ := ht
  have hother : ∀ v ∈ ["NOT", "IS", "ILIKE"], t.spells v = false := by
    have hapart : ∀ w ∈ ["LIKE", "BETWEEN", "IN"], w ∉ ["NOT", "IS", "ILIKE"] := by decide
    refine fun v hv => Bool.eq_false_iff.2 fun hspells => hapart w hw ?_
    rwa [Token.spells_unique ht hspells]
  have hsigned := readSigned_reads (hother "NOT" (by simp)) h rest hrest
  cases negated with
  | true => exact hsigned
  | false =>
    cases t with
    | word cs =>
      refine Eq.trans ?_ hsigned
      simp only [Token.sign, Bool.false_eq_true, if_false, List.nil_append, List.cons_append,
        readTest, hother "IS" (by simp), hother "ILIKE" (by simp)]
    | _ => cases ht

theorem readTest_between (column : Column) (low high : Value) (negated : Bool) :
    Reads (readTest column) connectives
      (Token.sign negated ++
        [.word ['B', 'E', 'T', 'W', 'E', 'E', 'N'], .value low, .and, .value high])
      (.between column low high negated) :=
  readTest_range ⟨"BETWEEN", by simp, by decide⟩ fun _ _ => rfl

/-- Members of a set as tokens. -/
def Token.members (vs : List Value) : List Token :=
  Token.between .comma (vs.map fun v => [.value v])

theorem readValues_members {vs : List Value} (hvs : vs ≠ []) (rest : List Token) :
    readValues (Token.members vs ++ .closing :: rest) = some (vs, rest) := by
  induction vs with
  | nil => exact absurd rfl hvs
  | cons v vs ih =>
    cases vs with
    | nil => rfl
    | cons v' vs =>
      have hmore := ih (List.cons_ne_nil v' vs)
      exact congrArg (Option.bind · fun r => some (v :: r.1, r.2)) hmore

theorem readTest_members {column : Column} {vs : List Value} (hvs : vs ≠ []) (negated : Bool) :
    Reads (readTest column) connectives
      (Token.sign negated ++ .word ['I', 'N'] :: .opening :: (Token.members vs ++ [.closing]))
      (.inSet column vs negated) := by
  refine readTest_range ⟨"IN", by simp, by decide⟩ fun rest _ => ?_
  have hmembers : readMembers column negated
      (.opening :: (Token.members vs ++ .closing :: rest)) =
        some (.inSet column vs negated, rest) := by
    rw [readMembers, readValues_members hvs]
    rfl
  rw [List.cons_append, List.cons_append, List.append_assoc]
  exact hmembers

/-! ### Constants and hand-written fragments -/

theorem readsPart_constant (b : Bool) :
    ReadsPart [.word ['1'], .symbol ['='], .word [if b then '1' else '0']] (.constant b) := by
  refine .of_atom Token.noConfusion (by decide) fun rest _ => ?_
  cases b <;> rfl

/-- The pieces of a fragment as tokens, with values between them. -/
def Token.woven : List String → List Value → List Token
  | [], _ => []
  | p :: _, [] => [.written p]
  | p :: ps, v :: vs => .written p :: .value v :: woven ps vs

/-- The pieces after the first one are read with the values before them. -/
theorem readPieces_woven {piece : List Char} {more : List (List Char)} {vs : List Value}
    (hcount : more.length = vs.length) :
    ∃ ts,
      Token.woven ((piece :: more).map String.ofList) vs = .written (String.ofList piece) :: ts ∧
      ∀ rest, (∀ v after, rest ≠ .value v :: after) →
        readPieces (ts ++ rest) = (more, vs, rest) := by
  induction more generalizing piece vs with
  | nil =>
    obtain rfl := List.length_eq_zero_iff.1 hcount.symm
    refine ⟨[], rfl, fun rest hrest => ?_⟩
    rw [List.nil_append, readPieces]
    exact fun v s after hafter => hrest v _ hafter
  | cons next more ih =>
    cases vs with
    | nil => simp at hcount
    | cons v vs =>
      obtain ⟨ts, hwoven, hpieces⟩ := @ih next vs (by simpa using hcount)
      refine ⟨.value v :: .written (String.ofList next) :: ts, ?_, fun rest hrest => ?_⟩
      · rw [← hwoven]
        rfl
      · rw [List.cons_append, List.cons_append, readPieces, hpieces rest hrest,
          String.toList_ofList]

/-- A hand-written fragment with its values is an atom. -/
theorem readsPart_raw {text : String} {vs : List Value}
    (hcount : (splitMarkers text).length - 1 = vs.length) :
    ReadsPart (Token.woven (splitMarkers text) vs) (.atom (.raw text vs)) := by
  obtain ⟨piece, more, hsplit, hrejoin, -⟩ := exists_pieces text
  rw [hsplit] at hcount ⊢
  obtain ⟨ts, hwoven, hpieces⟩ := @readPieces_woven piece more vs (by simpa using hcount)
  rw [hwoven]
  refine .of_atom Token.noConfusion rfl fun rest hrest => ?_
  have hrest' := hpieces rest fun v after hafter => (Stops.ne (hafter ▸ hrest)).2 v rfl
  rw [List.cons_append, readAtom]
  simp only [hrest', String.toList_ofList, hrejoin, String.ofList_toList]

end

end SqlGateway
