import SqlGateway.Dialect.Render
import SqlGateway.Proofs.Query.Built
set_option autoImplicit false

/-!
# Dialects: what fragments a statement is rendered to

Rendering adds only words of its own, which hold no quotes, question marks or percent
signs.  Everything else is a name, a piece of a hand-written fragment of the statement, or a
bound value; and the values of a well-formed statement are its literals, in order.  There is
one lemma per rendering function.
-/

namespace SqlGateway

/-- The error is that the values of a statement and its text disagree. -/
def QueryError.AboutBinds (e : QueryError) : Prop :=
  (∃ found binds, e = .invalid (.placeholders found binds)) ∨
    ∃ markers binds, e = .invalid (.sqlBinds markers binds)

/-! ## Fragments and where they are from -/

namespace Fragment

/-- The character opens no quotes and belongs to no placeholder. -/
def isPlainChar (c : Char) : Bool := !Query.isQuote c && c != '?' && c != '%'

/-- The text has plain characters only. -/
def isPlainText (s : String) : Bool := s.toList.all isPlainChar

/-- The fragment holds words of the dialect, a name, a value, or a piece of one of the given
hand-written texts. -/
def From (texts : List String) : Fragment → Prop
  | .words s => isPlainText s = true
  | .written piece => ∃ text ∈ texts, piece ∈ Query.splitMarkers text
  | .name _ | .bind _ => True

/-- Fragments come from the given texts, and their values, where they are known, are the
given ones. -/
structure Rendered (texts : List String) (known : Prop) (values : List Value)
    (fs : List Fragment) : Prop where
  origin : ∀ f ∈ fs, f.From texts
  binds : known → binds fs = values

@[simp] theorem binds_nil : binds [] = [] := rfl

@[simp] theorem binds_words (s : String) (fs : List Fragment) :
    binds (.words s :: fs) = binds fs := rfl

@[simp] theorem binds_name (n : String) (fs : List Fragment) :
    binds (.name n :: fs) = binds fs := rfl

@[simp] theorem binds_bind (v : Value) (fs : List Fragment) :
    binds (.bind v :: fs) = v :: binds fs := rfl

@[simp] theorem binds_written (t : String) (fs : List Fragment) :
    binds (.written t :: fs) = binds fs := rfl

theorem binds_append (fs gs : List Fragment) : binds (fs ++ gs) = binds fs ++ binds gs := by
  simp [binds]

variable {texts : List String} {known : Prop} {vs ws : List Value} {fs gs : List Fragment}

namespace Rendered

theorem nil : Rendered texts known [] [] := ⟨by simp, fun _ => rfl⟩

theorem words {s : String} (h : isPlainText s = true) :
    Rendered texts known [] [.words s] :=
  ⟨fun f hf => by cases List.mem_singleton.1 hf; exact h, fun _ => rfl⟩

theorem name (n : String) : Rendered texts known [] [.name n] :=
  ⟨fun f hf => by cases List.mem_singleton.1 hf; trivial, fun _ => rfl⟩

theorem bind (v : Value) : Rendered texts known [v] [.bind v] :=
  ⟨fun f hf => by cases List.mem_singleton.1 hf; trivial, fun _ => rfl⟩

theorem append (h : Rendered texts known vs fs) (k : Rendered texts known ws gs) :
    Rendered texts known (vs ++ ws) (fs ++ gs) where
  origin f hf := (List.mem_append.1 hf).elim (h.origin f) (k.origin f)
  binds hknown := by rw [binds_append, h.binds hknown, k.binds hknown]

theorem cons_words {s : String} (hs : isPlainText s = true) (h : Rendered texts known vs fs) :
    Rendered texts known vs (.words s :: fs) :=
  (words hs).append h

theorem cons_name (n : String) (h : Rendered texts known vs fs) :
    Rendered texts known vs (.name n :: fs) :=
  (name n).append h

theorem cons_bind (v : Value) (h : Rendered texts known vs fs) :
    Rendered texts known (v :: vs) (.bind v :: fs) :=
  (bind v).append h

theorem mono {texts' : List String} {known' : Prop} (h : Rendered texts known vs fs)
    (htexts : ∀ t ∈ texts, t ∈ texts') (hknown : known' → known ∧ ws = vs) :
    Rendered texts' known' ws fs where
  origin f hf := by
    have hfrom := h.origin f hf
    cases f with
    | written p =>
      obtain ⟨t, ht, hp⟩ := hfrom
      exact ⟨t, htexts t ht, hp⟩
    | _ => exact hfrom
  binds hk := by
    obtain ⟨hknown, hvalues⟩ := hknown hk
    rw [hvalues, h.binds hknown]

/-- Words between groups change nothing. -/
theorem joinWith {separator : String} (hs : isPlainText separator = true)
    {groups : List (List Fragment)} (h : Rendered texts known vs groups.flatten) :
    Rendered texts known vs (joinWith separator groups) := by
  induction groups generalizing vs with
  | nil => exact h
  | cons g rest ih =>
    cases rest with
    | nil => simpa [Fragment.joinWith] using h
    | cons g' rest =>
      have hfirst : Rendered texts known (Fragment.binds g) g :=
        ⟨fun f hf => h.origin f (List.mem_append_left _ hf), fun _ => rfl⟩
      have hrest : Rendered texts known (Fragment.binds (g' :: rest).flatten)
          (g' :: rest).flatten :=
        ⟨fun f hf => h.origin f (List.mem_append_right _ hf), fun _ => rfl⟩
      have hall := hfirst.append (cons_words hs (ih hrest))
      refine ⟨hall.origin, fun hknown => ?_⟩
      rw [← h.binds hknown, List.flatten_cons, binds_append]
      exact hall.binds hknown

theorem bracketed (h : Rendered texts known vs fs) :
    Rendered texts known vs (bracketed fs) := by
  have hclose : Rendered texts known (vs ++ []) (fs ++ [.words ")"]) := h.append (words rfl)
  rw [List.append_nil] at hclose
  exact cons_words rfl hclose

theorem names (cs : List Column) : Rendered texts known [] (names cs) := by
  refine joinWith rfl ?_
  induction cs with
  | nil => exact nil
  | cons c cs ih => exact ih.cons_name c.name

theorem values (vs : List Value) : Rendered texts known vs (Fragment.values vs) := by
  refine joinWith rfl ?_
  induction vs with
  | nil => exact nil
  | cons v vs ih => exact ih.cons_bind v

end Rendered

end Fragment

open Fragment

namespace Dialect

variable {d : Dialect}

/-! ## Conditions -/

theorem weave_cons (piece next : List Char) (more : List (List Char)) (v : Value)
    (vs : List Value) :
    weave ((piece :: next :: more).map String.ofList) (v :: vs) =
      .written (String.ofList piece) :: .bind v ::
        weave ((next :: more).map String.ofList) vs := rfl

theorem weave_singleton (piece : List Char) :
    weave ([piece].map String.ofList) [] = [.written (String.ofList piece)] := rfl

/-- A fragment whose markers match its values is woven from its pieces and all of them. -/
theorem weave_rendered {known : Prop} {texts pieces : List String} {vs : List Value}
    (htexts : ∀ p ∈ pieces, ∃ text ∈ texts, p ∈ Query.splitMarkers text)
    (hcount : pieces.length - 1 = vs.length) : Rendered texts known vs (weave pieces vs) := by
  induction pieces generalizing vs with
  | nil =>
    cases List.length_eq_zero_iff.1 hcount.symm
    exact .nil
  | cons p ps ih =>
    have hfirst : Rendered texts known [] [Fragment.written p] :=
      ⟨fun f hf => by cases List.mem_singleton.1 hf; exact htexts p List.mem_cons_self,
        fun _ => rfl⟩
    cases vs with
    | nil => exact hfirst
    | cons v vs =>
      have hrest := @ih vs (fun q hq => htexts q (List.mem_cons_of_mem p hq))
        (by simp only [List.length_cons] at hcount; omega)
      exact hfirst.append (hrest.cons_bind v)

theorem weave_splitMarkers_rendered {known : Prop} {text : String} {vs : List Value}
    (hcount : (Query.splitMarkers text).length - 1 = vs.length) :
    Rendered [text] known vs (weave (Query.splitMarkers text) vs) :=
  weave_rendered (fun _ hp => ⟨text, List.mem_singleton_self text, hp⟩) hcount

theorem raw_eq_ok {text : String} {vs : List Value} {fs : List Fragment}
    (h : raw text vs = .ok fs) :
    (Query.splitMarkers text).length - 1 = vs.length ∧
      fs = weave (Query.splitMarkers text) vs := by
  unfold raw at h
  dsimp only at h
  split at h
  · cases h
  · next hcount => cases h; exact ⟨Decidable.not_not.1 hcount, rfl⟩

theorem raw_of_count {text : String} {vs : List Value}
    (h : (Query.splitMarkers text).length - 1 = vs.length) :
    raw text vs = .ok (weave (Query.splitMarkers text) vs) := by
  simp [raw, h]

theorem condition_single {nested : Bool} {op : Connective} (hop : op ≠ .not) (c : Condition) :
    d.condition nested (.logical op [c]) = d.condition nested c := by
  rw [condition]
  exact hop

theorem condition_junction {nested : Bool} {op : Connective} (hop : op ≠ .not)
    {cs : List Condition} (hcs : ∀ c, cs ≠ [c]) :
    d.condition nested (.logical op cs) = (do
      let parts ← d.conditions cs
      let joined := joinWith (" " ++ op.keyword ++ " ") parts
      return if nested then bracketed joined else joined) := by
  rw [condition]
  · exact fun h _ => hop h
  · exact fun _ _ h _ => hop h
  · exact hcs

/-- The outcome of rendering: fragments from the given texts, with the given values where the
part is well formed.  An error in a well-formed part is not about its values. -/
def Renders (texts : List String) (known : Prop) (vs : List Value) :
    Except QueryError (List Fragment) → Prop :=
  Gives (fun e => known → ¬ e.AboutBinds) (Rendered texts known vs)

/-- The outcome of rendering to groups of fragments. -/
def RendersGroups (texts : List String) (known : Prop) (vs : List Value) :
    Except QueryError (List (List Fragment)) → Prop :=
  Gives (fun e => known → ¬ e.AboutBinds) fun gs => Rendered texts known vs gs.flatten

theorem Renders.mono {texts texts' : List String} {known known' : Prop} {vs vs' : List Value}
    {x : Except QueryError (List Fragment)} (h : Renders texts known vs x)
    (htexts : ∀ t ∈ texts, t ∈ texts') (hknown : known' → known ∧ vs' = vs) :
    Renders texts' known' vs' x :=
  Gives.mono h (fun _ he hk => he (hknown hk).1) fun _ hfs => hfs.mono htexts hknown

theorem RendersGroups.mono {texts texts' : List String} {known known' : Prop}
    {vs vs' : List Value} {x : Except QueryError (List (List Fragment))}
    (h : RendersGroups texts known vs x) (htexts : ∀ t ∈ texts, t ∈ texts')
    (hknown : known' → known ∧ vs' = vs) : RendersGroups texts' known' vs' x :=
  Gives.mono h (fun _ he hk => he (hknown hk).1) fun _ hgs => hgs.mono htexts hknown

theorem not_aboutBinds_lacks {known : Prop} {construct : String} :
    known → ¬ (QueryError.unsupported d.name construct).AboutBinds := by
  rintro - (⟨_, _, h⟩ | ⟨_, _, h⟩) <;> cases h

theorem isPlainText_comparison (op : Comparison) :
    isPlainText (" " ++ op.symbol ++ " ") = true := by
  cases op <;> rfl

theorem isPlainText_connective (op : Connective) :
    isPlainText (" " ++ op.keyword ++ " ") = true := by
  cases op <;> rfl

theorem operand_rendered {texts : List String} {known : Prop} (op : Comparison) (left : Column)
    (right : Operand) :
    Rendered texts known (Condition.literals (.compare op left right)) [operand right] := by
  cases right with
  | literal v => exact .bind v
  | column c => exact .name c.name

theorem raw_renders (text : String) (vs : List Value) :
    Renders [text] (Condition.WellFormed (.raw text vs)) vs (raw text vs) := by
  by_cases hcount : (Query.splitMarkers text).length - 1 = vs.length
  · rw [raw_of_count hcount]
    exact .ok (weave_splitMarkers_rendered hcount)
  · rw [raw, if_pos hcount]
    refine .error ?_
    rintro ⟨⟩
    contradiction

/-- The condition is rendered from its own fragments, and well formed, to its literals. -/
def RendersOwn (d : Dialect) (nested : Bool) (c : Condition) : Prop :=
  Renders c.writtenTexts c.WellFormed c.literals (d.condition nested c)

/-- The children of a connective are rendered so, each to its group. -/
def RendersChildren (d : Dialect) (cs : List Condition) : Prop :=
  RendersGroups (cs.flatMap Condition.writtenTexts) (∀ c ∈ cs, c.WellFormed)
    (cs.flatMap Condition.literals) (d.conditions cs)

theorem compare_renders (nested : Bool) (op : Comparison) (left : Column) (right : Operand) :
    d.RendersOwn nested (.compare op left right) := by
  rw [RendersOwn, condition]
  split
  · exact .error not_aboutBinds_lacks
  · exact .ok <| (operand_rendered op left right).cons_words (isPlainText_comparison op)
      |>.cons_name left.name

theorem between_renders (nested : Bool) (column : Column) (low high : Value) (negated : Bool) :
    d.RendersOwn nested (.between column low high negated) := by
  have hwords : isPlainText (if negated then " NOT BETWEEN " else " BETWEEN ") = true := by
    cases negated <;> rfl
  rw [RendersOwn, condition]
  exact .ok <| (((Rendered.bind high).cons_words rfl).cons_bind low).cons_words hwords
    |>.cons_name column.name

theorem inSet_renders (nested : Bool) (column : Column) (members : List Value) (negated : Bool) :
    d.RendersOwn nested (.inSet column members negated) := by
  cases members with
  | nil =>
    rw [RendersOwn, condition]
    cases negated <;> exact .ok (Rendered.words rfl)
  | cons v vs =>
    have hwords : isPlainText (if negated then " NOT IN " else " IN ") = true := by
      cases negated <;> rfl
    rw [RendersOwn, condition, Condition.literals_inSet]
    · exact .ok (((Rendered.values (v :: vs)).bracketed.cons_words hwords).cons_name column.name)
    · exact List.cons_ne_nil v vs

theorem isNull_renders (nested : Bool) (column : Column) (negated : Bool) :
    d.RendersOwn nested (.isNull column negated) := by
  have hwords : isPlainText (if negated then " IS NOT NULL" else " IS NULL") = true := by
    cases negated <;> rfl
  rw [RendersOwn, condition]
  exact .ok ((Rendered.words hwords).cons_name column.name)

theorem written_renders (nested : Bool) (text : String) (vs : List Value) :
    d.RendersOwn nested (.raw text vs) := by
  rw [RendersOwn, condition, Condition.literals_raw]
  refine (raw_renders text vs).bind fun fs hfs => ?_
  cases nested with
  | false => exact .ok hfs
  | true => exact .ok hfs.bracketed

/-- Of a negation only the first child is rendered; well formed, it has no other. -/
theorem negation_renders (nested : Bool) {c : Condition} (tail : List Condition)
    (h : d.RendersOwn false c) : d.RendersOwn nested (.logical .not (c :: tail)) := by
  have hpart : Renders (Condition.logical .not (c :: tail)).writtenTexts
      (Condition.logical .not (c :: tail)).WellFormed
      (Condition.logical .not (c :: tail)).literals (d.condition false c) := by
    refine Renders.mono h (fun t ht => ?_) fun hknown => ?_
    · rw [Condition.writtenTexts_logical]
      exact List.mem_flatMap_of_mem List.mem_cons_self ht
    · cases hknown with
      | negation h => exact ⟨h, by simp [Condition.literals_logical]⟩
      | junction hop => exact absurd rfl hop
  rw [RendersOwn, condition]
  exact hpart.bind fun fs hfs => .ok (hfs.bracketed.cons_words rfl)

theorem single_renders {nested : Bool} {op : Connective} (hop : op ≠ .not) {c : Condition}
    (h : d.RendersOwn nested c) : d.RendersOwn nested (.logical op [c]) := by
  rw [RendersOwn, condition_single hop]
  refine Renders.mono h (fun t ht => ?_) fun hknown => ?_
  · rw [Condition.writtenTexts_logical]
    exact List.mem_flatMap_of_mem List.mem_cons_self ht
  · exact ⟨hknown.children c List.mem_cons_self, by simp [Condition.literals_logical]⟩

theorem junction_renders (nested : Bool) {op : Connective} (hop : op ≠ .not)
    {cs : List Condition} (hcs : ∀ c, cs ≠ [c]) (h : d.RendersChildren cs) :
    d.RendersOwn nested (.logical op cs) := by
  have hparts : RendersGroups (Condition.logical op cs).writtenTexts
      (Condition.logical op cs).WellFormed (Condition.logical op cs).literals
      (d.conditions cs) := by
    rw [Condition.writtenTexts_logical, Condition.literals_logical]
    exact RendersGroups.mono h (fun t ht => ht) fun hknown => ⟨hknown.children, rfl⟩
  rw [RendersOwn, condition_junction hop hcs]
  refine hparts.bind fun gs hgs => ?_
  have hjoined := hgs.joinWith (isPlainText_connective op)
  cases nested with
  | false => exact .ok hjoined
  | true => exact .ok hjoined.bracketed

theorem children_render {c : Condition} {cs : List Condition} (hfirst : d.RendersOwn true c)
    (hrest : d.RendersChildren cs) : d.RendersChildren (c :: cs) := by
  have hone : Renders ((c :: cs).flatMap Condition.writtenTexts)
      (∀ e ∈ c :: cs, e.WellFormed) c.literals (d.condition true c) :=
    Renders.mono hfirst (fun t ht => List.mem_flatMap_of_mem List.mem_cons_self ht)
      fun h => ⟨h c List.mem_cons_self, rfl⟩
  have hmore : RendersGroups ((c :: cs).flatMap Condition.writtenTexts)
      (∀ e ∈ c :: cs, e.WellFormed) (cs.flatMap Condition.literals) (d.conditions cs) :=
    RendersGroups.mono hrest (fun t ht => List.mem_append_right _ ht)
      fun h => ⟨fun x hx => h x (List.mem_cons_of_mem c hx), rfl⟩
  rw [RendersChildren, conditions, List.flatMap_cons (f := Condition.literals)]
  exact hone.bind fun g hg => hmore.bind fun gs hgs => .ok (hg.append hgs)

/-- By recursion on the rendering: a part is bracketed or joined without new values. -/
theorem condition_renders (nested : Bool) (c : Condition) : d.RendersOwn nested c := by
  refine condition.induct d (d.RendersOwn) (d.RendersChildren)
    ?lacking ?comparison ?idle ?negation ?single ?junction ?between ?empty ?members ?null ?raw
    ?stray ?nil ?cons nested c
  case lacking => exact fun nested op left right _ => compare_renders nested op left right
  case comparison => exact fun nested op left right _ => compare_renders nested op left right
  case idle =>
    intro nested
    refine .error fun hidle => ?_
    cases hidle with
    | junction hop => exact absurd rfl hop
  case negation => exact fun nested c tail ih => negation_renders nested tail ih
  case single => exact fun nested op c hop ih => single_renders hop ih
  case junction =>
    intro nested op children hidle hnot hsingle ih
    have hop : op ≠ .not := by
      rintro rfl
      cases children with
      | nil => exact hidle rfl rfl
      | cons c tail => exact hnot c tail rfl rfl
    exact junction_renders nested hop hsingle ih
  case between => exact fun nested column low high => between_renders nested column low high
  case empty => exact fun nested column => inSet_renders nested column []
  case members =>
    exact fun nested column members negated _ => inSet_renders nested column members negated
  case null => exact fun nested column => isNull_renders nested column
  case raw => exact fun nested text => written_renders nested text
  case stray =>
    intro nested n
    refine .error ?_
    rintro ⟨⟩
  case nil => exact .ok Rendered.nil
  case cons => exact fun c cs hfirst hrest => children_render hfirst hrest

/-! ## Clauses -/

theorem isPlainText_append {s t : String} (hs : isPlainText s = true)
    (ht : isPlainText t = true) : isPlainText (s ++ t) = true := by
  rw [isPlainText, String.toList_append, List.all_append]
  exact Bool.and_eq_true_iff.2 ⟨hs, ht⟩

variable {texts : List String} {known : Prop}

/-- Rendering each member of a list gives as many groups. -/
theorem mapM_renders {α : Type} {f : α → Except QueryError (List Fragment)}
    {vs : α → List Value} {as : List α}
    (h : ∀ a ∈ as, Renders texts known (vs a) (f a)) :
    RendersGroups texts known (as.flatMap vs) (as.mapM f) := by
  induction as with
  | nil => exact .ok Rendered.nil
  | cons a as ih =>
    rw [List.mapM_cons, List.flatMap_cons]
    refine (h a List.mem_cons_self).bind fun g hg => ?_
    exact (ih fun b hb => h b (List.mem_cons_of_mem a hb)).bind fun gs hgs => .ok (hg.append hgs)

theorem clause_renders {keyword : String} (hkeyword : isPlainText (keyword ++ " ") = true)
    {o : Option Condition} (htexts : ∀ c ∈ o, ∀ t ∈ c.writtenTexts, t ∈ texts)
    (hknown : known → ∀ c ∈ o, c.WellFormed) :
    RendersGroups texts known (o.toList.flatMap Condition.literals) (d.clause keyword o) := by
  cases o with
  | none => exact .ok Rendered.nil
  | some c =>
    have hcondition : Renders texts known c.literals (d.condition false c) :=
      (condition_renders false c).mono (htexts c rfl) fun h => ⟨hknown h c rfl, rfl⟩
    rw [clause]
    refine hcondition.bind fun fs hfs => .ok ?_
    have hclause := hfs.cons_words hkeyword
    simpa using hclause

theorem make_int64_eq_ok {n : Nat} {v : Value} (h : Value.make .int64 (.int n) = .ok v) :
    v = Select.rowLiteral n := by
  rw [Select.rowLiteral]
  simp only [Value.make] at h
  generalize inInt64 n = b at h
  cases b with
  | true => exact (Except.ok.inj h).symm
  | false => simp at h

/-- A number of rows is a signed word, or too large. -/
theorem rowCount_gives (n : Nat) :
    Gives (fun e => known → ¬ e.AboutBinds) (fun f => f = .bind (Select.rowLiteral n))
      (rowCount n) := by
  unfold rowCount
  generalize hx : Value.make .int64 (.int n) = x
  cases x with
  | ok v =>
    rw [make_int64_eq_ok hx]
    exact .ok rfl
  | error r =>
    refine .error ?_
    rintro - (⟨_, _, h⟩ | ⟨_, _, h⟩) <;> cases h

/-- A window with an offset after its limit, if there is one. -/
theorem offset_renders {vs : List Value} {limit : List (List Fragment)}
    (hl : Rendered texts known vs limit.flatten) (o : Option Nat) :
    RendersGroups texts known (vs ++ o.toList.map Select.rowLiteral)
      (match o with
        | some n => do
          let f ← rowCount n
          pure (limit ++ [[.words "OFFSET ", f]])
        | none => pure (limit ++ [])) := by
  cases o with
  | none =>
    rw [List.append_nil]
    exact .ok (by simpa using hl)
  | some n =>
    refine (rowCount_gives n).bind fun f hf => .ok ?_
    rw [hf, List.flatten_append]
    exact hl.append ((Rendered.bind _).cons_words rfl)

/-- The row window.  The cases are split, not computed: a range check is too deep for that. -/
theorem window_renders (hlimit : ∀ t ∈ d.unboundedLimit, isPlainText t = true) (s : Select) :
    RendersGroups texts known
      (s.limit.toList.map Select.rowLiteral ++ s.offset.toList.map Select.rowLiteral)
      (d.window s) := by
  unfold window
  dsimp only
  split
  · next n hn =>
    refine (rowCount_gives n).bind fun f hf => ?_
    simp only [pure_bind]
    rw [hn, hf]
    exact offset_renders ((Rendered.bind _).cons_words rfl) s.offset
  · next t hnone _ ht =>
    have hwords : isPlainText ("LIMIT " ++ t) = true := isPlainText_append rfl (hlimit t ht)
    simp only [pure_bind]
    rw [hnone]
    exact offset_renders (Rendered.words hwords) s.offset
  · next hlimited _ =>
    have hnone : s.limit = none := Option.eq_none_iff_forall_ne_some.2 fun n hn => hlimited n hn
    simp only [pure_bind]
    rw [hnone]
    exact offset_renders Rendered.nil s.offset

theorem projection_renders (s : Select) : Renders texts known [] (projection s) := by
  unfold projection
  split
  · split
    · split
      · exact .ok (((Rendered.words rfl).cons_name _).cons_words rfl)
      · refine .error ?_
        rintro - (⟨_, _, h⟩ | ⟨_, _, h⟩) <;> cases h
    · exact .ok (Rendered.words rfl)
  · split
    · exact .ok (Rendered.words rfl)
    · exact .ok (Rendered.names _)

theorem isPlainText_join (k : JoinKind) : isPlainText (k.keyword ++ " ") = true := by
  cases k <;> rfl

theorem join_renders {j : Join} (htexts : ∀ t ∈ j.on.writtenTexts, t ∈ texts)
    (hknown : known → j.on.WellFormed) : Renders texts known j.on.literals (d.join j) := by
  unfold join
  split
  · have hon : Renders texts known j.on.literals (d.condition false j.on) :=
      (condition_renders false j.on).mono htexts fun h => ⟨hknown h, rfl⟩
    exact hon.bind fun fs hfs =>
      .ok (((hfs.cons_words rfl).cons_name j.table).cons_words (isPlainText_join j.kind))
  · exact .error not_aboutBinds_lacks

/-- Without groups there is nothing to filter, so no literal is lost. -/
theorem grouping_renders {s : Select}
    (htexts : ∀ c ∈ s.having, ∀ t ∈ c.writtenTexts, t ∈ texts) (hknown : known → s.WellFormed) :
    RendersGroups texts known (s.having.toList.flatMap Condition.literals) (d.grouping s) := by
  unfold grouping
  split
  · next hgroup =>
    refine .ok (Rendered.mono (Rendered.nil : Rendered texts known [] _) (fun t ht => ht)
      fun h => ⟨h, ?_⟩)
    have hhaving : s.having = none := Decidable.byContradiction fun hsome =>
      (hknown h).having hsome hgroup
    rw [hhaving]
    rfl
  · have hhaving : RendersGroups texts known (s.having.toList.flatMap Condition.literals)
        (d.clause "HAVING" s.having) :=
      clause_renders rfl htexts fun h c hc =>
        (hknown h).conditions c (Select.mem_conditions.2 (.inr (.inr hc)))
    exact hhaving.bind fun gs hgs => .ok (((Rendered.names s.group).cons_words rfl).append hgs)

theorem ordering_rendered (items : List OrderItem) :
    Rendered texts known [] (ordering items).flatten := by
  have hitems : Rendered texts known [] (items.map fun o =>
      [.name o.column.name, .words (" " ++ o.direction.keyword)]).flatten := by
    induction items with
    | nil => exact .nil
    | cons o items ih =>
      have hkeyword : isPlainText (" " ++ o.direction.keyword) = true := by
        cases o.direction <;> rfl
      exact (ih.cons_words hkeyword).cons_name o.column.name
  cases items with
  | nil => exact .nil
  | cons o items =>
    have hcommas : isPlainText ", " = true := rfl
    have hwords : isPlainText "ORDER BY " = true := rfl
    have hordered := (hitems.joinWith hcommas).cons_words hwords
    simpa [ordering] using hordered

/-! ## Statements -/

theorem select_renders (hlimit : ∀ t ∈ d.unboundedLimit, isPlainText t = true) (s : Select) :
    Renders (s.conditions.flatMap Condition.writtenTexts) s.WellFormed s.literals
      (d.select s) := by
  have htexts : ∀ c ∈ s.conditions, ∀ t ∈ c.writtenTexts,
      t ∈ s.conditions.flatMap Condition.writtenTexts :=
    fun c hc t ht => List.mem_flatMap_of_mem hc ht
  generalize s.conditions.flatMap Condition.writtenTexts = texts at htexts ⊢
  have hjoins : RendersGroups texts s.WellFormed (s.joins.flatMap fun j => j.on.literals)
      (s.joins.mapM d.join) := by
    refine mapM_renders fun j hj => ?_
    have hmem := Select.mem_conditions.2 (.inl ⟨j, hj, rfl⟩)
    exact join_renders (htexts j.on hmem) fun h => h.conditions j.on hmem
  have hfilter : RendersGroups texts s.WellFormed (s.filter.toList.flatMap Condition.literals)
      (d.clause "WHERE" s.filter) := by
    have hmem : ∀ c ∈ s.filter, c ∈ s.conditions :=
      fun c hc => Select.mem_conditions.2 (.inr (.inl hc))
    exact clause_renders rfl (fun c hc => htexts c (hmem c hc))
      fun h c hc => h.conditions c (hmem c hc)
  have hgroup : RendersGroups texts s.WellFormed
      (s.having.toList.flatMap Condition.literals) (d.grouping s) :=
    grouping_renders (fun c hc => htexts c (Select.mem_conditions.2 (.inr (.inr hc)))) id
  have hwindow : RendersGroups texts s.WellFormed
      (s.limit.toList.map Select.rowLiteral ++ s.offset.toList.map Select.rowLiteral)
      (d.window s) := window_renders hlimit s
  have hprojection : Renders texts s.WellFormed [] (projection s) := projection_renders s
  unfold select
  dsimp only
  refine hprojection.bind fun projected hp => hjoins.bind fun joins hj => hfilter.bind
    fun filter hf => hgroup.bind fun group hg => hwindow.bind fun rows hr => .ok ?_
  have hwords : isPlainText (if s.distinct && !s.count then "SELECT DISTINCT" else "SELECT")
      = true := by split <;> rfl
  have hfrom : isPlainText "FROM" = true := rfl
  have hspace : isPlainText " " = true := rfl
  have hhead := (hp.append ((Rendered.name s.table).cons_words hfrom)).cons_words hwords
  have hall := ((((hhead.append hj).append hf).append hg).append
    (ordering_rendered s.order)).append hr
  refine Rendered.joinWith hspace ?_
  simpa [Select.literals, Select.conditions, List.flatMap_append, List.flatMap_map] using hall

/-- The rows are written one after another. -/
theorem rows_rendered (rows : List (List Value)) :
    Rendered texts known rows.flatten (rows.map fun row => bracketed (values row)).flatten := by
  induction rows with
  | nil => exact .nil
  | cons row rows ih => exact (Rendered.values row).bracketed.append ih

theorem insert_renders (s : Insert) : Renders texts known s.rows.flatten (d.insert s) := by
  have hcommas : isPlainText ", " = true := rfl
  have hvalues : isPlainText " VALUES " = true := rfl
  have hspace : isPlainText " " = true := rfl
  have hinto : isPlainText "INSERT INTO " = true := rfl
  have hreturning : isPlainText " RETURNING " = true := rfl
  have hbase : Rendered texts known s.rows.flatten
      ([.words "INSERT INTO ", .name s.table, .words " "] ++ bracketed (names s.columns) ++
        .words " VALUES " :: joinWith ", " (s.rows.map fun row => bracketed (values row))) := by
    have hrows : Rendered texts known s.rows.flatten _ :=
      ((rows_rendered s.rows).joinWith hcommas).cons_words hvalues
    have hcolumns : Rendered texts known [] _ := (Rendered.names s.columns).bracketed
    simpa using (((hcolumns.append hrows).cons_words hspace).cons_name s.table).cons_words hinto
  unfold insert
  dsimp only
  split
  · exact .ok hbase
  · split
    · have hnames := hbase.append ((Rendered.names s.returning).cons_words hreturning)
      rw [List.append_nil] at hnames
      exact .ok hnames
    · exact .error not_aboutBinds_lacks

theorem filtered_renders {base : List Fragment} {vs : List Value} {filter : Option Condition}
    (hbase : Rendered texts known vs base)
    (htexts : ∀ c ∈ filter, ∀ t ∈ c.writtenTexts, t ∈ texts)
    (hknown : known → ∀ c ∈ filter, c.WellFormed) :
    Renders texts known (vs ++ filter.toList.flatMap Condition.literals)
      (d.filtered base filter) := by
  have hfilter : RendersGroups texts known (filter.toList.flatMap Condition.literals)
      (d.clause "WHERE" filter) := clause_renders rfl htexts hknown
  exact hfilter.bind fun gs hgs => .ok (Rendered.joinWith rfl (hbase.append hgs))

theorem assignments_rendered (assignments : List (Column × Value)) :
    Rendered texts known (assignments.map Prod.snd)
      (assignments.map fun a => [.name a.1.name, .words " = ", .bind a.2]).flatten := by
  induction assignments with
  | nil => exact .nil
  | cons a rest ih => exact ((ih.cons_bind a.2).cons_words rfl).cons_name a.1.name

/-- Fragments of a statement come from its own hand-written texts; the values of a well-formed
one are its literals, and no error is about them. -/
theorem fragments_renders (hlimit : ∀ t ∈ d.unboundedLimit, isPlainText t = true)
    (s : Statement) : Renders s.writtenTexts s.WellFormed s.literals (d.fragments s) := by
  have htexts : ∀ o : Option Condition, ∀ c ∈ o, ∀ t ∈ c.writtenTexts,
      t ∈ o.toList.flatMap Condition.writtenTexts :=
    fun o c hc t ht => List.mem_flatMap_of_mem (Option.mem_toList.2 hc) ht
  cases s with
  | select s => exact select_renders hlimit s
  | insert s => exact insert_renders s
  | update s =>
    have hcommas : isPlainText ", " = true := rfl
    have hupdate : isPlainText "UPDATE " = true := rfl
    have hset : isPlainText " SET " = true := rfl
    have hassigned : Rendered (s.filter.toList.flatMap Condition.writtenTexts)
        (Statement.update s).WellFormed _ _ :=
      ((assignments_rendered s.assignments).joinWith hcommas).cons_words hset
        |>.cons_name s.table |>.cons_words hupdate
    exact filtered_renders hassigned (htexts s.filter) id
  | delete s =>
    have hfrom : isPlainText "DELETE FROM " = true := rfl
    exact filtered_renders ((Rendered.name s.table).cons_words hfrom) (htexts s.filter) id

end Dialect

end SqlGateway
