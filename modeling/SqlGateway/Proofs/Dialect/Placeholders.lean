import SqlGateway.Proofs.Dialect.Scanner
set_option autoImplicit false

/-!
# Dialects: placeholders and values

A statement from the builder functions is rendered with one placeholder for each of its
literals.  The scanner finds these placeholders and no others: a name is quoted where it
holds anything unusual, and a hand-written fragment is free to hold quotes, question marks
and percent signs as long as it ends outside quotes.  On MySQL, where percent signs are not
doubled, fragments must not hold any.
-/

namespace SqlGateway

open Fragment Query

namespace Dialect

variable {d : Dialect}

/-- Fragments make a bound statement when their placeholders are found where they are. -/
theorem bound_of_places {fs : List Fragment}
    (h : placeholderPlaces (sql d fs) d.style = (placed d 0 fs).map Prod.fst) :
    ∃ b, d.bound fs = .ok b ∧ b.sql = sql d fs ∧ b.binds = binds fs ∧ b.style = d.style := by
  have hcount : countPlaceholders (sql d fs) d.style = (binds fs).length := by
    rw [← length_placeholderPlaces, h, ← map_snd_placed d 0 fs, List.length_map,
      List.length_map]
  refine ⟨⟨sql d fs, binds fs, d.style, some d.name, hcount⟩, ?_, rfl, rfl, rfl⟩
  rw [bound, BoundStatement.checked, dif_pos hcount]

theorem render_eq_ok {s : Statement} {b : BoundStatement} (h : d.render s = .ok b) :
    ∃ fs, d.fragments s = .ok fs ∧ d.bound fs = .ok b :=
  Except.bind_eq_ok.1 h

/-- A bound statement is the text of its fragments and their values. -/
theorem bound_eq_ok {fs : List Fragment} {b : BoundStatement} (h : d.bound fs = .ok b) :
    b.sql = sql d fs ∧ b.binds = binds fs ∧ b.style = d.style := by
  unfold bound BoundStatement.checked at h
  split at h
  · cases h; exact ⟨rfl, rfl, rfl⟩
  · cases h

/-- The values of a bound statement are the literals of the statement, and its fragments place
them where the scanner finds placeholders. -/
structure Aligned (d : Dialect) (s : Statement) (b : BoundStatement) : Prop where
  literals : b.binds = s.literals
  places : ∃ fs, d.fragments s = .ok fs ∧ b.sql = sql d fs ∧
    (placed d 0 fs).map Prod.fst = placeholderPlaces b.sql b.style ∧
    (placed d 0 fs).map Prod.snd = b.binds

/-- A well-formed statement is rendered to aligned SQL, or to no fragments at all. -/
theorem render_aligned (hd : d.Scannable) {s : Statement} (hs : s.WellFormed)
    (hends : ∀ t ∈ s.writtenTexts, endsUnquoted t.toList = true)
    (hsilent : d.escapePercent = false → d.style = .format →
      ∀ t ∈ s.writtenTexts, '%' ∉ t.toList) :
    Gives (fun e => d.fragments s = .error e ∧ ¬ e.AboutBinds) (Aligned d s) (d.render s) := by
  have hfragments : Gives (fun e => d.fragments s = .error e ∧ ¬ e.AboutBinds)
      (fun fs => d.fragments s = .ok fs ∧
        Rendered s.writtenTexts s.WellFormed s.literals fs) (d.fragments s) := by
    have h := fragments_renders hd.limit s
    cases hx : d.fragments s with
    | error e => exact .error ⟨rfl, Gives.of_eq_error h hx hs⟩
    | ok fs => exact .ok ⟨rfl, Gives.of_eq_ok h hx⟩
  refine hfragments.bind fun fs hfs => ?_
  obtain ⟨hfs, hrendered⟩ := hfs
  have hneutral : ∀ f ∈ fs, f.Neutral d := fun f hf =>
    (hrendered.origin f hf).neutral hd hends hsilent
  obtain ⟨b, hb, hsql, hbinds, hstyle⟩ := bound_of_places (placesFrom_sql hneutral 0)
  rw [hb]
  refine .ok ⟨by rw [hbinds, hrendered.binds hs], fs, hfs, hsql, ?_, ?_⟩
  · rw [placeholderPlaces, hstyle, hsql, placesFrom_sql hneutral]
  · rw [map_snd_placed, hbinds]

/-- Placeholders line up with values, however the statement was built, on the three engines;
on MySQL if no hand-written fragment holds a percent sign. -/
theorem render_built_aligned {d : Dialect} (hd : d = .sqlite ∨ d = .postgresql ∨ d = .mysql)
    {s : Statement} (built : s.Built)
    (hends : ∀ t ∈ s.writtenTexts, endsUnquoted t.toList = true)
    (hpercent : d = .mysql → ∀ t ∈ s.writtenTexts, '%' ∉ t.toList) :
    (∀ e, d.render s = .error e → d.fragments s = .error e ∧ ¬ e.AboutBinds) ∧
      ∀ b, d.render s = .ok b → b.binds = s.literals ∧
        ∃ fs, d.fragments s = .ok fs ∧ b.sql = sql d fs ∧
          (placed d 0 fs).map Prod.fst = placeholderPlaces b.sql b.style ∧
          (placed d 0 fs).map Prod.snd = b.binds := by
  have haligned : Gives (fun e => d.fragments s = .error e ∧ ¬ e.AboutBinds) (Aligned d s)
      (d.render s) := by
    rcases hd with rfl | rfl | rfl
    · exact render_aligned scannable_sqlite built.wellFormed hends nofun
    · exact render_aligned scannable_postgresql built.wellFormed hends nofun
    · exact render_aligned scannable_mysql built.wellFormed hends fun _ _ => hpercent rfl
  refine ⟨fun e he => haligned.of_eq_error he, fun b hb => ?_⟩
  obtain ⟨hliterals, hplaces⟩ := haligned.of_eq_ok hb
  exact ⟨hliterals, hplaces⟩

/-- A query whose names and fragments hold quotes, markers and percent signs. -/
def crowdedQuery : Select where
  table := "to`do? %s"
  joins := [⟨.left, "b\"%", .raw "`it``s ?` = 'a\"?' || ?" [.text "%s"]⟩]
  filter := some (.logical .and
    [.inSet ⟨"50%s.?"⟩ [.bool true, .text "?"] true, .raw "x <> ?" [.null]])
  limit := some 7

/-- The builder functions give the query, one call after another. -/
theorem crowdedQuery_built : crowdedQuery.Built := by
  have hfragment : Term.Built (.condition (.raw "`it``s ?` = 'a\"?' || ?" [.text "%s"])) := by
    rintro c ⟨⟩
    exact @Condition.Built.fragmentOf (.text "`it``s ?` = 'a\"?' || ?") (.list [.text "%s"]) _ rfl
  have hmembers : Term.Built (.condition (.inSet ⟨"50%s.?"⟩ [.bool true, .text "?"] true)) := by
    rintro c ⟨⟩
    exact @Condition.Built.memberOf (.text "50%s.?") (.list [.bool true, .text "?"]) true _ rfl
  have hnull : Term.Built (.condition (.raw "x <> ?" [.null])) := by
    rintro c ⟨⟩
    exact @Condition.Built.fragmentOf (.text "x <> ?") (.list [.null]) _ rfl
  have hstart : Select.Built { table := "to`do? %s" } :=
    @Select.Built.start (.text "to`do? %s") [] _ rfl
  have hjoined := @Select.Built.joined _ _ .left (.text "b\"%") _ hstart hfragment rfl
  exact @Select.Built.limited _ _ (.int 7) ((hjoined.filtered hmembers rfl).filtered hnull rfl) rfl

theorem render_built_aligned_crowded :
    (Statement.select crowdedQuery).Built ∧
      (∀ t ∈ (Statement.select crowdedQuery).writtenTexts,
        endsUnquoted t.toList = true ∧ '%' ∉ t.toList) ∧
      ∃ b fs, mysql.render (.select crowdedQuery) = .ok b ∧
        b.binds = [.text "%s", .bool true, .text "?", .null, .int64 7] ∧
        mysql.fragments (.select crowdedQuery) = .ok fs ∧ b.sql = sql mysql fs ∧
        (placed mysql 0 fs).map Prod.fst = placeholderPlaces b.sql b.style ∧
        (placed mysql 0 fs).map Prod.snd = b.binds := by
  have hends : ∀ t ∈ (Statement.select crowdedQuery).writtenTexts,
      endsUnquoted t.toList = true := by decide
  have hpercent : ∀ t ∈ (Statement.select crowdedQuery).writtenTexts, '%' ∉ t.toList := by decide
  obtain ⟨hfails, haligned⟩ := render_built_aligned (.inr (.inr rfl))
    (s := .select crowdedQuery) crowdedQuery_built hends fun _ => hpercent
  have hok : ∃ b, mysql.render (.select crowdedQuery) = .ok b := by
    cases hrender : mysql.render (.select crowdedQuery) with
    | ok b => exact ⟨b, rfl⟩
    | error e => exact nomatch (hfails e hrender).1
  obtain ⟨b, hb⟩ := hok
  obtain ⟨hliterals, fs, hfs, hsql, hplaces, hvalues⟩ := haligned b hb
  refine ⟨crowdedQuery_built, fun t ht => ⟨hends t ht, hpercent t ht⟩, b, fs, hb, ?_, hfs, hsql,
    hplaces, hvalues⟩
  rw [hliterals]
  decide

end Dialect

end SqlGateway
