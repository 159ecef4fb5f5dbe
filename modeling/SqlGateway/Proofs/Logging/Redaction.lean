import Mathlib.Data.List.Forall2
import SqlGateway.Rehearsal.Logging
set_option autoImplicit false

/-!
# Logging: what redaction hides

Fields under some keys may hold application data.  A record takes up the bound context before
these fields are masked, and nothing that comes after the mask looks behind it.  So their values
reach no renderer, whether they come with the call or were bound before it: two histories of calls
that differ in these values alone hand out the same records, and write the same lines.

Of the logging library this assumes that its steps touch no other field than they add: they carry
along what stands under a redacted key, and make nothing else of it (`Library.Discreet`).
-/

namespace SqlGateway.Logging

/-! ## Fields that differ in application data -/

/-- Two fields under one key, which differ in application data at most. -/
def SameField (f g : String × Native) : Prop := f.1 = g.1 ∧ (f.1 ∈ redactedKeys ∨ f.2 = g.2)

/-- The same keys in the same order, and the same value under every key that is not redacted. -/
abbrev SameOpenly (r s : Record) : Prop := List.Forall₂ SameField r s

namespace SameOpenly

variable {r s : Record}

theorem refl (r : Record) : SameOpenly r r := by
  apply List.forall₂_same.2
  intro f _
  exact ⟨rfl, .inr rfl⟩

theorem keys (h : SameOpenly r s) : r.map Prod.fst = s.map Prod.fst := by
  induction h with
  | nil => rfl
  | cons hfield _ ih => rw [List.map_cons, List.map_cons, hfield.1, ih]

/-- A test of the keys does not tell the records apart, -/
theorem any_keys (h : SameOpenly r s) (p : String → Bool) :
    r.any (fun f => p f.1) = s.any fun f => p f.1 := by
  have hany : ∀ t : Record, t.any (fun f => p f.1) = (t.map Prod.fst).any p := by
    intro t
    rw [List.any_map]
    rfl
  rw [hany, hany, h.keys]

/-- and leaves the same of both. -/
theorem filter_keys (h : SameOpenly r s) (p : String → Bool) :
    SameOpenly (r.filter fun f => p f.1) (s.filter fun f => p f.1) := by
  apply List.rel_filter _ h
  intro f g hfield
  dsimp only
  rw [hfield.1]

/-- One field is put into both, up to its value if that is redacted. -/
theorem putEntry (h : SameOpenly r s) {f g : String × Native} (hfield : SameField f g) :
    SameOpenly (putEntry r f.1 f.2) (putEntry s g.1 g.2) := by
  unfold SqlGateway.putEntry
  rw [h.any_keys fun key => key == f.1, hfield.1]
  split
  · apply List.rel_map _ h
    intro f' g' hfield'
    dsimp only
    rw [hfield'.1, ← hfield.1]
    split
    · exact ⟨rfl, hfield.2⟩
    · exact hfield'
  · exact List.rel_append h (.cons ⟨rfl, hfield.1 ▸ hfield.2⟩ .nil)

theorem put (h : SameOpenly r s) (key : String) (v : Native) :
    SameOpenly (put key v r) (put key v s) :=
  @SameOpenly.putEntry r s h (key, v) (key, v) ⟨rfl, .inr rfl⟩

theorem merge {fields fields' : Record} (h : SameOpenly r s) (hfields : SameOpenly fields fields') :
    SameOpenly (merge r fields) (merge s fields') := by
  apply List.rel_foldl _ h hfields
  intro t u htaken f g hfield
  exact SameOpenly.putEntry htaken hfield

theorem withService (h : SameOpenly r s) (service : String) :
    SameOpenly (withService service r) (withService service s) := by
  unfold Logging.withService
  rw [h.any_keys fun key => key == "service.name"]
  split
  · exact h
  · exact List.rel_append h (refl _)

/-- Behind the mask there is nothing to tell the records apart by. -/
theorem redact_eq (h : SameOpenly r s) : redact r = redact s := by
  unfold redact
  induction h with
  | nil => rfl
  | cons hfield _ ih =>
    rw [List.map_cons, List.map_cons, ih, ← hfield.1]
    congr 1
    split
    next => rfl
    next hopen =>
      have hvalue := hfield.2.resolve_left (by simpa using hopen)
      exact Prod.ext hfield.1 hvalue

end SameOpenly

/-! ## What is assumed of the logging library -/

/-- Of records that differ in application data at most, a step makes records that do so too. -/
def Carries (step : Record → Record) : Prop :=
  ∀ ⦃r s : Record⦄, SameOpenly r s → SameOpenly (step r) (step s)

/-- What two records are made one of carries both of them. -/
def CarriesBoth (join : Record → Record → Record) : Prop :=
  ∀ ⦃r s : Record⦄, SameOpenly r s → ∀ ⦃t u : Record⦄, SameOpenly t u →
    SameOpenly (join r t) (join s u)

/-- The steps of a logging library leave application data where it is and do not look at it. -/
structure Library.Discreet (lib : Library) : Prop where
  compose : ∀ event, Carries (lib.compose event)
  stamp : ∀ o, Carries (lib.stamp o)
  mergeContext : CarriesBoth lib.mergeContext
  addLevel : ∀ o, Carries (lib.addLevel o)
  addLogger : ∀ o, Carries (lib.addLogger o)
  renderStack : ∀ o, Carries (lib.renderStack o)
  setException : ∀ o, Carries (lib.setException o)
  bind : CarriesBoth lib.bind
  unbind : ∀ keys, Carries (lib.unbind keys)
  clear : Carries lib.clear

/-- So do the steps of the stand-in, which write their fields over what is there. -/
theorem rehearsed_discreet : rehearsed.Discreet where
  compose event _ _ h := h.put "event" (.text event)
  stamp o _ _ h := h.put "timestamp" (.text o.now)
  mergeContext _ _ hcontext _ _ h := hcontext.merge h
  addLevel o _ _ h := h.put "level" _
  addLogger o _ _ h := h.put "logger" _
  renderStack _ _ _ h := h.filter_keys fun key => key != "stack_info"
  setException o r s h := by
    unfold rehearsed
    dsimp only
    split
    · exact h.put "exc_info" (.bool true)
    · exact h
  bind _ _ hfields _ _ hcontext := hcontext.merge hfields
  unbind keys _ _ h := h.filter_keys fun key => !keys.contains key
  clear _ _ _ := .nil

/-! ## The way of a record to the mask -/

section Way

variable {lib : Library} (hlib : lib.Discreet)
include hlib

theorem gathered_sameOpenly {context context' fields fields' : Record} (config : Config)
    (hcontext : SameOpenly context context') (hfields : SameOpenly fields fields')
    (o : Occasion) (event : String) :
    SameOpenly (lib.gathered config context o event fields)
      (lib.gathered config context' o event fields') := by
  have hown := hlib.compose event hfields
  have htimed : SameOpenly
      (if config.stamped then lib.stamp o (lib.compose event fields) else lib.compose event fields)
      (if config.stamped then lib.stamp o (lib.compose event fields')
        else lib.compose event fields') := by
    split
    · exact hlib.stamp o hown
    · exact hown
  have hmerged := hlib.mergeContext hcontext htimed
  have hnamed := hlib.addLogger o (hlib.addLevel o hmerged)
  exact hlib.setException o (hlib.renderStack o hnamed)

/-- A call hands the same record out over either context and with the fields of either. -/
theorem process_same {context context' fields fields' : Record} (config : Config)
    (hcontext : SameOpenly context context') (hfields : SameOpenly fields fields')
    (o : Occasion) (event : String) :
    lib.process config context o event fields = lib.process config context' o event fields' := by
  have hgathered := gathered_sameOpenly hlib config hcontext hfields o event
  have hmasked := (hgathered.withService config.service).redact_eq
  unfold Library.process
  rw [hmasked]

end Way

/-! ## Masks -/

/-- Wherever a record has a redacted key, it shows the mask. -/
def Masked (r : Record) : Prop := ∀ f ∈ r, f.1 ∈ redactedKeys → f.2 = .text "<redacted>"

theorem masked_redact (r : Record) : Masked (redact r) := by
  intro f hf hkey
  obtain ⟨g, _, rfl⟩ := List.mem_map.1 hf
  by_cases hg : g.1 ∈ redactedKeys
  · rw [if_pos (by simpa using hg)]
  · rw [if_neg (by simpa using hg)] at hkey
    exact absurd hkey hg

theorem Masked.putEntry {r : Record} (h : Masked r) {key : String} (hkey : key ∉ redactedKeys)
    (v : Native) : Masked (putEntry r key v) := by
  unfold SqlGateway.putEntry
  intro f hf hredacted
  split at hf
  · obtain ⟨g, hg, rfl⟩ := List.mem_map.1 hf
    by_cases hsame : g.1 = key
    · rw [if_pos (beq_iff_eq.2 hsame)] at hredacted
      exact absurd hredacted hkey
    · rw [if_neg (by simpa using hsame)] at hredacted ⊢
      exact h g hg hredacted
  · rcases List.mem_append.1 hf with hf | hf
    · exact h f hf hredacted
    · rw [List.mem_singleton.1 hf] at hredacted
      exact absurd hredacted hkey

/-- A mask stays when a field moves to a name that needs none. -/
theorem Masked.rename {r : Record} (h : Masked r) {old new : String} (hnew : new ∉ redactedKeys) :
    Masked (rename old new r) := by
  unfold Logging.rename
  split
  · apply Masked.putEntry _ hnew
    intro f hf
    exact h f (List.mem_of_mem_filter hf)
  · exact h

/-- Whatever the logging library does, a record that is handed out shows the mask. -/
theorem masked_of_process {lib : Library} {config : Config} {context fields r : Record}
    {o : Occasion} {event : String} (h : lib.process config context o event fields = some r) :
    Masked r := by
  unfold Library.process at h
  split at h
  · cases h
    split
    · exact ((masked_redact _).rename (by decide)).rename (by decide)
    · exact masked_redact _
  · cases h

/-! ## Histories of calls -/

/-- A call to the logging of a program.  An entry is made on an occasion, with an event; a scope
that is left out of turn unbinds its names. -/
inductive Call where
  | bind (fields : Record)
  | unbind (keys : List String)
  | clear
  | enter (fields : Record)
  | exit
  | entry (o : Occasion) (event : String) (fields : Record)

namespace Call

/-- The context behind a call, and the record that it hands to the renderer, if it does. -/
def step (lib : Library) (config : Config) (c : Context) : Call → Context × Option Record
  | .bind fields => (lib.bindContext c fields, none)
  | .unbind keys => (lib.unbindContext c keys, none)
  | .clear => (lib.clearContext c, none)
  | .enter fields => (lib.enter c fields, none)
  | .exit => (lib.exit c, none)
  | .entry o event fields => (c, lib.process config c.fields o event fields)

/-- What each of the calls hands to the renderer. -/
def handed (lib : Library) (config : Config) : Context → List Call → List (Option Record)
  | _, [] => []
  | c, call :: rest =>
    (call.step lib config c).2 :: handed lib config (call.step lib config c).1 rest

/-- The lines that calls write as JSON. -/
def lines (lib : Library) (config : Config) (c : Context) (calls : List Call) : List String :=
  (handed lib config c calls).filterMap fun r => r.map line

/-- The same call, up to the values of redacted fields. -/
inductive Alike : Call → Call → Prop where
  | bind {fields fields' : Record} (h : SameOpenly fields fields') :
      Alike (.bind fields) (.bind fields')
  | unbind (keys : List String) : Alike (.unbind keys) (.unbind keys)
  | clear : Alike .clear .clear
  | enter {fields fields' : Record} (h : SameOpenly fields fields') :
      Alike (.enter fields) (.enter fields')
  | exit : Alike .exit .exit
  | entry (o : Occasion) (event : String) {fields fields' : Record}
      (h : SameOpenly fields fields') : Alike (.entry o event fields) (.entry o event fields')

end Call

/-- The same fields are bound, up to the values of redacted ones, and the same scopes are open. -/
structure Context.Alike (c c' : Context) : Prop where
  fields : SameOpenly c.fields c'.fields
  scopes : c.scopes = c'.scopes

namespace Context.Alike

variable {lib : Library} (hlib : lib.Discreet) {c c' : Context}
include hlib

theorem bind (h : c.Alike c') {fields fields' : Record} (hfields : SameOpenly fields fields') :
    (lib.bindContext c fields).Alike (lib.bindContext c' fields') :=
  ⟨hlib.bind hfields h.fields, h.scopes⟩

theorem unbind (h : c.Alike c') (keys : List String) :
    (lib.unbindContext c keys).Alike (lib.unbindContext c' keys) :=
  ⟨hlib.unbind keys h.fields, h.scopes⟩

theorem clear (h : c.Alike c') : (lib.clearContext c).Alike (lib.clearContext c') :=
  ⟨hlib.clear h.fields, h.scopes⟩

theorem enter (h : c.Alike c') {fields fields' : Record} (hfields : SameOpenly fields fields') :
    (lib.enter c fields).Alike (lib.enter c' fields') where
  fields := (bind hlib h hfields).fields
  scopes := by
    unfold Library.enter
    rw [hfields.keys, h.scopes]

theorem exit (h : c.Alike c') : (lib.exit c).Alike (lib.exit c') := by
  unfold Library.exit
  rw [← h.scopes]
  cases c.scopes with
  | nil => exact h
  | cons keys outer => exact ⟨(unbind hlib h keys).fields, rfl⟩

end Context.Alike

namespace Call

variable {lib : Library} {config : Config} {c c' : Context}

/-- A call takes alike contexts to alike contexts, and hands the same record out over both. -/
theorem Alike.step (hlib : lib.Discreet) (config : Config) {call call' : Call}
    (h : call.Alike call') (hcontext : c.Alike c') :
    (call.step lib config c).1.Alike (call'.step lib config c').1 ∧
      (call.step lib config c).2 = (call'.step lib config c').2 := by
  cases h with
  | bind hfields => exact ⟨hcontext.bind hlib hfields, rfl⟩
  | unbind keys => exact ⟨hcontext.unbind hlib keys, rfl⟩
  | clear => exact ⟨hcontext.clear hlib, rfl⟩
  | enter hfields => exact ⟨hcontext.enter hlib hfields, rfl⟩
  | exit => exact ⟨hcontext.exit hlib, rfl⟩
  | entry o event hfields =>
    have hsame := process_same hlib config hcontext.fields hfields o event
    exact ⟨hcontext, hsame⟩

/-- Histories that are alike hand the same records out. -/
theorem handed_eq (hlib : lib.Discreet) {calls calls' : List Call}
    (h : List.Forall₂ Alike calls calls') (hcontext : c.Alike c') :
    handed lib config c calls = handed lib config c' calls' := by
  induction h generalizing c c' with
  | nil => rfl
  | cons hcall _ ih =>
    obtain ⟨hafter, hsame⟩ := hcall.step hlib config hcontext
    rw [handed, handed, hsame, ih hafter]

theorem masked_of_step {call : Call} {r : Record} (h : (call.step lib config c).2 = some r) :
    Masked r := by
  cases call with
  | entry => exact masked_of_process h
  | _ => cases h

theorem masked_of_handed {calls : List Call} {r : Record}
    (h : some r ∈ handed lib config c calls) : Masked r := by
  induction calls generalizing c with
  | nil => exact absurd h List.not_mem_nil
  | cons call rest ih =>
    rcases List.mem_cons.1 h with hfirst | hlater
    · exact masked_of_step hfirst.symm
    · exact ih hlater

/-- **Redaction covers every source of fields.**  Under every configuration, and over every logging
library that leaves application data alone, two histories of calls from contexts that differ in the
values of redacted fields alone, whether these come with an entry or are bound, hand the same
record to the renderer at each call, and write the same lines.  Each record shows the mask under
every redacted key that it has. -/
theorem redaction_covers (hlib : lib.Discreet) (config : Config) {c c' : Context}
    (hcontext : c.Alike c') {calls calls' : List Call} (hcalls : List.Forall₂ Alike calls calls') :
    handed lib config c calls = handed lib config c' calls' ∧
      lines lib config c calls = lines lib config c' calls' ∧
      ∀ r, some r ∈ handed lib config c calls →
        ∀ f ∈ r, f.1 ∈ redactedKeys → f.2 = .text "<redacted>" := by
  have hsame : handed lib config c calls = handed lib config c' calls' :=
    handed_eq hlib hcalls hcontext
  refine ⟨hsame, ?_, ?_⟩
  · unfold lines
    rw [hsame]
  · intro r hr
    exact masked_of_handed hr

/-- A value that is bound, bound again in a scope and given to an entry. -/
def spread (secret : Native) : List Call :=
  [.bind [("request_id", .text "r-1"), ("params", secret)], .enter [("values", secret)],
    .entry { now := "12:00", operation := "error", logger := "orders" } "failed"
      [("binds", .list [secret]), ("code", .int 5)], .exit]

theorem spread_alike (secret other : Native) :
    List.Forall₂ Alike (spread secret) (spread other) := by
  have hopen : ∀ key v, SameOpenly [(key, v)] [(key, v)] := fun key v => .refl _
  have hhidden : ∀ key v w, key ∈ redactedKeys → SameOpenly [(key, v)] [(key, w)] :=
    fun key v w hkey => .cons ⟨rfl, .inl hkey⟩ .nil
  have hbound := List.rel_append (hopen "request_id" (.text "r-1"))
    (hhidden "params" secret other (by decide))
  have hentry := List.rel_append (hhidden "binds" (.list [secret]) (.list [other]) (by decide))
    (hopen "code" (.int 5))
  exact .cons (.bind hbound) (.cons (.enter (hhidden "values" secret other (by decide)))
    (.cons (.entry _ _ hentry) (.cons .exit .nil)))

theorem redaction_covers_spread :
    let config : Config := ⟨30, true, "shop", true⟩
    rehearsed.Discreet ∧
      List.Forall₂ Alike (spread (.text "ann")) (spread (.int 7)) ∧
      handed rehearsed config {} (spread (.text "ann")) =
        handed rehearsed config {} (spread (.int 7)) ∧
      handed rehearsed config {} (spread (.text "ann")) = [none, none,
        some [("request_id", .text "r-1"), ("params", .text "<redacted>"),
          ("values", .text "<redacted>"), ("binds", .text "<redacted>"), ("code", .int 5),
          ("event", .text "failed"), ("logger", .text "orders"), ("service.name", .text "shop"),
          ("@timestamp", .text "12:00"), ("log.level", .text "error")], none] := by
  have halike := spread_alike (.text "ann") (.int 7)
  have hempty : Context.Alike {} {} := ⟨.nil, rfl⟩
  have hsame := redaction_covers rehearsed_discreet ⟨30, true, "shop", true⟩ hempty halike
  exact ⟨rehearsed_discreet, halike, hsame.1, rfl⟩

end Call

end SqlGateway.Logging
