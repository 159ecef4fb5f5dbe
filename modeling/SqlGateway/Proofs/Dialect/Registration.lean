import SqlGateway.Driver.Registry
set_option autoImplicit false

/-!
# Registries: what a tag is served by

Dialects and drivers are put under a name in lower case, and looked up under the tag of an
engine in its one form.  The two agree on every name but the other names of engines: what is
registered under one of those is never found.  Under any other name the last registration
counts, in whatever case it is asked for, and nobody who asks for another engine sees it.
-/

namespace SqlGateway

/-! ## Tags -/

/-- The tag is another name of an engine, in any case. -/
def IsAlias (tag : String) : Prop := ∃ a ∈ engineAliases, a.1 = Text.toLower tag

instance (tag : String) : Decidable (IsAlias tag) :=
  inferInstanceAs (Decidable (∃ a ∈ engineAliases, a.1 = Text.toLower tag))

section

variable {name tag : String}

theorem normalizeTag_congr (h : Text.toLower tag = Text.toLower name) :
    normalizeTag tag = normalizeTag name := by
  unfold normalizeTag
  rw [h]

/-- A name that is no alias is its own tag. -/
theorem normalizeTag_of_not_isAlias (h : ¬ IsAlias name) :
    normalizeTag name = Text.toLower name := by
  have hnone : engineAliases.find? (fun a => a.1 == Text.toLower name) = none := by
    apply List.find?_eq_none.2
    intro a ha hkey
    exact h ⟨a, ha, beq_iff_eq.1 hkey⟩
  unfold normalizeTag
  simp only [hnone]

/-- No tag in its one form is an alias. -/
theorem normalizeTag_ne_alias (h : IsAlias name) (tag : String) :
    normalizeTag tag ≠ Text.toLower name := by
  obtain ⟨b, hb, hkey⟩ := h
  have hresolved : ∀ a ∈ engineAliases, ∀ b ∈ engineAliases, a.2 ≠ b.1 := by decide
  rw [← hkey]
  unfold normalizeTag
  cases hfind : engineAliases.find? fun a => a.1 == Text.toLower tag with
  | some a =>
    simp only [hfind]
    exact hresolved a (List.mem_of_find?_eq_some hfind) b hb
  | none =>
    simp only [hfind]
    intro hsame
    exact List.find?_eq_none.1 hfind b hb (beq_iff_eq.2 hsame.symm)

/-- No tag of another engine is where a name is put; an alias is put where no tag is. -/
theorem ne_normalizeTag (h : IsAlias name ∨ normalizeTag tag ≠ normalizeTag name) :
    ¬ Text.toLower name = normalizeTag tag := by
  intro hkey
  by_cases hname : IsAlias name
  · exact normalizeTag_ne_alias hname tag hkey.symm
  · rw [← normalizeTag_of_not_isAlias hname] at hkey
    exact (h.resolve_left hname) hkey.symm

end

/-! ## Tables -/

section

variable {α : Type} {key : String}

/-- Entries with others put over them, each under its name in lower case. -/
def putAll (entries calls : List (String × α)) : List (String × α) :=
  calls.foldl (fun es c => putEntry es (Text.toLower c.1) c.2) entries

/-- The last entry that is put under a name is found. -/
theorem find?_putAll_last (entries before : List (String × α)) {name : String} (x : α)
    {after : List (String × α)} (hname : Text.toLower name = key)
    (h : ∀ c ∈ after, Text.toLower c.1 ≠ key) :
    (putAll entries (before ++ (name, x) :: after)).find? (fun e => e.1 == key) =
      some (key, x) := by
  have hafter : after.reverse.find? (fun c => Text.toLower c.1 == key) = none := by
    apply List.find?_eq_none.2
    intro c hc hkey
    exact h c (List.mem_reverse.1 hc) (beq_iff_eq.1 hkey)
  unfold putAll
  rw [find?_foldl_putEntry, List.reverse_append, List.reverse_cons, List.append_assoc,
    List.find?_append, hafter]
  simp [hname]

end

/-! ## Dialects -/

namespace DialectRegistry

/-- The registry after registrations, in order. -/
def registerAll (r : DialectRegistry) (calls : List (String × Dialect)) : DialectRegistry :=
  calls.foldl (fun r c => r.register c.1 c.2) r

theorem entries_registerAll (r : DialectRegistry) (calls : List (String × Dialect)) :
    (r.registerAll calls).entries = putAll r.entries calls := by
  induction calls generalizing r with
  | nil => rfl
  | cons c calls ih => exact ih (r.register c.1 c.2)

/-- The refusal of a tag that no dialect is under: it lists the tags that have one. -/
def unknown (r : DialectRegistry) (tag : String) : Failure :=
  .make .config ("Unknown dialect '" ++ tag ++ "'. Supported: " ++
    (Native.list ((sorted (r.entries.map Prod.fst)).map .text)).shown)

theorem get_of_find? {r : DialectRegistry} {tag : String} {e : String × Dialect}
    (h : r.entries.find? (fun e => e.1 == normalizeTag tag) = some e) : r.get tag = .ok e.2 := by
  unfold get
  rw [h]

theorem get_of_find?_none {r : DialectRegistry} {tag : String}
    (h : r.entries.find? (fun e => e.1 == normalizeTag tag) = none) :
    r.get tag = .error (r.unknown tag) := by
  unfold get
  rw [h]
  rfl

/-- Two registries answer alike for a tag: with the same dialect, or each with its refusal. -/
def Agree (r r' : DialectRegistry) (tag : String) : Prop :=
  (∃ d, r.get tag = .ok d ∧ r'.get tag = .ok d) ∨
    r.get tag = .error (r.unknown tag) ∧ r'.get tag = .error (r'.unknown tag)

theorem agree_of_find? {r r' : DialectRegistry} {tag : String}
    (h : r'.entries.find? (fun e => e.1 == normalizeTag tag) =
      r.entries.find? fun e => e.1 == normalizeTag tag) : r.Agree r' tag := by
  cases hfind : r.entries.find? fun e => e.1 == normalizeTag tag with
  | some e => exact .inl ⟨e.2, get_of_find? hfind, get_of_find? (h.trans hfind)⟩
  | none => exact .inr ⟨get_of_find?_none hfind, get_of_find?_none (h.trans hfind)⟩

/-- The last dialect under a name that is no alias is the one that the name gets, in any case. -/
theorem get_registerAll_last (r : DialectRegistry) (before : List (String × Dialect))
    {name : String} (d : Dialect) {after : List (String × Dialect)} {tag : String}
    (hname : ¬ IsAlias name) (hafter : ∀ c ∈ after, Text.toLower c.1 ≠ Text.toLower name)
    (htag : Text.toLower tag = Text.toLower name) :
    (r.registerAll (before ++ (name, d) :: after)).get tag = .ok d := by
  have hkey : Text.toLower name = normalizeTag tag := by
    rw [normalizeTag_congr htag, normalizeTag_of_not_isAlias hname]
  refine get_of_find? (e := (normalizeTag tag, d)) ?_
  rw [entries_registerAll]
  exact find?_putAll_last r.entries before d hkey fun c hc => hkey ▸ hafter c hc

/-- A registration changes nothing for the tags of others. -/
theorem agree_register (r : DialectRegistry) {name : String} (d : Dialect) {tag : String}
    (h : IsAlias name ∨ normalizeTag tag ≠ normalizeTag name) :
    r.Agree (r.register name d) tag := by
  apply agree_of_find?
  exact (find?_putEntry _ _ _ _).trans (if_neg (ne_normalizeTag h))

end DialectRegistry

/-! ## Drivers -/

theorem normalizeTag_engineTag (e : Engine) : normalizeTag e.tag = e.tag := by
  cases e <;> decide

namespace DriverRegistry

/-- The registry after registrations, in order. -/
def registerAll (r : DriverRegistry) (calls : List (String × DriverMaker)) : DriverRegistry :=
  calls.foldl (fun r c => r.register c.1 c.2) r

theorem entries_registerAll (r : DriverRegistry) (calls : List (String × DriverMaker)) :
    (r.registerAll calls).entries = putAll r.entries calls := by
  induction calls generalizing r with
  | nil => rfl
  | cons c calls ih => exact ih (r.register c.1 c.2)

/-- The last driver under a name that is no alias serves the configurations of its engine. -/
theorem create_registerAll_last (r : DriverRegistry) (before : List (String × DriverMaker))
    {name : String} (m : DriverMaker) {after : List (String × DriverMaker)}
    {config : DatabaseConfig} (memoryTag : String) (hname : ¬ IsAlias name)
    (hafter : ∀ c ∈ after, Text.toLower c.1 ≠ Text.toLower name)
    (hengine : normalizeTag name = config.engine.tag) :
    (r.registerAll (before ++ (name, m) :: after)).create config memoryTag =
      .ok (m.make config memoryTag) := by
  have hkey : Text.toLower name = config.engine.tag := by
    rw [← normalizeTag_of_not_isAlias hname, hengine]
  have hfind := find?_putAll_last r.entries before m hkey fun c hc => hkey ▸ hafter c hc
  unfold create
  rw [entries_registerAll, hfind]

/-- A registration changes nothing for the configurations of other engines. -/
theorem create_register_of_others (r : DriverRegistry) {name : String} (m : DriverMaker)
    {config : DatabaseConfig} (memoryTag : String)
    (h : IsAlias name ∨ config.engine.tag ≠ normalizeTag name) :
    (r.register name m).create config memoryTag = r.create config memoryTag := by
  rw [← normalizeTag_engineTag] at h
  have hother := ne_normalizeTag h
  rw [normalizeTag_engineTag] at hother
  have hfind := (find?_putEntry r.entries (Text.toLower name) m config.engine.tag).trans
    (if_neg hother)
  unfold create register
  rw [hfind]

end DriverRegistry

/-! ## Both -/

/-- After a dialect was registered under a name that is no alias, and until that name is registered
again in whatever case, every casing of the name gets that dialect.  A registration changes what
is found only for the tags of its own engine, and one under an alias for none; where nothing is
found, the refusal lists the names that are there.  The same holds for drivers and the
configurations of an engine. -/
theorem registrations_serve (name : String) :
    (∀ (r : DialectRegistry) (before after : List (String × Dialect)) (d : Dialect),
      ¬ IsAlias name → (∀ c ∈ after, Text.toLower c.1 ≠ Text.toLower name) →
        ∀ tag, Text.toLower tag = Text.toLower name →
          (r.registerAll (before ++ (name, d) :: after)).get tag = .ok d) ∧
      (∀ (r : DialectRegistry) (d : Dialect) (tag : String),
        IsAlias name ∨ normalizeTag tag ≠ normalizeTag name → r.Agree (r.register name d) tag) ∧
      (∀ (r : DriverRegistry) (before after : List (String × DriverMaker)) (m : DriverMaker),
        ¬ IsAlias name → (∀ c ∈ after, Text.toLower c.1 ≠ Text.toLower name) →
          ∀ config memoryTag, normalizeTag name = config.engine.tag →
            (r.registerAll (before ++ (name, m) :: after)).create config memoryTag =
              .ok (m.make config memoryTag)) ∧
      ∀ (r : DriverRegistry) (m : DriverMaker) (config : DatabaseConfig) (memoryTag : String),
        IsAlias name ∨ config.engine.tag ≠ normalizeTag name →
          (r.register name m).create config memoryTag = r.create config memoryTag := by
  refine ⟨?_, ?_, ?_, ?_⟩
  · intro r before after d hname hafter tag htag
    exact r.get_registerAll_last before d hname hafter htag
  · intro r d tag h
    exact r.agree_register d h
  · intro r before after m hname hafter config memoryTag hengine
    exact r.create_registerAll_last before m memoryTag hname hafter hengine
  · intro r m config memoryTag h
    exact r.create_register_of_others m memoryTag h

/-- A dialect with a name of its own. -/
def houseDialect : Dialect := { Dialect.sqlite with name := "house" }

/-- A driver with a name of its own. -/
def houseDriver : DriverMaker := ⟨.postgresql, "HouseDriver"⟩

def ordersConfig : DatabaseConfig := { engine := .postgresql, database := "orders" }

/-- A dialect of one's own and a driver in the place of another are served, in the midst of other
registrations. -/
theorem registrations_serve_house :
    ¬ IsAlias "House" ∧ ¬ IsAlias "PostgreSQL" ∧
      (({} : DialectRegistry).registerAll
        [("house", .mysql), ("House", houseDialect), ("pg", .sqlite)]).get "HOUSE" =
          .ok houseDialect ∧
      (({} : DriverRegistry).registerAll
        [("PostgreSQL", houseDriver), ("mysql", .standard .sqlite)]).create ordersConfig "m" =
          .ok (houseDriver.make ordersConfig "m") := by
  have hhouse : ¬ IsAlias "House" := by decide
  have hpostgresql : ¬ IsAlias "PostgreSQL" := by decide
  refine ⟨hhouse, hpostgresql, ?_, ?_⟩
  · exact (registrations_serve "House").1 {} [("house", .mysql)] [("pg", .sqlite)] houseDialect
      hhouse (by decide) "HOUSE" (by decide)
  · exact (registrations_serve "PostgreSQL").2.2.1 {} [] [("mysql", .standard .sqlite)] houseDriver
      hpostgresql (by decide) ordersConfig "m" (by decide)

/-- What is registered under an alias is not what the alias gets. -/
theorem alias_unserved :
    (({} : DialectRegistry).register "postgres" houseDialect).get "postgres" = .ok .postgresql ∧
      Dialect.postgresql ≠ houseDialect ∧
      (({} : DriverRegistry).register "pg" houseDriver).create ordersConfig "m" =
        .ok ((DriverMaker.standard .postgresql).make ordersConfig "m") ∧
      DriverMaker.standard .postgresql ≠ houseDriver := by
  exact ⟨rfl, by decide, rfl, by decide⟩

end SqlGateway
