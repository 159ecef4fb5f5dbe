import Mathlib.Data.List.Basic
import Mathlib.Data.List.TakeWhile
import Mathlib.Data.Nat.Digits.Defs
import SqlGateway.Proofs.Text.LowerCase
import SqlGateway.Proofs.Text.Places
import SqlGateway.Proofs.Url.PercentCode
import SqlGateway.Url.Split
set_option autoImplicit false

/-!
# URLs: the authority and what follows it

What a host that was read can hold, and what is read of a URL that is written from parts:
user and password in code, a host, a port, and behind a slash a name as it is.  The first two
and the port are read as they were; so is a host that holds no colon and no bracket, and any
other is refused.  Of the name that is left which the rest of the URL leaves of it.
-/

namespace SqlGateway.Url

/-! ## Cutting -/

section Cutting

variable {p : Char → Bool} {cs rest : List Char} {d : Char}

theorem cutAt_of_none (h : ∀ c ∈ cs, p c = false) : cutAt p cs = (cs, none) := by
  induction cs with
  | nil => rfl
  | cons c cs ih =>
    rw [cutAt, if_neg (Bool.eq_false_iff.1 (h c List.mem_cons_self)),
      ih fun x hx => h x (List.mem_cons_of_mem c hx)]

theorem cutAt_append (h : ∀ c ∈ cs, p c = false) (hd : p d = true) :
    cutAt p (cs ++ d :: rest) = (cs, some rest) := by
  induction cs with
  | nil => rw [List.nil_append, cutAt, if_pos hd]
  | cons c cs ih =>
    rw [List.cons_append, cutAt, if_neg (Bool.eq_false_iff.1 (h c List.mem_cons_self)),
      ih fun x hx => h x (List.mem_cons_of_mem c hx)]

/-- A text is cut at the first character that satisfies `p`, or not at all. -/
theorem cutAt_cases (p : Char → Bool) (cs : List Char) :
    (cutAt p cs = (cs, none) ∧ ∀ c ∈ cs, p c = false) ∨
      ∃ before d after, cs = before ++ d :: after ∧ p d = true ∧ (∀ c ∈ before, p c = false) ∧
        cutAt p cs = (before, some after) := by
  induction cs with
  | nil => exact .inl ⟨rfl, nofun⟩
  | cons c cs ih =>
    cases hc : p c with
    | true => exact .inr ⟨[], c, cs, rfl, hc, nofun, by rw [cutAt, if_pos hc]⟩
    | false =>
      have hcut : cutAt p (c :: cs) = (c :: (cutAt p cs).1, (cutAt p cs).2) := by
        rw [cutAt, if_neg (Bool.eq_false_iff.1 hc)]
      rcases ih with ⟨heq, hnone⟩ | ⟨before, d, after, rfl, hd, hbefore, heq⟩
      · rw [heq] at hcut
        exact .inl ⟨hcut, List.forall_mem_cons.2 ⟨hc, hnone⟩⟩
      · rw [heq] at hcut
        exact .inr ⟨c :: before, d, after, rfl, hd, List.forall_mem_cons.2 ⟨hc, hbefore⟩, hcut⟩

theorem cutAt_fst (p : Char → Bool) (cs : List Char) :
    (cutAt p cs).1 = cs.takeWhile fun c => !p c := by
  induction cs with
  | nil => rfl
  | cons c cs ih =>
    cases hc : p c with
    | true => rw [cutAt, if_pos hc, List.takeWhile_cons_of_neg (by simp [hc])]
    | false =>
      rw [cutAt, if_neg (Bool.eq_false_iff.1 hc), List.takeWhile_cons_of_pos (by simp [hc])]
      exact congrArg (c :: ·) ih

theorem mem_cutAt {c : Char} (h : c ∈ (cutAt p cs).1) : c ∈ cs ∧ p c = false := by
  rw [cutAt_fst] at h
  exact ⟨(List.takeWhile_prefix _).mem h, by simpa using List.mem_takeWhile_imp h⟩

theorem cutAtLast_of_none (h : ∀ c ∈ cs, p c = false) : cutAtLast p cs = (none, cs) := by
  rw [cutAtLast, cutAt_of_none fun c hc => h c (List.mem_reverse.1 hc)]
  simp

theorem cutAtLast_append (h : ∀ c ∈ rest, p c = false) (hd : p d = true) :
    cutAtLast p (cs ++ d :: rest) = (some cs, rest) := by
  have hreverse : (cs ++ d :: rest).reverse = rest.reverse ++ d :: cs.reverse := by simp
  rw [cutAtLast, hreverse, cutAt_append (fun c hc => h c (List.mem_reverse.1 hc)) hd]
  simp

/-- What stands behind the last cut. -/
theorem mem_cutAtLast {c : Char} (h : c ∈ (cutAtLast p cs).2) : c ∈ cs ∧ p c = false := by
  rcases cutAt_cases p cs.reverse with ⟨hcut, hnone⟩ | ⟨before, d, after, hcs, hd, hbefore, hcut⟩
  · simp only [cutAtLast, hcut, List.reverse_reverse] at h
    exact ⟨h, hnone c (List.mem_reverse.2 h)⟩
  · rw [cutAtLast, hcut] at h
    have hmem := List.mem_reverse.1 h
    refine ⟨List.mem_reverse.1 ?_, hbefore c hmem⟩
    rw [hcs]
    exact List.mem_append_left _ hmem

end Cutting

/-! ## Hosts -/

theorem mem_lowerHost_iff {c : Char} (hc : Text.Caseless c) (cs : List Char) :
    c ∈ lowerHost cs ↔ c ∈ cs := by
  rw [lowerHost, List.mem_append, hc.mem_toLower_iff, String.toList_ofList, ← List.mem_append,
    List.takeWhile_append_dropWhile]

theorem caseless_percent : Text.Caseless '%' := by decide +kernel

/-- What stands behind the first percent sign begins with it. -/
theorem zone_cases (cs : List Char) :
    cs.dropWhile (· != '%') = [] ∨ ∃ rest, cs.dropWhile (· != '%') = '%' :: rest := by
  have hhead := List.head?_dropWhile_not (· != '%') cs
  cases hzone : cs.dropWhile (· != '%') with
  | nil => exact .inl rfl
  | cons c rest =>
    rw [hzone] at hhead
    have hc : c = '%' := by simpa using hhead
    exact .inr ⟨rest, by rw [hc]⟩

/-- A host in lower case stays as it is. -/
theorem lowerHost_lowerHost (cs : List Char) : lowerHost (lowerHost cs) = lowerHost cs := by
  -- Of the two parts only the first is lowered, and no percent sign comes to it.
  obtain ⟨low, hlow⟩ : ∃ low, low = Text.toLower (String.ofList (cs.takeWhile (· != '%'))) :=
    ⟨_, rfl⟩
  have hpercent : ∀ c ∈ low.toList, (c != '%') = true := by
    intro c hc
    rw [bne_iff_ne]
    rintro rfl
    rw [hlow, caseless_percent.mem_toLower_iff, String.toList_ofList] at hc
    have hne := List.mem_takeWhile_imp hc
    simp at hne
  have hhead : (low.toList ++ cs.dropWhile (· != '%')).takeWhile (· != '%') = low.toList := by
    rw [List.takeWhile_append_of_pos hpercent]
    rcases zone_cases cs with h | ⟨rest, h⟩ <;> simp [h]
  have hzone : (low.toList ++ cs.dropWhile (· != '%')).dropWhile (· != '%') =
      cs.dropWhile (· != '%') := by
    rw [List.dropWhile_append_of_pos hpercent]
    rcases zone_cases cs with h | ⟨rest, h⟩ <;> simp [h]
  have hlowered : Text.toLower low = low := by rw [hlow, Text.toLower_toLower]
  have hhost : lowerHost cs = low.toList ++ cs.dropWhile (· != '%') := by rw [hlow]; rfl
  rw [hhost]
  simp only [lowerHost, hhead, hzone, String.ofList_toList, hlowered]

/-! ## The steps of a split -/

/-- A URL without tabs and line breaks. -/
def unbroken (cs : List Char) : List Char := cs.filter fun c => c != '\t' && c != '\r' && c != '\n'

/-- Does a character end the authority? -/
def endsAuthority (c : Char) : Bool := c == '/' || c == '?' || c == '#'

def authorityOf (rest : List Char) : List Char :=
  (unbroken rest).takeWhile fun c => !endsAuthority c

/-- Path and query, without a fragment. -/
def tailOf (rest : List Char) : List Char :=
  (cutAt (· == '#') ((unbroken rest).drop (authorityOf rest).length)).1

/-- User and password in front of a host. -/
def readUser : Option (List Char) → Option (List Char) × Option (List Char)
  | none => (none, none)
  | some u => (some (cutAt (· == ':') u).1, (cutAt (· == ':') u).2)

/-- User, host and port of an authority. -/
def readAuthority (authority path query : List Char) : Except Fault Parts := do
  let (user, hostInfo) := cutAtLast (· == '@') authority
  let (host, port) := hostAndPort hostInfo
  let port ← portOf port
  return { username := (readUser user).1, password := (readUser user).2, host := lowerHost host,
           port, path, query }

theorem split_eq (rest : List Char) :
    split rest = (checkBrackets (authorityOf rest)).bind fun _ =>
      if (authorityOf rest).any hidesDelimiter then
        .error (.hiddenDelimiter (String.ofList (authorityOf rest)))
      else readAuthority (authorityOf rest) (cutAt (· == '?') (tailOf rest)).1
        ((cutAt (· == '?') (tailOf rest)).2.getD []) := rfl

/-- Where no character stands that ends it. -/
def standsInAuthority (c : Char) : Bool :=
  (c != '\t' && c != '\r' && c != '\n') && !endsAuthority c && !hidesDelimiter c

/-! ## What was read -/

/-- What can be read as a host. -/
structure ReadHost (cs : List Char) : Prop where
  lowered : lowerHost cs = cs
  stands : ∀ c ∈ cs, standsInAuthority c = true
  noUser : '@' ∉ cs
  /-- A host comes from inside of brackets, or from where there is no opening one. -/
  bracket : '[' ∉ cs ∨ ']' ∉ cs

/-- Characters that are dropped, or that end the authority. -/
def stops : List Char := ['\t', '\r', '\n', '/', '?', '#']

theorem caseless_delimiters : ∀ c ∈ stops ++ ['@', '[', ']', ':'], Text.Caseless c :=
  Text.forall_of_all (by decide +kernel)

theorem caseless_of_hidesDelimiter {c : Char} (h : hidesDelimiter c = true) :
    Text.Caseless c := by
  have hmem := List.contains_iff_mem.1 h
  rw [← Char.ofNat_toNat c]
  revert hmem
  generalize c.toNat = n
  revert n
  decide +kernel

theorem standsInAuthority_eq_false (c : Char) : standsInAuthority c = false ↔
    c ∈ stops ∨ hidesDelimiter c = true := by
  simp only [stops, standsInAuthority, endsAuthority, Bool.and_eq_false_iff, Bool.not_eq_false',
    Bool.or_eq_true, bne_eq_false_iff_eq, beq_iff_eq, List.mem_cons, List.not_mem_nil, or_false,
    or_assoc]

/-- Lowering brings no character to an authority that cannot stand there. -/
theorem standsInAuthority_lowerHost {cs : List Char} (h : ∀ c ∈ cs, standsInAuthority c = true) :
    ∀ c ∈ lowerHost cs, standsInAuthority c = true := by
  intro c hc
  by_contra hstands
  rw [Bool.not_eq_true] at hstands
  have hcaseless : Text.Caseless c := by
    rcases (standsInAuthority_eq_false c).1 hstands with hstop | hhides
    · exact caseless_delimiters c (List.mem_append_left _ hstop)
    · exact caseless_of_hidesDelimiter hhides
  rw [h c ((mem_lowerHost_iff hcaseless cs).1 hc)] at hstands
  cases hstands

/-- A host is what stands in brackets or, where none opens, what stands before a colon. -/
theorem hostAndPort_cases (cs : List Char) :
    (∃ before bracketed, cs = before ++ '[' :: bracketed ∧
      (hostAndPort cs).1 = (cutAt (· == ']') bracketed).1) ∨
    ('[' ∉ cs ∧ hostAndPort cs = ((cutAt (· == ':') cs).1, (cutAt (· == ':') cs).2.getD [])) := by
  rcases cutAt_cases (· == '[') cs with ⟨hcut, hnone⟩ | ⟨before, d, after, hcs, hd, -, hcut⟩
  · refine .inr ⟨fun hmem => ?_, ?_⟩
    · exact Bool.noConfusion (hnone _ hmem)
    · rw [hostAndPort, hcut]
  · rw [beq_iff_eq] at hd
    refine .inl ⟨before, after, hd ▸ hcs, ?_⟩
    rw [hostAndPort, hcut]

theorem mem_hostAndPort {cs : List Char} {c : Char} (h : c ∈ (hostAndPort cs).1) : c ∈ cs := by
  rcases hostAndPort_cases cs with ⟨before, bracketed, hcs, heq⟩ | ⟨-, heq⟩
  · rw [heq] at h
    rw [hcs]
    exact List.mem_append_right _ (List.mem_cons_of_mem _ (mem_cutAt h).1)
  · rw [heq] at h
    exact (mem_cutAt h).1

theorem bracket_hostAndPort (cs : List Char) :
    '[' ∉ (hostAndPort cs).1 ∨ ']' ∉ (hostAndPort cs).1 := by
  rcases hostAndPort_cases cs with ⟨before, bracketed, hcs, heq⟩ | ⟨hnone, heq⟩
  · rw [heq]
    exact .inr fun hmem => Bool.noConfusion (mem_cutAt hmem).2
  · rw [heq]
    exact .inl fun hmem => hnone (mem_cutAt hmem).1

theorem portOf_le {cs : List Char} {p : Nat} (h : portOf cs = .ok (some p)) : p ≤ 65535 := by
  simp only [portOf] at h
  split at h
  · cases h
  · split at h
    · cases h
    · split at h
      · cases h
      · split at h
        · next hle =>
          cases h
          exact hle
        · cases h

theorem standsInAuthority_authorityOf {rest : List Char}
    (hhidden : (authorityOf rest).any hidesDelimiter = false) :
    ∀ c ∈ authorityOf rest, standsInAuthority c = true := by
  intro c hc
  have hbreak := (List.mem_filter.1 ((List.takeWhile_prefix _).mem hc)).2
  have hends := List.mem_takeWhile_imp hc
  have hhides := List.any_eq_false.1 hhidden c hc
  rw [standsInAuthority, hbreak, hends, Bool.not_eq_true] at *
  simp [hhides]

theorem readAuthority_eq_ok {authority path query : List Char} {parts : Parts}
    (h : readAuthority authority path query = .ok parts) :
    let cut := cutAtLast (· == '@') authority
    ∃ port, portOf (hostAndPort cut.2).2 = .ok port ∧
      parts = ⟨(readUser cut.1).1, (readUser cut.1).2, lowerHost (hostAndPort cut.2).1, port, path,
        query⟩ := by
  unfold readAuthority at h
  cases hport : portOf (hostAndPort (cutAtLast (· == '@') authority).2).2 with
  | error fault =>
    simp only [hport] at h
    cases h
  | ok port =>
    simp only [hport] at h
    cases h
    exact ⟨port, hport, rfl⟩

/-- What a split gives as host and port. -/
theorem readHost_of_split {rest : List Char} {parts : Parts} (h : split rest = .ok parts) :
    ReadHost parts.host ∧ ∀ p, parts.port = some p → p ≤ 65535 := by
  rw [split_eq] at h
  cases hbrackets : checkBrackets (authorityOf rest) with
  | error fault =>
    rw [hbrackets] at h
    cases h
  | ok _ =>
    rw [hbrackets] at h
    cases hhidden : (authorityOf rest).any hidesDelimiter with
    | true =>
      simp only [Except.bind, hhidden, if_true] at h
      cases h
    | false =>
      simp only [Except.bind, hhidden, Bool.false_eq_true, if_false] at h
      obtain ⟨port, hport, rfl⟩ := readAuthority_eq_ok h
      have hmem : ∀ c ∈ (hostAndPort (cutAtLast (· == '@') (authorityOf rest)).2).1,
          c ∈ authorityOf rest ∧ (c == '@') = false :=
        fun c hc => mem_cutAtLast (mem_hostAndPort hc)
      -- Lowering brings no delimiter to a host.
      have hkept := fun c (hc : c ∈ ['@', '[', ']', ':']) =>
        mem_lowerHost_iff (caseless_delimiters c (List.mem_append_right _ hc))
      refine ⟨⟨lowerHost_lowerHost _, standsInAuthority_lowerHost fun c hc =>
        standsInAuthority_authorityOf hhidden c (hmem c hc).1, fun hc => ?_, ?_⟩, ?_⟩
      · have hat := (hkept '@' (by decide) _).1 hc
        exact Bool.noConfusion (hmem '@' hat).2
      · rw [hkept '[' (by decide), hkept ']' (by decide)]
        exact bracket_hostAndPort _
      · rintro p rfl
        exact portOf_le hport

/-! ## What was written -/

/-- What is left of a name that is written as it is. -/
def nameOf (cs : List Char) : List Char :=
  ((unbroken cs).takeWhile fun c => !(c == '#')).takeWhile fun c => !(c == '?')

/-- The query that such a name begins itself. -/
def queryOf (cs : List Char) : List Char :=
  (cutAt (· == '?') ((unbroken cs).takeWhile fun c => !(c == '#'))).2.getD []

section Written

variable {xs : List Char} (h : ∀ c ∈ xs, standsInAuthority c = true) (name : List Char)

include h

theorem unbroken_append : unbroken (xs ++ '/' :: name) = xs ++ '/' :: unbroken name := by
  have hxs : unbroken xs = xs := by
    refine List.filter_eq_self.2 fun c hc => ?_
    have hstands := h c hc
    rw [standsInAuthority, Bool.and_eq_true, Bool.and_eq_true] at hstands
    exact hstands.1.1
  rw [unbroken, List.filter_append]
  exact congrArg (· ++ _) hxs

theorem authorityOf_append : authorityOf (xs ++ '/' :: name) = xs := by
  have hends : ∀ c ∈ xs, (!endsAuthority c) = true := by
    intro c hc
    have hstands := h c hc
    rw [standsInAuthority, Bool.and_eq_true, Bool.and_eq_true] at hstands
    exact hstands.1.2
  rw [authorityOf, unbroken_append h, List.takeWhile_append_of_pos hends]
  exact List.append_nil xs

theorem cut_tailOf_append : cutAt (· == '?') (tailOf (xs ++ '/' :: name)) =
    ('/' :: nameOf name,
      (cutAt (· == '?') ((unbroken name).takeWhile fun c => !(c == '#'))).2) := by
  have htail : tailOf (xs ++ '/' :: name) =
      '/' :: (unbroken name).takeWhile fun c => !(c == '#') := by
    rw [tailOf, authorityOf_append h, unbroken_append h, List.drop_left, cutAt_fst]
    rfl
  rw [htail, nameOf]
  generalize (unbroken name).takeWhile _ = ys
  rw [← cutAt_fst]
  rfl

/-- What is read of an authority and a name. -/
theorem split_append : split (xs ++ '/' :: name) = (checkBrackets xs).bind fun _ =>
    readAuthority xs ('/' :: nameOf name) (queryOf name) := by
  have hhidden : xs.any hidesDelimiter = false := by
    refine List.any_eq_false.2 fun c hc => ?_
    have hstands := h c hc
    rw [standsInAuthority, Bool.and_eq_true, Bool.not_eq_true'] at hstands
    rw [hstands.2]
    exact Bool.false_ne_true
  rw [split_eq, authorityOf_append h, cut_tailOf_append h, hhidden]
  rfl

end Written

/-- User and password in code, as they stand in front of a host. -/
def credentialChars : Option (List Char) → Option (List Char) → List Char
  | none, _ => []
  | some user, none => user ++ ['@']
  | some user, some secret => user ++ ':' :: secret ++ ['@']

theorem hidesDelimiter_of_isAscii {c : Char} (h : isAscii c = true) : hidesDelimiter c = false := by
  by_contra hhides
  rw [Bool.not_eq_false] at hhides
  have hmem := List.contains_iff_mem.1 hhides
  have hcode : 128 ≤ c.toNat := by
    revert hmem
    generalize c.toNat = n
    revert n
    decide
  rw [isAscii, decide_eq_true_eq] at h
  omega

theorem standsInAuthority_of_isCode {c : Char} (h : isCode c = true) :
    standsInAuthority c = true := by
  by_contra hstands
  rw [Bool.not_eq_true, standsInAuthority_eq_false] at hstands
  rcases hstands with hstop | hhides
  · have hplain : ∀ c ∈ stops, isCode c = false := Text.forall_of_all (by decide)
    rw [hplain c hstop] at h
    cases h
  · rw [hidesDelimiter_of_isAscii (isAscii_of_isCode h)] at hhides
    cases hhides

/-- A port is read as the number that it was written from. -/
theorem portOf_toDigits {p : Nat} (h : p ≤ 65535) : portOf (Nat.toDigits 10 p) = .ok (some p) := by
  have hne : (Nat.toDigits 10 p).isEmpty = false := by
    rw [List.isEmpty_eq_false_iff]
    exact Nat.toDigits_ne_nil
  have hall : (Nat.toDigits 10 p).all Char.isDigit = true :=
    List.all_eq_true.2 fun _ => Text.isDigit_of_mem_toDigits
  have hlength : (Nat.toDigits 10 p).length ≤ 5 :=
    Nat.toDigits_length 10 p 5 (by decide) (by omega)
  have hvalue : (Nat.toDigits 10 p).foldl (fun n c => n * 10 + (c.toNat - 48)) 0 = p := by
    have hdigits := Text.digitsValue_toDigits p
    rwa [Decimal.digitsValue, Text.ofDigits, List.foldl_map] at hdigits
  simp only [portOf, hne, hall, hvalue]
  rw [if_neg (by decide), if_neg (by decide), if_neg (by omega), if_pos h]

theorem portOf_of_mem {cs : List Char} {c : Char} (hc : c ∈ cs) (hdigit : c.isDigit = false) :
    ∃ fault, portOf cs = .error fault := by
  have hne : cs.isEmpty = false := List.isEmpty_eq_false_iff.2 (List.ne_nil_of_mem hc)
  have hall : cs.all Char.isDigit = false := by
    rw [List.all_eq_false]
    exact ⟨c, hc, Bool.eq_false_iff.1 hdigit⟩
  simp only [portOf, hne, hall]
  exact ⟨_, rfl⟩

/-- A host that stands for itself in front of a port. -/
def PlainHost (cs : List Char) : Prop := ':' ∉ cs ∧ '[' ∉ cs ∧ ']' ∉ cs

instance (cs : List Char) : Decidable (PlainHost cs) := inferInstanceAs (Decidable (_ ∧ _ ∧ _))

theorem checkBrackets_none {cs : List Char} (hopen : '[' ∉ cs) (hclose : ']' ∉ cs) :
    checkBrackets cs = .ok () := by
  have hopen' : cs.contains '[' = false := by simpa using hopen
  have hclose' : cs.contains ']' = false := by simpa using hclose
  rw [checkBrackets, hopen', hclose']

theorem checkBrackets_single {cs : List Char} (h : '[' ∈ cs ↔ ']' ∉ cs) :
    checkBrackets cs = .error .badBrackets := by
  by_cases hopen : '[' ∈ cs
  · have hopen' : cs.contains '[' = true := List.contains_iff_mem.2 hopen
    have hclose' : cs.contains ']' = false := by simpa using h.1 hopen
    rw [checkBrackets, hopen', hclose']
  · have hclose : ']' ∈ cs := by
      by_contra hclose
      exact hopen (h.2 hclose)
    have hopen' : cs.contains '[' = false := by simpa using hopen
    have hclose' : cs.contains ']' = true := List.contains_iff_mem.2 hclose
    rw [checkBrackets, hopen', hclose']

section Written

variable {user secret : Option (List Char)} {host : List Char} {p : Nat}
  (huser : ∀ cs ∈ user, ∀ c ∈ cs, isCode c = true)
  (hsecret : ∀ cs ∈ secret, ∀ c ∈ cs, isCode c = true)

/-- User, password, host and port, as they are written. -/
def authorityChars (user secret : Option (List Char)) (host : List Char) (p : Nat) : List Char :=
  credentialChars user secret ++ (host ++ ':' :: Nat.toDigits 10 p)

include huser hsecret in
theorem mem_credentialChars {c : Char} (hc : c ∈ credentialChars user secret) :
    isCode c = true ∨ c = ':' ∨ c = '@' := by
  cases user with
  | none => cases hc
  | some u =>
    cases secret with
    | none =>
      rcases List.mem_append.1 hc with hc | hc
      · exact .inl (huser u rfl c hc)
      · exact .inr (.inr (List.mem_singleton.1 hc))
    | some s =>
      rcases List.mem_append.1 hc with hc | hc
      · rcases List.mem_append.1 hc with hc | hc
        · exact .inl (huser u rfl c hc)
        · rcases List.mem_cons.1 hc with hc | hc
          · exact .inr (.inl hc)
          · exact .inl (hsecret s rfl c hc)
      · exact .inr (.inr (List.mem_singleton.1 hc))

/-- A host and a port consist of the host's characters, a colon, and digits. -/
theorem mem_hostPort {c : Char} (hc : c ∈ host ++ ':' :: Nat.toDigits 10 p) :
    c ∈ host ∨ c = ':' ∨ isCode c = true := by
  rcases List.mem_append.1 hc with hc | hc
  · exact .inl hc
  · refine .inr ((List.mem_cons.1 hc).imp_right fun hdigits => ?_)
    have hdigit := (Text.isDigit_iff c).1 (Text.isDigit_of_mem_toDigits hdigits)
    rw [isCode_iff, isUnreserved_iff]
    omega

include huser hsecret in
theorem standsInAuthority_authorityChars (hhost : ReadHost host) :
    ∀ c ∈ authorityChars user secret host p, standsInAuthority c = true := by
  intro c hc
  rcases List.mem_append.1 hc with hc | hc
  · rcases mem_credentialChars huser hsecret hc with hc | rfl | rfl
    · exact standsInAuthority_of_isCode hc
    · decide
    · decide
  · rcases mem_hostPort hc with hc | rfl | hc
    · exact hhost.stands c hc
    · decide
    · exact standsInAuthority_of_isCode hc

include huser hsecret in
/-- Brackets in what is written are those of the host. -/
theorem mem_authorityChars_iff {b : Char} (hcode : isCode b = false) (hcolon : b ≠ ':')
    (hat : b ≠ '@') : b ∈ authorityChars user secret host p ↔ b ∈ host := by
  constructor
  · intro hb
    rcases List.mem_append.1 hb with hb | hb
    · rcases mem_credentialChars huser hsecret hb with hb | hb | hb
      · exact absurd rfl (ne_of_isCode hb hcode)
      · exact absurd hb hcolon
      · exact absurd hb hat
    · rcases mem_hostPort hb with hb | hb | hb
      · exact hb
      · exact absurd hb hcolon
      · exact absurd rfl (ne_of_isCode hb hcode)
  · intro hb
    exact List.mem_append_right _ (List.mem_append_left _ hb)

variable (secret p) in
include huser in
theorem cutAtLast_authorityChars (hhost : '@' ∉ host) :
    ∃ u, cutAtLast (· == '@') (authorityChars user secret host p) =
      (u, host ++ ':' :: Nat.toDigits 10 p) ∧ readUser u = (user, user.bind fun _ => secret) := by
  have hinfo : ∀ c ∈ host ++ ':' :: Nat.toDigits 10 p, (c == '@') = false := by
    intro c hc
    rw [beq_eq_false_iff_ne]
    rcases mem_hostPort hc with hc | rfl | hc
    · rintro rfl
      exact hhost hc
    · decide
    · exact ne_of_isCode hc (by decide)
  have hname : ∀ u ∈ user, ∀ c ∈ u, (c == ':') = false := by
    intro u hu c hc
    rw [beq_eq_false_iff_ne]
    exact ne_of_isCode (huser u hu c hc) (by decide)
  cases user with
  | none => exact ⟨none, cutAtLast_of_none hinfo, rfl⟩
  | some u =>
    cases secret with
    | none =>
      refine ⟨some u, ?_, ?_⟩
      · rw [authorityChars, credentialChars, List.append_assoc]
        exact cutAtLast_append hinfo rfl
      · rw [readUser, cutAt_of_none (hname u rfl)]
        rfl
    | some s =>
      refine ⟨some (u ++ ':' :: s), ?_, ?_⟩
      · rw [authorityChars, credentialChars, List.append_assoc]
        exact cutAtLast_append hinfo rfl
      · rw [readUser, cutAt_append (hname u rfl) rfl]
        rfl

/-- Without a bracket, host and port are parted by the first colon. -/
theorem hostAndPort_written (hopen : '[' ∉ host) {before after : List Char} {c : Char}
    (hsplit : host ++ ':' :: Nat.toDigits 10 p = before ++ c :: after)
    (hbefore : ∀ c ∈ before, (c == ':') = false) (hc : (c == ':') = true) :
    hostAndPort (host ++ ':' :: Nat.toDigits 10 p) = (before, after) := by
  rcases hostAndPort_cases (host ++ ':' :: Nat.toDigits 10 p) with
    ⟨front, bracketed, hcs, -⟩ | ⟨-, heq⟩
  · have hmem : '[' ∈ host ++ ':' :: Nat.toDigits 10 p := by
      rw [hcs]
      exact List.mem_append_right _ List.mem_cons_self
    rcases mem_hostPort hmem with hmem | hmem | hmem
    · exact absurd hmem hopen
    · exact absurd hmem (by decide)
    · exact absurd hmem (by decide)
  · rw [heq, hsplit, cutAt_append hbefore hc]
    rfl

include huser hsecret in
/-- What is written in front of a name is read as it was, if the host is plain. -/
theorem split_written (hhost : ReadHost host) (hplain : PlainHost host) (hp : p ≤ 65535)
    (name : List Char) :
    split (authorityChars user secret host p ++ '/' :: name) =
      .ok ⟨user, user.bind fun _ => secret, host, some p, '/' :: nameOf name, queryOf name⟩ := by
  obtain ⟨hcolon, hopen, hclose⟩ := hplain
  have hbrackets : checkBrackets (authorityChars user secret host p) = .ok () := by
    refine checkBrackets_none ?_ ?_
    · rwa [mem_authorityChars_iff huser hsecret (by decide) (by decide) (by decide)]
    · rwa [mem_authorityChars_iff huser hsecret (by decide) (by decide) (by decide)]
  have hnocolon : ∀ c ∈ host, (c == ':') = false := by
    intro c hc
    rw [beq_eq_false_iff_ne]
    rintro rfl
    exact hcolon hc
  have hport := hostAndPort_written (p := p) hopen rfl hnocolon rfl
  obtain ⟨u, hcut, hread⟩ := cutAtLast_authorityChars secret p huser hhost.noUser
  rw [split_append (standsInAuthority_authorityChars huser hsecret hhost), hbrackets]
  simp only [Except.bind, readAuthority, hcut, hread, hport, portOf_toDigits hp, hhost.lowered]
  rfl

include huser hsecret in
/-- No other host can be read behind what is written. -/
theorem split_written_refused (hhost : ReadHost host) (hplain : ¬PlainHost host)
    (name : List Char) :
    ∃ fault, split (authorityChars user secret host p ++ '/' :: name) = .error fault := by
  rw [split_append (standsInAuthority_authorityChars huser hsecret hhost)]
  have hmem : ∀ b ∈ ['[', ']'], b ∈ authorityChars user secret host p ↔ b ∈ host := by
    intro b hb
    have hplain : ∀ b ∈ ['[', ']'], isCode b = false ∧ b ≠ ':' ∧ b ≠ '@' :=
      Text.forall_of_all (by decide)
    obtain ⟨hcode, hcolon, hat⟩ := hplain b hb
    exact mem_authorityChars_iff huser hsecret hcode hcolon hat
  by_cases hbracket : '[' ∈ host ∨ ']' ∈ host
  · refine ⟨.badBrackets, ?_⟩
    rw [checkBrackets_single]
    · rfl
    · rw [hmem '[' (by decide), hmem ']' (by decide)]
      have hone := hhost.bracket
      tauto
  · obtain ⟨hopen, hclose⟩ := not_or.1 hbracket
    rw [checkBrackets_none (mt (hmem '[' (by decide)).1 hopen) (mt (hmem ']' (by decide)).1 hclose)]
    have hcolon : ':' ∈ host := by
      by_contra hcolon
      exact hplain ⟨hcolon, hopen, hclose⟩
    rcases cutAt_cases (· == ':') host with ⟨-, hnone⟩ | ⟨before, c, after, heq, hc, hbefore, -⟩
    · exact Bool.noConfusion (hnone ':' hcolon)
    · -- What stands behind the first colon holds the one in front of the port.
      have hsplit : host ++ ':' :: Nat.toDigits 10 p =
          before ++ c :: (after ++ ':' :: Nat.toDigits 10 p) := by
        rw [heq, List.append_assoc, List.cons_append]
      have hport := hostAndPort_written hopen hsplit hbefore hc
      have hlast : ':' ∈ after ++ ':' :: Nat.toDigits 10 p :=
        List.mem_append_right _ List.mem_cons_self
      obtain ⟨fault, hfault⟩ := portOf_of_mem hlast (by decide)
      obtain ⟨u, hcut, -⟩ := cutAtLast_authorityChars secret p huser hhost.noUser
      refine ⟨fault, ?_⟩
      simp only [Except.bind, readAuthority, hcut, hport, hfault]
      rfl

end Written

/-! ## Names -/

/-- Is a character dropped from a name, or does it end it? -/
def stopsName (c : Char) : Bool := c == '\t' || c == '\r' || c == '\n' || c == '#' || c == '?'

/-- A name that stands for itself behind a slash. -/
def PlainName (cs : List Char) : Prop :=
  cs.any stopsName = false ∧ cs.head? ≠ some '/' ∧ holdsEscape cs = false

instance (cs : List Char) : Decidable (PlainName cs) := inferInstanceAs (Decidable (_ ∧ _ ∧ _))

/-- What is read of a name: no slash in front, and out of code. -/
def readName (cs : List Char) : String := decode (('/' :: nameOf cs).dropWhile (· == '/'))

theorem any_stopsName_iff (cs : List Char) : cs.any stopsName = false ↔ ∀ c ∈ cs,
    (c != '\t' && c != '\r' && c != '\n') = true ∧ (!(c == '#')) = true ∧ (!(c == '?')) = true := by
  simp [stopsName, and_assoc]

theorem nameOf_sublist (cs : List Char) : (nameOf cs).Sublist cs :=
  (List.takeWhile_sublist _).trans ((List.takeWhile_sublist _).trans List.filter_sublist)

theorem nameOf_eq_self_iff (cs : List Char) : nameOf cs = cs ↔ cs.any stopsName = false := by
  have hquery : (nameOf cs).Sublist ((unbroken cs).takeWhile fun c => !(c == '#')) :=
    List.takeWhile_sublist _
  have hfragment : ((unbroken cs).takeWhile fun c => !(c == '#')).Sublist (unbroken cs) :=
    List.takeWhile_sublist _
  have hbreaks : (unbroken cs).Sublist cs := List.filter_sublist
  constructor
  · -- Each of the three steps only leaves something out.
    intro h
    rw [h] at hquery
    have hunbroken : unbroken cs = cs := hbreaks.antisymm (hquery.trans hfragment)
    have hwhole : ((unbroken cs).takeWhile fun c => !(c == '#')) = cs :=
      (hfragment.trans hbreaks).antisymm hquery
    rw [nameOf, hwhole, List.takeWhile_eq_self_iff] at h
    rw [hunbroken, List.takeWhile_eq_self_iff] at hwhole
    have hkept := List.filter_eq_self.1 hunbroken
    exact (any_stopsName_iff cs).2 fun c hc => ⟨hkept c hc, hwhole c hc, h c hc⟩
  · intro h
    have hplain := (any_stopsName_iff cs).1 h
    have hunbroken : unbroken cs = cs := List.filter_eq_self.2 fun c hc => (hplain c hc).1
    rw [nameOf, hunbroken, List.takeWhile_eq_self_iff.2 fun c hc => (hplain c hc).2.1,
      List.takeWhile_eq_self_iff.2 fun c hc => (hplain c hc).2.2]

theorem dropWhile_slash_eq_self_iff (cs : List Char) :
    cs.dropWhile (· == '/') = cs ↔ cs.head? ≠ some '/' := by
  cases cs with
  | nil => simp
  | cons c cs =>
    by_cases hc : c = '/'
    · have hlength := (List.dropWhile_sublist (· == '/') (l := cs)).length_le
      rw [hc, List.dropWhile_cons_of_pos (by rfl)]
      refine iff_of_false (fun h => ?_) (by simp)
      rw [h, List.length_cons] at hlength
      omega
    · simp [List.dropWhile_cons_of_neg, hc]

/-- A name is read as it was exactly if it is plain. -/
theorem readName_eq_iff (cs : List Char) : (readName cs).toList = cs ↔ PlainName cs := by
  have hread : readName cs = decode ((nameOf cs).dropWhile (· == '/')) := rfl
  have hslashes : ((nameOf cs).dropWhile (· == '/')).Sublist (nameOf cs) :=
    List.dropWhile_sublist _
  rw [hread]
  constructor
  · -- No step makes a name longer, so that each has left it as it was.
    intro h
    have hlength : cs.length ≤ ((nameOf cs).dropWhile (· == '/')).length := by
      have hle := length_decode_le ((nameOf cs).dropWhile (· == '/'))
      rwa [h] at hle
    have hwhole : (nameOf cs).dropWhile (· == '/') = cs :=
      (hslashes.trans (nameOf_sublist cs)).eq_of_length_le hlength
    have hname : nameOf cs = cs := by
      refine (nameOf_sublist cs).antisymm ?_
      rwa [hwhole] at hslashes
    rw [hwhole, decode_eq_self_iff] at h
    rw [hname, dropWhile_slash_eq_self_iff] at hwhole
    exact ⟨(nameOf_eq_self_iff cs).1 hname, hwhole, h⟩
  · rintro ⟨hstops, hslash, hescape⟩
    rw [(nameOf_eq_self_iff cs).2 hstops, (dropWhile_slash_eq_self_iff cs).2 hslash]
    exact (decode_eq_self_iff cs).2 hescape

end SqlGateway.Url
