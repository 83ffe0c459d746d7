import SessionVault.Proofs.Session.History
import SessionVault.Proofs.Vault.Expiry

/-!
# Cookies live as long as their sessions

The cookie of a session says how many whole seconds are left of it, and ends with it.  The cookie that takes it away is
kept apart by its age alone: a browser finds both under the same name, path and domain, with the same flags.

* `Instant.seconds_lt_of_remaining`, `Cookie.age_of_lt` — what is left of a session is an age that does not wrap around;
* `Vault.maxAge_of_expired`, `Vault.maxAge_between` — the age of the cookie of a session that has expired, and of one
  that has not;
* `Cookie.header_eq` — a header is a name, a value and attributes, and `Cookie.Counterparts` — two headers that differ
  in the value and the ages alone;
* `Vault.cookie_lives_with_session` — the law of cookies.
-/

namespace SessionVault

/-! ### Ages -/

/-- What is left until an instant fits 63 bits of seconds. -/
theorem Instant.seconds_lt_of_remaining {t now : Instant} {left : Duration} (h : t.remaining now = some left) :
    left.seconds < 0x8000000000000000 := by
  have hbound := t.since_le now
  dsimp only [remaining] at h
  split at h
  · cases h
    show (t.since now).toNat / 1000000000 < _
    omega
  · cases h

/-- Such an age is kept as it is. -/
theorem Cookie.age_of_lt {n : Nat} (h : n < 0x8000000000000000) : Cookie.age n = n := by
  refine Int.bmod_eq_of_le ?_ ?_
  · norm_num
  · norm_num
    exact h

namespace Vault

/-- The age of the cookie of a session is what is left of the session, in whole seconds. -/
theorem maxAge_cookieFor (v : Vault) (s : Session) (now : Instant) :
    (v.cookieFor s now).maxAge = ((s.remaining now).map fun left => (left.seconds : Int)).getD 0 := by
  show ((s.remaining now).map fun left => Cookie.age left.seconds).getD 0 = _
  cases hleft : s.remaining now with
  | none => rw [Option.map_none, Option.map_none]
  | some left =>
    rw [Option.map_some, Option.map_some, Cookie.age_of_lt (Instant.seconds_lt_of_remaining hleft)]

theorem maxAge_nonneg (v : Vault) (s : Session) (now : Instant) : 0 ≤ (v.cookieFor s now).maxAge := by
  rw [maxAge_cookieFor]
  cases s.remaining now with
  | none => exact Int.le_refl 0
  | some left => exact Int.natCast_nonneg left.seconds

/-- The cookie of an expired session ends at once. -/
theorem maxAge_of_expired (v : Vault) {s : Session} {now : Instant} (h : s.isExpired now = true) :
    (v.cookieFor s now).maxAge = 0 := by
  have hshort : s.record.expiresAt.since now < 1000000000 :=
    Instant.since_lt_of_not_before (Session.isExpired_iff.mp h)
  rw [maxAge_cookieFor, Session.remaining]
  dsimp only [Instant.remaining]
  split
  · show (((s.record.expiresAt.since now).toNat / 1000000000 : Nat) : Int) = 0
    omega
  · rfl

/-- The cookie of a session that has not expired ends within the last second of the session, and not behind it. -/
theorem maxAge_between (v : Vault) {s : Session} {now : Instant} (hs : s.record.expiresAt.Plain) (hn : now.Plain)
    (h : s.isExpired now = false) :
    now.total + (v.cookieFor s now).maxAge * 1000000000 ≤ s.record.expiresAt.total ∧
      s.record.expiresAt.total < now.total + ((v.cookieFor s now).maxAge + 1) * 1000000000 := by
  have hlive : now.total < s.record.expiresAt.total := by
    rw [← Instant.before_iff_total hn hs]
    by_contra hpast
    rw [Session.isExpired_iff.mpr hpast] at h
    cases h
  rw [maxAge_cookieFor]
  cases hleft : s.remaining now with
  | none =>
    have hpast : ¬0 < s.record.expiresAt.since now := Instant.remaining_eq_none_iff.mp hleft
    rw [Instant.since_eq hs hn] at hpast
    omega
  | some left =>
    obtain ⟨-, hnanos⟩ := (Instant.remaining_eq_some_iff hs hn).mp hleft
    show now.total + ((left.nanos / 1000000000 : Nat) : Int) * 1000000000 ≤ _ ∧
      _ < now.total + (((left.nanos / 1000000000 : Nat) : Int) + 1) * 1000000000
    omega

end Vault

/-! ### Headers -/

namespace Cookie

/-- An attribute of a header: its name, and a value where it has one. -/
abbrev Attribute := String × Option String

def Attribute.text (a : Attribute) : String := "; " ++ a.1 ++ a.2.elim "" ("=" ++ ·)

/-- A header with these attributes. -/
def written (name value : String) (attributes : List Attribute) : String :=
  name ++ "=" ++ value ++ String.join (attributes.map Attribute.text)

def flags (o : CookieOptions) : List Attribute :=
  ([("Secure", o.secure), ("HttpOnly", o.httpOnly), ("Partitioned", o.partitioned)].filter (·.2)).map (·.1, none)

def attributes (c : Cookie) : List Attribute :=
  ("Path", some c.options.path) :: (c.options.domain.map fun d => ("Domain", some d)).toList ++
    [("Expires", some (httpDate c.expires)), ("Max-Age", some (toString c.maxAge.toNat))] ++ flags c.options ++
    [("SameSite", some c.options.sameSite.name)]

/-- An attribute that does not say how long a cookie lives. -/
def Attribute.isSteady (a : Attribute) : Bool := a.1 != "Expires" && a.1 != "Max-Age"

theorem header_eq (c : Cookie) : c.header = written c.name c.value c.attributes := by
  obtain ⟨name, value, expires, maxAge, ⟨path, domain, secure, httpOnly, partitioned, sameSite⟩⟩ := c
  -- The pieces of the two texts end at different places, so they are compared character by character.
  rw [← String.toList_inj]
  cases domain <;> cases secure <;> cases httpOnly <;> cases partitioned <;>
    simp [header, written, attributes, flags, flag, Attribute.text, String.toList_append]

/-- The headers of two cookies are written with the same name and the same attributes in the same order, and differ in
the value, in `Expires` and in `Max-Age` at most. -/
structure Counterparts (c c' : Cookie) : Prop where
  header : c.header = written c.name c.value c.attributes
  header' : c'.header = written c.name c'.value c'.attributes
  names : c.attributes.map Prod.fst = c'.attributes.map Prod.fst
  steady : c.attributes.filter Attribute.isSteady = c'.attributes.filter Attribute.isSteady

theorem filter_flags (o : CookieOptions) : (flags o).filter Attribute.isSteady = flags o := by
  rw [List.filter_eq_self]
  intro a ha
  obtain ⟨f, hset, rfl⟩ := List.mem_map.mp ha
  have hf := List.mem_of_mem_filter hset
  simp only [List.mem_cons, List.not_mem_nil, or_false] at hf
  rcases hf with rfl | rfl | rfl <;> simp [Attribute.isSteady]

/-- All attributes but the two ages. -/
theorem filter_attributes (c : Cookie) :
    c.attributes.filter Attribute.isSteady =
      ("Path", some c.options.path) :: (c.options.domain.map fun d => ("Domain", some d)).toList ++ flags c.options ++
        [("SameSite", some c.options.sameSite.name)] := by
  rw [attributes, List.filter_append, List.filter_append, List.filter_append, filter_flags]
  cases c.options.domain <;> simp [Attribute.isSteady]

theorem counterparts_of_options {c c' : Cookie} (hname : c.name = c'.name) (hoptions : c.options = c'.options) :
    Counterparts c c' := by
  refine ⟨c.header_eq, hname ▸ c'.header_eq, ?_, ?_⟩
  · simp only [attributes, hoptions, List.map_append, List.map_cons, List.map_nil]
  · rw [filter_attributes, filter_attributes, hoptions]

theorem lookup_maxAge (c : Cookie) : c.attributes.lookup "Max-Age" = some (some (toString c.maxAge.toNat)) := by
  rw [attributes]
  cases c.options.domain <;> rfl

end Cookie

/-! ### The law of cookies -/

namespace Vault

open Program

/-- For every session that a vault makes, with any lifetime, after any run of changes and questions, and whatever the
clock reads:

The age of its cookie is what is left of the session in whole seconds, so it is no negative number and the cookie takes
nothing away; it is zero if the session has expired.  Otherwise, where the clock counts no leap seconds, the cookie ends
within the last second of the session and not behind it.  The cookie ends with the session, and has its name and its
identifier.  The cookie that a vault makes to take a session away does so, whatever its options.  The headers of the two
are counterparts, and the age in neither is negative. -/
theorem cookie_lives_with_session {σ : Type} (answers : Answers σ) (v : Vault) (name : String) (ttl : Option Duration)
    (w : World σ) (turns : List Session.Turn) (now : Instant) :
    ∃ made, ((v.create name ttl).run answers w).1 = .ok made ∧
      let s := made.after turns
      let c := v.cookieFor s now
      let gone := v.removalCookie s.name
      (0 ≤ c.maxAge ∧ c.isRemoval = false ∧
        c.maxAge = ((s.remaining now).map fun left => (left.seconds : Int)).getD 0) ∧
      (s.isExpired now = true → c.maxAge = 0) ∧
      ((∀ t ∈ Session.readings w.clock turns now, t.Plain) → s.isExpired now = false →
        now.total + c.maxAge * 1000000000 ≤ s.record.expiresAt.total ∧
          s.record.expiresAt.total < now.total + (c.maxAge + 1) * 1000000000) ∧
      (c.expires = s.record.expiresAt ∧ c.name = s.name ∧ c.value = s.id) ∧
      (∀ other, (v.removalCookie other).isRemoval = true) ∧ Cookie.Counterparts c gone ∧
      c.attributes.lookup "Max-Age" = some (some (toString c.maxAge.toNat)) ∧
      gone.attributes.lookup "Max-Age" = some (some "0") := by
  refine ⟨_, congrArg Prod.fst (run_create v name ttl w), ?_⟩
  intro s c gone
  have hnonneg : 0 ≤ c.maxAge := maxAge_nonneg v s now
  have hnothing : toString gone.maxAge.toNat = "0" := by
    show toString 0 = "0"
    decide
  refine ⟨⟨hnonneg, decide_eq_false (Int.not_lt.mpr hnonneg), maxAge_cookieFor v s now⟩, maxAge_of_expired v, ?_,
    ⟨rfl, rfl, rfl⟩, fun other => rfl, Cookie.counterparts_of_options rfl rfl, c.lookup_maxAge,
    by rw [gone.lookup_maxAge, hnothing]⟩
  intro hplain
  obtain ⟨hstart, hrest⟩ := List.forall_mem_cons.mp hplain
  have hnow : now.Plain := hrest now (List.mem_append_right _ (List.mem_singleton_self now))
  have hturns : ∀ m ∈ Session.mutations turns, m.1.Plain := by
    intro m hm
    exact hrest m.1 (List.mem_append_left _ (Session.fst_mem_of_mem_mutations hm))
  -- The expiry of a session is a sum of instants that the clock has shown, so it lies in no leap second either.
  have hhistory := Session.history_foldl (Identifier.ofOctets (w.entropy.draw Identifier.entropySize).1) name
    (v.policy.effectiveTtl ttl) hstart hturns
  rw [← Session.after_eq] at hhistory
  exact maxAge_between v hhistory.plain hnow

def endlessTurns : List Session.Turn := [⟨Instant.epoch.add (.ofSeconds 1), .change (.extend .longest)⟩]

/-- Two seconds behind the start, all whole seconds until the last instant are left to the cookie of a session that was
extended beyond all time. -/
theorem cookie_lives_with_session_sample :
    (∀ t ∈ Session.readings .epoch endlessTurns (Instant.epoch.add (.ofSeconds 2)), t.Plain) ∧
      ∃ made, ((sample.create "sid" none).run Keyspace.reply ⟨.epoch, sampleEntropy, {}, none⟩).1 = .ok made ∧
        (made.after endlessTurns).isExpired (Instant.epoch.add (.ofSeconds 2)) = false ∧
        (sample.cookieFor (made.after endlessTurns) (Instant.epoch.add (.ofSeconds 2))).maxAge = 8210266876797 := by
  have hplain : ∀ t ∈ Session.readings .epoch endlessTurns (Instant.epoch.add (.ofSeconds 2)), t.Plain := by decide
  obtain ⟨made, hmade, -, -, hlive, -⟩ := cookie_lives_with_session Keyspace.reply sample "sid" none
    ⟨.epoch, sampleEntropy, {}, none⟩ endlessTurns (Instant.epoch.add (.ofSeconds 2))
  refine ⟨hplain, made, hmade, ?_⟩
  cases hmade
  have hend : ((Session.start (Identifier.ofOctets (sampleEntropy.draw Identifier.entropySize).1) "sid"
      (sample.policy.effectiveTtl none) .epoch).after endlessTurns).record.expiresAt = .latest := by decide +kernel
  have hfresh : ((Session.start (Identifier.ofOctets (sampleEntropy.draw Identifier.entropySize).1) "sid"
      (sample.policy.effectiveTtl none) .epoch).after endlessTurns).isExpired (Instant.epoch.add (.ofSeconds 2)) =
      false := by
    rw [Session.isExpired, hend]
    decide
  have hnow : (Instant.epoch.add (.ofSeconds 2)).total = 2000000000 := by decide
  have hlast : Instant.latest.total = 8210266876799999999999 := rfl
  obtain ⟨hle, hlt⟩ := hlive hplain hfresh
  rw [hend, hnow, hlast] at hle hlt
  refine ⟨hfresh, ?_⟩
  omega

end Vault

end SessionVault
