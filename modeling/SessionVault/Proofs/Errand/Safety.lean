import SessionVault.Proofs.Errand.Basic

/-!
# When a session stays under one identifier

A session is `Safe` as long as at most one of its identifiers is live and none is written back that it was moved
away from.  A rotation in doubt leaves the session under its old identifier and the store under the new one; the
next write under the old one makes two.

* `Careful` — a write takes effect only while no identifier is live that the session went astray to, and only under
  a key that is not retired;
* `Certain` — no rotation is in doubt, and none draws an identifier again;
* `safe_iff_careful` — errands are safe at every point exactly if they are careful;
* `careful_of_certain` — errands whose rotations are certain are careful.
-/

namespace SessionVault

open Roster

/-! ### Points of a run -/

/-- A property holds at every point of a run. -/
def Throughout (v : Vault) (P : World Ledger → Prop) : World Ledger → List Errand → Prop
  | w, [] => P w
  | w, e :: es => P w ∧ Throughout v P (w.errand v e) es

/-- An errand has a text written under a key. -/
def Writes (v : Vault) (w : World Ledger) (e : Errand) (key : String) : Prop :=
  ∃ f, (w.errand v e).store.effects = f :: w.store.effects ∧ f.request.target? = some key

/-- At most one identifier is live, and none was written back. -/
def Safe (v : Vault) (name first : String) (w : World Ledger) : Prop :=
  AtMostOne v name first w ∧ ¬WrittenBack w.store.effects

/-- A write under a key leaves one identifier live, and writes none back. -/
def CarefulWrite (v : Vault) (name : String) (w : World Ledger) (key : String) : Prop :=
  (∀ id, Astray v name w.store id → Live v name w id → w.session.map Session.id = some id ∨ v.key name id = key) ∧
    ¬Retired key w.store.effects

/-- Every write of a run is careful. -/
def Careful (v : Vault) (name : String) : World Ledger → List Errand → Prop
  | _, [] => True
  | w, e :: es => (∀ key, Writes v w e key → CarefulWrite v name w key) ∧ Careful v name (w.errand v e) es

/-- A rotation is not in doubt, and draws no identifier that the session was moved away from. -/
def CertainRotation (v : Vault) (w : World Ledger) (e : Errand) : Prop :=
  ∀ verdict, e = .call .rotate verdict →
    verdict.known = true ∧ ∀ key, Writes v w e key → ¬Retired key w.store.effects

/-- Every rotation of a run is certain. -/
def Certain (v : Vault) : World Ledger → List Errand → Prop
  | _, [] => True
  | w, e :: es => CertainRotation v w e ∧ Certain v (w.errand v e) es

/-! ### What is live after an effect -/

variable {v : Vault} {name first : String} {w w' : World Ledger} {s : Session}

theorem live_take {r : Request} {known : Bool} (h : w.store.keyspace.Ascending)
    (hstore : w'.store = w.store.take w.clock r known) (hclock : w'.clock = w.clock) (id : String) :
    Live v name w' id ↔
      match r.leaves w.clock (v.key name id) with
      | some e => (e.filter fun e => e.isLive w.clock).isSome = true
      | none => Live v name w id := by
  rw [Live, hstore, hclock, Ledger.take, Keyspace.shown_answer h]
  cases r.leaves w.clock (v.key name id) with
  | some e => exact Iff.rfl
  | none => exact Iff.rfl

theorem live_nothing (hstore : w'.store = w.store) (hlater : w'.clock.before w.clock = false) {id : String}
    (h : Live v name w' id) : Live v name w id := by
  rw [Live, hstore, Keyspace.shown_later hlater] at h
  obtain ⟨e, he⟩ := Option.isSome_iff_exists.mp h
  rw [Live, (Option.filter_eq_some_iff.mp he).1]
  rfl

theorem live_deleted {id' : String} {known : Bool} (h : w.store.keyspace.Ascending)
    (hstore : w'.store = w.store.take w.clock (.delete (v.key name id')) known) (hclock : w'.clock = w.clock)
    {id : String} (hl : Live v name w' id) : Live v name w id := by
  rw [live_take h hstore hclock, Request.leaves] at hl
  split at hl
  · rename_i e he
    split at he
    · cases he
      cases hl
    · cases he
  · exact hl

/-- An entry that is written to last is there. -/
theorem isSome_written {now : Instant} {text : String} {ttl : Duration} (h : now.before (now.add ttl) = true) :
    ((some ⟨text, now.add ttl⟩ : Option Entry).filter fun e => e.isLive now).isSome = true := by
  have hlive : Entry.isLive ⟨text, now.add ttl⟩ now = true := h
  rw [Entry.filter_of_isLive hlive]
  rfl

theorem live_put {id' text : String} {ttl : Duration} {known : Bool} (h : w.store.keyspace.Ascending)
    (hstore : w'.store = w.store.take w.clock (.put (v.key name id') text ttl) known) (hclock : w'.clock = w.clock)
    (hlive : w.clock.before (w.clock.add ttl) = true) (id : String) :
    Live v name w' id ↔ id = id' ∨ Live v name w id := by
  rw [live_take h hstore hclock, Request.leaves]
  by_cases hid : id = id'
  · rw [if_pos (v.key_inj_id.mpr hid.symm), hid]
    exact ⟨fun _ => Or.inl rfl, fun _ => isSome_written hlive⟩
  · rw [if_neg fun hk => hid (v.key_inj_id.mp hk).symm]
    exact ⟨Or.inr, fun hor => hor.resolve_left hid⟩

theorem live_moved {old id' text : String} {ttl : Duration} {known : Bool} (h : w.store.keyspace.Ascending)
    (hstore : w'.store = w.store.take w.clock (.replace (v.key name old) (v.key name id') text ttl) known)
    (hclock : w'.clock = w.clock) (hlive : w.clock.before (w.clock.add ttl) = true) (id : String) :
    Live v name w' id ↔ id = id' ∨ id ≠ old ∧ Live v name w id := by
  rw [live_take h hstore hclock, Request.leaves]
  by_cases hid : id = id'
  · rw [if_pos (v.key_inj_id.mpr hid.symm), hid]
    exact ⟨fun _ => Or.inl rfl, fun _ => isSome_written hlive⟩
  · rw [if_neg fun hk => hid (v.key_inj_id.mp hk).symm]
    by_cases hold : id = old
    · rw [if_pos (v.key_inj_id.mpr hold.symm)]
      constructor
      · intro hnone
        cases hnone
      · intro hor
        exact absurd hold (hor.resolve_left hid).1
    · rw [if_neg fun hk => hold (v.key_inj_id.mp hk).symm]
      constructor
      · intro hl
        exact Or.inr ⟨hold, hl⟩
      · intro hor
        exact (hor.resolve_left hid).2

/-! ### What the session had after an effect -/

theorem effects_take {r : Request} {known : Bool} (hstore : w'.store = w.store.take w.clock r known) :
    w'.store.effects = ⟨r, known⟩ :: w.store.effects := by
  rw [hstore, Ledger.take]

theorem carried_take {r : Request} {known : Bool} (hstore : w'.store = w.store.take w.clock r known) (id : String) :
    Carried v name first w'.store id ↔ r.target? = some (v.key name id) ∨ Carried v name first w.store id := by
  rw [Carried, Carried, effects_take hstore]
  constructor
  · rintro (hfirst | ⟨e, he, htarget⟩)
    · exact Or.inr (Or.inl hfirst)
    · rcases List.mem_cons.mp he with rfl | he
      · exact Or.inl htarget
      · exact Or.inr (Or.inr ⟨e, he, htarget⟩)
  · rintro (htarget | hfirst | ⟨e, he, htarget⟩)
    · exact Or.inr ⟨_, List.mem_cons_self, htarget⟩
    · exact Or.inl hfirst
    · exact Or.inr ⟨e, List.mem_cons_of_mem _ he, htarget⟩

theorem astray_take {r : Request} {known : Bool} (hstore : w'.store = w.store.take w.clock r known) (id : String) :
    Astray v name w'.store id ↔
      (known = false ∧ ∃ old text ttl, r = .replace old (v.key name id) text ttl) ∨ Astray v name w.store id := by
  rw [Astray, Astray, effects_take hstore]
  constructor
  · rintro ⟨e, he, hknown, hmove⟩
    rcases List.mem_cons.mp he with rfl | he
    · exact Or.inl ⟨hknown, hmove⟩
    · exact Or.inr ⟨e, he, hknown, hmove⟩
  · rintro (⟨hknown, hmove⟩ | ⟨e, he, hknown, hmove⟩)
    · exact ⟨_, List.mem_cons_self, hknown, hmove⟩
    · exact ⟨e, List.mem_cons_of_mem _ he, hknown, hmove⟩

theorem carried_of_astray {l : Ledger} {id : String} (h : Astray v name l id) : Carried v name first l id := by
  obtain ⟨e, he, -, old, text, ttl, hr⟩ := h
  exact Or.inr ⟨e, he, by rw [hr, Request.target?]⟩

theorem writes_take {e : Errand} {r : Request} {known : Bool}
    (hstore : (w.errand v e).store = w.store.take w.clock r known) (key : String) :
    Writes v w e key ↔ r.target? = some key := by
  rw [Writes, effects_take hstore]
  constructor
  · rintro ⟨f, hf, htarget⟩
    rw [← (List.cons.inj hf).1] at htarget
    exact htarget
  · intro htarget
    exact ⟨_, rfl, htarget⟩

theorem not_writes_nothing {e : Errand} (hstore : (w.errand v e).store = w.store) (key : String) :
    ¬Writes v w e key := by
  rintro ⟨f, hf, -⟩
  rw [hstore] at hf
  exact List.cons_ne_self _ _ hf.symm

/-! ### Sessions on errands -/

/-- A session on errands: what is live among its identifiers is its own, or one that it went astray to. -/
structure Sent (v : Vault) (name first : String) (w : World Ledger) (s : Session) : Prop where
  session : w.session = some s
  named : s.name = name
  proper : Proper s
  plain : w.clock.Plain
  ascending : w.store.keyspace.Ascending
  had : Carried v name first w.store s.id
  live : ∀ id, Carried v name first w.store id → Live v name w id → id = s.id ∨ Astray v name w.store id

theorem Sent.errand (h : Sent v name first w s) (e : Errand) : ∃ s', Sent v name first (w.errand v e) s' := by
  have hdoes := does_errand v h.session h.proper h.plain e
  generalize w.errand v e = w' at hdoes
  cases hdoes with
  | @nothing _ _ s' session same proper store plain later =>
    refine ⟨s', session, same.2.trans h.named, proper, plain, store ▸ h.ascending, ?_, ?_⟩
    · rw [store, same.1]
      exact h.had
    · intro id hhad hlive
      rw [store] at hhad ⊢
      rw [same.1]
      exact h.live id hhad (live_nothing store later hlive)
  | deleted session store clock =>
    rw [h.named] at store
    refine ⟨s, session, h.named, h.proper, clock ▸ h.plain, ?_, (carried_take store _).mpr (Or.inr h.had), ?_⟩
    · rw [store]
      exact Keyspace.ascending_answer h.ascending _ _
    · intro id hhad hlive
      rw [carried_take store] at hhad
      rw [astray_take store]
      have hlive' := live_deleted h.ascending store clock hlive
      exact (h.live id (hhad.resolve_left (by simp [Request.target?])) hlive').imp_right Or.inr
  | put session store clock live =>
    rw [h.named] at store
    refine ⟨s, session, h.named, h.proper, clock ▸ h.plain, ?_, (carried_take store _).mpr (Or.inr h.had), ?_⟩
    · rw [store]
      exact Keyspace.ascending_answer h.ascending _ _
    · intro id hhad hlive
      rw [carried_take store, Request.target?, Option.some_inj, Vault.key_inj_id] at hhad
      rw [live_put h.ascending store clock live] at hlive
      rw [astray_take store]
      by_cases hid : id = s.id
      · exact Or.inl hid
      · exact (h.live id (hhad.resolve_left (Ne.symm hid)) (hlive.resolve_left hid)).imp_right Or.inr
  | @moved verdict _ new _ _ session valid store clock live =>
    rw [h.named] at store
    have hasc : w'.store.keyspace.Ascending := by
      rw [store]
      exact Keyspace.ascending_answer h.ascending _ _
    -- The old identifier is not live any more, unless it is the new one too.
    have hrest : ∀ id, id ≠ new → Carried v name first w'.store id → Live v name w' id → Astray v name w.store id := by
      intro id hnew hhad hlive
      rw [carried_take store, Request.target?, Option.some_inj, Vault.key_inj_id] at hhad
      rw [live_moved h.ascending store clock live] at hlive
      obtain ⟨hold, hlive⟩ := hlive.resolve_left hnew
      exact (h.live id (hhad.resolve_left (Ne.symm hnew)) hlive).resolve_left hold
    cases hknown : verdict.known with
    | true =>
      rw [hknown] at session store
      refine ⟨s.withId new, session, h.named, ⟨valid, h.proper.expiresAt⟩, clock ▸ h.plain, hasc,
        (carried_take store _).mpr (Or.inl rfl), ?_⟩
      intro id hhad hlive
      rw [astray_take store]
      by_cases hid : id = new
      · exact Or.inl hid
      · exact Or.inr (Or.inr (hrest id hid hhad hlive))
    | false =>
      rw [hknown] at session store
      refine ⟨s, session, h.named, h.proper, clock ▸ h.plain, hasc, (carried_take store _).mpr (Or.inr h.had), ?_⟩
      intro id hhad hlive
      rw [astray_take store]
      by_cases hid : id = new
      · rw [hid]
        exact Or.inr (Or.inl ⟨rfl, _, _, _, rfl⟩)
      · exact Or.inr (Or.inr (hrest id hid hhad hlive))

/-! ### One errand -/

/-- An effect writes nothing back exactly if it writes under no retired key. -/
theorem writtenBack_take {r : Request} {known : Bool} (hstore : w'.store = w.store.take w.clock r known)
    (h : ¬WrittenBack w.store.effects) :
    ¬WrittenBack w'.store.effects ↔ ∀ key, r.target? = some key → ¬Retired key w.store.effects := by
  rw [effects_take hstore, WrittenBack]
  constructor
  · intro hback key htarget hretired
    exact hback (Or.inl ⟨key, htarget, hretired⟩)
  · rintro hretired (⟨key, htarget, hkey⟩ | hback)
    · exact hretired key htarget hkey
    · exact h hback

/-- Where no identifier becomes live, at most one is. -/
theorem AtMostOne.of_live (h : AtMostOne v name first w)
    (hhad : ∀ id, Carried v name first w'.store id → Carried v name first w.store id)
    (hlive : ∀ id, Live v name w' id → Live v name w id) : AtMostOne v name first w' :=
  fun id id' hi hi' hl hl' => h id id' (hhad id hi) (hhad id' hi') (hlive id hl) (hlive id' hl')

/-- Behind a write, one identifier at most is live exactly if none was that the session went astray to. -/
theorem Sent.atMostOne_write (h : Sent v name first w s) {r : Request} {known : Bool} {new : String}
    (hstore : w'.store = w.store.take w.clock r known) (htarget : r.target? = some (v.key name new))
    (hnew : Live v name w' new)
    (hlive : ∀ id, id ≠ new → id ≠ s.id → (Live v name w' id ↔ Live v name w id))
    (hown : s.id ≠ new → ¬Live v name w' s.id) :
    AtMostOne v name first w' ↔
      ∀ id, Astray v name w.store id → Live v name w id →
        w.session.map Session.id = some id ∨ v.key name id = v.key name new := by
  rw [h.session]
  have hhadnew : Carried v name first w'.store new := (carried_take hstore _).mpr (Or.inl htarget)
  constructor
  · intro hone id hastray hl
    by_cases hid : id = new
    · exact Or.inr (hid ▸ rfl)
    · by_cases hs : id = s.id
      · exact Or.inl (hs ▸ rfl)
      · exact absurd (hone id new ((carried_take hstore _).mpr (Or.inr (carried_of_astray hastray))) hhadnew
          ((hlive id hid hs).mpr hl) hnew) hid
  · intro hcareful
    have hall : ∀ id, Carried v name first w'.store id → Live v name w' id → id = new := by
      intro id hhad hl
      by_contra hid
      by_cases hs : id = s.id
      · exact hown (hs ▸ hid) (hs ▸ hl)
      · have hl' := (hlive id hid hs).mp hl
        rw [carried_take hstore, htarget, Option.some_inj, Vault.key_inj_id] at hhad
        have hastray := (h.live id (hhad.resolve_left (Ne.symm hid)) hl').resolve_left hs
        rcases hcareful id hastray hl' with hown | hkey
        · exact hs (Option.some.inj hown).symm
        · exact hid (v.key_inj_id.mp hkey)
    intro id id' hi hi' hl hl'
    exact (hall id hi hl).trans (hall id' hi' hl').symm

/-- A write from a safe point ends at a safe point exactly if it is careful. -/
theorem Sent.safe_write_iff (h : Sent v name first w s) (hsafe : Safe v name first w) {e : Errand} {r : Request}
    {known : Bool} {new : String} (hstore : (w.errand v e).store = w.store.take w.clock r known)
    (htarget : r.target? = some (v.key name new)) (hnew : Live v name (w.errand v e) new)
    (hlive : ∀ id, id ≠ new → id ≠ s.id → (Live v name (w.errand v e) id ↔ Live v name w id))
    (hown : s.id ≠ new → ¬Live v name (w.errand v e) s.id) :
    Safe v name first (w.errand v e) ↔ ∀ key, Writes v w e key → CarefulWrite v name w key := by
  rw [Safe, h.atMostOne_write hstore htarget hnew hlive hown, writtenBack_take hstore hsafe.2]
  constructor
  · rintro ⟨hone, hretired⟩ key hwrites
    have hkey := (writes_take hstore key).mp hwrites
    rw [htarget] at hkey
    cases hkey
    exact ⟨hone, hretired _ htarget⟩
  · intro hcareful
    have hwrite := hcareful _ ((writes_take hstore _).mpr htarget)
    refine ⟨hwrite.1, ?_⟩
    intro key hkey
    rw [htarget] at hkey
    cases hkey
    exact hwrite.2

/-- An errand from a safe point ends at a safe point exactly if its write, if it has any, is careful. -/
theorem Sent.safe_errand_iff (h : Sent v name first w s) (hsafe : Safe v name first w) (e : Errand) :
    Safe v name first (w.errand v e) ↔ ∀ key, Writes v w e key → CarefulWrite v name w key := by
  have hdoes := does_errand v h.session h.proper h.plain e
  cases hdoes with
  | nothing session same proper store plain later =>
    refine ⟨fun _ key hwrites => absurd hwrites (not_writes_nothing store key), fun _ => ⟨?_, ?_⟩⟩
    · exact hsafe.1.of_live (fun id hi => store ▸ hi) fun id hl => live_nothing store later hl
    · rw [store]
      exact hsafe.2
  | @deleted verdict _ session store clock =>
    rw [h.named] at store
    have hnone : ∀ key, ¬Writes v w (.call .destroy verdict) key := by
      intro key hwrites
      cases (writes_take store key).mp hwrites
    refine ⟨fun _ key hwrites => absurd hwrites (hnone key), fun _ => ⟨?_, ?_⟩⟩
    · refine hsafe.1.of_live ?_ fun id hl => live_deleted h.ascending store clock hl
      intro id hi
      exact ((carried_take store id).mp hi).resolve_left (by simp [Request.target?])
    · rw [writtenBack_take store hsafe.2]
      intro key htarget
      cases htarget
  | put session store clock live =>
    rw [h.named] at store
    have hlive : ∀ id, Live v name (w.errand v _) id ↔ id = s.id ∨ Live v name w id :=
      live_put h.ascending store clock live
    exact h.safe_write_iff hsafe store rfl ((hlive _).mpr (Or.inl rfl))
      (fun id hid _ => (hlive id).trans ⟨fun hor => hor.resolve_left hid, Or.inr⟩) fun hne => absurd rfl hne
  | moved session valid store clock live =>
    rw [h.named] at store
    have hlive : ∀ id, Live v name (w.errand v _) id ↔ id = _ ∨ id ≠ s.id ∧ Live v name w id :=
      live_moved h.ascending store clock live
    exact h.safe_write_iff hsafe store rfl ((hlive _).mpr (Or.inl rfl))
      (fun id hid hs => (hlive id).trans ⟨fun hor => (hor.resolve_left hid).2, fun hl => Or.inr ⟨hs, hl⟩⟩)
      fun hne hl => (((hlive s.id).mp hl).resolve_left hne).1 rfl

/-! ### Runs -/

/-- A run is safe at every point exactly if every write of it is careful. -/
theorem Sent.safe_iff_careful (h : Sent v name first w s) (hsafe : Safe v name first w) (errands : List Errand) :
    Throughout v (Safe v name first) w errands ↔ Careful v name w errands := by
  induction errands generalizing w s with
  | nil => exact ⟨fun _ => trivial, fun _ => hsafe⟩
  | cons e errands ih =>
    obtain ⟨s', hnext⟩ := h.errand e
    have hiff := h.safe_errand_iff hsafe e
    have hfirst : ∀ {w : World Ledger}, Throughout v (Safe v name first) w errands → Safe v name first w := by
      intro w hall
      cases errands with
      | nil => exact hall
      | cons e es => exact hall.1
    rw [Throughout, Careful]
    constructor
    · rintro ⟨-, hall⟩
      have hsafe' := hfirst hall
      exact ⟨hiff.mp hsafe', (ih hnext hsafe').mp hall⟩
    · rintro ⟨hcareful, hall⟩
      exact ⟨hsafe, (ih hnext (hiff.mpr hcareful)).mpr hall⟩

/-- A session that knows where it is: it never went astray, and it was not moved away from its identifier. -/
structure Located (v : Vault) (name : String) (w : World Ledger) (s : Session) : Prop where
  astray : ∀ id, ¬Astray v name w.store id
  retired : ¬Retired (v.key name s.id) w.store.effects

/-- Errands whose rotations are certain leave a session that knows where it is, and their writes are careful. -/
theorem Sent.located_errand (h : Sent v name first w s) (hloc : Located v name w s) {e : Errand} {s' : Session}
    (hnext : (w.errand v e).session = some s') (hcertain : CertainRotation v w e) :
    (∀ key, Writes v w e key → CarefulWrite v name w key) ∧ Located v name (w.errand v e) s' := by
  have hdoes := does_errand v h.session h.proper h.plain e
  cases hdoes with
  | nothing session same proper store plain later =>
    rw [session] at hnext
    cases hnext
    refine ⟨fun key hwrites => absurd hwrites (not_writes_nothing store key), ?_, ?_⟩
    · rw [store]
      exact hloc.astray
    · rw [store, same.1]
      exact hloc.retired
  | deleted session store clock =>
    rw [h.named] at store
    rw [session] at hnext
    cases hnext
    refine ⟨fun key hwrites => (by cases (writes_take store key).mp hwrites), ?_, ?_⟩
    · intro id hastray
      rcases (astray_take store id).mp hastray with ⟨-, old, text, ttl, hr⟩ | hastray
      · cases hr
      · exact hloc.astray id hastray
    · intro hretired
      rw [effects_take store, Retired] at hretired
      exact hloc.retired (hretired.2.resolve_left (by simp [Request.origin?]))
  | put session store clock live =>
    rw [h.named] at store
    rw [session] at hnext
    cases hnext
    refine ⟨?_, ?_, ?_⟩
    · intro key hwrites
      cases (writes_take store key).mp hwrites
      exact ⟨fun id hastray => absurd hastray (hloc.astray id), hloc.retired⟩
    · intro id hastray
      rcases (astray_take store id).mp hastray with ⟨-, old, text, ttl, hr⟩ | hastray
      · cases hr
      · exact hloc.astray id hastray
    · intro hretired
      rw [effects_take store, Retired] at hretired
      exact hretired.1 rfl
  | moved session valid store clock live =>
    rw [h.named] at store
    obtain ⟨hknown, hfresh⟩ := hcertain _ rfl
    rw [hknown] at session store
    rw [session] at hnext
    cases hnext
    refine ⟨fun key hwrites => ⟨fun id hastray => absurd hastray (hloc.astray id), hfresh key hwrites⟩, ?_, ?_⟩
    · intro id hastray
      rcases (astray_take store id).mp hastray with ⟨hfalse, -⟩ | hastray
      · cases hfalse
      · exact hloc.astray id hastray
    · intro hretired
      rw [effects_take store, Retired] at hretired
      exact hretired.1 rfl

theorem Sent.careful_of_certain (h : Sent v name first w s) (hloc : Located v name w s) {errands : List Errand}
    (hcertain : Certain v w errands) : Careful v name w errands := by
  induction errands generalizing w s with
  | nil => trivial
  | cons e errands ih =>
    obtain ⟨s', hnext⟩ := h.errand e
    obtain ⟨hwrite, hloc'⟩ := h.located_errand hloc hnext.session hcertain.1
    exact ⟨hwrite, ih hnext hloc' hcertain.2⟩

/-! ### Sessions of a bench -/

/-- A session that a bench holds is ready for errands. -/
theorem sent_send {b : Bench} {a : Roster} (h : Agree v b a) {n : Nat} (hs : b.sessions[n]? = some s) :
    Sent v s.name s.id (b.send n) s where
  session := hs
  named := rfl
  proper := h.proper n s ((h.sessions n).symm.trans hs)
  plain := by
    show b.clock.Plain
    rw [h.clock]
    exact h.plain
  ascending := h.ascending
  had := Or.inl rfl
  live id hhad _ := by
    rcases hhad with rfl | ⟨e, he, -⟩
    · exact Or.inl rfl
    · cases he

theorem safe_send (v : Vault) (name first : String) (b : Bench) (n : Nat) : Safe v name first (b.send n) := by
  refine ⟨?_, fun hback => hback⟩
  intro id id' hi hi' _ _
  rcases hi with rfl | ⟨e, he, -⟩
  · rcases hi' with rfl | ⟨e, he, -⟩
    · rfl
    · cases he
  · cases he

/-- Whatever clients had a bench do before, a session of theirs that is sent on errands has at most one live
identifier at every point, and is never written back under one that it was moved away from, exactly if the errands
are careful.  And they are if no rotation is in doubt and none draws an identifier again. -/
theorem safe_iff_careful_errands (v : Vault) (d : Duration) (entropy : Entropy) (acts : List Act) (n : Nat)
    (s : Session) (hs : (answers Bench.serve (Bench.start v d entropy) acts).2.sessions[n]? = some s)
    (errands : List Errand) :
    (Throughout v (Safe v s.name s.id) ((answers Bench.serve (Bench.start v d entropy) acts).2.send n) errands ↔
        Careful v s.name ((answers Bench.serve (Bench.start v d entropy) acts).2.send n) errands) ∧
      (Certain v ((answers Bench.serve (Bench.start v d entropy) acts).2.send n) errands →
        Careful v s.name ((answers Bench.serve (Bench.start v d entropy) acts).2.send n) errands) := by
  have hagree := (answers_agree (agree_start v d entropy) acts).2
  have hsent := sent_send hagree hs
  refine ⟨hsent.safe_iff_careful (safe_send v _ _ _ n) errands, ?_⟩
  intro hcertain
  refine hsent.careful_of_certain ⟨?_, fun hretired => hretired⟩ hcertain
  intro id hastray
  obtain ⟨e, he, -⟩ := hastray
  cases he

/-- A session is written and moved to another identifier. -/
def plainErrands : List Errand := [.call .persist .applied, .call .rotate .applied]

theorem certain_plainErrands : Certain Vault.sample (Bench.sample.send 0) plainErrands := by
  refine ⟨?_, ?_, trivial⟩
  · intro verdict hrotate
    cases hrotate
  · intro verdict hrotate
    cases hrotate
    refine ⟨rfl, ?_⟩
    rintro key - ⟨-, horigin | hretired⟩
    · cases horigin
    · exact hretired

theorem safe_iff_careful_sample :
    (Bench.sample.sessions[0]?).isSome = true ∧
      (Throughout Vault.sample (Safe Vault.sample "sid" Vault.sampleId) (Bench.sample.send 0) plainErrands ↔
        Careful Vault.sample "sid" (Bench.sample.send 0) plainErrands) ∧
      Careful Vault.sample "sid" (Bench.sample.send 0) plainErrands := by
  have h := safe_iff_careful_errands Vault.sample ⟨0⟩ Vault.sampleEntropy [.create "sid" (some (.ofSeconds 60))] 0 _ rfl
    plainErrands
  exact ⟨rfl, h.1, h.2 certain_plainErrands⟩

/-- A session is written, its rotation takes effect and is answered with a failure, and it is written again. -/
def doubtfulErrands : List Errand :=
  [.call .persist .applied, .call .rotate (.doubtful .timeout), .call .persist .applied]

/-- The identifier that the rotation draws, behind the first identifier and the nonce of the first write. -/
def doubtfulId : String :=
  Identifier.ofOctets
    (((Vault.sampleEntropy.draw Identifier.entropySize).2.draw Algorithm.aes256Gcm.nonceSize).2.draw
      Identifier.entropySize).1

/-- Both identifiers are live behind the last write. -/
theorem doubtful_not_safe :
    ¬Throughout Vault.sample (Safe Vault.sample "sid" Vault.sampleId) (Bench.sample.send 0) doubtfulErrands := by
  rintro ⟨-, -, -, hone, -⟩
  have hsame := hone Vault.sampleId doubtfulId (Or.inl rfl)
    (Or.inr ⟨_, List.mem_cons_of_mem _ List.mem_cons_self, rfl⟩) rfl rfl
  exact absurd hsame (by decide)

end SessionVault
