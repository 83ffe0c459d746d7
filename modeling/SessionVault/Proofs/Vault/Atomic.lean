import SessionVault.Proofs.Roster.Basic

/-!
# Calls that happen in one step or not at all

A call on a session is planned from the session, the clock and what it draws: a `Plan` is the one request that it
makes, and what the session is once the request is granted.  Only the plan is the call's own; what becomes of it is up
to the store that is asked, whatever store that is.  Records that are too long for their cipher are left out, as they
are where they are sealed (`Vault.wrap`).

* `writableTtl_cases` — a lifetime is worth writing from a whole millisecond on;
* `plan` — the plan of a call, or the failure of a call that makes no request, and `request_of_plan` — what a call that
  writes asks for;
* `run_of_plan`, `requests_of_plan` — a call does what its plan says, and `run_of_unplanned`, `requests_of_unplanned` —
  without a plan it does nothing;
* `lifecycle_atomic` — the law of calls on sessions.
-/

namespace SessionVault.Vault

open Program

variable {σ : Type} {answers : Answers σ} {v : Vault} {w : World σ} {s : Session} {c : Lifecycle}

/-! ### Results that are mapped -/

theorem map_eq_ok_iff {α β : Type} {x : Except Failure α} {f : α → β} {b : β} :
    x.map f = .ok b ↔ ∃ a, x = .ok a ∧ f a = b := by
  cases x with
  | ok a => simp [Except.map]
  | error e => simp [Except.map]

theorem isOk_map {α β : Type} (x : Except Failure α) (f : α → β) : (x.map f).isOk = x.isOk := by
  cases x with
  | ok a => rfl
  | error e => rfl

/-! ### Lifetimes worth writing -/

/-- A lifetime is worth writing from a whole millisecond on, in leap seconds and out of them. -/
theorem writableTtl_cases (expiresAt now : Instant) :
    expiresAt.since now < 1000000 ∧ writableTtl expiresAt now = .error .expired ∨
      ¬expiresAt.since now < 1000000 ∧ writableTtl expiresAt now = .ok ⟨(expiresAt.since now).toNat⟩ := by
  rw [writableTtl, Instant.remaining]
  by_cases hpos : 0 < expiresAt.since now
  · have hmillis : Duration.millis ⟨(expiresAt.since now).toNat⟩ = (expiresAt.since now).toNat / 1000000 := rfl
    simp only [if_pos hpos, hmillis]
    by_cases hwhole : expiresAt.since now < 1000000
    · refine Or.inl ⟨hwhole, if_neg ?_⟩
      omega
    · refine Or.inr ⟨hwhole, if_pos ?_⟩
      omega
  · refine Or.inl ⟨by omega, ?_⟩
    simp only [if_neg hpos]

/-! ### Plans -/

/-- What a call on a session is about to do. -/
structure Plan where
  /-- What the store is asked. -/
  request : Request
  /-- The entropy behind what is drawn. -/
  entropy : Entropy
  /-- The session once the request is granted. -/
  session : Session

/-- The plan of a call on a session, or why the call makes no request. -/
def plan (v : Vault) (now : Instant) (entropy : Entropy) (s : Session) : Lifecycle → Except Failure Plan
  | .persist => (writableTtl s.record.expiresAt now).map fun ttl =>
    let drawn := entropy.draw v.envelope.cipher.algorithm.nonceSize
    ⟨.put (v.key s.name s.id) (v.wrap drawn.1 s.record) ttl, drawn.2, s⟩
  | .rotate => (writableTtl s.record.expiresAt now).map fun ttl =>
    let drawn := entropy.draw Identifier.entropySize
    let sealing := drawn.2.draw v.envelope.cipher.algorithm.nonceSize
    let moved := s.withId (Identifier.ofOctets drawn.1)
    ⟨.replace (v.key s.name s.id) (v.key moved.name moved.id) (v.wrap sealing.1 moved.record) ttl, sealing.2, moved⟩
  | .destroy => .ok ⟨.delete (v.key s.name s.id), entropy, s⟩

/-- There is no plan exactly for a call that writes a session without a lifetime worth writing. -/
theorem plan_eq_error_iff {now : Instant} {entropy : Entropy} {f : Failure} :
    v.plan now entropy s c = .error f ↔
      f = .expired ∧ c ≠ .destroy ∧ s.record.expiresAt.since now < 1000000 := by
  rcases writableTtl_cases s.record.expiresAt now with ⟨hshort, httl⟩ | ⟨hlong, httl⟩
  · cases c with
    | persist => simp [plan, httl, hshort, Except.map, eq_comm]
    | rotate => simp [plan, httl, hshort, Except.map, eq_comm]
    | destroy => simp [plan]
  · cases c with
    | persist => simp [plan, httl, hlong, Except.map]
    | rotate => simp [plan, httl, hlong, Except.map]
    | destroy => simp [plan]

theorem writableTtl_of_unplanned {now : Instant} {entropy : Entropy} {f : Failure}
    (h : v.plan now entropy s c = .error f) : c ≠ .destroy ∧ writableTtl s.record.expiresAt now = .error f := by
  obtain ⟨rfl, hc, hshort⟩ := plan_eq_error_iff.mp h
  rcases writableTtl_cases s.record.expiresAt now with ⟨-, httl⟩ | ⟨hlong, -⟩
  · exact ⟨hc, httl⟩
  · exact absurd hshort hlong

/-- The plan of a call that does not move the session keeps it. -/
theorem session_plan {now : Instant} {entropy : Entropy} {p : Plan} (h : v.plan now entropy s c = .ok p)
    (hc : c ≠ .rotate) : p.session = s := by
  cases c with
  | persist =>
    obtain ⟨ttl, -, rfl⟩ := map_eq_ok_iff.mp h
    rfl
  | rotate => exact absurd rfl hc
  | destroy =>
    cases h
    rfl

/-- The plan of a move: the key that is taken out is that of the identifier before, and the key that is written and the
record under it have the identifier behind. -/
theorem plan_rotate {now : Instant} {entropy : Entropy} {p : Plan} (h : v.plan now entropy s .rotate = .ok p) :
    ∃ id nonce ttl, nonce.length = v.envelope.cipher.algorithm.nonceSize ∧ p.session = s.withId id ∧
      p.request = .replace (v.key s.name s.id) (v.key s.name id) (v.wrap nonce (s.withId id).record) ttl := by
  obtain ⟨ttl, -, rfl⟩ := map_eq_ok_iff.mp h
  exact ⟨_, _, ttl, Entropy.length_draw _ _, rfl, rfl⟩

/-- A call has a plan while the session is worth writing. -/
theorem exists_plan (v : Vault) (c : Lifecycle) {now : Instant} (entropy : Entropy) {ttl : Duration}
    (httl : writableTtl s.record.expiresAt now = .ok ttl) : ∃ p, v.plan now entropy s c = .ok p := by
  cases hplan : v.plan now entropy s c with
  | ok p => exact ⟨p, rfl⟩
  | error f =>
    obtain ⟨-, hexpired⟩ := writableTtl_of_unplanned hplan
    rw [httl] at hexpired
    cases hexpired

/-- A call that writes asks for an entry under the key of the session behind it, alone or in the place of the one
before, for the lifetime that is worth writing. -/
theorem request_of_plan {now : Instant} {entropy : Entropy} {p : Plan} {ttl : Duration} (hc : c ≠ .destroy)
    (h : v.plan now entropy s c = .ok p) (httl : writableTtl s.record.expiresAt now = .ok ttl) :
    ∃ text, c = .persist ∧ p.request = .put (v.key p.session.name p.session.id) text ttl ∨
      c = .rotate ∧ p.request = .replace (v.key s.name s.id) (v.key p.session.name p.session.id) text ttl := by
  cases c with
  | persist =>
    obtain ⟨ttl', httl', rfl⟩ := map_eq_ok_iff.mp h
    obtain rfl : ttl = ttl' := Except.ok.inj (httl.symm.trans httl')
    exact ⟨_, Or.inl ⟨rfl, rfl⟩⟩
  | rotate =>
    obtain ⟨ttl', httl', rfl⟩ := map_eq_ok_iff.mp h
    obtain rfl : ttl = ttl' := Except.ok.inj (httl.symm.trans httl')
    exact ⟨_, Or.inr ⟨rfl, rfl⟩⟩
  | destroy => exact absurd rfl hc

/-! ### Calls and their plans -/

theorem run_of_unplanned {f : Failure} (hs : w.session = some s) (h : v.plan w.clock w.entropy s c = .error f) :
    (v.lifecycle c).run answers w = (.error f, w) := by
  obtain ⟨hc, httl⟩ := writableTtl_of_unplanned h
  cases c with
  | persist => exact run_persist_of_error hs httl
  | rotate => exact run_rotate_of_error hs httl
  | destroy => exact absurd rfl hc

/-- A call makes the request of its plan, and its result is the reply; the session is as planned if the reply is no
failure, and as it was otherwise. -/
theorem run_of_plan {p : Plan} (hs : w.session = some s) (h : v.plan w.clock w.entropy s c = .ok p) :
    (v.lifecycle c).run answers w =
      let out := answers w.store w.clock p.request
      (out.1.map fun _ => (), { w with
        entropy := p.entropy
        store := out.2
        session := some (if out.1.isOk then p.session else s) }) := by
  have hsame : ∀ b : Bool, some (if b then s else s) = w.session := by
    intro b
    rw [hs, ite_self]
  cases c with
  | persist =>
    obtain ⟨ttl, httl, rfl⟩ := map_eq_ok_iff.mp h
    rw [lifecycle, run_persist hs httl]
    simp only [hsame]
  | rotate =>
    obtain ⟨ttl, httl, rfl⟩ := map_eq_ok_iff.mp h
    rw [lifecycle, run_rotate hs httl]
    rfl
  | destroy =>
    cases h
    rw [lifecycle, run_destroy hs]
    simp only [hsame]

/-! ### Requests of a call -/

theorem requests_snapshot {α : Type} {next : Record → Program α} (hs : w.session = some s) :
    (Program.snapshot next).requests answers w = (next s.record).requests answers w := by
  rw [requests, hs]

/-- A request whose reply is followed by no other is the only one. -/
theorem requests_ask {α : Type} (r : Request) {next : Option String → Program α}
    (hnext : ∀ x w', (next x).requests answers w' = []) (w : World σ) :
    (Program.ask r fun reply => (ofExcept reply).bind next).requests answers w = [r] := by
  rw [requests]
  cases (answers w.store w.clock r).1 with
  | ok x => rw [ofExcept_ok, hnext]
  | error f => rfl

theorem requests_of_unplanned {f : Failure} (hs : w.session = some s) (h : v.plan w.clock w.entropy s c = .error f) :
    (v.lifecycle c).requests answers w = [] := by
  obtain ⟨hc, httl⟩ := writableTtl_of_unplanned h
  cases c with
  | persist =>
    rw [lifecycle, persist_eq, requests_snapshot hs, requests, httl]
    rfl
  | rotate =>
    rw [lifecycle, rotate_eq, requests_snapshot hs, requests, httl]
    rfl
  | destroy => exact absurd rfl hc

theorem requests_of_plan {p : Plan} (hs : w.session = some s) (h : v.plan w.clock w.entropy s c = .ok p) :
    (v.lifecycle c).requests answers w = [p.request] := by
  cases c with
  | persist =>
    obtain ⟨ttl, httl, rfl⟩ := map_eq_ok_iff.mp h
    rw [lifecycle, persist_eq, requests_snapshot hs, requests, httl, ofExcept_ok, requests]
    exact requests_ask _ (fun _ _ => rfl) _
  | rotate =>
    obtain ⟨ttl, httl, rfl⟩ := map_eq_ok_iff.mp h
    rw [lifecycle, rotate_eq, requests_snapshot hs, requests, httl, ofExcept_ok, requests, requests]
    exact requests_ask _ (fun _ _ => rfl) _
  | destroy =>
    cases h
    rw [lifecycle, destroy_eq, requests_snapshot hs]
    exact requests_ask _ (fun _ _ => rfl) _

/-! ### The law of calls -/

/-- The text of a move says the identifier that the session is moved to, whatever is read from it. -/
theorem wrap_withId (v : Vault) {nonce : Bytes} (hn : nonce.length = v.envelope.cipher.algorithm.nonceSize)
    (s : Session) (id : String) :
    v.envelope.unwrap (v.wrap nonce (s.withId id).record) (associated s.name) = .ok (s.withId id).record.render ∧
      ∀ r, v.envelope.read Record.decoder (v.wrap nonce (s.withId id).record) (associated s.name) = .ok r →
        r.id = id := by
  refine ⟨v.envelope.unwrap_wrap _ hn (s.withId id).record.render_ne_nil, ?_⟩
  intro r hr
  have hreread : (s.withId id).record.reread = .ok r := (read_wrap v hn (s.withId id).record).symm.trans hr
  obtain ⟨values, rfl⟩ := Record.reread_eq_ok hreread
  rfl

/-- A call on a session, over any store, makes one request at most.  It makes none exactly if it writes the session
with less than a millisecond left; then it has expired, and nothing has changed.  The reply to a request is the result
of the call, and the request is all that happens to the store.  A call that fails leaves the session as it was, and so
does one that does not move it.  A move gives it another identifier and changes nothing else: the one that the new key
and the record in the text have, while the old key is that of the identifier before. -/
theorem lifecycle_atomic (v : Vault) (c : Lifecycle) (answers : Answers σ) (now : Instant) (entropy : Entropy)
    (store : σ) (s : Session) :
    let w : World σ := ⟨now, entropy, store, some s⟩
    let sent := (v.lifecycle c).requests answers w
    let out := (v.lifecycle c).run answers w
    sent.length ≤ 1 ∧ (sent = [] ↔ c ≠ .destroy ∧ s.record.expiresAt.since now < 1000000) ∧
      (sent = [] → out = (.error .expired, w)) ∧
      (∀ r, sent = [r] → out.1 = (answers store now r).1.map (fun _ => ()) ∧ out.2.store = (answers store now r).2) ∧
      (∀ f, out.1 = .error f → out.2.session = some s) ∧
      (out.1 = .ok () → c ≠ .rotate → out.2.session = some s) ∧
      (out.1 = .ok () → c = .rotate → ∃ id nonce text ttl, out.2.session = some (s.withId id) ∧
        sent = [.replace (v.key s.name s.id) (v.key s.name id) text ttl] ∧
        nonce.length = v.envelope.cipher.algorithm.nonceSize ∧ text = v.wrap nonce (s.withId id).record ∧
        v.envelope.unwrap text (associated s.name) = .ok (s.withId id).record.render ∧
        ∀ r, v.envelope.read Record.decoder text (associated s.name) = .ok r → r.id = id) := by
  intro w sent out
  -- A call without a plan makes no request, and one with a plan makes that of the plan.
  cases hplan : v.plan now entropy s c with
  | error f =>
    obtain ⟨rfl, hcause⟩ := plan_eq_error_iff.mp hplan
    have hsent : sent = [] := requests_of_unplanned rfl hplan
    have hout : out = (.error .expired, w) := run_of_unplanned rfl hplan
    rw [hsent, hout]
    refine ⟨Nat.zero_le 1, ⟨fun _ => hcause, fun _ => rfl⟩, fun _ => rfl, ?_, fun _ _ => rfl, fun _ _ => rfl, ?_⟩
    · intro r hr
      cases hr
    · intro hok
      cases hok
  | ok p =>
    have hsent : sent = [p.request] := requests_of_plan rfl hplan
    have hout : out = _ := run_of_plan rfl hplan
    have hresult : out.1 = (answers store now p.request).1.map fun _ => () := congrArg Prod.fst hout
    have hstore : out.2.store = (answers store now p.request).2 := congrArg (fun o => o.2.store) hout
    have hsession : out.2.session = some (if (answers store now p.request).1.isOk then p.session else s) :=
      congrArg (fun o => o.2.session) hout
    rw [hsent, hresult, hsession]
    refine ⟨Nat.le_refl 1, ⟨fun h => (by cases h), ?_⟩, fun h => (by cases h), ?_, ?_, ?_, ?_⟩
    · intro hcause
      rw [plan_eq_error_iff.mpr ⟨rfl, hcause⟩] at hplan
      cases hplan
    · intro r hr
      cases hr
      exact ⟨rfl, hstore⟩
    · intro f hf
      rw [← isOk_map, hf]
      rfl
    · intro hok hc
      rw [session_plan hplan hc, ite_self]
    · rintro hok rfl
      obtain ⟨id, nonce, ttl, hn, hmoved, hrequest⟩ := plan_rotate hplan
      obtain ⟨hopen, hread⟩ := wrap_withId v hn s id
      rw [← isOk_map, hok, hmoved, hrequest]
      exact ⟨id, nonce, _, ttl, rfl, rfl, hn, rfl, hopen, hread⟩

end SessionVault.Vault
