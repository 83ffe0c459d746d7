import SessionVault.Proofs.Envelope
import SessionVault.Proofs.Keyspace
import SessionVault.Proofs.Run
import SessionVault.Proofs.Session.Record
import SessionVault.Proofs.Vault.Keys

/-!
# The calls of a vault

What each call comes to when it runs to its end.

* `Writable` — the lifetime that is worth writing, and what is written of it;
* `check`, `receive`, `cleanup` — what a search does with what it is answered;
* `run_persist`, `run_rotate`, `run_destroy` — each of these calls makes one request, whatever store answers it;
* `run_create` — what is created comes from the entropy and the clock;
* `run_load_of_none`, `run_load_of_sealed` — over a keyspace a search finds nothing, or what the text of a sealed
  record says.
-/

namespace SessionVault.Vault

open Program

variable {σ : Type} {answers : Answers σ} {v : Vault}

/-! ### A vault and its entropy for runs on fixed inputs -/

theorem length_sampleKey : (List.replicate 32 0 : Bytes).length = Algorithm.aes256Gcm.keySize := rfl

theorem unsigned_sample : ∀ key, (none : Option Bytes) = some key → leastSigningKey ≤ key.length := by
  intro key h
  cases h

/-- A vault with the default policy, that seals under a key of zeros and signs nothing. -/
def sample : Vault := ⟨⟨⟨.aes256Gcm, List.replicate 32 0, length_sampleKey⟩, none, unsigned_sample⟩, {}⟩

/-- Entropy whose first octets are those of one identifier. -/
def sampleEntropy : Entropy := .ofSeed (List.replicate Identifier.entropySize 0) 0

/-- The first identifier that is drawn. -/
def sampleId : String := Identifier.ofOctets (List.replicate Identifier.entropySize 0)

/-! ### Lifetimes -/

/-- A millisecond at least is left of a record. -/
def Writable (expiresAt now : Instant) : Prop := now.total + 1000000 ≤ expiresAt.total

instance (expiresAt now : Instant) : Decidable (Writable expiresAt now) :=
  inferInstanceAs (Decidable (now.total + 1000000 ≤ expiresAt.total))

/-- What is worth writing is written until the instant at which the record expires. -/
theorem writableTtl_of_writable {expiresAt now : Instant} (he : expiresAt.Plain) (hn : now.Plain)
    (h : Writable expiresAt now) : ∃ ttl, writableTtl expiresAt now = .ok ttl ∧ now.add ttl = expiresAt := by
  rw [Writable] at h
  have hlt : now.total < expiresAt.total := by omega
  have hleft : expiresAt.remaining now = some ⟨(expiresAt.total - now.total).toNat⟩ :=
    (Instant.remaining_eq_some_iff he hn).mpr
      ⟨hlt, by show (((expiresAt.total - now.total).toNat : Nat) : Int) = _; omega⟩
  refine ⟨⟨(expiresAt.total - now.total).toNat⟩, ?_, Instant.add_remaining he hn hleft⟩
  have hmillis : 0 < Duration.millis ⟨(expiresAt.total - now.total).toNat⟩ := by
    show 0 < (expiresAt.total - now.total).toNat / 1000000
    omega
  rw [writableTtl, hleft]
  exact if_pos hmillis

theorem writableTtl_of_not_writable {expiresAt now : Instant} (he : expiresAt.Plain) (hn : now.Plain)
    (h : ¬Writable expiresAt now) : writableTtl expiresAt now = .error .expired := by
  rw [Writable] at h
  rw [writableTtl]
  cases hleft : expiresAt.remaining now with
  | none => rfl
  | some ttl =>
    obtain ⟨hlt, hd⟩ := (Instant.remaining_eq_some_iff he hn).mp hleft
    have hmillis : ¬0 < ttl.millis := by
      show ¬0 < ttl.nanos / 1000000
      omega
    exact if_neg hmillis

/-! ### Calls step by step -/

theorem create_eq (v : Vault) (name : String) (ttl : Option Duration) :
    v.create name ttl = .draw Identifier.entropySize fun octets => .clock fun now =>
      .done (Session.start (Identifier.ofOctets octets) name (v.policy.effectiveTtl ttl) now) := rfl

/-- The clean-up at the end of a search. -/
def cleanup (v : Vault) (name id : String) : Program Session :=
  .ask (.delete (v.key name id)) fun reply => (ofExcept reply).bind fun _ => .fail .expired

/-- What is noted of a clean-up. -/
def cleanupNote (name id : String) : Note :=
  ⟨.trace, "Removing expired session", [("session_name", name), ("session_id", Identifier.shown id)]⟩

/-- What a search does with a record that belongs where it was found. -/
def check (v : Vault) (name id : String) (r : Record) : Program Session :=
  .clock fun now =>
    if now.before r.expiresAt then .done (Session.ofRecord r) else .note (cleanupNote name id) (v.cleanup name id)

/-- What is noted of a record that does not belong where it was found. -/
def mismatchNote (name : String) : Note :=
  ⟨.warn, "Session record does not match its key", [("session_name", name)]⟩

/-- What a search does with the answer to its request. -/
def receive (v : Vault) (name id : String) (reply : Reply) : Program Session :=
  (ofExcept reply).bind fun
    | none => .fail .notFound
    | some text => (ofExcept (v.envelope.read Record.decoder text (associated name))).bind fun r =>
      if r.id ≠ id ∨ r.name ≠ name then .note (mismatchNote name) (.fail .invalidData) else v.check name id r

theorem load_eq (v : Vault) (name id : String) :
    v.load name id =
      if !Identifier.isValid id then .fail .invalidSessionId else .ask (.get (v.key name id)) (v.receive name id) := rfl

theorem persist_eq (v : Vault) :
    v.persist = .snapshot fun r => .clock fun now => (ofExcept (writableTtl r.expiresAt now)).bind fun ttl =>
      .draw v.envelope.cipher.algorithm.nonceSize fun nonce =>
      .ask (.put (v.key r.name r.id) (v.wrap nonce r) ttl) fun reply => (ofExcept reply).bind fun _ =>
      .note ⟨.debug, "Session persisted", [("session_name", r.name), ("session_id", Identifier.shown r.id),
        ("ttl_ms", toString ttl.millis)]⟩ (.done ()) := rfl

theorem rotate_eq (v : Vault) :
    v.rotate = .snapshot fun r => .clock fun now => (ofExcept (writableTtl r.expiresAt now)).bind fun ttl =>
      .draw Identifier.entropySize fun octets => .draw v.envelope.cipher.algorithm.nonceSize fun nonce =>
      .ask (.replace (v.key r.name r.id) (v.key r.name (Identifier.ofOctets octets))
        (v.wrap nonce { r with id := Identifier.ofOctets octets }) ttl) fun reply => (ofExcept reply).bind fun _ =>
      .note ⟨.debug, "Session identifier rotated", [("session_name", r.name), ("old_id", Identifier.shown r.id),
        ("new_id", Identifier.shown (Identifier.ofOctets octets))]⟩
        (.assign (Identifier.ofOctets octets) (.done ())) := rfl

theorem destroy_eq (v : Vault) :
    v.destroy = .snapshot fun r => .ask (.delete (v.key r.name r.id)) fun reply => (ofExcept reply).bind fun _ =>
      .note ⟨.debug, "Session destroyed", [("session_name", r.name)]⟩ (.done ()) := rfl

/-! ### Calls that write -/

variable {w : World σ} {s : Session}

theorem run_snapshot {α : Type} {next : Record → Program α} (hs : w.session = some s) :
    (Program.snapshot next).run answers w = (next s.record).run answers w := by
  rw [run, hs]

/-- A session without a lifetime worth writing is not written. -/
theorem run_persist_of_error {f : Failure} (hs : w.session = some s)
    (ht : writableTtl s.record.expiresAt w.clock = .error f) : v.persist.run answers w = (.error f, w) := by
  rw [persist_eq, run_snapshot hs, run, ht]
  rfl

/-- Writing a session is one request, and its reply is the result. -/
theorem run_persist {ttl : Duration} (hs : w.session = some s)
    (ht : writableTtl s.record.expiresAt w.clock = .ok ttl) :
    v.persist.run answers w =
      let drawn := w.entropy.draw v.envelope.cipher.algorithm.nonceSize
      let out := answers w.store w.clock (.put (v.key s.name s.id) (v.wrap drawn.1 s.record) ttl)
      (out.1.map fun _ => (), { w with entropy := drawn.2, store := out.2 }) := by
  rw [persist_eq, run_snapshot hs, run, ht, ofExcept_ok, run, run]
  show run answers ((ofExcept (answers w.store w.clock (.put (v.key s.name s.id) (v.wrap
    (w.entropy.draw v.envelope.cipher.algorithm.nonceSize).1 s.record) ttl)).1).bind _) _ = _
  dsimp only
  cases (answers w.store w.clock (.put (v.key s.name s.id)
    (v.wrap (w.entropy.draw v.envelope.cipher.algorithm.nonceSize).1 s.record) ttl)).1 with
  | ok x => rfl
  | error f => rfl

theorem run_rotate_of_error {f : Failure} (hs : w.session = some s)
    (ht : writableTtl s.record.expiresAt w.clock = .error f) : v.rotate.run answers w = (.error f, w) := by
  rw [rotate_eq, run_snapshot hs, run, ht]
  rfl

/-- Moving a session is one request, and the session takes the new identifier if the reply is no failure. -/
theorem run_rotate {ttl : Duration} (hs : w.session = some s)
    (ht : writableTtl s.record.expiresAt w.clock = .ok ttl) :
    v.rotate.run answers w =
      let drawn := w.entropy.draw Identifier.entropySize
      let sealing := drawn.2.draw v.envelope.cipher.algorithm.nonceSize
      let id := Identifier.ofOctets drawn.1
      let out := answers w.store w.clock (.replace (v.key s.name s.id) (v.key s.name id)
        (v.wrap sealing.1 { s.record with id := id }) ttl)
      (out.1.map fun _ => (), { w with
        entropy := sealing.2
        store := out.2
        session := some (if out.1.isOk then s.withId id else s) }) := by
  rw [rotate_eq, run_snapshot hs, run, ht, ofExcept_ok, run, run, run]
  show run answers ((ofExcept (answers w.store w.clock (.replace (v.key s.name s.id)
    (v.key s.name (Identifier.ofOctets (w.entropy.draw Identifier.entropySize).1))
    (v.wrap ((w.entropy.draw Identifier.entropySize).2.draw v.envelope.cipher.algorithm.nonceSize).1
      { s.record with id := Identifier.ofOctets (w.entropy.draw Identifier.entropySize).1 }) ttl)).1).bind _) _ = _
  dsimp only
  cases (answers w.store w.clock (.replace (v.key s.name s.id)
    (v.key s.name (Identifier.ofOctets (w.entropy.draw Identifier.entropySize).1))
    (v.wrap ((w.entropy.draw Identifier.entropySize).2.draw v.envelope.cipher.algorithm.nonceSize).1
      { s.record with id := Identifier.ofOctets (w.entropy.draw Identifier.entropySize).1 }) ttl)).1 with
  | ok x =>
    simp only [ofExcept_ok, run, hs]
    rfl
  | error f =>
    simp only [ofExcept_error, run, hs]
    rfl

theorem run_destroy (hs : w.session = some s) :
    v.destroy.run answers w =
      let out := answers w.store w.clock (.delete (v.key s.name s.id))
      (out.1.map fun _ => (), { w with store := out.2 }) := by
  rw [destroy_eq, run_snapshot hs, run]
  show run answers ((ofExcept (answers w.store w.clock (.delete (v.key s.name s.id))).1).bind _) _ = _
  dsimp only
  cases (answers w.store w.clock (.delete (v.key s.name s.id))).1 with
  | ok x => rfl
  | error f => rfl

/-! ### Making and finding sessions -/

theorem run_create (v : Vault) (name : String) (ttl : Option Duration) (w : World σ) :
    (v.create name ttl).run answers w =
      (.ok (Session.start (Identifier.ofOctets (w.entropy.draw Identifier.entropySize).1) name (v.policy.effectiveTtl ttl)
        w.clock), { w with entropy := (w.entropy.draw Identifier.entropySize).2 }) := by
  rw [create_eq, run, run, run]

/-- A sealed record is read again as its own text is. -/
theorem read_wrap (v : Vault) {nonce : Bytes} (hn : nonce.length = v.envelope.cipher.algorithm.nonceSize) (r : Record) :
    v.envelope.read Record.decoder (v.wrap nonce r) (associated r.name) = r.reread :=
  v.envelope.read_wrap Record.decoder (associated r.name) hn r.render_ne_nil

/-- A sealed record without values is read as itself. -/
theorem read_wrap_of_nil (v : Vault) {nonce : Bytes} (hn : nonce.length = v.envelope.cipher.algorithm.nonceSize)
    {r : Record} (hr : r.values = []) :
    v.envelope.read Record.decoder (v.wrap nonce r) (associated r.name) = .ok r := by
  rw [read_wrap v hn]
  exact (Record.reread_eq_self_iff r).mpr (Record.settled_of_nil hr)

/-- A search that is shown a sealed record goes on with what the text of the record says. -/
theorem receive_wrap (v : Vault) {nonce : Bytes} (hn : nonce.length = v.envelope.cipher.algorithm.nonceSize)
    {r r' : Record} (hr : r.reread = .ok r') :
    v.receive r.name r.id (.ok (some (v.wrap nonce r))) = v.check r.name r.id r' := by
  obtain ⟨values, rfl⟩ := Record.reread_eq_ok hr
  rw [receive, ofExcept_ok]
  dsimp only
  rw [read_wrap v hn, hr, ofExcept_ok]
  exact if_neg (by simp)

theorem run_load_of_not_valid {name id : String} (hid : Identifier.isValid id = false) :
    (v.load name id).run answers w = (.error .invalidSessionId, w) := by
  rw [load_eq, hid]
  rfl

variable {k : World Keyspace}

/-- Where nothing is shown under the key of a session, there is no session. -/
theorem run_load_of_none {name id : String} (hid : Identifier.isValid id = true)
    (hshown : k.store.shown (v.key name id) k.clock = none) :
    (v.load name id).run Keyspace.reply k =
      (.error .notFound, { k with store := (k.store.answer k.clock (.get (v.key name id))).2.1 }) := by
  have hreply : (Keyspace.reply k.store k.clock (.get (v.key name id))).1 = .ok none := by
    rw [Keyspace.reply, Keyspace.answer_get, hshown]
    rfl
  rw [load_eq, hid, Bool.not_true, if_neg Bool.false_ne_true, run, hreply]
  rfl

/-- A session whose sealed record is shown under its key is found as the text of the record says. -/
theorem run_load_of_sealed {name id : String} {nonce : Bytes} {r : Record} {expiresAt : Instant}
    (hid : Identifier.isValid id = true) (hn : nonce.length = v.envelope.cipher.algorithm.nonceSize)
    (hshown : k.store.shown (v.key name id) k.clock = some ⟨v.wrap nonce r, expiresAt⟩)
    (hname : r.name = name) (hrid : r.id = id) (hlive : k.clock.before r.expiresAt = true) :
    (v.load name id).run Keyspace.reply k =
      (r.reread.map Session.ofRecord, { k with store := (k.store.answer k.clock (.get (v.key name id))).2.1 }) := by
  have hreply : (Keyspace.reply k.store k.clock (.get (v.key name id))).1 = .ok (some (v.wrap nonce r)) := by
    rw [Keyspace.reply, Keyspace.answer_get, hshown]
    rfl
  rw [load_eq, hid, Bool.not_true, if_neg Bool.false_ne_true, run, hreply]
  subst hname hrid
  cases hr : r.reread with
  | error f =>
    rw [receive, ofExcept_ok]
    dsimp only
    rw [read_wrap v hn, hr]
    rfl
  | ok r' =>
    rw [receive_wrap v hn hr]
    obtain ⟨values, rfl⟩ := Record.reread_eq_ok hr
    rw [check, run, if_pos hlive]
    rfl

/-- A search asks for the text under one key, and takes it out. -/
def Sought (v : Vault) (name id : String) (r : Request) : Prop := r = .get (v.key name id) ∨ r = .delete (v.key name id)

theorem free_load (v : Vault) (name id : String) : (v.load name id).Free (v.Sought name id) := by
  rw [load_eq]
  split
  · trivial
  · refine ⟨Or.inl rfl, ?_⟩
    intro reply
    cases reply with
    | error f => trivial
    | ok text =>
      cases text with
      | none => trivial
      | some text =>
        rw [receive, ofExcept_ok]
        dsimp only
        cases v.envelope.read Record.decoder text (associated name) with
        | error f => trivial
        | ok r =>
          rw [ofExcept_ok]
          split
          · trivial
          · intro now
            dsimp only
            split
            · trivial
            · refine ⟨Or.inr rfl, ?_⟩
              intro reply
              cases reply <;> trivial

end SessionVault.Vault
