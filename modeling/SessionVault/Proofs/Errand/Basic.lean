import SessionVault.Proofs.Roster.Refinement

/-!
# Errands: calls whose replies cannot be trusted

One session is sent on errands, one after the other, over a store whose replies are not to be trusted: a request
may take effect and be answered with a failure all the same, as it is when the answer comes too late.  A `Ledger`
is a keyspace and the requests that took effect in it.

* `Verdict` — what becomes of a request;
* `World.errand` — an errand: a call and the verdict on its request, a change, or some time;
* `Live`, `Carried`, `Astray` — an identifier whose key shows an entry, one that the session has had or was moved to,
  and one that it was moved to without learning of it;
* `Retired`, `WrittenBack` — a key that the session was moved away from, and one that it was written to again;
* `does_errand` — all that an errand can do.
-/

namespace SessionVault

/-! ### Ledgers -/

/-- A request that took effect, and whether its reply said so. -/
structure Effect where
  request : Request
  known : Bool

/-- A keyspace and the requests that took effect in it, the latest first. -/
structure Ledger where
  keyspace : Keyspace
  effects : List Effect := []

def Ledger.take (l : Ledger) (now : Instant) (r : Request) (known : Bool) : Ledger :=
  ⟨(l.keyspace.answer now r).2.1, ⟨r, known⟩ :: l.effects⟩

/-- What becomes of a request. -/
inductive Verdict where
  /-- It takes effect and is answered. -/
  | applied
  /-- It does not take effect, and fails. -/
  | refused (f : Failure)
  /-- It takes effect, and fails. -/
  | doubtful (f : Failure)

/-- Whether the reply says what became of the request. -/
def Verdict.known : Verdict → Bool
  | .doubtful _ => false
  | _ => true

def Verdict.answers : Verdict → Answers Ledger
  | .applied, l, now, r => ((l.keyspace.answer now r).1, l.take now r true)
  | .refused f, l, _, _ => (.error f, l)
  | .doubtful f, l, now, r => (.error f, l.take now r false)

/-! ### Errands -/

/-- What a session is sent on. -/
inductive Errand where
  | call (c : Lifecycle) (verdict : Verdict)
  | change (c : Change)
  | tick (d : Duration)

def World.errand (v : Vault) (w : World Ledger) : Errand → World Ledger
  | .call c verdict => ((v.lifecycle c).run verdict.answers w).2
  | .change c => { w with session := w.session.map fun s => s.changed w.clock c }
  | .tick d => { w with clock := w.clock.add d }

/-- A session of a bench, ready for errands over the keyspace of the bench. -/
def Bench.send (b : Bench) (n : Nat) : World Ledger := ⟨b.clock, b.entropy, ⟨b.keyspace, []⟩, b.sessions[n]?⟩

/-! ### Identifiers -/

/-- The key that a request moves a text away from. -/
def Request.origin? : Request → Option String
  | .replace old new _ _ => if old = new then none else some old
  | _ => none

/-- A key that a text was moved away from, and not written to since. -/
def Retired (key : String) : List Effect → Prop
  | [] => False
  | e :: es => e.request.target? ≠ some key ∧ (e.request.origin? = some key ∨ Retired key es)

/-- A key was written to after a text had been moved away from it. -/
def WrittenBack : List Effect → Prop
  | [] => False
  | e :: es => (∃ key, e.request.target? = some key ∧ Retired key es) ∨ WrittenBack es

section Identifiers

variable (v : Vault) (name first : String)

/-- The key of an identifier shows an entry. -/
def Live (w : World Ledger) (id : String) : Prop := (w.store.keyspace.shown (v.key name id) w.clock).isSome = true

/-- The session had the identifier at first, or was written under it. -/
def Carried (l : Ledger) (id : String) : Prop :=
  id = first ∨ ∃ e ∈ l.effects, e.request.target? = some (v.key name id)

/-- The session was moved to the identifier, and the reply was a failure. -/
def Astray (l : Ledger) (id : String) : Prop :=
  ∃ e ∈ l.effects, e.known = false ∧ ∃ old text ttl, e.request = .replace old (v.key name id) text ttl

/-- At most one of the identifiers of the session is live. -/
def AtMostOne (w : World Ledger) : Prop :=
  ∀ id id', Carried v name first w.store id → Carried v name first w.store id' → Live v name w id →
    Live v name w id' → id = id'

end Identifiers

/-! ### What an errand does -/

open Roster in
/-- All that an errand can do, seen from the session before it. -/
inductive Does (v : Vault) (s : Session) (w : World Ledger) : Errand → World Ledger → Prop where
  /-- No request takes effect; the session may change and time may pass. -/
  | nothing {e : Errand} {w' : World Ledger} {s' : Session} (session : w'.session = some s')
    (same : s'.id = s.id ∧ s'.name = s.name) (proper : Proper s') (store : w'.store = w.store) (plain : w'.clock.Plain)
    (later : w'.clock.before w.clock = false) : Does v s w e w'
  | deleted {verdict : Verdict} {w' : World Ledger} (session : w'.session = some s)
    (store : w'.store = w.store.take w.clock (.delete (v.key s.name s.id)) verdict.known) (clock : w'.clock = w.clock) :
    Does v s w (.call .destroy verdict) w'
  | put {verdict : Verdict} {w' : World Ledger} {text : String} {ttl : Duration} (session : w'.session = some s)
    (store : w'.store = w.store.take w.clock (.put (v.key s.name s.id) text ttl) verdict.known)
    (clock : w'.clock = w.clock) (live : w.clock.before (w.clock.add ttl) = true) :
    Does v s w (.call .persist verdict) w'
  /-- The session takes the new identifier if the reply says that the store has. -/
  | moved {verdict : Verdict} {w' : World Ledger} {id text : String} {ttl : Duration}
    (session : w'.session = some (if verdict.known then s.withId id else s)) (valid : Identifier.isValid id = true)
    (store : w'.store = w.store.take w.clock (.replace (v.key s.name s.id) (v.key s.name id) text ttl) verdict.known)
    (clock : w'.clock = w.clock) (live : w.clock.before (w.clock.add ttl) = true) :
    Does v s w (.call .rotate verdict) w'

open Roster in
theorem does_errand (v : Vault) {w : World Ledger} {s : Session} (hs : w.session = some s) (hp : Proper s)
    (hc : w.clock.Plain) (e : Errand) : Does v s w e (w.errand v e) := by
  have hsame : w.clock.before w.clock = false := Instant.not_before_self w.clock
  cases e with
  | tick d => exact .nothing hs ⟨rfl, rfl⟩ hp rfl (Instant.plain_add hc d) (Instant.not_before_add hc d)
  | change c =>
    have hsession : (w.errand v (.change c)).session = some (s.changed w.clock c) := by
      rw [World.errand, hs]
      rfl
    cases ha : s.apply w.clock c with
    | error f =>
      rw [Session.changed, ha] at hsession
      exact .nothing hsession ⟨rfl, rfl⟩ hp rfl hc hsame
    | ok s' =>
      rw [Session.changed, ha] at hsession
      exact .nothing hsession (Session.id_apply ha) (proper_apply hp hc ha) rfl hc hsame
  | call c verdict =>
    -- What is written lives until the session expires, which is a millisecond away at least.
    have hlive : ∀ {ttl : Duration}, Vault.Writable s.record.expiresAt w.clock → w.clock.add ttl = s.record.expiresAt →
        w.clock.before (w.clock.add ttl) = true := by
      intro ttl hw hend
      rw [Vault.Writable] at hw
      rw [hend, Instant.before_iff_total hc hp.expiresAt]
      omega
    cases c with
    | persist =>
      by_cases hw : Vault.Writable s.record.expiresAt w.clock
      · obtain ⟨ttl, httl, hend⟩ := Vault.writableTtl_of_writable hp.expiresAt hc hw
        rw [World.errand, Vault.lifecycle, Vault.run_persist hs httl]
        cases verdict with
        | applied => exact .put hs rfl rfl (hlive hw hend)
        | refused f => exact .nothing hs ⟨rfl, rfl⟩ hp rfl hc hsame
        | doubtful f => exact .put hs rfl rfl (hlive hw hend)
      · rw [World.errand, Vault.lifecycle,
          Vault.run_persist_of_error hs (Vault.writableTtl_of_not_writable hp.expiresAt hc hw)]
        exact .nothing hs ⟨rfl, rfl⟩ hp rfl hc hsame
    | rotate =>
      by_cases hw : Vault.Writable s.record.expiresAt w.clock
      · obtain ⟨ttl, httl, hend⟩ := Vault.writableTtl_of_writable hp.expiresAt hc hw
        have hid := Identifier.isValid_ofOctets (Entropy.length_draw Identifier.entropySize w.entropy)
        rw [World.errand, Vault.lifecycle, Vault.run_rotate hs httl]
        cases verdict with
        | applied => exact .moved rfl hid rfl rfl (hlive hw hend)
        | refused f => exact .nothing rfl ⟨rfl, rfl⟩ hp rfl hc hsame
        | doubtful f => exact .moved rfl hid rfl rfl (hlive hw hend)
      · rw [World.errand, Vault.lifecycle,
          Vault.run_rotate_of_error hs (Vault.writableTtl_of_not_writable hp.expiresAt hc hw)]
        exact .nothing hs ⟨rfl, rfl⟩ hp rfl hc hsame
    | destroy =>
      rw [World.errand, Vault.lifecycle, Vault.run_destroy hs]
      cases verdict with
      | applied => exact .deleted hs rfl rfl
      | refused f => exact .nothing hs ⟨rfl, rfl⟩ hp rfl hc hsame
      | doubtful f => exact .deleted hs rfl rfl

end SessionVault
