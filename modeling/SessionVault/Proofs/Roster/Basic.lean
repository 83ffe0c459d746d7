import SessionVault.Proofs.Vault.Calls

/-!
# Rosters: what clients of a vault rely on

Clients hold sessions under numbers, change them, and make the calls of a vault.  `Bench.serve` is what a bench does
for them.  A `Roster` is the table that they take the vault for: a record, or none, under each name and identifier.

* `Session.apply_eq_ok_iff` — a change of a session is a `Mutation`, or it cannot be made;
* `Act` — what a client does;
* `Bench.serve` — an act at a bench;
* `Roster.serve` — the same act on the table, with a function for what becomes of a record that is found;
* `answers` — what a list of acts is answered.
-/

namespace SessionVault

/-! ### Acts -/

inductive Change where
  | set (key : String) (value : Payload)
  | remove (key : String)
  | clear
  | refresh (ttl : Duration)
  | extend (delta : Duration)

def Session.apply (s : Session) (now : Instant) : Change → Except Failure Session
  | .set key value => s.set key value now
  | .remove key => .ok (s.remove key now)
  | .clear => .ok (s.clear now)
  | .refresh ttl => .ok (s.refresh ttl now)
  | .extend delta => .ok (s.extend delta now)

/-- The session after a change, or as it was if the change cannot be made. -/
def Session.changed (s : Session) (now : Instant) (c : Change) : Session :=
  match s.apply now c with
  | .ok s' => s'
  | .error _ => s

/-- A change that is made. -/
inductive Mutation where
  | put (key : String) (v : Json)
  | take (key : String)
  | clear
  | refresh (ttl : Duration)
  | extend (delta : Duration)

/-- What a change makes of a session, unless it puts in a value that cannot be made JSON. -/
def Change.mutation? : Change → Option Mutation
  | .set key p => p.toJson.toOption.map (.put key)
  | .remove key => some (.take key)
  | .clear => some .clear
  | .refresh ttl => some (.refresh ttl)
  | .extend delta => some (.extend delta)

theorem Change.mutation?_eq_put {c : Change} {key : String} {v : Json} (h : c.mutation? = some (.put key v)) :
    ∃ p, c = .set key p ∧ p.toJson = .ok v := by
  cases c with
  | set key' p =>
    obtain ⟨w, hw, hput⟩ := Option.map_eq_some_iff.mp h
    cases hput
    exact ⟨p, rfl, Decoder.eq_ok_iff.mpr hw⟩
  | _ => cases h

namespace Session

variable {s s' : Session} {now : Instant} {c : Change}

def mutate (s : Session) (now : Instant) : Mutation → Session
  | .put key v => s.change (·.insert key v) now
  | .take key => s.remove key now
  | .clear => s.clear now
  | .refresh ttl => s.refresh ttl now
  | .extend delta => s.extend delta now

/-- A change that can be made is a mutation. -/
theorem apply_eq_ok_iff : s.apply now c = .ok s' ↔ ∃ m, c.mutation? = some m ∧ s.mutate now m = s' := by
  cases c with
  | set key p =>
    rw [apply, set, Change.mutation?]
    cases hp : p.toJson with
    | error f =>
      constructor
      · intro h
        cases h
      · rintro ⟨m, hm, -⟩
        cases hm
    | ok v =>
      constructor
      · intro h
        exact ⟨.put key v, rfl, Except.ok.inj h⟩
      · rintro ⟨m, hm, rfl⟩
        cases hm
        rfl
  | _ => simp [apply, Change.mutation?, mutate]

/-- A change makes its mutation, and nothing else. -/
theorem changed_eq (s : Session) (now : Instant) (c : Change) :
    s.changed now c = c.mutation?.elim s (s.mutate now) := by
  cases c with
  | set key p =>
    rw [changed, apply, set, Change.mutation?]
    cases p.toJson <;> rfl
  | _ => rfl

/-- A mutation leaves who the session is, and notes when it is made. -/
theorem identity_mutate (s : Session) (now : Instant) (m : Mutation) :
    (s.mutate now m).id = s.id ∧ (s.mutate now m).name = s.name ∧ (s.mutate now m).isNew = s.isNew ∧
      (s.mutate now m).record.createdAt = s.record.createdAt ∧ (s.mutate now m).record.updatedAt = now := by
  cases m <;> exact ⟨rfl, rfl, rfl, rfl, rfl⟩

theorem id_apply (h : s.apply now c = .ok s') : s'.id = s.id ∧ s'.name = s.name := by
  obtain ⟨m, -, rfl⟩ := apply_eq_ok_iff.mp h
  obtain ⟨hid, hname, -⟩ := identity_mutate s now m
  exact ⟨hid, hname⟩

theorem id_changed (s : Session) (now : Instant) (c : Change) :
    (s.changed now c).id = s.id ∧ (s.changed now c).name = s.name := by
  rw [changed]
  cases hc : s.apply now c with
  | ok s' => exact id_apply hc
  | error f => exact ⟨rfl, rfl⟩

end Session

/-- The calls that are made on a session. -/
inductive Lifecycle where
  | persist
  | rotate
  | destroy

def Vault.lifecycle (v : Vault) : Lifecycle → Program Unit
  | .persist => v.persist
  | .rotate => v.rotate
  | .destroy => v.destroy

/-- What a client does.  Sessions have numbers, in the order that they were made or found in. -/
inductive Act where
  | create (name : String) (ttl : Option Duration)
  | load (name id : String)
  | resolve (incoming : Option String) (name : String)
  | change (n : Nat) (c : Change)
  | call (n : Nat) (c : Lifecycle)
  | tick (d : Duration)

/-- What an act is answered: a session where one was made or found. -/
abbrev Answer := Outcome (Option Session)

/-- The answers to a list of acts, and the state behind them. -/
def answers {σ : Type} (serve : σ → Act → Answer × σ) : σ → List Act → List Answer × σ
  | s, [] => ([], s)
  | s, a :: acts => ((serve s a).1 :: (answers serve (serve s a).2 acts).1, (answers serve (serve s a).2 acts).2)

/-! ### Benches -/

namespace Bench

/-- A bench at work on an empty keyspace, a time after the start of 1970. -/
def start (v : Vault) (d : Duration) (entropy : Entropy) : Bench :=
  { vault := v, clock := Instant.epoch.add d, entropy := entropy }

/-- The session that a call gave gets the next number. -/
def keep : Outcome Session × Bench → Answer × Bench
  | (.ended (.ok s), b) => (.ended (.ok (some s)), { b with sessions := b.sessions.push s })
  | (.ended (.error f), b) => (.ended (.error f), b)
  | (.givenUp, b) => (.givenUp, b)

/-- The result of a call that gives no session. -/
def report : Outcome Unit × Bench → Answer × Bench
  | (.ended r, b) => (.ended (r.map fun _ => none), b)
  | (.givenUp, b) => (.givenUp, b)

def serve (b : Bench) : Act → Answer × Bench
  | .create name ttl => keep (b.perform 0 (b.vault.create name ttl))
  | .load name id => keep (b.perform 0 (b.vault.load name id))
  | .resolve incoming name => keep (b.perform 0 (b.vault.resolve incoming name))
  | .change n c =>
    match b.sessions[n]? with
    | none => (.ended (.error .notFound), b)
    | some s =>
      match s.apply b.clock c with
      | .ok s' => (.ended (.ok none), b.modify n fun _ => s')
      | .error f => (.ended (.error f), b)
  | .call n c => report (b.performOn n (b.vault.lifecycle c))
  | .tick d => (.ended (.ok none), b.tick d)

/-- A bench with one session, which is not written yet. -/
def sample : Bench :=
  (answers serve (start Vault.sample ⟨0⟩ Vault.sampleEntropy) [.create "sid" (some (.ofSeconds 60))]).2

end Bench

/-! ### Rosters -/

/-- A table of records under names and identifiers, and the sessions of clients. -/
structure Roster where
  clock : Instant
  entropy : Entropy
  sessions : Array Session
  table : String → String → Option Record

namespace Roster

def start (d : Duration) (entropy : Entropy) : Roster := ⟨Instant.epoch.add d, entropy, #[], fun _ _ => none⟩

def put (a : Roster) (name id : String) (r : Option Record) : Roster :=
  { a with table := fun name' id' => if name' = name ∧ id' = id then r else a.table name' id' }

/-- The record under a name and an identifier, if it is not past its expiry. -/
def live? (a : Roster) (name id : String) : Option Record :=
  (a.table name id).filter fun r => a.clock.before r.expiresAt

/-- The session under a name and an identifier; `read` says what becomes of its record. -/
def find (read : Record → Except Failure Record) (a : Roster) (name id : String) : Except Failure Session :=
  if !Identifier.isValid id then .error .invalidSessionId
  else
    match a.live? name id with
    | none => .error .notFound
    | some r => (read r).map Session.ofRecord

def create (v : Vault) (a : Roster) (name : String) (ttl : Option Duration) : Session × Roster :=
  let drawn := a.entropy.draw Identifier.entropySize
  (Session.start (Identifier.ofOctets drawn.1) name (v.policy.effectiveTtl ttl) a.clock, { a with entropy := drawn.2 })

def keep (p : Session × Roster) : Answer × Roster :=
  (.ended (.ok (some p.1)), { p.2 with sessions := p.2.sessions.push p.1 })

/-- A call on a session.  What is written is the record of the session, if a millisecond of its life is left. -/
def call (v : Vault) (a : Roster) (n : Nat) (s : Session) : Lifecycle → Answer × Roster
  | .persist =>
    if Vault.Writable s.record.expiresAt a.clock then
      let a := { a with entropy := (a.entropy.draw v.envelope.cipher.algorithm.nonceSize).2 }
      (.ended (.ok none), a.put s.name s.id (some s.record))
    else (.ended (.error .expired), a)
  | .rotate =>
    if Vault.Writable s.record.expiresAt a.clock then
      let drawn := a.entropy.draw Identifier.entropySize
      let id := Identifier.ofOctets drawn.1
      let a : Roster :=
        { a with
          entropy := (drawn.2.draw v.envelope.cipher.algorithm.nonceSize).2
          sessions := a.sessions.modify n (·.withId id) }
      (.ended (.ok none), (a.put s.name s.id none).put s.name id (some { s.record with id := id }))
    else (.ended (.error .expired), a)
  | .destroy => (.ended (.ok none), a.put s.name s.id none)

/-- An act on the table; `read` says what becomes of a record that is found. -/
def serve (v : Vault) (read : Record → Except Failure Record) (a : Roster) : Act → Answer × Roster
  | .create name ttl => keep (a.create v name ttl)
  | .load name id =>
    match a.find read name id with
    | .ok s => keep (s, a)
    | .error f => (.ended (.error f), a)
  | .resolve incoming name =>
    match incoming.filter (· ≠ "") with
    | none => keep (a.create v name none)
    | some id =>
      match a.find read name id with
      | .ok s => keep (s, a)
      | .error f => if f.isContent then keep (a.create v name none) else (.ended (.error f), a)
  | .change n c =>
    match a.sessions[n]? with
    | none => (.ended (.error .notFound), a)
    | some s =>
      match s.apply a.clock c with
      | .ok s' => (.ended (.ok none), { a with sessions := a.sessions.modify n fun _ => s' })
      | .error f => (.ended (.error f), a)
  | .call n c =>
    match a.sessions[n]? with
    | none => (.ended (.error .notFound), a)
    | some s => a.call v n s c
  | .tick d => (.ended (.ok none), { a with clock := a.clock.add d })

end Roster

end SessionVault
