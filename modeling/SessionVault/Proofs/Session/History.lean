import SessionVault.Proofs.Roster.Basic
import SessionVault.Session.Shape

/-!
# Sessions over whole runs

A run is a list of turns: the clock is read, and the session is changed or asked something.  What the session is behind
it depends on the mutations alone, which are the changes that can be made (`after_eq`); questions and changes that fail
leave it as it was.

* `lastValue`, `lastUpdate`, `lastExpiry` — what mutations leave under a key, of the last update and of the expiry;
* `History` — a session that is what mutations of a new one leave;
* `History.mutate` — one mutation, and `history_foldl` — any number of them;
* `Mirrors` — answers about the values that are those of a map;
* `history_after` — the law of a run on a new session.
-/

namespace SessionVault

/-! ### What a mutation leaves -/

namespace Mutation

/-- What a mutation leaves under a key, if it says anything about the key. -/
def leaves (key : String) : Mutation → Option (Option Json)
  | put key' v => if key' = key then some (some v) else none
  | take key' => if key' = key then some none else none
  | clear => some none
  | refresh _ | extend _ => none

/-- The expiry behind a mutation, in nanoseconds since the start of 1970, from the one before. -/
def expiry (now : Instant) (before : Int) : Mutation → Int
  | refresh ttl => min (now.total + ttl.nanos) Instant.latest.total
  | extend delta => min (before + delta.nanos) Instant.latest.total
  | _ => before

end Mutation

namespace Session

/-! ### Uses -/

inductive Question where
  | id
  | name
  | isNew
  | createdAt
  | updatedAt
  | expiresAt
  | isExpired
  | remaining
  | value (key : String)
  | typed (key : String) (shape : Shape)
  | contains (key : String)
  | keys
  | length
  | isEmpty
  | record

inductive Told where
  | done
  | failed (f : Failure)
  | text (s : String)
  | flag (b : Bool)
  | instant (t : Instant)
  | left (d : Option Duration)
  | value (v : Option Json)
  | texts (ss : List String)
  | count (n : Nat)
  | record (r : Record)

/-- A change of a session, or a question. -/
inductive Use where
  | change (c : Change)
  | ask (q : Question)

/-- A use of a session, and what the clock shows. -/
structure Turn where
  now : Instant
  use : Use

def told (s : Session) (now : Instant) : Question → Told
  | .id => .text s.id
  | .name => .text s.name
  | .isNew => .flag s.isNew
  | .createdAt => .instant s.record.createdAt
  | .updatedAt => .instant s.record.updatedAt
  | .expiresAt => .instant s.record.expiresAt
  | .isExpired => .flag (s.isExpired now)
  | .remaining => .left (s.remaining now)
  | .value key => .value (s.value? key)
  | .typed key shape => .value (s.get? shape.decoder key)
  | .contains key => .flag (s.values.has key)
  | .keys => .texts s.values.keys
  | .length => .count s.values.length
  | .isEmpty => .flag s.values.isEmpty
  | .record => .record s.record

def outcome (s : Session) (now : Instant) (c : Change) : Told :=
  match s.apply now c, c with
  | .error f, _ => .failed f
  | .ok _, .remove key => .value (s.value? key)
  | .ok _, _ => .done

/-- The answer to a use, and the session behind it. -/
def use (s : Session) (now : Instant) : Use → Told × Session
  | .change c => (s.outcome now c, s.changed now c)
  | .ask q => (s.told now q, s)

def after (s : Session) (turns : List Turn) : Session := turns.foldl (fun s t => (s.use t.now t.use).2) s

/-! ### Mutations -/

/-- The mutation that a use makes, if it makes one. -/
def Use.mutation? : Use → Option Mutation
  | .change c => c.mutation?
  | .ask _ => none

/-- Mutations, each with what the clock has shown. -/
abbrev Mutations := List (Instant × Mutation)

def mutations (turns : List Turn) : Mutations := turns.filterMap fun t => t.use.mutation?.map (t.now, ·)

/-- A use makes its mutation, and nothing else. -/
theorem use_eq (s : Session) (now : Instant) (u : Use) :
    (s.use now u).2 = u.mutation?.elim s (s.mutate now) := by
  cases u with
  | change c => exact changed_eq s now c
  | ask q => rfl

/-- What a run leaves, its mutations alone leave. -/
theorem after_eq (s : Session) (turns : List Turn) :
    s.after turns = (mutations turns).foldl (fun s m => s.mutate m.1 m.2) s := by
  induction turns generalizing s with
  | nil => rfl
  | cons t turns ih =>
    show ((s.use t.now t.use).2).after turns = _
    rw [ih, use_eq, mutations, mutations, List.filterMap_cons]
    cases t.use.mutation? <;> rfl

/-! ### What many mutations leave -/

/-- The value that the last mutation with something to say about a key leaves under it. -/
def lastValue (ms : Mutations) (key : String) : Option Json := (ms.reverse.findSome? fun m => m.2.leaves key).join

def lastUpdate (start : Instant) (ms : Mutations) : Instant := (ms.getLast?.map Prod.fst).getD start

def lastExpiry (first : Int) (ms : Mutations) : Int := ms.foldl (fun before m => m.2.expiry m.1 before) first

theorem lastValue_concat (ms : Mutations) (now : Instant) (m : Mutation) (key : String) :
    lastValue (ms ++ [(now, m)]) key = (m.leaves key).getD (lastValue ms key) := by
  rw [lastValue, List.reverse_concat, List.findSome?_cons]
  cases m.leaves key <;> rfl

theorem lastUpdate_concat (start : Instant) (ms : Mutations) (now : Instant) (m : Mutation) :
    lastUpdate start (ms ++ [(now, m)]) = now := by
  rw [lastUpdate, List.getLast?_concat]
  rfl

theorem lastExpiry_concat (first : Int) (ms : Mutations) (now : Instant) (m : Mutation) :
    lastExpiry first (ms ++ [(now, m)]) = m.expiry now (lastExpiry first ms) := by
  rw [lastExpiry, List.foldl_concat]
  rfl

/-! ### Histories -/

/-- A session that is what mutations of a new one leave. -/
structure History (new : Session) (ms : Mutations) (s : Session) : Prop where
  id : s.id = new.id
  name : s.name = new.name
  isNew : s.isNew = new.isNew
  createdAt : s.record.createdAt = new.record.createdAt
  value : ∀ key, s.value? key = lastValue ms key
  ascending : Table.Ascending s.values
  updatedAt : s.record.updatedAt = lastUpdate new.record.updatedAt ms
  plain : s.record.expiresAt.Plain
  expiresAt : s.record.expiresAt.total = lastExpiry new.record.expiresAt.total ms

namespace History

variable {new s : Session} {ms : Mutations} {now : Instant}

theorem nil (hvalues : new.values = []) (hplain : new.record.expiresAt.Plain) : History new [] new where
  id := rfl
  name := rfl
  isNew := rfl
  createdAt := rfl
  value key := by rw [Session.value?, hvalues]; rfl
  ascending := hvalues ▸ Table.ascending_nil
  updatedAt := rfl
  plain := hplain
  expiresAt := rfl

/-- What a mutation leaves under every key. -/
theorem value?_mutate (s : Session) (now : Instant) (m : Mutation) (key : String) :
    (s.mutate now m).value? key = (m.leaves key).getD (s.value? key) := by
  cases m with
  | put key' v =>
    show (s.values.insert key' v).get? key = _
    rw [Table.get?_insert, Mutation.leaves]
    split <;> rfl
  | take key' =>
    show (s.values.erase key').get? key = _
    rw [Table.get?_erase, Mutation.leaves]
    split <;> rfl
  | clear => rfl
  | refresh ttl => rfl
  | extend delta => rfl

theorem ascending_mutate (h : Table.Ascending s.values) (now : Instant) (m : Mutation) :
    Table.Ascending (s.mutate now m).values := by
  cases m with
  | put key v => exact Table.ascending_insert key v h
  | take key => exact Table.ascending_erase key h
  | clear => exact Table.ascending_nil
  | refresh ttl => exact h
  | extend delta => exact h

/-- The expiry moves by exact sums that are cut off at the last instant. -/
theorem expiresAt_mutate (hs : s.record.expiresAt.Plain) (hn : now.Plain) (m : Mutation) :
    (s.mutate now m).record.expiresAt.Plain ∧
      (s.mutate now m).record.expiresAt.total = m.expiry now s.record.expiresAt.total := by
  cases m with
  | put key v => exact ⟨hs, rfl⟩
  | take key => exact ⟨hs, rfl⟩
  | clear => exact ⟨hs, rfl⟩
  | refresh ttl => exact ⟨Instant.plain_add hn ttl, Instant.total_add hn ttl⟩
  | extend delta => exact ⟨Instant.plain_add hs delta, Instant.total_add hs delta⟩

/-- One mutation more. -/
theorem mutate (h : History new ms s) (hn : now.Plain) (m : Mutation) :
    History new (ms ++ [(now, m)]) (s.mutate now m) := by
  obtain ⟨hid, hname, hnew, hcreated, hupdated⟩ := identity_mutate s now m
  obtain ⟨hplain, hexpiry⟩ := expiresAt_mutate h.plain hn m
  refine ⟨hid.trans h.id, hname.trans h.name, hnew.trans h.isNew, hcreated.trans h.createdAt, ?_,
    ascending_mutate h.ascending now m, ?_, hplain, ?_⟩
  · intro key
    rw [value?_mutate, lastValue_concat, h.value]
  · rw [hupdated, lastUpdate_concat]
  · rw [hexpiry, lastExpiry_concat, h.expiresAt]

/-- Any number of mutations more. -/
theorem foldl (h : History new ms s) {more : Mutations} (hplain : ∀ m ∈ more, m.1.Plain) :
    History new (ms ++ more) (more.foldl (fun s m => s.mutate m.1 m.2) s) := by
  induction more generalizing ms s with
  | nil =>
    rw [List.append_nil]
    exact h
  | cons m more ih =>
    obtain ⟨hm, hmore⟩ := List.forall_mem_cons.mp hplain
    rw [List.append_cons]
    exact ih (h.mutate hm m.2) hmore

end History

/-! ### Answers -/

/-- Whatever is asked about the values of a session is answered from a map, and what is taken out is given back. -/
structure Mirrors (s : Session) (now : Instant) (map : String → Option Json) : Prop where
  value : ∀ key, s.told now (.value key) = .value (map key)
  typed : ∀ key shape, s.told now (.typed key shape) =
    .value ((map key).bind fun v => (Json.readAs shape.decoder v).toOption)
  contains : ∀ key, s.told now (.contains key) = .flag (map key).isSome
  taken : ∀ key, s.outcome now (.remove key) = .value (map key)
  keys : ∃ keys, s.told now .keys = .texts keys ∧ keys.Nodup ∧ (∀ key, key ∈ keys ↔ (map key).isSome) ∧
    s.told now .length = .count keys.length ∧ s.told now .isEmpty = .flag keys.isEmpty

theorem mirrors_value? {s : Session} (h : Table.Ascending s.values) (now : Instant) : s.Mirrors now s.value? := by
  refine ⟨fun _ => rfl, fun _ _ => rfl, fun _ => rfl, fun _ => rfl, s.values.keys, rfl, Table.nodup_keys h, ?_, ?_, ?_⟩
  · exact fun key => Table.mem_keys_iff h
  · rw [told, Table.keys, List.length_map]
  · rw [told, Table.keys, List.isEmpty_map]

/-! ### Runs -/

/-- What the clock shows from the start of a run until behind its last turn. -/
def readings (start : Instant) (turns : List Turn) (now : Instant) : List Instant :=
  start :: (turns.map Turn.now ++ [now])

/-- The clock never goes back. -/
def Forward (readings : List Instant) : Prop := readings.Pairwise fun a b => b.before a = false

theorem fst_mem_of_mem_mutations {turns : List Turn} {m : Instant × Mutation} (h : m ∈ mutations turns) :
    m.1 ∈ turns.map Turn.now := by
  obtain ⟨t, ht, hm⟩ := List.mem_filterMap.mp h
  obtain ⟨made, -, rfl⟩ := Option.map_eq_some_iff.mp hm
  exact List.mem_map_of_mem ht

/-- The last update is the start of the run, or one of its turns. -/
theorem lastUpdate_mem (start : Instant) (turns : List Turn) :
    lastUpdate start (mutations turns) = start ∨ lastUpdate start (mutations turns) ∈ turns.map Turn.now := by
  rw [lastUpdate]
  cases hlast : (mutations turns).getLast? with
  | none => exact Or.inl rfl
  | some m => exact Or.inr (fst_mem_of_mem_mutations (List.mem_of_getLast? hlast))

/-- The last update lies between the start of the run and whatever the clock shows behind it. -/
theorem lastUpdate_between {start now : Instant} {turns : List Turn} (h : Forward (readings start turns now)) :
    (lastUpdate start (mutations turns)).before start = false ∧
      now.before (lastUpdate start (mutations turns)) = false := by
  obtain ⟨hstart, hrest⟩ := List.pairwise_cons.mp h
  obtain ⟨-, -, hnow⟩ := List.pairwise_append.mp hrest
  rcases lastUpdate_mem start turns with hsame | hturn
  · rw [hsame]
    exact ⟨Instant.not_before_self start, hstart now (by simp)⟩
  · exact ⟨hstart _ (List.mem_append_left _ hturn), hnow _ hturn now (List.mem_singleton_self now)⟩

/-- What mutations leave of a new session. -/
theorem history_foldl (id name : String) (ttl : Duration) {start : Instant} (hstart : start.Plain) {ms : Mutations}
    (hplain : ∀ m ∈ ms, m.1.Plain) :
    History (Session.start id name ttl start) ms
      (ms.foldl (fun s m => s.mutate m.1 m.2) (Session.start id name ttl start)) :=
  (History.nil rfl (Instant.plain_add hstart ttl)).foldl hplain

/-- A change that fails, and a question, leave the session as it was. -/
theorem use_of_no_mutation {u : Use} (h : u.mutation? = none) (s : Session) (now : Instant) : (s.use now u).2 = s := by
  rw [use_eq, h]
  rfl

/-- The uses that make no mutation are the questions, and the values that cannot be made JSON. -/
theorem mutation?_eq_none_iff {u : Use} :
    u.mutation? = none ↔ (∃ q, u = .ask q) ∨ ∃ key p f, u = .change (.set key p) ∧ p.toJson = .error f := by
  cases u with
  | ask q => simp [Use.mutation?]
  | change c =>
    cases c with
    | set key p => cases hp : p.toJson <;> simp [Use.mutation?, Change.mutation?, hp, Except.toOption]
    | _ => simp [Use.mutation?, Change.mutation?]

/-- Any run on a new session with any lifetime, under a clock that never goes back and reads no leap second.

The values are those that the last mutations leave under each key, and all answers about them are.  The identifier, the
name, the instant of the start and that the session is new stay.  The last update is the last mutation, or the start, so
it lies between the start and the clock.  The expiry is the saturating sum of the refreshes and extensions alone, and not
beyond the last instant.  A question or a value that cannot be made JSON leaves the whole session as it was. -/
theorem history_after (id name : String) (ttl : Duration) {start now : Instant} {turns : List Turn}
    (hplain : ∀ t ∈ readings start turns now, t.Plain) (hforward : Forward (readings start turns now)) :
    ∃ s, (Session.start id name ttl start).after turns = s ∧
      s.value? = lastValue (mutations turns) ∧ s.Mirrors now (lastValue (mutations turns)) ∧
      (s.id = id ∧ s.name = name ∧ s.isNew = true ∧ s.record.createdAt = start) ∧
      s.record.updatedAt = lastUpdate start (mutations turns) ∧
      s.record.updatedAt.before s.record.createdAt = false ∧ now.before s.record.updatedAt = false ∧
      s.record.expiresAt.total =
        lastExpiry (min (start.total + ttl.nanos) Instant.latest.total) (mutations turns) ∧
      s.record.expiresAt.Plain ∧ Instant.latest.before s.record.expiresAt = false ∧
      ∀ (s : Session) (t : Instant) (u : Use),
        ((∃ q, u = .ask q) ∨ ∃ key p f, u = .change (.set key p) ∧ p.toJson = .error f) → (s.use t u).2 = s := by
  obtain ⟨hstart, hrest⟩ := List.forall_mem_cons.mp hplain
  have hturns : ∀ m ∈ mutations turns, m.1.Plain := fun m hm =>
    hrest m.1 (List.mem_append_left _ (fst_mem_of_mem_mutations hm))
  -- The run leaves what its mutations leave, and these are made at some of its readings.
  have h := history_foldl id name ttl hstart hturns
  rw [← after_eq] at h
  have hvalue := funext h.value
  obtain ⟨hcreated, hnow⟩ := lastUpdate_between hforward
  refine ⟨_, rfl, hvalue, hvalue ▸ mirrors_value? h.ascending now, ⟨h.id, h.name, h.isNew, h.createdAt⟩, h.updatedAt,
    ?_, ?_, ?_, h.plain, ?_, fun s t u hu => use_of_no_mutation (mutation?_eq_none_iff.mpr hu) s t⟩
  · rw [h.updatedAt, h.createdAt]
    exact hcreated
  · rw [h.updatedAt]
    exact hnow
  · rw [h.expiresAt]
    exact congrArg (lastExpiry · (mutations turns)) (Instant.total_add hstart ttl)
  · rw [Bool.eq_false_iff, Ne, Instant.before_iff_total Instant.plain_latest h.plain]
    exact (Instant.total_le_latest h.plain).not_gt

/-- A run with a value that is put in twice, once too large to be JSON, a question, a key that is not there, and an
extension beyond all time, a second after each other. -/
def sampleTurns : List Turn :=
  [⟨Instant.epoch.add (.ofSeconds 1), .change (.set "user" (.string "alice"))⟩,
    ⟨Instant.epoch.add (.ofSeconds 2), .change (.set "user" (.integer 0x10000000000000000))⟩,
    ⟨Instant.epoch.add (.ofSeconds 3), .change (.remove "cart")⟩,
    ⟨Instant.epoch.add (.ofSeconds 4), .ask (.contains "user")⟩,
    ⟨Instant.epoch.add (.ofSeconds 5), .change (.extend .longest)⟩,
    ⟨Instant.epoch.add (.ofSeconds 6), .ask .keys⟩]

theorem history_after_sample :
    (∀ t ∈ readings .epoch sampleTurns (Instant.epoch.add (.ofSeconds 7)), t.Plain) ∧
      Forward (readings .epoch sampleTurns (Instant.epoch.add (.ofSeconds 7))) ∧
      ∃ s, (start "abc" "sid" (.ofSeconds 60) .epoch).after sampleTurns = s ∧
        s.value? "user" = some (.string "alice") ∧ s.value? "cart" = none ∧
        s.record.updatedAt = Instant.epoch.add (.ofSeconds 5) ∧ s.record.expiresAt = .latest := by
  have hplain : ∀ t ∈ readings .epoch sampleTurns (Instant.epoch.add (.ofSeconds 7)), t.Plain := by decide
  have hforward : Forward (readings .epoch sampleTurns (Instant.epoch.add (.ofSeconds 7))) := by
    rw [Forward]
    decide
  obtain ⟨s, hs, hvalue, -, -, hupdated, -, -, hexpiry, hlast, -, -⟩ :=
    history_after "abc" "sid" (.ofSeconds 60) hplain hforward
  refine ⟨hplain, hforward, s, hs, (congrFun hvalue "user").trans rfl, (congrFun hvalue "cart").trans rfl,
    hupdated.trans rfl, ?_⟩
  exact Instant.eq_of_total hlast Instant.plain_latest (hexpiry.trans (by decide))

end Session

end SessionVault
