import SessionVault.Proofs.Keyspace

/-!
# A keyspace shows what an archive shows

An archive is a table of entries from which nothing is taken for its age: it shows an entry exactly while the clock is
before its expiry.  A keyspace drops entries that are past their expiry when somebody asks for one, when it is swept and
with every 64th write, and may read the clock again for that.  As long as the clock does not go back, no answer tells
the two apart:

* `Keyspace.act`, `Archive.act` — one act on the one and on the other, and what it shows;
* `Alike` — two tables that show the same now, and so at all later instants (`Alike.mono`);
* `Alike.act` — an act shows the same on both, and leaves tables that are alike;
* `sights_eq_archive` — so does every run from an empty store.
-/

namespace SessionVault

/-! ### Acts -/

/-- What is done with a store in memory. -/
inductive Keyspace.Act where
  | ask (r : Request)
  | overwrite (key text : String)
  | sweep
  | contains (key : String)
  | size
  | isEmpty

/-- What an act shows of a store.  How many entries a sweep drops, and whether there was one to overwrite, tells of
entries past their expiry and is left out. -/
inductive Sight where
  | reply (r : Reply)
  | flag (b : Bool)
  | count (n : Nat)
  | nothing

/-- An act, and the instants at which it reads the clock: when it starts, and when its write is counted. -/
structure Moment where
  act : Keyspace.Act
  now : Instant
  later : Instant

/-- An act on a keyspace: what it shows, and the keyspace behind it. -/
def Keyspace.act (k : Keyspace) (now later : Instant) : Act → Sight × Keyspace
  | .ask r => (.reply (k.answerAt now later r).1, (k.answerAt now later r).2.1)
  | .overwrite key text => (.nothing, (k.overwrite key text).2)
  | .sweep => (.nothing, (k.sweep now).2.1)
  | .contains key => (.flag (k.contains key now), k)
  | .size => (.count (k.size now), k)
  | .isEmpty => (.flag (k.isEmpty now), k)

/-- What a run of acts on a keyspace shows. -/
def Keyspace.sights (k : Keyspace) : List Moment → List Sight
  | [] => []
  | m :: ms => (k.act m.now m.later m.act).1 :: sights (k.act m.now m.later m.act).2 ms

/-! ### Archives -/

/-- Entries under their keys, all that were ever put in and not taken out. -/
abbrev Archive := Table Entry

namespace Archive

/-- The entry under a key, if it is not past its expiry. -/
def shown (l : Archive) (key : String) (now : Instant) : Option Entry := (l.get? key).filter fun e => e.isLive now

def live (l : Archive) (now : Instant) : Archive := l.filter fun e => e.2.isLive now

/-- Puts another text in the place of the one under a key, if there is one. -/
def overwrite (l : Archive) (key text : String) : Archive :=
  match l.get? key with
  | some e => l.insert key { e with text := text }
  | none => l

/-- An act on an archive: what it shows, and the archive behind it. -/
def act (l : Archive) (now : Instant) : Keyspace.Act → Sight × Archive
  | .ask (.get key) => (.reply (.ok ((l.shown key now).map Entry.text)), l)
  | .ask (.put key text ttl) => (.reply (.ok none), l.insert key ⟨text, now.add ttl⟩)
  | .ask (.delete key) => (.reply (.ok none), l.erase key)
  | .ask (.replace old new text ttl) => (.reply (.ok none), (l.erase old).insert new ⟨text, now.add ttl⟩)
  | .overwrite key text => (.nothing, l.overwrite key text)
  | .sweep => (.nothing, l)
  | .contains key => (.flag (l.shown key now).isSome, l)
  | .size => (.count (l.live now).length, l)
  | .isEmpty => (.flag (l.live now).isEmpty, l)

/-- What a run of acts on an archive shows. -/
def sights (l : Archive) : List Moment → List Sight
  | [] => []
  | m :: ms => (l.act m.now m.act).1 :: sights (l.act m.now m.act).2 ms

variable {l : Archive} {key : String} {now : Instant}

/-! ### What an archive shows -/

theorem shown_insert (l : Archive) (key key' : String) (e : Entry) (now : Instant) :
    shown (l.insert key e) key' now =
      if key = key' then (some e).filter fun e => e.isLive now else l.shown key' now := by
  rw [shown, Table.get?_insert]
  split <;> rfl

theorem shown_erase (l : Archive) (key key' : String) (now : Instant) :
    shown (l.erase key) key' now = if key = key' then none else l.shown key' now := by
  rw [shown, Table.get?_erase]
  split <;> rfl

/-- Another text under a key does not make its entry live longer. -/
theorem shown_overwrite (l : Archive) (key text key' : String) (now : Instant) :
    (l.overwrite key text).shown key' now =
      if key = key' then (l.shown key now).map fun e => { e with text := text } else l.shown key' now := by
  rw [overwrite]
  cases h : l.get? key with
  | none =>
    dsimp only
    split
    · rename_i hk
      rw [← hk, shown, h]
      rfl
    · rfl
  | some e =>
    dsimp only
    rw [shown_insert]
    split
    · rw [shown, h, Option.filter, Option.filter]
      cases hlive : e.isLive now with
      | true => exact if_pos hlive
      | false => exact if_neg (Bool.not_eq_true _ ▸ hlive)
    · rfl

theorem shown_live (h : Table.Ascending l) (key : String) (now : Instant) :
    (l.live now).shown key now = l.shown key now := by
  rw [shown, live, Table.get?_filter _ key h, Option.filter_filter, shown]
  congr 1
  funext e
  exact Bool.and_self _

theorem ascending_overwrite (h : Table.Ascending l) (key text : String) : Table.Ascending (l.overwrite key text) := by
  rw [overwrite]
  split
  · exact Table.ascending_insert key _ h
  · exact h

/-- The order in which a key is written and another one taken out does not matter. -/
theorem insert_erase (h : Table.Ascending l) (old new : String) (e : Entry) :
    (if old = new then l.insert new e else (l.insert new e).erase old) = (l.erase old).insert new e := by
  split
  · rename_i heq
    subst heq
    refine Table.eq_of_get? (Table.ascending_insert old e h)
      (Table.ascending_insert old e (Table.ascending_erase old h)) fun key => ?_
    rw [Table.get?_insert, Table.get?_insert, Table.get?_erase]
    split <;> rfl
  · rename_i hne
    refine Table.eq_of_get? (Table.ascending_erase old (Table.ascending_insert new e h))
      (Table.ascending_insert new e (Table.ascending_erase old h)) fun key => ?_
    rw [Table.get?_insert, Table.get?_erase, Table.get?_erase, Table.get?_insert]
    by_cases hnew : new = key
    · rw [if_neg (hnew ▸ hne), if_pos hnew, if_pos hnew]
    · rw [if_neg hnew, if_neg hnew]

end Archive

/-! ### Tables that are alike -/

/-- Two tables that show the same at an instant. -/
structure Alike (t l : Archive) (now : Instant) : Prop where
  held : Table.Ascending t
  kept : Table.Ascending l
  shown : ∀ key, t.shown key now = l.shown key now

namespace Alike

variable {t l : Archive} {k : Keyspace} {now later : Instant}

/-- What is dropped is shown at no later instant. -/
theorem mono (h : Alike t l now) (hlater : later.before now = false) : Alike t l later := by
  refine ⟨h.held, h.kept, ?_⟩
  intro key
  have hpast := fun t : Archive => Keyspace.shown_later (k := ⟨t, 0⟩) hlater key
  exact (hpast t).trans ((congrArg (Option.filter _) (h.shown key)).trans (hpast l).symm)

theorem insert (h : Alike t l now) (key : String) (e : Entry) : Alike (t.insert key e) (l.insert key e) now := by
  refine ⟨Table.ascending_insert key e h.held, Table.ascending_insert key e h.kept, ?_⟩
  intro key'
  rw [Archive.shown_insert, Archive.shown_insert, h.shown]

theorem erase (h : Alike t l now) (key : String) : Alike (t.erase key) (l.erase key) now := by
  refine ⟨Table.ascending_erase key h.held, Table.ascending_erase key h.kept, ?_⟩
  intro key'
  rw [Archive.shown_erase, Archive.shown_erase, h.shown]

theorem overwrite (h : Alike t l now) (key text : String) :
    Alike (t.overwrite key text) (l.overwrite key text) now := by
  refine ⟨Archive.ascending_overwrite h.held key text, Archive.ascending_overwrite h.kept key text, ?_⟩
  intro key'
  rw [Archive.shown_overwrite, Archive.shown_overwrite, h.shown, h.shown]

/-- An entry past its expiry may be dropped. -/
theorem drop (h : Alike t l now) {key : String} (hpast : t.shown key now = none) : Alike (t.erase key) l now := by
  refine ⟨Table.ascending_erase key h.held, h.kept, ?_⟩
  intro key'
  rw [Archive.shown_erase, ← h.shown]
  split
  · rename_i hk
    rw [← hk, hpast]
  · rfl

/-- All entries past their expiry may be dropped. -/
theorem live (h : Alike t l now) : Alike (t.live now) l now := by
  refine ⟨Table.ascending_filter _ h.held, h.kept, ?_⟩
  intro key
  rw [Archive.shown_live h.held, h.shown]

/-- The entries not past their expiry are the same. -/
theorem live_eq (h : Alike t l now) : t.live now = l.live now := by
  refine Table.eq_of_get? (Table.ascending_filter _ h.held) (Table.ascending_filter _ h.kept) fun key => ?_
  rw [Archive.live, Archive.live, Table.get?_filter _ key h.held, Table.get?_filter _ key h.kept]
  exact h.shown key

/-! ### Acts on tables that are alike -/

theorem countWrite (h : Alike k.entries l now) : Alike (k.countWrite now).1.entries l now := by
  rcases Keyspace.entries_countWrite k now with he | he
  · exact he ▸ h
  · exact he ▸ h.live

/-- A `get` shows what the archive shows, and drops nothing but an entry past its expiry. -/
theorem get (h : Alike k.entries l now) (key : String) :
    (k.answer now (.get key)).1 = .ok ((l.shown key now).map Entry.text) ∧
      Alike (k.answer now (.get key)).2.1.entries l now := by
  refine ⟨(k.answer_get now key).trans (congrArg (fun e => Except.ok (e.map Entry.text)) (h.shown key)), ?_⟩
  rw [Keyspace.answer, Keyspace.answerAt]
  split
  · exact h
  · rename_i e he
    split
    · exact h
    · rename_i hpast
      refine h.drop ?_
      rw [Archive.shown, he]
      exact if_neg hpast

/-- An act shows the same on a keyspace and on an archive that is alike, and leaves them alike. -/
theorem act (h : Alike k.entries l now) (hlater : later.before now = false) (a : Keyspace.Act) :
    (k.act now later a).1 = (l.act now a).1 ∧ Alike (k.act now later a).2.entries (l.act now a).2 later := by
  cases a with
  | ask r =>
    cases r with
    | get key =>
      obtain ⟨hreply, halike⟩ := h.get key
      exact ⟨congrArg Sight.reply hreply, halike.mono hlater⟩
    | put key text ttl => exact ⟨rfl, ((h.insert key _).mono hlater).countWrite⟩
    | delete key => exact ⟨rfl, (h.erase key).mono hlater⟩
    | replace old new text ttl =>
      refine ⟨rfl, Alike.countWrite ?_⟩
      -- The archive takes the old key out before it puts the new one in, which is what keeps a key replaced by itself.
      have hmoved := ((h.erase old).insert new ⟨text, now.add ttl⟩).mono hlater
      rw [← Archive.insert_erase h.held] at hmoved
      rw [apply_ite Keyspace.entries]
      exact hmoved
  | overwrite key text =>
    refine ⟨rfl, ?_⟩
    have hentries : (k.overwrite key text).2.entries = Archive.overwrite k.entries key text := by
      rw [Keyspace.overwrite, Archive.overwrite]
      cases k.entries.get? key <;> rfl
    show Alike (k.overwrite key text).2.entries _ _
    rw [hentries]
    exact (h.overwrite key text).mono hlater
  | sweep => exact ⟨rfl, h.live.mono hlater⟩
  | contains key =>
    refine ⟨congrArg Sight.flag ?_, h.mono hlater⟩
    rw [← h.shown key, Archive.shown, Option.isSome_filter]
    rfl
  | size => exact ⟨congrArg (fun t => Sight.count (List.length t)) h.live_eq, h.mono hlater⟩
  | isEmpty =>
    refine ⟨congrArg Sight.flag ?_, h.mono hlater⟩
    rw [← h.live_eq]
    show (List.length (Archive.live k.entries now) == 0) = _
    cases Archive.live k.entries now <;> rfl

end Alike

/-! ### Runs -/

/-- The readings of the clock in a run do not go back, from an instant on. -/
def Forward : Instant → List Moment → Prop
  | _, [] => True
  | t, m :: ms => m.now.before t = false ∧ m.later.before m.now = false ∧ Forward m.later ms

instance decidableForward : ∀ (t : Instant) (ms : List Moment), Decidable (Forward t ms)
  | _, [] => inferInstanceAs (Decidable True)
  | t, m :: ms =>
    have := decidableForward m.later ms
    inferInstanceAs (Decidable (m.now.before t = false ∧ m.later.before m.now = false ∧ Forward m.later ms))

theorem sights_eq_of_alike {k : Keyspace} {l : Archive} {t : Instant} {ms : List Moment} (h : Alike k.entries l t)
    (hforward : Forward t ms) : k.sights ms = l.sights ms := by
  induction ms generalizing k l t with
  | nil => rfl
  | cons m ms ih =>
    obtain ⟨hnow, hlater, hrest⟩ := hforward
    obtain ⟨hsight, hnext⟩ := (h.mono hnow).act hlater m.act
    rw [Keyspace.sights, Archive.sights, hsight, ih hnext hrest]

/-- From an empty store, every run of acts with a clock that does not go back shows on a keyspace what it shows on an
archive. -/
theorem sights_eq_archive (start : Instant) (ms : List Moment) (h : Forward start ms) :
    Keyspace.sights {} ms = Archive.sights [] ms :=
  sights_eq_of_alike ⟨Table.ascending_nil, Table.ascending_nil, fun _ => rfl⟩ h

/-- A text that never lives, and one that is changed, moved and asked for at its expiry. -/
def sampleMoments : List Moment :=
  let later := Instant.epoch.add (.ofSeconds 5)
  [⟨.ask (.put "a" "1" ⟨0⟩), .epoch, .epoch⟩, ⟨.ask (.put "b" "2" (.ofSeconds 9)), .epoch, .epoch⟩,
    ⟨.overwrite "a" "3", .epoch, .epoch⟩, ⟨.overwrite "b" "4", .epoch, .epoch⟩, ⟨.size, .epoch, .epoch⟩,
    ⟨.ask (.get "a"), .epoch, .epoch⟩, ⟨.ask (.get "b"), .epoch, .epoch⟩,
    ⟨.ask (.replace "b" "c" "5" (.ofSeconds 5)), .epoch, later⟩, ⟨.contains "c", later, later⟩,
    ⟨.sweep, later, later⟩, ⟨.isEmpty, later, later⟩]

theorem sights_eq_archive_sample : Forward .epoch sampleMoments ∧
    Keyspace.sights {} sampleMoments =
      [.reply (.ok none), .reply (.ok none), .nothing, .nothing, .count 1, .reply (.ok none), .reply (.ok (some "4")),
        .reply (.ok none), .flag false, .nothing, .flag true] := by
  have hforward : Forward .epoch sampleMoments := by decide
  exact ⟨hforward, (sights_eq_archive .epoch sampleMoments hforward).trans rfl⟩

end SessionVault
