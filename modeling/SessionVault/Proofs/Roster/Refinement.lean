import SessionVault.Proofs.Roster.Basic
import SessionVault.Proofs.Vault.Resolve

/-!
# Benches serve as rosters

A bench and a roster `Agree` if the clients see the same sessions and clock, and each key of the keyspace shows the
sealed record of the table.  Every act is answered alike and keeps the agreement (`serve_agree`), so whole lists of
acts are answered alike (`answers_agree`).
-/

namespace SessionVault

namespace Roster

open Program

/-! ### Agreement -/

/-- An entry is the sealed record, and expires with it; where there is no record there is no entry. -/
inductive Holds (v : Vault) : Option Entry → Option Record → Prop where
  | nothing : Holds v none none
  | record {nonce : Bytes} {r : Record} (h : nonce.length = v.envelope.cipher.algorithm.nonceSize) :
    Holds v (some ⟨v.wrap nonce r, r.expiresAt⟩) (some r)

theorem Holds.filter {v : Vault} {e : Option Entry} {r : Option Record} (h : Holds v e r) (now : Instant) :
    Holds v (e.filter fun e => e.isLive now) (r.filter fun r => now.before r.expiresAt) := by
  cases h with
  | nothing => exact .nothing
  | @record nonce r hn =>
    show Holds v (if now.before r.expiresAt then some _ else none) (if now.before r.expiresAt then some r else none)
    split
    · exact .record hn
    · exact .nothing

/-- A session that a client holds: its identifier has the shape of one, and its expiry lies in no leap second. -/
structure Proper (s : Session) : Prop where
  id : Identifier.isValid s.id = true
  expiresAt : s.record.expiresAt.Plain

/-- A record that belongs under a name and an identifier. -/
structure Fits (name id : String) (r : Record) : Prop where
  name : r.name = name
  id : r.id = id
  expiresAt : r.expiresAt.Plain

/-- The records of the table stand under their own names and identifiers. -/
def Filed (a : Roster) : Prop := ∀ name id r, a.table name id = some r → Fits name id r

/-- A bench and a roster that clients cannot tell apart. -/
structure Agree (v : Vault) (b : Bench) (a : Roster) : Prop where
  idle : b.Idle
  vault : b.vault = v
  clock : b.clock = a.clock
  plain : a.clock.Plain
  entropy : b.entropy = a.entropy
  sessions : ∀ n : Nat, b.sessions[n]? = a.sessions[n]?
  proper : ∀ (n : Nat) (s : Session), a.sessions[n]? = some s → Proper s
  ascending : b.keyspace.Ascending
  filed : a.Filed
  holds : ∀ name id, Identifier.isValid id = true →
    Holds v (b.keyspace.shown (v.key name id) a.clock) (a.live? name id)

theorem agree_start (v : Vault) (d : Duration) (entropy : Entropy) :
    Agree v (Bench.start v d entropy) (start d entropy) where
  idle := ⟨rfl, rfl, rfl⟩
  vault := rfl
  clock := rfl
  plain := Instant.plain_add Instant.plain_epoch d
  entropy := rfl
  sessions _ := rfl
  proper n s h := by
    simp [start] at h
  ascending := Keyspace.ascending_empty
  filed _ _ _ h := by cases h
  holds _ _ _ := .nothing

/-! ### Proper sessions -/

theorem proper_start {octets : Bytes} (h : octets.length = Identifier.entropySize) (name : String) (ttl : Duration)
    {now : Instant} (hn : now.Plain) : Proper (Session.start (Identifier.ofOctets octets) name ttl now) :=
  ⟨Identifier.isValid_ofOctets h, Instant.plain_add hn ttl⟩

theorem proper_apply {s s' : Session} {now : Instant} {c : Change} (hs : Proper s) (hn : now.Plain)
    (h : s.apply now c = .ok s') : Proper s' := by
  obtain ⟨m, -, rfl⟩ := Session.apply_eq_ok_iff.mp h
  cases m with
  | refresh ttl => exact ⟨hs.id, Instant.plain_add hn ttl⟩
  | extend delta => exact ⟨hs.id, Instant.plain_add hs.expiresAt delta⟩
  | _ => exact ⟨hs.id, hs.expiresAt⟩

/-! ### The table -/

theorem live?_put (a : Roster) (name id name' id' : String) (r : Option Record) :
    (a.put name id r).live? name' id' =
      if name' = name ∧ id' = id then r.filter fun r => a.clock.before r.expiresAt else a.live? name' id' := by
  show Option.filter _ (if name' = name ∧ id' = id then r else a.table name' id') = _
  split <;> rfl

theorem Filed.put {a : Roster} (h : a.Filed) {name id : String} {r : Option Record}
    (hr : ∀ r' ∈ r, Fits name id r') : (a.put name id r).Filed := by
  intro name' id' r' hput
  replace hput : (if name' = name ∧ id' = id then r else a.table name' id') = some r' := hput
  split at hput
  · rename_i hsame
    rw [hsame.1, hsame.2]
    exact hr r' hput
  · exact h name' id' r' hput

/-! ### Requests -/

variable {v : Vault} {b : Bench} {a : Roster}

/-- Sessions whose identifiers are valid share a key only if they share name and identifier. -/
theorem key_eq_iff {name id name' id' : String} (h : Identifier.isValid id = true)
    (h' : Identifier.isValid id' = true) : v.key name' id' = v.key name id ↔ name = name' ∧ id = id' := by
  rw [v.key_inj h' h, eq_comm, @eq_comm _ id']

theorem Agree.holds_get (h : Agree v b a) (key : String) {name id : String} (hid : Identifier.isValid id = true) :
    Holds v ((b.keyspace.answer a.clock (.get key)).2.1.shown (v.key name id) a.clock) (a.live? name id) := by
  rw [Keyspace.shown_answer h.ascending]
  exact h.holds name id hid

theorem Agree.holds_put (h : Agree v b a) {s : Session} (hs : Proper s) {nonce : Bytes}
    (hn : nonce.length = v.envelope.cipher.algorithm.nonceSize) {ttl : Duration}
    (httl : a.clock.add ttl = s.record.expiresAt) {name id : String} (hid : Identifier.isValid id = true) :
    Holds v ((b.keyspace.answer a.clock (.put (v.key s.name s.id) (v.wrap nonce s.record) ttl)).2.1.shown
      (v.key name id) a.clock) ((a.put s.name s.id (some s.record)).live? name id) := by
  rw [Keyspace.shown_answer h.ascending, live?_put, Request.leaves, httl]
  by_cases hsame : name = s.name ∧ id = s.id
  · rw [if_pos ((key_eq_iff hid hs.id).mpr hsame), if_pos hsame]
    exact Holds.filter (.record hn) a.clock
  · rw [if_neg fun hk => hsame ((key_eq_iff hid hs.id).mp hk), if_neg hsame]
    exact h.holds name id hid

theorem Agree.holds_delete (h : Agree v b a) {s : Session} (hs : Proper s) {name id : String}
    (hid : Identifier.isValid id = true) :
    Holds v ((b.keyspace.answer a.clock (.delete (v.key s.name s.id))).2.1.shown (v.key name id) a.clock)
      ((a.put s.name s.id none).live? name id) := by
  rw [Keyspace.shown_answer h.ascending, live?_put, Request.leaves]
  by_cases hsame : name = s.name ∧ id = s.id
  · rw [if_pos ((key_eq_iff hid hs.id).mpr hsame), if_pos hsame]
    exact .nothing
  · rw [if_neg fun hk => hsame ((key_eq_iff hid hs.id).mp hk), if_neg hsame]
    exact h.holds name id hid

theorem Agree.holds_replace (h : Agree v b a) {s : Session} (hs : Proper s) {nonce : Bytes}
    (hn : nonce.length = v.envelope.cipher.algorithm.nonceSize) {new : String} (hnew : Identifier.isValid new = true)
    {ttl : Duration} (httl : a.clock.add ttl = s.record.expiresAt) {name id : String}
    (hid : Identifier.isValid id = true) :
    Holds v ((b.keyspace.answer a.clock (.replace (v.key s.name s.id) (v.key s.name new)
      (v.wrap nonce { s.record with id := new }) ttl)).2.1.shown (v.key name id) a.clock)
      (((a.put s.name s.id none).put s.name new (some { s.record with id := new })).live? name id) := by
  rw [Keyspace.shown_answer h.ascending, live?_put, live?_put, Request.leaves, httl]
  by_cases hmoved : name = s.name ∧ id = new
  · rw [if_pos ((key_eq_iff hid hnew).mpr hmoved), if_pos hmoved]
    exact Holds.filter (.record (r := { s.record with id := new }) hn) a.clock
  · rw [if_neg fun hk => hmoved ((key_eq_iff hid hnew).mp hk), if_neg hmoved]
    by_cases hsame : name = s.name ∧ id = s.id
    · rw [if_pos ((key_eq_iff hid hs.id).mpr hsame), if_pos hsame]
      exact .nothing
    · rw [if_neg fun hk => hsame ((key_eq_iff hid hs.id).mp hk), if_neg hsame]
      exact h.holds name id hid

/-! ### Benches and sessions after a call -/

/-- What a call on a session runs in. -/
theorem Agree.world (h : Agree v b a) (n : Nat) : b.world n = ⟨a.clock, a.entropy, b.keyspace, a.sessions[n]?⟩ := by
  rw [Bench.world, h.clock, h.entropy, h.sessions]

/-- A call ends in agreement if its world does, and if it leaves all other sessions alone. -/
theorem Agree.of_ran (h : Agree v b a) {n : Nat} {w : World Keyspace} {b' : Bench} (hran : b.Ran n w b') {a' : Roster}
    (hclock : a'.clock = a.clock) (hentropy : w.entropy = a'.entropy) (hsession : w.session = a'.sessions[n]?)
    (hothers : ∀ m, m ≠ n → a'.sessions[m]? = a.sessions[m]?) (hproper : ∀ s, a'.sessions[n]? = some s → Proper s)
    (hascending : w.store.Ascending) (hfiled : a'.Filed)
    (hholds : ∀ name id, Identifier.isValid id = true →
      Holds v (w.store.shown (v.key name id) a.clock) (a'.live? name id)) : Agree v b' a' where
  idle := hran.idle
  vault := hran.vault.trans h.vault
  clock := by rw [hran.clock, hclock, h.clock]
  plain := hclock ▸ h.plain
  entropy := hran.entropy.trans hentropy
  sessions m := by
    by_cases hm : m = n
    · rw [hm, hran.session, hsession]
    · rw [hran.others m hm, hothers m hm, h.sessions]
  proper m s hs := by
    by_cases hm : m = n
    · exact hproper s (hm ▸ hs)
    · exact h.proper m s (hothers m hm ▸ hs)
  ascending := by
    rw [hran.keyspace]
    exact hascending
  filed := hfiled
  holds name id hid := by
    rw [hran.keyspace, hclock]
    exact hholds name id hid

/-- A call that leaves the session and the table ends in agreement if the keys show what they showed. -/
theorem Agree.of_ran_store (h : Agree v b a) {n : Nat} {store : Keyspace} {b' : Bench}
    (hran : b.Ran n ⟨a.clock, a.entropy, store, a.sessions[n]?⟩ b') (hascending : store.Ascending)
    (hholds : ∀ name id, Identifier.isValid id = true →
      Holds v (store.shown (v.key name id) a.clock) (a.live? name id)) : Agree v b' a :=
  h.of_ran hran rfl rfl rfl (fun _ _ => rfl) (fun s hs => h.proper n s hs) hascending h.filed hholds

/-- A session that was made or found gets the same number on both sides. -/
theorem Agree.push (h : Agree v b a) {s : Session} (hs : Proper s) :
    Agree v { b with sessions := b.sessions.push s } { a with sessions := a.sessions.push s } := by
  have hsize : b.sessions.size = a.sessions.size := by
    have harray : b.sessions = a.sessions := Array.ext_getElem? h.sessions
    rw [harray]
  refine ⟨⟨h.idle.gate, h.idle.faults, h.idle.tasks⟩, h.vault, h.clock, h.plain, h.entropy, ?_, ?_,
    h.ascending, h.filed, h.holds⟩
  · intro n
    show (b.sessions.push s)[n]? = (a.sessions.push s)[n]?
    rw [Array.getElem?_push, Array.getElem?_push, hsize, h.sessions]
  · intro n s' hn
    replace hn : (a.sessions.push s)[n]? = some s' := hn
    rw [Array.getElem?_push] at hn
    split at hn
    · cases hn
      exact hs
    · exact h.proper n s' hn

/-! ### Finding sessions -/

/-- What is found is a session with the identifier that was asked for. -/
theorem proper_find (h : Agree v b a) {name id : String} {s : Session} (hs : a.find Record.reread name id = .ok s) :
    Proper s := by
  rw [find] at hs
  split at hs
  · cases hs
  · rename_i hid
    split at hs
    · cases hs
    · rename_i r hr
      obtain ⟨hfit, -⟩ := Option.filter_eq_some_iff.mp hr
      have hfits := h.filed name id r hfit
      cases hread : r.reread with
      | error f =>
        rw [hread] at hs
        cases hs
      | ok r' =>
        rw [hread] at hs
        obtain ⟨values, rfl⟩ := Record.reread_eq_ok hread
        cases hs
        refine ⟨?_, hfits.expiresAt⟩
        show Identifier.isValid r.id = true
        rw [hfits.id]
        simpa using hid

/-- Finding a session in a keyspace is finding it in the table, and the keyspace shows what it showed. -/
theorem Agree.run_load (h : Agree v b a) (n : Nat) (name id : String) :
    ∃ store : Keyspace, (v.load name id).run Keyspace.reply (b.world n) =
        (a.find Record.reread name id, { b.world n with store := store }) ∧ store.Ascending ∧
      ∀ name' id', Identifier.isValid id' = true →
        Holds v (store.shown (v.key name' id') a.clock) (a.live? name' id') := by
  rw [h.world n]
  cases hid : Identifier.isValid id with
  | false =>
    refine ⟨b.keyspace, ?_, h.ascending, h.holds⟩
    rw [Vault.run_load_of_not_valid hid, find, hid]
    rfl
  | true =>
    have hholds := h.holds name id hid
    refine ⟨(b.keyspace.answer a.clock (.get (v.key name id))).2.1, ?_,
      Keyspace.ascending_answer h.ascending _ _, fun name' id' hid' => h.holds_get _ hid'⟩
    rw [find, hid]
    generalize hs : b.keyspace.shown (v.key name id) a.clock = e at hholds
    cases hrecord : a.live? name id with
    | none =>
      rw [hrecord] at hholds
      cases hholds
      rw [Vault.run_load_of_none hid hs]
      rfl
    | some r =>
      rw [hrecord] at hholds
      obtain ⟨hfile, hlive⟩ := Option.filter_eq_some_iff.mp hrecord
      have hfits := h.filed name id r hfile
      cases hholds with
      | @record nonce _ hn =>
        rw [Vault.run_load_of_sealed hid hn hs hfits.name hfits.id hlive]
        rfl

/-! ### Acts -/

/-- The result of a call that gives a session, on both sides. -/
theorem keep_agree (h : Agree v b a) {s : Session} (hs : Proper s) :
    (Bench.keep (.ended (.ok s), b)).1 = (keep (s, a)).1 ∧ Agree v (Bench.keep (.ended (.ok s), b)).2 (keep (s, a)).2 :=
  ⟨rfl, h.push hs⟩

/-- A new session, made behind a search that found none or without one. -/
theorem Agree.create (h : Agree v b a) {b' : Bench} {n : Nat} {store : Keyspace} (hascending : store.Ascending)
    (hholds : ∀ name id, Identifier.isValid id = true →
      Holds v (store.shown (v.key name id) a.clock) (a.live? name id))
    {name : String} {ttl : Option Duration}
    (hran : b.Ran n ((v.create name ttl).run Keyspace.reply { b.world n with store := store }).2 b') :
    Agree v b' (a.create v name ttl).2 := by
  rw [Vault.run_create, h.world n] at hran
  exact h.of_ran hran rfl rfl rfl (fun _ _ => rfl) (fun s hs => h.proper n s hs) hascending h.filed hholds

theorem proper_create (h : Agree v b a) (name : String) (ttl : Option Duration) : Proper (a.create v name ttl).1 :=
  proper_start (Entropy.length_draw _ _) name _ h.plain

theorem serve_create (h : Agree v b a) (name : String) (ttl : Option Duration) :
    (b.serve (.create name ttl)).1 = (keep (a.create v name ttl)).1 ∧
      Agree v (b.serve (.create name ttl)).2 (keep (a.create v name ttl)).2 := by
  obtain ⟨b', hrun, hran⟩ := b.perform_eq (b.vault.create name ttl) 0 h.idle
  rw [h.vault] at hrun hran
  have hagree := h.create h.ascending h.holds hran
  rw [Bench.serve, h.vault, hrun, Vault.run_create, h.world 0]
  exact keep_agree hagree (proper_create h name ttl)

theorem serve_load (h : Agree v b a) (name id : String) :
    (b.serve (.load name id)).1 = (a.serve v Record.reread (.load name id)).1 ∧
      Agree v (b.serve (.load name id)).2 (a.serve v Record.reread (.load name id)).2 := by
  obtain ⟨b', hrun, hran⟩ := b.perform_eq (b.vault.load name id) 0 h.idle
  obtain ⟨store, hload, hascending, hholds⟩ := h.run_load 0 name id
  rw [h.vault, hload] at hrun hran
  rw [h.world 0] at hran
  have hagree : Agree v b' a :=
    h.of_ran_store hran hascending hholds
  rw [Bench.serve, h.vault, hrun, serve]
  cases hfind : a.find Record.reread name id with
  | error f => exact ⟨rfl, hagree⟩
  | ok s => exact keep_agree hagree (proper_find h hfind)

theorem serve_resolve (h : Agree v b a) (incoming : Option String) (name : String) :
    (b.serve (.resolve incoming name)).1 = (a.serve v Record.reread (.resolve incoming name)).1 ∧
      Agree v (b.serve (.resolve incoming name)).2 (a.serve v Record.reread (.resolve incoming name)).2 := by
  obtain ⟨b', hrun, hran⟩ := b.perform_eq (b.vault.resolve incoming name) 0 h.idle
  rw [h.vault] at hrun hran
  rw [Bench.serve, h.vault, hrun, serve]
  cases hid : incoming.filter (· ≠ "") with
  | none =>
    rw [Vault.resolve_eq, hid] at hran ⊢
    have hagree := h.create h.ascending h.holds hran
    dsimp only
    rw [Vault.run_create, h.world 0]
    exact keep_agree hagree (proper_create h name none)
  | some id =>
    obtain ⟨store, hload, hascending, hholds⟩ := h.run_load 0 name id
    -- The search ends in a world with another store, and what follows it runs there.
    rw [Vault.run_resolve hid, hload] at hran ⊢
    dsimp only at hran ⊢
    cases hfind : a.find Record.reread name id with
    | ok s =>
      rw [hfind, Vault.settle, run, h.world 0] at hran
      have hagree : Agree v b' a := h.of_ran_store hran hascending hholds
      exact keep_agree hagree (proper_find h hfind)
    | error f =>
      rw [hfind] at hran
      rw [Vault.settle] at hran ⊢
      dsimp only
      by_cases hcontent : f.isContent = true
      · rw [if_pos hcontent, run] at hran ⊢
        rw [if_pos hcontent]
        have hagree := h.create hascending hholds hran
        rw [Vault.run_create, h.world 0]
        exact keep_agree hagree (proper_create h name none)
      · rw [if_neg hcontent, run, h.world 0] at hran
        rw [if_neg hcontent, if_neg hcontent]
        exact ⟨rfl, h.of_ran_store hran hascending hholds⟩

theorem getElem?_modify_of_ne {m n : Nat} (hm : m ≠ n) (f : Session → Session) (sessions : Array Session) :
    (sessions.modify n f)[m]? = sessions[m]? := by
  rw [Array.getElem?_modify, if_neg (Ne.symm hm)]

theorem getElem?_modify_self (n : Nat) (f : Session → Session) (sessions : Array Session) :
    (sessions.modify n f)[n]? = (sessions[n]?).map f := by
  rw [Array.getElem?_modify, if_pos rfl]

theorem serve_change (h : Agree v b a) (n : Nat) (c : Change) :
    (b.serve (.change n c)).1 = (a.serve v Record.reread (.change n c)).1 ∧
      Agree v (b.serve (.change n c)).2 (a.serve v Record.reread (.change n c)).2 := by
  rw [Bench.serve, serve, h.sessions n, h.clock]
  cases hs : a.sessions[n]? with
  | none => exact ⟨rfl, h⟩
  | some s =>
    dsimp only
    cases hc : s.apply a.clock c with
    | error f => exact ⟨rfl, h⟩
    | ok s' =>
      have hproper := proper_apply (h.proper n s hs) h.plain hc
      refine ⟨rfl, ⟨h.idle.gate, h.idle.faults, h.idle.tasks⟩, h.vault, h.clock, h.plain, h.entropy,
        ?_, ?_, h.ascending, h.filed, h.holds⟩
      · intro m
        show (b.sessions.modify n _)[m]? = (a.sessions.modify n _)[m]?
        rw [Array.getElem?_modify, Array.getElem?_modify, h.sessions m]
      · intro m s'' hm
        replace hm : (a.sessions.modify n fun _ => s')[m]? = some s'' := hm
        by_cases hmn : m = n
        · rw [hmn, getElem?_modify_self, hs] at hm
          cases hm
          exact hproper
        · rw [getElem?_modify_of_ne hmn] at hm
          exact h.proper m s'' hm

theorem serve_tick (h : Agree v b a) (d : Duration) :
    (b.serve (.tick d)).1 = (a.serve v Record.reread (.tick d)).1 ∧
      Agree v (b.serve (.tick d)).2 (a.serve v Record.reread (.tick d)).2 := by
  have hlater := Instant.not_before_add h.plain d
  refine ⟨rfl, ⟨h.idle.gate, h.idle.faults, h.idle.tasks⟩, h.vault, ?_, Instant.plain_add h.plain d, h.entropy,
    h.sessions, h.proper, h.ascending, h.filed, ?_⟩
  · show b.clock.add d = a.clock.add d
    rw [h.clock]
  · intro name id hid
    -- The entry and the record are past their expiry at the same instant.
    have hholds := (h.holds name id hid).filter (a.clock.add d)
    have hrecord : (a.live? name id).filter (fun r => (a.clock.add d).before r.expiresAt) =
        (a.table name id).filter fun r => (a.clock.add d).before r.expiresAt := by
      rw [live?, Option.filter_filter]
      congr 1
      funext r
      cases hr : (a.clock.add d).before r.expiresAt with
      | false => exact Bool.and_false _
      | true =>
        rw [Instant.before_of_not_before_of_before hlater hr]
        rfl
    rw [← Keyspace.shown_later hlater, hrecord] at hholds
    exact hholds

theorem serve_persist (h : Agree v b a) {n : Nat} {s : Session} (hs : a.sessions[n]? = some s) :
    (b.serve (.call n .persist)).1 = (a.call v n s .persist).1 ∧
      Agree v (b.serve (.call n .persist)).2 (a.call v n s .persist).2 := by
  obtain ⟨b', hrun, hran⟩ := b.performOn_eq (b.vault.lifecycle .persist) n h.idle
  rw [h.vault, Vault.lifecycle, h.world n] at hrun hran
  have hproper := h.proper n s hs
  rw [Bench.serve, h.vault, Vault.lifecycle, hrun, call]
  by_cases hw : Vault.Writable s.record.expiresAt a.clock
  · obtain ⟨ttl, httl, hend⟩ := Vault.writableTtl_of_writable hproper.expiresAt h.plain hw
    rw [Vault.run_persist (w := ⟨a.clock, a.entropy, b.keyspace, a.sessions[n]?⟩) hs httl] at hran ⊢
    rw [if_pos hw]
    dsimp only [Keyspace.reply] at hran ⊢
    rw [Keyspace.answer_of_ne_get _ _ (by simp)]
    refine ⟨rfl, h.of_ran hran rfl rfl rfl (fun _ _ => rfl) (fun s' hs' => h.proper n s' hs')
      (Keyspace.ascending_answer h.ascending _ _) ?_ fun name id hid =>
        h.holds_put hproper (Entropy.length_draw _ _) hend hid⟩
    refine Filed.put h.filed ?_
    intro r hr
    cases hr
    exact ⟨rfl, rfl, hproper.expiresAt⟩
  · have httl := Vault.writableTtl_of_not_writable hproper.expiresAt h.plain hw
    rw [Vault.run_persist_of_error (w := ⟨a.clock, a.entropy, b.keyspace, a.sessions[n]?⟩) hs httl] at hran ⊢
    rw [if_neg hw]
    exact ⟨rfl, h.of_ran_store hran h.ascending h.holds⟩

theorem serve_rotate (h : Agree v b a) {n : Nat} {s : Session} (hs : a.sessions[n]? = some s) :
    (b.serve (.call n .rotate)).1 = (a.call v n s .rotate).1 ∧
      Agree v (b.serve (.call n .rotate)).2 (a.call v n s .rotate).2 := by
  obtain ⟨b', hrun, hran⟩ := b.performOn_eq (b.vault.lifecycle .rotate) n h.idle
  rw [h.vault, Vault.lifecycle, h.world n] at hrun hran
  have hproper := h.proper n s hs
  have hid := Identifier.isValid_ofOctets (Entropy.length_draw Identifier.entropySize a.entropy)
  rw [Bench.serve, h.vault, Vault.lifecycle, hrun, call]
  by_cases hw : Vault.Writable s.record.expiresAt a.clock
  · obtain ⟨ttl, httl, hend⟩ := Vault.writableTtl_of_writable hproper.expiresAt h.plain hw
    rw [Vault.run_rotate (w := ⟨a.clock, a.entropy, b.keyspace, a.sessions[n]?⟩) hs httl] at hran ⊢
    rw [if_pos hw]
    dsimp only [Keyspace.reply] at hran ⊢
    rw [Keyspace.answer_of_ne_get _ _ (by simp)] at hran ⊢
    -- The table takes the old record out and puts the new one in, where the keyspace replaces one key by the other.
    refine ⟨rfl, h.of_ran hran rfl rfl ?_ (fun m hm => getElem?_modify_of_ne hm _ _) ?_
      (Keyspace.ascending_answer h.ascending _ _) ?_ fun name id hid' =>
        h.holds_replace hproper (Entropy.length_draw _ _) hid hend hid'⟩
    · exact ((getElem?_modify_self n _ _).trans (by rw [hs]; rfl)).symm
    · intro s' hs'
      replace hs' : (a.sessions.modify n _)[n]? = some s' := hs'
      rw [getElem?_modify_self, hs] at hs'
      cases hs'
      exact ⟨hid, hproper.expiresAt⟩
    · refine Filed.put (Filed.put h.filed fun r hr => by cases hr) ?_
      intro r hr
      cases hr
      exact ⟨rfl, rfl, hproper.expiresAt⟩
  · have httl := Vault.writableTtl_of_not_writable hproper.expiresAt h.plain hw
    rw [Vault.run_rotate_of_error (w := ⟨a.clock, a.entropy, b.keyspace, a.sessions[n]?⟩) hs httl] at hran ⊢
    rw [if_neg hw]
    exact ⟨rfl, h.of_ran_store hran h.ascending h.holds⟩

theorem serve_destroy (h : Agree v b a) {n : Nat} {s : Session} (hs : a.sessions[n]? = some s) :
    (b.serve (.call n .destroy)).1 = (a.call v n s .destroy).1 ∧
      Agree v (b.serve (.call n .destroy)).2 (a.call v n s .destroy).2 := by
  obtain ⟨b', hrun, hran⟩ := b.performOn_eq (b.vault.lifecycle .destroy) n h.idle
  rw [h.vault, Vault.lifecycle, h.world n] at hrun hran
  have hproper := h.proper n s hs
  rw [Bench.serve, h.vault, Vault.lifecycle, hrun, call]
  rw [Vault.run_destroy (w := ⟨a.clock, a.entropy, b.keyspace, a.sessions[n]?⟩) hs] at hran ⊢
  exact ⟨rfl, h.of_ran hran rfl rfl rfl (fun _ _ => rfl) (fun s' hs' => h.proper n s' hs')
    (Keyspace.ascending_answer h.ascending _ _) (Filed.put h.filed fun r hr => by cases hr) fun name id hid =>
      h.holds_delete hproper hid⟩

theorem run_missing {σ : Type} {answers : Answers σ} (v : Vault) (c : Lifecycle) {w : World σ} (hw : w.session = none) :
    (v.lifecycle c).run answers w = (.error .notFound, w) := by
  cases c with
  | persist => rw [Vault.lifecycle, Vault.persist_eq, run, hw]
  | rotate => rw [Vault.lifecycle, Vault.rotate_eq, run, hw]
  | destroy => rw [Vault.lifecycle, Vault.destroy_eq, run, hw]

theorem serve_call (h : Agree v b a) (n : Nat) (c : Lifecycle) :
    (b.serve (.call n c)).1 = (a.serve v Record.reread (.call n c)).1 ∧
      Agree v (b.serve (.call n c)).2 (a.serve v Record.reread (.call n c)).2 := by
  rw [serve]
  cases hs : a.sessions[n]? with
  | none =>
    obtain ⟨b', hrun, hran⟩ := b.performOn_eq (b.vault.lifecycle c) n h.idle
    rw [h.vault, h.world n, run_missing v c hs] at hrun hran
    rw [Bench.serve, h.vault, hrun]
    exact ⟨rfl, h.of_ran_store hran h.ascending h.holds⟩
  | some s =>
    cases c with
    | persist => exact serve_persist h hs
    | rotate => exact serve_rotate h hs
    | destroy => exact serve_destroy h hs

/-- Every act is answered alike, and leaves what clients cannot tell apart. -/
theorem serve_agree (h : Agree v b a) (act : Act) :
    (b.serve act).1 = (a.serve v Record.reread act).1 ∧ Agree v (b.serve act).2 (a.serve v Record.reread act).2 := by
  cases act with
  | create name ttl => exact serve_create h name ttl
  | load name id => exact serve_load h name id
  | resolve incoming name => exact serve_resolve h incoming name
  | change n c => exact serve_change h n c
  | call n c => exact serve_call h n c
  | tick d => exact serve_tick h d

/-- Whole lists of acts are answered alike. -/
theorem answers_agree (h : Agree v b a) (acts : List Act) :
    (answers Bench.serve b acts).1 = (answers (serve v Record.reread) a acts).1 ∧
      Agree v (answers Bench.serve b acts).2 (answers (serve v Record.reread) a acts).2 := by
  induction acts generalizing b a with
  | nil => exact ⟨rfl, h⟩
  | cons act acts ih =>
    obtain ⟨hanswer, hnext⟩ := serve_agree h act
    obtain ⟨hanswers, hlast⟩ := ih hnext
    rw [answers, answers]
    exact ⟨by rw [hanswer, hanswers], hlast⟩

end Roster

end SessionVault
