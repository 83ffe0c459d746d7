import SessionVault.Proofs.Keyspace
import SessionVault.Proofs.Redis.Replace

/-!
# Replacements in memory and on a server

A keyspace in memory and a store on a server, by a script or by a transaction, all answer a replacement whose lifetime
the server takes.  They leave the same under every key as long as the two keys differ.  Where they are one key, the
keyspace keeps it, and a server deletes what it has just written, either way.

* `Standard.held_moved`, `moved_eq_left_iff` — what is found under a key behind a write and a deletion, in this order,
  and when this is what a replacement is to leave;
* `moved_iff_of_taken` — on any server that keeps the laws of hosts, all of this comes about in one step, and somebody
  who asks for both keys is always shown one of them, exactly if they differ;
* `replacements_agree_iff` — the law of replacements, in memory and on a server with a table of entries.
-/

namespace SessionVault.Redis

/-! ### What a request leaves under two keys -/

/-- What a replacement is to leave under a key. -/
theorem getD_leaves_replace (old new text key : String) (ttl : Duration) (now : Instant) (before : Option Entry) :
    ((Request.replace old new text ttl).leaves now key).getD before =
      if new = key then some ⟨text, now.add ttl⟩ else if old = key then none else before := by
  rw [Request.leaves]
  split
  · rfl
  · split <;> rfl

/-- A write and a deletion leave what a replacement is to leave exactly if their keys differ. -/
theorem moved_eq_left_iff {old new text : String} {ttl : Duration} {now : Instant} {before : String → Option Entry} :
    (∀ key, (if old = key then none else if new = key then some ⟨text, now.add ttl⟩ else before key) =
        ((Request.replace old new text ttl).leaves now key).getD (before key)) ↔ old ≠ new := by
  constructor
  · rintro hall rfl
    have h := hall old
    rw [getD_leaves_replace, if_pos rfl, if_pos rfl] at h
    cases h
  · intro hne key
    rw [getD_leaves_replace]
    by_cases hold : old = key
    · rw [if_pos hold, if_neg fun hnew => hne (hold.trans hnew.symm), if_pos hold]
    · rw [if_neg hold, if_neg hold]

theorem lifetime_ofMillis {n : Nat} (hpos : 0 < n) (hfits : n < 0x8000000000000000) : lifetime (.ofMillis n) = n := by
  have hmillis : (Duration.ofMillis n).millis = n := Nat.mul_div_cancel n (by decide)
  rw [lifetime_eq_millis (by omega) (by omega), hmillis]

/-! ### Replacements whose write is taken -/

section Standard

variable {σ τ : Type} {single : Service τ} {held : τ → String → Option Entry} {now : Instant} {t : τ} {n : Nat}

/-- What is found under a key behind a write and a deletion, in this order. -/
theorem Standard.held_moved (hstandard : Standard single held now) (r : Rotation) (old new text key : String) (t : τ)
    (hpos : 0 < n) (hfits : n < 0x8000000000000000) :
    held (single (Command.delete old) (single (r.writing new text n) t).2).2 key =
      if old = key then none else if new = key then some ⟨text, now.add (.ofMillis n)⟩ else held t key := by
  rw [(hstandard.deleted old _).2, (hstandard.taken r new text t hpos hfits).2]

variable {h : Host σ τ} {s : σ}

/-- On any server, a replacement whose write is taken succeeds, and deletes the old key behind the write.  It leaves
what it is to leave under every key exactly if the two keys differ.  All of this comes about in one step, so that
somebody who asks for both keys is always shown one of them, again exactly if they differ. -/
theorem moved_iff_of_taken (hlawful : h.Lawful) (hstandard : Standard h.single held now) (hready : h.ready s)
    (store : Store) (old new text : String) (hpos : 0 < n) (hfits : n < 0x8000000000000000) :
    let r := Request.replace old new text (.ofMillis n)
    let out := store.answer h.serve.peer s r
    let found := (store.exchange r).trail h.serve s
    let hidden (s : σ) (key : String) := (held (h.view s) key).filter (fun e => e.isLive now) = none
    out.1 = .ok none ∧ h.ready out.2.1 ∧
      h.view out.2.1 = (h.single (Command.delete old) (h.single (store.rotation.writing new text n) (h.view s)).2).2 ∧
      ((∀ key, held (h.view out.2.1) key = (r.leaves now key).getD (held (h.view s) key)) ↔ old ≠ new) ∧
      InOneStep h.view (h.view s) found out.2.1 ∧
      (¬hidden s old → now.before (now.add (.ofMillis n)) = true →
        ((∀ s' ∈ found, ¬(hidden s' old ∧ hidden s' new)) ↔ old ≠ new)) := by
  intro r out found hidden
  have hsettles := settles_of_taken hlawful hstandard hready store old new text hpos hfits
  rw [← lifetime_ofMillis hpos hfits] at hsettles
  obtain ⟨hanswer, hview, hready', hstep⟩ := answer_of_settles hsettles
  rw [lifetime_ofMillis hpos hfits] at hview
  have hheld : ∀ key, held (h.view out.2.1) key =
      if old = key then none else if new = key then some ⟨text, now.add (.ofMillis n)⟩ else held (h.view s) key := by
    intro key
    rw [show h.view out.2.1 = _ from hview]
    exact hstandard.held_moved store.rotation old new text key (h.view s) hpos hfits
  refine ⟨hanswer, hready', hview, ?_, hstep, ?_⟩
  · simp only [hheld]
    exact moved_eq_left_iff
  · intro hold hlive
    have hshown : Entry.isLive ⟨text, now.add (.ofMillis n)⟩ now = true := hlive
    obtain ⟨front, hfound, hfront⟩ := hstep
    rw [show found = _ from hfound]
    constructor
    · rintro hall rfl
      -- The last state has lost what was written under the one key.
      have hlost : hidden out.2.1 old := by
        show (held (h.view out.2.1) old).filter _ = none
        rw [hheld, if_pos rfl]
        rfl
      exact hall out.2.1 (List.mem_append_right front List.mem_cons_self) ⟨hlost, hlost⟩
    · rintro hne s' hs' ⟨hhidden, hhidden'⟩
      rcases List.mem_append.mp hs' with hs' | hs'
      · refine hold ?_
        show (held (h.view s) old).filter _ = none
        rw [← hfront s' hs']
        exact hhidden
      · rw [List.mem_singleton.mp hs'] at hhidden'
        have hnew : (held (h.view out.2.1) new).filter (fun e => e.isLive now) = none := hhidden'
        rw [hheld, if_neg hne, if_pos rfl, Entry.filter_of_isLive hshown] at hnew
        cases hnew

end Standard

/-! ### A server with a table of entries -/

namespace Server

variable {s : Server} {now : Instant} {n : Nat}

/-- Somebody who asks for two keys is shown neither of them. -/
def HidesBoth (s : Server) (now : Instant) (old new : String) : Prop :=
  Server.read now old s.entries = .nothing ∧ Server.read now new s.entries = .nothing

theorem read_eq_nothing_iff {key : String} {entries : Table Entry} :
    Server.read now key entries = .nothing ↔ (entries.get? key).filter (fun e => e.isLive now) = none := by
  rw [Server.read]
  cases (entries.get? key).filter fun e => e.isLive now <;> simp

/-- The entries behind a write that is taken and a deletion. -/
theorem moved_of_taken (now : Instant) (r : Rotation) (old new text : String) (entries : Table Entry) (hpos : 0 < n)
    (hfits : n < 0x8000000000000000) :
    (single now (Command.delete old) (single now (r.writing new text n) entries).2).2 =
      Table.erase old (entries.insert new ⟨text, now.add (.ofMillis n)⟩) := by
  rw [single_writing, write_of_lt entries hpos hfits]
  rfl

end Server

namespace Store

/-! ### The law of replacements -/

/-- A keyspace in memory and a store on a server with the same entries both answer a replacement whose lifetime is
taken.  The keyspace shows what the replacement is to leave under every key.  A server holds that exactly if the two
keys differ: it writes the new key and deletes the old one behind it, by a script as by a transaction.  Either way the
entries change in one step, so that somebody who asks for both keys is always shown one of them, again exactly if they
differ. -/
theorem replacements_agree_iff (k : Keyspace) (server : Server) (store : Store) (now : Instant)
    (old new text : String) (n : Nat) (hk : k.Ascending) (hready : server.Ready) (hsame : server.entries = k.entries)
    (hpos : 0 < n) (hfits : n < 0x8000000000000000) :
    let r := Request.replace old new text (.ofMillis n)
    let left (key : String) := (r.leaves now key).getD (k.entries.get? key)
    let inMemory := k.answer now r
    let onServer := store.answer (Server.peer now) server r
    let found := (store.exchange r).trail (Server.service now) server
    (inMemory.1 = .ok none ∧ ∀ key, inMemory.2.1.shown key now = (left key).filter fun e => e.isLive now) ∧
      (onServer.1 = .ok none ∧
        onServer.2.1.entries = Table.erase old (k.entries.insert new ⟨text, now.add (.ofMillis n)⟩)) ∧
      ((∀ key, onServer.2.1.entries.get? key = left key) ↔ old ≠ new) ∧
      InOneStep Server.entries server.entries found onServer.2.1 ∧
      (Server.read now old k.entries ≠ .nothing → now.before (now.add (.ofMillis n)) = true →
        ((∀ s ∈ found, ¬s.HidesBoth now old new) ↔ old ≠ new)) := by
  intro r left inMemory onServer found
  obtain ⟨hanswer, -, hentries, hleft, hstep, hboth⟩ := moved_iff_of_taken (Server.lawful_host now)
    (Server.standard_single now) hready store old new text hpos hfits
  refine ⟨⟨rfl, ?_⟩, ⟨hanswer, ?_⟩, ?_, hstep, ?_⟩
  · intro key
    rw [show inMemory.2.1.shown key now = _ from Keyspace.shown_answer hk now r key]
    show _ = ((r.leaves now key).getD (k.entries.get? key)).filter _
    cases r.leaves now key <;> rfl
  · rw [← hsame]
    exact hentries.trans (Server.moved_of_taken now store.rotation old new text server.entries hpos hfits)
  · have hleft' : (∀ key, onServer.2.1.entries.get? key = (r.leaves now key).getD (server.entries.get? key)) ↔
        old ≠ new := hleft
    rwa [hsame] at hleft'
  · intro hold hlive
    have hhides : ∀ s : Server, s.HidesBoth now old new ↔
        (s.entries.get? old).filter (fun e => e.isLive now) = none ∧
          (s.entries.get? new).filter (fun e => e.isLive now) = none :=
      fun s => and_congr Server.read_eq_nothing_iff Server.read_eq_nothing_iff
    rw [← hsame, Ne, Server.read_eq_nothing_iff] at hold
    simp only [hhides]
    exact hboth hold hlive

theorem replacements_agree_sample :
    (⟨sampleServer.entries, 63⟩ : Keyspace).Ascending ∧ sampleServer.Ready ∧ 0 < 60000 ∧ 60000 < 0x8000000000000000 ∧
      ∀ s ∈ (({ rotation := .transaction } : Store).exchange
          (.replace "old" "new" "next" (.ofMillis 60000))).trail (Server.service .epoch) sampleServer,
        ¬s.HidesBoth .epoch "old" "new" := by
  have hshown : Server.read .epoch "old" sampleServer.entries ≠ .nothing := by
    rw [Ne, Server.read_eq_nothing_iff]
    exact Option.some_ne_none _
  exact ⟨List.pairwise_singleton _ _, ready_sample, by decide, by decide,
    ((replacements_agree_iff ⟨sampleServer.entries, 63⟩ sampleServer { rotation := .transaction } .epoch "old" "new"
      "next" 60000 (List.pairwise_singleton _ _) ready_sample rfl (by decide) (by decide)).2.2.2.2 hshown
      (by decide)).mpr (by decide)⟩

/-- A replacement of a key by itself. -/
def selfReplacement : Request := .replace "old" "old" "next" (.ofMillis 60000)

/-- Where both keys are one, a replacement succeeds in memory and on a server, either way, and only the keyspace in
memory still has the key. -/
theorem same_key_deleted :
    (((⟨sampleServer.entries, 0⟩ : Keyspace).answer .epoch selfReplacement).1 = .ok none ∧
        ((⟨sampleServer.entries, 0⟩ : Keyspace).answer .epoch selfReplacement).2.1.raw? "old" = some "next") ∧
      (∃ server notes, ({ rotation := .script } : Store).answer (Server.peer .epoch) sampleServer selfReplacement =
          (.ok none, server, notes) ∧ server.entries.get? "old" = none) ∧
      ∃ server notes, ({ rotation := .transaction } : Store).answer (Server.peer .epoch) sampleServer selfReplacement =
          (.ok none, server, notes) ∧ server.entries.get? "old" = none := by
  have hlost : ∀ store : Store, ∃ server notes, store.answer (Server.peer .epoch) sampleServer selfReplacement =
      (.ok none, server, notes) ∧ server.entries.get? "old" = none := by
    intro store
    obtain ⟨hanswer, -, hentries, -⟩ := moved_iff_of_taken (Server.lawful_host .epoch) (Server.standard_single .epoch)
      ready_sample store "old" "old" "next" (n := 60000) (by decide) (by decide)
    refine ⟨_, _, Prod.ext hanswer rfl, ?_⟩
    refine (congrArg (Table.get? "old") hentries).trans ?_
    exact ((Server.standard_single .epoch).held_moved store.rotation "old" "old" "next" "old" sampleServer.entries
      (n := 60000) (by decide) (by decide)).trans (if_pos rfl)
  exact ⟨⟨rfl, rfl⟩, hlost _, hlost _⟩

end Store

end SessionVault.Redis
