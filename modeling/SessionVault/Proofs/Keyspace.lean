import SessionVault.Keyspace
import SessionVault.Proofs.Table
import SessionVault.Proofs.Time.Instant

/-!
# What a keyspace shows

A keyspace may hold entries that are past their expiry, and drops them when it likes.  What it shows under a key at
an instant (`Keyspace.shown`) does not depend on that:

* `shown_answer` — after a request a key shows what the request leaves under it (`Request.leaves`), and what it
  showed before if the request does not touch it;
* `answer_get` — the answer to a `get` is the text of the entry shown;
* `shown_later` — time takes entries away and adds none;
* `get?_answerAt` — what is held under a key, past its expiry or not, was left there by a request.
-/

namespace SessionVault

/-- What a request leaves under a key, if it touches the key: an entry, or none. -/
def Request.leaves (r : Request) (now : Instant) (key : String) : Option (Option Entry) :=
  match r with
  | .get _ => none
  | .put k text ttl => if k = key then some (some ⟨text, now.add ttl⟩) else none
  | .delete k => if k = key then some none else none
  | .replace old new text ttl =>
    if new = key then some (some ⟨text, now.add ttl⟩) else if old = key then some none else none

/-- The key that a request writes a text under. -/
def Request.target? : Request → Option String
  | .put key _ _ => some key
  | .replace _ new _ _ => some new
  | _ => none

/-- A request leaves an entry under the key that it writes, and under no other. -/
theorem Request.target?_of_leaves {r : Request} {now : Instant} {key : String} {e : Entry}
    (h : r.leaves now key = some (some e)) : r.target? = some key := by
  cases r with
  | get key' => cases h
  | put key' text ttl =>
    rw [leaves] at h
    split at h
    · rename_i hk
      exact congrArg some hk
    · cases h
  | delete key' =>
    rw [leaves] at h
    split at h <;> cases h
  | replace old new text ttl =>
    rw [leaves] at h
    split at h
    · rename_i hk
      exact congrArg some hk
    · split at h <;> cases h

theorem Entry.filter_of_isLive {e : Entry} {now : Instant} (h : e.isLive now = true) :
    ((some e).filter fun e => e.isLive now) = some e := by
  rw [Option.filter, if_pos h]

namespace Keyspace

/-- The entry under a key, if it is not past its expiry. -/
def shown (k : Keyspace) (key : String) (now : Instant) : Option Entry :=
  (k.entries.get? key).filter fun e => e.isLive now

def Ascending (k : Keyspace) : Prop := Table.Ascending k.entries

theorem ascending_empty : Ascending {} := Table.ascending_nil

variable {k : Keyspace} {now later : Instant}

/-! ### Parts of a request -/

theorem ascending_store (h : k.Ascending) (key : String) (e : Entry) : (k.store key e).Ascending :=
  Table.ascending_insert key e h

theorem ascending_drop (h : k.Ascending) (key : String) : (k.drop key).Ascending := Table.ascending_erase key h

/-- An entry under a new key and none under an old one, unless the two are one. -/
theorem ascending_moved (h : k.Ascending) (old new : String) (e : Entry) :
    (if old = new then k.store new e else (k.store new e).drop old).Ascending := by
  split
  · exact ascending_store h new e
  · exact ascending_drop (ascending_store h new e) old

theorem get?_moved (k : Keyspace) (old new key : String) (e : Entry) :
    (if old = new then k.store new e else (k.store new e).drop old).entries.get? key =
      if new = key then some e else if old = key then none else k.entries.get? key := by
  by_cases heq : old = new
  · rw [if_pos heq, store, Table.get?_insert, heq]
    by_cases hnew : new = key
    · rw [if_pos hnew, if_pos hnew]
    · rw [if_neg hnew, if_neg hnew, if_neg hnew]
  · rw [if_neg heq, drop, Table.get?_erase, store, Table.get?_insert]
    by_cases hnew : new = key
    · rw [if_neg (hnew ▸ heq), if_pos hnew, if_pos hnew]
    · rw [if_neg hnew, if_neg hnew]

/-- Counting a write keeps the entries, or keeps those that are not past their expiry. -/
theorem entries_countWrite (k : Keyspace) (now : Instant) :
    (k.countWrite now).1.entries = k.entries ∨
      (k.countWrite now).1.entries = k.entries.filter fun e => e.2.isLive now := by
  rw [countWrite]
  dsimp only
  split
  · exact Or.inr rfl
  · exact Or.inl rfl

theorem ascending_countWrite (h : k.Ascending) : (k.countWrite now).1.Ascending := by
  rcases entries_countWrite k now with he | he
  · exact show Table.Ascending _ from he ▸ h
  · exact show Table.Ascending _ from he ▸ Table.ascending_filter _ h

theorem shown_countWrite (h : k.Ascending) (key : String) : (k.countWrite now).1.shown key now = k.shown key now := by
  rcases entries_countWrite k now with he | he
  · rw [shown, he, shown]
  · rw [shown, he, Table.get?_filter _ key h, shown, Option.filter_filter]
    congr 1
    funext e
    exact Bool.and_self _

theorem get?_countWrite (h : k.Ascending) {key : String} {e : Entry}
    (hget : (k.countWrite now).1.entries.get? key = some e) : k.entries.get? key = some e := by
  rcases entries_countWrite k now with he | he
  · rwa [he] at hget
  · rw [he, Table.get?_filter _ key h] at hget
    exact (Option.filter_eq_some_iff.mp hget).1

/-! ### Requests -/

theorem ascending_answerAt (h : k.Ascending) (now later : Instant) (r : Request) :
    (k.answerAt now later r).2.1.Ascending := by
  cases r with
  | get key =>
    rw [answerAt]
    split
    · exact h
    · split
      · exact h
      · exact ascending_drop h key
  | put key text ttl => exact ascending_countWrite (ascending_store h key _)
  | delete key => exact ascending_drop h key
  | replace old new text ttl => exact ascending_countWrite (ascending_moved h old new _)

theorem ascending_answer (h : k.Ascending) (now : Instant) (r : Request) : (k.answer now r).2.1.Ascending :=
  ascending_answerAt h now now r

/-- What is held under a key was left there by the request, or was there before. -/
theorem get?_answerAt (h : k.Ascending) {r : Request} {key : String} {e : Entry}
    (hget : (k.answerAt now later r).2.1.entries.get? key = some e) :
    r.leaves now key = some (some e) ∨ r.leaves now key = none ∧ k.entries.get? key = some e := by
  cases r with
  | get key' =>
    refine Or.inr ⟨rfl, ?_⟩
    rw [answerAt] at hget
    split at hget
    · exact hget
    · split at hget
      · exact hget
      · rw [drop, Table.get?_erase] at hget
        split at hget
        · cases hget
        · exact hget
  | put key' text ttl =>
    have hput := get?_countWrite (ascending_store h key' ⟨text, now.add ttl⟩) hget
    rw [store, Table.get?_insert] at hput
    rw [Request.leaves]
    by_cases hk : key' = key
    · rw [if_pos hk] at hput ⊢
      exact Or.inl (congrArg some hput)
    · rw [if_neg hk] at hput ⊢
      exact Or.inr ⟨rfl, hput⟩
  | delete key' =>
    rw [answerAt, drop, Table.get?_erase] at hget
    rw [Request.leaves]
    by_cases hk : key' = key
    · rw [if_pos hk] at hget
      cases hget
    · rw [if_neg hk] at hget ⊢
      exact Or.inr ⟨rfl, hget⟩
  | replace old new text ttl =>
    have hmoved := get?_countWrite (ascending_moved h old new ⟨text, now.add ttl⟩) hget
    rw [get?_moved] at hmoved
    rw [Request.leaves]
    by_cases hnew : new = key
    · rw [if_pos hnew] at hmoved ⊢
      exact Or.inl (congrArg some hmoved)
    · rw [if_neg hnew] at hmoved ⊢
      by_cases hold : old = key
      · rw [if_pos hold] at hmoved
        cases hmoved
      · rw [if_neg hold] at hmoved ⊢
        exact Or.inr ⟨rfl, hmoved⟩

/-- After a request a key shows what the request leaves under it, and what it showed before if it is not touched. -/
theorem shown_answer (h : k.Ascending) (now : Instant) (r : Request) (key : String) :
    (k.answer now r).2.1.shown key now =
      match r.leaves now key with
      | some e => e.filter fun e => e.isLive now
      | none => k.shown key now := by
  cases r with
  | get key' =>
    rw [answer, answerAt, Request.leaves]
    split
    · rfl
    · rename_i e he
      split
      · rfl
      · -- The entry that is dropped was past its expiry, so the key has shown nothing before either.
        rename_i hlive
        rw [shown, drop, Table.get?_erase, shown]
        split
        · rename_i hk
          have hpast : e.isLive now = false := Bool.eq_false_iff.mpr hlive
          rw [← hk, he, Option.filter, hpast]
          rfl
        · rfl
  | put key' text ttl =>
    rw [answer, answerAt, shown_countWrite (ascending_store h key' _), shown, store, Table.get?_insert, Request.leaves]
    split <;> rfl
  | delete key' =>
    rw [answer, answerAt, shown, drop, Table.get?_erase, Request.leaves]
    split <;> rfl
  | replace old new text ttl =>
    rw [answer, answerAt, Request.leaves, shown_countWrite (ascending_moved h old new _), shown, get?_moved]
    split
    · rfl
    · split <;> rfl

/-- The answer to a `get` is the text of the entry shown. -/
theorem answer_get (k : Keyspace) (now : Instant) (key : String) :
    (k.answer now (.get key)).1 = .ok ((k.shown key now).map Entry.text) := by
  rw [answer, answerAt, shown]
  split
  · rename_i he
    rw [he]
    rfl
  · rename_i e he
    rw [he]
    split
    · rename_i hlive
      rw [Entry.filter_of_isLive hlive]
      rfl
    · rename_i hlive
      rw [Option.filter, if_neg hlive]
      rfl

/-- The other requests are answered with nothing. -/
theorem answer_of_ne_get (k : Keyspace) (now : Instant) {r : Request} (h : ∀ key, r ≠ .get key) :
    (k.answer now r).1 = .ok none := by
  cases r with
  | get key => exact absurd rfl (h key)
  | put key text ttl => rfl
  | delete key => rfl
  | replace old new text ttl => rfl

/-! ### Time -/

/-- What is shown later is what is shown now and not past its expiry by then. -/
theorem shown_later (h : later.before now = false) (key : String) :
    k.shown key later = (k.shown key now).filter fun e => e.isLive later := by
  rw [shown, shown, Option.filter_filter]
  congr 1
  funext e
  cases hlater : e.isLive later with
  | false => exact (Bool.and_false _).symm
  | true =>
    rw [Entry.isLive] at hlater
    rw [Entry.isLive, Instant.before_of_not_before_of_before h hlater]
    rfl

end Keyspace

end SessionVault
