import SessionVault.Proofs.Hall.Cleanup
import SessionVault.Proofs.Hall.Tenant

/-!
# The identifier that a session is found under

What the invariant of `Tenant` says of a whole run.  As long as nobody else touches the identifiers that a session
has had, at most one of them shows an entry.  A search may take the entry away all the same: the last write of the
session shows until its expiry exactly if no search has cleaned up under its key since.

* `one_identifier_shown` — the three facts about a session of a bench, over any list of moves;
* `late_cleanup_shows_none` — a run that leaves a session under no identifier, moments after it was written.
-/

namespace SessionVault

open Hall

variable {v : Vault} {n : Nat} {name first : String} {base : String → Option Entry} {h : Hall} {s : Session}
  {front : String}

/-! ### Runs -/

theorem alone_of_move {m : Move} (halone : Alone v n name first (h.move v m).journal.events) :
    Alone v n name first h.journal.events := by
  rcases h.move_shared v m with ⟨d, rfl⟩ | ⟨-, hjournal | ⟨actor, r, -, hjournal⟩⟩
  · exact halone
  · rwa [hjournal] at halone
  · rw [hjournal] at halone
    exact halone.2

theorem alone_of_run {moves : List Move} (halone : Alone v n name first (h.run v moves).journal.events) :
    Alone v n name first h.journal.events := by
  induction moves generalizing h with
  | nil => exact halone
  | cons m moves ih => exact alone_of_move (ih halone)

theorem Tenant.run (ht : Tenant v n name first base h s front) (moves : List Move)
    (halone : Alone v n name first (h.run v moves).journal.events) :
    ∃ s' front', Tenant v n name first base (h.run v moves) s' front' := by
  induction moves generalizing h s front with
  | nil => exact ⟨s, front, ht⟩
  | cons m moves ih =>
    obtain ⟨s', front', ht'⟩ := ht.move m (alone_of_run halone)
    exact ih ht' halone

open Roster in
/-- A session of a bench, before any call is under way. -/
theorem tenant_hall {b : Bench} {a : Roster} (hagree : Agree v b a) (hs : b.sessions[n]? = some s) :
    Tenant v n s.name s.id b.base b.hall s s.id where
  sound := sound_hall hagree
  session := hs
  named := rfl
  phase _ _ hcall _ := by cases hcall
  idle _ := rfl
  single _ _ _ _ hcall _ _ _ := by cases hcall
  free _ _ _ _ hcall := by cases hcall
  sought _ he _ _ := by cases he
  had := Or.inl rfl
  shows id hhad _ := by
    rcases hhad with rfl | ⟨e, he, -⟩
    · rfl
    · cases he
  last _ he _ _ := by cases he

theorem alone_of_actors {es : List Event} (h : ∀ e ∈ es, e.actor = .keeper n ∨ ∃ i, e.actor = .finder i) :
    Alone v n name first es := by
  induction es with
  | nil => trivial
  | cons e es ih =>
    exact ⟨(h e List.mem_cons_self).imp_right Or.inl, ih fun e' he' => h e' (List.mem_cons_of_mem _ he')⟩

/-! ### The last write -/

theorem target?_of_leaves {r : Request} {now : Instant} {key : String} {e : Entry}
    (h : r.leaves now key = some (some e)) : r.target? = some key := by
  cases r with
  | get k => cases h
  | put k text ttl =>
    rw [Request.leaves] at h
    split at h
    · rename_i hk
      rw [Request.target?, hk]
    · cases h
  | delete k =>
    rw [Request.leaves] at h
    split at h <;> cases h
  | replace old new text ttl =>
    rw [Request.leaves] at h
    split at h
    · rename_i hk
      rw [Request.target?, hk]
    · split at h <;> cases h

/-- Behind the last write of a session that is alone, its key holds what was written, unless a search has deleted
it. -/
theorem left_lastOwn {es : List Event} {e : Event} {id : String} {entry : Entry}
    (hlast : es.find? (fun e => e.actor = .keeper n) = some e)
    (hleaves : e.request.leaves e.instant (v.key name id) = some (some entry)) (halone : Alone v n name first es)
    (hsought : ∀ e ∈ es, ∀ i, e.actor = .finder i → ∃ name' id', v.Sought name' id' e.request) :
    left es (v.key name id) = some (some entry) ∧
        (∀ e' ∈ es.takeWhile fun e => e.actor ≠ .keeper n, e'.request ≠ .delete (v.key name id)) ∨
      left es (v.key name id) = some none ∧
        ∃ e' ∈ es.takeWhile fun e => e.actor ≠ .keeper n, e'.request = .delete (v.key name id) := by
  induction es with
  | nil => cases hlast
  | cons x es ih =>
    by_cases hx : x.actor = .keeper n
    · rw [List.find?_cons_of_pos (by simpa using hx)] at hlast
      cases hlast
      rw [left_cons_of_leaves hleaves, List.takeWhile_cons_of_neg (by simpa using hx)]
      exact Or.inl ⟨rfl, fun _ he' => by cases he'⟩
    · rw [List.find?_cons_of_neg (by simpa using hx)] at hlast
      have hhad : Had v n name first es id :=
        Or.inr ⟨e, List.mem_of_find?_eq_some hlast, by simpa using List.find?_some hlast, target?_of_leaves hleaves⟩
      have hrest := ih hlast halone.2 fun e he => hsought e (List.mem_cons_of_mem _ he)
      -- The request between is a deletion of the key, or it leaves the key alone.
      have hx' : x.request = .delete (v.key name id) ∨
          x.request.leaves x.instant (v.key name id) = none ∧ x.request ≠ .delete (v.key name id) := by
        by_cases hdelete : x.request = .delete (v.key name id)
        · exact Or.inl hdelete
        · refine Or.inr ⟨?_, hdelete⟩
          rcases halone.1 with hkeeper | ⟨i, hfinder⟩ | hnone
          · exact absurd hkeeper hx
          · obtain ⟨name', id', hget | hdel⟩ := hsought x List.mem_cons_self i hfinder
            · rw [hget]
              rfl
            · rw [hdel, Request.leaves]
              exact if_neg fun hk => hdelete (by rw [hdel, hk])
          · exact hnone id hhad
      rw [List.takeWhile_cons_of_pos (by simpa using hx), left]
      rcases hx' with hdelete | ⟨hnone, hdelete⟩
      · refine Or.inr ⟨?_, x, List.mem_cons_self, hdelete⟩
        rw [hdelete, Request.leaves, if_pos rfl]
      · rw [hnone]
        rcases hrest with ⟨hleft, hall⟩ | ⟨hleft, e', he', hdel⟩
        · refine Or.inl ⟨hleft, ?_⟩
          intro e' he'
          rcases List.mem_cons.mp he' with rfl | he'
          · exact hdelete
          · exact hall e' he'
        · exact Or.inr ⟨hleft, e', List.mem_cons_of_mem _ he', hdel⟩

/-- The last write of the session shows until its expiry, unless a search deletes it. -/
theorem Tenant.shows_iff (ht : Tenant v n name first base h s front) (halone : Alone v n name first h.journal.events)
    {e : Event} {id : String} {entry : Entry} (hlast : h.lastOwn n = some e)
    (hleaves : e.request.leaves e.instant (v.key name id) = some (some entry)) (hlive : entry.isLive h.clock = true) :
    (∃ id', Had v n name first h.journal.events id' ∧ h.Shows v name id') ↔
      ∀ e' ∈ h.sinceOwn n, e'.request ≠ .delete (v.key name id) := by
  have hfront : id = front := v.key_inj_id.mp (ht.last e hlast _ (target?_of_leaves hleaves))
  have hshown := ht.sound.shown (v.key name id)
  rcases left_lastOwn hlast hleaves halone ht.sought with ⟨hleft, hnone⟩ | ⟨hleft, e', he', hdelete⟩
  · rw [hleft] at hshown
    refine ⟨fun _ => hnone, fun _ => ⟨front, ht.had, ?_⟩⟩
    rw [Shows, ← hfront, hshown]
    show ((some entry).filter fun e => e.isLive h.clock).isSome = true
    rw [Entry.filter_of_isLive hlive]
    rfl
  · rw [hleft] at hshown
    constructor
    · intro hany
      obtain ⟨id', hhad, hshows⟩ := hany
      rw [ht.shows id' hhad hshows, Shows, ← hfront, hshown] at hshows
      cases hshows
    · intro hnone
      exact absurd hdelete (hnone e' he')

/-! ### Sessions of a bench -/

/-- Whatever clients had a bench do before, and whatever happens then, as long as nobody but its own calls and
searches touches the identifiers that a session of theirs has had: at most one of them shows an entry; while no
call on the session is under way it is the one that the session has; and behind the last request of its calls, if
that wrote an entry which is not past its expiry, one of them shows an entry exactly if no search has deleted it
since. -/
theorem one_identifier_shown (v : Vault) (d : Duration) (entropy : Entropy) (acts : List Act) (n : Nat) (s : Session)
    (hs : (answers Bench.serve (Bench.start v d entropy) acts).2.sessions[n]? = some s) (moves : List Move)
    (halone : Alone v n s.name s.id
      ((answers Bench.serve (Bench.start v d entropy) acts).2.hall.run v moves).journal.events) :
    let h := (answers Bench.serve (Bench.start v d entropy) acts).2.hall.run v moves
    (∀ id id', Had v n s.name s.id h.journal.events id → Had v n s.name s.id h.journal.events id' →
        h.Shows v s.name id → h.Shows v s.name id' → id = id') ∧
      (h.isBusy n = false → ∀ id, Had v n s.name s.id h.journal.events id → h.Shows v s.name id →
        (h.sessions[n]?).map Session.id = some id) ∧
      ∀ e id entry, h.lastOwn n = some e → e.request.leaves e.instant (v.key s.name id) = some (some entry) →
        entry.isLive h.clock = true →
          ((∃ id', Had v n s.name s.id h.journal.events id' ∧ h.Shows v s.name id') ↔
            ∀ e' ∈ h.sinceOwn n, e'.request ≠ .delete (v.key s.name id)) := by
  have hagree := (Roster.answers_agree (Roster.agree_start v d entropy) acts).2
  obtain ⟨s', front, ht⟩ := (tenant_hall hagree hs).run moves halone
  refine ⟨?_, ?_, ?_⟩
  · intro id id' hi hi' hshows hshows'
    rw [ht.shows id hi hshows, ht.shows id' hi' hshows']
  · intro hidle id hhad hshows
    rw [ht.session, ht.shows id hhad hshows, ← ht.idle hidle]
    rfl
  · intro e id entry hlast hleaves hlive
    exact ht.shows_iff halone hlast hleaves hlive

theorem one_identifier_shown_sample :
    (Bench.sample.sessions[0]?).isSome = true ∧
      ((Bench.sample.hall.run Vault.sample [.call 0 .persist, .step 0, .step 0, .step 0, .step 0]).isBusy 0 = false →
        ∀ id, Had Vault.sample 0 "sid" Vault.sampleId (Bench.sample.hall.run Vault.sample
            [.call 0 .persist, .step 0, .step 0, .step 0, .step 0]).journal.events id →
          (Bench.sample.hall.run Vault.sample [.call 0 .persist, .step 0, .step 0, .step 0, .step 0]).Shows Vault.sample
            "sid" id →
          ((Bench.sample.hall.run Vault.sample [.call 0 .persist, .step 0, .step 0, .step 0, .step 0]).sessions[0]?).map
            Session.id = some id) :=
  ⟨rfl, (one_identifier_shown Vault.sample ⟨0⟩ Vault.sampleEntropy [.create "sid" (some (.ofSeconds 60))] 0 _ rfl
    [.call 0 .persist, .step 0, .step 0, .step 0, .step 0] ⟨Or.inl rfl, trivial⟩).2.1⟩

@[irreducible] def lateEnd : Hall :=
  Bench.sample.hall.run Vault.sample (lateSearch ++ .step 1 :: (lateCleanup ++ [.step 1]))

/-- The write behind the back of the search. -/
def freshWrite : Event :=
  ⟨.keeper 0, Instant.epoch.add (.ofSeconds 61),
    .put (Vault.sample.key "sid" Vault.sampleId) (Vault.sample.wrap freshNonce freshRecord) (.ofSeconds 60)⟩

theorem lateEnd_eq :
    lateEnd = Hall.run Vault.sample { lateHall with
      calls := [.keep 0 (.done ()), .find "sid" Vault.sampleId (Vault.sample.check "sid" Vault.sampleId lateRecord)] }
        (lateCleanup ++ [.step 1]) := by
  rw [← lateHall_eq, lateEnd, lateHall, Hall.run, Hall.run, Hall.run, List.foldl_append, List.foldl_cons]

theorem lateEnd_events :
    lateEnd.journal.events.map Event.actor = [.finder 1, .keeper 0, .finder 1, .keeper 0] ∧
      lateEnd.lastOwn 0 = some freshWrite ∧
      ∃ e' ∈ lateEnd.sinceOwn 0, e'.request = .delete (Vault.sample.key "sid" Vault.sampleId) := by
  rw [lateEnd_eq]
  exact ⟨rfl, rfl, _, List.mem_cons_self, rfl⟩

/-- The session is refreshed and written for another minute, and a search that has read the entry before cleans it
up: no identifier shows an entry. -/
theorem late_cleanup_shows_none :
    Alone Vault.sample 0 "sid" Vault.sampleId lateEnd.journal.events ∧
      (∃ e entry, lateEnd.lastOwn 0 = some e ∧
        e.request.leaves e.instant (Vault.sample.key "sid" Vault.sampleId) = some (some entry) ∧
        entry.isLive lateEnd.clock = true) ∧
      ¬∃ id, Had Vault.sample 0 "sid" Vault.sampleId lateEnd.journal.events id ∧
        lateEnd.Shows Vault.sample "sid" id := by
  obtain ⟨hactors, hlast, e', he', hdelete⟩ := lateEnd_events
  have halone : Alone Vault.sample 0 "sid" Vault.sampleId lateEnd.journal.events := by
    refine alone_of_actors ?_
    intro e he
    have hactor := List.mem_map_of_mem (f := Event.actor) he
    rw [hactors] at hactor
    simp only [List.mem_cons, List.not_mem_nil, or_false] at hactor
    rcases hactor with h | h | h | h
    · exact Or.inr ⟨1, h⟩
    · exact Or.inl h
    · exact Or.inr ⟨1, h⟩
    · exact Or.inl h
  have hleaves : freshWrite.request.leaves freshWrite.instant (Vault.sample.key "sid" Vault.sampleId) =
      some (some ⟨Vault.sample.wrap freshNonce freshRecord, freshWrite.instant.add (.ofSeconds 60)⟩) := by
    rw [freshWrite, Request.leaves, if_pos rfl]
  have hlive : (Entry.mk (Vault.sample.wrap freshNonce freshRecord)
      (freshWrite.instant.add (.ofSeconds 60))).isLive lateEnd.clock = true := by
    rw [lateEnd_eq]
    rfl
  refine ⟨halone, ⟨_, _, hlast, hleaves, hlive⟩, ?_⟩
  intro hshows
  have hagree := (Roster.answers_agree (Roster.agree_start Vault.sample ⟨0⟩ Vault.sampleEntropy)
    [.create "sid" (some (.ofSeconds 60))]).2
  have hstart : Tenant Vault.sample 0 "sid" Vault.sampleId Bench.sample.base Bench.sample.hall
      (Session.start Vault.sampleId "sid" (.ofSeconds 60) Instant.epoch) Vault.sampleId :=
    tenant_hall (s := Session.start Vault.sampleId "sid" (.ofSeconds 60) Instant.epoch) hagree rfl
  have hend : Bench.sample.hall.run Vault.sample (lateSearch ++ .step 1 :: (lateCleanup ++ [.step 1])) = lateEnd := by
    rw [lateEnd]
  obtain ⟨s', front, ht⟩ :=
    hstart.run (lateSearch ++ .step 1 :: (lateCleanup ++ [.step 1])) (by rw [hend]; exact halone)
  rw [hend] at ht
  exact (ht.shows_iff halone hlast hleaves hlive).mp hshows e' he' hdelete

end SessionVault
