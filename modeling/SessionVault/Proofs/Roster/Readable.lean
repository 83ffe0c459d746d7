import SessionVault.Proofs.Json.Whole
import SessionVault.Proofs.Roster.Faithful

/-!
# Written sessions that can be read

A client makes a session, puts values into it whose numbers are integers, and writes it or moves it.  When this
succeeds the session is found again as it is, by a search and by a resolve, exactly if its values are nested no deeper
than `Record.valueDepth`.  A deeper session is written just as well, but no text of it is ever read: a search fails,
and a resolve gives a new session without values.

* `settled_serve`, `settled_answers` — an act, and a list of acts, keep the values of the session readable;
* `agree_filled` — a session that was made and filled stands at a roster, with readable values;
* `call_written` — a call that succeeds leaves the record of the session under its identifier;
* `find_written` — what becomes of a session that was written;
* `written_readable_iff` — the law of a client and a bench.
-/

namespace SessionVault

open Json

def Bench.after (b : Bench) (acts : List Act) : Bench := (answers Bench.serve b acts).2

/-- Every value that the acts of a list put into the session with a number is whole. -/
def FillsWhole (n : Nat) (acts : List Act) : Prop :=
  ∀ key p x, Act.change n (.set key p) ∈ acts → p.toJson = .ok x → x.Whole

/-- A session is found as it is, by a search and by a resolve. -/
def Bench.Finds (b : Bench) (s : Session) : Prop :=
  (b.serve (.load s.name s.id)).1 = .ended (.ok (some (Session.ofRecord s.record))) ∧
    (b.serve (.resolve (some s.id) s.name)).1 = .ended (.ok (some (Session.ofRecord s.record)))

/-- A search for a session fails because its text does not decode, and a resolve gives a new session without values
in its place. -/
def Bench.Loses (b : Bench) (s : Session) : Prop :=
  (∃ text, (b.serve (.load s.name s.id)).1 = .ended (.error (.deserialization text))) ∧
    ∃ t, (b.serve (.resolve (some s.id) s.name)).1 = .ended (.ok (some t)) ∧ t.isNew = true ∧ t.values = []

theorem Bench.Loses.not_finds {b : Bench} {s : Session} (h : b.Loses s) : ¬b.Finds s := by
  rintro ⟨hload, -⟩
  obtain ⟨⟨text, hlost⟩, -⟩ := h
  rw [hload] at hlost
  cases hlost

namespace Roster

variable {v : Vault} {a : Roster} {n : Nat} {s : Session}

/-! ### Values that stay readable -/

theorem settled_apply {s' : Session} {now : Instant} {c : Change} (hset : (object s.values).Settled)
    (hc : ∀ key p x, c = .set key p → p.toJson = .ok x → x.Settled) (h : s.apply now c = .ok s') :
    (object s'.values).Settled := by
  obtain ⟨m, hm, rfl⟩ := Session.apply_eq_ok_iff.mp h
  cases m with
  | put key x =>
    obtain ⟨p, hset', hp⟩ := Change.mutation?_eq_put hm
    exact settled_insert (hc key p x hset' hp) hset
  | take key => exact settled_erase hset
  | clear => exact settled_nil
  | refresh ttl => exact hset
  | extend delta => exact hset

/-- A session behind an act that only puts readable values into it. -/
theorem settled_serve (v : Vault) (read : Record → Except Failure Record) {act : Act} (hs : a.sessions[n]? = some s)
    (hset : (object s.values).Settled)
    (hact : ∀ key p x, act = .change n (.set key p) → p.toJson = .ok x → x.Settled) :
    ∃ s', (a.serve v read act).2.sessions[n]? = some s' ∧ s'.name = s.name ∧ (object s'.values).Settled := by
  -- A session that is made or found stands behind the ones that are there.
  have hpush : ∀ t : Session, (a.sessions.push t)[n]? = some s := by
    intro t
    rw [Array.getElem?_push, if_neg (Nat.ne_of_lt (Array.getElem?_eq_some_iff.mp hs).1)]
    exact hs
  cases act with
  | create name ttl => exact ⟨s, hpush _, rfl, hset⟩
  | load name id =>
    rw [serve]
    split
    · exact ⟨s, hpush _, rfl, hset⟩
    · exact ⟨s, hs, rfl, hset⟩
  | resolve incoming name =>
    rw [serve]
    split
    · exact ⟨s, hpush _, rfl, hset⟩
    · split
      · exact ⟨s, hpush _, rfl, hset⟩
      · split
        · exact ⟨s, hpush _, rfl, hset⟩
        · exact ⟨s, hs, rfl, hset⟩
  | change m c =>
    rw [serve]
    cases hm : a.sessions[m]? with
    | none => exact ⟨s, hs, rfl, hset⟩
    | some t =>
      dsimp only
      cases hc : t.apply a.clock c with
      | error f => exact ⟨s, hs, rfl, hset⟩
      | ok t' =>
        by_cases hmn : m = n
        · subst hmn
          rw [hs] at hm
          cases hm
          have hset' : (object t'.values).Settled :=
            settled_apply hset (fun key p x hkey => hact key p x (by rw [hkey])) hc
          exact ⟨t', (getElem?_modify_self m _ _).trans (congrArg _ hs), (Session.id_apply hc).2, hset'⟩
        · exact ⟨s, (getElem?_modify_of_ne (Ne.symm hmn) _ _).trans hs, rfl, hset⟩
  | call m c =>
    rw [serve]
    cases hm : a.sessions[m]? with
    | none => exact ⟨s, hs, rfl, hset⟩
    | some t =>
      dsimp only
      cases c with
      | persist =>
        rw [call]
        split <;> exact ⟨s, hs, rfl, hset⟩
      | rotate =>
        rw [call]
        split
        · -- The session takes another identifier, and keeps its values.
          by_cases hmn : m = n
          · subst hmn
            exact ⟨_, (getElem?_modify_self m _ _).trans (congrArg _ hs), rfl, hset⟩
          · exact ⟨s, (getElem?_modify_of_ne (Ne.symm hmn) _ _).trans hs, rfl, hset⟩
        · exact ⟨s, hs, rfl, hset⟩
      | destroy => exact ⟨s, hs, rfl, hset⟩
  | tick d => exact ⟨s, hs, rfl, hset⟩

/-- A session behind acts that only put readable values into it. -/
theorem settled_answers (v : Vault) (read : Record → Except Failure Record) {acts : List Act}
    (hs : a.sessions[n]? = some s) (hset : (object s.values).Settled)
    (hfills : FillsWhole n acts) :
    ∃ s', (answers (serve v read) a acts).2.sessions[n]? = some s' ∧ s'.name = s.name ∧ (object s'.values).Settled := by
  induction acts generalizing a s with
  | nil => exact ⟨s, hs, rfl, hset⟩
  | cons act acts ih =>
    obtain ⟨s₁, hs₁, hname₁, hset₁⟩ := settled_serve v read hs hset fun key p x hact hp =>
      settled_of_whole x (hfills key p x (hact ▸ List.mem_cons_self) hp)
    obtain ⟨s₂, hs₂, hname₂, hset₂⟩ := ih hs₁ hset₁ fun key p x hmem => hfills key p x (List.mem_cons_of_mem _ hmem)
    exact ⟨s₂, hs₂, hname₂.trans hname₁, hset₂⟩

/-! ### What a call leaves -/

/-- A call that writes succeeds if there is a lifetime worth writing, and then the record of the session is under the
identifier that the session has behind the call. -/
theorem call_written (hs : a.sessions[n]? = some s) (hproper : Proper s) (hplain : a.clock.Plain) {c : Lifecycle}
    (hc : c = .persist ∨ c = .rotate) :
    ((a.call v n s c).1 = .ended (.ok none) ↔ Vault.Writable s.record.expiresAt a.clock) ∧
      ∃ s', (a.call v n s c).2.sessions[n]? = some s' ∧ s'.record = { s.record with id := s'.id } ∧
        Identifier.isValid s'.id = true ∧
        (Vault.Writable s.record.expiresAt a.clock →
          (a.call v n s c).2.live? s'.name s'.id = some s'.record) := by
  have hlive : Vault.Writable s.record.expiresAt a.clock → a.clock.before s.record.expiresAt = true := by
    intro hw
    rw [Instant.before_iff_total hplain hproper.expiresAt]
    rw [Vault.Writable] at hw
    omega
  rcases hc with rfl | rfl
  · rw [call]
    split
    · rename_i hw
      refine ⟨⟨fun _ => hw, fun _ => rfl⟩, s, hs, rfl, hproper.id, ?_⟩
      intro _
      rw [live?_put, if_pos ⟨rfl, rfl⟩]
      exact Option.filter_some_pos (hlive hw)
    · rename_i hw
      refine ⟨⟨fun h => (by cases h), fun h => absurd h hw⟩, s, hs, rfl, hproper.id, fun h => absurd h hw⟩
  · rw [call]
    split
    · rename_i hw
      refine ⟨⟨fun _ => hw, fun _ => rfl⟩, _, (getElem?_modify_self n _ _).trans (congrArg _ hs), rfl,
        Identifier.isValid_ofOctets (Entropy.length_draw _ _), ?_⟩
      intro _
      dsimp only
      rw [Session.name, Session.id_withId, live?_put]
      rw [if_pos ⟨rfl, rfl⟩]
      exact Option.filter_some_pos (hlive hw)
    · rename_i hw
      refine ⟨⟨fun h => (by cases h), fun h => absurd h hw⟩, s, hs, rfl, hproper.id, fun h => absurd h hw⟩

/-! ### What is found of it -/

/-- A session that was written is found as it is if its values are not nested too deeply, and otherwise not at all. -/
theorem find_written (hid : Identifier.isValid s.id = true) (hlive : a.live? s.name s.id = some s.record)
    (hset : (object s.values).Settled) :
    (membersDepth s.values ≤ Record.valueDepth →
        a.find Record.reread s.name s.id = .ok (Session.ofRecord s.record)) ∧
      (¬membersDepth s.values ≤ Record.valueDepth →
        ∃ text, a.find Record.reread s.name s.id = .error (.deserialization text)) := by
  have hfind : a.find Record.reread s.name s.id = s.record.reread.map Session.ofRecord :=
    find_of_found (by rw [if_pos hid, hlive])
  constructor
  · intro hdepth
    have hread : s.record.reread = .ok s.record :=
      (Record.reread_eq_self_iff s.record).mpr ⟨hdepth, hset.1, hset.2⟩
    rw [hfind, hread]
    rfl
  · intro hdepth
    obtain ⟨text, hread⟩ := Record.reread_of_deep hdepth
    refine ⟨text, ?_⟩
    rw [hfind, hread]
    rfl

/-- A resolve gives the session that is found under a valid identifier, or a new one where its text does not decode. -/
theorem serve_resolve_of_find (v : Vault) (read : Record → Except Failure Record) (a : Roster) (name : String)
    {id : String} (hid : Identifier.isValid id = true) :
    (∀ t, a.find read name id = .ok t → (a.serve v read (.resolve (some id) name)).1 = .ended (.ok (some t))) ∧
      (∀ text, a.find read name id = .error (.deserialization text) →
        ∃ t, (a.serve v read (.resolve (some id) name)).1 = .ended (.ok (some t)) ∧ t.isNew = true ∧
          t.values = []) := by
  have hne : (some id).filter (fun i => decide (i ≠ "")) = some id := by
    refine Option.filter_some_pos (decide_eq_true ?_)
    rintro rfl
    cases hid
  constructor
  · intro t hfind
    rw [serve, hne]
    dsimp only
    rw [hfind]
    rfl
  · intro text hfind
    rw [serve, hne]
    dsimp only
    rw [hfind]
    exact ⟨(a.create v name none).1, rfl, rfl, rfl⟩

/-! ### At a bench -/

theorem after_append (b : Bench) (acts acts' : List Act) : b.after (acts ++ acts') = (b.after acts).after acts' := by
  induction acts generalizing b with
  | nil => rfl
  | cons act acts ih => exact ih (b.serve act).2

/-- What becomes of a session with readable values by a call that writes it. -/
theorem Agree.call_readable {b : Bench} (h : Agree v b a) (hs : a.sessions[n]? = some s)
    (hset : (object s.values).Settled) {c : Lifecycle} (hc : c = .persist ∨ c = .rotate) :
    ((b.serve (.call n c)).1 = .ended (.ok none) ↔ Vault.Writable s.record.expiresAt b.clock) ∧
      ∃ s', (b.serve (.call n c)).2.sessions[n]? = some s' ∧ s'.record = { s.record with id := s'.id } ∧
        ((b.serve (.call n c)).1 = .ended (.ok none) →
          (membersDepth s'.values ≤ Record.valueDepth → (b.serve (.call n c)).2.Finds s') ∧
            (¬membersDepth s'.values ≤ Record.valueDepth → (b.serve (.call n c)).2.Loses s')) := by
  have hserve : a.serve v Record.reread (.call n c) = a.call v n s c := by rw [serve, hs]
  obtain ⟨hanswer, hafter⟩ := serve_call h n c
  rw [hserve] at hanswer hafter
  obtain ⟨hwritable, s', hs', hrecord, hid, hlive⟩ := call_written hs (h.proper n s hs) h.plain hc
  have hvalues : (object s'.values).Settled := by
    rw [Session.values, hrecord]
    exact hset
  refine ⟨?_, s', (hafter.sessions n).trans hs', hrecord, ?_⟩
  · rw [h.clock, hanswer]
    exact hwritable
  · intro hok
    rw [hanswer] at hok
    have hload := (serve_load hafter s'.name s'.id).1
    have hresolve := (serve_resolve hafter (some s'.id) s'.name).1
    obtain ⟨hshallow, hdeep⟩ := find_written hid (hlive (hwritable.mp hok)) hvalues
    have hfound := serve_resolve_of_find v Record.reread (a.call v n s c).2 s'.name hid
    rw [serve] at hload
    constructor
    · intro hd
      rw [hshallow hd] at hload
      exact ⟨hload, hresolve.trans (hfound.1 _ (hshallow hd))⟩
    · intro hd
      obtain ⟨text, hfind⟩ := hdeep hd
      obtain ⟨t, ht, hnew⟩ := hfound.2 text hfind
      rw [hfind] at hload
      exact ⟨⟨text, hload⟩, t, hresolve.trans ht, hnew⟩

/-- A session that a client makes at a bench, and that only whole values are put into, is there under the number that it
was made with, and its values are readable. -/
theorem agree_filled (v : Vault) (d : Duration) (entropy : Entropy) (acts more : List Act) (name : String)
    (ttl : Option Duration) (hfills : FillsWhole ((Bench.start v d entropy).after acts).sessions.size more) :
    ∃ a s, Agree v ((Bench.start v d entropy).after (acts ++ .create name ttl :: more)) a ∧
      a.sessions[((Bench.start v d entropy).after acts).sessions.size]? = some s ∧ s.name = name ∧
      (object s.values).Settled := by
  obtain ⟨-, hbefore⟩ := answers_agree (agree_start v d entropy) acts
  obtain ⟨-, hmade⟩ := serve_agree hbefore (.create name ttl)
  obtain ⟨-, hfilled⟩ := answers_agree hmade more
  generalize (answers (serve v Record.reread) (start d entropy) acts).2 = a₀ at hbefore hmade hfilled
  -- The session that is made gets the number of all sessions before it.
  have hnew : (a₀.serve v Record.reread (.create name ttl)).2.sessions[
      ((Bench.start v d entropy).after acts).sessions.size]? = some (a₀.create v name ttl).1 := by
    have hsame : ((Bench.start v d entropy).after acts).sessions = a₀.sessions := Array.ext_getElem? hbefore.sessions
    rw [hsame]
    exact Array.getElem?_push_size
  obtain ⟨s, hs, hname, hset⟩ := settled_answers v Record.reread hnew settled_nil hfills
  refine ⟨_, s, ?_, hs, hname, hset⟩
  rw [after_append]
  exact hfilled

/-- At a bench where any acts have been served, a client makes a session; whatever all clients do then, the values
that are put into this session are whole.  A call that writes it succeeds exactly if a millisecond of its life is
left.  Behind one that has succeeded the session is found as it is exactly if its values are nested no deeper than a
record can be read, and otherwise it is lost. -/
theorem written_readable_iff (v : Vault) (d : Duration) (entropy : Entropy) (acts more : List Act) (name : String)
    (ttl : Option Duration) (c : Lifecycle) (hc : c = .persist ∨ c = .rotate)
    (hfills : FillsWhole ((Bench.start v d entropy).after acts).sessions.size more) :
    let n := ((Bench.start v d entropy).after acts).sessions.size
    let b := (Bench.start v d entropy).after (acts ++ .create name ttl :: more)
    let out := b.serve (.call n c)
    ∃ s s', b.sessions[n]? = some s ∧ out.2.sessions[n]? = some s' ∧ s'.record = { s.record with id := s'.id } ∧
      s'.name = name ∧ (out.1 = .ended (.ok none) ↔ Vault.Writable s.record.expiresAt b.clock) ∧
      (out.1 = .ended (.ok none) →
        (out.2.Finds s' ↔ membersDepth s'.values ≤ Record.valueDepth) ∧
          (out.2.Loses s' ↔ ¬membersDepth s'.values ≤ Record.valueDepth)) := by
  intro n b out
  obtain ⟨a, s, hagree, hs, hname, hset⟩ := agree_filled v d entropy acts more name ttl hfills
  obtain ⟨hwritable, s', hs', hrecord, hread⟩ := hagree.call_readable hs hset hc
  have hname' : s'.name = name := by
    rw [Session.name, hrecord]
    exact hname
  refine ⟨s, s', (hagree.sessions n).trans hs, hs', hrecord, hname', hwritable, ?_⟩
  intro hok
  obtain ⟨hshallow, hdeep⟩ := hread hok
  refine ⟨⟨?_, hshallow⟩, ?_, hdeep⟩
  · intro hfinds
    by_contra hd
    exact (hdeep hd).not_finds hfinds
  · intro hloses hd
    exact hloses.not_finds (hshallow hd)

/-- A list of one level with the greatest integer of 64 bits in it. -/
def flatActs : List Act := [.tick (.ofSeconds 5), .change 0 (.set "k" (.json (.array [.int 0xffffffffffffffff])))]

theorem written_readable_sample :
    FillsWhole ((Bench.start Vault.sample ⟨0⟩ Vault.sampleEntropy).after []).sessions.size flatActs ∧
      ∃ s', (((Bench.start Vault.sample ⟨0⟩ Vault.sampleEntropy).after
        (.create "sid" (some (.ofSeconds 60)) :: flatActs)).serve (.call 0 .rotate)).2.Finds s' := by
  have hfills : FillsWhole ((Bench.start Vault.sample ⟨0⟩ Vault.sampleEntropy).after []).sessions.size flatActs := by
    intro key p x hact hp
    simp [flatActs] at hact
    obtain ⟨-, -, rfl⟩ := hact
    cases hp
    exact ⟨rfl, trivial⟩
  refine ⟨hfills, ?_⟩
  obtain ⟨s, s', hs, -, hrecord, -, hwritable, hread⟩ := written_readable_iff Vault.sample ⟨0⟩ Vault.sampleEntropy []
    flatActs "sid" (some (.ofSeconds 60)) .rotate (Or.inr rfl) hfills
  obtain ⟨s₀, hs₀, hvalues, hw⟩ : ∃ s₀, ((Bench.start Vault.sample ⟨0⟩ Vault.sampleEntropy).after
      (.create "sid" (some (.ofSeconds 60)) :: flatActs)).sessions[0]? = some s₀ ∧
      s₀.values = [("k", .array [.int 0xffffffffffffffff])] ∧
      Vault.Writable s₀.record.expiresAt ((Bench.start Vault.sample ⟨0⟩ Vault.sampleEntropy).after
        (.create "sid" (some (.ofSeconds 60)) :: flatActs)).clock := ⟨_, rfl, rfl, by decide⟩
  cases hs₀.symm.trans hs
  refine ⟨s', (hread (hwritable.mpr hw)).1.mpr ?_⟩
  rw [Session.values, hrecord]
  show membersDepth s.values ≤ _
  rw [hvalues]
  decide

/-! ### A session that is written and lost -/

theorem whole_nested (n : Nat) : (nested n).Whole := by
  induction n with
  | zero => trivial
  | succ n ih => exact ⟨ih, trivial⟩

def deepFilling : List Act := [.create "sid" (some (.ofSeconds 60)), .change 0 (.set "k" (.json (nested 125)))]

/-- A session that is nested too deeply is written, if its lifetime is worth it, and not found. -/
theorem Agree.not_finds_of_deep {b : Bench} (h : Agree v b a) (hs : a.sessions[n]? = some s)
    (hset : (object s.values).Settled) (hdeep : ¬membersDepth s.values ≤ Record.valueDepth)
    (hw : Vault.Writable s.record.expiresAt a.clock) {c : Lifecycle} (hc : c = .persist ∨ c = .rotate) :
    (b.serve (.call n c)).1 = .ended (.ok none) ∧
      ∃ s', (b.serve (.call n c)).2.sessions[n]? = some s' ∧ ¬(b.serve (.call n c)).2.Finds s' := by
  obtain ⟨hwritable, s', hs', hrecord, hread⟩ := h.call_readable hs hset hc
  rw [h.clock] at hwritable
  refine ⟨hwritable.mpr hw, s', hs', ((hread (hwritable.mpr hw)).2 ?_).not_finds⟩
  rw [Session.values, hrecord]
  exact hdeep

/-- The session is moved without an error, and is not found under its new identifier. -/
theorem deep_written_lost :
    (((Bench.start Vault.sample ⟨0⟩ Vault.sampleEntropy).after deepFilling).serve (.call 0 .rotate)).1 =
        .ended (.ok none) ∧
      ∃ s, (((Bench.start Vault.sample ⟨0⟩ Vault.sampleEntropy).after deepFilling).serve
          (.call 0 .rotate)).2.sessions[0]? = some s ∧
        ¬(((Bench.start Vault.sample ⟨0⟩ Vault.sampleEntropy).after deepFilling).serve
          (.call 0 .rotate)).2.Finds s := by
  have hagree : Agree Vault.sample ((Bench.start Vault.sample ⟨0⟩ Vault.sampleEntropy).after deepFilling) _ :=
    (answers_agree (agree_start Vault.sample ⟨0⟩ Vault.sampleEntropy) deepFilling).2
  obtain ⟨s, hs, hvalues, hw⟩ : ∃ s, (answers (serve Vault.sample Record.reread) (start ⟨0⟩ Vault.sampleEntropy)
      deepFilling).2.sessions[0]? = some s ∧ s.values = [("k", nested 125)] ∧
      Vault.Writable s.record.expiresAt (answers (serve Vault.sample Record.reread) (start ⟨0⟩ Vault.sampleEntropy)
        deepFilling).2.clock := ⟨_, rfl, rfl, by decide⟩
  refine hagree.not_finds_of_deep hs ?_ ?_ hw (Or.inr rfl)
  · rw [hvalues]
    exact settled_singleton "k" (settled_of_whole _ (whole_nested 125))
  · rw [hvalues, membersDepth, membersDepth, depth_nested]
    decide

end Roster

end SessionVault
