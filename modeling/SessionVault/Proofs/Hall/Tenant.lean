import SessionVault.Proofs.Hall.Basic

/-!
# One identifier at a time

The calls on one session take turns with each other, with changes of the session, with searches and with strangers
that keep away from its identifiers.  At any moment one identifier is in front: the one that the session has, or
the one that it is about to take.

* `Lawful`, `Owes`, `Quiet` — what is left of a call that has written nothing yet, of a rotation that has moved the
  session and has yet to say so, and of a call that is as good as over;
* `Hall.Had`, `Hall.Shows`, `Hall.Alone` — an identifier that the session has had, one that shows an entry, and a
  session whose identifiers strangers keep away from;
* `Tenant` — the invariant: the identifier in front is the only one that can show an entry;
* `Tenant.move` — every move keeps the invariant, as long as the session is alone.
-/

namespace SessionVault

open Program

/-! ### What is left of a call -/

/-- A call that is as good as over. -/
def Quiet : Program Unit → Prop
  | .done _ | .fail _ => True
  | .note _ next => Quiet next
  | _ => False

/-- A rotation that has moved the session to an identifier, which the session has yet to take. -/
def Owes (id : String) : Program Unit → Prop
  | .note _ next => Owes id next
  | .assign id' next => id' = id ∧ Quiet next
  | _ => False

/-- A request of a call on the session under a name and an identifier, and what follows it. -/
def LawfulAsk (v : Vault) (name id : String) (next : Reply → Program Unit) : Request → Prop
  | .get _ => False
  | .put key _ _ => key = v.key name id ∧ ∀ reply, Quiet (next reply)
  | .delete key => key = v.key name id ∧ ∀ reply, Quiet (next reply)
  | .replace old new _ _ => old = v.key name id ∧ ∃ id', new = v.key name id' ∧ Owes id' (next (.ok none))

/-- A call on the session under a name and an identifier that has made no request yet. -/
def Lawful (v : Vault) (name id : String) : Program Unit → Prop
  | .done _ | .fail _ => True
  | .ask r next => LawfulAsk v name id next r
  | .clock next => ∀ t, Lawful v name id (next t)
  | .draw _ next => ∀ bs, Lawful v name id (next bs)
  | .note _ next => Lawful v name id next
  | .snapshot next => ∀ r : Record, r.name = name → r.id = id → Lawful v name id (next r)
  | .assign _ _ => False

theorem lawful_of_quiet {v : Vault} {name id : String} : ∀ {p : Program Unit}, Quiet p → Lawful v name id p
  | .done _, _ => trivial
  | .fail _, _ => trivial
  | .note _ next, h => lawful_of_quiet (p := next) h
  | .ask _ _, h => h.elim
  | .clock _, h => h.elim
  | .draw _ _, h => h.elim
  | .snapshot _, h => h.elim
  | .assign _ _, h => h.elim

theorem not_isOver_of_owes {id : String} {p : Program Unit} (h : Owes id p) : p.isOver = false := by
  cases p with
  | done a => exact h.elim
  | fail f => exact h.elim
  | _ => rfl

theorem quiet_reply (reply : Reply) (line : Note) :
    Quiet ((ofExcept reply).bind fun _ => .note line (.done ())) := by
  cases reply with
  | ok text => exact trivial
  | error f => exact trivial

/-- Every call on a session is lawful. -/
theorem lawful_lifecycle (v : Vault) (name id : String) (c : Lifecycle) : Lawful v name id (v.lifecycle c) := by
  cases c with
  | persist =>
    rw [Vault.lifecycle, Vault.persist_eq]
    rintro r rfl rfl now
    show Lawful v r.name r.id ((ofExcept (Vault.writableTtl r.expiresAt now)).bind _)
    cases Vault.writableTtl r.expiresAt now with
    | error f => exact trivial
    | ok ttl => exact fun nonce => ⟨rfl, fun reply => quiet_reply reply _⟩
  | rotate =>
    rw [Vault.lifecycle, Vault.rotate_eq]
    rintro r rfl rfl now
    show Lawful v r.name r.id ((ofExcept (Vault.writableTtl r.expiresAt now)).bind _)
    cases Vault.writableTtl r.expiresAt now with
    | error f => exact trivial
    | ok ttl => exact fun octets nonce => ⟨rfl, _, rfl, rfl, trivial⟩
  | destroy =>
    rw [Vault.lifecycle, Vault.destroy_eq]
    rintro r rfl rfl
    exact ⟨rfl, fun reply => quiet_reply reply _⟩

/-! ### Identifiers -/

namespace Hall

section Identifiers

variable (v : Vault) (n : Nat) (name first : String)

/-- The session had the identifier at first, or one of its calls wrote it under the identifier. -/
def Had (es : List Event) (id : String) : Prop :=
  id = first ∨ ∃ e ∈ es, e.actor = .keeper n ∧ e.request.target? = some (v.key name id)

/-- The key of an identifier shows an entry. -/
def Shows (h : Hall) (id : String) : Prop := (h.journal.keyspace.shown (v.key name id) h.clock).isSome = true

/-- Nobody but its own calls and searches touches an identifier that the session has had. -/
def Alone : List Event → Prop
  | [] => True
  | e :: es => (e.actor = .keeper n ∨ (∃ i, e.actor = .finder i) ∨
      ∀ id, Had v n name first es id → e.request.leaves e.instant (v.key name id) = none) ∧ Alone es

/-- The last request of the calls on a session. -/
def lastOwn (h : Hall) (n : Nat) : Option Event := h.journal.events.find? fun e => e.actor = .keeper n

def sinceOwn (h : Hall) (n : Nat) : List Event := h.journal.events.takeWhile fun e => e.actor ≠ .keeper n

end Identifiers

theorem isBusy_eq_false_iff (h : Hall) (n : Nat) :
    h.isBusy n = false ↔ ∀ (i : Nat) (p : Program Unit), h.calls[i]? = some (.keep n p) → p.isOver = true := by
  rw [isBusy, List.any_eq_false]
  constructor
  · intro hall i p hcall
    have hholds := hall _ (List.mem_of_getElem? hcall)
    rw [Call.holds, beq_self_eq_true, Bool.true_and] at hholds
    simpa using hholds
  · intro hall c hc hholds
    obtain ⟨i, hi⟩ := List.mem_iff_getElem?.mp hc
    cases c with
    | find name id rest => cases hholds
    | keep m rest =>
      rw [Call.holds, Bool.and_eq_true, beq_iff_eq] at hholds
      obtain ⟨rfl, hover⟩ := hholds
      rw [hall i rest hi] at hover
      cases hover

end Hall

open Hall

variable {v : Vault} {n : Nat} {name first : String} {base : String → Option Entry} {h h' : Hall} {s : Session}
  {front : String}

theorem had_cons {e : Event} {es : List Event} (he : e.actor ≠ .keeper n) (id : String) :
    Had v n name first (e :: es) id ↔ Had v n name first es id := by
  constructor
  · rintro (rfl | ⟨e', he', hactor, htarget⟩)
    · exact Or.inl rfl
    · rcases List.mem_cons.mp he' with rfl | he'
      · exact absurd hactor he
      · exact Or.inr ⟨e', he', hactor, htarget⟩
  · rintro (rfl | ⟨e', he', hown⟩)
    · exact Or.inl rfl
    · exact Or.inr ⟨e', List.mem_cons_of_mem _ he', hown⟩

theorem had_cons_own {e : Event} {es : List Event} (he : e.actor = .keeper n) (id : String) :
    Had v n name first (e :: es) id ↔ e.request.target? = some (v.key name id) ∨ Had v n name first es id := by
  constructor
  · rintro (rfl | ⟨e', he', hactor, htarget⟩)
    · exact Or.inr (Or.inl rfl)
    · rcases List.mem_cons.mp he' with rfl | he'
      · exact Or.inl htarget
      · exact Or.inr (Or.inr ⟨e', he', hactor, htarget⟩)
  · rintro (htarget | rfl | ⟨e', he', hown⟩)
    · exact Or.inr ⟨e, List.mem_cons_self, he, htarget⟩
    · exact Or.inl rfl
    · exact Or.inr ⟨e', List.mem_cons_of_mem _ he', hown⟩

/-! ### The invariant -/

/-- The session is alone, one call on it at most is under way, and the identifier in front is the only one that can
show an entry. -/
structure Tenant (v : Vault) (n : Nat) (name first : String) (base : String → Option Entry) (h : Hall) (s : Session)
    (front : String) : Prop where
  sound : Sound base h
  session : h.sessions[n]? = some s
  named : s.name = name
  /-- The call under way has written nothing yet, or it is a rotation that owes the session the identifier in front. -/
  phase : ∀ (i : Nat) (p : Program Unit), h.calls[i]? = some (.keep n p) → p.isOver = false →
    s.id = front ∧ Lawful v name front p ∨ Owes front p
  idle : h.isBusy n = false → s.id = front
  single : ∀ (i j : Nat) (p q : Program Unit), h.calls[i]? = some (.keep n p) → h.calls[j]? = some (.keep n q) →
    p.isOver = false → q.isOver = false → i = j
  free : ∀ (i : Nat) (name' id' : String) (p : Program Session), h.calls[i]? = some (.find name' id' p) →
    p.Free (v.Sought name' id')
  sought : ∀ e ∈ h.journal.events, ∀ i, e.actor = .finder i → ∃ name' id', v.Sought name' id' e.request
  had : Had v n name first h.journal.events front
  shows : ∀ id, Had v n name first h.journal.events id → h.Shows v name id → id = front
  last : ∀ e, h.lastOwn n = some e → ∀ key, e.request.target? = some key → key = v.key name front

/-! ### Moves elsewhere -/

/-- A hall after a move that is none of the calls on the session. -/
structure Elsewhere (v : Vault) (n : Nat) (name first : String) (s : Session) (h h' : Hall) : Prop where
  session : ∃ s', h'.sessions[n]? = some s' ∧ s'.id = s.id ∧ s'.name = s.name
  keeps : ∀ (i : Nat) (p : Program Unit), h'.calls[i]? = some (.keep n p) ↔ h.calls[i]? = some (.keep n p)
  free : ∀ (i : Nat) (name' id' : String) (p : Program Session), h'.calls[i]? = some (.find name' id' p) →
    p.Free (v.Sought name' id')
  events : h'.journal.events = h.journal.events ∨
    ∃ e : Event, e.actor ≠ .keeper n ∧ (∀ i, e.actor = .finder i → ∃ name' id', v.Sought name' id' e.request) ∧
      h'.journal.events = e :: h.journal.events
  shows : ∀ id, Had v n name first h.journal.events id → h'.Shows v name id → h.Shows v name id

theorem Tenant.elsewhere (ht : Tenant v n name first base h s front) (hs : Sound base h')
    (he : Elsewhere v n name first s h h') : ∃ s', Tenant v n name first base h' s' front := by
  obtain ⟨s', hs', hid, hname⟩ := he.session
  have hhad : ∀ id, Had v n name first h'.journal.events id ↔ Had v n name first h.journal.events id := by
    intro id
    rcases he.events with heq | ⟨e, hactor, -, heq⟩
    · rw [heq]
    · rw [heq, had_cons hactor]
  have hlast : h'.lastOwn n = h.lastOwn n := by
    rcases he.events with heq | ⟨e, hactor, -, heq⟩
    · rw [lastOwn, lastOwn, heq]
    · rw [lastOwn, lastOwn, heq, List.find?_cons_of_neg (by simpa using hactor)]
  refine ⟨s', hs, hs', hname.trans ht.named, ?_, ?_,
    fun i j p q hi hj hp hq => ht.single i j p q ((he.keeps i p).mp hi) ((he.keeps j q).mp hj) hp hq, he.free, ?_,
    (hhad front).mpr ht.had, fun id hi hshows => ht.shows id ((hhad id).mp hi) (he.shows id ((hhad id).mp hi) hshows),
    fun e hown => ht.last e (hlast ▸ hown)⟩
  · intro i p hcall hover
    rw [hid]
    exact ht.phase i p ((he.keeps i p).mp hcall) hover
  · intro hidle
    rw [hid]
    rw [isBusy_eq_false_iff] at hidle
    exact ht.idle ((isBusy_eq_false_iff h n).mpr fun i p hcall => hidle i p ((he.keeps i p).mpr hcall))
  · rcases he.events with heq | ⟨e, -, hsought, heq⟩
    · rw [heq]
      exact ht.sought
    · intro e' he' i hi
      rw [heq] at he'
      rcases List.mem_cons.mp he' with rfl | he'
      · exact hsought i hi
      · exact ht.sought e' he' i hi

/-- Where the clock and the journal stay, a key shows what it showed. -/
theorem shows_of_eq {id : String} (hshows : h'.Shows v name id) (hclock : h'.clock = h.clock)
    (hjournal : h'.journal = h.journal) : h.Shows v name id := by
  rw [Shows, hclock, hjournal] at hshows
  exact hshows

/-- A request that a search makes, or one that keeps away, shows no identifier of the session. -/
theorem shows_of_alone {id : String} (hshows : h'.Shows v name id) (hs : Sound base h) (hclock : h'.clock = h.clock)
    {actor : Actor} {r : Request} (hjournal : h'.journal = (Journal.answers actor h.journal h.clock r).2)
    (hactor : actor ≠ .keeper n) (hsought : ∀ i, actor = .finder i → ∃ name' id', v.Sought name' id' r)
    (halone : Alone v n name first h'.journal.events) (hhad : Had v n name first h.journal.events id) :
    h.Shows v name id := by
  have hleaves : r.leaves h.clock (v.key name id) = none ∨ r.leaves h.clock (v.key name id) = some none := by
    rw [hjournal] at halone
    rcases halone.1 with hkeeper | ⟨i, hfinder⟩ | hnone
    · exact absurd hkeeper hactor
    · obtain ⟨name', id', rfl | rfl⟩ := hsought i hfinder
      · exact Or.inl rfl
      · rw [Request.leaves]
        split
        · exact Or.inr rfl
        · exact Or.inl rfl
    · exact Or.inl (hnone id hhad)
  have hanswer : h'.journal.keyspace = (h.journal.keyspace.answer h.clock r).2.1 := congrArg Journal.keyspace hjournal
  rw [Shows, hanswer, hclock, Keyspace.shown_answer hs.ascending] at hshows
  rcases hleaves with hnone | hnone
  · rw [hnone] at hshows
    exact hshows
  · rw [hnone] at hshows
    cases hshows

theorem shows_tick (hs : Sound base h) {d : Duration} {id : String}
    (hshows : Shows v name { h with clock := h.clock.add d } id) : h.Shows v name id := by
  obtain ⟨e, he⟩ := Option.isSome_iff_exists.mp hshows
  rw [Keyspace.shown_later (Instant.not_before_add hs.plain d)] at he
  rw [Shows, (Option.filter_eq_some_iff.mp he).1]
  rfl

/-! ### Steps of the calls on the session -/

/-- A step of the call under way keeps the invariant if it leads to a phase of a call. -/
theorem Tenant.own (ht : Tenant v n name first base h s front) {i : Nat} {rest rest' : Program Unit}
    (hcall : h.calls[i]? = some (.keep n rest)) (hover : rest.isOver = false) {s' : Session} {front' : String}
    (hs : Sound base h') (hcalls : h'.calls = h.calls.set i (.keep n rest')) (hsession : h'.sessions[n]? = some s')
    (hname : s'.name = s.name) (hphase : s'.id = front' ∧ Lawful v name front' rest' ∨ Owes front' rest')
    (hsought : ∀ e ∈ h'.journal.events, ∀ i, e.actor = .finder i → ∃ name' id', v.Sought name' id' e.request)
    (hhad : Had v n name first h'.journal.events front')
    (hshows : ∀ id, Had v n name first h'.journal.events id → h'.Shows v name id → id = front')
    (hlast : ∀ e, h'.lastOwn n = some e → ∀ key, e.request.target? = some key → key = v.key name front') :
    Tenant v n name first base h' s' front' := by
  -- No other call on the session is under way.
  have honly : ∀ (j : Nat) (p : Program Unit), h'.calls[j]? = some (.keep n p) → p.isOver = false →
      j = i ∧ p = rest' := by
    intro j p hj hp
    rw [hcalls] at hj
    rcases (getElem?_set_iff hcall).mp hj with ⟨rfl, hkeep⟩ | ⟨hne, hold⟩
    · cases hkeep
      exact ⟨rfl, rfl⟩
    · exact absurd (ht.single j i p rest hold hcall hp hover) hne
  refine ⟨hs, hsession, hname.trans ht.named, ?_, ?_, ?_, ?_, hsought, hhad, hshows, hlast⟩
  · intro j p hj hp
    rw [(honly j p hj hp).2]
    exact hphase
  · intro hidle
    have hrest : h'.calls[i]? = some (.keep n rest') := by
      rw [hcalls]
      exact (getElem?_set_iff hcall).mpr (Or.inl ⟨rfl, rfl⟩)
    have hdone := (isBusy_eq_false_iff h' n).mp hidle i rest' hrest
    rcases hphase with ⟨hid, -⟩ | howes
    · exact hid
    · rw [not_isOver_of_owes howes] at hdone
      cases hdone
  · intro j k p q hj hk hp hq
    rw [(honly j p hj hp).1, (honly k q hk hq).1]
  · intro j name' id' p hj
    rw [hcalls] at hj
    rcases (getElem?_set_iff hcall).mp hj with ⟨-, hfind⟩ | ⟨-, hold⟩
    · cases hfind
    · exact ht.free j name' id' p hold

/-- A step without a request. -/
theorem Tenant.own_quiet (ht : Tenant v n name first base h s front) {i : Nat} {rest rest' : Program Unit}
    (hcall : h.calls[i]? = some (.keep n rest)) (hover : rest.isOver = false) {s' : Session}
    (hclock : h'.clock = h.clock) (hjournal : h'.journal = h.journal)
    (hcalls : h'.calls = h.calls.set i (.keep n rest')) (hsession : h'.sessions[n]? = some s')
    (hname : s'.name = s.name) (hphase : s'.id = front ∧ Lawful v name front rest' ∨ Owes front rest') :
    Tenant v n name first base h' s' front := by
  refine ht.own hcall hover (ht.sound.of_eq hclock hjournal) hcalls hsession hname hphase ?_ ?_ ?_ ?_
  · rw [hjournal]
    exact ht.sought
  · rw [hjournal]
    exact ht.had
  · intro id hhad hshows
    rw [hjournal] at hhad
    exact ht.shows id hhad (shows_of_eq hshows hclock hjournal)
  · intro e he
    rw [lastOwn, hjournal] at he
    exact ht.last e he

/-- A step with a request, of which it is known what it leaves under the identifiers of the session. -/
theorem Tenant.own_ask (ht : Tenant v n name first base h s front) {i : Nat} {rest rest' : Program Unit}
    (hcall : h.calls[i]? = some (.keep n rest)) (hover : rest.isOver = false) {r : Request} {front' : String}
    (hclock : h'.clock = h.clock) (hjournal : h'.journal = (Journal.answers (.keeper n) h.journal h.clock r).2)
    (hcalls : h'.calls = h.calls.set i (.keep n rest')) (hsession : h'.sessions[n]? = some s)
    (hphase : s.id = front' ∧ Lawful v name front' rest' ∨ Owes front' rest')
    (hfront : front' = front ∨ r.target? = some (v.key name front'))
    (htarget : ∀ key, r.target? = some key → key = v.key name front')
    (hleaves : ∀ id, id ≠ front' → r.leaves h.clock (v.key name id) = some none ∨
      id ≠ front ∧ r.leaves h.clock (v.key name id) = none) : Tenant v n name first base h' s front' := by
  have hevents : h'.journal.events = ⟨.keeper n, h.clock, r⟩ :: h.journal.events := congrArg Journal.events hjournal
  have hkeyspace : h'.journal.keyspace = (h.journal.keyspace.answer h.clock r).2.1 := congrArg Journal.keyspace hjournal
  have hhad : ∀ id, Had v n name first h'.journal.events id ↔
      r.target? = some (v.key name id) ∨ Had v n name first h.journal.events id := by
    intro id
    rw [hevents]
    exact had_cons_own rfl id
  refine ht.own hcall hover (ht.sound.answer hclock hjournal) hcalls hsession rfl hphase ?_ ?_ ?_ ?_
  · intro e he j hj
    rw [hevents] at he
    rcases List.mem_cons.mp he with rfl | he
    · cases hj
    · exact ht.sought e he j hj
  · rw [hhad]
    rcases hfront with rfl | htarget'
    · exact Or.inr ht.had
    · exact Or.inl htarget'
  · intro id hid hshows
    by_contra hne
    rw [Shows, hkeyspace, hclock, Keyspace.shown_answer ht.sound.ascending] at hshows
    rcases hleaves id hne with hnone | ⟨hold, hnone⟩
    · rw [hnone] at hshows
      cases hshows
    · rw [hnone] at hshows
      rcases (hhad id).mp hid with hkey | hid
      · exact hne (v.key_inj_id.mp (htarget _ hkey))
      · exact hold (ht.shows id hid hshows)
  · intro e he
    rw [lastOwn, hevents, List.find?_cons_of_pos (by simp)] at he
    cases he
    exact htarget

/-- A step that leaves the session alone. -/
theorem Tenant.stays (ht : Tenant v n name first base h s front) :
    (h.sessions.modify n fun s => (h.world h.sessions[n]?).session.getD s)[n]? = some s := by
  have hsame : (h.world h.sessions[n]?).session.getD s = s := by
    show (h.sessions[n]?).getD s = s
    rw [ht.session]
    rfl
  refine (Roster.getElem?_modify_self n _ _).trans ?_
  rw [ht.session] at hsame ⊢
  exact congrArg some hsame

/-- The request of a call on the session. -/
theorem Tenant.step_ask (ht : Tenant v n name first base h s front) {i : Nat} {r : Request}
    {next : Reply → Program Unit} (hcall : h.calls[i]? = some (.keep n (.ask r next))) :
    ∃ front', Tenant v n name first base (h.stepKeep i n (.ask r next)) s front' := by
  have hsession : (h.stepKeep i n (.ask r next)).sessions[n]? = some s := ht.stays
  have hask := ht.phase i _ hcall rfl
  rcases hask with ⟨hid, hlawful⟩ | howes
  · cases r with
    | get key => exact hlawful.elim
    | put key text ttl =>
      obtain ⟨rfl, hquiet⟩ := hlawful
      refine ⟨front, ht.own_ask hcall rfl rfl rfl rfl hsession (Or.inl ⟨hid, lawful_of_quiet (hquiet _)⟩) (Or.inl rfl)
        (fun key htarget => (Option.some.inj htarget).symm) fun id hne => Or.inr ⟨hne, ?_⟩⟩
      exact if_neg fun hk => hne (v.key_inj_id.mp hk).symm
    | delete key =>
      obtain ⟨rfl, hquiet⟩ := hlawful
      refine ⟨front, ht.own_ask hcall rfl rfl rfl rfl hsession (Or.inl ⟨hid, lawful_of_quiet (hquiet _)⟩) (Or.inl rfl)
        (fun key htarget => by cases htarget) fun id hne => Or.inr ⟨hne, ?_⟩⟩
      exact if_neg fun hk => hne (v.key_inj_id.mp hk).symm
    | replace old new text ttl =>
      -- The session has not taken the new identifier yet, but it is in front from here on.
      obtain ⟨rfl, new, rfl, howes⟩ := hlawful
      refine ⟨new, ht.own_ask hcall rfl rfl rfl rfl hsession (Or.inr howes) (Or.inr rfl)
        (fun key htarget => (Option.some.inj htarget).symm) ?_⟩
      intro id hne
      rw [Request.leaves, if_neg fun hk => hne (v.key_inj_id.mp hk).symm]
      by_cases hold : id = front
      · rw [hold, if_pos rfl]
        exact Or.inl rfl
      · rw [if_neg fun hk => hold (v.key_inj_id.mp hk).symm]
        exact Or.inr ⟨hold, rfl⟩
  · exact howes.elim

/-- A step of a call on the session keeps the invariant. -/
theorem Tenant.stepKeep (ht : Tenant v n name first base h s front) {i : Nat} {rest : Program Unit}
    (hcall : h.calls[i]? = some (.keep n rest)) :
    ∃ s' front', Tenant v n name first base (h.stepKeep i n rest) s' front' := by
  -- A call that is over stays over.
  have hover : rest.isOver = true → h.stepKeep i n rest =
      { h with sessions := h.sessions.modify n fun s => (h.world h.sessions[n]?).session.getD s } := by
    intro hdone
    have hcalls : h.calls.set i (.keep n rest) = h.calls := by
      obtain ⟨hi, hrest⟩ := List.getElem?_eq_some_iff.mp hcall
      rw [← hrest, List.set_getElem_self]
    have hstep : h.stepKeep i n rest = { h with
        sessions := h.sessions.modify n fun s => (h.world h.sessions[n]?).session.getD s
        calls := h.calls.set i (.keep n rest) } := by
      cases rest with
      | done a => rfl
      | fail f => rfl
      | _ => cases hdone
    rw [hstep, hcalls]
  cases hdone : rest.isOver with
  | true =>
    have hsound : Sound base
        { h with sessions := h.sessions.modify n fun s => (h.world h.sessions[n]?).session.getD s } :=
      ht.sound.of_eq rfl rfl
    rw [hover hdone]
    obtain ⟨s', ht'⟩ := ht.elsewhere hsound ⟨⟨s, ht.stays, rfl, rfl⟩, fun _ _ => Iff.rfl, ht.free, Or.inl rfl,
      fun id _ hshows => shows_of_eq hshows rfl rfl⟩
    exact ⟨s', front, ht'⟩
  | false =>
    have hphase := ht.phase i rest hcall hdone
    cases rest with
    | done a => cases hdone
    | fail f => cases hdone
    | ask r next => exact ⟨s, ht.step_ask hcall⟩
    | clock next =>
      have hnext := hphase.resolve_right fun howes => howes.elim
      exact ⟨s, front, ht.own_quiet hcall hdone rfl rfl rfl ht.stays rfl (Or.inl ⟨hnext.1, hnext.2 _⟩)⟩
    | draw k next =>
      have hnext := hphase.resolve_right fun howes => howes.elim
      exact ⟨s, front, ht.own_quiet hcall hdone rfl rfl rfl ht.stays rfl (Or.inl ⟨hnext.1, hnext.2 _⟩)⟩
    | note line next => exact ⟨s, front, ht.own_quiet hcall hdone rfl rfl rfl ht.stays rfl hphase⟩
    | snapshot next =>
      obtain ⟨hid, hlawful⟩ := hphase.resolve_right fun howes => howes.elim
      have hstep : (Program.snapshot next).step (Journal.answers (.keeper n)) (h.world h.sessions[n]?) =
          (next s.record, h.world h.sessions[n]?) := by
        simp only [Program.step, world, ht.session]
      have hcalls : (h.stepKeep i n (.snapshot next)).calls = h.calls.set i (.keep n (next s.record)) := by
        rw [Hall.stepKeep, hstep]
      refine ⟨s, front, ht.own_quiet hcall hdone rfl ?_ hcalls ?_ rfl (Or.inl ⟨hid, hlawful s.record ht.named hid⟩)⟩
      · rw [Hall.stepKeep, hstep]
        rfl
      · rw [Hall.stepKeep, hstep]
        exact ht.stays
    | assign id next =>
      obtain ⟨rfl, hquiet⟩ := hphase.resolve_left fun hlawful => hlawful.2
      refine ⟨s.withId id, id, ht.own_quiet hcall hdone rfl rfl rfl ?_ rfl (Or.inl ⟨rfl, lawful_of_quiet hquiet⟩)⟩
      refine (Roster.getElem?_modify_self n _ _).trans ?_
      rw [ht.session]
      rfl

/-! ### Moves -/

/-- A step of a search is a move elsewhere. -/
theorem Tenant.stepFind (ht : Tenant v n name first base h s front) {i : Nat} {name' id' : String}
    {rest : Program Session} (hcall : h.calls[i]? = some (.find name' id' rest))
    (halone : Alone v n name first (h.stepFind i name' id' rest).journal.events) :
    Elsewhere v n name first s h (h.stepFind i name' id' rest) := by
  have hfree := ht.free i name' id' rest hcall
  refine ⟨⟨s, ht.session, rfl, rfl⟩, ?_, ?_, ?_, ?_⟩
  · intro j p
    rw [Hall.stepFind, getElem?_set_iff hcall]
    constructor
    · intro hor
      exact (hor.resolve_left fun hfind => by cases hfind.2).2
    · intro hold
      refine Or.inr ⟨?_, hold⟩
      intro heq
      rw [heq, hcall] at hold
      cases hold
  · intro j name'' id'' p hj
    rcases (getElem?_set_iff hcall).mp hj with ⟨-, hfind⟩ | ⟨-, hold⟩
    · cases hfind
      exact hfree.step _
    · exact ht.free j name'' id'' p hold
  · rcases Program.store_step (Journal.answers (.finder i)) rest (h.world none) with hstore | ⟨r, next, rfl, hstore⟩
    · exact Or.inl (congrArg Journal.events hstore)
    · exact Or.inr ⟨_, by simp, fun j _ => ⟨name', id', hfree.1⟩, congrArg Journal.events hstore⟩
  · intro id hhad hshows
    rcases Program.store_step (Journal.answers (.finder i)) rest (h.world none) with hstore | ⟨r, next, rfl, hstore⟩
    · exact shows_of_eq hshows rfl hstore
    · exact shows_of_alone hshows ht.sound rfl hstore (by simp) (fun j _ => ⟨name', id', hfree.1⟩) halone hhad

/-- A step of a call on another session is a move elsewhere. -/
theorem Tenant.stepOther (ht : Tenant v n name first base h s front) {i m : Nat} (hm : m ≠ n) {rest : Program Unit}
    (hcall : h.calls[i]? = some (.keep m rest))
    (halone : Alone v n name first (h.stepKeep i m rest).journal.events) :
    Elsewhere v n name first s h (h.stepKeep i m rest) := by
  have hactor : Actor.keeper m ≠ .keeper n := fun heq => hm (Actor.keeper.inj heq)
  refine ⟨⟨s, ?_, rfl, rfl⟩, ?_, ?_, ?_, ?_⟩
  · exact (Roster.getElem?_modify_of_ne (Ne.symm hm) _ _).trans ht.session
  · intro j p
    rw [Hall.stepKeep, getElem?_set_iff hcall]
    constructor
    · intro hor
      refine (hor.resolve_left ?_).2
      intro hkeep
      cases hkeep.2
      exact hm rfl
    · intro hold
      refine Or.inr ⟨?_, hold⟩
      intro heq
      rw [heq, hcall] at hold
      cases hold
      exact hm rfl
  · intro j name' id' p hj
    rcases (getElem?_set_iff hcall).mp hj with ⟨-, hkeep⟩ | ⟨-, hold⟩
    · cases hkeep
    · exact ht.free j name' id' p hold
  · rcases Program.store_step (Journal.answers (.keeper m)) rest (h.world h.sessions[m]?) with
      hstore | ⟨r, next, rfl, hstore⟩
    · exact Or.inl (congrArg Journal.events hstore)
    · exact Or.inr ⟨_, hactor, fun j hj => (by cases hj), congrArg Journal.events hstore⟩
  · intro id hhad hshows
    rcases Program.store_step (Journal.answers (.keeper m)) rest (h.world h.sessions[m]?) with
      hstore | ⟨r, next, rfl, hstore⟩
    · exact shows_of_eq hshows rfl hstore
    · exact shows_of_alone hshows ht.sound rfl hstore hactor (fun j hj => by cases hj) halone hhad

/-- A call on the session begins, where none is under way. -/
theorem Tenant.begin (ht : Tenant v n name first base h s front) (hidle : h.isBusy n = false) (c : Lifecycle) :
    Tenant v n name first base { h with calls := h.calls ++ [.keep n (v.lifecycle c)] } s front := by
  have hid := ht.idle hidle
  have hover := (isBusy_eq_false_iff h n).mp hidle
  -- Only the new call is under way.
  have honly : ∀ (i : Nat) (p : Program Unit), (h.calls ++ [.keep n (v.lifecycle c)])[i]? = some (.keep n p) →
      p.isOver = false → i = h.calls.length ∧ v.lifecycle c = p := by
    intro i p hi hp
    rcases getElem?_concat_iff.mp hi with hold | ⟨hlast, hkeep⟩
    · rw [hover i p hold] at hp
      cases hp
    · cases hkeep
      exact ⟨hlast, rfl⟩
  refine ⟨ht.sound.of_eq rfl rfl, ht.session, ht.named, ?_, fun _ => hid, ?_, ?_,
    ht.sought, ht.had, fun id hhad hshows => ht.shows id hhad hshows, ht.last⟩
  · intro i p hi hp
    rw [← (honly i p hi hp).2]
    exact Or.inl ⟨hid, lawful_lifecycle v name front c⟩
  · intro i j p q hi hj hp hq
    rw [(honly i p hi hp).1, (honly j q hj hq).1]
  · intro i name' id' p hi
    rcases getElem?_concat_iff.mp hi with hold | ⟨-, hkeep⟩
    · exact ht.free i name' id' p hold
    · cases hkeep

/-- Every move keeps the invariant, as long as the session is alone. -/
theorem Tenant.move (ht : Tenant v n name first base h s front) (m : Move)
    (halone : Alone v n name first (h.move v m).journal.events) :
    ∃ s' front', Tenant v n name first base (h.move v m) s' front' := by
  have hsound := ht.sound.move v m
  -- A new call that is none on the session.
  have hnew : ∀ {call : Call}, (∀ p, call ≠ .keep n p) → ∀ (i : Nat) (p : Program Unit),
      (h.calls ++ [call])[i]? = some (.keep n p) ↔ h.calls[i]? = some (.keep n p) := by
    intro call hne i p
    exact getElem?_concat_iff.trans ⟨fun hor => hor.resolve_right fun hlast => hne p hlast.2, Or.inl⟩
  have helsewhere : Elsewhere v n name first s h (h.move v m) →
      ∃ s' front', Tenant v n name first base (h.move v m) s' front' := by
    intro he
    obtain ⟨s', ht'⟩ := ht.elsewhere hsound he
    exact ⟨s', front, ht'⟩
  cases m with
  | tick d =>
    exact helsewhere ⟨⟨s, ht.session, rfl, rfl⟩, fun _ _ => Iff.rfl, ht.free, Or.inl rfl,
      fun id _ => shows_tick ht.sound⟩
  | change m c =>
    refine helsewhere ⟨?_, fun _ _ => Iff.rfl, ht.free, Or.inl rfl, fun id _ hshows => shows_of_eq hshows rfl rfl⟩
    by_cases hm : m = n
    · refine ⟨s.changed h.clock c, ?_, Session.id_changed s _ c⟩
      rw [hm]
      refine (Roster.getElem?_modify_self n _ _).trans ?_
      rw [ht.session]
      rfl
    · exact ⟨s, (Roster.getElem?_modify_of_ne (Ne.symm hm) _ _).trans ht.session, rfl, rfl⟩
  | join s' =>
    refine helsewhere ⟨⟨s, ?_, rfl, rfl⟩, fun _ _ => Iff.rfl, ht.free, Or.inl rfl,
      fun id _ hshows => shows_of_eq hshows rfl rfl⟩
    show (h.sessions.push s')[n]? = some s
    rw [Array.getElem?_push, if_neg (Nat.ne_of_lt (Array.getElem?_eq_some_iff.mp ht.session).1)]
    exact ht.session
  | ask r =>
    refine helsewhere ⟨⟨s, ht.session, rfl, rfl⟩, fun _ _ => Iff.rfl, ht.free,
      Or.inr ⟨⟨.stranger, h.clock, r⟩, by simp, fun i hi => (by cases hi), rfl⟩, ?_⟩
    intro id hhad hshows
    exact shows_of_alone hshows ht.sound rfl rfl (by simp) (fun i hi => by cases hi) halone hhad
  | find name' id' =>
    refine helsewhere ⟨⟨s, ht.session, rfl, rfl⟩, hnew (by simp), ?_, Or.inl rfl,
      fun id _ hshows => shows_of_eq hshows rfl rfl⟩
    intro i name'' id'' p hi
    rcases getElem?_concat_iff.mp hi with hold | ⟨-, hfind⟩
    · exact ht.free i name'' id'' p hold
    · cases hfind
      exact Vault.free_load v name' id'
  | call m c =>
    rw [Hall.move]
    cases hbusy : h.isBusy m with
    | true => exact ⟨s, front, ht⟩
    | false =>
      by_cases hm : m = n
      · rw [hm] at hbusy ⊢
        exact ⟨s, front, ht.begin hbusy c⟩
      · have hsound' : Sound base { h with calls := h.calls ++ [.keep m (v.lifecycle c)] } := ht.sound.of_eq rfl rfl
        obtain ⟨s', ht'⟩ := ht.elsewhere hsound' ⟨⟨s, ht.session, rfl, rfl⟩,
          hnew fun p hkeep => hm (Call.keep.inj hkeep).1, fun i name' id' p hi => ht.free i name' id' p
            ((getElem?_concat_iff.mp hi).resolve_right fun hlast => by cases hlast.2), Or.inl rfl,
          fun id _ hshows => shows_of_eq hshows rfl rfl⟩
        exact ⟨s', front, ht'⟩
  | step i =>
    rw [Hall.move] at halone hsound ⊢
    cases hcall : h.calls[i]? with
    | none => exact ⟨s, front, ht⟩
    | some call =>
      rw [hcall] at halone hsound
      cases call with
      | find name' id' rest =>
        obtain ⟨s', ht'⟩ := ht.elsewhere hsound (ht.stepFind hcall halone)
        exact ⟨s', front, ht'⟩
      | keep m rest =>
        by_cases hm : m = n
        · rw [hm] at hcall ⊢
          exact ht.stepKeep hcall
        · obtain ⟨s', ht'⟩ := ht.elsewhere hsound (ht.stepOther hm hcall halone)
          exact ⟨s', front, ht'⟩

end SessionVault
