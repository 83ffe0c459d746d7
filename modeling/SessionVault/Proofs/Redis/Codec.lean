import SessionVault.Proofs.Json.Structure
import SessionVault.Proofs.Redis.Config

/-!
# Configurations and their JSON

The JSON of a configuration holds its times in whole seconds, so what is read back is the configuration with both of
them rounded down (`inSeconds`), in whatever order the members stand.  It gives the same URL for a connection.  Nothing
is wrong with it if commands have a second at least; a shorter time for them is read back as none.

* `representable_of_settings` — every way to make a configuration leaves values that its fields can hold;
* `check_inSeconds` — what is wrong with a configuration in whole seconds;
* `readMember` — a member is read into a draft with any of the others;
* `decode_inSeconds` — what is read back of a configuration that nothing is wrong with.
-/

namespace SessionVault.Redis

/-- The arguments that a change can have: a database is a number of 8 bits, and no time is longer than the longest
one. -/
def Change.Representable : Change → Prop
  | .database n => n < Nat.pow 2 8
  | .connectionTimeout d | .commandTimeout d => d.nanos ≤ Duration.longest.nanos
  | _ => True

namespace Config

open Json

variable {c : Config}

/-! ### The values that fields can hold -/

/-- The values that the fields of a configuration can hold. -/
structure Representable (c : Config) : Prop where
  database_lt : ∀ n ∈ c.database, n < Nat.pow 2 8
  connectionTimeout_le : c.connectionTimeout.nanos ≤ Duration.longest.nanos
  commandTimeout_le : c.commandTimeout.nanos ≤ Duration.longest.nanos

theorem representable_change (hc : c.Representable) {made : Change} (h : made.Representable) :
    (c.change made).Representable := by
  obtain ⟨hdatabase, hconnection, hcommand⟩ := hc
  cases made with
  | database n => exact ⟨fun m hm => Option.some.inj hm ▸ h, hconnection, hcommand⟩
  | connectionTimeout d => exact ⟨hdatabase, h, hcommand⟩
  | commandTimeout d => exact ⟨hdatabase, hconnection, h⟩
  | _ => exact ⟨hdatabase, hconnection, hcommand⟩

theorem representable_ofChanges (hc : c.Representable) {changes : List Change}
    (h : ∀ made ∈ changes, made.Representable) : (c.ofChanges changes).Representable := by
  induction changes generalizing c with
  | nil => exact hc
  | cons made changes ih =>
    obtain ⟨hmade, hrest⟩ := List.forall_mem_cons.mp h
    exact ih (representable_change hc hmade) hrest

/-- What settings ask for fits the fields. -/
theorem representable_settingsChanges (settings : Table String) :
    ∀ made ∈ settingsChanges settings, made.Representable := by
  intro made hmade
  simp only [settingsChanges, List.mem_append, Option.mem_toList, Option.map_eq_some_iff] at hmade
  rcases hmade with ((((⟨s, -, rfl⟩ | ⟨n, hn, rfl⟩) | ⟨s, -, rfl⟩) | ⟨s, -, rfl⟩) | ⟨on, -, rfl⟩) | ⟨n, hn, rfl⟩
  · trivial
  · obtain ⟨text, -, hread⟩ := Option.bind_eq_some_iff.mp hn
    exact Natural.lt_of_read? hread
  · trivial
  · trivial
  · trivial
  · obtain ⟨text, -, hread⟩ := Option.bind_eq_some_iff.mp hn
    have hlt : n < 0x10000000000000000 := Natural.lt_of_read? hread
    show n * 1000000000 ≤ 0x10000000000000000 * 1000000000 - 1
    omega

/-- Any settings and any changes leave values that the fields of a configuration can hold. -/
theorem representable_of_settings (settings : Table String) {changes : List Change}
    (h : ∀ made ∈ changes, made.Representable) :
    (ofChanges {} (settingsChanges settings ++ changes)).Representable := by
  refine representable_ofChanges ⟨by decide, by decide, by decide⟩ ?_
  intro made hmade
  rcases List.mem_append.mp hmade with hmade | hmade
  · exact representable_settingsChanges settings made hmade
  · exact h made hmade

/-! ### Whole seconds -/

/-- A configuration with its times in whole seconds. -/
def inSeconds (c : Config) : Config :=
  { c with
    connectionTimeout := .ofSeconds c.connectionTimeout.seconds
    commandTimeout := .ofSeconds c.commandTimeout.seconds }

theorem connectionUrl_inSeconds (c : Config) : c.inSeconds.connectionUrl = c.connectionUrl := rfl

theorem isZero_ofSeconds (n : Nat) : (Duration.ofSeconds n).isZero = decide (n = 0) := by
  rw [Duration.isZero, Duration.ofSeconds, Bool.beq_eq_decide_eq]
  simp [Duration.perSecond]

/-- In whole seconds, nothing is wrong with a configuration that nothing is wrong with, but for the time for commands
if that is less than a second. -/
theorem check_inSeconds (h : c.check = .ok ()) :
    c.inSeconds.check = if c.commandTimeout.seconds = 0 then .error .zeroCommandTimeout else .ok () := by
  obtain ⟨base, hread, hscheme, hhost, -⟩ := check_eq_ok_iff.mp h
  rw [check_of_read (c := c.inSeconds) hread hscheme hhost, inSeconds, isZero_ofSeconds]
  simp only [decide_eq_true_eq]

/-! ### Members -/

theorem seconds_lt {d : Duration} (h : d.nanos ≤ Duration.longest.nanos) : d.seconds < Nat.pow 2 64 := by
  refine (Nat.div_lt_iff_lt_mul (by decide)).mpr (Nat.lt_of_le_of_lt h ?_)
  decide

/-- The members of a configuration, in the order of its fields. -/
def members (c : Config) : List (String × Json) :=
  [("url", .string c.url), ("connection_timeout", .nat c.connectionTimeout.seconds),
    ("command_timeout", .nat c.commandTimeout.seconds), ("database", Json.optional .nat c.database),
    ("username", Json.optional .string c.username), ("password", Json.optional .string c.password),
    ("tls", .bool c.tls), ("connection_name", Json.optional .string c.connectionName)]

theorem toJson_eq (c : Config) : c.toJson = .object c.members := rfl

theorem scalar_members (hc : c.Representable) : ∀ m ∈ c.members, Tree.Scalar m.2 := by
  simp only [members, List.forall_mem_cons]
  refine ⟨Tree.scalar_string _, Tree.scalar_nat (seconds_lt hc.connectionTimeout_le),
    Tree.scalar_nat (seconds_lt hc.commandTimeout_le), ?_, ?_, ?_, Tree.scalar_bool _, ?_, List.forall_mem_nil _⟩
  · refine Tree.scalar_optional fun n hn => Tree.scalar_nat ?_
    exact Nat.lt_trans (hc.database_lt n hn) (by decide)
  · exact Tree.scalar_optional fun s _ => Tree.scalar_string s
  · exact Tree.scalar_optional fun s _ => Tree.scalar_string s
  · exact Tree.scalar_optional fun s _ => Tree.scalar_string s

theorem nodup_members (c : Config) : (c.members.map Prod.fst).Nodup := by
  simp [members]

/-! ### Drafts -/

def known (c : Config) (names : List String) : Draft :=
  let whenKnown {α : Type} (name : String) (a : α) : Option α := if name ∈ names then some a else none
  { url := whenKnown "url" c.url
    connectionTimeout := whenKnown "connection_timeout" c.inSeconds.connectionTimeout
    commandTimeout := whenKnown "command_timeout" c.inSeconds.commandTimeout
    database := whenKnown "database" c.database
    username := whenKnown "username" c.username
    password := whenKnown "password" c.password
    tls := whenKnown "tls" c.tls
    connectionName := whenKnown "connection_name" c.connectionName }

theorem known_nil (c : Config) : c.known [] = {} := by
  simp [known]

/-- The draft with all fields is finished as the configuration in whole seconds. -/
theorem ofDraft_known {names : List String} (h : ∀ m ∈ c.members, m.1 ∈ names) :
    ofDraft (c.known names) = .ok c.inSeconds := by
  simp only [members, List.forall_mem_cons] at h
  obtain ⟨hurl, hconnection, hcommand, hdatabase, husername, hpassword, htls, hname, -⟩ := h
  simp only [known, if_pos hurl, if_pos hconnection, if_pos hcommand, if_pos hdatabase, if_pos husername,
    if_pos hpassword, if_pos htls, if_pos hname]
  rfl

theorem secondsDecoder_of_spells {d : Duration} (hd : d.nanos ≤ Duration.longest.nanos) {t : Tree}
    (h : t.Spells (.nat d.seconds)) (depth : Nat) : secondsDecoder depth t = .ok (.ofSeconds d.seconds) := by
  rw [secondsDecoder, Decoder.map, Decoder.unsigned_of_spells (seconds_lt hd) h]
  rfl

theorem optionalString_of_spells {a : Option String} {t : Tree} (h : t.Spells (Json.optional .string a)) (depth : Nat) :
    Decoder.optional Decoder.string depth t = .ok a :=
  Decoder.optional_of_spells (fun _ => Json.noConfusion) (fun _ _ hx => Decoder.string_of_spells hx depth) h

/-- Each member is read into a draft that has not got it yet. -/
theorem readMember (hc : c.Representable) (depth : Nat) :
    ∀ m ∈ c.members, ∀ names t, m.1 ∉ names → t.Spells m.2 → ∃ field, fields.find? (·.name = m.1) = some field ∧
      field.has (c.known names) = false ∧ field.read depth t (c.known names) = .ok (c.known (m.1 :: names)) := by
  simp only [members, List.forall_mem_cons]
  refine ⟨?url, ?connectionTimeout, ?commandTimeout, ?database, ?username, ?password, ?tls, ?connectionName,
    List.forall_mem_nil _⟩
  -- Each field is found by its name, is not in the draft yet, and its decoder reads what the member spells.
  all_goals
    intro names t hnew hspells
    refine ⟨_, rfl, by simpa [Decoder.Field.of, known] using hnew, ?_⟩
  case url => exact Decoder.read_of rfl (Decoder.string_of_spells hspells depth) (by simp [known])
  case connectionTimeout =>
    exact Decoder.read_of rfl (secondsDecoder_of_spells hc.connectionTimeout_le hspells depth)
      (by simp [known, inSeconds])
  case commandTimeout =>
    exact Decoder.read_of rfl (secondsDecoder_of_spells hc.commandTimeout_le hspells depth) (by simp [known, inSeconds])
  case database =>
    have hread := Decoder.optional_of_spells (fun _ => Json.noConfusion)
      (fun n hn hx => Decoder.unsigned_of_spells (hc.database_lt n hn) hx depth) hspells
    exact Decoder.read_of rfl hread (by simp [known])
  case username => exact Decoder.read_of rfl (optionalString_of_spells hspells depth) (by simp [known])
  case password => exact Decoder.read_of rfl (optionalString_of_spells hspells depth) (by simp [known])
  case tls => exact Decoder.read_of rfl (Decoder.bool_of_spells hspells depth) (by simp [known])
  case connectionName => exact Decoder.read_of rfl (optionalString_of_spells hspells depth) (by simp [known])

/-! ### Reading a configuration again -/

/-- From nodes that spell the members of a configuration, in any order, it is read with its times in whole seconds. -/
theorem decoder_of_spells (hc : c.Representable) {ms : List (String × Json)} (hms : ms.Perm c.members)
    {ts : List (Key × Tree)} (hspells : Tree.SpellsAll ts ms) (depth : Nat) (s : Span) :
    decoder (depth + 1) (.object s ts) = .ok c.inSeconds := by
  have hnames : (ms.map Prod.fst).Nodup := (hms.map Prod.fst).nodup_iff.mpr (nodup_members c)
  obtain ⟨all, hread, hall⟩ := Decoder.readMembers_known (fun m hm => readMember hc depth m (hms.mem_iff.mp hm)) hnames
    hspells fun _ _ => List.not_mem_nil
  rw [known_nil] at hread
  exact Decoder.record_of_readMembers hread (ofDraft_known fun m hm => hall m (hms.mem_iff.mpr hm)) _ s

/-- The members of a configuration are read back from their text, in any order. -/
theorem decode_of_perm (hc : c.Representable) {ms : List (String × Json)} (hms : ms.Perm c.members) :
    decode decoder (Json.object ms).render = .ok c.inSeconds := by
  have hscalar : ∀ m ∈ ms, Tree.Scalar m.2 := fun m hm => scalar_members hc m (hms.mem_iff.mp hm)
  rw [decode, Tree.read?_render, Tree.written]
  exact decoder_of_spells hc hms (Tree.spellsAll_written hscalar _) (maxDepth - 1) _

/-- The members of a configuration are read back as a value, in any order. -/
theorem readAs_of_perm (hc : c.Representable) {ms : List (String × Json)} (hms : ms.Perm c.members) :
    Json.readAs decoder (.object ms) = .ok c.inSeconds := by
  have hscalar : ∀ m ∈ ms, Tree.Scalar m.2 := fun m hm => scalar_members hc m (hms.mem_iff.mp hm)
  rw [Json.readAs, Tree.ofJson, Json.depth]
  exact decoder_of_spells hc hms (Tree.spellsAll_ofMembers hscalar) _ _

/-- Where nothing is wrong with a configuration, its JSON is read back as the configuration with its times in whole
seconds, from the text or as a value, with the members in any order.  That gives the same URL for a connection, and
nothing is wrong with it if commands have a second at least; else they are left without time. -/
theorem decode_inSeconds (hc : c.Representable) (h : c.check = .ok ()) :
    decode decoder c.toJson.render = .ok c.inSeconds ∧
      (∀ ms : List (String × Json), ms.Perm c.members →
        decode decoder (Json.object ms).render = .ok c.inSeconds ∧ Json.readAs decoder (.object ms) = .ok c.inSeconds) ∧
      c.inSeconds.connectionUrl = c.connectionUrl ∧
      c.inSeconds.check = if c.commandTimeout.seconds = 0 then .error .zeroCommandTimeout else .ok () := by
  refine ⟨?_, fun ms hms => ⟨decode_of_perm hc hms, readAs_of_perm hc hms⟩,
    connectionUrl_inSeconds c, check_inSeconds h⟩
  rw [toJson_eq]
  exact decode_of_perm hc (List.Perm.refl _)

/-- A configuration with parts of a second in both of its times, read back as one that nothing is wrong with. -/
theorem decode_inSeconds_sample :
    Representable { sample with connectionTimeout := ⟨700000000⟩, commandTimeout := ⟨1500000000⟩ } ∧
      check { sample with connectionTimeout := ⟨700000000⟩, commandTimeout := ⟨1500000000⟩ } = .ok () ∧
      ∃ again : Config,
        decode decoder
            (toJson { sample with connectionTimeout := ⟨700000000⟩, commandTimeout := ⟨1500000000⟩ }).render =
          .ok again ∧
        again = { sample with connectionTimeout := .ofSeconds 0, commandTimeout := .ofSeconds 1 } ∧
        again.check = .ok () := by
  have hc : Representable { sample with connectionTimeout := ⟨700000000⟩, commandTimeout := ⟨1500000000⟩ } :=
    ⟨by decide, by decide, by decide⟩
  have h : check { sample with connectionTimeout := ⟨700000000⟩, commandTimeout := ⟨1500000000⟩ } = .ok () := by rfl
  obtain ⟨hread, -, -, hcheck⟩ := decode_inSeconds hc h
  exact ⟨hc, h, _, hread, rfl, hcheck⟩

/-- Half a second for commands is accepted, and read back as no time at all. -/
theorem halfSecond_refused :
    check { commandTimeout := ⟨500000000⟩ } = .ok () ∧
      ∃ again : Config, decode decoder (toJson { commandTimeout := ⟨500000000⟩ }).render = .ok again ∧
        again.check = .error .zeroCommandTimeout := by
  have h : check { commandTimeout := ⟨500000000⟩ } = .ok () := by rfl
  have hmade : ∀ made ∈ [Change.commandTimeout ⟨500000000⟩], made.Representable := by
    intro made hmem
    rw [List.mem_singleton.mp hmem]
    exact show (500000000 : Nat) ≤ Duration.longest.nanos by decide
  have hc : Representable { commandTimeout := ⟨500000000⟩ } := representable_of_settings [] hmade
  refine ⟨h, _, decode_of_perm hc (List.Perm.refl _), ?_⟩
  exact check_inSeconds h

end Config

end SessionVault.Redis
