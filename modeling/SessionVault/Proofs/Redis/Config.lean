import SessionVault.Proofs.Url.Hosted
import SessionVault.Redis.Config

/-!
# The URL that a connection is made with

Where nothing is wrong with a configuration, the URL that it gives for a connection is read back as what it has
been made of: the URL of the configuration with the user and the database in it, which leads to the same server
(`SameServer`).

* `connectionUrl_of_check` — the URL for the connection, and that it is read back;
* `connectionUrl_sameServer` — what the URL for the connection keeps of the URL of the configuration;
* `url_ofChanges` — the URL that a list of changes leaves, from the last URL set and the wish for TLS behind it;
* `connectionUrl_tls_iff` — when the connection uses TLS;
* `connectionUrl_user_iff` — when the name and the password of the user arrive.
-/

namespace SessionVault.Redis.Config

open Bytes (ofString)
open Url (Hosted hideUser percentDecode hasEscape)

variable {c : Config}

/-! ### The URL for a connection -/

/-- A URL with the user of a configuration in it. -/
def userIn (c : Config) (base : Url) : Url :=
  match c.password with
  | none => base
  | some password =>
    { base with
      username := (c.username.map hideUser).getD base.username
      password := hideUser password }

/-- A URL with the user and the database of a configuration in it. -/
def targetIn (c : Config) (base : Url) : Url :=
  match c.database with
  | none => c.userIn base
  | some n => { c.userIn base with path := .segments [toString n] }

theorem scheme_targetIn (c : Config) (base : Url) : (c.targetIn base).scheme = base.scheme := by
  cases hd : c.database <;> cases hp : c.password <;> simp [targetIn, userIn, hd, hp]

theorem username_targetIn (c : Config) (base : Url) : (c.targetIn base).username = (c.userIn base).username := by
  cases hd : c.database <;> simp [targetIn, hd]

theorem password_targetIn (c : Config) (base : Url) : (c.targetIn base).password = (c.userIn base).password := by
  cases hd : c.database <;> simp [targetIn, hd]

theorem parsed_eq_ok_iff {base : Url} : c.parsed = .ok base ↔ Url.read c.url = .ok base := by
  rw [parsed]
  cases Url.read c.url with
  | error fault => simp [Except.mapError]
  | ok found => simp [Except.mapError]

/-- Where the URL leads to a server, only the time for commands can be wrong. -/
theorem check_of_read {base : Url} (hread : Url.read c.url = .ok base)
    (hscheme : base.scheme = "redis" ∨ base.scheme = "rediss") (hhost : base.host?.isSome) :
    c.check = if c.commandTimeout.isZero then .error .zeroCommandTimeout else .ok () := by
  have hknown : ¬(base.scheme ≠ "redis" ∧ base.scheme ≠ "rediss") := fun hother => hscheme.elim hother.1 hother.2
  have hsome : base.host?.isNone = false := by rw [← Option.not_isSome, hhost]; rfl
  rw [check, parsed_eq_ok_iff.mpr hread]
  show (if base.scheme ≠ "redis" ∧ base.scheme ≠ "rediss" then _ else _) = _
  rw [if_neg hknown, hsome, if_neg Bool.false_ne_true]

/-- Nothing is wrong with a configuration exactly if its URL is one with a host for either scheme, and commands are given
some time. -/
theorem check_eq_ok_iff :
    c.check = .ok () ↔ ∃ base, Url.read c.url = .ok base ∧ (base.scheme = "redis" ∨ base.scheme = "rediss") ∧
      base.host?.isSome ∧ c.commandTimeout.isZero = false := by
  constructor
  · intro h
    obtain ⟨base, hparsed, h⟩ := Url.exists_of_bind_eq_ok h
    have hread := parsed_eq_ok_iff.mp hparsed
    split at h
    · cases h
    · next hscheme =>
      split at h
      · cases h
      · next hhost =>
        split at h
        · cases h
        · next htime =>
          have heither : base.scheme = "redis" ∨ base.scheme = "rediss" := by
            rwa [Ne, Ne, ← not_or, not_not] at hscheme
          have hsome : base.host?.isSome := by rwa [← Option.not_isNone, Bool.not_eq_true', ← Bool.not_eq_true]
          exact ⟨base, hread, heither, hsome, Bool.not_eq_true _ ▸ htime⟩
  · rintro ⟨base, hread, hscheme, hhost, htime⟩
    rw [check_of_read hread hscheme hhost, htime]
    rfl

theorem isSpecial_of_either {scheme : String} (h : scheme = "redis" ∨ scheme = "rediss") :
    Url.isSpecial scheme = false := by
  rcases h with rfl | rfl
  · decide
  · decide

/-- Where nothing is wrong, the URL of a configuration is one with a host for either scheme. -/
theorem exists_parsed_of_check (h : c.check = .ok ()) :
    ∃ base, Url.read c.url = .ok base ∧ (base.scheme = "redis" ∨ base.scheme = "rediss") ∧ Hosted base := by
  obtain ⟨base, hread, hscheme, hhost, -⟩ := check_eq_ok_iff.mp h
  exact ⟨base, hread, hscheme, Url.hosted_of_read hread (isSpecial_of_either hscheme) hhost⟩

/-- The user can be set where the URL has a host. -/
theorem withUser_of_hosted {base : Url} (h : Hosted base) :
    c.withUser base = .ok (c.userIn base) ∧ Hosted (c.userIn base) := by
  cases hp : c.password with
  | none =>
    rw [withUser, userIn, hp]
    exact ⟨rfl, h⟩
  | some password =>
    cases hu : c.username with
    | none =>
      obtain ⟨hset, hhosted⟩ := h.withPassword? password
      have heq : c.userIn base = { base with password := hideUser password } := by simp [userIn, hp, hu]
      rw [heq]
      exact ⟨by simp only [withUser, hp, hu, bind, Except.bind, hset], hhosted⟩
    | some username =>
      obtain ⟨hname, hnamed⟩ := h.withUsername? username
      obtain ⟨hset, hhosted⟩ := hnamed.withPassword? password
      have heq : c.userIn base = { base with username := hideUser username, password := hideUser password } := by
        simp [userIn, hp, hu]
      rw [heq]
      exact ⟨by simp only [withUser, hp, hu, bind, Except.bind, hname, hset], hhosted⟩

theorem withDatabase_of_hosted {base : Url} (h : Hosted (c.userIn base)) :
    c.withDatabase (c.userIn base) = c.targetIn base ∧ Hosted (c.targetIn base) := by
  cases hd : c.database with
  | none =>
    rw [withDatabase, targetIn, hd]
    exact ⟨rfl, h⟩
  | some n =>
    rw [withDatabase, targetIn, hd]
    exact h.withNumber n

/-- Where nothing is wrong, the URL for a connection is the one of the configuration with the user and the database in
it, and is read back as such. -/
theorem connectionUrl_of_check (h : c.check = .ok ()) :
    ∃ base, Url.read c.url = .ok base ∧ (base.scheme = "redis" ∨ base.scheme = "rediss") ∧
      c.connectionUrl = .ok (c.targetIn base).text ∧ Url.read (c.targetIn base).text = .ok (c.targetIn base) := by
  obtain ⟨base, hread, hscheme, hhosted⟩ := exists_parsed_of_check h
  obtain ⟨huser, huserHosted⟩ := withUser_of_hosted (c := c) hhosted
  obtain ⟨hdatabase, htarget⟩ := withDatabase_of_hosted huserHosted
  refine ⟨base, hread, hscheme, ?_, htarget.read_text⟩
  rw [connectionUrl, parsed, hread]
  show (do return (c.withDatabase (← c.withUser base)).text) = _
  rw [huser, ← hdatabase]
  rfl

/-! ### What the URL keeps -/

/-- A URL that leads to the same server as another one, with nothing changed but the user and the path. -/
structure SameServer (base url : Url) : Prop where
  scheme : url.scheme = base.scheme
  host : url.host = base.host
  port : url.port = base.port
  query : url.query = base.query
  fragment : url.fragment = base.fragment

theorem sameServer_targetIn (c : Config) (base : Url) : SameServer base (c.targetIn base) := by
  cases hd : c.database <;> cases hp : c.password <;> simp only [targetIn, userIn, hd, hp] <;>
    exact ⟨rfl, rfl, rfl, rfl, rfl⟩

/-- The path is the number of the database, where there is one. -/
theorem pathText_targetIn (c : Config) (base : Url) :
    Url.pathText (c.targetIn base).path =
      match c.database with
      | some n => "/" ++ toString n
      | none => Url.pathText base.path := by
  cases hd : c.database with
  | none => cases hp : c.password <;> simp only [targetIn, userIn, hd, hp]
  | some n =>
    simp [targetIn, hd, Url.pathText, String.join]

/-- Without a password the user stays the one of the URL. -/
theorem userIn_of_no_password (hp : c.password = none) (base : Url) : c.userIn base = base := by rw [userIn, hp]

/-- A configuration puts its user and its database in the place of its user and its database. -/
theorem targetIn_targetIn (c : Config) (base : Url) : c.targetIn (c.targetIn base) = c.targetIn base := by
  cases hd : c.database <;> cases hp : c.password <;> cases hu : c.username <;>
    simp [targetIn, userIn, hd, hp, hu]

/-- Where nothing is wrong with a configuration, it gives a URL for a connection, which leads to the same server as its
own URL.  The path of that is the database, if one is set, and the user is the same, if no password is.  With it in the
place of the URL nothing is wrong with the configuration either, and it gives the same URL again. -/
theorem connectionUrl_sameServer (h : c.check = .ok ()) :
    ∃ base text url, Url.read c.url = .ok base ∧ c.connectionUrl = .ok text ∧ Url.read text = .ok url ∧
      SameServer base url ∧
      (∀ n, c.database = some n → Url.pathText url.path = "/" ++ toString n) ∧
      (c.database = none → url.path = base.path) ∧
      (c.password = none → url.username = base.username ∧ url.password = base.password) ∧
      check { c with url := text } = .ok () ∧ connectionUrl { c with url := text } = .ok text := by
  obtain ⟨base, hread, hscheme, htext, hagain⟩ := connectionUrl_of_check h
  obtain ⟨base', hread', -, hhost, htime⟩ := check_eq_ok_iff.mp h
  obtain rfl := Except.ok.inj (hread.symm.trans hread')
  have hsame := sameServer_targetIn c base
  -- The configuration with its own result for a URL is accepted, since the server is the same.
  have hcheck : check { c with url := (c.targetIn base).text } = .ok () := by
    refine check_eq_ok_iff.mpr ⟨c.targetIn base, hagain, ?_, ?_, htime⟩
    · rw [hsame.scheme]
      exact hscheme
    · rw [Url.host?, hsame.host]
      exact hhost
  refine ⟨base, (c.targetIn base).text, c.targetIn base, hread, htext, hagain, hsame, ?_, ?_, ?_, hcheck, ?_⟩
  · intro n hd
    rw [pathText_targetIn, hd]
  · intro hd
    cases hp : c.password <;> simp only [targetIn, userIn, hd, hp]
  · intro hp
    rw [username_targetIn, password_targetIn, userIn_of_no_password hp]
    exact ⟨rfl, rfl⟩
  · obtain ⟨again, hread, -, htext, -⟩ := connectionUrl_of_check hcheck
    obtain rfl := Except.ok.inj (hagain.symm.trans hread)
    rw [htext]
    exact congrArg (Except.ok ∘ Url.text) (targetIn_targetIn c base)

/-- A URL with an address, a port, a user of its own, a query and a fragment, and a password with signs that end a
host. -/
def sample : Config where
  url := " REDIS://us%20er:old@[::1]:06380/a/../b?protocol=3#f"
  password := some "p@[/?#:w"
  database := some 3

theorem connectionUrl_sameServer_sample :
    sample.check = .ok () ∧
      ∃ text url, sample.connectionUrl = .ok text ∧ Url.read text = .ok url ∧ url.scheme = "redis" ∧
        url.host = some "[::1]" ∧ url.port = some 6380 ∧ Url.pathText url.path = "/3" ∧
        connectionUrl { sample with url := text } = .ok text := by
  have h : sample.check = .ok () := by rfl
  obtain ⟨base, text, url, hread, htext, hagain, hsame, hpath, -, -, -, hstable⟩ := connectionUrl_sameServer h
  have hbase : Url.read sample.url = .ok ⟨"redis", "us%20er", "old", some "[::1]", some 6380, false, .segments ["b"],
      some "protocol=3", some "f"⟩ := by rfl
  obtain rfl := Except.ok.inj (hbase.symm.trans hread)
  exact ⟨h, text, url, htext, hagain, hsame.scheme, hsame.host, hsame.port, hpath 3 rfl, hstable⟩

/-! ### TLS -/

/-- The last URL set, and whether TLS has been asked for behind it. -/
def heard : String × Bool → Change → String × Bool
  | _, .url s => (s, false)
  | (s, asked), .tls on => (s, asked || on)
  | state, _ => state

/-- The last URL that changes set, and whether they ask for TLS behind it. -/
def lastUrl (changes : List Change) : String × Bool := changes.foldl heard (({} : Config).url, false)

/-- A URL, with TLS if it has been asked for. -/
def secured : String × Bool → String
  | (s, asked) => if asked then withTls s else s

theorem toList_withTls {s : String} (h : plainStart.isPrefixOf s.toList = true) :
    (withTls s).toList = "rediss".toList ++ ':' :: '/' :: '/' :: s.toList.drop plainStart.length := by
  rw [withTls, if_pos h, String.toList_append]
  exact congrArg ("rediss://".toList ++ ·) String.toList_ofList

theorem withTls_of_not_plain {s : String} (h : plainStart.isPrefixOf s.toList = false) : withTls s = s :=
  if_neg (Bool.eq_false_iff.1 h)

/-- A URL with TLS does not start as a plain one. -/
theorem withTls_withTls (s : String) : withTls (withTls s) = withTls s := by
  cases h : plainStart.isPrefixOf s.toList with
  | true =>
    refine withTls_of_not_plain ?_
    rw [toList_withTls h]
    rfl
  | false => rw [withTls_of_not_plain h, withTls_of_not_plain h]

/-- A change keeps the URL in step with what has been heard. -/
theorem url_change {state : String × Bool} (h : c.url = secured state) (made : Change) :
    (c.change made).url = secured (heard state made) := by
  obtain ⟨s, asked⟩ := state
  cases made with
  | url s => rfl
  | tls on =>
    cases on with
    | false => simpa [change, heard] using h
    | true =>
      show withTls c.url = secured (s, asked || true)
      rw [h, Bool.or_true]
      cases asked with
      | false => rfl
      | true => exact withTls_withTls s
  | _ => exact h

theorem url_ofChanges_of_secured {state : String × Bool} (h : c.url = secured state) (changes : List Change) :
    (c.ofChanges changes).url = secured (changes.foldl heard state) := by
  induction changes generalizing c state with
  | nil => exact h
  | cons made changes ih => exact ih (url_change h made)

/-- The URL that changes leave is the last one set, with TLS if they ask for it behind that. -/
theorem url_ofChanges (changes : List Change) : (ofChanges {} changes).url = secured (lastUrl changes) :=
  url_ofChanges_of_secured rfl changes

theorem isScheme_rediss : Url.IsScheme "rediss" :=
  Url.isScheme_of_scheme? (show Url.scheme? "rediss:".toList = some ("rediss", []) from rfl)

/-- Whether TLS is used with the last URL that has been set: that URL is one for TLS itself, or it is spelt as a plain
one and TLS has been asked for behind it. -/
def UsesTls : String × Bool → Prop
  | (s, asked) =>
    (∃ u, Url.read s = .ok u ∧ u.scheme = "rediss") ∨ (asked = true ∧ plainStart.isPrefixOf s.toList = true)

theorem scheme_secured_iff {state : String × Bool} {base : Url} (h : Url.read (secured state) = .ok base) :
    base.scheme = "rediss" ↔ UsesTls state := by
  obtain ⟨s, asked⟩ := state
  by_cases hplain : asked = true ∧ plainStart.isPrefixOf s.toList = true
  · refine ⟨fun _ => .inr hplain, fun _ => ?_⟩
    rw [secured, if_pos hplain.1] at h
    exact Url.scheme_of_read isScheme_rediss (toList_withTls hplain.2) h
  · have hsame : secured (s, asked) = s := by
      cases asked with
      | false => rfl
      | true => exact withTls_of_not_plain (Bool.eq_false_iff.2 fun hstart => hplain ⟨rfl, hstart⟩)
    rw [hsame] at h
    refine ⟨fun htls => .inl ⟨base, h, htls⟩, fun huses => ?_⟩
    rcases huses with ⟨u, hu, htls⟩ | hasked
    · rw [h] at hu
      exact (Except.ok.inj hu) ▸ htls
    · exact absurd hasked hplain

/-- Where nothing is wrong with a configuration, made by any changes on top of any settings, it gives a URL for a
connection, and that uses TLS if and only if the last URL that has been set does. -/
theorem connectionUrl_tls_iff (settings : Table String) (changes : List Change)
    (h : (ofChanges {} (settingsChanges settings ++ changes)).check = .ok ()) :
    ∃ text url, (ofChanges {} (settingsChanges settings ++ changes)).connectionUrl = .ok text ∧
      Url.read text = .ok url ∧ (url.scheme = "rediss" ↔ UsesTls (lastUrl (settingsChanges settings ++ changes))) := by
  obtain ⟨base, hread, -, htext, hagain⟩ := connectionUrl_of_check h
  refine ⟨_, _, htext, hagain, ?_⟩
  rw [url_ofChanges] at hread
  rw [scheme_targetIn]
  exact scheme_secured_iff hread

/-- A URL from a setting, and the wish for TLS behind it. -/
theorem connectionUrl_tls_sample :
    (ofChanges {} (settingsChanges [("REDIS_URL", "redis://cache.internal:6380")] ++ [.database 3, .tls true])).check =
        .ok () ∧
      ∃ text url,
        (ofChanges {} (settingsChanges [("REDIS_URL", "redis://cache.internal:6380")] ++
          [.database 3, .tls true])).connectionUrl = .ok text ∧ Url.read text = .ok url ∧ url.scheme = "rediss" := by
  have h : (ofChanges {} (settingsChanges [("REDIS_URL", "redis://cache.internal:6380")] ++
      [.database 3, .tls true])).check = .ok () := by rfl
  obtain ⟨text, url, htext, hread, huses⟩ := connectionUrl_tls_iff [("REDIS_URL", "redis://cache.internal:6380")]
    [.database 3, .tls true] h
  exact ⟨h, text, url, htext, hread, huses.2 (.inr (by decide))⟩

/-- A URL set behind the wish for TLS stays a plain one, with nothing wrong with the configuration. -/
theorem tls_before_url_plain :
    (ofChanges {} [.tls true, .url "redis://cache.internal:6380"]).tls = true ∧
      (ofChanges {} [.tls true, .url "redis://cache.internal:6380"]).check = .ok () ∧
      (ofChanges {} [.tls true, .url "redis://cache.internal:6380"]).connectionUrl =
        .ok "redis://cache.internal:6380" ∧
      (Url.read "redis://cache.internal:6380").map Url.scheme = .ok "redis" := by
  refine ⟨rfl, ?_, ?_, ?_⟩
  · rfl
  · rfl
  · rfl

/-! ### Users -/

/-- A name or a password in a URL, as it arrives. -/
def arrives (part : String) : Bytes := percentDecode (ofString part)

theorem arrives_hideUser (s : String) : arrives (hideUser s) = percentDecode (ofString s) :=
  Url.percentDecode_percentEncode Url.sound_inUserinfo s

theorem arrives_hideUser_iff (s : String) :
    arrives (hideUser s) = ofString s ↔ hasEscape (ofString s) = false := by
  rw [arrives_hideUser]
  exact Url.percentDecode_eq_self_iff (ofString s)

/-- Where nothing is wrong with a configuration that has a password, it gives a URL for a connection.  Of its
password and its name of a user arrives what is behind their percent signs, and so each arrives as it is if and only
if no percent sign in it stands in front of two hexadecimal digits. -/
theorem connectionUrl_user_iff {password : String} (h : c.check = .ok ()) (hp : c.password = some password) :
    ∃ text url, c.connectionUrl = .ok text ∧ Url.read text = .ok url ∧
      (arrives url.password = percentDecode (ofString password) ∧
        (arrives url.password = ofString password ↔ hasEscape (ofString password) = false)) ∧
      ∀ username, c.username = some username →
        arrives url.username = percentDecode (ofString username) ∧
          (arrives url.username = ofString username ↔ hasEscape (ofString username) = false) := by
  obtain ⟨base, -, -, htext, hagain⟩ := connectionUrl_of_check h
  refine ⟨_, _, htext, hagain, ?_, fun username hu => ?_⟩
  · have hpassword : (c.targetIn base).password = hideUser password := by
      rw [password_targetIn, userIn, hp]
    rw [hpassword]
    exact ⟨arrives_hideUser password, arrives_hideUser_iff password⟩
  · have husername : (c.targetIn base).username = hideUser username := by
      rw [username_targetIn, userIn, hp, hu]
      rfl
    rw [husername]
    exact ⟨arrives_hideUser username, arrives_hideUser_iff username⟩

/-- A name and a password with signs that a URL keeps for itself, a percent sign among them. -/
theorem connectionUrl_user_sample :
    check { username := some "née d", password := some "p@s/s:w%4 %" } = .ok () ∧
      ∃ text url, connectionUrl { username := some "née d", password := some "p@s/s:w%4 %" } = .ok text ∧
        Url.read text = .ok url ∧ arrives url.password = ofString "p@s/s:w%4 %" ∧
          arrives url.username = ofString "née d" := by
  have h : check { username := some "née d", password := some "p@s/s:w%4 %" } = .ok () := by rfl
  have hpassword : hasEscape (ofString "p@s/s:w%4 %") = false := by
    rw [Bytes.ofString_eq]
    decide
  have husername : hasEscape (ofString "née d") = false := by
    rw [Bytes.ofString_eq]
    decide
  obtain ⟨text, url, htext, hread, harrives, hname⟩ := connectionUrl_user_iff h rfl
  exact ⟨h, text, url, htext, hread, harrives.2.2 hpassword, (hname _ rfl).2.2 husername⟩

/-- Of a password with a percent sign in front of two digits, another one arrives. -/
theorem escape_in_password_lost :
    check { password := some "a%41" } = .ok () ∧
      connectionUrl { password := some "a%41" } = .ok "redis://:a%41@localhost:6379" ∧
      (Url.read "redis://:a%41@localhost:6379").map Url.password = .ok "a%41" ∧
      arrives "a%41" = ofString "aA" ∧ ofString "aA" ≠ ofString "a%41" := by
  refine ⟨?_, ?_, ?_, ?_, ?_⟩
  · rfl
  · rfl
  · rfl
  · rw [arrives, Bytes.ofString_eq, Bytes.ofString_eq]
    decide
  · rw [Bytes.ofString_eq, Bytes.ofString_eq]
    decide

end SessionVault.Redis.Config
