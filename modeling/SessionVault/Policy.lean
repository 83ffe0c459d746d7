import SessionVault.Cookie
import SessionVault.Failure
import SessionVault.Text.Natural

/-!
# Policies: how long sessions live and where they are kept

A policy has a prefix for the keys of the store, a default and a greatest lifetime, and the attributes of
cookies.  `Policy.check` says what is wrong with one: no lifetime may be empty, and the default one may not be
the greater.  A policy is made from the default one by a list of changes, or from settings by name
(`Policy.ofSettings`); a setting that is no number is as good as none.
-/

namespace SessionVault

/-- How long sessions live and where they are kept. -/
structure Policy where
  keyPrefix : String := "session:"
  defaultTtl : Duration := .ofSeconds (86400 * 30)
  maxTtl : Duration := .ofSeconds (86400 * 30)
  cookie : CookieOptions := {}

inductive PolicyChange where
  | keyPrefix (s : String)
  | defaultTtl (d : Duration)
  | maxTtl (d : Duration)
  | cookie (changes : List CookieChange)

namespace Policy

/-- The policy after a change.  The attributes of cookies are changed from the default ones. -/
def change (p : Policy) : PolicyChange → Policy
  | .keyPrefix s => { p with keyPrefix := s }
  | .defaultTtl d => { p with defaultTtl := d }
  | .maxTtl d => { p with maxTtl := d }
  | .cookie changes => { p with cookie := changes.foldl CookieOptions.change {} }

def ofChanges (changes : List PolicyChange) : Policy := changes.foldl change {}

/-- What is wrong with a policy, if anything. -/
def check (p : Policy) : Except Misconfiguration Unit :=
  if p.defaultTtl.isZero ∨ p.maxTtl.isZero then .error .zeroTtl
  else if p.maxTtl.nanos < p.defaultTtl.nanos then .error .defaultBeyondMaximum
  else .ok ()

/-- The lifetime of a session for which one is asked, or none. -/
def effectiveTtl (p : Policy) (asked : Option Duration) : Duration :=
  ⟨min (asked.getD p.defaultTtl).nanos p.maxTtl.nanos⟩

def key (p : Policy) (name id : String) : String := p.keyPrefix ++ name ++ ":" ++ id

/-! ### Settings -/

/-- Whether a setting turns something on: anything but `0` and `false` does. -/
def isOn (s : String) : Bool := !(s == "0" || String.ofList (s.toList.map Char.toLower) == "false")

def seconds? (settings : Table String) (name : String) : Option Duration :=
  ((settings.get? name).bind (Natural.read? 64)).map .ofSeconds

def ofSettings (settings : Table String) : Except Misconfiguration Policy := do
  let base : Policy := {}
  let p : Policy :=
    { keyPrefix := (settings.get? "SESSION_KEY_PREFIX").getD base.keyPrefix
      defaultTtl := (seconds? settings "SESSION_TTL_SECS").getD base.defaultTtl
      maxTtl := (seconds? settings "SESSION_MAX_TTL_SECS").getD base.maxTtl
      cookie :=
        { base.cookie with
          domain := settings.get? "SESSION_COOKIE_DOMAIN"
          secure := ((settings.get? "SESSION_COOKIE_SECURE").map isOn).getD base.cookie.secure } }
  p.check
  return p

end Policy

end SessionVault
