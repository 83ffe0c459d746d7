import SessionVault.Json.Decoder
import SessionVault.Time.Rfc3339

/-!
# Cookies: how an identifier travels to a browser

`CookieOptions` are the attributes that every cookie of a policy has.  A `Cookie` adds a name, a value and the
end of its life, as an instant and as a number of seconds; one whose seconds are negative takes the cookie
away.  `Cookie.header` is the value of a `Set-Cookie` header, whose `Max-Age` is never negative.
-/

namespace SessionVault

/-! ### Options -/

/-- Which requests from other sites carry a cookie. -/
inductive SameSite where
  | strict
  | lax
  | none
deriving DecidableEq

namespace SameSite

def name : SameSite → String
  | strict => "Strict"
  | lax => "Lax"
  | none => "None"

def byName : List (String × SameSite) := [strict, lax, none].map fun s => (s.name, s)

end SameSite

structure CookieOptions where
  path : String := "/"
  domain : Option String := none
  secure : Bool := true
  httpOnly : Bool := true
  partitioned : Bool := false
  sameSite : SameSite := .strict
deriving DecidableEq

inductive CookieChange where
  | path (s : String)
  | domain (s : String)
  | secure (b : Bool)
  | httpOnly (b : Bool)
  | partitioned (b : Bool)
  | sameSite (s : SameSite)

namespace CookieOptions

def change (o : CookieOptions) : CookieChange → CookieOptions
  | .path s => { o with path := s }
  | .domain s => { o with domain := some s }
  | .secure b => { o with secure := b }
  | .httpOnly b => { o with httpOnly := b }
  | .partitioned b => { o with partitioned := b }
  | .sameSite s => { o with sameSite := s }

def toJson (o : CookieOptions) : Json :=
  .object [("path", .string o.path), ("domain", Json.optional .string o.domain), ("secure", .bool o.secure),
    ("http_only", .bool o.httpOnly), ("partitioned", .bool o.partitioned), ("same_site", .string o.sameSite.name)]

/-- The attributes read so far. -/
structure Draft where
  path : Option String := none
  domain : Option (Option String) := none
  secure : Option Bool := none
  httpOnly : Option Bool := none
  partitioned : Option Bool := none
  sameSite : Option SameSite := none

/-- The attributes of a draft.  Only the domain may be missing. -/
def ofDraft (d : Draft) : Except String CookieOptions := do
  return ⟨← Decoder.required "path" d.path, d.domain.getD none, ← Decoder.required "secure" d.secure,
    ← Decoder.required "http_only" d.httpOnly, ← Decoder.required "partitioned" d.partitioned,
    ← Decoder.required "same_site" d.sameSite⟩

def decoder : Decoder CookieOptions :=
  Decoder.record "CookieOptions"
    [.of "path" (·.path.isSome) Decoder.string fun d v => { d with path := some v },
      .of "domain" (·.domain.isSome) (Decoder.optional Decoder.string) fun d v => { d with domain := some v },
      .of "secure" (·.secure.isSome) Decoder.bool fun d v => { d with secure := some v },
      .of "http_only" (·.httpOnly.isSome) Decoder.bool fun d v => { d with httpOnly := some v },
      .of "partitioned" (·.partitioned.isSome) Decoder.bool fun d v => { d with partitioned := some v },
      .of "same_site" (·.sameSite.isSome) (Decoder.variant SameSite.byName)
        fun d v => { d with sameSite := some v }]
    ({} : Draft) ofDraft

end CookieOptions

/-! ### Cookies -/

structure Cookie where
  name : String
  value : String
  expires : Instant
  /-- The seconds to the end of its life; a negative number takes the cookie away. -/
  maxAge : Int
  options : CookieOptions
deriving DecidableEq

namespace Cookie

/-- A number of seconds as 64 bits with a sign hold it: beyond 63 bits it wraps around. -/
def age (seconds : Nat) : Int := (seconds : Int).bmod 0x10000000000000000

/-- The cookie that takes another of its name away. -/
def removal (o : CookieOptions) (name : String) : Cookie := ⟨name, "", Instant.epoch, -1, o⟩

def isRemoval (c : Cookie) : Bool := c.maxAge < 0

def dayNames : List String := ["Sun", "Mon", "Tue", "Wed", "Thu", "Fri", "Sat"]

def monthNames : List String :=
  ["Jan", "Feb", "Mar", "Apr", "May", "Jun", "Jul", "Aug", "Sep", "Oct", "Nov", "Dec"]

/-- An instant as headers write it. -/
def httpDate (t : Instant) : String :=
  let d := Time.dateOf t
  dayNames.getD (Time.weekday (t.seconds / 86400)) "" ++ ", " ++ String.ofList (Time.padded 2 d.day) ++ " " ++
    monthNames.getD (d.month - 1) "" ++ " " ++ String.ofList (Time.yearText d.year) ++ " " ++
    String.ofList (Time.clockText t) ++ " GMT"

/-- An attribute that is only there when a flag is set. -/
def flag (set : Bool) (name : String) : String := if set then "; " ++ name else ""

/-- The value of a header that sets the cookie. -/
def header (c : Cookie) : String :=
  c.name ++ "=" ++ c.value ++ "; Path=" ++ c.options.path ++
    (match c.options.domain with
      | some domain => "; Domain=" ++ domain
      | none => "") ++
    "; Expires=" ++ httpDate c.expires ++ "; Max-Age=" ++ toString c.maxAge.toNat ++
    flag c.options.secure "Secure" ++ flag c.options.httpOnly "HttpOnly" ++
    flag c.options.partitioned "Partitioned" ++ "; SameSite=" ++ c.options.sameSite.name

end Cookie

end SessionVault
