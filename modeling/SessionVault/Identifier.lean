import SessionVault.Base64
import SessionVault.Entropy

/-!
# Identifiers: the names that sessions are issued under

An identifier is 32 random octets in the spelling of base64 that is safe in a URL, 43 symbols long.
`Identifier.issue` draws one, and `Identifier.isValid` says whether a text is shaped like one.
-/

namespace SessionVault.Identifier

/-- The random octets behind an identifier. -/
def entropySize : Nat := 32

/-- The symbols of an identifier. -/
def size : Nat := 43

def ofOctets (bs : Bytes) : String := Base64.encodeUrl bs

def issue (e : Entropy) : String × Entropy :=
  let (bs, e) := e.draw entropySize
  (ofOctets bs, e)

/-- Whether a character is a symbol of identifiers: a letter or a digit, a hyphen or an underscore. -/
def isSymbol (c : Char) : Bool :=
  ('A' ≤ c && c ≤ 'Z') || ('a' ≤ c && c ≤ 'z') || ('0' ≤ c && c ≤ '9') || c == '-' || c == '_'

/-- Whether a text is shaped like an identifier. -/
def isValid (s : String) : Bool := s.length == size && s.toList.all isSymbol

/-- Identifiers have one length. -/
theorem length_ofOctets {bs : Bytes} (h : bs.length = entropySize) : (ofOctets bs).length = size := by
  rw [ofOctets, Base64.length_encodeUrl, h]
  rfl

/-- The first symbols of an identifier, as many as are shown in messages. -/
def shown (s : String) : String := String.ofList (s.toList.take 8)

end SessionVault.Identifier
