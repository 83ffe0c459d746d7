import SessionVault.Digest.Sha256

/-!
# HMAC-SHA256: a digest under a key

`hmacSha256 key message` is the signature that an envelope carries.  A key longer than a block is replaced by
its digest; a shorter one is filled up with zeros (`Hmac.block`).
-/

namespace SessionVault.Digest

namespace Hmac

/-- The key as one block of 64 octets. -/
def block (key : Bytes) : Bytes :=
  let key := if key.length > 64 then sha256 key else key
  key ++ List.replicate (64 - key.length) 0

end Hmac

def hmacSha256 (key message : Bytes) : Bytes :=
  let k := Hmac.block key
  sha256 (k.map (· ^^^ 0x5c) ++ sha256 (k.map (· ^^^ 0x36) ++ message))

@[simp] theorem length_hmacSha256 (key message : Bytes) : (hmacSha256 key message).length = 32 :=
  length_sha256 _

end SessionVault.Digest
