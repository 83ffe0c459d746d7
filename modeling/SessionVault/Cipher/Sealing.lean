import SessionVault.Cipher.ChaCha20
import SessionVault.Cipher.Gcm
import SessionVault.Cipher.Poly1305
import SessionVault.Failure

/-!
# Sealing: authenticated encryption under associated data

A cipher is an algorithm and a key of its length.  `Cipher.encrypt` hides a text and adds a tag over it and over
associated data; `Cipher.decrypt?` shows the text again when the tag is right.

Blocks are counted in 32 bits, so ciphers refuse what is too long to seal: AES takes a text and associated data of up
to 2^36 octets each, the others take a text of less than 64 (2^32 - 1) octets.  `Cipher.encrypt` is meant for what is
within these limits.  There sealing cannot fail, and nothing here speaks of a text beyond them.

* `Cipher.ofKey` — the cipher of a family with a key, whose length may choose the algorithm;
* `length_encrypt` — sealing adds the sixteen octets of the tag;
* `decrypt?_encrypt` — a sealed text opens under the same nonce and associated data;
* `eq_encrypt_of_decrypt?` — nothing else opens.
-/

namespace SessionVault

inductive Algorithm where
  | aes128Gcm
  | aes256Gcm
  | chaCha20Poly1305
  | xChaCha20Poly1305
deriving DecidableEq

namespace Algorithm

def name : Algorithm → String
  | aes128Gcm => "AES-128-GCM"
  | aes256Gcm => "AES-256-GCM"
  | chaCha20Poly1305 => "ChaCha20-Poly1305"
  | xChaCha20Poly1305 => "XChaCha20-Poly1305"

def keySize : Algorithm → Nat
  | aes128Gcm => 16
  | _ => 32

def nonceSize : Algorithm → Nat
  | xChaCha20Poly1305 => 24
  | _ => 12

end Algorithm

/-- The families that a cipher is asked for by. -/
inductive CipherFamily where
  | aesGcm
  | chaCha20Poly1305
  | xChaCha20Poly1305
deriving DecidableEq

/-- A cipher: an algorithm and its key. -/
structure Cipher where
  algorithm : Algorithm
  key : Bytes
  length_key : key.length = algorithm.keySize

namespace Cipher

def tagSize : Nat := 16

def ofAlgorithm (a : Algorithm) (key : Bytes) : Except Misconfiguration Cipher :=
  if h : key.length = a.keySize then .ok ⟨a, key, h⟩ else .error (.keyLength a.name a.keySize)

/-- The cipher of a family with a key.  The length of a key for AES says which of its two algorithms is
meant. -/
def ofKey (family : CipherFamily) (key : Bytes) : Except Misconfiguration Cipher :=
  match family with
  | .aesGcm =>
    if key.length = 16 then ofAlgorithm .aes128Gcm key
    else if key.length = 32 then ofAlgorithm .aes256Gcm key
    else .error (.gcmKeyLength key.length)
  | .chaCha20Poly1305 => ofAlgorithm .chaCha20Poly1305 key
  | .xChaCha20Poly1305 => ofAlgorithm .xChaCha20Poly1305 key

/-- The key and the nonce of twelve octets that a long nonce stands for. -/
def short (key nonce : Bytes) : Bytes × Bytes :=
  (ChaCha20.subkey key nonce, List.replicate 4 0 ++ nonce.drop 16)

/-- The text added to the keystream under a nonce. -/
def crypt (c : Cipher) (nonce text : Bytes) : Bytes :=
  match c.algorithm with
  | .aes128Gcm | .aes256Gcm => Gcm.crypt (Aes.expand c.key) nonce text
  | .chaCha20Poly1305 => ChaCha20.crypt c.key nonce text
  | .xChaCha20Poly1305 => let (key, nonce) := short c.key nonce; ChaCha20.crypt key nonce text

/-- The tag of a hidden text and its associated data. -/
def tag (c : Cipher) (nonce aad hidden : Bytes) : Bytes :=
  match c.algorithm with
  | .aes128Gcm | .aes256Gcm => Gcm.tag (Aes.expand c.key) nonce aad hidden
  | .chaCha20Poly1305 => Poly1305.tag c.key nonce aad hidden
  | .xChaCha20Poly1305 => let (key, nonce) := short c.key nonce; Poly1305.tag key nonce aad hidden

@[simp] theorem length_crypt (c : Cipher) (nonce text : Bytes) : (c.crypt nonce text).length = text.length := by
  cases h : c.algorithm <;> simp [crypt, h]

@[simp] theorem length_tag (c : Cipher) (nonce aad hidden : Bytes) :
    (c.tag nonce aad hidden).length = tagSize := by
  cases h : c.algorithm <;> simp [tag, h, tagSize]

theorem crypt_crypt (c : Cipher) (nonce text : Bytes) : c.crypt nonce (c.crypt nonce text) = text := by
  cases h : c.algorithm <;> simp [crypt, h, Gcm.crypt_crypt, ChaCha20.crypt_crypt]

/-! ### Sealing and opening -/

/-- The hidden text and its tag, for a text that is not too long to seal: 2^36 octets at most under AES, and less than
64 (2^32 - 1) otherwise.  A longer one would be refused. -/
def encrypt (c : Cipher) (nonce text aad : Bytes) : Bytes :=
  let hidden := c.crypt nonce text
  hidden ++ c.tag nonce aad hidden

/-- The text of a sealed one, if its tag is right. -/
def decrypt? (c : Cipher) (nonce sealed aad : Bytes) : Option Bytes :=
  let hidden := sealed.take (sealed.length - tagSize)
  if sealed.drop (sealed.length - tagSize) = c.tag nonce aad hidden then some (c.crypt nonce hidden) else none

@[simp] theorem length_encrypt (c : Cipher) (nonce text aad : Bytes) :
    (c.encrypt nonce text aad).length = text.length + tagSize := by
  simp [encrypt]

/-- A sealed text opens under the same nonce and associated data. -/
theorem decrypt?_encrypt (c : Cipher) (nonce text aad : Bytes) :
    c.decrypt? nonce (c.encrypt nonce text aad) aad = some text := by
  have h : (c.encrypt nonce text aad).length - tagSize = (c.crypt nonce text).length := by simp
  simp only [decrypt?, h]
  simp [encrypt, crypt_crypt]

/-- What opens is the sealed text. -/
theorem eq_encrypt_of_decrypt? {c : Cipher} {nonce sealed aad text : Bytes}
    (h : c.decrypt? nonce sealed aad = some text) : sealed = c.encrypt nonce text aad := by
  simp only [decrypt?] at h
  split at h
  · rename_i ht
    cases h
    simp only [encrypt, crypt_crypt, ← ht, List.take_append_drop]
  · cases h

end Cipher

end SessionVault
