import SessionVault.Digest.Sha256

/-!
# SHA-1

The digest by which a server knows a script that it has been given before.  `sha1` closes the message as
SHA-256 does and mixes five words.
-/

namespace SessionVault.Digest

namespace Sha1

structure State where
  a : UInt32
  b : UInt32
  c : UInt32
  d : UInt32
  e : UInt32

def initial : State := ⟨0x67452301, 0xEFCDAB89, 0x98BADCFE, 0x10325476, 0xC3D2E1F0⟩

/-- The next word of the schedule, from the words so far. -/
def extend (w : Array UInt32) : Array UInt32 :=
  let n := w.size
  w.push (rotl (w.getD (n - 3) 0 ^^^ w.getD (n - 8) 0 ^^^ w.getD (n - 14) 0 ^^^ w.getD (n - 16) 0) 1)

def schedule (block : Bytes) : List UInt32 :=
  (Nat.repeat extend 64 (words block).toArray).toList

/-- The mixing function and the constant of round `i`. -/
def stage (i : Nat) (b c d : UInt32) : UInt32 × UInt32 :=
  if i < 20 then ((b &&& c) ||| (~~~b &&& d), 0x5A827999)
  else if i < 40 then (b ^^^ c ^^^ d, 0x6ED9EBA1)
  else if i < 60 then ((b &&& c) ||| (b &&& d) ||| (c &&& d), 0x8F1BBCDC)
  else (b ^^^ c ^^^ d, 0xCA62C1D6)

def round (s : State) (i : Nat) (w : UInt32) : State :=
  let (f, k) := stage i s.b s.c s.d
  ⟨rotl s.a 5 + f + s.e + k + w, s.a, rotl s.b 30, s.c, s.d⟩

def compress (s : State) (block : Bytes) : State :=
  let r := (schedule block).zipIdx.foldl (fun r wi => round r wi.2 wi.1) s
  ⟨s.a + r.a, s.b + r.b, s.c + r.c, s.d + r.d, s.e + r.e⟩

def State.toBytes (s : State) : Bytes :=
  [s.a, s.b, s.c, s.d, s.e].flatMap fun w => Bytes.bigEndian 4 w.toNat

end Sha1

def sha1 (message : Bytes) : Bytes :=
  ((Bytes.blocks 64 (pad message)).foldl Sha1.compress Sha1.initial).toBytes

end SessionVault.Digest
