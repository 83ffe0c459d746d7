import SessionVault.Bytes

/-!
# AES: the block cipher

`Aes.expand` turns a key of sixteen or thirty-two octets into its round keys, and `Aes.encrypt` maps one
block of sixteen octets to another under them.  Counter mode needs this direction only, so the inverse
cipher is not defined.  A block is held as its four columns.
-/

namespace SessionVault.Cipher.Aes

/-! ### Columns and blocks -/

/-- Four octets of a block, from the top row down. -/
structure Column where
  r0 : UInt8
  r1 : UInt8
  r2 : UInt8
  r3 : UInt8

/-- A block of four columns. -/
structure Block where
  c0 : Column
  c1 : Column
  c2 : Column
  c3 : Column

/-- The column that the first four octets make; missing ones count as zero. -/
def Column.ofBytes (bs : Bytes) : Column :=
  ⟨bs.getD 0 0, bs.getD 1 0, bs.getD 2 0, bs.getD 3 0⟩

def Column.toBytes (c : Column) : Bytes := [c.r0, c.r1, c.r2, c.r3]

def Column.add (x y : Column) : Column := ⟨x.r0 ^^^ y.r0, x.r1 ^^^ y.r1, x.r2 ^^^ y.r2, x.r3 ^^^ y.r3⟩

def Column.map (f : UInt8 → UInt8) (c : Column) : Column := ⟨f c.r0, f c.r1, f c.r2, f c.r3⟩

/-- The block that sixteen octets make. -/
def Block.ofBytes (bs : Bytes) : Block :=
  ⟨.ofBytes bs, .ofBytes (bs.drop 4), .ofBytes (bs.drop 8), .ofBytes (bs.drop 12)⟩

def Block.toBytes (b : Block) : Bytes :=
  b.c0.toBytes ++ b.c1.toBytes ++ b.c2.toBytes ++ b.c3.toBytes

def Block.add (x y : Block) : Block := ⟨x.c0.add y.c0, x.c1.add y.c1, x.c2.add y.c2, x.c3.add y.c3⟩

/-! ### The steps of a round -/

/-- The substitution table: the inverse in the field of 256 elements, then an affine map. -/
def substitution : Array UInt8 :=
  #[
    0x63, 0x7c, 0x77, 0x7b, 0xf2, 0x6b, 0x6f, 0xc5, 0x30, 0x01, 0x67, 0x2b, 0xfe, 0xd7, 0xab, 0x76,
    0xca, 0x82, 0xc9, 0x7d, 0xfa, 0x59, 0x47, 0xf0, 0xad, 0xd4, 0xa2, 0xaf, 0x9c, 0xa4, 0x72, 0xc0,
    0xb7, 0xfd, 0x93, 0x26, 0x36, 0x3f, 0xf7, 0xcc, 0x34, 0xa5, 0xe5, 0xf1, 0x71, 0xd8, 0x31, 0x15,
    0x04, 0xc7, 0x23, 0xc3, 0x18, 0x96, 0x05, 0x9a, 0x07, 0x12, 0x80, 0xe2, 0xeb, 0x27, 0xb2, 0x75,
    0x09, 0x83, 0x2c, 0x1a, 0x1b, 0x6e, 0x5a, 0xa0, 0x52, 0x3b, 0xd6, 0xb3, 0x29, 0xe3, 0x2f, 0x84,
    0x53, 0xd1, 0x00, 0xed, 0x20, 0xfc, 0xb1, 0x5b, 0x6a, 0xcb, 0xbe, 0x39, 0x4a, 0x4c, 0x58, 0xcf,
    0xd0, 0xef, 0xaa, 0xfb, 0x43, 0x4d, 0x33, 0x85, 0x45, 0xf9, 0x02, 0x7f, 0x50, 0x3c, 0x9f, 0xa8,
    0x51, 0xa3, 0x40, 0x8f, 0x92, 0x9d, 0x38, 0xf5, 0xbc, 0xb6, 0xda, 0x21, 0x10, 0xff, 0xf3, 0xd2,
    0xcd, 0x0c, 0x13, 0xec, 0x5f, 0x97, 0x44, 0x17, 0xc4, 0xa7, 0x7e, 0x3d, 0x64, 0x5d, 0x19, 0x73,
    0x60, 0x81, 0x4f, 0xdc, 0x22, 0x2a, 0x90, 0x88, 0x46, 0xee, 0xb8, 0x14, 0xde, 0x5e, 0x0b, 0xdb,
    0xe0, 0x32, 0x3a, 0x0a, 0x49, 0x06, 0x24, 0x5c, 0xc2, 0xd3, 0xac, 0x62, 0x91, 0x95, 0xe4, 0x79,
    0xe7, 0xc8, 0x37, 0x6d, 0x8d, 0xd5, 0x4e, 0xa9, 0x6c, 0x56, 0xf4, 0xea, 0x65, 0x7a, 0xae, 0x08,
    0xba, 0x78, 0x25, 0x2e, 0x1c, 0xa6, 0xb4, 0xc6, 0xe8, 0xdd, 0x74, 0x1f, 0x4b, 0xbd, 0x8b, 0x8a,
    0x70, 0x3e, 0xb5, 0x66, 0x48, 0x03, 0xf6, 0x0e, 0x61, 0x35, 0x57, 0xb9, 0x86, 0xc1, 0x1d, 0x9e,
    0xe1, 0xf8, 0x98, 0x11, 0x69, 0xd9, 0x8e, 0x94, 0x9b, 0x1e, 0x87, 0xe9, 0xce, 0x55, 0x28, 0xdf,
    0x8c, 0xa1, 0x89, 0x0d, 0xbf, 0xe6, 0x42, 0x68, 0x41, 0x99, 0x2d, 0x0f, 0xb0, 0x54, 0xbb, 0x16]

def substitute (b : UInt8) : UInt8 := substitution.getD b.toNat 0

/-- Twice an octet in the field of 256 elements. -/
def double (b : UInt8) : UInt8 := if b < 0x80 then b <<< 1 else (b <<< 1) ^^^ 0x1b

/-- Row `i` moves `i` places to the left. -/
def shiftRows (b : Block) : Block :=
  ⟨⟨b.c0.r0, b.c1.r1, b.c2.r2, b.c3.r3⟩, ⟨b.c1.r0, b.c2.r1, b.c3.r2, b.c0.r3⟩,
   ⟨b.c2.r0, b.c3.r1, b.c0.r2, b.c1.r3⟩, ⟨b.c3.r0, b.c0.r1, b.c1.r2, b.c2.r3⟩⟩

/-- A column times the fixed matrix whose rows turn `2 3 1 1`. -/
def mixColumn (c : Column) : Column :=
  let sum := c.r0 ^^^ c.r1 ^^^ c.r2 ^^^ c.r3
  ⟨c.r0 ^^^ sum ^^^ double (c.r0 ^^^ c.r1), c.r1 ^^^ sum ^^^ double (c.r1 ^^^ c.r2),
   c.r2 ^^^ sum ^^^ double (c.r2 ^^^ c.r3), c.r3 ^^^ sum ^^^ double (c.r3 ^^^ c.r0)⟩

/-- Every octet substituted, then every row moved. -/
def scramble (b : Block) : Block :=
  shiftRows ⟨b.c0.map substitute, b.c1.map substitute, b.c2.map substitute, b.c3.map substitute⟩

def round (b key : Block) : Block :=
  let s := scramble b
  (⟨mixColumn s.c0, mixColumn s.c1, mixColumn s.c2, mixColumn s.c3⟩ : Block).add key

/-! ### The key schedule -/

/-- The next column of the schedule of a key of `size` columns, from the columns and the round constant so
far. -/
def extend (size : Nat) (s : Array Column × UInt8) : Array Column × UInt8 :=
  let (w, rcon) := s
  let n := w.size
  let prev := w.getD (n - 1) ⟨0, 0, 0, 0⟩
  let back := w.getD (n - size) ⟨0, 0, 0, 0⟩
  if n % size = 0 then
    let turned : Column := ⟨prev.r1, prev.r2, prev.r3, prev.r0⟩
    (w.push (back.add ((turned.map substitute).add ⟨rcon, 0, 0, 0⟩)), double rcon)
  else if size > 6 ∧ n % size = 4 then (w.push (back.add (prev.map substitute)), rcon)
  else (w.push (back.add prev), rcon)

/-- The round keys of a key: eleven for sixteen octets, fifteen for thirty-two. -/
def expand (key : Bytes) : List Block :=
  let size := key.length / 4
  let start := ((Bytes.blocks 4 key).map Column.ofBytes).toArray
  let w := (Nat.repeat (extend size) (4 * (size + 7) - size) (start, 1)).1
  (List.range (size + 7)).map fun i =>
    ⟨w.getD (4 * i) ⟨0, 0, 0, 0⟩, w.getD (4 * i + 1) ⟨0, 0, 0, 0⟩, w.getD (4 * i + 2) ⟨0, 0, 0, 0⟩,
     w.getD (4 * i + 3) ⟨0, 0, 0, 0⟩⟩

/-! ### The cipher -/

/-- The rounds after the first key: the last one does not mix columns. -/
def rounds : List Block → Block → Block
  | [], b => b
  | [last], b => (scramble b).add last
  | key :: rest, b => rounds rest (round b key)

def encrypt (keys : List Block) (bs : Bytes) : Bytes :=
  match keys with
  | [] => (Block.ofBytes bs).toBytes
  | first :: rest => (rounds rest ((Block.ofBytes bs).add first)).toBytes

/-- A block is mapped to a block. -/
@[simp] theorem length_encrypt (keys : List Block) (bs : Bytes) : (encrypt keys bs).length = 16 := by
  cases keys <;> rfl

end SessionVault.Cipher.Aes
