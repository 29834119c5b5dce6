import ResourceTables.Uuid

/-!
# ResourceTables.Uuid.Digest

Name-based identifiers: the first sixteen bytes of the SHA-1 digest of a namespace followed by a
name, with the version and variant bits set. They give a text a stable identifier of its own.
-/

namespace ResourceTables.Uuid

/-! ### SHA-1 -/

/-- The five words a digest is computed in. -/
structure Digest where
  a : UInt32
  b : UInt32
  c : UInt32
  d : UInt32
  e : UInt32

namespace Digest

/-- The words before the first block. -/
def start : Digest := ⟨0x67452301, 0xEFCDAB89, 0x98BADCFE, 0x10325476, 0xC3D2E1F0⟩

/-- A word with its bits turned left by `n` places, `0 < n < 32`. -/
def turn (w : UInt32) (n : UInt32) : UInt32 := (w <<< n) ||| (w >>> (32 - n))

/-- The function and the constant of a round. -/
def mix (s : Digest) (round : Nat) : UInt32 × UInt32 :=
  if round < 20 then ((s.b &&& s.c) ||| (~~~s.b &&& s.d), 0x5A827999)
  else if round < 40 then (s.b ^^^ s.c ^^^ s.d, 0x6ED9EBA1)
  else if round < 60 then ((s.b &&& s.c) ||| (s.b &&& s.d) ||| (s.c &&& s.d), 0x8F1BBCDC)
  else (s.b ^^^ s.c ^^^ s.d, 0xCA62C1D6)

/-- One round with its word of the schedule. -/
def step (s : Digest) (round : Nat) (w : UInt32) : Digest :=
  let (f, k) := s.mix round
  ⟨turn s.a 5 + f + s.e + k + w, s.a, turn s.b 30, s.c, s.d⟩

/-- The eighty words of a block's schedule, from its sixteen. -/
def schedule (block : Array UInt32) : Array UInt32 :=
  (List.range 64).foldl (fun ws i =>
    ws.push (turn (ws.getD (i + 13) 0 ^^^ ws.getD (i + 8) 0 ^^^ ws.getD (i + 2) 0 ^^^ ws.getD i 0)
      1)) block

/-- The words after a block. -/
def absorb (s : Digest) (block : Array UInt32) : Digest :=
  let t := (schedule block).toList.zipIdx.foldl (fun t (w, i) => t.step i w) s
  ⟨s.a + t.a, s.b + t.b, s.c + t.c, s.d + t.d, s.e + t.e⟩

/-- Bytes as big-endian words; a last incomplete word is dropped. -/
def words : List UInt8 → List UInt32
  | a :: b :: c :: d :: rest =>
    ((a.toUInt32 <<< 24) ||| (b.toUInt32 <<< 16) ||| (c.toUInt32 <<< 8) ||| d.toUInt32) ::
      words rest
  | _ => []

/-- The big-endian bytes of a word. -/
def bytes (w : UInt32) : List UInt8 :=
  [(w >>> 24).toUInt8, (w >>> 16).toUInt8, (w >>> 8).toUInt8, w.toUInt8]

/-- The message, a one bit, zeros up to the end of a block, and the length in bits. -/
def padded (message : List UInt8) : List UInt8 :=
  let n := message.length
  let size := (8 * n).toUInt64
  message ++ (0x80 : UInt8) :: (List.replicate ((119 - n % 64) % 64) (0 : UInt8) ++
    bytes (size >>> 32).toUInt32 ++ bytes size.toUInt32)

/-- Words in blocks of sixteen. -/
def blocks (ws : List UInt32) : List (Array UInt32) :=
  (List.range (ws.length / 16)).map fun i => ((ws.drop (16 * i)).take 16).toArray

/-- The twenty bytes of a message's digest. -/
def ofMessage (message : List UInt8) : List UInt8 :=
  let s := (blocks (words (padded message))).foldl absorb start
  bytes s.a ++ bytes s.b ++ bytes s.c ++ bytes s.d ++ bytes s.e

end Digest

/-! ### Name-based identifiers -/

/-- The namespace of object identifiers. -/
def objectNamespace : Uuid := ofNat 0x6ba7b8129dad11d180b400c04fd430c8

/-- The sixteen bytes, most significant first. -/
def toBytes (u : Uuid) : List UInt8 :=
  (List.range 16).map fun i => (u.bits.toNat >>> (8 * (15 - i))).toUInt8

/-- The identifier with the given bytes, most significant first. -/
def ofBytes (bs : List UInt8) : Uuid :=
  ofNat (bs.foldl (fun n b => 256 * n + b.toNat) 0)

/-- The identifier of a name in a namespace. -/
def ofName (space : Uuid) (name : String) : Uuid :=
  let digest := (Digest.ofMessage (space.toBytes ++ name.toUTF8.toList)).take 16
  ofBytes (digest.zipIdx.map fun (b, i) =>
    if i = 6 then (b &&& 0x0F) ||| 0x50 else if i = 8 then (b &&& 0x3F) ||| 0x80 else b)

end ResourceTables.Uuid
