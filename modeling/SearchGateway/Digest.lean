import SearchGateway.Text.Hex

/-!
# MD5

The MD5 digest of a byte sequence: the bytes are padded to whole blocks of 64 bytes, and 64 steps
mix each block into a state of four words.  Document and part identifiers are digests of UTF-8 text
in hexadecimal.
-/

set_option autoImplicit false

namespace SearchGateway.Digest

/-! ## Blocks -/

/-- The eight low bytes of a number, the lowest first. -/
def lengthBytes (n : Nat) : List UInt8 :=
  (List.range 8).map fun i => UInt8.ofNat (n / Nat.pow 256 i)

/-- The bytes followed by a one bit, zeros up to eight bytes before the end of a block, and the
number of bits. -/
def padded (bytes : List UInt8) : List UInt8 :=
  let fill := (119 - bytes.length % 64) % 64
  bytes ++ 0x80 :: List.replicate fill 0 ++ lengthBytes (8 * bytes.length)

/-- The whole blocks of a byte sequence. -/
def blocks (bytes : List UInt8) : List (List UInt8) :=
  if _h : (bytes.drop 63).isEmpty then [] else bytes.take 64 :: blocks (bytes.drop 64)
termination_by bytes.length
decreasing_by
  simp only [List.isEmpty_iff, List.drop_eq_nil_iff, Nat.not_le] at _h
  simp only [List.length_drop]
  omega

/-- The words of a block, the lowest byte of each first. -/
def words : List UInt8 → List UInt32
  | a :: b :: c :: d :: rest =>
    (a.toUInt32 ||| b.toUInt32 <<< 8 ||| c.toUInt32 <<< 16 ||| d.toUInt32 <<< 24) :: words rest
  | _ => []

/-! ## Mixing -/

/-- The four words that the blocks are mixed into. -/
structure State where
  a : UInt32
  b : UInt32
  c : UInt32
  d : UInt32

/-- The state before the first block. -/
def State.initial : State := ⟨0x67452301, 0xefcdab89, 0x98badcfe, 0x10325476⟩

/-- The constants added in the steps: the integer parts of `2 ^ 32 * |sin i|`. -/
def sines : List UInt32 := [
  0xd76aa478, 0xe8c7b756, 0x242070db, 0xc1bdceee, 0xf57c0faf, 0x4787c62a, 0xa8304613, 0xfd469501,
  0x698098d8, 0x8b44f7af, 0xffff5bb1, 0x895cd7be, 0x6b901122, 0xfd987193, 0xa679438e, 0x49b40821,
  0xf61e2562, 0xc040b340, 0x265e5a51, 0xe9b6c7aa, 0xd62f105d, 0x02441453, 0xd8a1e681, 0xe7d3fbc8,
  0x21e1cde6, 0xc33707d6, 0xf4d50d87, 0x455a14ed, 0xa9e3e905, 0xfcefa3f8, 0x676f02d9, 0x8d2a4c8a,
  0xfffa3942, 0x8771f681, 0x6d9d6122, 0xfde5380c, 0xa4beea44, 0x4bdecfa9, 0xf6bb4b60, 0xbebfbc70,
  0x289b7ec6, 0xeaa127fa, 0xd4ef3085, 0x04881d05, 0xd9d4d039, 0xe6db99e5, 0x1fa27cf8, 0xc4ac5665,
  0xf4292244, 0x432aff97, 0xab9423a7, 0xfc93a039, 0x655b59c3, 0x8f0ccc92, 0xffeff47d, 0x85845dd1,
  0x6fa87e4f, 0xfe2ce6e0, 0xa3014314, 0x4e0811a1, 0xf7537e82, 0xbd3af235, 0x2ad7d2bb, 0xeb86d391]

/-- The rotations of the four rounds; each repeats every four steps. -/
def rotations : List (List UInt32) :=
  [[7, 12, 17, 22], [5, 9, 14, 20], [4, 11, 16, 23], [6, 10, 15, 21]]

/-- A word rotated to the left by less than its width and more than nothing. -/
def rotate (x amount : UInt32) : UInt32 := (x <<< amount) ||| (x >>> (32 - amount))

/-- The function of a step's round on three words, and the index of the block word it takes. -/
def select (i : Nat) (s : State) : UInt32 × Nat :=
  match i / 16 with
  | 0 => ((s.b &&& s.c) ||| (~~~s.b &&& s.d), i)
  | 1 => ((s.d &&& s.b) ||| (~~~s.d &&& s.c), (5 * i + 1) % 16)
  | 2 => (s.b ^^^ s.c ^^^ s.d, (3 * i + 5) % 16)
  | _ => (s.c ^^^ (s.b ||| ~~~s.d), (7 * i) % 16)

/-- One step on the words of a block. -/
def step (block : List UInt32) (s : State) (constant : UInt32 × Nat) : State :=
  let (sine, i) := constant
  let (mixed, index) := select i s
  let amount := ((rotations.getD (i / 16) []).getD (i % 4) 0)
  let sum := mixed + s.a + sine + block.getD index 0
  ⟨s.d, s.b + rotate sum amount, s.b, s.c⟩

/-- The state after a block. -/
def absorb (s : State) (block : List UInt8) : State :=
  let t := sines.zipIdx.foldl (step (words block)) s
  ⟨s.a + t.a, s.b + t.b, s.c + t.c, s.d + t.d⟩

/-- The bytes of a word, the lowest first. -/
def wordBytes (w : UInt32) : List UInt8 :=
  [w.toUInt8, (w >>> 8).toUInt8, (w >>> 16).toUInt8, (w >>> 24).toUInt8]

/-- The sixteen bytes of the digest. -/
def md5 (bytes : List UInt8) : List UInt8 :=
  let s := (blocks (padded bytes)).foldl absorb State.initial
  wordBytes s.a ++ wordBytes s.b ++ wordBytes s.c ++ wordBytes s.d

/-- The digest of a text's UTF-8 bytes in hexadecimal. -/
def ofText (s : String) : String :=
  String.ofList ((md5 s.toUTF8.toList).flatMap fun byte => Text.hex 2 byte.toNat)

end SearchGateway.Digest
