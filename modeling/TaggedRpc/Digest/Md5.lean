import TaggedRpc.Bytes

/-!
# MD5

The message digest of 128 bits: the message is padded to blocks of sixteen words
of 32 bits, least significant byte first, and each block stirs a state of four
words in 64 rounds. The digest is the final state.
-/

namespace TaggedRpc.Digest.Md5

/-- The state of the digest: four words. -/
structure State where
  a : UInt32
  b : UInt32
  c : UInt32
  d : UInt32
  deriving DecidableEq, Repr

/-- The state before the first block. -/
def start : State := ⟨0x67452301, 0xefcdab89, 0x98badcfe, 0x10325476⟩

/-- The number added in each round: the first 32 bits of the fraction of the
    sine of the number of the round. -/
def sines : List UInt32 := [
  0xd76aa478, 0xe8c7b756, 0x242070db, 0xc1bdceee, 0xf57c0faf, 0x4787c62a, 0xa8304613, 0xfd469501,
  0x698098d8, 0x8b44f7af, 0xffff5bb1, 0x895cd7be, 0x6b901122, 0xfd987193, 0xa679438e, 0x49b40821,
  0xf61e2562, 0xc040b340, 0x265e5a51, 0xe9b6c7aa, 0xd62f105d, 0x02441453, 0xd8a1e681, 0xe7d3fbc8,
  0x21e1cde6, 0xc33707d6, 0xf4d50d87, 0x455a14ed, 0xa9e3e905, 0xfcefa3f8, 0x676f02d9, 0x8d2a4c8a,
  0xfffa3942, 0x8771f681, 0x6d9d6122, 0xfde5380c, 0xa4beea44, 0x4bdecfa9, 0xf6bb4b60, 0xbebfbc70,
  0x289b7ec6, 0xeaa127fa, 0xd4ef3085, 0x04881d05, 0xd9d4d039, 0xe6db99e5, 0x1fa27cf8, 0xc4ac5665,
  0xf4292244, 0x432aff97, 0xab9423a7, 0xfc93a039, 0x655b59c3, 0x8f0ccc92, 0xffeff47d, 0x85845dd1,
  0x6fa87e4f, 0xfe2ce6e0, 0xa3014314, 0x4e0811a1, 0xf7537e82, 0xbd3af235, 0x2ad7d2bb, 0xeb86d391]

/-- A group of sixteen rounds: how it mixes three words, which word of the block
    its `i`-th round takes, and by how many bits its rounds rotate, in turn. -/
structure Group where
  mix : UInt32 → UInt32 → UInt32 → UInt32
  word : Nat → Nat
  rotations : List UInt32

/-- The four groups of rounds. -/
def groups : List Group := [
  ⟨fun b c d => (b &&& c) ||| (~~~b &&& d), fun i => i, [7, 12, 17, 22]⟩,
  ⟨fun b c d => (d &&& b) ||| (~~~d &&& c), fun i => (5 * i + 1) % 16, [5, 9, 14, 20]⟩,
  ⟨fun b c d => b ^^^ c ^^^ d, fun i => (3 * i + 5) % 16, [4, 11, 16, 23]⟩,
  ⟨fun b c d => c ^^^ (b ||| ~~~d), fun i => 7 * i % 16, [6, 10, 15, 21]⟩]

/-- Rotates a word to the left. -/
def rotate (x n : UInt32) : UInt32 := (x <<< n) ||| (x >>> (32 - n))

/-- The `i`-th round of a group, with the number that the round adds. -/
def round (g : Group) (block : Array UInt32) (s : State) (i : Nat) (sine : UInt32) : State :=
  let f := g.mix s.b s.c s.d + s.a + sine + block.getD (g.word i) 0
  ⟨s.d, s.b + rotate f (g.rotations.getD (i % 4) 0), s.b, s.c⟩

/-- The sixteen rounds of a group. -/
def runGroup (block : Array UInt32) (s : State) (g : Group) (sines : List UInt32) : State :=
  ((List.range 16).zip sines).foldl (fun s (i, sine) => round g block s i sine) s

/-- Stirs a block into the state. -/
def stir (s : State) (block : Array UInt32) : State :=
  let t := (groups.zip (List.range 4)).foldl
    (fun t (g, k) => runGroup block t g (sines.drop (16 * k))) s
  ⟨s.a + t.a, s.b + t.b, s.c + t.c, s.d + t.d⟩

/-- The words that bytes spell, least significant byte first. -/
def words : Bytes → List UInt32
  | a :: b :: c :: d :: rest => UInt32.ofNat (Bytes.toNat [d, c, b, a]) :: words rest
  | _ => []

/-- A message with its padding: a one bit, zeros up to the last eight bytes of a
    block, and there the length of the message in bits. -/
def pad (message : Bytes) : Bytes :=
  let zeros := (119 - message.length % 64) % 64
  message ++ 0x80 :: List.replicate zeros 0 ++ (Bytes.ofNat 8 (8 * message.length)).reverse

/-- Stirs the blocks of a list of words into the state. -/
def stirAll : (blocks : Nat) → State → List UInt32 → State
  | 0, s, _ => s
  | n + 1, s, ws => stirAll n (stir s (ws.take 16).toArray) (ws.drop 16)

end Md5

/-- The MD5 digest of a byte string, as its four words. -/
def md5 (message : Bytes) : Md5.State :=
  let ws := Md5.words (Md5.pad message)
  Md5.stirAll (ws.length / 16) Md5.start ws

end TaggedRpc.Digest
