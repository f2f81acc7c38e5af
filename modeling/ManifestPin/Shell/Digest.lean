import ManifestPin.Shell.Octets

/-! # Digests

Numbers of a fixed width that tell contents apart. A content is filled up to whole blocks, and each
block mixes the words of the digest so far. -/

namespace ManifestPin.Shell

/-- The octets of a number of which the greatest come first. -/
def bigEndian (count value : Nat) : List Nat :=
  (List.range count).map fun index => value >>> (8 * (count - 1 - index)) % 256

/-- The number that octets form of which the greatest come first. -/
def ofBigEndian (octets : List Nat) : Nat :=
  octets.foldl (fun value octet => value * 256 + octet) 0

/-- The first pieces of a list, all of one size. -/
def blocksOf {α : Type} (size : Nat) : (count : Nat) → List α → List (List α)
  | 0, _ => []
  | count + 1, items => items.take size :: blocksOf size count (items.drop size)

/-- A content filled up to whole blocks: with a one bit, zeros, and its length in bits. -/
def filled (blockSize lengthSize : Nat) (length : Nat → List Nat) (octets : List Nat) :
    List (List Nat) :=
  let used := (octets.length + 1 + lengthSize) % blockSize
  let zeros := (blockSize - used) % blockSize
  let whole := octets ++ [128] ++ List.replicate zeros 0 ++ length (8 * octets.length)
  blocksOf blockSize (whole.length / blockSize) whole

namespace Digest

/-- The greatest number whose power is at most a value, of so many bits at most. -/
def root (power value : Nat) : (bits : Nat) → (found : Nat) → Nat
  | 0, found => found
  | bits + 1, found =>
    let next := found + 1 <<< bits
    let raised := (List.replicate power next).foldl (· * ·) 1
    root power value bits (if raised ≤ value then next else found)

/-- The first prime numbers. -/
def primes (count : Nat) : List Nat :=
  let isPrime (n : Nat) : Bool := (List.range n).all fun d => d < 2 || n % d ≠ 0
  (((List.range (8 * count)).drop 2).filter isPrime).take count

/-- The first bits behind the point of the root of a number. -/
def rootBits (power width value : Nat) : Nat :=
  root power (value <<< (power * width)) (width + 8) 0 % 1 <<< width

/-- How digests of one family differ: in the width of words, the number of rounds, and the distances
that words are turned by. -/
structure Family where
  width : Nat
  rounds : Nat
  wide0 : Nat × Nat × Nat
  wide1 : Nat × Nat × Nat
  /-- The last of these distances is one that bits are moved by and not turned. -/
  narrow0 : Nat × Nat × Nat
  narrow1 : Nat × Nat × Nat

/-- The family with words of thirty-two bits. -/
def short : Family :=
  { width := 32, rounds := 64, wide0 := (2, 13, 22), wide1 := (6, 11, 25)
    narrow0 := (7, 18, 3), narrow1 := (17, 19, 10) }

/-- The family with words of sixty-four bits. -/
def long : Family :=
  { width := 64, rounds := 80, wide0 := (28, 34, 39), wide1 := (14, 18, 41)
    narrow0 := (1, 8, 7), narrow1 := (19, 61, 6) }

namespace Family

/-- A word as a number below its bound. -/
def word (family : Family) (value : Nat) : Nat :=
  value % 1 <<< family.width

/-- A word turned to the right. -/
def turn (family : Family) (value distance : Nat) : Nat :=
  family.word (value >>> distance ||| value <<< (family.width - distance))

/-- The word with all other bits. -/
def complement (family : Family) (value : Nat) : Nat :=
  1 <<< family.width - 1 - value

/-- Three turns of a word. -/
def wide (family : Family) (distances : Nat × Nat × Nat) (value : Nat) : Nat :=
  family.turn value distances.1 ^^^ family.turn value distances.2.1 ^^^
    family.turn value distances.2.2

/-- Two turns and a move of a word. -/
def narrow (family : Family) (distances : Nat × Nat × Nat) (value : Nat) : Nat :=
  family.turn value distances.1 ^^^ family.turn value distances.2.1 ^^^
    value >>> distances.2.2

/-- The words of the rounds, the last one first. -/
def schedule (family : Family) (block : List Nat) : List Nat :=
  (List.range (family.rounds - 16)).foldl
    (fun words _ =>
      let word (back : Nat) : Nat := words.getD (back - 1) 0
      family.word (word 16 + family.narrow family.narrow0 (word 15) + word 7 +
        family.narrow family.narrow1 (word 2)) :: words)
    block.reverse

/-- The constants of the rounds. -/
def constants (family : Family) : List Nat :=
  (primes family.rounds).map (rootBits 3 family.width)

/-- The words of a digest after a block. -/
def mix (family : Family) (constants : List Nat) (words : List Nat) (block : List Nat) : List Nat :=
  let mixed := (constants.zip (family.schedule block).reverse).foldl
    (fun (words : List Nat) (constant, added) =>
      match words with
      | [a, b, c, d, e, f, g, h] =>
        let choice := (e &&& f) ^^^ (family.complement e &&& g)
        let first := h + family.wide family.wide1 e + choice + constant + added
        let majority := (a &&& b) ^^^ (a &&& c) ^^^ (b &&& c)
        let second := family.wide family.wide0 a + majority
        [family.word (first + second), a, b, c, family.word (d + first), e, f, g]
      | words => words)
    words
  (words.zip mixed).map fun (before, after) => family.word (before + after)

/-- The octets of a digest that starts with words and keeps a number of octets. -/
def digest (family : Family) (start : List Nat) (size : Nat) (octets : List Nat) : List Nat :=
  let wordSize := family.width / 8
  let constants := family.constants
  let words := (filled (16 * wordSize) (2 * wordSize) (bigEndian (2 * wordSize)) octets).foldl
    (fun words block => family.mix constants words ((blocksOf wordSize 16 block).map ofBigEndian))
    start
  (words.flatMap (bigEndian wordSize)).take size

end Family

/-- The digest of 256 bits. -/
def sha256 (octets : List Nat) : List Nat :=
  short.digest ((primes 8).map (rootBits 2 32)) 32 octets

/-- The digest of 224 bits. -/
def sha224 (octets : List Nat) : List Nat :=
  short.digest (((primes 16).drop 8).map fun prime => short.word (rootBits 2 64 prime)) 28 octets

/-- The digest of 512 bits. -/
def sha512 (octets : List Nat) : List Nat :=
  long.digest ((primes 8).map (rootBits 2 64)) 64 octets

/-- The digest of 384 bits. -/
def sha384 (octets : List Nat) : List Nat :=
  long.digest (((primes 16).drop 8).map (rootBits 2 64)) 48 octets

/-- A word of thirty-two bits turned to the left. -/
def turnLeft (value distance : Nat) : Nat :=
  short.turn value (32 - distance)

/-- The digest of 160 bits. -/
def sha1 (octets : List Nat) : List Nat :=
  let start := [0x67452301, 0xefcdab89, 0x98badcfe, 0x10325476, 0xc3d2e1f0]
  let mix (words : List Nat) (block : List Nat) : List Nat :=
    let schedule := (List.range 64).foldl
      (fun words _ =>
        let word (back : Nat) : Nat := words.getD (back - 1) 0
        turnLeft (word 3 ^^^ word 8 ^^^ word 14 ^^^ word 16) 1 :: words)
      block.reverse
    let mixed := schedule.reverse.zipIdx.foldl
      (fun (words : List Nat) (added, round) =>
        match words with
        | [a, b, c, d, e] =>
          let (chosen, constant) : Nat × Nat :=
            if round < 20 then ((b &&& c) ^^^ (short.complement b &&& d), 0x5a827999)
            else if round < 40 then (b ^^^ c ^^^ d, 0x6ed9eba1)
            else if round < 60 then ((b &&& c) ^^^ (b &&& d) ^^^ (c &&& d), 0x8f1bbcdc)
            else (b ^^^ c ^^^ d, 0xca62c1d6)
          [short.word (turnLeft a 5 + chosen + e + constant + added), a, turnLeft b 30, c, d]
        | words => words)
      words
    (words.zip mixed).map fun (before, after) => short.word (before + after)
  let words := (filled 64 8 (bigEndian 8) octets).foldl
    (fun words block => mix words ((blocksOf 4 16 block).map ofBigEndian)) start
  words.flatMap (bigEndian 4)

/-- The constants of the digest of 128 bits: the first bits of the sines of the first numbers. -/
def sines : List Nat :=
  [0xd76aa478, 0xe8c7b756, 0x242070db, 0xc1bdceee, 0xf57c0faf, 0x4787c62a, 0xa8304613,
    0xfd469501, 0x698098d8, 0x8b44f7af, 0xffff5bb1, 0x895cd7be, 0x6b901122, 0xfd987193,
    0xa679438e, 0x49b40821, 0xf61e2562, 0xc040b340, 0x265e5a51, 0xe9b6c7aa, 0xd62f105d,
    0x02441453, 0xd8a1e681, 0xe7d3fbc8, 0x21e1cde6, 0xc33707d6, 0xf4d50d87, 0x455a14ed,
    0xa9e3e905, 0xfcefa3f8, 0x676f02d9, 0x8d2a4c8a, 0xfffa3942, 0x8771f681, 0x6d9d6122,
    0xfde5380c, 0xa4beea44, 0x4bdecfa9, 0xf6bb4b60, 0xbebfbc70, 0x289b7ec6, 0xeaa127fa,
    0xd4ef3085, 0x04881d05, 0xd9d4d039, 0xe6db99e5, 0x1fa27cf8, 0xc4ac5665, 0xf4292244,
    0x432aff97, 0xab9423a7, 0xfc93a039, 0x655b59c3, 0x8f0ccc92, 0xffeff47d, 0x85845dd1,
    0x6fa87e4f, 0xfe2ce6e0, 0xa3014314, 0x4e0811a1, 0xf7537e82, 0xbd3af235, 0x2ad7d2bb,
    0xeb86d391]

/-- The digest of 128 bits. -/
def md5 (octets : List Nat) : List Nat :=
  let start := [0x67452301, 0xefcdab89, 0x98badcfe, 0x10325476]
  let distances := [[7, 12, 17, 22], [5, 9, 14, 20], [4, 11, 16, 23], [6, 10, 15, 21]]
  let mix (words : List Nat) (block : List Nat) : List Nat :=
    let mixed := sines.zipIdx.foldl
      (fun (words : List Nat) (constant, round) =>
        match words with
        | [a, b, c, d] =>
          let (chosen, index) : Nat × Nat :=
            match round / 16 with
            | 0 => ((b &&& c) ||| (short.complement b &&& d), round)
            | 1 => ((d &&& b) ||| (short.complement d &&& c), 5 * round + 1)
            | 2 => (b ^^^ c ^^^ d, 3 * round + 5)
            | _ => (c ^^^ (b ||| short.complement d), 7 * round)
          let sum := short.word (a + chosen + constant + block.getD (index % 16) 0)
          let distance := (distances.getD (round / 16) []).getD (round % 4) 0
          [d, short.word (b + turnLeft sum distance), b, c]
        | words => words)
      words
    (words.zip mixed).map fun (before, after) => short.word (before + after)
  let littleEndian (count value : Nat) : List Nat := (bigEndian count value).reverse
  let words := (filled 64 8 (littleEndian 8) octets).foldl
    (fun words block =>
      mix words ((blocksOf 4 16 block).map fun octets => ofBigEndian octets.reverse)) start
  words.flatMap (littleEndian 4)

/-- The digits of octets. -/
def shown (octets : List Nat) : String :=
  String.join (octets.map fun octet => padStart 2 '0' (digitsOf 16 octet))

end Digest

end ManifestPin.Shell
