/-
  DataProxy formalization — MD5 (RFC 1321), as the `md5` crate computes it, and
  its lowercase hex string (`hex::encode`): the checksum the chunk validator of
  the replication compares with the one a peer sends.

  * `md5`: the padded message in 64-byte blocks, 64 steps a block;
  * `md5Hex`: the sixteen bytes of the digest, two lowercase hex digits each.
-/
import Mathlib.Data.List.Basic

namespace DataProxy

/-- The shift of each of the 64 steps. -/
def md5Shifts : List ℕ :=
  [7, 12, 17, 22, 7, 12, 17, 22, 7, 12, 17, 22, 7, 12, 17, 22,
   5, 9, 14, 20, 5, 9, 14, 20, 5, 9, 14, 20, 5, 9, 14, 20,
   4, 11, 16, 23, 4, 11, 16, 23, 4, 11, 16, 23, 4, 11, 16, 23,
   6, 10, 15, 21, 6, 10, 15, 21, 6, 10, 15, 21, 6, 10, 15, 21]

/-- The constant of each step, `⌊2^32 |sin (i + 1)|⌋`. -/
def md5K : List UInt32 :=
  [0xd76aa478, 0xe8c7b756, 0x242070db, 0xc1bdceee, 0xf57c0faf, 0x4787c62a, 0xa8304613,
   0xfd469501, 0x698098d8, 0x8b44f7af, 0xffff5bb1, 0x895cd7be, 0x6b901122, 0xfd987193,
   0xa679438e, 0x49b40821, 0xf61e2562, 0xc040b340, 0x265e5a51, 0xe9b6c7aa, 0xd62f105d,
   0x02441453, 0xd8a1e681, 0xe7d3fbc8, 0x21e1cde6, 0xc33707d6, 0xf4d50d87, 0x455a14ed,
   0xa9e3e905, 0xfcefa3f8, 0x676f02d9, 0x8d2a4c8a, 0xfffa3942, 0x8771f681, 0x6d9d6122,
   0xfde5380c, 0xa4beea44, 0x4bdecfa9, 0xf6bb4b60, 0xbebfbc70, 0x289b7ec6, 0xeaa127fa,
   0xd4ef3085, 0x04881d05, 0xd9d4d039, 0xe6db99e5, 0x1fa27cf8, 0xc4ac5665, 0xf4292244,
   0x432aff97, 0xab9423a7, 0xfc93a039, 0x655b59c3, 0x8f0ccc92, 0xffeff47d, 0x85845dd1,
   0x6fa87e4f, 0xfe2ce6e0, 0xa3014314, 0x4e0811a1, 0xf7537e82, 0xbd3af235, 0x2ad7d2bb,
   0xeb86d391]

/-- The four state words `(a, b, c, d)`. -/
abbrev Md5State := UInt32 × UInt32 × UInt32 × UInt32

/-- Left rotation of a 32-bit word. -/
def rotl (x : UInt32) (c : ℕ) : UInt32 := (x <<< c.toUInt32) ||| (x >>> (32 - c).toUInt32)

/-- Step `i` of a block with the words `m`. -/
def md5Step (m : List UInt32) (s : Md5State) (i : ℕ) : Md5State :=
  let (a, b, c, d) := s
  let (f, g) :=
    if i < 16 then ((b &&& c) ||| (~~~b &&& d), i)
    else if i < 32 then ((d &&& b) ||| (~~~d &&& c), (5 * i + 1) % 16)
    else if i < 48 then (b ^^^ c ^^^ d, (3 * i + 5) % 16)
    else (c ^^^ (b ||| ~~~d), (7 * i) % 16)
  let f := f + a + md5K.getD i 0 + m.getD g 0
  (d, b + rotl f (md5Shifts.getD i 0), b, c)

/-- A little-endian 32-bit word from four bytes. -/
def le32 (bs : List UInt8) : UInt32 :=
  (bs.getD 0 0).toUInt32 ||| (bs.getD 1 0).toUInt32 <<< 8 |||
    (bs.getD 2 0).toUInt32 <<< 16 ||| (bs.getD 3 0).toUInt32 <<< 24

/-- The four bytes of a 32-bit word, little-endian. -/
def le32Bytes (w : UInt32) : List UInt8 :=
  [w.toUInt8, (w >>> 8).toUInt8, (w >>> 16).toUInt8, (w >>> 24).toUInt8]

/-- The message padded to whole blocks: `0x80`, zeros, and its length in bits. -/
def md5Pad (msg : List UInt8) : List UInt8 :=
  let bits := msg.length * 8
  msg ++ [(0x80 : UInt8)] ++ List.replicate ((119 - msg.length % 64) % 64) (0 : UInt8) ++
    (List.range 8).map fun j => UInt8.ofNat (bits >>> (8 * j))

/-- The 64-byte blocks of a padded message, within `fuel` blocks. -/
def md5Blocks : ℕ → List UInt8 → List (List UInt8)
  | 0, _ => []
  | fuel + 1, bs => if bs.isEmpty then [] else bs.take 64 :: md5Blocks fuel (bs.drop 64)

/-- One block added into the state. -/
def md5Block (h : Md5State) (block : List UInt8) : Md5State :=
  let m := (List.range 16).map fun j => le32 (block.drop (4 * j))
  let (a, b, c, d) := (List.range 64).foldl (md5Step m) h
  (h.1 + a, h.2.1 + b, h.2.2.1 + c, h.2.2.2 + d)

/-- `Md5::digest`: the 16 bytes of the final state. -/
def md5 (msg : List UInt8) : List UInt8 :=
  let padded := md5Pad msg
  let (a, b, c, d) := (md5Blocks padded.length padded).foldl md5Block
    (0x67452301, 0xefcdab89, 0x98badcfe, 0x10325476)
  le32Bytes a ++ le32Bytes b ++ le32Bytes c ++ le32Bytes d

/-- The lowercase hex digit of a value below 16. -/
def hexDigit (n : UInt8) : Char := Nat.digitChar n.toNat

/-- `hex::encode`: two lowercase hex digits a byte. -/
def hexEncode (bs : List UInt8) : String :=
  ⟨bs.flatMap fun b => [hexDigit (b >>> 4), hexDigit (b &&& 0xf)]⟩

/-- `hex::encode(Md5::digest(data))`. -/
def md5Hex (data : List UInt8) : String := hexEncode (md5 data)

end DataProxy
