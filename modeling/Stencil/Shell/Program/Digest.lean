import Stencil.Shell.Program.Arguments

/-!
# Digests

Programs that print a short text for each of their operands, which another content would hardly
have.
-/

namespace Stencil.Shell.Digest

def bigBytes (count n : Nat) : List Nat :=
  (List.range count).map fun i => n / Nat.pow 256 (count - 1 - i) % 256

/-- The bytes of a text, filled up to blocks of 64 with the length in bits at the end. -/
def padded (little : Bool) (text : Octets) : List Nat :=
  let bytes := text.map Char.toNat
  let length := bigBytes 8 (8 * bytes.length)
  let zeros := (119 - bytes.length % 64) % 64
  bytes ++ 128 :: List.replicate zeros 0 ++ (if little then length.reverse else length)

def words (little : Bool) : (count : Nat) → List Nat → List UInt32
  | 0, _ => []
  | _, [] => []
  | count + 1, bs =>
    let four := bs.take 4
    let n := (if little then four.reverse else four).foldl (fun n b => n * 256 + b) 0
    UInt32.ofNat n :: words little count (bs.drop 4)

def blocks : (count : Nat) → List UInt32 → List (Array UInt32)
  | 0, _ => []
  | _, [] => []
  | count + 1, ws => (ws.take 16).toArray :: blocks count (ws.drop 16)

def blocksOf (little : Bool) (text : Octets) : List (Array UInt32) :=
  let ws := words little (text.length + 64) (padded little text)
  blocks ws.length ws

def rotateLeft (x : UInt32) (n : Nat) : UInt32 :=
  (x <<< UInt32.ofNat n) ||| (x >>> UInt32.ofNat (32 - n))

def rotateRight (x : UInt32) (n : Nat) : UInt32 :=
  rotateLeft x (32 - n)

def hex (little : Bool) (ws : List UInt32) : Octets :=
  ws.flatMap fun w =>
    let bytes := bigBytes 4 w.toNat
    (if little then bytes.reverse else bytes).flatMap fun b =>
      [Nat.digitChar (b / 16), Nat.digitChar (b % 16)]

/-! ## MD5 -/

def sines : Array UInt32 := #[
  0xd76aa478, 0xe8c7b756, 0x242070db, 0xc1bdceee, 0xf57c0faf, 0x4787c62a, 0xa8304613, 0xfd469501,
  0x698098d8, 0x8b44f7af, 0xffff5bb1, 0x895cd7be, 0x6b901122, 0xfd987193, 0xa679438e, 0x49b40821,
  0xf61e2562, 0xc040b340, 0x265e5a51, 0xe9b6c7aa, 0xd62f105d, 0x02441453, 0xd8a1e681, 0xe7d3fbc8,
  0x21e1cde6, 0xc33707d6, 0xf4d50d87, 0x455a14ed, 0xa9e3e905, 0xfcefa3f8, 0x676f02d9, 0x8d2a4c8a,
  0xfffa3942, 0x8771f681, 0x6d9d6122, 0xfde5380c, 0xa4beea44, 0x4bdecfa9, 0xf6bb4b60, 0xbebfbc70,
  0x289b7ec6, 0xeaa127fa, 0xd4ef3085, 0x04881d05, 0xd9d4d039, 0xe6db99e5, 0x1fa27cf8, 0xc4ac5665,
  0xf4292244, 0x432aff97, 0xab9423a7, 0xfc93a039, 0x655b59c3, 0x8f0ccc92, 0xffeff47d, 0x85845dd1,
  0x6fa87e4f, 0xfe2ce6e0, 0xa3014314, 0x4e0811a1, 0xf7537e82, 0xbd3af235, 0x2ad7d2bb, 0xeb86d391]

def shifts : Array Nat := #[7, 12, 17, 22, 5, 9, 14, 20, 4, 11, 16, 23, 6, 10, 15, 21]

structure Four where
  a : UInt32
  b : UInt32
  c : UInt32
  d : UInt32

def md5Step (block : Array UInt32) (s : Four) (i : Nat) : Four :=
  let (f, g) : UInt32 × Nat :=
    if i < 16 then ((s.b &&& s.c) ||| (~~~s.b &&& s.d), i)
    else if i < 32 then ((s.d &&& s.b) ||| (~~~s.d &&& s.c), (5 * i + 1) % 16)
    else if i < 48 then (s.b ^^^ s.c ^^^ s.d, (3 * i + 5) % 16)
    else (s.c ^^^ (s.b ||| ~~~s.d), (7 * i) % 16)
  let f := f + s.a + sines[i]?.getD 0 + block[g]?.getD 0
  ⟨s.d, s.b + rotateLeft f (shifts[i / 16 * 4 + i % 4]?.getD 0), s.b, s.c⟩

def md5 (text : Octets) : Octets :=
  let block (s : Four) (b : Array UInt32) : Four :=
    let t := (List.range 64).foldl (md5Step b) s
    ⟨s.a + t.a, s.b + t.b, s.c + t.c, s.d + t.d⟩
  let s := (blocksOf true text).foldl block ⟨0x67452301, 0xefcdab89, 0x98badcfe, 0x10325476⟩
  hex true [s.a, s.b, s.c, s.d]

/-! ## SHA-1 -/

structure Five extends Four where
  e : UInt32

def sha1Words (block : Array UInt32) : Array UInt32 :=
  (List.range' 16 64).foldl (fun w i =>
    let at' (k : Nat) : UInt32 := w[i - k]?.getD 0
    w.push (rotateLeft (at' 3 ^^^ at' 8 ^^^ at' 14 ^^^ at' 16) 1)) block

def sha1Step (ws : Array UInt32) (s : Five) (i : Nat) : Five :=
  let (f, k) : UInt32 × UInt32 :=
    if i < 20 then ((s.b &&& s.c) ||| (~~~s.b &&& s.d), 0x5a827999)
    else if i < 40 then (s.b ^^^ s.c ^^^ s.d, 0x6ed9eba1)
    else if i < 60 then ((s.b &&& s.c) ||| (s.b &&& s.d) ||| (s.c &&& s.d), 0x8f1bbcdc)
    else (s.b ^^^ s.c ^^^ s.d, 0xca62c1d6)
  let a := rotateLeft s.a 5 + f + s.e + k + ws[i]?.getD 0
  ⟨⟨a, s.a, rotateLeft s.b 30, s.c⟩, s.d⟩

def sha1 (text : Octets) : Octets :=
  let block (s : Five) (b : Array UInt32) : Five :=
    let t := (List.range 80).foldl (sha1Step (sha1Words b)) s
    ⟨⟨s.a + t.a, s.b + t.b, s.c + t.c, s.d + t.d⟩, s.e + t.e⟩
  let start : Five := ⟨⟨0x67452301, 0xefcdab89, 0x98badcfe, 0x10325476⟩, 0xc3d2e1f0⟩
  let s := (blocksOf false text).foldl block start
  hex false [s.a, s.b, s.c, s.d, s.e]

/-! ## SHA-256 -/

def roots : Array UInt32 := #[
  0x428a2f98, 0x71374491, 0xb5c0fbcf, 0xe9b5dba5, 0x3956c25b, 0x59f111f1, 0x923f82a4, 0xab1c5ed5,
  0xd807aa98, 0x12835b01, 0x243185be, 0x550c7dc3, 0x72be5d74, 0x80deb1fe, 0x9bdc06a7, 0xc19bf174,
  0xe49b69c1, 0xefbe4786, 0x0fc19dc6, 0x240ca1cc, 0x2de92c6f, 0x4a7484aa, 0x5cb0a9dc, 0x76f988da,
  0x983e5152, 0xa831c66d, 0xb00327c8, 0xbf597fc7, 0xc6e00bf3, 0xd5a79147, 0x06ca6351, 0x14292967,
  0x27b70a85, 0x2e1b2138, 0x4d2c6dfc, 0x53380d13, 0x650a7354, 0x766a0abb, 0x81c2c92e, 0x92722c85,
  0xa2bfe8a1, 0xa81a664b, 0xc24b8b70, 0xc76c51a3, 0xd192e819, 0xd6990624, 0xf40e3585, 0x106aa070,
  0x19a4c116, 0x1e376c08, 0x2748774c, 0x34b0bcb5, 0x391c0cb3, 0x4ed8aa4a, 0x5b9cca4f, 0x682e6ff3,
  0x748f82ee, 0x78a5636f, 0x84c87814, 0x8cc70208, 0x90befffa, 0xa4506ceb, 0xbef9a3f7, 0xc67178f2]

def sha256Words (block : Array UInt32) : Array UInt32 :=
  (List.range' 16 48).foldl (fun w i =>
    let at' (k : Nat) : UInt32 := w[i - k]?.getD 0
    let (x, y) := (at' 15, at' 2)
    let s := rotateRight x 7 ^^^ rotateRight x 18 ^^^ (x >>> 3)
    let t := rotateRight y 17 ^^^ rotateRight y 19 ^^^ (y >>> 10)
    w.push (at' 16 + s + at' 7 + t)) block

structure Eight where
  left : Four
  right : Four

def sha256Step (ws : Array UInt32) (s : Eight) (i : Nat) : Eight :=
  let (l, r) := (s.left, s.right)
  let e := r.a
  let sum := rotateRight e 6 ^^^ rotateRight e 11 ^^^ rotateRight e 25
  let choice := (e &&& r.b) ^^^ (~~~e &&& r.c)
  let x := r.d + sum + choice + roots[i]?.getD 0 + ws[i]?.getD 0
  let other := rotateRight l.a 2 ^^^ rotateRight l.a 13 ^^^ rotateRight l.a 22
  let most := (l.a &&& l.b) ^^^ (l.a &&& l.c) ^^^ (l.b &&& l.c)
  ⟨⟨x + other + most, l.a, l.b, l.c⟩, ⟨l.d + x, r.a, r.b, r.c⟩⟩

def sha256 (text : Octets) : Octets :=
  let add (s t : Four) : Four := ⟨s.a + t.a, s.b + t.b, s.c + t.c, s.d + t.d⟩
  let block (s : Eight) (b : Array UInt32) : Eight :=
    let t := (List.range 64).foldl (sha256Step (sha256Words b)) s
    ⟨add s.left t.left, add s.right t.right⟩
  let start : Eight :=
    ⟨⟨0x6a09e667, 0xbb67ae85, 0x3c6ef372, 0xa54ff53a⟩, ⟨0x510e527f, 0x9b05688c, 0x1f83d9ab, 0x5be0cd19⟩⟩
  let s := (blocksOf false text).foldl block start
  hex false [s.left.a, s.left.b, s.left.c, s.left.d, s.right.a, s.right.b, s.right.c, s.right.d]

end Stencil.Shell.Digest

namespace Stencil.Shell.Program

def digest (name : String) (f : Octets → Octets) : Program := withOptions name
    { plain := "bt", long := [("binary", 'b'), ("text", 't')] } 1 fun a => do
  let found ← readOperands a.operands
  let step (fine : Bool) (file : Octets × Except IoError Octets) : Act Bool := do
    match file.2 with
    | .ok text =>
      Act.printLine (f text ++ (if a.has 'b' then " *" else "  ").toList ++ file.1)
      return fine
    | .error e =>
      complain name (plainly file.1 e)
      return false
  return .exited (if ← found.foldlM step true then 0 else 1)

end Stencil.Shell.Program
