import DebugCatalog.Text.Digits

/-!
# SHA-256

The digest of a byte sequence, as sixty-four hexadecimal digits.  The message is
padded to whole blocks of sixty-four bytes and folded through the compression
function one block at a time.
-/

namespace DebugCatalog.Image.Digest

def roundConstants : Array UInt32 :=
  #[0x428a2f98, 0x71374491, 0xb5c0fbcf, 0xe9b5dba5, 0x3956c25b, 0x59f111f1, 0x923f82a4, 0xab1c5ed5,
    0xd807aa98, 0x12835b01, 0x243185be, 0x550c7dc3, 0x72be5d74, 0x80deb1fe, 0x9bdc06a7, 0xc19bf174,
    0xe49b69c1, 0xefbe4786, 0x0fc19dc6, 0x240ca1cc, 0x2de92c6f, 0x4a7484aa, 0x5cb0a9dc, 0x76f988da,
    0x983e5152, 0xa831c66d, 0xb00327c8, 0xbf597fc7, 0xc6e00bf3, 0xd5a79147, 0x06ca6351, 0x14292967,
    0x27b70a85, 0x2e1b2138, 0x4d2c6dfc, 0x53380d13, 0x650a7354, 0x766a0abb, 0x81c2c92e, 0x92722c85,
    0xa2bfe8a1, 0xa81a664b, 0xc24b8b70, 0xc76c51a3, 0xd192e819, 0xd6990624, 0xf40e3585, 0x106aa070,
    0x19a4c116, 0x1e376c08, 0x2748774c, 0x34b0bcb5, 0x391c0cb3, 0x4ed8aa4a, 0x5b9cca4f, 0x682e6ff3,
    0x748f82ee, 0x78a5636f, 0x84c87814, 0x8cc70208, 0x90befffa, 0xa4506ceb, 0xbef9a3f7, 0xc67178f2]

/-- The eight words that are carried from block to block. -/
structure State where
  a : UInt32
  b : UInt32
  c : UInt32
  d : UInt32
  e : UInt32
  f : UInt32
  g : UInt32
  h : UInt32

def State.initial : State :=
  ⟨0x6a09e667, 0xbb67ae85, 0x3c6ef372, 0xa54ff53a, 0x510e527f, 0x9b05688c, 0x1f83d9ab, 0x5be0cd19⟩

def State.add (s t : State) : State :=
  ⟨s.a + t.a, s.b + t.b, s.c + t.c, s.d + t.d, s.e + t.e, s.f + t.f, s.g + t.g, s.h + t.h⟩

def rotate (x : UInt32) (n : UInt32) : UInt32 :=
  (x >>> n) ||| (x <<< (32 - n))

/-- The sixty-four words of a block: sixteen from the message, the others from
four earlier ones each. -/
def schedule (block : Array UInt32) : Array UInt32 :=
  (List.range 48).foldl (fun w i =>
    let w15 := w.getD (i + 1) 0
    let w2 := w.getD (i + 14) 0
    let s0 := rotate w15 7 ^^^ rotate w15 18 ^^^ (w15 >>> 3)
    let s1 := rotate w2 17 ^^^ rotate w2 19 ^^^ (w2 >>> 10)
    w.push (w.getD i 0 + s0 + w.getD (i + 9) 0 + s1)) block

def round (s : State) (constant word : UInt32) : State :=
  let s1 := rotate s.e 6 ^^^ rotate s.e 11 ^^^ rotate s.e 25
  let choice := (s.e &&& s.f) ^^^ ((~~~s.e) &&& s.g)
  let t1 := s.h + s1 + choice + constant + word
  let s0 := rotate s.a 2 ^^^ rotate s.a 13 ^^^ rotate s.a 22
  let majority := (s.a &&& s.b) ^^^ (s.a &&& s.c) ^^^ (s.b &&& s.c)
  ⟨t1 + s0 + majority, s.a, s.b, s.c, s.d + t1, s.e, s.f, s.g⟩

def compress (s : State) (block : Array UInt32) : State :=
  let w := schedule block
  s.add ((List.range 64).foldl (fun t i => round t (roundConstants.getD i 0) (w.getD i 0)) s)

/-- The message, a set bit, zeros up to eight bytes before the end of a block,
and the length in bits. -/
def pad (bytes : ByteArray) : ByteArray :=
  let zeros := (119 - bytes.size % 64) % 64
  let length := bytes.size * 8
  let start := (List.replicate zeros (0 : UInt8)).foldl ByteArray.push (bytes.push 0x80)
  (List.range 8).foldl (fun b i => b.push (UInt8.ofNat (length >>> (8 * (7 - i))))) start

/-- The big-endian word at an offset. -/
def wordAt (bytes : ByteArray) (offset : Nat) : UInt32 :=
  (List.range 4).foldl (fun w i => w <<< 8 ||| (bytes[offset + i]?.getD 0).toUInt32) 0

def block (bytes : ByteArray) (offset : Nat) : Array UInt32 :=
  ((List.range 16).map fun i => wordAt bytes (offset + 4 * i)).toArray

def digest (bytes : ByteArray) : State :=
  let padded := pad bytes
  (List.range (padded.size / 64)).foldl (fun s i => compress s (block padded (64 * i))) .initial

def State.hex (s : State) : String :=
  String.ofList ([s.a, s.b, s.c, s.d, s.e, s.f, s.g, s.h].flatMap fun w =>
    Text.hexPadded 8 w.toNat)

def sha256 (bytes : ByteArray) : String :=
  (digest bytes).hex

end DebugCatalog.Image.Digest
