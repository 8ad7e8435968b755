import Mathlib.Data.List.Basic

/-!
# SHA-256

The digest over bytes, with words as natural numbers below `2 ^ 32`, and its
hexadecimal text.
-/

namespace Sha256

def roundConstants : List Nat :=
  [0x428a2f98, 0x71374491, 0xb5c0fbcf, 0xe9b5dba5, 0x3956c25b, 0x59f111f1,
    0x923f82a4, 0xab1c5ed5, 0xd807aa98, 0x12835b01, 0x243185be, 0x550c7dc3,
    0x72be5d74, 0x80deb1fe, 0x9bdc06a7, 0xc19bf174, 0xe49b69c1, 0xefbe4786,
    0x0fc19dc6, 0x240ca1cc, 0x2de92c6f, 0x4a7484aa, 0x5cb0a9dc, 0x76f988da,
    0x983e5152, 0xa831c66d, 0xb00327c8, 0xbf597fc7, 0xc6e00bf3, 0xd5a79147,
    0x06ca6351, 0x14292967, 0x27b70a85, 0x2e1b2138, 0x4d2c6dfc, 0x53380d13,
    0x650a7354, 0x766a0abb, 0x81c2c92e, 0x92722c85, 0xa2bfe8a1, 0xa81a664b,
    0xc24b8b70, 0xc76c51a3, 0xd192e819, 0xd6990624, 0xf40e3585, 0x106aa070,
    0x19a4c116, 0x1e376c08, 0x2748774c, 0x34b0bcb5, 0x391c0cb3, 0x4ed8aa4a,
    0x5b9cca4f, 0x682e6ff3, 0x748f82ee, 0x78a5636f, 0x84c87814, 0x8cc70208,
    0x90befffa, 0xa4506ceb, 0xbef9a3f7, 0xc67178f2]

/-- The working variables, and the chaining value between blocks. -/
structure Words where
  a : Nat
  b : Nat
  c : Nat
  d : Nat
  e : Nat
  f : Nat
  g : Nat
  h : Nat

def initialWords : Words :=
  { a := 0x6a09e667
    b := 0xbb67ae85
    c := 0x3c6ef372
    d := 0xa54ff53a
    e := 0x510e527f
    f := 0x9b05688c
    g := 0x1f83d9ab
    h := 0x5be0cd19 }

def wordOf (value : Nat) : Nat :=
  value % 0x100000000

def rotateRight (word count : Nat) : Nat :=
  wordOf ((word >>> count) ||| (word <<< (32 - count)))

def smallSigma0 (word : Nat) : Nat :=
  rotateRight word 7 ^^^ rotateRight word 18 ^^^ (word >>> 3)

def smallSigma1 (word : Nat) : Nat :=
  rotateRight word 17 ^^^ rotateRight word 19 ^^^ (word >>> 10)

def bigSigma0 (word : Nat) : Nat :=
  rotateRight word 2 ^^^ rotateRight word 13 ^^^ rotateRight word 22

def bigSigma1 (word : Nat) : Nat :=
  rotateRight word 6 ^^^ rotateRight word 11 ^^^ rotateRight word 25

def choose (e f g : Nat) : Nat :=
  (e &&& f) ^^^ ((0xffffffff ^^^ e) &&& g)

def majority (a b c : Nat) : Nat :=
  (a &&& b) ^^^ (a &&& c) ^^^ (b &&& c)

/-- The message schedule, the newest word first. -/
def extendSchedule : Nat → List Nat → List Nat
  | 0, words => words
  | rounds + 1, words =>
      extendSchedule rounds
        (wordOf (smallSigma1 (words.getD 1 0) + words.getD 6 0 +
          smallSigma0 (words.getD 14 0) + words.getD 15 0) :: words)

def round (words : Words) (step : Nat × Nat) : Words :=
  let first := words.h + bigSigma1 words.e + choose words.e words.f words.g +
    step.1 + step.2
  let second := bigSigma0 words.a + majority words.a words.b words.c
  { a := wordOf (first + second)
    b := words.a
    c := words.b
    d := words.c
    e := wordOf (words.d + first)
    f := words.e
    g := words.f
    h := words.g }

def Words.add (left right : Words) : Words :=
  { a := wordOf (left.a + right.a)
    b := wordOf (left.b + right.b)
    c := wordOf (left.c + right.c)
    d := wordOf (left.d + right.d)
    e := wordOf (left.e + right.e)
    f := wordOf (left.f + right.f)
    g := wordOf (left.g + right.g)
    h := wordOf (left.h + right.h) }

/-- Compress a block of sixteen words. -/
def compress (words : Words) (block : List Nat) : Words :=
  let schedule := (extendSchedule 48 block.reverse).reverse
  words.add ((roundConstants.zip schedule).foldl round words)

/-- The number with the given digits, the highest first. -/
def ofDigits (base : Nat) (digits : List Nat) : Nat :=
  digits.foldl (fun value digit => value * base + digit) 0

/-- The lowest `count` digits, the highest first. -/
def toDigits (base : Nat) : Nat → Nat → List Nat
  | 0, _ => []
  | count + 1, value => toDigits base count (value / base) ++ [value % base]

/-- Split off `count` pieces of the given size. -/
def chunks (size : Nat) : Nat → List Nat → List (List Nat)
  | 0, _ => []
  | count + 1, items => items.take size :: chunks size count (items.drop size)

def padded (bytes : List Nat) : List Nat :=
  bytes ++ 0x80 :: List.replicate ((119 - bytes.length % 64) % 64) 0 ++
    toDigits 256 8 (8 * bytes.length)

def digest (bytes : List Nat) : Words :=
  let message := padded bytes
  let words := (chunks 4 (message.length / 4) message).map (ofDigits 256)
  (chunks 16 (words.length / 16) words).foldl compress initialWords

def hexDigit (digit : Nat) : Char :=
  if digit < 10 then Char.ofNat (48 + digit) else Char.ofNat (87 + digit)

def Words.toList (words : Words) : List Nat :=
  [words.a, words.b, words.c, words.d, words.e, words.f, words.g, words.h]

def utf8Bytes (text : List Char) : List Nat :=
  (text.flatMap String.utf8EncodeChar).map UInt8.toNat

end Sha256

/-- The hexadecimal digest of a text in UTF-8. -/
def sha256Hex (text : List Char) : String :=
  String.ofList (((Sha256.digest (Sha256.utf8Bytes text)).toList.flatMap
    (Sha256.toDigits 16 8)).map Sha256.hexDigit)

theorem length_sha256Hex (text : List Char) : (sha256Hex text).toList.length = 64 := by
  simp [sha256Hex, Sha256.Words.toList, Sha256.toDigits]

/-- Every character of a digest is a digit or a letter up to `f`. -/
theorem mem_sha256Hex
    {text : List Char} {symbol : Char} (member : symbol ∈ (sha256Hex text).toList) :
    ∃ digit < 16, symbol = Sha256.hexDigit digit := by
  have small : ∀ count value, ∀ digit ∈ Sha256.toDigits 16 count value, digit < 16 := by
    intro count
    induction count with
    | zero => simp [Sha256.toDigits]
    | succ count induction =>
        intro value digit inside
        rcases List.mem_append.mp inside with earlier | last
        · exact induction _ _ earlier
        · rw [List.mem_singleton.mp last]
          exact Nat.mod_lt _ (by decide)
  simp only [sha256Hex, String.toList_ofList, List.mem_map, List.mem_flatMap] at member
  obtain ⟨digit, ⟨word, -, inside⟩, rfl⟩ := member
  exact ⟨digit, small _ _ _ inside, rfl⟩

example : sha256Hex ['a', 'b', 'c'] =
    "ba7816bf8f01cfea414140de5dae2223b00361a396177a9cb410ff61f20015ad" := by
  decide +kernel
