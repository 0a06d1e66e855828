/-!
# Fingerprints

The 160-bit secure hash over bytes.  The padded message is a list of words,
taken sixteen at a time; each block is stretched to eighty words, and eighty
rounds carry the chaining value past it.
-/

namespace SchemaEvolution.Digest

structure Chain where
  a : UInt32
  b : UInt32
  c : UInt32
  d : UInt32
  e : UInt32
  deriving DecidableEq

def initial : Chain :=
  ⟨0x67452301, 0xEFCDAB89, 0x98BADCFE, 0x10325476, 0xC3D2E1F0⟩

def turn (distance word : UInt32) : UInt32 :=
  (word <<< distance) ||| (word >>> (32 - distance))

def mixture (chain : Chain) (round : Nat) : UInt32 :=
  if round < 20 then (chain.b &&& chain.c) ||| (chain.b.complement &&& chain.d)
  else if round < 40 then chain.b ^^^ chain.c ^^^ chain.d
  else if round < 60 then
    (chain.b &&& chain.c) ||| (chain.b &&& chain.d) ||| (chain.c &&& chain.d)
  else chain.b ^^^ chain.c ^^^ chain.d

def constant (round : Nat) : UInt32 :=
  if round < 20 then 0x5A827999
  else if round < 40 then 0x6ED9EBA1
  else if round < 60 then 0x8F1BBCDC
  else 0xCA62C1D6

/-- The words of a block, latest first, after the given number of further words. -/
def stretch : Nat → List UInt32 → List UInt32
  | 0, recent => recent
  | count + 1, recent =>
      stretch count
        (turn 1 (recent.getD 2 0 ^^^ recent.getD 7 0 ^^^ recent.getD 13 0 ^^^
          recent.getD 15 0) :: recent)

def step (chain : Chain) (round : Nat) (word : UInt32) : Chain :=
  ⟨turn 5 chain.a + mixture chain round + chain.e + constant round + word,
    chain.a, turn 30 chain.b, chain.c, chain.d⟩

def rounds (chain : Chain) : Nat → List UInt32 → Chain
  | _, [] => chain
  | round, word :: rest => rounds (step chain round word) (round + 1) rest

def absorb (chain : Chain) (block : List UInt32) : Chain :=
  let final := rounds chain 0 (stretch 64 block.reverse).reverse
  ⟨chain.a + final.a, chain.b + final.b, chain.c + final.c, chain.d + final.d,
    chain.e + final.e⟩

def wordsOf : List UInt8 → List UInt32
  | first :: second :: third :: fourth :: rest =>
      ((first.toUInt32 <<< 24) ||| (second.toUInt32 <<< 16) ||| (third.toUInt32 <<< 8) |||
        fourth.toUInt32) :: wordsOf rest
  | _ => []

def absorbAll (chain : Chain) (words : List UInt32) : Chain :=
  match words with
  | [] => chain
  | first :: rest => absorbAll (absorb chain ((first :: rest).take 16)) (rest.drop 15)
termination_by words.length
decreasing_by simp only [List.length_drop, List.length_cons]; omega

/-- Big-endian bytes of a number, the given number of them. -/
def bytesOf : Nat → Nat → List UInt8
  | 0, _ => []
  | count + 1, value => UInt8.ofNat (value >>> (8 * count)) :: bytesOf count value

/-- The message, a one bit, zeros up to eight bytes before a whole block, and
the length of the message in bits. -/
def padded (message : List UInt8) : List UInt8 :=
  message ++ 0x80 :: List.replicate ((119 - message.length % 64) % 64) 0 ++
    bytesOf 8 (8 * message.length)

def hexDigits (word : UInt32) : List Char :=
  (bytesOf 4 word.toNat).flatMap fun byte =>
    [Nat.digitChar (byte.toNat / 16), Nat.digitChar (byte.toNat % 16)]

theorem length_hexDigits (word : UInt32) : (hexDigits word).length = 8 := rfl

/-- The fingerprint as forty lower-case hexadecimal digits. -/
def fingerprint (message : List UInt8) : String :=
  let final := absorbAll initial (wordsOf (padded message))
  String.ofList ([final.a, final.b, final.c, final.d, final.e].flatMap hexDigits)

theorem length_fingerprint (message : List UInt8) : (fingerprint message).length = 40 := by
  simp [fingerprint, length_hexDigits]

theorem exists_digitChar_of_mem_fingerprint {message : List UInt8} {symbol : Char}
    (member : symbol ∈ (fingerprint message).toList) :
    ∃ digit < 16, symbol = Nat.digitChar digit := by
  unfold fingerprint at member
  rw [String.toList_ofList] at member
  obtain ⟨word, _, among⟩ := List.mem_flatMap.1 member
  obtain ⟨byte, _, digit⟩ := List.mem_flatMap.1 among
  have bounded := byte.toNat_lt
  rcases List.mem_cons.1 digit with high | low
  · exact ⟨_, by omega, high⟩
  · exact ⟨_, by omega, List.mem_singleton.1 low⟩

def ofText (text : String) : String :=
  fingerprint text.toUTF8.toList

end SchemaEvolution.Digest
