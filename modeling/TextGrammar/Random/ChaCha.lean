import TextGrammar.Random.Words

set_option autoImplicit false

namespace TextGrammar.ChaCha

def rotateLeft (word : UInt32) (count : UInt32) : UInt32 :=
  (word <<< count) ||| (word >>> (32 - count))

abbrev Block := Vector UInt32 16

def quarterRound (block : Block) (i j k l : Fin 16) : Block :=
  let a := block[i] + block[j]
  let d := rotateLeft (block[l] ^^^ a) 16
  let c := block[k] + d
  let b := rotateLeft (block[j] ^^^ c) 12
  let a := a + b
  let d := rotateLeft (d ^^^ a) 8
  let c := c + d
  let b := rotateLeft (b ^^^ c) 7
  (((block.set i a).set j b).set k c).set l d

def doubleRound (block : Block) : Block :=
  let block := quarterRound block 0 4 8 12
  let block := quarterRound block 1 5 9 13
  let block := quarterRound block 2 6 10 14
  let block := quarterRound block 3 7 11 15
  let block := quarterRound block 0 5 10 15
  let block := quarterRound block 1 6 11 12
  let block := quarterRound block 2 7 8 13
  quarterRound block 3 4 9 14

def doubleRounds : Nat → Block → Block
  | 0, block => block
  | count + 1, block => doubleRounds count (doubleRound block)

abbrev Key := Vector UInt32 8

-- The block before any round: four constants, the key, the block's number and a zero nonce.
def initial (key : Key) (number : UInt64) : Block :=
  #v[0x61707865, 0x3320646e, 0x79622d32, 0x6b206574,
    key[0], key[1], key[2], key[3], key[4], key[5], key[6], key[7],
    number.toUInt32, (number >>> 32).toUInt32, 0, 0]

def block (key : Key) (number : UInt64) : Block :=
  let start := initial key number
  Vector.zipWith (· + ·) (doubleRounds 4 start) start

def spread (state : UInt64) : UInt32 × UInt64 :=
  let state := state * 6364136223846793005 + 11634580027462260723
  let word := (((state >>> 18) ^^^ state) >>> 27).toUInt32
  let turn := (state >>> 59).toUInt32
  ((word >>> turn) ||| (word <<< ((32 - turn) &&& 31)), state)

def keyWords : Nat → UInt64 → List UInt32
  | 0, _ => []
  | count + 1, state =>
      let (word, state) := spread state
      word :: keyWords count state

def keyOfSeed (seed : UInt64) : Key :=
  let words := keyWords 8 seed
  Vector.ofFn fun index => words.getD index 0

-- The stream in words of 64 bits, each made of two words of the stream, the low half first.
def words (key : Key) : Words := fun index =>
  let block := block key (UInt64.ofNat (index / 8))
  let half := Fin.ofNat 16 (2 * (index % 8))
  block[half].toUInt64 ||| (block[half + 1].toUInt64 <<< 32)

end TextGrammar.ChaCha

namespace TextGrammar

def Words.seeded (seed : UInt64) : Words :=
  let key := ChaCha.keyOfSeed seed
  fun index => ChaCha.words key index

end TextGrammar
