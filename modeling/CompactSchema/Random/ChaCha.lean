import CompactSchema.Random.Words

/-
The ChaCha stream of random words.

A key and a block number determine a block of sixteen words; the stream is the words
of the blocks in turn.  Twelve rounds are made, and the nonce is zero.  A seed is
spread over the eight words of the key.
-/

namespace CompactSchema

abbrev ChaChaBlock := Vector UInt32 16

namespace ChaChaBlock

def rotateLeft (x : UInt32) (n : UInt32) : UInt32 := x <<< n ||| x >>> (32 - n)

def quarterRound (a b c d : Fin 16) (block : ChaChaBlock) : ChaChaBlock :=
  let block := block.set a (block[a] + block[b])
  let block := block.set d (rotateLeft (block[d] ^^^ block[a]) 16)
  let block := block.set c (block[c] + block[d])
  let block := block.set b (rotateLeft (block[b] ^^^ block[c]) 12)
  let block := block.set a (block[a] + block[b])
  let block := block.set d (rotateLeft (block[d] ^^^ block[a]) 8)
  let block := block.set c (block[c] + block[d])
  block.set b (rotateLeft (block[b] ^^^ block[c]) 7)

def doubleRound (block : ChaChaBlock) : ChaChaBlock :=
  block
    |> quarterRound 0 4 8 12 |> quarterRound 1 5 9 13
    |> quarterRound 2 6 10 14 |> quarterRound 3 7 11 15
    |> quarterRound 0 5 10 15 |> quarterRound 1 6 11 12
    |> quarterRound 2 7 8 13 |> quarterRound 3 4 9 14

def doubleRounds : Nat → ChaChaBlock → ChaChaBlock
  | 0, block => block
  | n + 1, block => doubleRounds n (doubleRound block)

/-- The block before mixing: four constants, the key, the number of the block and the
zero nonce. -/
def start (key : Vector UInt32 8) (number : UInt64) : ChaChaBlock :=
  #v[0x61707865, 0x3320646e, 0x79622d32, 0x6b206574,
    key[0], key[1], key[2], key[3], key[4], key[5], key[6], key[7],
    number.toUInt32, (number >>> 32).toUInt32, 0, 0]

def ofKey (key : Vector UInt32 8) (number : UInt64) : ChaChaBlock :=
  let block := start key number
  Vector.zipWith (· + ·) (doubleRounds 6 block) block

end ChaChaBlock

/-- A place in a stream: the key, the words of the current block that have not been
drawn, and the number of the next block. -/
structure ChaChaStream where
  key : Vector UInt32 8
  rest : List UInt32
  next : UInt64

namespace ChaChaStream

/-- One step of the sequence that spreads a seed. -/
def spread (state : UInt64) : UInt64 := state * 6364136223846793005 + 11634580027462260723

def seedWord (state : UInt64) : UInt32 :=
  let word := (((state >>> 18) ^^^ state) >>> 27).toUInt32
  let turn := (state >>> 59).toUInt32
  word >>> turn ||| word <<< (32 - turn)

def spreadTimes : Nat → UInt64 → UInt64
  | 0, state => state
  | n + 1, state => spreadTimes n (spread state)

def ofSeed (seed : UInt64) : ChaChaStream where
  key := Vector.ofFn fun i => seedWord (spreadTimes (i + 1) seed)
  rest := []
  next := 0

def draw : StateM ChaChaStream UInt32 := fun stream =>
  match stream.rest with
  | word :: rest => (word, { stream with rest := rest })
  | [] =>
      let block := ChaChaBlock.ofKey stream.key stream.next
      (block[0], { stream with rest := block.toList.tail, next := stream.next + 1 })

/-- Draws two words, the low half first. -/
def drawPair : StateM ChaChaStream UInt64 := do
  let low ← draw
  let high ← draw
  return high.toUInt64 <<< 32 ||| low.toUInt64

def words : WordSource ChaChaStream where
  word32 := draw
  word64 := drawPair

end ChaChaStream
end CompactSchema
