/-
Random words. A seed is stretched to a key of eight words; the key and the number of a block make
the sixteen words of the block, by eight rounds of mixing; and the words of the blocks in order are
the stream that all random choices draw from.
-/

namespace Striker.Random

/-! ## Keys -/

/-- The bits of a word turned to the right. -/
def turnRight (x : UInt32) (n : UInt32) : UInt32 := (x >>> n) ||| (x <<< (32 - n))

/-- The bits of a word turned to the left. -/
def turnLeft (x : UInt32) (n : UInt32) : UInt32 := (x <<< n) ||| (x >>> (32 - n))

/-- The state that stretches a seed, one step on. -/
def stretch (s : UInt64) : UInt64 := s * 6364136223846793005 + 11634580027462260723

/-- The word that a state of stretching gives. -/
def stretched (s : UInt64) : UInt32 :=
  turnRight (((s >>> 18) ^^^ s) >>> 27).toUInt32 (s >>> 59).toUInt32

/-- The next `n` words that a seed is stretched to. -/
def keyWords : Nat → UInt64 → List UInt32
  | 0, _ => []
  | n + 1, s => stretched (stretch s) :: keyWords n (stretch s)

/-- The key of a seed. -/
def key (seed : UInt64) : List UInt32 := keyWords 8 seed

/-! ## Blocks -/

/-- Sixteen words. -/
abbrev Block := Vector UInt32 16

/-- Mixes four words of a block. -/
def mix (a b c d : Fin 16) (s : Block) : Block :=
  let s := s.set a (s[a] + s[b])
  let s := s.set d (turnLeft (s[d] ^^^ s[a]) 16)
  let s := s.set c (s[c] + s[d])
  let s := s.set b (turnLeft (s[b] ^^^ s[c]) 12)
  let s := s.set a (s[a] + s[b])
  let s := s.set d (turnLeft (s[d] ^^^ s[a]) 8)
  let s := s.set c (s[c] + s[d])
  s.set b (turnLeft (s[b] ^^^ s[c]) 7)

/-- Two rounds: the columns of a block, then its diagonals. -/
def twoRounds (s : Block) : Block :=
  let s := mix 0 4 8 12 s
  let s := mix 1 5 9 13 s
  let s := mix 2 6 10 14 s
  let s := mix 3 7 11 15 s
  let s := mix 0 5 10 15 s
  let s := mix 1 6 11 12 s
  let s := mix 2 7 8 13 s
  mix 3 4 9 14 s

/-- The block before it is mixed: four constants, the key, and the number of the block in two
words. -/
def plainBlock (key : List UInt32) (number : UInt64) : Block :=
  #v[0x61707865, 0x3320646e, 0x79622d32, 0x6b206574,
    key.getD 0 0, key.getD 1 0, key.getD 2 0, key.getD 3 0,
    key.getD 4 0, key.getD 5 0, key.getD 6 0, key.getD 7 0,
    number.toUInt32, (number >>> 32).toUInt32, 0, 0]

/-- A block of the stream: the mixed block and the plain one, added word by word. -/
def block (key : List UInt32) (number : UInt64) : List UInt32 :=
  let plain := plainBlock key number
  let mixed := twoRounds (twoRounds (twoRounds (twoRounds plain)))
  List.zipWith (· + ·) mixed.toList plain.toList

/-! ## The stream -/

/-- A place in the stream: the words left of a block, and the number of the next one. -/
structure Stream where
  key : List UInt32
  left : List UInt32
  next : UInt64
  deriving DecidableEq

namespace Stream

/-- The start of the stream of a seed. -/
def ofSeed (seed : UInt64) : Stream := ⟨Random.key seed, [], 0⟩

/-- The next word. -/
def word (s : Stream) : UInt32 × Stream :=
  match s.left with
  | w :: left => (w, { s with left })
  | [] => match block s.key s.next with
    | w :: left => (w, { s with left, next := s.next + 1 })
    | [] => (0, s)

/-- The next two words as one number, the low word first. -/
def word64 (s : Stream) : UInt64 × Stream :=
  let (low, s) := s.word
  let (high, s) := s.word
  (high.toUInt64 <<< 32 ||| low.toUInt64, s)

end Stream

end Striker.Random
