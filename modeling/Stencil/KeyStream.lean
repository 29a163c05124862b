namespace Stencil

/-- One row of the four-by-four state of a block. -/
structure Row where
  w0 : UInt32
  w1 : UInt32
  w2 : UInt32
  w3 : UInt32
deriving DecidableEq, Repr

namespace Row

def zipWith (f : UInt32 → UInt32 → UInt32) (r s : Row) : Row :=
  ⟨f r.w0 s.w0, f r.w1 s.w1, f r.w2 s.w2, f r.w3 s.w3⟩

def add : Row → Row → Row :=
  zipWith (· + ·)

def rotateBits (amount : UInt32) (w : UInt32) : UInt32 :=
  (w <<< amount) ||| (w >>> (32 - amount))

/-- Each word of the first row combined with the second one's and rotated to the left. -/
def mix (amount : UInt32) : Row → Row → Row :=
  zipWith fun v w => rotateBits amount (v ^^^ w)

def turn1 (r : Row) : Row := ⟨r.w1, r.w2, r.w3, r.w0⟩

def turn2 (r : Row) : Row := ⟨r.w2, r.w3, r.w0, r.w1⟩

def turn3 (r : Row) : Row := ⟨r.w3, r.w0, r.w1, r.w2⟩

def words (r : Row) : List UInt32 := [r.w0, r.w1, r.w2, r.w3]

end Row

/-- Sixteen words, row by row. -/
structure Block where
  a : Row
  b : Row
  c : Row
  d : Row
deriving DecidableEq, Repr

namespace Block

/-- The quarter round on all four columns at once. -/
def columnRound (s : Block) : Block :=
  let a := s.a.add s.b
  let d := s.d.mix 16 a
  let c := s.c.add d
  let b := s.b.mix 12 c
  let a := a.add b
  let d := d.mix 8 a
  let c := c.add d
  let b := b.mix 7 c
  ⟨a, b, c, d⟩

/-- The rows are turned so that the diagonals stand in columns, and back afterwards. -/
def doubleRound (s : Block) : Block :=
  let s := s.columnRound
  let s := (Block.mk s.a s.b.turn1 s.c.turn2 s.d.turn3).columnRound
  ⟨s.a, s.b.turn3, s.c.turn2, s.d.turn1⟩

def add (s t : Block) : Block :=
  ⟨s.a.add t.a, s.b.add t.b, s.c.add t.c, s.d.add t.d⟩

/-- Twelve rounds, and the sum of the mixed state and the one before mixing. -/
def scramble (s : Block) : Block :=
  s.add (Nat.repeat doubleRound 6 s)

def words (s : Block) : List UInt32 :=
  s.a.words ++ s.b.words ++ s.c.words ++ s.d.words

/-- All words of a block but the first. -/
def laterWords (s : Block) : List UInt32 :=
  [s.a.w1, s.a.w2, s.a.w3] ++ s.b.words ++ s.c.words ++ s.d.words

end Block

/-- The 256-bit key of a stream, as two rows. -/
structure StreamKey where
  low : Row
  high : Row
deriving DecidableEq, Repr

namespace StreamKey

/-- The four constant words at the head of every block. -/
def signature : Row :=
  ⟨0x61707865, 0x3320646e, 0x79622d32, 0x6b206574⟩

/-- The block with a number, the number standing in the first two words of the last row. -/
def block (key : StreamKey) (number : UInt64) : Block :=
  (Block.mk signature key.low key.high ⟨number.toUInt32, (number >>> 32).toUInt32, 0, 0⟩).scramble

/-- The words of the stream by position. -/
def word (key : StreamKey) (position : Nat) : UInt32 :=
  (key.block (UInt64.ofNat (position / 16))).words.getD (position % 16) 0

/-- One step of the generator that stretches a short seed. -/
def stretch (state : UInt64) : UInt64 × UInt32 :=
  let state := state * 6364136223846793005 + 11634580027462260723
  let mixed := (((state >>> 18) ^^^ state) >>> 27).toUInt32
  let turn := (state >>> 59).toUInt32
  (state, (mixed >>> turn) ||| (mixed <<< ((32 - turn) % 32)))

/-- A key of eight words drawn from a 64-bit seed. -/
def ofSeed (seed : UInt64) : StreamKey :=
  let (s, k0) := stretch seed
  let (s, k1) := stretch s
  let (s, k2) := stretch s
  let (s, k3) := stretch s
  let (s, k4) := stretch s
  let (s, k5) := stretch s
  let (s, k6) := stretch s
  let (_, k7) := stretch s
  ⟨⟨k0, k1, k2, k3⟩, ⟨k4, k5, k6, k7⟩⟩

end StreamKey

/-- A stream that is being read: what is left of the current block, and the number of the next. -/
structure KeyStream where
  key : StreamKey
  pending : List UInt32 := []
  nextBlock : UInt64 := 0
deriving DecidableEq, Repr

namespace KeyStream

def ofKey (key : StreamKey) : KeyStream where
  key := key

def next (stream : KeyStream) : UInt32 × KeyStream :=
  match stream.pending with
  | word :: rest => (word, { stream with pending := rest })
  | [] =>
    let block := stream.key.block stream.nextBlock
    (block.a.w0, ⟨stream.key, block.laterWords, stream.nextBlock + 1⟩)

/-- Two words at once, the low one drawn first. -/
def nextPair (stream : KeyStream) : UInt64 × KeyStream :=
  let (low, stream) := stream.next
  let (high, stream) := stream.next
  (low.toUInt64 ||| (high.toUInt64 <<< 32), stream)

/-- Whether the next word of a stream is the one at a position of its key's stream. -/
def At (stream : KeyStream) (position : Nat) : Prop :=
  stream.nextBlock = UInt64.ofNat ((position + 15) / 16) ∧
    stream.pending =
      if position % 16 = 0 then [] else (stream.key.block (UInt64.ofNat (position / 16))).words.drop (position % 16)

theorem at_ofKey (key : StreamKey) : (ofKey key).At 0 := ⟨rfl, rfl⟩

theorem key_next (stream : KeyStream) : stream.next.2.key = stream.key := by
  unfold next
  split <;> rfl

/-- Reading goes through the words in order, across the ends of blocks. -/
theorem At.next {stream : KeyStream} {position : Nat} (here : stream.At position) :
    stream.next.1 = stream.key.word position ∧ stream.next.2.At (position + 1) := by
  obtain ⟨number, pending⟩ := here
  by_cases atStart : position % 16 = 0
  · rw [if_pos atStart] at pending
    have numberEq : (position + 15) / 16 = position / 16 := by omega
    have nextEq : (position + 1 + 15) / 16 = position / 16 + 1 := by omega
    have within : (position + 1) / 16 = position / 16 := by omega
    have nextMod : (position + 1) % 16 = 1 := by omega
    rw [numberEq] at number
    simp only [KeyStream.next, pending, number, StreamKey.word, atStart, At, nextEq, nextMod, within]
    refine ⟨rfl, ?_, rfl⟩
    exact (UInt64.ofNat_add _ _).symm
  · rw [if_neg atStart] at pending
    have bound : position % 16 < 16 := Nat.mod_lt _ (by decide)
    have inBlock : position % 16 < (stream.key.block (UInt64.ofNat (position / 16))).words.length := bound
    rw [List.drop_eq_getElem_cons inBlock] at pending
    simp only [KeyStream.next, pending, StreamKey.word, At]
    refine ⟨?_, ?_, ?_⟩
    · rw [List.getD_eq_getElem?_getD, List.getElem?_eq_getElem inBlock]; rfl
    · rw [number]; congr 1; omega
    · by_cases atEnd : position % 16 = 15
      · rw [if_pos (by omega : (position + 1) % 16 = 0), atEnd]
        rfl
      · rw [if_neg (by omega : ¬ (position + 1) % 16 = 0),
          (by omega : (position + 1) / 16 = position / 16), (by omega : (position + 1) % 16 = position % 16 + 1)]

end Stencil.KeyStream
