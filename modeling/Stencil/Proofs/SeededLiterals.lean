import Mathlib
import Stencil.Constants

-- All of Mathlib is imported, as no part of it brings what is known of numbers that are read back from
-- their texts (`Int.toInt?_repr`).

namespace Stencil

/-- Two words side by side, the low one first, as one number. -/
theorem toNat_pair (low high : UInt32) :
    (low.toUInt64 ||| (high.toUInt64 <<< 32)).toNat = low.toNat + 2 ^ 32 * high.toNat := by
  have lowBound := low.toNat_lt
  have highBound := high.toNat_lt
  have shifted : (high.toUInt64.toNat <<< (UInt64.toNat 32 % 64)) % 2 ^ 64 = high.toNat <<< 32 := by
    rw [UInt32.toNat_toUInt64, show UInt64.toNat 32 % 64 = 32 from rfl, Nat.shiftLeft_eq]
    omega
  rw [UInt64.toNat_or, UInt64.toNat_shiftLeft, shifted, UInt32.toNat_toUInt64, Nat.or_comm,
    ← Nat.shiftLeft_add_eq_or_of_lt lowBound, Nat.shiftLeft_eq]
  omega

theorem toInt_toInt64 (number : UInt64) : number.toInt64.toInt = Int.bmod number.toNat (2 ^ 64) :=
  BitVec.toInt_eq_toNat_bmod _

theorem toInt_toInt32 (number : UInt32) : number.toInt32.toInt = Int.bmod number.toNat (2 ^ 32) :=
  BitVec.toInt_eq_toNat_bmod _

namespace KeyStream

variable {stream : KeyStream} {position : Nat}

theorem key_nextPair (stream : KeyStream) : stream.nextPair.2.key = stream.key := by
  rw [nextPair, key_next, key_next]

/-- Two words are drawn in order, wherever the block that is being read ends. -/
theorem At.nextPair (here : stream.At position) :
    stream.nextPair.1.toNat =
        (stream.key.word position).toNat + 2 ^ 32 * (stream.key.word (position + 1)).toNat ∧
      stream.nextPair.2.At (position + 2) := by
  obtain ⟨low, between⟩ := here.next
  obtain ⟨high, after⟩ := between.next
  rw [key_next] at high
  refine ⟨?_, after⟩
  rw [KeyStream.nextPair, toNat_pair, low, high]

end KeyStream

namespace Constants

/-- A call that draws a literal. -/
inductive Draw where
  | serialVersionUid
  | hashMagic
deriving DecidableEq, Repr

namespace Draw

/-- How many words a call takes from the stream. -/
def words : Draw → Nat
  | serialVersionUid => 2
  | hashMagic => 1

/-- The position that a run of calls comes to. -/
def position (draws : List Draw) : Nat :=
  2 * draws.count serialVersionUid + draws.count hashMagic

theorem position_cons (draw : Draw) (draws : List Draw) :
    position (draw :: draws) = draw.words + position draws := by
  cases draw <;> simp [position, words] <;> omega

/-- The words that a call finds at a position, as one number with the low word first. -/
def unsignedAt (word : Nat → UInt32) (position : Nat) : Draw → Nat
  | serialVersionUid => (word position).toNat + 2 ^ 32 * (word (position + 1)).toNat
  | hashMagic => (word position).toNat

/-- The same number in two's complement. -/
def numberAt (word : Nat → UInt32) (position : Nat) (draw : Draw) : Int :=
  Int.bmod (draw.unsignedAt word position) (2 ^ (32 * draw.words))

theorem numberAt_serialVersionUid (word : Nat → UInt32) (position : Nat) :
    serialVersionUid.numberAt word position =
      Int.bmod ((word position).toNat + 2 ^ 32 * (word (position + 1)).toNat : Nat) (2 ^ 64) := by
  rw [numberAt, words, unsignedAt]

theorem numberAt_hashMagic (word : Nat → UInt32) (position : Nat) :
    hashMagic.numberAt word position = Int.bmod (word position).toNat (2 ^ 32) := by
  rw [numberAt, words, unsignedAt]

/-- A number as a literal. -/
def literal (number : Int) : Draw → String
  | serialVersionUid => toString number ++ "L"
  | hashMagic => toString number

/-- The number that a literal stands for. -/
def value? : Draw → String → Option Int
  | serialVersionUid, literal =>
    if literal.toList.getLast? = some 'L' then (String.ofList literal.toList.dropLast).toInt? else none
  | hashMagic, literal => literal.toInt?

/-- The words that a literal was made of, the low one first. -/
def words? (draw : Draw) (literal : String) : Option (List UInt32) :=
  (draw.value? literal).map fun value =>
    (List.range draw.words).map fun i => UInt32.ofInt (value / 2 ^ (32 * i))

theorem value?_literal (draw : Draw) (number : Int) : draw.value? (draw.literal number) = some number := by
  cases draw with
  | hashMagic => exact Int.toInt?_repr number
  | serialVersionUid => simp [value?, literal]

/-- A number has its sign in the highest of its bits. -/
theorem numberAt_bounds (draw : Draw) (word : Nat → UInt32) (position : Nat) :
    -(2 ^ (32 * draw.words - 1) : Int) ≤ draw.numberAt word position ∧
      draw.numberAt word position < 2 ^ (32 * draw.words - 1) := by
  have positive : 0 < 2 ^ (32 * draw.words) := Nat.two_pow_pos _
  have lower := Int.le_bmod (x := draw.unsignedAt word position) positive
  have upper := Int.bmod_lt (x := draw.unsignedAt word position) positive
  rw [← numberAt] at lower upper
  cases draw with
  | serialVersionUid =>
    rw [words] at lower upper ⊢
    omega
  | hashMagic =>
    rw [words] at lower upper ⊢
    omega

theorem ofInt_eq {number : Int} {word : UInt32} (same : number % 2 ^ 32 = word.toNat) :
    UInt32.ofInt number = word := by
  rw [UInt32.ofInt, same, Int.toNat_natCast, UInt32.ofNat_toNat]

/-- The words of a number at a position are those that stand there. -/
theorem words?_literal (draw : Draw) (word : Nat → UInt32) (position : Nat) :
    draw.words? (draw.literal (draw.numberAt word position)) =
      some ((List.range' position draw.words).map word) := by
  have remainder := Int.bmod_emod (x := draw.unsignedAt word position) (m := 2 ^ (32 * draw.words))
  rw [← numberAt] at remainder
  have lowBound := (word position).toNat_lt
  have highBound := (word (position + 1)).toNat_lt
  rw [words?, value?_literal, Option.map_some]
  cases draw with
  | serialVersionUid =>
    rw [words, unsignedAt] at remainder
    have low : UInt32.ofInt (serialVersionUid.numberAt word position / 2 ^ (32 * 0)) = word position :=
      ofInt_eq (by omega)
    have high : UInt32.ofInt (serialVersionUid.numberAt word position / 2 ^ (32 * 1)) = word (position + 1) :=
      ofInt_eq (by omega)
    simp only [words, List.range', List.range, List.range.loop, List.map_cons, List.map_nil, low, high]
  | hashMagic =>
    rw [words, unsignedAt] at remainder
    have only : UInt32.ofInt (hashMagic.numberAt word position / 2 ^ (32 * 0)) = word position :=
      ofInt_eq (by omega)
    simp only [words, List.range', List.range, List.range.loop, List.map_cons, List.map_nil, only]

end Draw

variable {constants : Constants} {position : Nat}

/-- The literal of a call, and the source after it. -/
def draw (constants : Constants) : Draw → String × Constants
  | .serialVersionUid => constants.nextSerialVersionUid
  | .hashMagic => constants.nextHashMagic

/-- The source after calls in an order. -/
def drawAll (constants : Constants) (draws : List Draw) : Constants :=
  draws.foldl (fun constants draw => (constants.draw draw).2) constants

/-- The words that calls have used, read back from their literals. -/
def usedWords? (constants : Constants) : List Draw → Option (List UInt32)
  | [] => some []
  | draw :: draws => do
    let (literal, constants) := constants.draw draw
    return (← draw.words? literal) ++ (← constants.usedWords? draws)

theorem draw_of_at (here : constants.stream.At position) (draw : Draw) :
    (constants.draw draw).1 = draw.literal (draw.numberAt constants.stream.key.word position) ∧
      (constants.draw draw).2.stream.key = constants.stream.key ∧
      (constants.draw draw).2.stream.At (position + draw.words) := by
  cases draw with
  | serialVersionUid =>
    obtain ⟨drawn, after⟩ := here.nextPair
    refine ⟨?_, constants.stream.key_nextPair, after⟩
    have number : constants.stream.nextPair.1.toInt64.toInt =
        Draw.serialVersionUid.numberAt constants.stream.key.word position := by
      rw [toInt_toInt64, drawn, Draw.numberAt_serialVersionUid]
    rw [draw, nextSerialVersionUid_eq, number, Draw.literal]
  | hashMagic =>
    obtain ⟨drawn, after⟩ := here.next
    refine ⟨?_, constants.stream.key_next, after⟩
    have number : constants.stream.next.1.toInt32.toInt =
        Draw.hashMagic.numberAt constants.stream.key.word position := by
      rw [toInt_toInt32, drawn, Draw.numberAt_hashMagic]
    rw [draw, nextHashMagic_eq, number, Draw.literal]

/-- A run of calls goes on where the one before it has stopped. -/
theorem drawAll_of_at (here : constants.stream.At position) (draws : List Draw) :
    (constants.drawAll draws).stream.key = constants.stream.key ∧
      (constants.drawAll draws).stream.At (position + Draw.position draws) := by
  induction draws generalizing constants position with
  | nil => exact ⟨rfl, here⟩
  | cons draw draws ih =>
    obtain ⟨_, sameKey, after⟩ := draw_of_at here draw
    obtain ⟨key, there⟩ := ih after
    refine ⟨key.trans sameKey, ?_⟩
    rw [Draw.position_cons, ← Nat.add_assoc]
    exact there

theorem usedWords?_of_at (here : constants.stream.At position) (draws : List Draw) :
    constants.usedWords? draws =
      some ((List.range' position (Draw.position draws)).map constants.stream.key.word) := by
  induction draws generalizing constants position with
  | nil => rfl
  | cons draw draws ih =>
    obtain ⟨literal, sameKey, after⟩ := draw_of_at here draw
    have rest := ih after
    rw [sameKey] at rest
    simp only [usedWords?, literal, Draw.words?_literal, rest, Option.bind_eq_bind, Option.bind_some,
      Option.pure_def]
    -- The words of this call end where those of the others begin.
    rw [Draw.position_cons, ← List.range'_append_1, List.map_append]

/-- The literals of a seed are read off the words of its stream, one call after the other: each of
them begins where the one before it has ended, whatever was drawn before. A literal tells its number,
the number is one of its type, and from the literals that were drawn the words of the stream come
back, all of them in their order and each of them once. -/
theorem literals_by_word_position (seed : Int64) (draws : List Draw) :
    let word := (StreamKey.ofSeed seed.toUInt64).word
    let constants := (ofSeed seed).drawAll draws
    let position := 2 * draws.count .serialVersionUid + draws.count .hashMagic
    let uid := Int.bmod ((word position).toNat + 2 ^ 32 * (word (position + 1)).toNat : Nat) (2 ^ 64)
    let magic := Int.bmod (word position).toNat (2 ^ 32)
    constants.stream.key = StreamKey.ofSeed seed.toUInt64 ∧ constants.stream.At position ∧
    constants.nextSerialVersionUid.1 = toString uid ++ "L" ∧
    constants.nextHashMagic.1 = toString magic ∧
    Draw.serialVersionUid.value? constants.nextSerialVersionUid.1 = some uid ∧
    -(2 ^ 63) ≤ uid ∧ uid < 2 ^ 63 ∧
    Draw.hashMagic.value? constants.nextHashMagic.1 = some magic ∧
    -(2 ^ 31) ≤ magic ∧ magic < 2 ^ 31 ∧
    (ofSeed seed).usedWords? draws = some ((List.range position).map word) := by
  intro word constants position uid magic
  have start : (ofSeed seed).stream.At 0 := KeyStream.at_ofKey _
  obtain ⟨key, here⟩ := drawAll_of_at start draws
  rw [Nat.zero_add] at here
  have uidEq : uid = Draw.serialVersionUid.numberAt word position :=
    (Draw.numberAt_serialVersionUid word position).symm
  have magicEq : magic = Draw.hashMagic.numberAt word position :=
    (Draw.numberAt_hashMagic word position).symm
  have literal (draw : Draw) : (constants.draw draw).1 = draw.literal (draw.numberAt word position) := by
    rw [(draw_of_at here draw).1, key]
    rfl
  have uidLiteral : constants.nextSerialVersionUid.1 = Draw.serialVersionUid.literal uid := by
    rw [uidEq]
    exact literal .serialVersionUid
  have magicLiteral : constants.nextHashMagic.1 = Draw.hashMagic.literal magic := by
    rw [magicEq]
    exact literal .hashMagic
  obtain ⟨uidLower, uidUpper⟩ := Draw.serialVersionUid.numberAt_bounds word position
  obtain ⟨magicLower, magicUpper⟩ := Draw.hashMagic.numberAt_bounds word position
  rw [← uidEq, Draw.words] at uidLower uidUpper
  rw [← magicEq, Draw.words] at magicLower magicUpper
  refine ⟨key, here, ?_, ?_, ?_, uidLower, uidUpper, ?_, magicLower, magicUpper, ?_⟩
  · rw [uidLiteral, Draw.literal]
  · rw [magicLiteral, Draw.literal]
  · rw [uidLiteral, Draw.value?_literal]
  · rw [magicLiteral, Draw.value?_literal]
  · rw [usedWords?_of_at start draws, List.range_eq_range']
    rfl

/-- The sixth number that is drawn in turn with hashes begins in the last word of a block. -/
example : ((ofSeed (-977415259)).drawAll
    (List.replicate 5 [.serialVersionUid, .hashMagic]).flatten).nextSerialVersionUid.1 =
      "1438555895581509395L" := by
  decide +kernel

end Constants

end Stencil
