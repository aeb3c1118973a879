/-!
# Keccak-256

The sponge with a state of 25 lanes of 64 bits, 24 rounds, a rate of 136 bytes, and the padding
that sets one bit after the message and one at the end of the block.

## Main definitions

* `Keccak.permute` — the 24 rounds;
* `keccak256` — the 32 bytes of a message's digest.
-/

namespace AddressTrace.Digest

namespace Keccak

/-- **The state**: lane `x + 5 * y` is the lane in column `x` and row `y`. -/
abbrev State := Vector UInt64 25

/-- The constants mixed into the first lane, one for each round. -/
def roundConstants : List UInt64 :=
  [0x0000000000000001, 0x0000000000008082, 0x800000000000808A, 0x8000000080008000,
    0x000000000000808B, 0x0000000080000001, 0x8000000080008081, 0x8000000000008009,
    0x000000000000008A, 0x0000000000000088, 0x0000000080008009, 0x000000008000000A,
    0x000000008000808B, 0x800000000000008B, 0x8000000000008089, 0x8000000000008003,
    0x8000000000008002, 0x8000000000000080, 0x000000000000800A, 0x800000008000000A,
    0x8000000080008081, 0x8000000000008080, 0x0000000080000001, 0x8000000080008008]

/-- How far each lane is rotated. -/
def rotations : Vector UInt64 25 :=
  #v[0, 1, 62, 28, 27, 36, 44, 6, 55, 20, 3, 10, 43, 25, 39, 41, 45, 15, 21, 8, 18, 2, 61, 56, 14]

/-- Rotation towards the high bits by less than 64 places. -/
def rotate (lane places : UInt64) : UInt64 :=
  if places = 0 then lane else (lane <<< places) ||| (lane >>> (64 - places))

/-- The lane in column `x` and row `y`, both taken modulo five. -/
def lane (a : State) (x y : Nat) : UInt64 :=
  a.get ⟨x % 5 + 5 * (y % 5), by omega⟩

/-- Each lane is mixed with the parities of the two neighbouring columns. -/
def mixColumns (a : State) : State :=
  let parity : Vector UInt64 5 := Vector.ofFn fun x =>
    lane a x 0 ^^^ lane a x 1 ^^^ lane a x 2 ^^^ lane a x 3 ^^^ lane a x 4
  let column (x : Nat) : UInt64 := parity.get ⟨x % 5, by omega⟩
  Vector.ofFn fun i => a[i] ^^^ column (i + 4) ^^^ rotate (column (i + 1)) 1

/-- Each lane is rotated by its own amount and moved to its new place. -/
def spread (a : State) : State :=
  Vector.ofFn fun i =>
    let column := i.val % 5
    let row := i.val / 5
    let x := (column + 3 * row) % 5
    rotate (lane a x column) (lane rotations x column)

/-- Each lane is mixed with the next two of its row. -/
def mixRows (a : State) : State :=
  Vector.ofFn fun i =>
    let x := i.val % 5
    let y := i.val / 5
    lane a x y ^^^ (~~~(lane a (x + 1) y) &&& lane a (x + 2) y)

/-- One round. -/
def round (a : State) (constant : UInt64) : State :=
  let b := mixRows (spread (mixColumns a))
  b.set 0 (b[0] ^^^ constant)

/-- **The permutation**: the rounds with their constants in order. -/
def permute (a : State) : State :=
  roundConstants.foldl round a

/-- The number of message bytes that one block takes in. -/
def rate : Nat := 136

/-- The 64 bits of eight bytes, the lowest byte first. -/
def wordOf (bytes : List UInt8) : UInt64 :=
  bytes.foldr (fun b w => (w <<< 8) ||| b.toUInt64) 0

/-- The eight bytes of 64 bits, the lowest byte first. -/
def bytesOf (w : UInt64) : List UInt8 :=
  (List.range 8).map fun i => (w >>> (8 * UInt64.ofNat i)).toUInt8

/-- Mixes one block into the state and permutes it. -/
def absorb (a : State) (block : List UInt8) : State :=
  permute (Vector.ofFn fun i =>
    if i.val < rate / 8 then a[i] ^^^ wordOf ((block.drop (8 * i)).take 8) else a[i])

/-- A last block filled up to the rate: a one after the message and a one at the very end. -/
def pad (tail : List UInt8) : List UInt8 :=
  let free := rate - tail.length
  if free ≤ 1 then tail ++ [0x81]
  else tail ++ [0x01] ++ List.replicate (free - 2) 0 ++ [0x80]

/-- Absorbs the message block by block; `blocks` counts the full blocks that are left. -/
def absorbAll (a : State) : Nat → List UInt8 → State
  | 0, tail => absorb a (pad tail)
  | blocks + 1, message => absorbAll (absorb a (message.take rate)) blocks (message.drop rate)

end Keccak

/-- **The digest of a message**, 32 bytes. -/
def keccak256 (message : List UInt8) : List UInt8 :=
  let final := Keccak.absorbAll (Vector.replicate 25 0) (message.length / Keccak.rate) message
  ((List.range 4).flatMap fun i => Keccak.bytesOf (Keccak.lane final i 0))

end AddressTrace.Digest
