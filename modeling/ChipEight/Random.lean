set_option autoImplicit false
set_option relaxedAutoImplicit false

/-!
# Random bytes

A source of random bytes is an endless stream and the position that has been reached in it, so a
run depends on chance only through the stream it is given.

## Main definitions

* `ChipEight.Random` — a stream of bytes and a position in it.
* `ChipEight.Random.next` — the next byte.
* `ChipEight.Random.cycling` — the stream that repeats a list of bytes.
* `ChipEight.Random.seeded` — a stream of well-mixed bytes for every seed.
-/

namespace ChipEight

/-- An endless stream of bytes, and how many of them have been drawn. -/
structure Random where
  /-- The bytes, in the order in which they are drawn. -/
  stream : Nat → UInt8
  /-- How many bytes have been drawn. -/
  position : Nat

namespace Random

/-- The next byte, and the source without it. -/
def next (random : Random) : UInt8 × Random :=
  (random.stream random.position, { random with position := random.position + 1 })

/-- The source that hands out a list of bytes in turn, again and again; zeros if the list is
empty. -/
def cycling (values : List UInt8) : Random where
  stream position := values.toArray[position % values.length]?.getD 0
  position := 0

/-- A number whose bits depend on all bits of the given one. -/
def mix (value : UInt64) : UInt64 :=
  let first := (value ^^^ (value >>> 30)) * 0xBF58476D1CE4E5B9
  let second := (first ^^^ (first >>> 27)) * 0x94D049BB133111EB
  second ^^^ (second >>> 31)

/-- The source whose bytes are mixed from a seed and their positions. -/
def seeded (seed : UInt64) : Random where
  stream position := (mix (seed + UInt64.ofNat (position + 1) * 0x9E3779B97F4A7C15) >>> 56).toUInt8
  position := 0

/-- The bounds of every draw so far: each draw is of any byte. -/
def draws (random : Random) : List (Nat × Nat) :=
  List.replicate random.position (0, 0xFF)

end Random

end ChipEight
