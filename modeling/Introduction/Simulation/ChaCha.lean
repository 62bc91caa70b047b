import Introduction.Bytes

/-!
# A stream of random words

The simulation draws from the ChaCha stream with eight rounds. A block of the stream is computed
from sixteen words in four rows: a constant row, two rows of key, and a row with the block counter.
A double round mixes the columns and then the diagonals; the diagonals are the columns once the
rows are rotated against each other. Eight rounds are four double rounds.

The key of a seed is expanded word by word with a linear congruential sequence. Words are used in
order, block after block, and byte strings take whole words.
-/

-- powers of numbers are those of the core library
attribute [local instance (high)] instPowNat

namespace Introduction.Simulation

/-- Four words. -/
structure Row where
  w₀ : UInt32
  w₁ : UInt32
  w₂ : UInt32
  w₃ : UInt32
  deriving DecidableEq, Repr

namespace Row

/-- Combines two rows word by word. -/
def zipWith (f : UInt32 → UInt32 → UInt32) (a b : Row) : Row :=
  ⟨f a.w₀ b.w₀, f a.w₁ b.w₁, f a.w₂ b.w₂, f a.w₃ b.w₃⟩

/-- Applies a function to every word. -/
def map (f : UInt32 → UInt32) (a : Row) : Row := ⟨f a.w₀, f a.w₁, f a.w₂, f a.w₃⟩

/-- Moves every word one place to the front, the first one to the end. -/
def rotate (a : Row) : Row := ⟨a.w₁, a.w₂, a.w₃, a.w₀⟩

/-- The words in order. -/
def toList (a : Row) : List UInt32 := [a.w₀, a.w₁, a.w₂, a.w₃]

end Row

/-- Rotates a word to the left by `n` bits, for `n` between 1 and 31. -/
def rotateLeft (n x : UInt32) : UInt32 := (x <<< n) ||| (x >>> (32 - n))

/-- The sixteen words of a block. -/
structure Block where
  a : Row
  b : Row
  c : Row
  d : Row
  deriving DecidableEq, Repr

namespace Block

/-- The quarter round on all four columns. -/
def mixColumns (s : Block) : Block :=
  let a := s.a.zipWith (· + ·) s.b
  let d := (s.d.zipWith (· ^^^ ·) a).map (rotateLeft 16)
  let c := s.c.zipWith (· + ·) d
  let b := (s.b.zipWith (· ^^^ ·) c).map (rotateLeft 12)
  let a := a.zipWith (· + ·) b
  let d := (d.zipWith (· ^^^ ·) a).map (rotateLeft 8)
  let c := c.zipWith (· + ·) d
  let b := (b.zipWith (· ^^^ ·) c).map (rotateLeft 7)
  ⟨a, b, c, d⟩

/-- Turns diagonals into columns. -/
def rotateRows (s : Block) : Block :=
  ⟨s.a, s.b.rotate, s.c.rotate.rotate, s.d.rotate.rotate.rotate⟩

/-- Turns columns back into diagonals. -/
def unrotateRows (s : Block) : Block :=
  ⟨s.a, s.b.rotate.rotate.rotate, s.c.rotate.rotate, s.d.rotate⟩

/-- Mixes the columns and then the diagonals. -/
def doubleRound (s : Block) : Block := s.mixColumns.rotateRows.mixColumns.unrotateRows

/-- Adds two blocks word by word. -/
def add (s t : Block) : Block :=
  ⟨s.a.zipWith (· + ·) t.a, s.b.zipWith (· + ·) t.b, s.c.zipWith (· + ·) t.c,
    s.d.zipWith (· + ·) t.d⟩

/-- The words in order. -/
def toList (s : Block) : List UInt32 := s.a.toList ++ s.b.toList ++ s.c.toList ++ s.d.toList

/-- The block of the stream that is computed from a starting block. -/
def stream (s : Block) : List UInt32 :=
  (s.doubleRound.doubleRound.doubleRound.doubleRound.add s).toList

end Block

/-- A position in the stream of a key. -/
structure Generator where
  /-- The first half of the key. -/
  key₁ : Row
  /-- The second half of the key. -/
  key₂ : Row
  /-- The number of the next block. -/
  counter : UInt64 := 0
  /-- Words of the current block that have not been used. -/
  pending : List UInt32 := []
  deriving DecidableEq, Repr

namespace Generator

/-- The next state of the sequence that expands a seed. -/
def expand (s : UInt64) : UInt64 := s * 6364136223846793005 + 11634580027462260723

/-- The key word of a state of the sequence that expands a seed. -/
def keyWord (s : UInt64) : UInt32 :=
  let word := (((s >>> 18) ^^^ s) >>> 27).toUInt32
  let turn := (s >>> 59).toUInt32
  (word >>> turn) ||| (word <<< (32 - turn))

/-- Four key words, and the state of the sequence after them. -/
def keyRow (s : UInt64) : Row × UInt64 :=
  let s₀ := expand s
  let s₁ := expand s₀
  let s₂ := expand s₁
  let s₃ := expand s₂
  (⟨keyWord s₀, keyWord s₁, keyWord s₂, keyWord s₃⟩, s₃)

/-- The start of the stream of a seed. -/
def ofSeed (seed : UInt64) : Generator :=
  let (key₁, s) := keyRow seed
  let (key₂, _) := keyRow s
  { key₁, key₂ }

/-- The words of the block with the number of the counter. -/
def block (g : Generator) : List UInt32 :=
  Block.stream
    ⟨⟨0x61707865, 0x3320646e, 0x79622d32, 0x6b206574⟩, g.key₁, g.key₂,
      ⟨g.counter.toUInt32, (g.counter >>> 32).toUInt32, 0, 0⟩⟩

/-- The next word of 32 bits. -/
def word (g : Generator) : UInt32 × Generator :=
  match g.pending with
  | w :: pending => (w, { g with pending })
  | [] =>
    match g.block with
    | [] => (0, { g with counter := g.counter + 1 })
    | w :: pending => (w, { g with counter := g.counter + 1, pending })

/-- The next word of 64 bits: two of 32 bits, the low half first. -/
def word64 (g : Generator) : UInt64 × Generator :=
  let (low, g) := g.word
  let (high, g) := g.word
  (low.toUInt64 ||| (high.toUInt64 <<< 32), g)

/-- The octets of a word, least significant first. -/
def octets (w : UInt32) : Bytes :=
  [w.toUInt8, (w >>> 8).toUInt8, (w >>> 16).toUInt8, (w >>> 24).toUInt8]

/-- The next `n` words as octets. -/
def wordBytes : Nat → Generator → Bytes × Generator
  | 0, g => ([], g)
  | n + 1, g =>
    let (w, g) := g.word
    let (rest, g) := wordBytes n g
    (octets w ++ rest, g)

/-- The next `n` octets. What is left of the last word is not used. -/
def bytes (n : Nat) (g : Generator) : Bytes × Generator :=
  let (content, g) := wordBytes ((n + 3) / 4) g
  (content.take n, g)

theorem length_wordBytes (n : Nat) (g : Generator) : (wordBytes n g).1.length = 4 * n := by
  induction n generalizing g with
  | zero => rfl
  | succ n ih => simp [wordBytes, octets, ih]; omega

theorem length_bytes (n : Nat) (g : Generator) : (bytes n g).1.length = n := by
  simp [bytes, length_wordBytes]; omega

/-- Draws until the low half of the product with `n` is within the zone in which every result is
equally likely, and gives the high half. After `tries` draws outside the zone the next draw
counts. -/
def pickWithin (n zone : Nat) : (tries : Nat) → Generator → Nat × Generator
  | 0, g =>
    let (v, g) := g.word64
    (v.toNat * n / 2 ^ 64, g)
  | tries + 1, g =>
    let (v, next) := g.word64
    if v.toNat * n % 2 ^ 64 ≤ zone then (v.toNat * n / 2 ^ 64, next)
    else pickWithin n zone tries next

/-- A number below `n`, each equally likely, for `n` up to `2 ^ 64 - 1`. More than half of all
draws are within the zone. -/
def pick (n : Nat) (g : Generator) : Nat × Generator :=
  pickWithin n (n * 2 ^ (63 - n.log2) - 1) 1024 g

theorem pickWithin_lt {n : Nat} (h : 0 < n) (zone tries : Nat) (g : Generator) :
    (pickWithin n zone tries g).1 < n := by
  have key : ∀ v : UInt64, v.toNat * n / 2 ^ 64 < n := fun v => by
    apply Nat.div_lt_of_lt_mul
    exact Nat.mul_lt_mul_of_pos_right v.toNat_lt h
  induction tries generalizing g with
  | zero => exact key _
  | succ tries ih =>
    unfold pickWithin
    dsimp only
    split
    · exact key _
    · exact ih _

theorem pick_lt {n : Nat} (h : 0 < n) (g : Generator) : (pick n g).1 < n :=
  pickWithin_lt h _ _ g

end Generator

end Introduction.Simulation
