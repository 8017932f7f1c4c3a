import LeaseQueue.Number.Binary

/-!
Random draws. A source is a list of words to begin with, continued by a counter whose every state is scrambled; it
counts the words taken. Draws from a range reject the words that would favour some of its numbers.
-/
namespace LeaseQueue

structure RandomSource where
  /-- Words that come first. -/
  words : List UInt64
  /-- The counter behind the words that follow. -/
  state : UInt64
  draws : Nat
deriving DecidableEq, Repr

namespace RandomSource

def ofSeed (words : List UInt64) (seed : UInt64) : RandomSource := ⟨words, seed, 0⟩

/-- A permutation of the words that hides the order of the counter. -/
def scramble (word : UInt64) : UInt64 :=
  let first := (word ^^^ (word >>> 30)) * 0xBF58476D1CE4E5B9
  let second := (first ^^^ (first >>> 27)) * 0x94D049BB133111EB
  second ^^^ (second >>> 31)

def next (source : RandomSource) : UInt64 × RandomSource :=
  match source.words with
  | word :: rest => (word, { source with words := rest, draws := source.draws + 1 })
  | [] =>
    let state := source.state + 0x9E3779B97F4A7C15
    (scramble state, { source with state := state, draws := source.draws + 1 })

/-- The words of `width` bits that are kept: those whose multiple by `count` has a low part up to this bound. -/
def zone (width count : Nat) : Nat := count * Nat.pow 2 (width - (Nat.log2 count + 1)) - 1

/-- Draws a number below `count`, taking at most `tries` words. -/
def belowWithin (width count : Nat) : Nat → RandomSource → Nat × RandomSource
  | 0, source => (0, source)
  | tries + 1, source =>
    let (word, rest) := source.next
    let multiple := (word.toNat % Nat.pow 2 width) * count
    if multiple % Nat.pow 2 width ≤ zone width count then (multiple / Nat.pow 2 width, rest)
    else belowWithin width count tries rest

/-- Draws a number below `count` from words of `width` bits. The counter passes through all words in `2 ^ 64` steps
and zero is always kept, so the tries suffice. -/
def below (width count : Nat) (source : RandomSource) : Nat × RandomSource :=
  belowWithin width count (source.words.length + UInt64.size) source

/-- As many draws, one after the other. -/
def times {α : Type} (draw : RandomSource → α × RandomSource) : Nat → RandomSource → List α × RandomSource
  | 0, source => ([], source)
  | count + 1, source =>
    let (drawn, source) := draw source
    let (rest, source) := times draw count source
    (drawn :: rest, source)

/-- Picks an element; an empty list takes no word. -/
def choose? {α : Type} (items : List α) (source : RandomSource) : Option α × RandomSource :=
  if items.isEmpty then (none, source)
  else
    let (index, rest) := source.below 32 items.length
    (items[index]?, rest)

/-- A number from 0 up to but not including 100: 52 bits of a word as a fraction, times 100. -/
def percent (source : RandomSource) : Double × RandomSource :=
  let (word, rest) := source.next
  (Binary.ofRatio false ((word >>> 12).toNat * 100) (Nat.pow 2 52), rest)

end RandomSource

end LeaseQueue
