/-!
# Random words

A stream of words in which no word can be told from those before it by simple means: the multiples
of an odd constant, with their bits mixed.
-/

namespace MetricBench.Number

/-- Mixes the bits of a word.  Every step can be undone, so that different words stay different. -/
def mixWord (word : UInt64) : UInt64 :=
  let word := (word ^^^ (word >>> 30)) * 0xBF58476D1CE4E5B9
  let word := (word ^^^ (word >>> 27)) * 0x94D049BB133111EB
  word ^^^ (word >>> 31)

/-- The word at a place of the stream with the given seed. -/
def randomWord (seed : UInt64) (index : Nat) : UInt64 :=
  mixWord (seed + (UInt64.ofNat (index + 1)) * 0x9E3779B97F4A7C15)

end MetricBench.Number
