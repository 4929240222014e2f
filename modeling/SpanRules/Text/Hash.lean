import SpanRules.Text.Id

/-! # A folding hash

The program identifies texts by a hash that multiplies words of their bytes and folds the products
into a word of 64 bits. Different texts can have the same hash.
-/

namespace SpanRules.Hashing

/-- A word of bytes, the lowest one first. -/
def wordOf (bytes : List UInt8) : UInt64 :=
  bytes.foldr (fun b word => word * 256 + b.toUInt64) 0

/-- The product of two words with its upper half folded onto the lower one. -/
def foldedProduct (a b : UInt64) : UInt64 :=
  let product := a.toNat * b.toNat
  .ofNat product ^^^ .ofNat (product >>> 64)

/-- A pair of words that bytes are mixed into. -/
structure Mixture where
  first : UInt64
  second : UInt64

namespace Mixture

/-- The words to start from. -/
def seed : Mixture :=
  ⟨0x243f6a8885a308d3, 0x13198a2e03707344⟩

/-- Puts words over those of the mixture. -/
def cover (m : Mixture) (a b : UInt64) : Mixture :=
  ⟨m.first ^^^ a, m.second ^^^ b⟩

/-- Keeps a product of nothing from wiping out a block. -/
def guard : UInt64 :=
  0xa4093822299f31d0

/-- Mixes in blocks of sixteen bytes. -/
def absorb (m : Mixture) : Nat → List UInt8 → Mixture
  | 0, _ => m
  | rounds + 1, bytes =>
    let a := wordOf (bytes.take 8)
    let b := wordOf ((bytes.drop 8).take 8)
    absorb ⟨m.second, foldedProduct (m.first ^^^ a) (guard ^^^ b)⟩ rounds (bytes.drop 16)

/-- Mixes in all bytes. Up to sixteen of them are covered from both ends; of more, those in front
of the last sixteen are absorbed before. -/
def ofBytes (bytes : List UInt8) : Mixture :=
  let size := bytes.length
  if 16 < size then
    let m := seed.absorb ((size - 1) / 16) bytes
    let last := bytes.drop (size - 16)
    m.cover (wordOf (last.take 8)) (wordOf (last.drop 8))
  else if 8 ≤ size then
    seed.cover (wordOf (bytes.take 8)) (wordOf (bytes.drop (size - 8)))
  else if 4 ≤ size then
    seed.cover (wordOf (bytes.take 4)) (wordOf (bytes.drop (size - 4)))
  else
    seed.cover (wordOf (bytes.take 1))
      (wordOf (((bytes.drop (size / 2)).take 1) ++ bytes.drop (size - 1)))

end Mixture

/-- The factor that spreads a hash over the word. -/
def spread : UInt64 :=
  0xf1357aea2e62a9c5

/-- The hash of bytes. -/
def hashBytes (bytes : List UInt8) : UInt64 :=
  let m := Mixture.ofBytes bytes
  let hash := (foldedProduct m.first m.second ^^^ .ofNat bytes.length) * spread
  hash <<< 26 ||| hash >>> 38

/-- The folding hash of the bytes of a text. -/
@[reducible] def folded : Hashing where
  hash text := (hashBytes (text.toList.flatMap String.utf8EncodeChar)).toNat

end SpanRules.Hashing
