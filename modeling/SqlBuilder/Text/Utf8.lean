import SqlBuilder.Text.CodeRanges

/-! # UTF-8 as ranges of bytes

A range of characters is the union of sequences of byte ranges: the encodings of its characters are
just the strings of bytes that take one byte from each range of some sequence.  To that end a range
is cut where the number of bytes changes and where a byte that is not the first starts anew. -/

namespace SqlBuilder.Text

/-- The bytes from one to another. -/
structure ByteRange where
  /-- The first byte. -/
  first : UInt8
  /-- The last byte. -/
  last : UInt8
deriving Repr, DecidableEq

/-- The code points of characters, in blocks of which the encodings have the same length. -/
def utf8Blocks : List (Nat × Nat) :=
  [(0x0, 0x7F), (0x80, 0x7FF), (0x800, 0xD7FF), (0xE000, 0xFFFF), (0x10000, 0x10FFFF)]

/-- The common code points of two ranges. -/
def overlap (a b : Nat × Nat) : CodeRanges :=
  if max a.1 b.1 ≤ min a.2 b.2 then [(max a.1 b.1, min a.2 b.2)] else []

/-- Cut a range so that every piece that does not lie within one stretch of a size fills whole
stretches.  The sizes are in ascending order, and each is a multiple of the one before it. -/
def alignedPieces : List Nat → Nat → Nat → CodeRanges
  | [], first, last => [(first, last)]
  | size :: larger, first, last =>
    if first / size = last / size then alignedPieces larger first last
    else
      let start := (first + size - 1) / size * size
      let stop := (last + 1) / size * size
      let head := if first < start then [(first, start - 1)] else []
      let middle := if start < stop then alignedPieces larger start (stop - 1) else []
      let tail := if stop ≤ last then [(stop, last)] else []
      head ++ middle ++ tail

/-- The byte ranges between two encodings of the same length. -/
def byteRanges (range : Nat × Nat) : List ByteRange :=
  List.zipWith ByteRange.mk (String.utf8EncodeChar (Char.ofNat range.1))
    (String.utf8EncodeChar (Char.ofNat range.2))

/-- The sequences of byte ranges for a block of characters: those of ASCII have one byte. -/
def blockSequences (range : Nat × Nat) : List (List ByteRange) :=
  if range.2 < 0x80 then [byteRanges range]
  else (alignedPieces [0x40, 0x1000, 0x40000] range.1 range.2).map byteRanges

/-- The sequences of byte ranges of a set of characters, in ascending order. -/
def utf8Sequences (set : CodeRanges) : List (List ByteRange) :=
  set.flatMap fun range =>
    (utf8Blocks.flatMap fun block => overlap range block).flatMap blockSequences

@[simp] theorem utf8Sequences_nil : utf8Sequences [] = [] := rfl

end SqlBuilder.Text
