/-
# Zip files

The bytes of an archive are a record for each entry, a directory and an end record.
Numbers are written with their lowest byte first.

| part | holds |
| --- | --- |
| entry | signature, form, checksum, sizes, name, packed text |
| directory | for each entry signature, form, checksum, sizes, place of the entry, name |
| end | signature, count of entries, size and place of the directory |

Texts are packed as blocks that hold their bytes as they are, so that every reader of
the compressed form gets them back.
-/

import Pagewright.Archive

namespace Pagewright
namespace Archive
namespace Zip

/-- A number in a width of bytes. -/
def number (width value : Nat) : List UInt8 :=
  (List.range width).map fun i => (value >>> (8 * i)).toUInt8

/-- Numbers in their widths, one after the other. -/
def numbers (fields : List (Nat × Nat)) : List UInt8 :=
  fields.flatMap fun f => number f.1 f.2

/-- The bytes of a text. -/
def bytes (s : String) : List UInt8 := s.toUTF8.data.toList

/-- The remainder of a division by the checksum's polynomial after further bits. -/
def reduce (crc : UInt32) : Nat → UInt32
  | 0 => crc
  | n + 1 => reduce (if crc &&& 1 = 1 then (crc >>> 1) ^^^ 0xEDB88320 else crc >>> 1) n

/-- The checksum of bytes. -/
def checksum (data : List UInt8) : UInt32 :=
  data.foldl (fun crc b => reduce (crc ^^^ b.toUInt32) 8) 0xFFFFFFFF ^^^ 0xFFFFFFFF

/-- The most bytes that a block can hold. -/
def blockSize : Nat := 65535

/-- A block that holds bytes as they are. -/
def block (isLast : Bool) (data : List UInt8) : List UInt8 :=
  numbers [(1, if isLast then 1 else 0), (2, data.length), (2, blockSize - data.length)] ++ data

/-- Bytes packed into blocks. -/
def packed (data : List UInt8) : List UInt8 :=
  if data.length ≤ blockSize then block true data
  else block false (data.take blockSize) ++ packed (data.drop blockSize)
termination_by data.length
decreasing_by
  simp only [List.length_drop, blockSize] at *
  omega

/-- What an entry and its place in the directory have in common: version 2.0, a name
in UTF-8, the deflate method, the first of January 1980, checksum, sizes and the length
of the name. -/
def form (name text : List UInt8) : List (Nat × Nat) := [
  (2, 20), (2, 0x0800), (2, 8), (2, 0), (2, 0x0021), (4, (checksum text).toNat),
  (4, (packed text).length), (4, text.length), (2, name.length), (2, 0)]

/-- The record of an entry. -/
def entry (name text : List UInt8) : List UInt8 :=
  numbers ((4, 0x04034B50) :: form name text) ++ name ++ packed text

/-- The place of an entry in the directory. -/
def listing (place : Nat) (name text : List UInt8) : List UInt8 :=
  numbers ([(4, 0x02014B50), (2, 20)] ++ form name text ++
    [(2, 0), (2, 0), (2, 0), (4, 0), (4, place)]) ++ name

/-- The end record. -/
def ending (count size place : Nat) : List UInt8 :=
  numbers [(4, 0x06054B50), (2, 0), (2, 0), (2, count), (2, count), (4, size), (4, place), (2, 0)]

/-- The records of entries. -/
def records (entries : List (String × String)) : List UInt8 :=
  entries.flatMap fun e => entry (bytes e.1) (bytes e.2)

/-- The directory of entries whose records begin at a place. -/
def directory (place : Nat) : List (String × String) → List UInt8
  | [] => []
  | e :: rest =>
    listing place (bytes e.1) (bytes e.2) ++
      directory (place + (entry (bytes e.1) (bytes e.2)).length) rest

/-- The file of entries. -/
def file (entries : List (String × String)) : List UInt8 :=
  let body := records entries
  let list := directory 0 entries
  body ++ list ++ ending entries.length list.length body.length

end Zip
end Archive
end Pagewright
