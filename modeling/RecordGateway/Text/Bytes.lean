/-!
# Bytes and their texts

Byte strings, their lowercase hexadecimal digits, their order, and the reading
of UTF-8 that puts one replacement character in the place of each longest
malformed beginning of a sequence.
-/
namespace RecordGateway

abbrev Bytes := List UInt8

namespace Bytes

def hexDigit (n : Nat) : Char := "0123456789abcdef".toList.getD n '0'

def hex (bytes : Bytes) : String :=
  String.ofList (bytes.flatMap fun b => [hexDigit (b.toNat / 16), hexDigit (b.toNat % 16)])

/-- Lexicographic order by unsigned bytes; a proper beginning comes first. -/
def compare : Bytes → Bytes → Ordering
  | [], [] => .eq
  | [], _ :: _ => .lt
  | _ :: _, [] => .gt
  | a :: as, b :: bs => (Ord.compare a.toNat b.toNat).then (compare as bs)

def ofText (s : String) : Bytes := s.toList.flatMap String.utf8EncodeChar

/-- For a first byte of a longer sequence, the bounds of the second byte and the number of
bytes that follow the first one. -/
def followers (first : UInt8) : Option (UInt8 × UInt8 × Nat) :=
  if 0xC2 ≤ first && first ≤ 0xDF then some (0x80, 0xBF, 1)
  else if first == 0xE0 then some (0xA0, 0xBF, 2)
  else if first == 0xED then some (0x80, 0x9F, 2)
  else if 0xE1 ≤ first && first ≤ 0xEF then some (0x80, 0xBF, 2)
  else if first == 0xF0 then some (0x90, 0xBF, 3)
  else if first == 0xF4 then some (0x80, 0x8F, 3)
  else if 0xF1 ≤ first && first ≤ 0xF3 then some (0x80, 0xBF, 3)
  else none

/-- How many bytes after a first byte still fit the sequence that it begins. -/
def fitting (first : UInt8) (rest : Bytes) : Nat :=
  match followers first, rest with
  | none, _ => 0
  | some _, [] => 0
  | some (low, high, count), second :: more =>
    if low ≤ second && second ≤ high then
      1 + ((more.take (count - 1)).takeWhile fun b => 0x80 ≤ b && b ≤ 0xBF).length
    else 0

/-- Read UTF-8; a malformed sequence becomes one U+FFFD for the bytes that fitted. -/
def decode : Bytes → List Char
  | [] => []
  | first :: rest =>
    match ByteArray.utf8DecodeChar? ((first :: rest).take 4).toByteArray 0 with
    | some c => c :: decode (rest.drop (c.utf8Size - 1))
    | none => '\uFFFD' :: decode (rest.drop (fitting first rest))
termination_by bytes => bytes.length
decreasing_by all_goals exact Nat.lt_succ_of_le (by rw [List.length_drop]; exact Nat.sub_le _ _)

def toText (bytes : Bytes) : String := String.ofList (decode bytes)

end Bytes
end RecordGateway
