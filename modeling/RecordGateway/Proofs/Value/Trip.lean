import RecordGateway.Proofs.Store.Cells
import RecordGateway.Record
/-!
# Values that are stored and read back

A value that a column keeps is read back as it was, but for the integer that stands for a truth
value.
-/
namespace RecordGateway

namespace Bytes

/-- The bytes of a character are read as that character, whatever follows them. -/
theorem decode_encoded (c : Char) (bytes : Bytes) :
    decode (String.utf8EncodeChar c ++ bytes) = c :: decode bytes := by
  have hlength : (String.utf8EncodeChar c).length = c.utf8Size := String.length_utf8EncodeChar c
  have hwindow : (String.utf8EncodeChar c ++ bytes).take 4 =
      String.utf8EncodeChar c ++ bytes.take (4 - c.utf8Size) := by
    rw [List.take_append, hlength, List.take_of_length_le (hlength ▸ c.utf8Size_le_four)]
  have hread : ByteArray.utf8DecodeChar? ((String.utf8EncodeChar c ++ bytes).take 4).toByteArray 0 =
      some c := by
    rw [hwindow, List.toByteArray_append]
    exact ByteArray.utf8DecodeChar?_utf8EncodeChar_append
  obtain ⟨first, rest, hbytes⟩ := List.exists_cons_of_ne_nil (String.utf8EncodeChar_ne_nil (c := c))
  have hrest : rest.length = c.utf8Size - 1 := by
    rw [← hlength, hbytes, List.length_cons, Nat.add_sub_cancel]
  rw [hbytes, List.cons_append] at hread ⊢
  rw [decode, hread]
  change c :: decode ((rest ++ bytes).drop (c.utf8Size - 1)) = c :: decode bytes
  rw [← hrest, List.drop_left]

private theorem decode_flatMap (chars : List Char) :
    decode (chars.flatMap String.utf8EncodeChar) = chars := by
  induction chars with
  | nil => rw [List.flatMap_nil, decode]
  | cons c chars ih => rw [List.flatMap_cons, decode_encoded, ih]

theorem toText_ofText (s : String) : toText (ofText s) = s := by
  rw [toText, ofText, decode_flatMap, String.ofList_toList]

end Bytes

namespace Value

def isNaN : Value → Bool
  | real x => x.isNaN
  | _ => false

/-- A value with the integer zero or one for a truth value. -/
def unflagged : Value → Value
  | boolean b => integer (if b then 1 else 0)
  | v => v

/-- What comes back of a value from a column. -/
def stored (a : Affinity) (v : Value) : Value := (a.apply (Cell.ofValue v).settle).toValue

/-- A column keeps the class and the content of the cell that a value is stored as. -/
def KeptBy (a : Affinity) (v : Value) : Prop :=
  a.apply (Cell.ofValue v).settle = (Cell.ofValue v).settle

theorem ofValue_settled {v : Value} (h : v.isNaN = false) :
    (Cell.ofValue v).settle = Cell.ofValue v := by
  cases v with
  | real x => exact Cell.settled_real.mpr h
  | _ => rfl

private theorem stored_unflagged {a : Affinity} {v : Value} (hkept : v.KeptBy a)
    (hnumber : v.isNaN = false) :
    v.stored a = v.unflagged := by
  rw [stored, hkept, ofValue_settled hnumber]
  cases v with
  | text s => exact congrArg Value.text (Bytes.toText_ofText s)
  | _ => rfl

end Value

namespace ColumnType

/-- A type that is no option of an option, in which two nulls would have to be told apart. -/
def Flat : ColumnType → Prop
  | optional (optional _) => False
  | _ => True

private theorem narrow_ofInt32 (j : Int32) : narrow j.toInt64 = some j := by
  rw [narrow, Int32.toInt_toInt64, if_pos ⟨j.le_toInt, Int.le_of_lt_add_one j.toInt_lt⟩,
    Int32.ofInt_toInt]

private theorem read_optional {inner : ColumnType} {v : Value} (h : v ≠ .null) :
    (optional inner).read? v = (inner.read? v).map some := by
  cases v <;> first | rfl | exact absurd rfl h

private theorem write_unflagged_ne_null {type : ColumnType}
    (hbasic : ∀ inner, type ≠ optional inner)
    (x : type.Carrier) : (type.write x).unflagged ≠ .null := by
  cases type with
  | optional inner => exact absurd rfl (hbasic inner)
  | _ => simp [write, Value.unflagged]

/-- What is written with a basic type is read with it again, also through the integer that is
stored for a truth value. -/
theorem read_unflagged {type : ColumnType} (hbasic : ∀ inner, type ≠ optional inner)
    (x : type.Carrier) : type.read? (type.write x).unflagged = some x := by
  cases type with
  | int32 => exact narrow_ofInt32 x
  | boolean => cases x <;> rfl
  | optional inner => exact absurd rfl (hbasic inner)
  | _ => rfl

private theorem read_written {type : ColumnType} (hflat : type.Flat) (x : type.Carrier) :
    type.read? (type.write x).unflagged = some x := by
  cases type with
  | optional inner =>
    have hbasic : ∀ deeper, inner ≠ optional deeper := by
      rintro deeper rfl
      exact hflat
    cases x with
    | none => rfl
    | some y =>
      have hnull : (inner.write y).unflagged ≠ .null := write_unflagged_ne_null hbasic y
      have hread : (optional inner).read? (inner.write y).unflagged = (some y).map some := by
        rw [read_optional hnull, read_unflagged hbasic y]
      exact hread
  | _ => exact read_unflagged (by simp) x

end ColumnType

/-- Stored and read back, a value is the same up to the integer that is stored for a truth
value, and a typed reading of the column it came back in gives what was written with the type. -/
structure Trip (a : Affinity) : Prop where
  value : ∀ v : Value, v.KeptBy a → v.isNaN = false → v.stored a = v.unflagged
  require : ∀ type : ColumnType, type.Flat → ∀ x : type.Carrier, (type.write x).KeptBy a →
    (type.write x).isNaN = false → ∀ (record : Record) (column : String),
    record.get? column = some ((type.write x).stored a) → record.require column type = .ok x

theorem stored_trip (a : Affinity) : Trip a := by
  refine ⟨fun v => Value.stored_unflagged, fun type hflat x hkept hnumber record column hheld => ?_⟩
  rw [Value.stored_unflagged hkept hnumber] at hheld
  rw [Record.require, hheld]
  simp only [ColumnType.read_written hflat x]

/-- A text of several bytes to a character, and an optional 32-bit integer. -/
theorem stored_trip_texts :
    (Value.text "grün€").stored .text = .text "grün€" ∧
      Record.require (Keyed.empty.insert "level" (.integer (-7))) "level" (.optional .int32) =
        .ok (some (-7)) := by
  refine ⟨(stored_trip .text).value (.text "grün€") rfl rfl, ?_⟩
  exact (stored_trip .integer).require (.optional .int32) trivial (some (-7)) rfl rfl _ "level" rfl

end RecordGateway
