import Revenant.Library.Bytes
import Revenant.Library.Variant

namespace Revenant
namespace Client
namespace MessagePack

open Library

/-!
# The client's MessagePack codec

The client encodes and decodes its messages with a codec of its own, for null,
booleans, integers of 64 bits, strings, arrays and dictionaries with strings as
keys.  A container that is too long marks the encoding as failed; the length of
a string is not checked.
-/

/-- The engine's conversions between strings and UTF-8. -/
structure Utf8 where
  toUtf8Buffer : String → List UInt8
  getStringFromUtf8 : List UInt8 → String

/-- The bytes of an encoding, and whether it failed on the way. -/
structure Encoded where
  bytes : List UInt8
  failed : Bool
  deriving DecidableEq, Repr

def Encoded.append (first second : Encoded) : Encoded :=
  { bytes := first.bytes ++ second.bytes, failed := first.failed || second.failed }

section Encoding

variable (utf8 : Utf8)

/-- The bytes of a shifted integer, one for each shift. -/
def encodeIntegerBytes (marker : UInt8) (value : Int) (width : Nat) : List UInt8 :=
  marker :: (List.range width).reverse.map (fun (index : Nat) =>
    UInt8.ofNat ((value >>> (8 * index)) % 0x100).toNat)

def encodeInteger (value : Int) : List UInt8 :=
  if 0 ≤ value ∧ value ≤ 127 then [UInt8.ofNat value.toNat]
  else if -32 ≤ value ∧ value < 0 then [UInt8.ofNat (256 + value).toNat]
  else if 0 ≤ value ∧ value ≤ 0xff then [0xcc, UInt8.ofNat value.toNat]
  else if 0 ≤ value ∧ value ≤ 0xffff then encodeIntegerBytes 0xcd value 2
  else if 0 ≤ value ∧ value ≤ 0xffffffff then encodeIntegerBytes 0xce value 4
  else if 0 ≤ value then encodeIntegerBytes 0xcf value 8
  else if -0x80 ≤ value then encodeIntegerBytes 0xd0 value 1
  else if -0x8000 ≤ value then encodeIntegerBytes 0xd1 value 2
  else if -0x80000000 ≤ value then encodeIntegerBytes 0xd2 value 4
  else encodeIntegerBytes 0xd3 value 8

/-- The length of a longer string is appended as one byte. -/
def encodeString (value : String) : List UInt8 :=
  let buffer := utf8.toUtf8Buffer value
  if buffer.length ≤ 31 then UInt8.ofNat (0xa0 ||| buffer.length) :: buffer
  else 0xd9 :: UInt8.ofNat buffer.length :: buffer

/-- A container: its length behind one of two markers, and its content. -/
def encodeContainer (short : Nat) (long : UInt8) (size : Nat) (content : Encoded) : Encoded :=
  if size ≤ 15 then { content with bytes := UInt8.ofNat (short ||| size) :: content.bytes }
  else if size ≤ 0xffff then
    { content with bytes := long :: UInt8.ofNat (size / 0x100) :: UInt8.ofNat size :: content.bytes }
  else { bytes := [], failed := true }

def encodeArray (size : Nat) (items : Encoded) : Encoded := encodeContainer 0x90 0xdc size items

def encodeMap (size : Nat) (fields : Encoded) : Encoded := encodeContainer 0x80 0xde size fields

mutual

def encodeValue : Variant → Encoded
  | .nil => ⟨[0xc0], false⟩
  | .text value => ⟨encodeString utf8 value, false⟩
  | .integer value => ⟨encodeInteger value, false⟩
  | .bool value => ⟨[if value then 0xc3 else 0xc2], false⟩
  | .array items => encodeArray items.length (encodeItems items)
  | .dictionary fields => encodeMap fields.length (encodeFields fields)

def encodeItems : List Variant → Encoded
  | [] => ⟨[], false⟩
  | item :: rest => (encodeValue item).append (encodeItems rest)

def encodeFields : List (String × Variant) → Encoded
  | [] => ⟨[], false⟩
  | field :: rest => (encodeField field).append (encodeFields rest)

def encodeField : String × Variant → Encoded
  | (key, value) => Encoded.append ⟨encodeString utf8 key, false⟩ (encodeValue value)

end

end Encoding

section Decoding

variable (utf8 : Utf8) (bytes : List UInt8)

/-- So many bytes behind the marker. -/
def behind (offset width : Nat) : List UInt8 := (bytes.drop (offset + 1)).take width

/-- A number of 64 bits in two's complement. -/
def wrap64 (number : Nat) : Int := if number < 2 ^ 63 then number else (number : Int) - 2 ^ 64

def decodeString (offset length : Nat) : Option (Variant × Nat) :=
  if offset + length > bytes.length then none
  else some (.text (utf8.getStringFromUtf8 ((bytes.drop offset).take length)), offset + length)

def decodeSignedInteger (offset width : Nat) : Option (Variant × Nat) :=
  some (.integer (ofSignedBigEndian (behind bytes offset width)), offset + width + 1)

/-- The loop over the entries of a dictionary. -/
def decodeFields (decode : Nat → Option (Variant × Nat)) :
    Nat → List (String × Variant) → Nat → Option (List (String × Variant) × Nat)
  | 0, result, cursor => some (result, cursor)
  | count + 1, result, cursor => do
      let (key, cursor) ← decode cursor
      let key ← key.text?
      let (item, cursor) ← decode cursor
      decodeFields decode count (Variant.setField key item result) cursor

/-- The loop over the items of an array. -/
def decodeItems (decode : Nat → Option (Variant × Nat)) :
    Nat → List Variant → Nat → Option (List Variant × Nat)
  | 0, result, cursor => some (result, cursor)
  | count + 1, result, cursor => do
      let (item, cursor) ← decode cursor
      decodeItems decode count (result ++ [item]) cursor

def decodeMap (decode : Nat → Option (Variant × Nat)) (offset length : Nat) :
    Option (Variant × Nat) :=
  (decodeFields decode length [] offset).map (fun (fields, cursor) => (.dictionary fields, cursor))

def decodeArray (decode : Nat → Option (Variant × Nat)) (offset length : Nat) :
    Option (Variant × Nat) :=
  (decodeItems decode length [] offset).map (fun (items, cursor) => (.array items, cursor))

/-- What a marker at an offset announces. -/
def decodeMarker (decode : Nat → Option (Variant × Nat)) (offset marker : Nat) :
    Option (Variant × Nat) :=
  if marker ≤ 0x7f then some (.integer marker, offset + 1)
  else if 0xe0 ≤ marker then some (.integer ((marker : Int) - 0x100), offset + 1)
  else if 0xa0 ≤ marker ∧ marker ≤ 0xbf then decodeString utf8 bytes (offset + 1) (marker &&& 0x1f)
  else if 0x80 ≤ marker ∧ marker ≤ 0x8f then decodeMap decode (offset + 1) (marker &&& 0x0f)
  else if 0x90 ≤ marker ∧ marker ≤ 0x9f then decodeArray decode (offset + 1) (marker &&& 0x0f)
  else if marker = 0xc0 then some (.nil, offset + 1)
  else if marker = 0xc2 then some (.bool false, offset + 1)
  else if marker = 0xc3 then some (.bool true, offset + 1)
  else if marker = 0xcc ∧ offset + 1 < bytes.length then
    some (.integer (ofBigEndian (behind bytes offset 1)), offset + 2)
  else if marker = 0xcd ∧ offset + 2 < bytes.length then
    some (.integer (ofBigEndian (behind bytes offset 2)), offset + 3)
  else if marker = 0xce ∧ offset + 4 < bytes.length then
    some (.integer (ofBigEndian (behind bytes offset 4)), offset + 5)
  else if marker = 0xcf ∧ offset + 8 < bytes.length then
    some (.integer (wrap64 (ofBigEndian (behind bytes offset 8))), offset + 9)
  else if marker = 0xd0 ∧ offset + 1 < bytes.length then decodeSignedInteger bytes offset 1
  else if marker = 0xd1 ∧ offset + 2 < bytes.length then decodeSignedInteger bytes offset 2
  else if marker = 0xd2 ∧ offset + 4 < bytes.length then decodeSignedInteger bytes offset 4
  else if marker = 0xd3 ∧ offset + 8 < bytes.length then decodeSignedInteger bytes offset 8
  else if marker = 0xd9 ∧ offset + 1 < bytes.length then
    decodeString utf8 bytes (offset + 2) (ofBigEndian (behind bytes offset 1))
  else if marker = 0xdc ∧ offset + 2 < bytes.length then
    decodeArray decode (offset + 3) (ofBigEndian (behind bytes offset 2))
  else if marker = 0xde ∧ offset + 2 < bytes.length then
    decodeMap decode (offset + 3) (ofBigEndian (behind bytes offset 2))
  else none

/-- Decoding with containers nested so deep at most. -/
def decodeNested : Nat → Nat → Option (Variant × Nat)
  | 0, _ => none
  | depth + 1, offset =>
      match bytes[offset]? with
      | none => none
      | some marker => decodeMarker utf8 bytes (decodeNested depth) offset marker.toNat

/-- Every container takes a byte, so no value is nested deeper than it is long. -/
def decodeValue (offset : Nat) : Option (Variant × Nat) :=
  decodeNested utf8 bytes (bytes.length + 1) offset

end Decoding

/-! ## What is decoded ends behind its start -/

section Advances

variable {utf8 : Utf8} {bytes : List UInt8} {decode : Nat → Option (Variant × Nat)}

/-- What is decoded ends behind where it began. -/
def Advances (decode : Nat → Option (Variant × Nat)) : Prop :=
  ∀ offset value next, decode offset = some (value, next) → offset < next

theorem decodeFields_advances (advances : Advances decode) {count cursor last : Nat}
    {result final : List (String × Variant)}
    (decoded : decodeFields decode count result cursor = some (final, last)) : cursor ≤ last := by
  induction count generalizing result cursor with
  | zero =>
      cases decoded
      exact le_refl _
  | succ count inductionHypothesis =>
      simp only [decodeFields, Option.bind_eq_bind, Option.bind_eq_some_iff] at decoded
      obtain ⟨⟨first, next⟩, keyHere, key, -, ⟨value, further⟩, valueHere, decoded⟩ := decoded
      have keyAhead := advances _ _ _ keyHere
      have valueAhead := advances _ _ _ valueHere
      have ahead := inductionHypothesis decoded
      dsimp only at valueAhead ahead
      omega

theorem decodeItems_advances (advances : Advances decode) {count cursor last : Nat}
    {result final : List Variant}
    (decoded : decodeItems decode count result cursor = some (final, last)) : cursor ≤ last := by
  induction count generalizing result cursor with
  | zero =>
      cases decoded
      exact le_refl _
  | succ count inductionHypothesis =>
      simp only [decodeItems, Option.bind_eq_bind, Option.bind_eq_some_iff] at decoded
      obtain ⟨⟨item, next⟩, here, decoded⟩ := decoded
      have itemAhead := advances _ _ _ here
      have ahead := inductionHypothesis decoded
      dsimp only at ahead
      omega

variable {offset : Nat} {value : Variant}

theorem decodeMap_advances (advances : Advances decode) {length next : Nat}
    (decoded : decodeMap decode offset length = some (value, next)) : offset ≤ next := by
  obtain ⟨⟨fields, cursor⟩, read, same⟩ := Option.map_eq_some_iff.mp decoded
  cases same
  exact decodeFields_advances advances read

theorem decodeArray_advances (advances : Advances decode) {length next : Nat}
    (decoded : decodeArray decode offset length = some (value, next)) : offset ≤ next := by
  obtain ⟨⟨items, cursor⟩, read, same⟩ := Option.map_eq_some_iff.mp decoded
  cases same
  exact decodeItems_advances advances read

theorem decodeString_advances {length next : Nat}
    (decoded : decodeString utf8 bytes offset length = some (value, next)) : offset ≤ next := by
  unfold decodeString at decoded
  split at decoded
  · cases decoded
  · cases decoded
    exact Nat.le_add_right _ _

/-- Whatever is answered ends behind an offset. -/
def Ahead (offset : Nat) (answer : Option (Variant × Nat)) : Prop :=
  ∀ value next, answer = some (value, next) → offset < next

namespace Ahead

variable {offset start length : Nat}

theorem none : Ahead offset none := by
  intro value next impossible
  cases impossible

theorem some {value : Variant} {next : Nat} (ahead : offset < next) :
    Ahead offset (some (value, next)) := by
  intro other last same
  cases same
  exact ahead

theorem string (ahead : offset < start) : Ahead offset (decodeString utf8 bytes start length) :=
  fun _ _ decoded => ahead.trans_le (decodeString_advances decoded)

theorem array (advances : Advances decode) (ahead : offset < start) :
    Ahead offset (decodeArray decode start length) :=
  fun _ _ decoded => ahead.trans_le (decodeArray_advances advances decoded)

theorem map (advances : Advances decode) (ahead : offset < start) :
    Ahead offset (decodeMap decode start length) :=
  fun _ _ decoded => ahead.trans_le (decodeMap_advances advances decoded)

theorem ite {condition : Prop} [Decidable condition] {first second : Option (Variant × Nat)}
    (here : Ahead offset first) (further : Ahead offset second) :
    Ahead offset (if condition then first else second) := by
  split
  · exact here
  · exact further

end Ahead

/-- Each of the nineteen announcements takes its marker at least. -/
theorem decodeMarker_advances (advances : Advances decode) {marker next : Nat}
    (decoded : decodeMarker utf8 bytes decode offset marker = some (value, next)) :
    offset < next := by
  have ahead : Ahead offset (decodeMarker utf8 bytes decode offset marker) := by
    unfold decodeMarker decodeSignedInteger
    repeat' apply Ahead.ite
    all_goals
      first
      | exact .none
      | exact .some (by omega)
      | exact .string (by omega)
      | exact .array advances (by omega)
      | exact .map advances (by omega)
  exact ahead value next decoded

theorem decodeNested_advances (depth : Nat) : Advances (decodeNested utf8 bytes depth) := by
  induction depth with
  | zero => exact fun _ _ _ decoded => nomatch decoded
  | succ depth inductionHypothesis =>
      intro offset value next decoded
      unfold decodeNested at decoded
      split at decoded
      · cases decoded
      · exact decodeMarker_advances inductionHypothesis decoded

end Advances

end MessagePack
end Client
end Revenant
