import Revenant.Client.MessagePack

namespace Revenant
namespace Client
namespace MessagePack

open Library

/-!
# What the codec reads back

Every marker reads back what was written behind it, and a container reads its
entries one after another, so a value is read back wherever its bytes stand and
whatever follows them.  The exception is a string of more than 255 bytes: its
length is cut to one byte, and what is read is another string.
-/

/-! ## What a marker announces -/

section Markers

variable {utf8 : Utf8} {bytes : List UInt8} {decode : Nat → Option (Variant × Nat)}
variable {offset marker : Nat}

theorem decodeMarker_positive (small : marker ≤ 0x7f) :
    decodeMarker utf8 bytes decode offset marker = some (.integer marker, offset + 1) :=
  if_pos small

theorem decodeMarker_negative (large : 0xe0 ≤ marker) :
    decodeMarker utf8 bytes decode offset marker =
      some (.integer ((marker : Int) - 0x100), offset + 1) := by
  unfold decodeMarker
  rw [if_neg (by omega), if_pos large]

theorem decodeMarker_string (low : 0xa0 ≤ marker) (high : marker ≤ 0xbf) :
    decodeMarker utf8 bytes decode offset marker =
      decodeString utf8 bytes (offset + 1) (marker &&& 0x1f) := by
  unfold decodeMarker
  rw [if_neg (by omega), if_neg (by omega), if_pos ⟨low, high⟩]

theorem decodeMarker_map (low : 0x80 ≤ marker) (high : marker ≤ 0x8f) :
    decodeMarker utf8 bytes decode offset marker =
      decodeMap decode (offset + 1) (marker &&& 0x0f) := by
  unfold decodeMarker
  rw [if_neg (by omega), if_neg (by omega), if_neg (by omega), if_pos ⟨low, high⟩]

theorem decodeMarker_array (low : 0x90 ≤ marker) (high : marker ≤ 0x9f) :
    decodeMarker utf8 bytes decode offset marker =
      decodeArray decode (offset + 1) (marker &&& 0x0f) := by
  unfold decodeMarker
  rw [if_neg (by omega), if_neg (by omega), if_neg (by omega), if_neg (by omega),
    if_pos ⟨low, high⟩]

end Markers

/-! ## Encodings at a place -/

section Places

variable {utf8 : Utf8} {front rest bytes : List UInt8}

/-- An encoding is read as a value, with its own end, wherever it stands. -/
def Reads (utf8 : Utf8) (encoding : List UInt8) (value : Variant) : Prop :=
  ∀ bytes front rest depth, bytes = front ++ (encoding ++ rest) → encoding.length < depth →
    decodeNested utf8 bytes depth front.length = some (value, front.length + encoding.length)

/-- An encoding is never read as a value. -/
def Misreads (utf8 : Utf8) (encoding : List UInt8) (value : Variant) : Prop :=
  ∀ bytes front rest depth, bytes = front ++ (encoding ++ rest) → encoding.length < depth →
    ∀ last, decodeNested utf8 bytes depth front.length ≠ some (value, last)

theorem decodeNested_cons {marker : UInt8} {tail : List UInt8} {depth : Nat}
    (stands : bytes = front ++ marker :: tail) :
    decodeNested utf8 bytes (depth + 1) front.length =
      decodeMarker utf8 bytes (decodeNested utf8 bytes depth) front.length marker.toNat := by
  unfold decodeNested
  rw [stands, List.getElem?_append_right (le_refl _), Nat.sub_self, List.getElem?_cons_zero]

theorem behind_cons {marker : UInt8} {number tail : List UInt8}
    (stands : bytes = front ++ marker :: (number ++ tail)) :
    behind bytes front.length number.length = number := by
  unfold behind
  rw [stands, ← List.drop_drop, List.drop_left, List.drop_one, List.tail_cons, List.take_left]

/-- An encoding of one byte. -/
theorem reads_marker {marker : UInt8} {value : Variant}
    (announces : ∀ bytes decode offset,
      decodeMarker utf8 bytes decode offset marker.toNat = some (value, offset + 1)) :
    Reads utf8 [marker] value := by
  intro bytes front rest depth stands deep
  obtain ⟨depth, rfl⟩ := Nat.exists_eq_succ_of_ne_zero (Nat.ne_of_gt (Nat.zero_lt_of_lt deep))
  rw [decodeNested_cons stands, announces]
  rfl

/-- A marker with a number behind it. -/
theorem reads_number {marker : UInt8} {number : List UInt8} {value : Variant}
    (announces : ∀ bytes decode offset, offset + number.length < bytes.length →
      behind bytes offset number.length = number →
      decodeMarker utf8 bytes decode offset marker.toNat =
        some (value, offset + number.length + 1)) :
    Reads utf8 (marker :: number) value := by
  intro bytes front rest depth stands deep
  obtain ⟨depth, rfl⟩ := Nat.exists_eq_succ_of_ne_zero (Nat.ne_of_gt (Nat.zero_lt_of_lt deep))
  rw [List.cons_append] at stands
  rw [decodeNested_cons stands, announces _ _ _ ?_ (behind_cons stands)]
  · rw [List.length_cons]
    rfl
  · rw [stands]
    simp only [List.length_append, List.length_cons]
    omega

end Places

/-! ## Integers -/

section Integers

variable {utf8 : Utf8} {value : Int}

theorem encodeIntegerBytes_eq (marker : UInt8) (value : Int) (width : Nat) :
    encodeIntegerBytes marker value width =
      marker :: bigEndian width (value % 256 ^ width).toNat := by
  rw [encodeIntegerBytes, shifted_eq_bigEndian]

/-- A marker of so many unsigned bytes. -/
theorem reads_unsigned {marker : UInt8} {width : Nat} (positive : 0 ≤ value)
    (fits : value < 256 ^ width)
    (announces : ∀ bytes decode offset, offset + width < bytes.length →
      decodeMarker utf8 bytes decode offset marker.toNat =
        some (.integer (ofBigEndian (behind bytes offset width)), offset + width + 1)) :
    Reads utf8 (encodeIntegerBytes marker value width) (.integer value) := by
  have natural : ((value.toNat : Nat) : Int) = value := Int.toNat_of_nonneg positive
  rw [encodeIntegerBytes_eq, Int.emod_eq_of_lt positive fits]
  refine reads_number ?_
  rw [length_bigEndian]
  intro bytes decode offset enough number
  rw [announces bytes decode offset enough, number, ofBigEndian_bigEndian_of_lt (by zify; omega),
    natural]

/-- A marker of so many signed bytes. -/
theorem reads_signed {marker : UInt8} {width : Nat} (low : -(128 * 256 ^ width) ≤ value)
    (high : value < 128 * 256 ^ width)
    (announces : ∀ bytes decode offset, offset + (width + 1) < bytes.length →
      decodeMarker utf8 bytes decode offset marker.toNat =
        decodeSignedInteger bytes offset (width + 1)) :
    Reads utf8 (encodeIntegerBytes marker value (width + 1)) (.integer value) := by
  rw [encodeIntegerBytes_eq]
  refine reads_number ?_
  rw [length_bigEndian]
  intro bytes decode offset enough number
  rw [announces bytes decode offset enough, decodeSignedInteger, number,
    ofSignedBigEndian_of_fits low high]

theorem encodeIntegerBytes_one {marker : UInt8} (positive : 0 ≤ value) (small : value ≤ 0xff) :
    [marker, UInt8.ofNat value.toNat] = encodeIntegerBytes marker value 1 := by
  rw [encodeIntegerBytes_eq, pow_one, Int.emod_eq_of_lt positive (by omega)]
  simp [bigEndian]

/-- An integer of 64 bits keeps its value and its sign. -/
theorem reads_integer (low : -2 ^ 63 ≤ value) (high : value < 2 ^ 63) :
    Reads utf8 (encodeInteger value) (.integer value) := by
  unfold encodeInteger
  split
  · next small =>
    refine reads_marker (fun bytes decode offset => ?_)
    have natural : ((value.toNat : Nat) : Int) = value := Int.toNat_of_nonneg small.1
    rw [UInt8.toNat_ofNat', Nat.mod_eq_of_lt (by omega), decodeMarker_positive (by omega), natural]
  split
  · next small =>
    refine reads_marker (fun bytes decode offset => ?_)
    have natural : (((256 + value).toNat : Nat) : Int) = 256 + value :=
      Int.toNat_of_nonneg (by omega)
    rw [UInt8.toNat_ofNat', Nat.mod_eq_of_lt (by omega), decodeMarker_negative (by omega), natural]
    congr 3
    omega
  split
  · next byte =>
    rw [encodeIntegerBytes_one byte.1 byte.2]
    exact reads_unsigned byte.1 (by omega)
      (fun bytes decode offset enough => by simp [decodeMarker, enough])
  split
  · next word =>
    exact reads_unsigned word.1 (by omega)
      (fun bytes decode offset enough => by simp [decodeMarker, enough])
  split
  · next long =>
    exact reads_unsigned long.1 (by omega)
      (fun bytes decode offset enough => by simp [decodeMarker, enough])
  split
  · next positive =>
    have natural : ((value.toNat : Nat) : Int) = value := Int.toNat_of_nonneg positive
    rw [encodeIntegerBytes_eq, Int.emod_eq_of_lt positive (by omega)]
    refine reads_number ?_
    rw [length_bigEndian]
    intro bytes decode offset enough number
    have wrapped : wrap64 value.toNat = value := by
      rw [wrap64, if_pos (by omega), natural]
    have announces : decodeMarker utf8 bytes decode offset (0xcf : UInt8).toNat =
        some (.integer (wrap64 (ofBigEndian (behind bytes offset 8))), offset + 9) := by
      simp [decodeMarker, enough]
    rw [announces, number, ofBigEndian_bigEndian_of_lt (by zify; omega), wrapped]
  split
  · exact @reads_signed _ _ _ 0 (by omega) (by omega)
      (fun bytes decode offset enough => by simp [decodeMarker, enough])
  split
  · exact @reads_signed _ _ _ 1 (by omega) (by omega)
      (fun bytes decode offset enough => by simp [decodeMarker, enough])
  split
  · exact @reads_signed _ _ _ 3 (by omega) (by omega)
      (fun bytes decode offset enough => by simp [decodeMarker, enough])
  · exact @reads_signed _ _ _ 7 (by omega) (by omega)
      (fun bytes decode offset enough => by simp [decodeMarker, enough])

end Integers

/-! ## Strings -/

section Strings

variable {utf8 : Utf8} {value : String}

/-- What the engine's conversions are relied on for: they are inverse on every
string, and what lacks 256 bytes or more of a string is another string. -/
structure Utf8.Lawful (utf8 : Utf8) : Prop where
  inverse : ∀ value, utf8.getStringFromUtf8 (utf8.toUtf8Buffer value) = value
  part : ∀ value length, length + 0x100 ≤ (utf8.toUtf8Buffer value).length →
    utf8.getStringFromUtf8 ((utf8.toUtf8Buffer value).take length) ≠ value

/-- The length of the string fits in one byte. -/
def Fitting (utf8 : Utf8) (value : String) : Prop := (utf8.toUtf8Buffer value).length ≤ 0xff

/-- A short length and its kind share a marker and are told apart again. -/
theorem marker_of_short {base mask size : Nat}
    (kind : (base, mask) ∈ [(0xa0, 0x1f), (0x90, 0x0f), (0x80, 0x0f)]) (small : size ≤ mask) :
    (UInt8.ofNat (base ||| size)).toNat = base ||| size ∧ base ≤ base ||| size ∧
      base ||| size ≤ base + mask ∧ (base ||| size) &&& mask = size := by
  have all : ∀ kind ∈ [(0xa0, 0x1f), (0x90, 0x0f), (0x80, 0x0f)], ∀ size < kind.2 + 1,
      (UInt8.ofNat (kind.1 ||| size)).toNat = kind.1 ||| size ∧ kind.1 ≤ kind.1 ||| size ∧
        kind.1 ||| size ≤ kind.1 + kind.2 ∧ (kind.1 ||| size) &&& kind.2 = size := by
    decide
  exact all _ kind size (Nat.lt_succ_of_le small)

/-- So many bytes of what stands at a place, as a string. -/
theorem decodeString_append {bytes front tail : List UInt8} {length : Nat}
    (stands : bytes = front ++ tail) (enough : length ≤ tail.length) :
    decodeString utf8 bytes front.length length =
      some (.text (utf8.getStringFromUtf8 (tail.take length)), front.length + length) := by
  unfold decodeString
  rw [stands, List.length_append, if_neg (by omega), List.drop_left]

/-- What a string is read as: the part of it that its length byte announces. -/
theorem decodeNested_string {bytes front rest : List UInt8} {depth : Nat}
    (stands : bytes = front ++ (encodeString utf8 value ++ rest)) :
    ∃ length, length ≤ (utf8.toUtf8Buffer value).length ∧
      length % 0x100 = (utf8.toUtf8Buffer value).length % 0x100 ∧ length < 0x100 ∧
      decodeNested utf8 bytes (depth + 1) front.length =
        some (.text (utf8.getStringFromUtf8 ((utf8.toUtf8Buffer value).take length)),
          front.length + (encodeString utf8 value).length -
            ((utf8.toUtf8Buffer value).length - length)) := by
  unfold encodeString at stands ⊢
  dsimp only at stands ⊢
  generalize utf8.toUtf8Buffer value = buffer at stands ⊢
  by_cases small : buffer.length ≤ 31
  · obtain ⟨marker, low, high, size⟩ := @marker_of_short 0xa0 0x1f _ (by decide) small
    rw [if_pos small, List.cons_append] at stands
    have standing : bytes = (front ++ [UInt8.ofNat (0xa0 ||| buffer.length)]) ++ (buffer ++ rest) := by
      rw [stands, List.append_assoc]
      rfl
    have read := @decodeString_append utf8 _ _ _ buffer.length standing (by simp)
    rw [List.length_append, List.length_singleton] at read
    refine ⟨buffer.length, le_refl _, rfl, by omega, ?_⟩
    rw [decodeNested_cons stands, marker, decodeMarker_string low high, size, read,
      List.take_left' rfl, List.take_length, if_pos small, List.length_cons, Nat.sub_self,
      Nat.sub_zero]
    congr 2
    omega
  · rw [if_neg small, List.cons_append, List.cons_append] at stands
    have length : ofBigEndian (behind bytes front.length 1) = buffer.length % 0x100 := by
      have one : behind bytes front.length 1 = [UInt8.ofNat buffer.length] :=
        @behind_cons front bytes 0xd9 [UInt8.ofNat buffer.length] (buffer ++ rest) stands
      rw [one]
      simp [ofBigEndian]
    have standing : bytes = (front ++ [0xd9, UInt8.ofNat buffer.length]) ++ (buffer ++ rest) := by
      rw [stands, List.append_assoc]
      rfl
    have shorter : buffer.length % 0x100 ≤ buffer.length := Nat.mod_le _ _
    have read := @decodeString_append utf8 _ _ _ (buffer.length % 0x100) standing (by
      rw [List.length_append]
      omega)
    rw [List.length_append] at read
    have announces (decode : Nat → Option (Variant × Nat)) :
        decodeMarker utf8 bytes decode front.length (0xd9 : UInt8).toNat =
          decodeString utf8 bytes (front.length + 2)
            (ofBigEndian (behind bytes front.length 1)) := by
      have enough : front.length + 1 < bytes.length := by
        rw [stands]
        simp
      simp [decodeMarker, enough]
    refine ⟨buffer.length % 0x100, shorter, Nat.mod_mod _ _, Nat.mod_lt _ (by decide), ?_⟩
    rw [decodeNested_cons stands, announces, length]
    refine read.trans ?_
    rw [List.take_append_of_le_length shorter, if_neg small]
    simp only [List.length_cons, List.length_nil]
    congr 2
    omega

/-- A fitting string is read back. -/
theorem reads_string (lawful : utf8.Lawful) (fitting : Fitting utf8 value) :
    Reads utf8 (encodeString utf8 value) (.text value) := by
  intro bytes front rest depth stands deep
  obtain ⟨depth, rfl⟩ := Nat.exists_eq_succ_of_ne_zero (Nat.ne_of_gt (Nat.zero_lt_of_lt deep))
  obtain ⟨length, -, same, small, read⟩ := @decodeNested_string utf8 value _ _ _ depth stands
  unfold Fitting at fitting
  have whole : length = (utf8.toUtf8Buffer value).length := by omega
  rw [read, whole, List.take_length, lawful.inverse, Nat.sub_self, Nat.sub_zero]

/-- A longer string is read as another one. -/
theorem misreads_string (lawful : utf8.Lawful) (long : ¬ Fitting utf8 value) :
    Misreads utf8 (encodeString utf8 value) (.text value) := by
  intro bytes front rest depth stands deep last
  obtain ⟨depth, rfl⟩ := Nat.exists_eq_succ_of_ne_zero (Nat.ne_of_gt (Nat.zero_lt_of_lt deep))
  obtain ⟨length, shorter, same, small, read⟩ := @decodeNested_string utf8 value _ _ _ depth stands
  unfold Fitting at long
  rw [read]
  intro equal
  simp only [Option.some.injEq, Prod.mk.injEq, Variant.text.injEq] at equal
  exact lawful.part value length (by omega) equal.1

end Strings

/-! ## Containers -/

section Containers

variable {utf8 : Utf8} {short size : Nat} {long : UInt8} {content : Encoded}
variable {bytes front rest tail : List UInt8} {depth : Nat}

/-- The bytes in front of a container's content. -/
def containerHeader (short : Nat) (long : UInt8) (size : Nat) : List UInt8 :=
  if size ≤ 15 then [UInt8.ofNat (short ||| size)]
  else [long, UInt8.ofNat (size / 0x100), UInt8.ofNat size]

theorem encodeContainer_of_fits (fits : size ≤ 0xffff) :
    encodeContainer short long size content =
      { content with bytes := containerHeader short long size ++ content.bytes } := by
  unfold encodeContainer containerHeader
  split
  · rfl
  · rfl

theorem encodeContainer_of_large (large : 0xffff < size) :
    encodeContainer short long size content = ⟨[], true⟩ := by
  unfold encodeContainer
  rw [if_neg (by omega), if_neg (by omega)]

/-- Either header announces the container with its size. -/
theorem decodeNested_header
    {kind : (Nat → Option (Variant × Nat)) → Nat → Nat → Option (Variant × Nat)}
    (brief : ∀ bytes decode offset, ∀ size ≤ 15,
      decodeMarker utf8 bytes decode offset (UInt8.ofNat (short ||| size)).toNat =
        kind decode (offset + 1) size)
    (broad : ∀ bytes decode offset, offset + 2 < bytes.length →
      decodeMarker utf8 bytes decode offset long.toNat =
        kind decode (offset + 3) (ofBigEndian (behind bytes offset 2)))
    (fits : size ≤ 0xffff) (stands : bytes = front ++ (containerHeader short long size ++ tail)) :
    decodeNested utf8 bytes (depth + 1) front.length =
      kind (decodeNested utf8 bytes depth)
        (front.length + (containerHeader short long size).length) size := by
  unfold containerHeader at stands ⊢
  by_cases small : size ≤ 15
  · rw [if_pos small] at stands ⊢
    rw [decodeNested_cons stands, brief _ _ _ _ small]
    rfl
  · rw [if_neg small] at stands ⊢
    have two : bigEndian 2 size = [UInt8.ofNat (size / 0x100), UInt8.ofNat size] := by
      simp [bigEndian]
    have number : behind bytes front.length 2 = bigEndian 2 size := by
      rw [two]
      exact @behind_cons front bytes long [UInt8.ofNat (size / 0x100), UInt8.ofNat size] tail stands
    have enough : front.length + 2 < bytes.length := by
      rw [stands]
      simp only [List.length_append, List.length_cons]
      omega
    rw [decodeNested_cons stands, broad _ _ _ enough, number,
      ofBigEndian_bigEndian_of_lt (by omega)]
    rfl

theorem header_positive : 0 < (containerHeader short long size).length := by
  unfold containerHeader
  split <;> exact Nat.zero_lt_succ _

theorem decodeNested_array (fits : size ≤ 0xffff)
    (stands : bytes = front ++ (containerHeader 0x90 0xdc size ++ tail)) :
    decodeNested utf8 bytes (depth + 1) front.length =
      decodeArray (decodeNested utf8 bytes depth)
        (front.length + (containerHeader 0x90 0xdc size).length) size := by
  refine decodeNested_header ?_ ?_ fits stands
  · intro bytes decode offset size small
    obtain ⟨marker, low, high, same⟩ := @marker_of_short 0x90 0x0f _ (by decide) small
    rw [marker, decodeMarker_array low high, same]
  · intro bytes decode offset enough
    simp [decodeMarker, enough]

theorem decodeNested_map (fits : size ≤ 0xffff)
    (stands : bytes = front ++ (containerHeader 0x80 0xde size ++ tail)) :
    decodeNested utf8 bytes (depth + 1) front.length =
      decodeMap (decodeNested utf8 bytes depth)
        (front.length + (containerHeader 0x80 0xde size).length) size := by
  refine decodeNested_header ?_ ?_ fits stands
  · intro bytes decode offset size small
    obtain ⟨marker, low, high, same⟩ := @marker_of_short 0x80 0x0f _ (by decide) small
    rw [marker, decodeMarker_map low high, same]
  · intro bytes decode offset enough
    simp [decodeMarker, enough]

end Containers

/-! ## Items -/

section Items

variable {utf8 : Utf8} {bytes front rest : List UInt8} {depth : Nat}
variable {items result final : List Variant} {last : Nat}

/-- All items are read back one after another. -/
theorem decodeItems_reads (reads : ∀ item ∈ items, Reads utf8 (encodeValue utf8 item).bytes item)
    (stands : bytes = front ++ ((encodeItems utf8 items).bytes ++ rest))
    (deep : (encodeItems utf8 items).bytes.length < depth) (result : List Variant) :
    decodeItems (decodeNested utf8 bytes depth) items.length result front.length =
      some (result ++ items, front.length + (encodeItems utf8 items).bytes.length) := by
  induction items generalizing front result with
  | nil =>
      rw [List.append_nil]
      rfl
  | cons item items inductionHypothesis =>
      simp only [encodeItems, Encoded.append, List.length_append, List.append_assoc] at stands deep ⊢
      have here := reads item List.mem_cons_self bytes front _ depth stands (by omega)
      have moved := inductionHypothesis (fun other member => reads other (List.mem_cons_of_mem _ member))
        (stands.trans (List.append_assoc _ _ _).symm) (by omega) (result ++ [item])
      rw [List.length_append] at moved
      simp only [List.length_cons, decodeItems, here, Option.bind_eq_bind, Option.bind_some, moved,
        List.append_assoc, List.singleton_append, Nat.add_assoc]

/-- The loop only adds items. -/
theorem decodeItems_grows {decode : Nat → Option (Variant × Nat)} {count cursor : Nat}
    (decoded : decodeItems decode count result cursor = some (final, last)) : result <+: final := by
  induction count generalizing result cursor with
  | zero =>
      cases decoded
      exact List.prefix_rfl
  | succ count inductionHypothesis =>
      simp only [decodeItems, Option.bind_eq_bind, Option.bind_eq_some_iff] at decoded
      obtain ⟨⟨item, next⟩, -, decoded⟩ := decoded
      exact (List.prefix_append result [item]).trans (inductionHypothesis decoded)

/-- One item that is never read as itself is enough. -/
theorem decodeItems_misreads
    (known : ∀ item ∈ items, Reads utf8 (encodeValue utf8 item).bytes item ∨
      Misreads utf8 (encodeValue utf8 item).bytes item)
    (bad : ∃ item ∈ items, Misreads utf8 (encodeValue utf8 item).bytes item)
    (stands : bytes = front ++ ((encodeItems utf8 items).bytes ++ rest))
    (deep : (encodeItems utf8 items).bytes.length < depth) (result : List Variant) :
    decodeItems (decodeNested utf8 bytes depth) items.length result front.length ≠
      some (result ++ items, last) := by
  induction items generalizing front result with
  | nil =>
      obtain ⟨item, member, -⟩ := bad
      exact absurd member List.not_mem_nil
  | cons item items inductionHypothesis =>
      simp only [encodeItems, Encoded.append, List.length_append, List.append_assoc] at stands deep
      intro decoded
      simp only [List.length_cons, decodeItems, Option.bind_eq_bind, Option.bind_eq_some_iff]
        at decoded
      obtain ⟨⟨first, next⟩, here, decoded⟩ := decoded
      have grown : result ++ [first] <+: result ++ item :: items := decodeItems_grows decoded
      have same : first = item := by
        rw [List.prefix_append_right_inj] at grown
        exact (List.cons_prefix_cons.mp grown).1
      rw [same] at here decoded
      rcases known item List.mem_cons_self with reads | misreads
      · have read := reads bytes front _ depth stands (by omega)
        cases here.symm.trans read
        refine inductionHypothesis (fun other member => known other (List.mem_cons_of_mem _ member)) ?_
          (stands.trans (List.append_assoc _ _ _).symm) (by omega) (result ++ [item]) ?_
        · obtain ⟨other, member, otherBad⟩ := bad
          rcases List.mem_cons.mp member with rfl | later
          · exact absurd read (otherBad bytes front _ depth stands (by omega) _)
          · exact ⟨other, later, otherBad⟩
        · rw [List.length_append, List.append_assoc]
          exact decoded
      · exact misreads bytes front _ depth stands (by omega) _ here

end Items

/-! ## Fields -/

section Fields

variable {utf8 : Utf8} {bytes front rest : List UInt8} {depth : Nat}
variable {fields result final : List (String × Variant)} {last : Nat}

/-- A field is set behind the others when its key is new. -/
theorem setField_of_new {key : String} {value : Variant} (new : key ∉ result.map Prod.fst) :
    Variant.setField key value result = result ++ [(key, value)] := by
  induction result with
  | nil => rfl
  | cons field result inductionHypothesis =>
      rw [List.map_cons, List.mem_cons, not_or] at new
      rw [Variant.setField, if_neg new.1, inductionHypothesis new.2]
      rfl

/-- A field that is set again takes no place of its own. -/
theorem length_setField_of_old {key : String} {value : Variant} (old : key ∈ result.map Prod.fst) :
    (Variant.setField key value result).length = result.length := by
  induction result with
  | nil => exact absurd old List.not_mem_nil
  | cons field result inductionHypothesis =>
      rw [Variant.setField]
      split
      · rfl
      · next other =>
        rw [List.map_cons, List.mem_cons] at old
        rw [List.length_cons, inductionHypothesis (old.resolve_left other), List.length_cons]

/-- All fields are read back one after another. -/
theorem decodeFields_reads
    (reads : ∀ field ∈ fields, Reads utf8 (encodeString utf8 field.1) (.text field.1) ∧
      Reads utf8 (encodeValue utf8 field.2).bytes field.2)
    (stands : bytes = front ++ ((encodeFields utf8 fields).bytes ++ rest))
    (deep : (encodeFields utf8 fields).bytes.length < depth)
    (distinct : ((result ++ fields).map Prod.fst).Nodup) :
    decodeFields (decodeNested utf8 bytes depth) fields.length result front.length =
      some (result ++ fields, front.length + (encodeFields utf8 fields).bytes.length) := by
  induction fields generalizing front result with
  | nil =>
      rw [List.append_nil]
      rfl
  | cons field fields inductionHypothesis =>
      obtain ⟨key, value⟩ := field
      simp only [encodeFields, encodeField, Encoded.append, List.length_append,
        List.append_assoc] at stands deep ⊢
      have keyReads : Reads utf8 (encodeString utf8 key) (.text key) :=
        (reads _ List.mem_cons_self).1
      have valueReads : Reads utf8 (encodeValue utf8 value).bytes value :=
        (reads _ List.mem_cons_self).2
      have keyRead := keyReads bytes front _ depth stands (by omega)
      have behindKey := stands.trans (List.append_assoc _ _ _).symm
      have valueRead := valueReads bytes _ _ depth behindKey (by omega)
      rw [List.length_append] at valueRead
      have new : key ∉ result.map Prod.fst := by
        rw [List.map_append, List.map_cons, List.nodup_append] at distinct
        exact fun member => distinct.2.2 key member key List.mem_cons_self rfl
      have again : result ++ (key, value) :: fields = result ++ [(key, value)] ++ fields := by simp
      rw [again] at distinct ⊢
      have moved := inductionHypothesis (fun other member => reads other (List.mem_cons_of_mem _ member))
        (behindKey.trans (List.append_assoc _ _ _).symm) (by omega) distinct
      rw [List.length_append, List.length_append] at moved
      simp only [List.length_cons, decodeFields, keyRead, Variant.text?, valueRead,
        Option.bind_eq_bind, Option.bind_some, setField_of_new new]
      rw [moved, Nat.add_assoc, Nat.add_assoc]

/-- The loop adds a field for each entry at most, and where it adds them all it
only adds. -/
theorem decodeFields_grows {decode : Nat → Option (Variant × Nat)} {count cursor : Nat}
    (decoded : decodeFields decode count result cursor = some (final, last)) :
    final.length ≤ result.length + count ∧
      (final.length = result.length + count → result <+: final) := by
  induction count generalizing result cursor with
  | zero =>
      cases decoded
      exact ⟨le_refl _, fun _ => List.prefix_rfl⟩
  | succ count inductionHypothesis =>
      simp only [decodeFields, Option.bind_eq_bind, Option.bind_eq_some_iff] at decoded
      obtain ⟨⟨first, next⟩, -, key, -, ⟨value, further⟩, -, decoded⟩ := decoded
      obtain ⟨bounded, grown⟩ := inductionHypothesis decoded
      dsimp only at bounded grown
      by_cases old : key ∈ result.map Prod.fst
      · have kept := @length_setField_of_old result key value old
        exact ⟨by omega, fun full => by omega⟩
      · rw [setField_of_new old, List.length_append, List.length_singleton] at bounded grown
        refine ⟨by omega, fun full => ?_⟩
        exact (List.prefix_append result [(key, value)]).trans (grown (by omega))

/-- An entry that takes another key or value cannot end as the fields. -/
theorem decodeFields_first {decode : Nat → Option (Variant × Nat)} {cursor : Nat}
    {field : String × Variant} {key : String} {value : Variant}
    (decoded : decodeFields decode fields.length (Variant.setField key value result) cursor =
      some (result ++ field :: fields, last)) : (key, value) = field := by
  obtain ⟨bounded, grown⟩ := decodeFields_grows decoded
  rw [List.length_append, List.length_cons] at bounded grown
  by_cases old : key ∈ result.map Prod.fst
  · rw [length_setField_of_old old] at bounded
    omega
  · rw [setField_of_new old, List.length_append, List.length_singleton,
      List.prefix_append_right_inj] at grown
    exact (List.cons_prefix_cons.mp (grown (by omega))).1

/-- One key or value that is never read as itself is enough. -/
theorem decodeFields_misreads
    (keys : ∀ field ∈ fields, Reads utf8 (encodeString utf8 field.1) (.text field.1) ∨
      Misreads utf8 (encodeString utf8 field.1) (.text field.1))
    (values : ∀ field ∈ fields, Reads utf8 (encodeValue utf8 field.2).bytes field.2 ∨
      Misreads utf8 (encodeValue utf8 field.2).bytes field.2)
    (bad : ∃ field ∈ fields, Misreads utf8 (encodeString utf8 field.1) (.text field.1) ∨
      Misreads utf8 (encodeValue utf8 field.2).bytes field.2)
    (stands : bytes = front ++ ((encodeFields utf8 fields).bytes ++ rest))
    (deep : (encodeFields utf8 fields).bytes.length < depth)
    (distinct : ((result ++ fields).map Prod.fst).Nodup) :
    decodeFields (decodeNested utf8 bytes depth) fields.length result front.length ≠
      some (result ++ fields, last) := by
  induction fields generalizing front result with
  | nil =>
      obtain ⟨field, member, -⟩ := bad
      exact absurd member List.not_mem_nil
  | cons field fields inductionHypothesis =>
      obtain ⟨key, value⟩ := field
      simp only [encodeFields, encodeField, Encoded.append, List.length_append,
        List.append_assoc] at stands deep
      have behindKey := stands.trans (List.append_assoc _ _ _).symm
      intro decoded
      simp only [List.length_cons, decodeFields, Option.bind_eq_bind, Option.bind_eq_some_iff]
        at decoded
      obtain ⟨⟨keyVariant, next⟩, keyHere, readKey, isText, ⟨readValue, further⟩, valueHere,
        decoded⟩ := decoded
      dsimp only at isText valueHere decoded
      obtain ⟨sameKey, sameValue⟩ : readKey = key ∧ readValue = value :=
        Prod.mk.inj (decodeFields_first decoded)
      rw [sameKey] at isText
      rw [sameValue] at valueHere
      rw [sameKey, sameValue] at decoded
      have keySame : keyVariant = .text key := by
        cases keyVariant with
        | text other =>
            cases isText
            rfl
        | nil | bool | integer | array | dictionary => cases isText
      rw [keySame] at keyHere
      have keyKnown : Reads utf8 (encodeString utf8 key) (.text key) ∨
          Misreads utf8 (encodeString utf8 key) (.text key) := keys _ List.mem_cons_self
      have valueKnown : Reads utf8 (encodeValue utf8 value).bytes value ∨
          Misreads utf8 (encodeValue utf8 value).bytes value := values _ List.mem_cons_self
      rcases keyKnown with keyReads | keyMisreads
      · have keyRead := keyReads bytes front _ depth stands (by omega)
        cases keyHere.symm.trans keyRead
        rw [← List.length_append] at valueHere
        rcases valueKnown with valueReads | valueMisreads
        · have valueRead := valueReads bytes _ _ depth behindKey (by omega)
          cases valueHere.symm.trans valueRead
          have new : key ∉ result.map Prod.fst := by
            rw [List.map_append, List.map_cons, List.nodup_append] at distinct
            exact fun member => distinct.2.2 key member key List.mem_cons_self rfl
          have again : result ++ (key, value) :: fields = result ++ [(key, value)] ++ fields := by
            simp
          rw [again] at distinct decoded
          rw [setField_of_new new, ← List.length_append] at decoded
          refine inductionHypothesis
            (fun other member => keys other (List.mem_cons_of_mem _ member))
            (fun other member => values other (List.mem_cons_of_mem _ member)) ?_
            (behindKey.trans (List.append_assoc _ _ _).symm) (by omega) distinct decoded
          obtain ⟨other, member, otherBad⟩ := bad
          rcases List.mem_cons.mp member with rfl | later
          · have notBoth : Misreads utf8 (encodeString utf8 key) (.text key) ∨
                Misreads utf8 (encodeValue utf8 value).bytes value := otherBad
            rcases notBoth with keyBad | valueBad
            · exact absurd keyRead (keyBad bytes front _ depth stands (by omega) _)
            · exact absurd valueRead (valueBad bytes _ _ depth behindKey (by omega) _)
          · exact ⟨other, later, otherBad⟩
        · exact valueMisreads bytes _ _ depth behindKey (by omega) _ valueHere
      · exact keyMisreads bytes front _ depth stands (by omega) _ keyHere

end Fields

/-! ## Round trips -/

/-- A value inside a value, or the value itself. -/
inductive Part : Variant → Variant → Prop
  | self (value : Variant) : Part value value
  | item {items : List Variant} {item part : Variant} (member : item ∈ items)
      (inside : Part part item) : Part part (.array items)
  | field {fields : List (String × Variant)} {field : String × Variant} {part : Variant}
      (member : field ∈ fields) (inside : Part part field.2) : Part part (.dictionary fields)

/-- The number of entries of a container. -/
def entries : Variant → Nat
  | .array items => items.length
  | .dictionary fields => fields.length
  | .nil | .bool _ | .integer _ | .text _ => 0

/-- Some container in the value has more entries than two bytes can count. -/
def Oversized (value : Variant) : Prop := ∃ part, Part part value ∧ 0xffff < entries part

/-- All strings in the value, keys included, have a length of one byte. -/
structure Short (utf8 : Utf8) (value : Variant) : Prop where
  texts : ∀ text, Part (.text text) value → Fitting utf8 text
  keys : ∀ fields, Part (.dictionary fields) value → ∀ field ∈ fields, Fitting utf8 field.1

/-- What the engine's types promise: integers have 64 bits, and a dictionary has
a key once. -/
structure Stored (value : Variant) : Prop where
  integers : ∀ number, Part (.integer number) value → -2 ^ 63 ≤ number ∧ number < 2 ^ 63
  keys : ∀ fields, Part (.dictionary fields) value → (fields.map Prod.fst).Nodup

section RoundTrips

variable {utf8 : Utf8} {value : Variant} {items : List Variant} {fields : List (String × Variant)}

theorem encodeItems_failed : (encodeItems utf8 items).failed = true ↔
    ∃ item ∈ items, (encodeValue utf8 item).failed = true := by
  induction items with
  | nil => simp [encodeItems]
  | cons item items inductionHypothesis =>
      simp [encodeItems, Encoded.append, inductionHypothesis]

theorem encodeFields_failed : (encodeFields utf8 fields).failed = true ↔
    ∃ field ∈ fields, (encodeValue utf8 field.2).failed = true := by
  induction fields with
  | nil => simp [encodeFields]
  | cons field fields inductionHypothesis =>
      obtain ⟨key, value⟩ := field
      simp [encodeFields, encodeField, Encoded.append, inductionHypothesis]

theorem part_array {part : Variant} : Part part (.array items) ↔
    part = .array items ∨ ∃ item ∈ items, Part part item := by
  constructor
  · intro inside
    cases inside with
    | self => exact Or.inl rfl
    | item member inside => exact Or.inr ⟨_, member, inside⟩
  · rintro (rfl | ⟨item, member, inside⟩)
    · exact .self _
    · exact .item member inside

theorem part_dictionary {part : Variant} : Part part (.dictionary fields) ↔
    part = .dictionary fields ∨ ∃ field ∈ fields, Part part field.2 := by
  constructor
  · intro inside
    cases inside with
    | self => exact Or.inl rfl
    | field member inside => exact Or.inr ⟨_, member, inside⟩
  · rintro (rfl | ⟨field, member, inside⟩)
    · exact .self _
    · exact .field member inside

theorem oversized_array : Oversized (.array items) ↔
    0xffff < items.length ∨ ∃ item ∈ items, Oversized item := by
  unfold Oversized
  simp only [part_array, or_and_right, exists_or, exists_eq_left, entries]
  refine or_congr_right ?_
  constructor
  · rintro ⟨part, ⟨item, member, inside⟩, large⟩
    exact ⟨item, member, part, inside, large⟩
  · rintro ⟨item, member, part, inside, large⟩
    exact ⟨part, ⟨item, member, inside⟩, large⟩

theorem oversized_dictionary : Oversized (.dictionary fields) ↔
    0xffff < fields.length ∨ ∃ field ∈ fields, Oversized field.2 := by
  unfold Oversized
  simp only [part_dictionary, or_and_right, exists_or, exists_eq_left, entries]
  refine or_congr_right ?_
  constructor
  · rintro ⟨part, ⟨field, member, inside⟩, large⟩
    exact ⟨field, member, part, inside, large⟩
  · rintro ⟨field, member, part, inside, large⟩
    exact ⟨part, ⟨field, member, inside⟩, large⟩

/-- The encoding reports exactly the containers that are too long. -/
theorem failed_iff : (encodeValue utf8 value).failed = true ↔ Oversized value := by
  have simple {value : Variant} (single : ∀ part, Part part value → entries part = 0) :
      ¬ Oversized value := by
    rintro ⟨part, inside, large⟩
    rw [single part inside] at large
    exact absurd large (Nat.not_lt_zero _)
  induction value using Variant.induction with
  | nil => exact iff_of_false nofun (simple (fun _ inside => by cases inside; rfl))
  | bool => exact iff_of_false nofun (simple (fun _ inside => by cases inside; rfl))
  | integer => exact iff_of_false nofun (simple (fun _ inside => by cases inside; rfl))
  | text => exact iff_of_false nofun (simple (fun _ inside => by cases inside; rfl))
  | array items inductionHypothesis =>
      rw [oversized_array, encodeValue]
      rcases Nat.lt_or_ge 0xffff items.length with large | fits
      · rw [encodeArray, encodeContainer_of_large large]
        exact iff_of_true rfl (Or.inl large)
      · rw [encodeArray, encodeContainer_of_fits fits, or_iff_right (Nat.not_lt.mpr fits)]
        refine encodeItems_failed.trans ?_
        exact exists_congr (fun item => and_congr_right (inductionHypothesis item))
  | dictionary fields inductionHypothesis =>
      rw [oversized_dictionary, encodeValue]
      rcases Nat.lt_or_ge 0xffff fields.length with large | fits
      · rw [encodeMap, encodeContainer_of_large large]
        exact iff_of_true rfl (Or.inl large)
      · rw [encodeMap, encodeContainer_of_fits fits, or_iff_right (Nat.not_lt.mpr fits)]
        refine encodeFields_failed.trans ?_
        exact exists_congr (fun field => and_congr_right (inductionHypothesis field))

theorem Stored.item (stored : Stored (.array items)) {item : Variant} (member : item ∈ items) :
    Stored item :=
  ⟨fun number inside => stored.integers number (.item member inside),
    fun fields inside => stored.keys fields (.item member inside)⟩

theorem Stored.field (stored : Stored (.dictionary fields)) {field : String × Variant}
    (member : field ∈ fields) : Stored field.2 :=
  ⟨fun number inside => stored.integers number (.field member inside),
    fun fields inside => stored.keys fields (.field member inside)⟩

theorem short_array : Short utf8 (.array items) ↔ ∀ item ∈ items, Short utf8 item := by
  constructor
  · intro short item member
    exact ⟨fun text inside => short.texts text (.item member inside),
      fun fields inside => short.keys fields (.item member inside)⟩
  · intro short
    constructor
    case texts =>
      intro text inside
      obtain ⟨item, member, inside⟩ := (part_array.mp inside).resolve_left nofun
      exact (short item member).texts text inside
    case keys =>
      intro fields inside
      obtain ⟨item, member, inside⟩ := (part_array.mp inside).resolve_left nofun
      exact (short item member).keys fields inside

theorem short_dictionary : Short utf8 (.dictionary fields) ↔
    ∀ field ∈ fields, Fitting utf8 field.1 ∧ Short utf8 field.2 := by
  constructor
  · intro short field member
    exact ⟨short.keys fields (.self _) field member,
      ⟨fun text inside => short.texts text (.field member inside),
        fun fields inside => short.keys fields (.field member inside)⟩⟩
  · intro short
    constructor
    case texts =>
      intro text inside
      obtain ⟨field, member, inside⟩ := (part_dictionary.mp inside).resolve_left nofun
      exact (short field member).2.texts text inside
    case keys =>
      intro others inside field member
      rcases part_dictionary.mp inside with same | ⟨other, otherMember, inside⟩
      · cases same
        exact (short field member).1
      · exact (short other otherMember).2.keys others inside field member

theorem not_oversized_array (fits : ¬ Oversized (.array items)) :
    items.length ≤ 0xffff ∧ ∀ item ∈ items, ¬ Oversized item := by
  rw [oversized_array, not_or, Nat.not_lt] at fits
  exact ⟨fits.1, fun item member large => fits.2 ⟨item, member, large⟩⟩

theorem not_oversized_dictionary (fits : ¬ Oversized (.dictionary fields)) :
    fields.length ≤ 0xffff ∧ ∀ field ∈ fields, ¬ Oversized field.2 := by
  rw [oversized_dictionary, not_or, Nat.not_lt] at fits
  exact ⟨fits.1, fun field member large => fits.2 ⟨field, member, large⟩⟩

theorem short_text {text : String} : Short utf8 (.text text) ↔ Fitting utf8 text := by
  constructor
  · intro short
    exact short.texts text (.self _)
  · intro fitting
    constructor
    case texts =>
      intro other inside
      cases inside
      exact fitting
    case keys =>
      intro fields inside
      cases inside

/-- A value that holds no string is short. -/
theorem short_of_single (single : ∀ part, Part part value → part = value)
    (noText : ∀ text, value ≠ .text text) (noFields : ∀ fields, value ≠ .dictionary fields) :
    Short utf8 value :=
  ⟨fun text inside => absurd (single _ inside).symm (noText text),
    fun fields inside => absurd (single _ inside).symm (noFields fields)⟩

theorem reads_array (reads : ∀ item ∈ items, Reads utf8 (encodeValue utf8 item).bytes item)
    (fits : items.length ≤ 0xffff) :
    Reads utf8 (encodeValue utf8 (.array items)).bytes (.array items) := by
  intro bytes front rest depth stands deep
  obtain ⟨depth, rfl⟩ := Nat.exists_eq_succ_of_ne_zero (Nat.ne_of_gt (Nat.zero_lt_of_lt deep))
  rw [encodeValue, encodeArray, encodeContainer_of_fits fits] at stands deep ⊢
  dsimp only at stands deep ⊢
  rw [List.append_assoc] at stands
  rw [List.length_append] at deep ⊢
  have header := @header_positive 0x90 items.length 0xdc
  rw [decodeNested_array fits stands, decodeArray, ← List.length_append,
    decodeItems_reads reads (stands.trans (List.append_assoc _ _ _).symm) (by omega) []]
  rw [List.length_append, Nat.add_assoc]
  rfl

theorem misreads_array (known : ∀ item ∈ items, Reads utf8 (encodeValue utf8 item).bytes item ∨
      Misreads utf8 (encodeValue utf8 item).bytes item)
    (bad : ∃ item ∈ items, Misreads utf8 (encodeValue utf8 item).bytes item)
    (fits : items.length ≤ 0xffff) :
    Misreads utf8 (encodeValue utf8 (.array items)).bytes (.array items) := by
  intro bytes front rest depth stands deep last
  obtain ⟨depth, rfl⟩ := Nat.exists_eq_succ_of_ne_zero (Nat.ne_of_gt (Nat.zero_lt_of_lt deep))
  rw [encodeValue, encodeArray, encodeContainer_of_fits fits] at stands deep
  dsimp only at stands deep
  rw [List.append_assoc] at stands
  rw [List.length_append] at deep
  have header := @header_positive 0x90 items.length 0xdc
  rw [decodeNested_array fits stands, decodeArray, ← List.length_append]
  intro decoded
  obtain ⟨⟨found, cursor⟩, read, same⟩ := Option.map_eq_some_iff.mp decoded
  cases same
  exact decodeItems_misreads known bad (stands.trans (List.append_assoc _ _ _).symm) (by omega) []
    read

theorem reads_dictionary
    (reads : ∀ field ∈ fields, Reads utf8 (encodeString utf8 field.1) (.text field.1) ∧
      Reads utf8 (encodeValue utf8 field.2).bytes field.2)
    (fits : fields.length ≤ 0xffff) (distinct : (fields.map Prod.fst).Nodup) :
    Reads utf8 (encodeValue utf8 (.dictionary fields)).bytes (.dictionary fields) := by
  intro bytes front rest depth stands deep
  obtain ⟨depth, rfl⟩ := Nat.exists_eq_succ_of_ne_zero (Nat.ne_of_gt (Nat.zero_lt_of_lt deep))
  rw [encodeValue, encodeMap, encodeContainer_of_fits fits] at stands deep ⊢
  dsimp only at stands deep ⊢
  rw [List.append_assoc] at stands
  rw [List.length_append] at deep ⊢
  have header := @header_positive 0x80 fields.length 0xde
  rw [decodeNested_map fits stands, decodeMap, ← List.length_append,
    @decodeFields_reads utf8 bytes _ _ depth fields [] reads
      (stands.trans (List.append_assoc _ _ _).symm) (by omega) distinct]
  rw [List.length_append, Nat.add_assoc]
  rfl

theorem misreads_dictionary
    (keys : ∀ field ∈ fields, Reads utf8 (encodeString utf8 field.1) (.text field.1) ∨
      Misreads utf8 (encodeString utf8 field.1) (.text field.1))
    (values : ∀ field ∈ fields, Reads utf8 (encodeValue utf8 field.2).bytes field.2 ∨
      Misreads utf8 (encodeValue utf8 field.2).bytes field.2)
    (bad : ∃ field ∈ fields, Misreads utf8 (encodeString utf8 field.1) (.text field.1) ∨
      Misreads utf8 (encodeValue utf8 field.2).bytes field.2)
    (fits : fields.length ≤ 0xffff) (distinct : (fields.map Prod.fst).Nodup) :
    Misreads utf8 (encodeValue utf8 (.dictionary fields)).bytes (.dictionary fields) := by
  intro bytes front rest depth stands deep last
  obtain ⟨depth, rfl⟩ := Nat.exists_eq_succ_of_ne_zero (Nat.ne_of_gt (Nat.zero_lt_of_lt deep))
  rw [encodeValue, encodeMap, encodeContainer_of_fits fits] at stands deep
  dsimp only at stands deep
  rw [List.append_assoc] at stands
  rw [List.length_append] at deep
  have header := @header_positive 0x80 fields.length 0xde
  rw [decodeNested_map fits stands, decodeMap, ← List.length_append]
  intro decoded
  obtain ⟨⟨found, cursor⟩, read, same⟩ := Option.map_eq_some_iff.mp decoded
  cases same
  exact @decodeFields_misreads utf8 bytes _ _ depth fields [] _ keys values bad
    (stands.trans (List.append_assoc _ _ _).symm) (by omega) distinct read

/-- A value without longer strings is read back; one with a longer string is
never read as itself. -/
theorem reads_or_misreads (lawful : utf8.Lawful) (stored : Stored value)
    (fits : ¬ Oversized value) :
    (Short utf8 value → Reads utf8 (encodeValue utf8 value).bytes value) ∧
      (¬ Short utf8 value → Misreads utf8 (encodeValue utf8 value).bytes value) := by
  induction value using Variant.induction with
  | nil =>
      refine ⟨fun _ => reads_marker (fun bytes decode offset => by simp [decodeMarker]), ?_⟩
      exact fun long => absurd (short_of_single (fun _ inside => by cases inside; rfl)
        (fun _ same => by cases same) (fun _ same => by cases same)) long
  | bool flag =>
      refine ⟨fun _ => ?_, ?_⟩
      · cases flag <;> exact reads_marker (fun bytes decode offset => by simp [decodeMarker])
      · exact fun long =>
          absurd (short_of_single (fun _ inside => by cases inside; rfl)
        (fun _ same => by cases same) (fun _ same => by cases same)) long
  | integer number =>
      obtain ⟨low, high⟩ := stored.integers number (.self _)
      refine ⟨fun _ => reads_integer low high, ?_⟩
      exact fun long => absurd (short_of_single (fun _ inside => by cases inside; rfl)
        (fun _ same => by cases same) (fun _ same => by cases same)) long
  | text text =>
      rw [short_text]
      exact ⟨reads_string lawful, misreads_string lawful⟩
  | array items inductionHypothesis =>
      obtain ⟨counted, itemsFit⟩ := not_oversized_array fits
      have each (item : Variant) (member : item ∈ items) :=
        inductionHypothesis item member (stored.item member) (itemsFit item member)
      rw [short_array]
      constructor
      · intro short
        exact reads_array (fun item member => (each item member).1 (short item member)) counted
      · intro long
        refine misreads_array (fun item member => ?_) ?_ counted
        · by_cases short : Short utf8 item
          · exact Or.inl ((each item member).1 short)
          · exact Or.inr ((each item member).2 short)
        · simp only [not_forall] at long
          obtain ⟨item, member, long⟩ := long
          exact ⟨item, member, (each item member).2 long⟩
  | dictionary fields inductionHypothesis =>
      obtain ⟨counted, fieldsFit⟩ := not_oversized_dictionary fits
      have distinct := stored.keys fields (.self _)
      have each (field : String × Variant) (member : field ∈ fields) :=
        inductionHypothesis field member (stored.field member) (fieldsFit field member)
      rw [short_dictionary]
      constructor
      · intro short
        refine reads_dictionary (fun field member => ?_) counted distinct
        exact ⟨reads_string lawful (short field member).1,
          (each field member).1 (short field member).2⟩
      · intro long
        refine misreads_dictionary (fun field _ => ?_) (fun field member => ?_) ?_ counted distinct
        · by_cases fitting : Fitting utf8 field.1
          · exact Or.inl (reads_string lawful fitting)
          · exact Or.inr (misreads_string lawful fitting)
        · by_cases short : Short utf8 field.2
          · exact Or.inl ((each field member).1 short)
          · exact Or.inr ((each field member).2 short)
        · simp only [not_forall] at long
          obtain ⟨field, member, long⟩ := long
          rw [not_and_or] at long
          refine ⟨field, member, ?_⟩
          rcases long with key | value
          · exact Or.inl (misreads_string lawful key)
          · exact Or.inr ((each field member).2 value)

/-- Encoding reports a failure, or whatever follows the bytes they are decoded to
the value and the place behind them. -/
def RoundTrips (utf8 : Utf8) (value : Variant) : Prop :=
  (encodeValue utf8 value).failed = true ∨
    ∀ rest, decodeValue utf8 ((encodeValue utf8 value).bytes ++ rest) 0 =
      some (value, (encodeValue utf8 value).bytes.length)

theorem decodeValue_of_reads {encoding : List UInt8} (reads : Reads utf8 encoding value)
    (rest : List UInt8) :
    decodeValue utf8 (encoding ++ rest) 0 = some (value, encoding.length) := by
  have read := reads (encoding ++ rest) [] rest ((encoding ++ rest).length + 1) rfl
    (by rw [List.length_append]; omega)
  rw [List.length_nil, Nat.zero_add] at read
  exact read

/-- A value makes the round trip exactly when every string in it fits in a length
of one byte, or a container in it is too long to be encoded at all; and two values
without longer strings that both can be encoded never share their bytes. -/
theorem roundTrips_iff (lawful : utf8.Lawful) (stored : Stored value) :
    (RoundTrips utf8 value ↔ Oversized value ∨ Short utf8 value) ∧
      ∀ other, Stored other → ¬ Oversized value → ¬ Oversized other → Short utf8 value →
        Short utf8 other → (encodeValue utf8 value).bytes = (encodeValue utf8 other).bytes →
          value = other := by
  constructor
  · unfold RoundTrips
    rw [failed_iff]
    by_cases large : Oversized value
    · exact iff_of_true (Or.inl large) (Or.inl large)
    · rw [or_iff_right large, or_iff_right large]
      obtain ⟨reads, misreads⟩ := reads_or_misreads lawful stored large
      constructor
      · intro round
        by_contra long
        have read := round []
        rw [List.append_nil] at read
        refine misreads long _ [] [] _ (List.append_nil _).symm ?_ _ read
        exact Nat.lt_succ_self _
      · intro short
        exact decodeValue_of_reads (reads short)
  · intro other otherStored large otherLarge short otherShort same
    have read := decodeValue_of_reads ((reads_or_misreads lawful stored large).1 short) []
    have otherRead := decodeValue_of_reads
      ((reads_or_misreads lawful otherStored otherLarge).1 otherShort) []
    rw [same, otherRead] at read
    exact (Prod.mk.inj (Option.some.inj read)).1.symm

end RoundTrips

/-! ## A string that is cut -/

/-- Conversions that read malformed bytes as an empty string. -/
def strictUtf8 : Utf8 where
  toUtf8Buffer value := value.toByteArray.data.toList
  getStringFromUtf8 bytes := (String.fromUTF8? ⟨bytes.toArray⟩).getD ""

theorem strictUtf8_lawful : strictUtf8.Lawful := by
  constructor
  case inverse =>
    intro value
    unfold strictUtf8 String.fromUTF8?
    dsimp only
    rw [Array.toArray_toList, dif_pos value.isValidUTF8]
    rfl
  case part =>
    intro value length enough same
    unfold strictUtf8 at enough same
    dsimp only at enough same
    -- what is read has no more bytes than the part
    have bounded : value.toByteArray.data.toList.length ≤ length := by
      rw [← same]
      unfold String.fromUTF8?
      split
      · exact List.length_take_le _ _
      · exact Nat.zero_le _
    omega

/-- An array with a string and a negative integer beside the shortest form. -/
def pair : Variant := .array [.text "ab", .integer (-33)]

theorem pair_stored : Stored pair := by
  constructor
  case integers =>
    intro number inside
    obtain ⟨item, member, inside⟩ := (part_array.mp inside).resolve_left nofun
    simp only [List.mem_cons, List.not_mem_nil, or_false] at member
    rcases member with rfl | rfl
    · cases inside
    · cases inside
      decide
  case keys =>
    intro fields inside
    obtain ⟨item, member, inside⟩ := (part_array.mp inside).resolve_left nofun
    simp only [List.mem_cons, List.not_mem_nil, or_false] at member
    rcases member with rfl | rfl <;> cases inside

theorem pair_short : Short strictUtf8 pair := by
  refine short_array.mpr ?_
  intro item member
  simp only [List.mem_cons, List.not_mem_nil, or_false] at member
  rcases member with rfl | rfl
  · refine short_text.mpr ?_
    unfold Fitting
    decide +kernel
  · exact short_of_single (fun _ inside => by cases inside; rfl)
      (fun _ same => by cases same) (fun _ same => by cases same)

theorem roundTrips_pair : RoundTrips strictUtf8 pair :=
  (roundTrips_iff strictUtf8_lawful pair_stored).1.mpr (Or.inr pair_short)

/-- A string of 256 bytes. -/
def longText : String := String.ofList (List.replicate 0x100 'a')

/-- The string is encoded with the length zero and read back as an empty one. -/
theorem longText_cut : ¬ RoundTrips strictUtf8 (.text longText) := by
  rintro (failed | round)
  · cases failed
  · have read := round []
    have cut : decodeValue strictUtf8
        ((encodeValue strictUtf8 (.text longText)).bytes ++ []) 0 = some (.text "", 2) := by
      decide +kernel
    rw [cut] at read
    have last := (Prod.mk.inj (Option.some.inj read)).2
    revert last
    decide +kernel

end MessagePack
end Client
end Revenant
