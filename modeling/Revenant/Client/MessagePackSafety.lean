import Revenant.Client.MessagePack
import Mathlib.Data.List.GetD
import Mathlib.Data.List.Perm.Subperm

namespace Revenant
namespace Client
namespace MessagePack

open Library

/-!
# The decoder on arbitrary bytes

The decoder with a log of the bytes it reads and of the calls it makes.  Its
answer is the decoder's.  It reads inside the bytes only, and its calls come at
offsets that strictly increase up to the end of the bytes, so their number does
not depend on the lengths that containers announce.

`Within` is the invariant of a log: the accesses behind an offset lie inside
the bytes, and the calls follow one another.  It composes along the entries of
a container, which is all that the loops need.
-/

inductive Access where
  | call (offset : Nat)
  | read (index : Nat)
  /-- The bound on the depth of the model was met. -/
  | exhausted
  deriving DecidableEq, Repr

/-- An answer with the end of what was read, and what was accessed for it. -/
structure Traced (Value : Type) where
  value : Option (Value × Nat)
  log : List Access
  deriving DecidableEq

namespace Traced

variable {Value Result : Type}

def done (value : Value) (next : Nat) : Traced Value := ⟨some (value, next), []⟩

def empty : Traced Value := ⟨none, []⟩

def andThen (first : Traced Value) (rest : Value → Nat → Traced Result) : Traced Result :=
  match first.value with
  | none => ⟨none, first.log⟩
  | some (value, next) => ⟨(rest value next).value, first.log ++ (rest value next).log⟩

theorem andThen_none {first : Traced Value} (rest : Value → Nat → Traced Result)
    (stopped : first.value = none) : first.andThen rest = ⟨none, first.log⟩ := by
  simp only [andThen, stopped]

theorem andThen_some {first : Traced Value} (rest : Value → Nat → Traced Result) {value : Value}
    {next : Nat} (goes : first.value = some (value, next)) :
    first.andThen rest = ⟨(rest value next).value, first.log ++ (rest value next).log⟩ := by
  simp only [andThen, goes]

/-- The answer of two steps in a row. -/
theorem andThen_value (first : Traced Value) (rest : Value → Nat → Traced Result) :
    (first.andThen rest).value = first.value.bind (fun (value, next) => (rest value next).value) := by
  cases answer : first.value with
  | none => rw [andThen_none rest answer, Option.bind_none]
  | some pair => rw [andThen_some rest answer, Option.bind_some]

end Traced

section Tracing

variable (utf8 : Utf8) (bytes : List UInt8)

/-- The bytes from an index on, read one by one. -/
def readRange (start width : Nat) : Traced (List UInt8) :=
  ⟨some ((List.range' start width).map (bytes.getD · 0), start + width),
    (List.range' start width).map .read⟩

def traceString (offset length : Nat) : Traced Variant :=
  if offset + length > bytes.length then .empty
  else (readRange bytes offset length).andThen (fun buffer next =>
    .done (.text (utf8.getStringFromUtf8 buffer)) next)

def traceSignedInteger (offset width : Nat) : Traced Variant :=
  (readRange bytes (offset + 1) width).andThen (fun number next =>
    .done (.integer (ofSignedBigEndian number)) next)

/-- A number of so many bytes behind the marker. -/
def traceNumber (offset width : Nat) (convert : Nat → Int) : Traced Variant :=
  (readRange bytes (offset + 1) width).andThen (fun number next =>
    .done (.integer (convert (ofBigEndian number))) next)

def traceFields (decode : Nat → Traced Variant) :
    Nat → List (String × Variant) → Nat → Traced (List (String × Variant))
  | 0, result, cursor => .done result cursor
  | count + 1, result, cursor =>
      (decode cursor).andThen (fun key cursor =>
        match key.text? with
        | none => .empty
        | some key => (decode cursor).andThen (fun item cursor =>
            traceFields decode count (Variant.setField key item result) cursor))

def traceItems (decode : Nat → Traced Variant) :
    Nat → List Variant → Nat → Traced (List Variant)
  | 0, result, cursor => .done result cursor
  | count + 1, result, cursor =>
      (decode cursor).andThen (fun item cursor =>
        traceItems decode count (result ++ [item]) cursor)

def traceMap (decode : Nat → Traced Variant) (offset length : Nat) : Traced Variant :=
  (traceFields decode length [] offset).andThen (fun fields next => .done (.dictionary fields) next)

def traceArray (decode : Nat → Traced Variant) (offset length : Nat) : Traced Variant :=
  (traceItems decode length [] offset).andThen (fun items next => .done (.array items) next)

/-- What a marker at an offset announces. -/
def traceMarker (decode : Nat → Traced Variant) (offset marker : Nat) : Traced Variant :=
  if marker ≤ 0x7f then .done (.integer marker) (offset + 1)
  else if 0xe0 ≤ marker then .done (.integer ((marker : Int) - 0x100)) (offset + 1)
  else if 0xa0 ≤ marker ∧ marker ≤ 0xbf then traceString utf8 bytes (offset + 1) (marker &&& 0x1f)
  else if 0x80 ≤ marker ∧ marker ≤ 0x8f then traceMap decode (offset + 1) (marker &&& 0x0f)
  else if 0x90 ≤ marker ∧ marker ≤ 0x9f then traceArray decode (offset + 1) (marker &&& 0x0f)
  else if marker = 0xc0 then .done .nil (offset + 1)
  else if marker = 0xc2 then .done (.bool false) (offset + 1)
  else if marker = 0xc3 then .done (.bool true) (offset + 1)
  else if marker = 0xcc ∧ offset + 1 < bytes.length then traceNumber bytes offset 1 Int.ofNat
  else if marker = 0xcd ∧ offset + 2 < bytes.length then traceNumber bytes offset 2 Int.ofNat
  else if marker = 0xce ∧ offset + 4 < bytes.length then traceNumber bytes offset 4 Int.ofNat
  else if marker = 0xcf ∧ offset + 8 < bytes.length then traceNumber bytes offset 8 wrap64
  else if marker = 0xd0 ∧ offset + 1 < bytes.length then traceSignedInteger bytes offset 1
  else if marker = 0xd1 ∧ offset + 2 < bytes.length then traceSignedInteger bytes offset 2
  else if marker = 0xd2 ∧ offset + 4 < bytes.length then traceSignedInteger bytes offset 4
  else if marker = 0xd3 ∧ offset + 8 < bytes.length then traceSignedInteger bytes offset 8
  else if marker = 0xd9 ∧ offset + 1 < bytes.length then
    (readRange bytes (offset + 1) 1).andThen (fun length next =>
      traceString utf8 bytes next (ofBigEndian length))
  else if marker = 0xdc ∧ offset + 2 < bytes.length then
    (readRange bytes (offset + 1) 2).andThen (fun length next =>
      traceArray decode next (ofBigEndian length))
  else if marker = 0xde ∧ offset + 2 < bytes.length then
    (readRange bytes (offset + 1) 2).andThen (fun length next =>
      traceMap decode next (ofBigEndian length))
  else .empty

/-- One call of the decoder, which logs itself and reads the marker when there
is one. -/
def traceNested : Nat → Nat → Traced Variant
  | 0, _ => ⟨none, [.exhausted]⟩
  | depth + 1, offset =>
      let answer :=
        if offset ≥ bytes.length then .empty
        else (readRange bytes offset 1).andThen (fun marker _ =>
          traceMarker utf8 bytes (traceNested depth) offset (ofBigEndian marker))
      { answer with log := .call offset :: answer.log }

def traceValue (offset : Nat) : Traced Variant := traceNested utf8 bytes (bytes.length + 1) offset

end Tracing

/-! ## The answers -/

section Answers

variable {utf8 : Utf8} {bytes : List UInt8} {trace : Nat → Traced Variant}
  {decode : Nat → Option (Variant × Nat)}

/-- The bytes read one by one are the bytes behind the marker. -/
theorem range_eq_behind {start width : Nat} (inside : start + width ≤ bytes.length) :
    (List.range' start width).map (bytes.getD · 0) = (bytes.drop start).take width := by
  refine List.ext_getElem ?_ ?_
  · rw [List.length_map, List.length_range', List.length_take, List.length_drop]
    omega
  · intro index here there
    rw [List.length_map, List.length_range'] at here
    rw [List.getElem_map, List.getElem_range', List.getElem_take, List.getElem_drop]
    simp only [Nat.one_mul]
    exact List.getD_eq_getElem _ _ (by omega)

theorem value_ite {condition : Prop} [Decidable condition] {first second : Traced Variant}
    {left right : Option (Variant × Nat)} (holds : condition → first.value = left)
    (fails : second.value = right) :
    (if condition then first else second).value = if condition then left else right := by
  by_cases case : condition
  · rw [if_pos case, if_pos case]
    exact holds case
  · rw [if_neg case, if_neg case]
    exact fails

theorem traceString_value (offset length : Nat) :
    (traceString utf8 bytes offset length).value = decodeString utf8 bytes offset length := by
  unfold traceString decodeString
  by_cases short : offset + length > bytes.length
  · rw [if_pos short, if_pos short]
    rfl
  · rw [if_neg short, if_neg short, Traced.andThen_value]
    simp only [readRange, Option.bind_some, Traced.done, range_eq_behind (Nat.le_of_not_lt short)]

theorem traceSignedInteger_value {offset width : Nat} (inside : offset + width < bytes.length) :
    (traceSignedInteger bytes offset width).value = decodeSignedInteger bytes offset width := by
  have range := @range_eq_behind bytes (offset + 1) width (by omega)
  simp only [traceSignedInteger, Traced.andThen_value, readRange, Option.bind_some, Traced.done,
    range, decodeSignedInteger, behind]
  congr 2
  omega

theorem traceNumber_value {offset width : Nat} {convert : Nat → Int}
    (inside : offset + width < bytes.length) :
    (traceNumber bytes offset width convert).value =
      some (.integer (convert (ofBigEndian (behind bytes offset width))), offset + 1 + width) := by
  have range := @range_eq_behind bytes (offset + 1) width (by omega)
  simp only [traceNumber, Traced.andThen_value, readRange, Option.bind_some, Traced.done, range,
    behind]

theorem traceFields_value (same : ∀ offset, (trace offset).value = decode offset) (count : Nat)
    (result : List (String × Variant)) (cursor : Nat) :
    (traceFields trace count result cursor).value = decodeFields decode count result cursor := by
  induction count generalizing result cursor with
  | zero => rfl
  | succ count inductionHypothesis =>
      simp only [traceFields, decodeFields, Traced.andThen_value, same, Option.bind_eq_bind]
      congr 1
      funext field
      obtain ⟨key, next⟩ := field
      dsimp only
      cases key.text? with
      | none => rfl
      | some key =>
          simp only [Traced.andThen_value, same, inductionHypothesis, Option.bind_some]

theorem traceItems_value (same : ∀ offset, (trace offset).value = decode offset) (count : Nat)
    (result : List Variant) (cursor : Nat) :
    (traceItems trace count result cursor).value = decodeItems decode count result cursor := by
  induction count generalizing result cursor with
  | zero => rfl
  | succ count inductionHypothesis =>
      simp only [traceItems, decodeItems, Traced.andThen_value, same, Option.bind_eq_bind,
        inductionHypothesis]

theorem traceMap_value (same : ∀ offset, (trace offset).value = decode offset)
    (offset length : Nat) : (traceMap trace offset length).value = decodeMap decode offset length := by
  rw [traceMap, Traced.andThen_value, traceFields_value same, decodeMap, Option.map_eq_bind]
  rfl

theorem traceArray_value (same : ∀ offset, (trace offset).value = decode offset)
    (offset length : Nat) :
    (traceArray trace offset length).value = decodeArray decode offset length := by
  rw [traceArray, Traced.andThen_value, traceItems_value same, decodeArray, Option.map_eq_bind]
  rfl

theorem traceMarker_value (same : ∀ offset, (trace offset).value = decode offset)
    (offset marker : Nat) :
    (traceMarker utf8 bytes trace offset marker).value =
      decodeMarker utf8 bytes decode offset marker := by
  have length (width : Nat) (inside : offset + width < bytes.length) :
      (List.range' (offset + 1) width).map (bytes.getD · 0) = behind bytes offset width :=
    range_eq_behind (by omega)
  refine value_ite (fun _ => rfl) ?_
  refine value_ite (fun _ => rfl) ?_
  refine value_ite (fun _ => traceString_value _ _) ?_
  refine value_ite (fun _ => traceMap_value same _ _) ?_
  refine value_ite (fun _ => traceArray_value same _ _) ?_
  refine value_ite (fun _ => rfl) ?_
  refine value_ite (fun _ => rfl) ?_
  refine value_ite (fun _ => rfl) ?_
  refine value_ite (fun inside => traceNumber_value inside.2) ?_
  refine value_ite (fun inside => traceNumber_value inside.2) ?_
  refine value_ite (fun inside => traceNumber_value inside.2) ?_
  refine value_ite (fun inside => traceNumber_value inside.2) ?_
  refine value_ite (fun inside => traceSignedInteger_value inside.2) ?_
  refine value_ite (fun inside => traceSignedInteger_value inside.2) ?_
  refine value_ite (fun inside => traceSignedInteger_value inside.2) ?_
  refine value_ite (fun inside => traceSignedInteger_value inside.2) ?_
  refine value_ite (fun inside => ?_) ?_
  · simp only [Traced.andThen_value, readRange, Option.bind_some, traceString_value,
      length 1 inside.2, Nat.add_assoc, Nat.reduceAdd]
  refine value_ite (fun inside => ?_) ?_
  · simp only [Traced.andThen_value, readRange, Option.bind_some, traceArray_value same,
      length 2 inside.2, Nat.add_assoc, Nat.reduceAdd]
  refine value_ite (fun inside => ?_) rfl
  simp only [Traced.andThen_value, readRange, Option.bind_some, traceMap_value same,
    length 2 inside.2, Nat.add_assoc, Nat.reduceAdd]

/-- The log does not change the answer. -/
theorem traceNested_value (depth offset : Nat) :
    (traceNested utf8 bytes depth offset).value = decodeNested utf8 bytes depth offset := by
  induction depth generalizing offset with
  | zero => rfl
  | succ depth inductionHypothesis =>
      simp only [traceNested, decodeNested]
      by_cases outside : offset ≥ bytes.length
      · rw [if_pos outside, List.getElem?_eq_none outside]
        rfl
      · have inside : offset < bytes.length := Nat.lt_of_not_le outside
        rw [if_neg outside, Traced.andThen_value, List.getElem?_eq_getElem inside]
        simp only [readRange, Option.bind_some]
        rw [traceMarker_value inductionHypothesis]
        congr 1
        simp [ofBigEndian, inside]

end Answers

/-! ## The accesses -/

/-- The offsets of the calls, in the order they are made. -/
def callsOf (log : List Access) : List Nat :=
  log.filterMap (fun access => match access with
    | .call offset => some offset
    | _ => none)

/-- What was accessed from `start` on: bytes inside, and calls that follow one
another up to the end of what was read. -/
structure Within {Value : Type} (bytes : List UInt8) (start : Nat) (traced : Traced Value) : Prop where
  reads : ∀ index, .read index ∈ traced.log → index < bytes.length
  calls : ∀ later ∈ callsOf traced.log, start ≤ later ∧ later ≤ bytes.length
  ordered : (callsOf traced.log).Pairwise (· < ·)
  full : .exhausted ∉ traced.log
  ends : ∀ value next, traced.value = some (value, next) →
    start ≤ next ∧ next ≤ bytes.length ∧ ∀ later ∈ callsOf traced.log, later < next

section Accesses

variable {Value Result : Type} {bytes : List UInt8} {start : Nat}

theorem callsOf_append (first second : List Access) :
    callsOf (first ++ second) = callsOf first ++ callsOf second := List.filterMap_append

theorem callsOf_reads (indices : List Nat) : callsOf (indices.map .read) = [] := by
  induction indices with
  | nil => rfl
  | cons index indices inductionHypothesis => exact inductionHypothesis

theorem within_done (value : Value) {next : Nat} (ahead : start ≤ next)
    (inside : next ≤ bytes.length) : Within bytes start (Traced.done value next) := by
  constructor
  · exact fun _ member => absurd member List.not_mem_nil
  · exact fun _ member => absurd member List.not_mem_nil
  · exact List.Pairwise.nil
  · exact List.not_mem_nil
  · intro other last same
    cases same
    exact ⟨ahead, inside, fun _ member => absurd member List.not_mem_nil⟩

theorem within_empty : Within bytes start (Traced.empty : Traced Value) := by
  constructor
  · exact fun _ member => absurd member List.not_mem_nil
  · exact fun _ member => absurd member List.not_mem_nil
  · exact List.Pairwise.nil
  · exact List.not_mem_nil
  · intro other last impossible
    cases impossible

theorem within_readRange {width : Nat} (inside : start + width ≤ bytes.length) :
    Within bytes start (readRange bytes start width) := by
  have calls : callsOf (readRange bytes start width).log = [] := callsOf_reads _
  constructor
  · intro index member
    obtain ⟨other, range, same⟩ := List.mem_map.mp member
    cases same
    have bound := (List.mem_range'_1.mp range).2
    omega
  · rw [calls]
    exact fun _ member => absurd member List.not_mem_nil
  · rw [calls]
    exact List.Pairwise.nil
  · intro member
    obtain ⟨other, -, impossible⟩ := List.mem_map.mp member
    cases impossible
  · intro value next same
    rw [calls]
    cases same
    exact ⟨Nat.le_add_right _ _, inside, fun _ member => absurd member List.not_mem_nil⟩

/-- Two steps in a row: the calls of the second come behind those of the first. -/
theorem Within.andThen {first : Traced Value} {rest : Value → Nat → Traced Result}
    (within : Within bytes start first)
    (goesOn : ∀ value next, first.value = some (value, next) → Within bytes next (rest value next)) :
    Within bytes start (first.andThen rest) := by
  cases answer : first.value with
  | none =>
      rw [Traced.andThen_none rest answer]
      refine ⟨within.reads, within.calls, within.ordered, within.full, ?_⟩
      intro value next impossible
      cases impossible
  | some pair =>
      obtain ⟨value, next⟩ := pair
      rw [Traced.andThen_some rest answer]
      have second := goesOn value next answer
      obtain ⟨ahead, -, before⟩ := within.ends value next answer
      constructor
      · intro index member
        rcases List.mem_append.mp member with early | late
        · exact within.reads index early
        · exact second.reads index late
      · dsimp only
        rw [callsOf_append]
        intro later member
        rcases List.mem_append.mp member with early | late
        · exact within.calls later early
        · have bounds := second.calls later late
          exact ⟨le_trans ahead bounds.1, bounds.2⟩
      · dsimp only
        rw [callsOf_append]
        refine List.pairwise_append.mpr ⟨within.ordered, second.ordered, ?_⟩
        intro early earlyIn late lateIn
        exact lt_of_lt_of_le (before early earlyIn) (second.calls late lateIn).1
      · intro member
        rcases List.mem_append.mp member with early | late
        · exact within.full early
        · exact second.full late
      · intro last final same
        obtain ⟨behind, inside, later⟩ := second.ends last final same
        refine ⟨le_trans ahead behind, inside, ?_⟩
        dsimp only
        rw [callsOf_append]
        intro call member
        rcases List.mem_append.mp member with early | late
        · exact lt_of_lt_of_le (before call early) behind
        · exact later call late

theorem within_ite {condition : Prop} [Decidable condition] {first second : Traced Value}
    (holds : condition → Within bytes start first) (fails : Within bytes start second) :
    Within bytes start (if condition then first else second) := by
  by_cases case : condition
  · rw [if_pos case]
    exact holds case
  · rw [if_neg case]
    exact fails

/-- A step that only converts what was read. -/
theorem Within.convert {first : Traced Value} (convert : Value → Result)
    (within : Within bytes start first) :
    Within bytes start (first.andThen (fun value next => .done (convert value) next)) :=
  within.andThen (fun value next answer => within_done _ (le_refl next)
    (within.ends value next answer).2.1)

end Accesses

/-! ## The decoder's accesses -/

section Decoder

variable {utf8 : Utf8} {bytes : List UInt8} {trace : Nat → Traced Variant} {start : Nat}

/-- What the calls behind an offset access. -/
def Behaves (bytes : List UInt8) (start : Nat) (trace : Nat → Traced Variant) : Prop :=
  ∀ offset, start ≤ offset → offset ≤ bytes.length → Within bytes offset (trace offset)

theorem within_traceFields (behaves : Behaves bytes start trace) (count : Nat)
    (result : List (String × Variant)) {cursor : Nat} (ahead : start ≤ cursor)
    (inside : cursor ≤ bytes.length) : Within bytes cursor (traceFields trace count result cursor) := by
  induction count generalizing result cursor with
  | zero => exact within_done _ (le_refl _) inside
  | succ count inductionHypothesis =>
      have here := behaves cursor ahead inside
      refine here.andThen (fun key next answer => ?_)
      obtain ⟨further, room, -⟩ := here.ends key next answer
      cases key.text? with
      | none => exact within_empty
      | some key =>
          have there := behaves next (le_trans ahead further) room
          refine there.andThen (fun item last answer => ?_)
          obtain ⟨beyond, space, -⟩ := there.ends item last answer
          exact inductionHypothesis _ (le_trans ahead (le_trans further beyond)) space

theorem within_traceItems (behaves : Behaves bytes start trace) (count : Nat)
    (result : List Variant) {cursor : Nat} (ahead : start ≤ cursor)
    (inside : cursor ≤ bytes.length) : Within bytes cursor (traceItems trace count result cursor) := by
  induction count generalizing result cursor with
  | zero => exact within_done _ (le_refl _) inside
  | succ count inductionHypothesis =>
      have here := behaves cursor ahead inside
      refine here.andThen (fun item next answer => ?_)
      obtain ⟨further, room, -⟩ := here.ends item next answer
      exact inductionHypothesis _ (le_trans ahead further) room

theorem within_traceMap (behaves : Behaves bytes start trace) {offset : Nat} (length : Nat)
    (ahead : start ≤ offset) (inside : offset ≤ bytes.length) :
    Within bytes offset (traceMap trace offset length) :=
  (within_traceFields behaves length [] ahead inside).convert Variant.dictionary

theorem within_traceArray (behaves : Behaves bytes start trace) {offset : Nat} (length : Nat)
    (ahead : start ≤ offset) (inside : offset ≤ bytes.length) :
    Within bytes offset (traceArray trace offset length) :=
  (within_traceItems behaves length [] ahead inside).convert Variant.array

theorem within_traceString (offset length : Nat) :
    Within bytes offset (traceString utf8 bytes offset length) := by
  unfold traceString
  split
  · exact within_empty
  · next enough =>
    exact (within_readRange (Nat.le_of_not_lt enough)).convert (fun buffer => Variant.text
      (utf8.getStringFromUtf8 buffer))

theorem within_traceNumber {offset width : Nat} (convert : Nat → Int)
    (inside : offset + width < bytes.length) :
    Within bytes (offset + 1) (traceNumber bytes offset width convert) :=
  (within_readRange (by omega)).convert (fun number => Variant.integer (convert (ofBigEndian number)))

theorem within_traceSignedInteger {offset width : Nat} (inside : offset + width < bytes.length) :
    Within bytes (offset + 1) (traceSignedInteger bytes offset width) :=
  (within_readRange (by omega)).convert (fun number => Variant.integer (ofSignedBigEndian number))

/-- Whatever a marker announces, what follows it is accessed in order. -/
theorem within_traceMarker {offset : Nat} (behaves : Behaves bytes (offset + 1) trace)
    (here : offset < bytes.length) (marker : Nat) :
    Within bytes (offset + 1) (traceMarker utf8 bytes trace offset marker) := by
  have single (value : Variant) : Within bytes (offset + 1) (Traced.done value (offset + 1)) :=
    within_done value (le_refl _) here
  have length {width : Nat} (inside : offset + width < bytes.length) :
      Within bytes (offset + 1) (readRange bytes (offset + 1) width) :=
    within_readRange (by omega)
  refine within_ite (fun _ => single _) ?_
  refine within_ite (fun _ => single _) ?_
  refine within_ite (fun _ => within_traceString _ _) ?_
  refine within_ite (fun _ => within_traceMap behaves _ (le_refl _) here) ?_
  refine within_ite (fun _ => within_traceArray behaves _ (le_refl _) here) ?_
  refine within_ite (fun _ => single _) ?_
  refine within_ite (fun _ => single _) ?_
  refine within_ite (fun _ => single _) ?_
  refine within_ite (fun inside => within_traceNumber _ inside.2) ?_
  refine within_ite (fun inside => within_traceNumber _ inside.2) ?_
  refine within_ite (fun inside => within_traceNumber _ inside.2) ?_
  refine within_ite (fun inside => within_traceNumber _ inside.2) ?_
  refine within_ite (fun inside => within_traceSignedInteger inside.2) ?_
  refine within_ite (fun inside => within_traceSignedInteger inside.2) ?_
  refine within_ite (fun inside => within_traceSignedInteger inside.2) ?_
  refine within_ite (fun inside => within_traceSignedInteger inside.2) ?_
  refine within_ite (fun inside => ?_) ?_
  · exact (length inside.2).andThen (fun _ next _ => within_traceString next _)
  refine within_ite (fun inside => ?_) ?_
  · refine (length inside.2).andThen (fun number next answer => ?_)
    obtain ⟨ahead, room, -⟩ := (length inside.2).ends number next answer
    exact within_traceArray behaves _ ahead room
  refine within_ite (fun inside => ?_) within_empty
  refine (length inside.2).andThen (fun number next answer => ?_)
  obtain ⟨ahead, room, -⟩ := (length inside.2).ends number next answer
  exact within_traceMap behaves _ ahead room

/-- The marker itself is read in front of what it announces. -/
theorem within_marker {offset : Nat} (here : offset < bytes.length) :
    Within bytes (offset + 1) (readRange bytes offset 1) := by
  have read := @within_readRange bytes offset 1 here
  have calls : callsOf (readRange bytes offset 1).log = [] := callsOf_reads _
  refine { read with calls := ?_, ends := ?_ }
  · rw [calls]
    exact fun _ member => absurd member List.not_mem_nil
  · intro value next same
    rw [calls]
    cases same
    exact ⟨le_refl _, here, fun _ member => absurd member List.not_mem_nil⟩

/-- A call in front of what it accesses. -/
theorem Within.call {offset : Nat} {traced : Traced Variant}
    (within : Within bytes (offset + 1) traced) (inside : offset ≤ bytes.length) :
    Within bytes offset { traced with log := .call offset :: traced.log } := by
  have calls : callsOf (.call offset :: traced.log) = offset :: callsOf traced.log := rfl
  constructor
  · intro index member
    rcases List.mem_cons.mp member with impossible | later
    · cases impossible
    · exact within.reads index later
  · dsimp only
    rw [calls]
    intro later member
    rcases List.mem_cons.mp member with rfl | further
    · exact ⟨le_refl _, inside⟩
    · have bounds := within.calls later further
      exact ⟨by omega, bounds.2⟩
  · dsimp only
    rw [calls]
    refine List.pairwise_cons.mpr ⟨?_, within.ordered⟩
    intro later member
    exact (within.calls later member).1
  · intro member
    rcases List.mem_cons.mp member with impossible | later
    · cases impossible
    · exact within.full later
  · intro value next same
    obtain ⟨ahead, room, before⟩ := within.ends value next same
    refine ⟨by omega, room, ?_⟩
    dsimp only
    rw [calls]
    intro later member
    rcases List.mem_cons.mp member with rfl | further
    · exact ahead
    · exact before later further

/-- What a call does after it has logged itself. -/
theorem traceNested_eq {depth offset : Nat} (deep : bytes.length < offset + (depth + 1))
    (behaves : ∀ later, later ≤ bytes.length → bytes.length < later + depth →
      Within bytes later (traceNested utf8 bytes depth later)) :
    ∃ answer, traceNested utf8 bytes (depth + 1) offset =
        { answer with log := .call offset :: answer.log } ∧ Within bytes (offset + 1) answer := by
  refine ⟨_, rfl, ?_⟩
  by_cases outside : offset ≥ bytes.length
  · rw [if_pos outside]
    exact within_empty
  · rw [if_neg outside]
    have here : offset < bytes.length := Nat.lt_of_not_le outside
    have later : Behaves bytes (offset + 1) (traceNested utf8 bytes depth) :=
      fun next ahead inside => behaves next inside (by omega)
    refine (within_marker here).andThen (fun marker next answer => ?_)
    cases answer
    exact within_traceMarker later here _

theorem within_traceNested {depth offset : Nat} (inside : offset ≤ bytes.length)
    (deep : bytes.length < offset + depth) :
    Within bytes offset (traceNested utf8 bytes depth offset) := by
  induction depth generalizing offset with
  | zero => omega
  | succ depth inductionHypothesis =>
      obtain ⟨answer, same, within⟩ := traceNested_eq deep
        (fun later room enough => inductionHypothesis room enough)
      rw [same]
      exact within.call inside

end Decoder

/-- Calls in strict order between two offsets are no more than the offsets. -/
theorem length_le_of_ordered {calls : List Nat} {first last : Nat}
    (ordered : calls.Pairwise (· < ·)) (bounds : ∀ call ∈ calls, first ≤ call ∧ call ≤ last) :
    calls.length ≤ last + 1 - first := by
  have distinct : calls.Nodup := ordered.imp (fun less => ne_of_lt less)
  have inside : calls ⊆ List.range' first (last + 1 - first) := by
    intro call member
    have bound := bounds call member
    rw [List.mem_range'_1]
    omega
  have few := (distinct.subperm inside).length_le
  rwa [List.length_range'] at few

/-- The decoder on any bytes: it reads inside them, its answer ends inside them
and behind its start, and it calls itself at most once for each byte that is
left. -/
theorem decodeValue_safe (utf8 : Utf8) (bytes : List UInt8) (offset : Nat)
    (inside : offset < bytes.length) :
    (traceValue utf8 bytes offset).value = decodeValue utf8 bytes offset ∧
    (∀ index, .read index ∈ (traceValue utf8 bytes offset).log → index < bytes.length) ∧
    (decodeValue utf8 bytes offset = none ∨ ∃ value next,
      decodeValue utf8 bytes offset = some (value, next) ∧ offset < next ∧ next ≤ bytes.length) ∧
    .exhausted ∉ (traceValue utf8 bytes offset).log ∧
    ∃ recursive, callsOf (traceValue utf8 bytes offset).log = offset :: recursive ∧
      recursive.length ≤ bytes.length - (offset + 1) + 1 := by
  have answer : (traceValue utf8 bytes offset).value = decodeValue utf8 bytes offset :=
    traceNested_value _ _
  have within : Within bytes offset (traceValue utf8 bytes offset) :=
    within_traceNested inside.le (by omega)
  refine ⟨answer, within.reads, ?_, within.full, ?_⟩
  · cases found : decodeValue utf8 bytes offset with
    | none => exact Or.inl rfl
    | some pair =>
        obtain ⟨value, next⟩ := pair
        rw [← answer] at found
        exact Or.inr ⟨value, next, rfl, decodeNested_advances _ _ _ _ (answer ▸ found),
          (within.ends value next found).2.1⟩
  · obtain ⟨body, same, rest⟩ := @traceNested_eq utf8 bytes bytes.length offset (by omega)
      (fun later room enough => within_traceNested room enough)
    have calls : callsOf (traceValue utf8 bytes offset).log = offset :: callsOf body.log := by
      rw [traceValue, same]
      rfl
    refine ⟨callsOf body.log, calls, ?_⟩
    have few := length_le_of_ordered rest.ordered rest.calls
    omega

/-- Conversions that know the letters of one byte. -/
def asciiUtf8 : Utf8 :=
  { toUtf8Buffer := fun text => text.toList.map (fun letter => UInt8.ofNat letter.toNat)
    getStringFromUtf8 := fun buffer =>
      String.ofList (buffer.map (fun byte => Char.ofNat byte.toNat)) }

/-- An array that announces 65535 items in front of two bytes. -/
theorem announced_array_safe : ∃ recursive,
    callsOf (traceValue asciiUtf8 [0xdc, 0xff, 0xff, 0x01, 0x02] 0).log = 0 :: recursive ∧
      recursive.length ≤ 5 :=
  (decodeValue_safe asciiUtf8 [0xdc, 0xff, 0xff, 0x01, 0x02] 0 (by decide)).2.2.2.2

end MessagePack
end Client
end Revenant
