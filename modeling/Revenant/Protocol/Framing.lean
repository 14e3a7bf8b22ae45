import Revenant.Library.Bytes
import Revenant.Library.Call

namespace Revenant
namespace Protocol
namespace Framing

open Library

/-!
# Messages on a stream

A message is written as the length of its encoding in four bytes, the most
significant one first, and the encoding; it is read back by that length, which
is checked before any of the encoding is read.  The codec of single messages is
a parameter.
-/

def maxFrameSize : Nat := 64 * 1024

/-- The largest length that fits in the prefix. -/
def maxPrefix : Nat := 2 ^ 32 - 1

inductive ProtocolError (EncodeError DecodeError : Type) where
  /-- The stream ended before all bytes that were asked for. -/
  | unexpectedEof
  | encode (error : EncodeError)
  | decode (error : DecodeError)
  | frameTooLarge (size : Nat)
  deriving DecidableEq, Repr

/-- The codec of single messages. -/
structure Codec (Message EncodeError DecodeError : Type) where
  toVecNamed : Message → Except EncodeError (List UInt8)
  fromSlice : List UInt8 → Except DecodeError Message

section Streams

variable {Message EncodeError DecodeError : Type}

abbrev Stream (EncodeError DecodeError : Type) : Type → Type :=
  Call (List UInt8) (ProtocolError EncodeError DecodeError)

/-- All bytes are appended to the stream. -/
def writeAll (bytes : List UInt8) : Stream EncodeError DecodeError Unit :=
  Call.update (fun stream => stream ++ bytes)

/-- So many bytes are taken from the stream; a stream that is too short is used up. -/
def readExact (count : Nat) : Stream EncodeError DecodeError (List UInt8) := fun stream =>
  if count ≤ stream.length then (.ok (stream.take count), stream.drop count)
  else (.error .unexpectedEof, [])

variable (codec : Codec Message EncodeError DecodeError)

def writeMessage (message : Message) : Stream EncodeError DecodeError Unit := do
  let payload ← Call.check (fun _ => (codec.toVecNamed message).mapError .encode)
  Call.check (fun _ => rejectIf (payload.length > maxFrameSize) (.frameTooLarge payload.length))
  Call.check (fun _ => rejectIf (payload.length > maxPrefix) (.frameTooLarge payload.length))
  writeAll (bigEndian 4 payload.length)
  writeAll payload

def readMessage : Stream EncodeError DecodeError Message := do
  let sizeBytes ← readExact 4
  let size := ofBigEndian sizeBytes
  Call.check (fun _ => rejectIf (size > maxFrameSize) (.frameTooLarge size))
  let payload ← readExact size
  Call.check (fun _ => (codec.fromSlice payload).mapError .decode)

def writeMessages : List Message → Stream EncodeError DecodeError Unit
  | [] => pure ()
  | message :: rest => do
      writeMessage codec message
      writeMessages rest

/-- What so many reads in a row give. -/
def reads : Nat → List UInt8 → List (Except (ProtocolError EncodeError DecodeError) Message)
  | 0, _ => []
  | count + 1, stream => (readMessage codec stream).1 :: reads count (readMessage codec stream).2

end Streams

section Frames

variable {Message EncodeError DecodeError : Type} {codec : Codec Message EncodeError DecodeError}
variable {message : Message} {payload : List UInt8}

/-- An encoding behind its length. -/
def frame (payload : List UInt8) : List UInt8 := bigEndian 4 payload.length ++ payload

theorem readExact_append {bytes rest : List UInt8} {count : Nat} (whole : bytes.length = count) :
    (readExact count : Stream EncodeError DecodeError _) (bytes ++ rest) = (.ok bytes, rest) := by
  subst whole
  unfold readExact
  rw [if_pos (by simp), List.take_left, List.drop_left]

theorem readExact_of_short {stream : List UInt8} {count : Nat} (short : stream.length < count) :
    (readExact count : Stream EncodeError DecodeError _) stream = (.error .unexpectedEof, []) := by
  unfold readExact
  rw [if_neg (Nat.not_le.mpr short)]

theorem prefix_fits {size : Nat} (fits : size ≤ maxFrameSize) : size < 256 ^ 4 := by
  unfold maxFrameSize at fits
  omega

/-- A message within the limit is appended as one frame. -/
theorem writeMessage_of_fits (encoded : codec.toVecNamed message = .ok payload)
    (fits : payload.length ≤ maxFrameSize) (stream : List UInt8) :
    writeMessage codec message stream = (.ok (), stream ++ frame payload) := by
  have small : payload.length ≤ maxPrefix := fits.trans (by decide)
  refine (Call.check_bind_of_ok (by rw [encoded]; rfl)).trans ?_
  refine (Call.check_bind_of_passed (by exact rejectIf_eq_ok.mpr (Nat.not_lt.mpr fits))).trans ?_
  refine (Call.check_bind_of_passed (by exact rejectIf_eq_ok.mpr (Nat.not_lt.mpr small))).trans ?_
  change (Except.ok (), stream ++ bigEndian 4 payload.length ++ payload) = _
  rw [List.append_assoc]
  rfl

/-- A message over the limit is refused and nothing is written. -/
theorem writeMessage_of_large (encoded : codec.toVecNamed message = .ok payload)
    (large : maxFrameSize < payload.length) (stream : List UInt8) :
    writeMessage codec message stream = (.error (.frameTooLarge payload.length), stream) := by
  refine (Call.check_bind_of_ok (by rw [encoded]; rfl)).trans ?_
  exact Call.check_bind_of_error (by rw [rejectIf, if_pos large])

theorem readMessage_frame (decoded : codec.fromSlice payload = .ok message)
    (fits : payload.length ≤ maxFrameSize) (rest : List UInt8) :
    readMessage codec (frame payload ++ rest) = (.ok message, rest) := by
  have size : ofBigEndian (bigEndian 4 payload.length) = payload.length :=
    ofBigEndian_bigEndian_of_lt (prefix_fits fits)
  unfold frame
  rw [List.append_assoc]
  refine (Call.bind_of_ok (readExact_append (length_bigEndian 4 _))).trans ?_
  rw [size]
  refine (Call.check_bind_of_passed (by exact rejectIf_eq_ok.mpr (Nat.not_lt.mpr fits))).trans ?_
  refine (Call.bind_of_ok (readExact_append rfl)).trans ?_
  rw [Call.check, decoded]
  rfl

/-- A length over the limit is refused with all bytes behind it unread. -/
theorem readMessage_of_large {sizeBytes : List UInt8} (four : sizeBytes.length = 4)
    (large : maxFrameSize < ofBigEndian sizeBytes) (rest : List UInt8) :
    readMessage codec (sizeBytes ++ rest) = (.error (.frameTooLarge (ofBigEndian sizeBytes)), rest) := by
  refine (Call.bind_of_ok (readExact_append four)).trans ?_
  exact Call.check_bind_of_error (by rw [rejectIf, if_pos large])

theorem readMessage_nil : readMessage codec [] = (.error .unexpectedEof, []) :=
  Call.bind_of_error (readExact_of_short (by decide))

theorem reads_nil (count : Nat) :
    reads codec count [] = List.replicate count (.error .unexpectedEof) := by
  induction count with
  | zero => rfl
  | succ count inductionHypothesis =>
      rw [reads, readMessage_nil, inductionHypothesis, List.replicate_succ]

end Frames

section Law

variable {Message EncodeError DecodeError : Type} {codec : Codec Message EncodeError DecodeError}

/-- The encoding of every message is within the limit. -/
def AllFit (codec : Codec Message EncodeError DecodeError) (messages : List Message) : Prop :=
  ∀ message ∈ messages, ∃ payload, codec.toVecNamed message = .ok payload ∧
    payload.length ≤ maxFrameSize

/-- Written messages are read back one by one, whatever stands before and after. -/
theorem reads_writeMessages
    (inverse : ∀ message payload, codec.toVecNamed message = .ok payload →
      codec.fromSlice payload = .ok message) {messages : List Message}
    (fit : AllFit codec messages) (stream : List UInt8) :
    ∃ written, writeMessages codec messages stream = (.ok (), stream ++ written) ∧
      ∀ count rest, reads codec (messages.length + count) (written ++ rest) =
        messages.map .ok ++ reads codec count rest := by
  induction messages generalizing stream with
  | nil =>
      refine ⟨[], by rw [List.append_nil]; rfl, ?_⟩
      intro count rest
      rw [List.length_nil, Nat.zero_add]
      rfl
  | cons message rest inductionHypothesis =>
      obtain ⟨payload, encoded, fits⟩ := fit message List.mem_cons_self
      obtain ⟨written, wrote, read⟩ := inductionHypothesis
        (fun other member => fit other (List.mem_cons_of_mem _ member)) (stream ++ frame payload)
      refine ⟨frame payload ++ written, ?_, ?_⟩
      · rw [writeMessages, Call.bind_of_ok (writeMessage_of_fits encoded fits stream), wrote,
          List.append_assoc]
      · intro count following
        have first := readMessage_frame (inverse message payload encoded) fits (written ++ following)
        rw [List.length_cons, Nat.succ_add_eq_add_succ, Nat.add_succ, reads, List.append_assoc,
          first, read, List.map_cons, List.cons_append]

/-- Messages within the limit that are written one after another are read back in
their order, and then the stream ends; a message is refused exactly when its
encoding is over the limit, and then nothing is written; a length over the limit
is refused with all bytes behind it unread. -/
theorem framing_law (codec : Codec Message EncodeError DecodeError)
    (inverse : ∀ message payload, codec.toVecNamed message = .ok payload →
      codec.fromSlice payload = .ok message) :
    (∀ messages, AllFit codec messages → ∃ stream,
      writeMessages codec messages [] = (.ok (), stream) ∧
      ∀ count, reads codec (messages.length + count) stream =
        messages.map .ok ++ List.replicate count (.error .unexpectedEof)) ∧
    (∀ message payload stream, codec.toVecNamed message = .ok payload →
      ((∃ error, (writeMessage codec message stream).1 = .error error) ↔
        maxFrameSize < payload.length) ∧
      (maxFrameSize < payload.length →
        writeMessage codec message stream = (.error (.frameTooLarge payload.length), stream))) ∧
    ∀ sizeBytes rest, sizeBytes.length = 4 → maxFrameSize < ofBigEndian sizeBytes →
      readMessage codec (sizeBytes ++ rest) =
        (.error (.frameTooLarge (ofBigEndian sizeBytes)), rest) := by
  refine ⟨?_, ?_, fun sizeBytes rest four large => readMessage_of_large four large rest⟩
  · intro messages fit
    obtain ⟨written, wrote, read⟩ := reads_writeMessages inverse fit []
    refine ⟨written, wrote, ?_⟩
    intro count
    have whole := read count []
    rw [List.append_nil, reads_nil] at whole
    exact whole
  · intro message payload stream encoded
    refine ⟨⟨?_, ?_⟩, fun large => writeMessage_of_large encoded large stream⟩
    · rintro ⟨error, failed⟩
      by_contra fits
      rw [writeMessage_of_fits encoded (Nat.not_lt.mp fits) stream] at failed
      cases failed
    · intro large
      rw [writeMessage_of_large encoded large stream]
      exact ⟨_, rfl⟩

end Law

/-- The MessagePack encoding of a boolean. -/
def booleans : Codec Bool Unit Unit where
  toVecNamed
    | false => .ok [0xc2]
    | true => .ok [0xc3]
  fromSlice
    | [0xc2] => .ok false
    | [0xc3] => .ok true
    | _ => .error ()

theorem framing_law_booleans :
    ∃ stream, writeMessages booleans [true, false] [] = (.ok (), stream) ∧
      reads booleans 3 stream = [.ok true, .ok false, .error .unexpectedEof] := by
  have inverse : ∀ message payload, booleans.toVecNamed message = .ok payload →
      booleans.fromSlice payload = .ok message := by
    intro message payload encoded
    cases message <;> cases encoded <;> rfl
  have fit : AllFit booleans [true, false] := by
    intro message member
    cases message
    · exact ⟨[0xc2], rfl, by decide⟩
    · exact ⟨[0xc3], rfl, by decide⟩
  obtain ⟨stream, wrote, read⟩ := (framing_law booleans inverse).1 [true, false] fit
  exact ⟨stream, wrote, read 1⟩

end Framing
end Protocol
end Revenant
