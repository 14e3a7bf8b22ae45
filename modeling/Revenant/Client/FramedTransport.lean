import Revenant.Client.MessagePackRoundTrip
import Revenant.Protocol.Framing

namespace Revenant
namespace Client
namespace FramedTransport

open Library Client.MessagePack
open Protocol.Framing (frame)

/-!
# The client's end of the connection

The client keeps the bytes that have arrived and no frame has used up.  A call
appends what the peer has, and takes one message off the front when its frame is
there as a whole; an empty dictionary says that there is none.

A frame whose announced size is over the limit yields nothing and stays where
it is.  Chunks may cut a frame anywhere, also inside its size; `Pending` is
what the buffer then holds.
-/

def maxFrameSize : Nat := 64 * 1024

/-- What the connection has for one call. -/
structure Peer where
  connected : Bool
  available : List UInt8
  /-- The bytes could be read. -/
  readable : Bool

/-- A connection with some bytes. -/
def Peer.arrived (chunk : List UInt8) : Peer :=
  { connected := true, available := chunk, readable := true }

/-- A connection with nothing new. -/
def Peer.quiet : Peer := Peer.arrived []

def readAvailable (peer : Peer) : List UInt8 :=
  if peer.connected = false then []
  else if peer.available = [] then []
  else if peer.readable = false then []
  else peer.available

def payloadSize (buffer : List UInt8) : Nat := ofBigEndian (buffer.take 4)

abbrev Message : Type := List (String × Variant)

section Transport

variable (utf8 : Utf8)

/-- The message at the front, and the bytes behind its frame. -/
def consumeMessage (buffer : List UInt8) (size : Nat) : Message × List UInt8 :=
  match decodeValue utf8 ((buffer.drop 4).take size) 0 with
  | some (.dictionary fields, _) => (fields, buffer.drop (size + 4))
  | _ => ([], buffer.drop (size + 4))

def tryReceiveMessage (peer : Peer) (buffer : List UInt8) : Message × List UInt8 :=
  let buffer := buffer ++ readAvailable peer
  if buffer.length < 4 then ([], buffer)
  else
    let size := payloadSize buffer
    if size > maxFrameSize ∨ buffer.length < size + 4 then ([], buffer)
    else consumeMessage utf8 buffer size

/-- So many calls at most, the first with what the peer has, until one returns
nothing. -/
def receiveSome : Nat → Peer → List UInt8 → List Message × List UInt8
  | 0, _, buffer => ([], buffer)
  | count + 1, peer, buffer =>
      let (message, next) := tryReceiveMessage utf8 peer buffer
      if message = [] then ([], next)
      else
        let (messages, last) := receiveSome count Peer.quiet next
        (message :: messages, last)

/-- Calls until one returns nothing: every message uses up some bytes. -/
def receiveAll (peer : Peer) (buffer : List UInt8) : List Message × List UInt8 :=
  receiveSome utf8 ((buffer ++ readAvailable peer).length + 1) peer buffer

/-- Calls after each of the chunks. -/
def receiveChunks : List (List UInt8) → List UInt8 → List Message × List UInt8
  | [], buffer => ([], buffer)
  | chunk :: chunks, buffer =>
      let (messages, next) := receiveAll utf8 (Peer.arrived chunk) buffer
      let (more, last) := receiveChunks chunks next
      (messages ++ more, last)

end Transport

/-! ## The calls after one chunk -/

section Calls

variable {utf8 : Utf8} {peer : Peer} {buffer next : List UInt8} {message : Message}

theorem readAvailable_arrived (chunk : List UInt8) : readAvailable (Peer.arrived chunk) = chunk := by
  unfold readAvailable Peer.arrived
  by_cases empty : chunk = []
  · simp [empty]
  · simp [empty]

theorem tryReceiveMessage_arrived (chunk buffer : List UInt8) :
    tryReceiveMessage utf8 (Peer.arrived chunk) buffer =
      tryReceiveMessage utf8 Peer.quiet (buffer ++ chunk) := by
  unfold tryReceiveMessage Peer.quiet
  rw [readAvailable_arrived, readAvailable_arrived, List.append_nil]

/-- A message uses up its frame. -/
theorem tryReceiveMessage_uses (received : tryReceiveMessage utf8 peer buffer = (message, next))
    (some' : message ≠ []) : next.length < (buffer ++ readAvailable peer).length := by
  unfold tryReceiveMessage at received
  dsimp only at received
  generalize buffer ++ readAvailable peer = bytes at received ⊢
  split at received
  · cases received
    exact absurd rfl some'
  · next enough =>
    split at received
    · cases received
      exact absurd rfl some'
    · have rest : next = bytes.drop (payloadSize bytes + 4) := by
        unfold consumeMessage at received
        split at received <;> cases received <;> rfl
      rw [rest, List.length_drop]
      omega

/-- More calls than there are bytes make no difference. -/
theorem receiveSome_enough (count : Nat) (peer : Peer) (buffer : List UInt8)
    (enough : (buffer ++ readAvailable peer).length < count) :
    receiveSome utf8 (count + 1) peer buffer = receiveSome utf8 count peer buffer := by
  induction count generalizing peer buffer with
  | zero => exact absurd enough (Nat.not_lt_zero _)
  | succ count inductionHypothesis =>
      unfold receiveSome
      rcases received : tryReceiveMessage utf8 peer buffer with ⟨message, next⟩
      dsimp only
      by_cases none : message = []
      · rw [if_pos none, if_pos none]
      · have uses := tryReceiveMessage_uses received none
        rw [if_neg none, if_neg none, inductionHypothesis Peer.quiet next]
        rw [Peer.quiet, readAvailable_arrived, List.append_nil]
        omega

theorem receiveSome_of_enough {count : Nat} (enough : (buffer ++ readAvailable peer).length < count) :
    receiveSome utf8 count peer buffer = receiveAll utf8 peer buffer := by
  obtain ⟨more, rfl⟩ := Nat.exists_eq_add_of_le enough
  induction more with
  | zero => rfl
  | succ more inductionHypothesis =>
      have plenty : (buffer ++ readAvailable peer).length <
          (buffer ++ readAvailable peer).length + 1 + more := by omega
      exact (receiveSome_enough _ peer buffer plenty).trans (inductionHypothesis plenty)

/-- The calls after a chunk, one by one. -/
theorem receiveAll_eq (received : tryReceiveMessage utf8 peer buffer = (message, next)) :
    receiveAll utf8 peer buffer =
      if message = [] then ([], next)
      else (message :: (receiveAll utf8 Peer.quiet next).1, (receiveAll utf8 Peer.quiet next).2) := by
  unfold receiveAll
  rw [receiveSome, received]
  dsimp only
  by_cases none : message = []
  · rw [if_pos none, if_pos none]
  · have uses := tryReceiveMessage_uses received none
    have rest : receiveSome utf8 (buffer ++ readAvailable peer).length Peer.quiet next =
        receiveAll utf8 Peer.quiet next := by
      refine receiveSome_of_enough ?_
      rw [Peer.quiet, readAvailable_arrived, List.append_nil]
      exact uses
    rw [if_neg none, if_neg none, rest]
    rfl

theorem receiveAll_arrived (chunk buffer : List UInt8) :
    receiveAll utf8 (Peer.arrived chunk) buffer = receiveAll utf8 Peer.quiet (buffer ++ chunk) := by
  rcases received : tryReceiveMessage utf8 Peer.quiet (buffer ++ chunk) with ⟨message, next⟩
  rw [receiveAll_eq received, receiveAll_eq ((tryReceiveMessage_arrived chunk buffer).trans received)]

end Calls

/-! ## Frames on the way -/

/-- A frame that carries a message. -/
structure Carried where
  payload : List UInt8
  message : Message

/-- The frame is within the limit and carries its message, which is not empty. -/
structure Carried.WellFormed (utf8 : Utf8) (carried : Carried) : Prop where
  fits : carried.payload.length ≤ maxFrameSize
  decodes : ∃ last, decodeValue utf8 carried.payload 0 = some (.dictionary carried.message, last)
  nonempty : carried.message ≠ []

def stream (frames : List Carried) : List UInt8 :=
  frames.flatMap (fun carried => frame carried.payload)

/-- The buffer holds the beginning of the frames that are still to come, and none
of them as a whole. -/
def Pending (frames : List Carried) (buffer : List UInt8) : Prop :=
  match frames with
  | [] => buffer = []
  | carried :: _ => buffer.length < (frame carried.payload).length

section Frames

variable {utf8 : Utf8} {frames : List Carried} {carried : Carried} {bytes rest : List UInt8}

theorem length_frame (payload : List UInt8) : (frame payload).length = payload.length + 4 := by
  unfold frame
  rw [List.length_append, length_bigEndian, Nat.add_comm]

/-- Four bytes of a frame tell its size. -/
theorem payloadSize_of_frame {payload more : List UInt8} (fits : payload.length ≤ maxFrameSize)
    (begins : bytes ++ rest = frame payload ++ more) (four : 4 ≤ bytes.length) :
    payloadSize bytes = payload.length := by
  have front : bytes.take 4 = bigEndian 4 payload.length := by
    have same := congrArg (List.take 4) begins
    rw [List.take_append_of_le_length four, frame, List.append_assoc,
      List.take_left' (length_bigEndian 4 _)] at same
    exact same
  unfold payloadSize
  rw [front]
  refine ofBigEndian_bigEndian_of_lt ?_
  unfold maxFrameSize at fits
  omega

/-- A frame that is not there as a whole yields nothing. -/
theorem tryReceiveMessage_pending (wellFormed : carried.WellFormed utf8) {more : List UInt8}
    (begins : bytes ++ rest = frame carried.payload ++ more)
    (short : bytes.length < (frame carried.payload).length) :
    tryReceiveMessage utf8 Peer.quiet bytes = ([], bytes) := by
  unfold tryReceiveMessage Peer.quiet
  rw [readAvailable_arrived, List.append_nil]
  dsimp only
  split
  · rfl
  · next four =>
    rw [length_frame] at short
    rw [payloadSize_of_frame wellFormed.fits begins (Nat.not_lt.mp four), if_pos (Or.inr short)]

/-- A whole frame yields its message, and leaves what is behind it. -/
theorem tryReceiveMessage_frame (wellFormed : carried.WellFormed utf8) (more : List UInt8) :
    tryReceiveMessage utf8 Peer.quiet (frame carried.payload ++ more) = (carried.message, more) := by
  have whole : 4 ≤ (frame carried.payload ++ more).length := by
    rw [List.length_append, length_frame]
    omega
  have size := @payloadSize_of_frame (frame carried.payload ++ more) [] carried.payload more
    wellFormed.fits (List.append_nil _) whole
  have payload : ((frame carried.payload ++ more).drop 4).take carried.payload.length =
      carried.payload := by
    rw [frame, List.append_assoc, List.drop_left' (length_bigEndian 4 _), List.take_left]
  have behind : (frame carried.payload ++ more).drop (carried.payload.length + 4) = more :=
    List.drop_left' (length_frame _)
  unfold tryReceiveMessage Peer.quiet
  rw [readAvailable_arrived, List.append_nil]
  dsimp only
  rw [if_neg (Nat.not_lt.mpr whole), size, if_neg]
  · unfold consumeMessage
    obtain ⟨last, decoded⟩ := wellFormed.decodes
    rw [payload, decoded, behind]
  · rw [not_or, Nat.not_lt, Nat.not_lt, List.length_append, length_frame]
    exact ⟨wellFormed.fits, Nat.le_add_right _ _⟩

/-- What the calls after a chunk take off the bytes. -/
theorem receiveAll_frames (wellFormed : ∀ carried ∈ frames, carried.WellFormed utf8)
    (begins : bytes ++ rest = stream frames) :
    ∃ done todo buffer, frames = done ++ todo ∧
      receiveAll utf8 Peer.quiet bytes = (done.map Carried.message, buffer) ∧
      buffer ++ rest = stream todo ∧ Pending todo buffer := by
  induction frames generalizing bytes with
  | nil =>
      obtain ⟨rfl, rfl⟩ := List.append_eq_nil_iff.mp begins
      exact ⟨[], [], [], rfl, rfl, rfl, rfl⟩
  | cons carried frames inductionHypothesis =>
      have here := wellFormed carried List.mem_cons_self
      change bytes ++ rest = frame carried.payload ++ stream frames at begins
      rcases Nat.lt_or_ge bytes.length (frame carried.payload).length with short | whole
      · refine ⟨[], carried :: frames, bytes, rfl, ?_, begins, short⟩
        rw [receiveAll_eq (tryReceiveMessage_pending here begins short), if_pos rfl]
        rfl
      · obtain ⟨more, rfl⟩ : ∃ more, bytes = frame carried.payload ++ more := by
          refine ⟨bytes.drop (frame carried.payload).length, ?_⟩
          have front := congrArg (List.take (frame carried.payload).length) begins
          rw [List.take_append_of_le_length whole, List.take_left] at front
          calc
            bytes = bytes.take (frame carried.payload).length ++
                bytes.drop (frame carried.payload).length := (List.take_append_drop _ _).symm
            _ = frame carried.payload ++ bytes.drop (frame carried.payload).length := by rw [front]
        rw [List.append_assoc, List.append_cancel_left_eq] at begins
        obtain ⟨done, todo, buffer, rfl, received, remaining, pending⟩ :=
          inductionHypothesis (fun other member => wellFormed other (List.mem_cons_of_mem _ member))
            begins
        refine ⟨carried :: done, todo, buffer, rfl, ?_, remaining, pending⟩
        rw [receiveAll_eq (tryReceiveMessage_frame here more), if_neg here.nonempty, received]
        rfl

/-- The chunks that have arrived yield the messages of the frames that are there
as a whole, and the rest of the bytes stays in the buffer. -/
theorem receiveChunks_frames (wellFormed : ∀ carried ∈ frames, carried.WellFormed utf8)
    {chunks : List (List UInt8)} {buffer : List UInt8}
    (begins : buffer ++ chunks.flatten ++ rest = stream frames) (pending : Pending frames buffer) :
    ∃ done todo last, frames = done ++ todo ∧
      receiveChunks utf8 chunks buffer = (done.map Carried.message, last) ∧
      last ++ rest = stream todo ∧ Pending todo last := by
  induction chunks generalizing frames buffer with
  | nil =>
      rw [List.flatten_nil, List.append_nil] at begins
      exact ⟨[], frames, buffer, rfl, rfl, begins, pending⟩
  | cons chunk chunks inductionHypothesis =>
      have arrived : (buffer ++ chunk) ++ (chunks.flatten ++ rest) = stream frames := by
        rw [← begins, List.flatten_cons]
        simp only [List.append_assoc]
      obtain ⟨done, todo, next, rfl, received, remaining, left⟩ :=
        receiveAll_frames wellFormed arrived
      obtain ⟨later, others, last, rfl, more, end', waits⟩ :=
        inductionHypothesis (fun other member => wellFormed other (List.mem_append_right _ member))
          (by rw [List.append_assoc]; exact remaining) left
      refine ⟨done ++ later, others, last, (List.append_assoc _ _ _).symm, ?_, end', waits⟩
      rw [receiveChunks, receiveAll_arrived, received]
      dsimp only
      rw [more, List.map_append]

/-- Bytes of frames that arrive in any chunks yield the messages of the frames in
their order, each as soon as its frame is there as a whole; and when all bytes
have arrived all messages were received and the buffer is empty. -/
theorem framing_independent (wellFormed : ∀ carried ∈ frames, carried.WellFormed utf8)
    (chunks : List (List UInt8)) :
    (∀ rest, chunks.flatten ++ rest = stream frames → ∃ done todo buffer, frames = done ++ todo ∧
      receiveChunks utf8 chunks [] = (done.map Carried.message, buffer) ∧
      buffer ++ rest = stream todo ∧ Pending todo buffer) ∧
    (chunks.flatten = stream frames →
      receiveChunks utf8 chunks [] = (frames.map Carried.message, [])) := by
  have start : Pending frames [] := by
    cases frames with
    | nil => rfl
    | cons carried frames =>
        change 0 < (frame carried.payload).length
        rw [length_frame]
        exact Nat.succ_pos _
  refine ⟨fun rest begins => receiveChunks_frames wellFormed begins start, ?_⟩
  intro all
  obtain ⟨done, todo, buffer, rfl, received, remaining, pending⟩ :=
    @receiveChunks_frames utf8 frames [] wellFormed chunks []
      (by rw [List.nil_append, List.append_nil]; exact all) start
  rw [List.append_nil] at remaining
  cases todo with
  | nil =>
      rw [received, List.append_nil]
      exact congrArg (Prod.mk _) pending
  | cons carried todo =>
      -- a whole frame would not be left in the buffer
      have short : buffer.length < (frame carried.payload).length := pending
      rw [remaining] at short
      change (frame carried.payload ++ stream todo).length < _ at short
      rw [List.length_append] at short
      omega

end Frames

/-- A frame with one small number under one key. -/
def counted (number : UInt8) : Carried :=
  { payload := [0x81, 0xa1, 0x61, number], message := [("a", .integer number.toNat)] }

/-- Two frames arrive in three chunks that split a length and a payload. -/
theorem framing_independent_split :
    receiveChunks strictUtf8
      [[0, 0], [0, 4, 0x81, 0xa1, 0x61, 1, 0, 0, 0, 4, 0x81], [0xa1, 0x61, 2]] [] =
      ([[("a", .integer 1)], [("a", .integer 2)]], []) := by
  have wellFormed : ∀ carried ∈ [counted 1, counted 2], carried.WellFormed strictUtf8 := by
    intro carried member
    simp only [List.mem_cons, List.not_mem_nil, or_false] at member
    rcases member with rfl | rfl
    · exact ⟨by decide, ⟨4, by decide +kernel⟩, by decide +kernel⟩
    · exact ⟨by decide, ⟨4, by decide +kernel⟩, by decide +kernel⟩
  exact (framing_independent wellFormed _).2 (by decide +kernel)

end FramedTransport
end Client
end Revenant
