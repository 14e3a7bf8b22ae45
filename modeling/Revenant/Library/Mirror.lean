import Revenant.Library.Checks

namespace Revenant
namespace Library

/-!
# Mirrors of a server

A server answers each input with the messages it sends, and a mirror takes the
messages one at a time, or refuses one.  A relation between the two that every
input keeps is kept by every run: the mirror then takes all messages of the run
in their order.
-/

section

variable {Mirror Message Failure Server Input : Type}

/-- The mirror after the messages in their order. -/
def feed (apply : Mirror → Message → Except Failure Mirror) (mirror : Mirror)
    (messages : List Message) : Except Failure Mirror :=
  messages.foldlM apply mirror

/-- The server after the inputs in their order, with everything it sent. -/
def play (step : Server → Input → Server × List Message) (server : Server) :
    List Input → Server × List Message
  | [] => (server, [])
  | input :: rest =>
      let (next, sent) := step server input
      let (last, later) := play step next rest
      (last, sent ++ later)

variable {apply : Mirror → Message → Except Failure Mirror}
variable {step : Server → Input → Server × List Message}

@[simp] theorem feed_nil (mirror : Mirror) : feed apply mirror [] = .ok mirror := rfl

theorem feed_cons (mirror : Mirror) (message : Message) (rest : List Message) :
    feed apply mirror (message :: rest) = apply mirror message >>= fun next => feed apply next rest :=
  rfl

theorem feed_cons_of_ok {mirror next : Mirror} {message : Message} {rest : List Message}
    (taken : apply mirror message = .ok next) :
    feed apply mirror (message :: rest) = feed apply next rest := by
  rw [feed_cons, taken]
  rfl

theorem feed_append_of_ok {mirror next : Mirror} {earlier later : List Message}
    (taken : feed apply mirror earlier = .ok next) :
    feed apply mirror (earlier ++ later) = feed apply next later := by
  unfold feed at taken ⊢
  rw [List.foldlM_append, taken]
  rfl

/-- The messages of one input leave mirror and server in agreement. -/
def Followed (apply : Mirror → Message → Except Failure Mirror) (agree : Mirror → Server → Prop)
    (mirror : Mirror) (answer : Server × List Message) : Prop :=
  ∃ next, feed apply mirror answer.2 = .ok next ∧ agree next answer.1

/-- An answer that sends nothing and changes nothing is followed. -/
theorem followed_quiet {agree : Mirror → Server → Prop} {mirror : Mirror} {server : Server}
    (agrees : agree mirror server) : Followed apply agree mirror (server, []) :=
  ⟨mirror, rfl, agrees⟩

/-- An agreement that every input keeps holds along every run. -/
theorem followed_play {agree : Mirror → Server → Prop}
    (kept : ∀ mirror server input, agree mirror server →
      Followed apply agree mirror (step server input))
    {mirror : Mirror} {server : Server} (agrees : agree mirror server) (inputs : List Input) :
    Followed apply agree mirror (play step server inputs) := by
  induction inputs generalizing mirror server with
  | nil => exact followed_quiet agrees
  | cons input rest inductionHypothesis =>
      obtain ⟨next, taken, agrees⟩ := kept mirror server input agrees
      obtain ⟨last, takenLater, agreesLater⟩ := inductionHypothesis agrees
      exact ⟨last, (feed_append_of_ok taken).trans takenLater, agreesLater⟩

end

end Library
end Revenant
