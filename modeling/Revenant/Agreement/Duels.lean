import Revenant.Agreement.Lancer
import Revenant.Agreement.Bulwark

namespace Revenant
namespace Agreement

open Library Replay Gateway

/-!
# Duels

The two solo duels side by side.  A reachable live state stands behind every
prefix of a tape: a refused write ends the step where the prefix ends.
-/

/-- Every run of a duel agrees with its validator, and a duel that left its
active state stands still: what follows only opens the main mission's door or
swaps weapons. -/
theorem duels_agree :
    (∀ opening live : LancerSession, Opened opening →
      Relation.ReflTransGen LancerSession.Step opening live →
      (∃ replay, Lancer.Agrees live replay) ∧
      ∀ encounter later, live.encounter = some encounter → encounter.active = false →
        Relation.ReflTransGen LancerSession.Step live later → Quiet live later) ∧
    (∀ opening live : BulwarkSession, Opened opening →
      Relation.ReflTransGen BulwarkSession.Step opening live →
      (∃ replay, Bulwark.Agrees live replay) ∧
      ∀ encounter later, live.encounter = some encounter → encounter.active = false →
        Relation.ReflTransGen BulwarkSession.Step live later → Quiet live later) := by
  refine ⟨?_, ?_⟩
  · intro opening live opened path
    refine ⟨(Lancer.Kept.run opened path).agrees, ?_⟩
    intro encounter later chosen isOver afterwards
    exact Quiet.run (·.active = false)
      (fun _ _ _ step chosen isOver => Lancer.quiet_step step chosen isOver) chosen isOver afterwards
  · intro opening live opened path
    refine ⟨(Bulwark.Kept.run opened path).agrees, ?_⟩
    intro encounter later chosen isOver afterwards
    exact Quiet.run (·.active = false)
      (fun _ _ _ step chosen isOver => Bulwark.quiet_step step chosen isOver) chosen isOver afterwards

/-! A run of each duel: enter, see the first announcement, walk to the relay
door and open it. -/

namespace Lancer

open LancerSession

def enteredSession : LancerSession :=
  ((clearedSession.advance 10).movePlayer (handleLancerMovement 9) Ai.Lancer.entrance
    (some ⟨6, 12⟩) none 9).getD clearedSession

def announcedSession : LancerSession :=
  (tickLancer (enteredSession.advance 900) (some ⟨7, 905⟩)).getD clearedSession

def leftSession : LancerSession :=
  ((announcedSession.advance 910).movePlayer (handleLancerMovement 10) Session.relayDoor
    (some ⟨8, 911⟩) (some ⟨9, 912⟩) 10).getD clearedSession

theorem left_reached : Relation.ReflTransGen Step clearedSession leftSession := by
  have enter : Step clearedSession enteredSession :=
    .move 10 Ai.Lancer.entrance 9 (some ⟨6, 12⟩) none (by decide) (by decide) (Or.inr rfl) rfl
  have announce : Step enteredSession announcedSession :=
    .tick 900 (some ⟨7, 905⟩) (by decide) rfl
  have leave : Step announcedSession leftSession :=
    .move 910 Session.relayDoor 10 (some ⟨8, 911⟩) (some ⟨9, 912⟩) (by decide) (by decide)
      (Or.inl rfl) rfl
  exact ((Relation.ReflTransGen.single enter).tail announce).tail leave

end Lancer

namespace Bulwark

open BulwarkSession

def enteredSession : BulwarkSession :=
  ((clearedSession.advance 10).movePlayer (handleBulwarkMovement 9) Ai.Bulwark.entrance
    (some ⟨6, 12⟩) none 9).getD clearedSession

def announcedSession : BulwarkSession :=
  (tickBulwark (enteredSession.advance 1900) (some ⟨7, 1905⟩)).getD clearedSession

def leftSession : BulwarkSession :=
  ((announcedSession.advance 1910).movePlayer (handleBulwarkMovement 10) Session.relayDoor
    (some ⟨8, 1911⟩) (some ⟨9, 1912⟩) 10).getD clearedSession

theorem left_reached : Relation.ReflTransGen Step clearedSession leftSession := by
  have enter : Step clearedSession enteredSession :=
    .move 10 Ai.Bulwark.entrance 9 (some ⟨6, 12⟩) none (by decide) (by decide) (Or.inr rfl) rfl
  have announce : Step enteredSession announcedSession :=
    .tick 1900 (some ⟨7, 1905⟩) (by decide) rfl
  have leave : Step announcedSession leftSession :=
    .move 1910 Session.relayDoor 10 (some ⟨8, 1911⟩) (some ⟨9, 1912⟩) (by decide) (by decide)
      (Or.inl rfl) rfl
  exact ((Relation.ReflTransGen.single enter).tail announce).tail leave

end Bulwark

theorem duels_agree_left :
    (Lancer.leftSession.journal.length = 9 ∧ Lancer.leftSession.objective = some .failed ∧
      (∃ replay, Lancer.Agrees Lancer.leftSession replay) ∧
      Quiet Lancer.leftSession Lancer.leftSession) ∧
    Bulwark.leftSession.journal.length = 9 ∧ Bulwark.leftSession.objective = some .failed ∧
      (∃ replay, Bulwark.Agrees Bulwark.leftSession replay) ∧
      Quiet Bulwark.leftSession Bulwark.leftSession := by
  have lancer := duels_agree.1 clearedSession Lancer.leftSession clearedSession_opened
    Lancer.left_reached
  have bulwark := duels_agree.2 clearedSession Bulwark.leftSession clearedSession_opened
    Bulwark.left_reached
  exact ⟨⟨rfl, rfl, lancer.1, lancer.2 _ _ rfl rfl .refl⟩, rfl, rfl, bulwark.1,
    bulwark.2 _ _ rfl rfl .refl⟩

end Agreement
end Revenant
