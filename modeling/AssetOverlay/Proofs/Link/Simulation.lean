import AssetOverlay.Link

/-!
# Games that answer alike

Linking sees of a game only the codes that it answers.  If two games start in related states, answer
alike in related states and end every call in related states again, then linking comes to the same
with both.
-/

namespace AssetOverlay

/-- In related states two games answer alike, and their calls lead to related states. -/
structure Game.Simulates {State Other : Type} (game : Game State) (other : Game Other)
    (related : State → Other → Prop) : Prop where
  sync : ∀ machine loaded state mirrored, related state mirrored →
    related (game.sync machine loaded state) (other.sync machine loaded mirrored)
  code : ∀ machine buffer run state mirrored, related state mirrored →
    (game.link machine buffer run state).1 = (other.link machine buffer run mirrored).1
  link : ∀ machine buffer run state mirrored, related state mirrored →
    related (game.link machine buffer run state).2 (other.link machine buffer run mirrored).2

namespace Game.Simulates

variable {State Other : Type} {game : Game State} {other : Game Other}
  {related : State → Other → Prop}

theorem linkBeside (h : game.Simulates other related) (machine : ScriptMachine) (run : Bool)
    (linked : Key) (scripts : List LoadedScript) {state : State} {mirrored : Other}
    (hstate : related state mirrored) :
    (linkBeside game machine run linked scripts state).1 =
        (linkBeside other machine run linked scripts mirrored).1 ∧
      related (linkBeside game machine run linked scripts state).2
        (linkBeside other machine run linked scripts mirrored).2 := by
  induction scripts generalizing state mirrored with
  | nil => exact ⟨rfl, hstate⟩
  | cons loaded rest ih =>
    have hsynced := h.sync machine loaded state mirrored hstate
    have hcode := h.code machine loaded.buffer run _ _ hsynced
    have hnext := h.link machine loaded.buffer run _ _ hsynced
    obtain ⟨houtcome, hlast⟩ := ih hnext
    rw [AssetOverlay.linkBeside, AssetOverlay.linkBeside]
    dsimp only
    rw [hcode]
    split
    · exact ⟨rfl, hnext⟩
    · exact ⟨by rw [houtcome], hlast⟩

theorem linkHooking (h : game.Simulates other related) (scripts : List LoadedScript)
    (machine : ScriptMachine) (buffer : Buffer) (run : Bool) {state : State} {mirrored : Other}
    (hstate : related state mirrored) :
    (linkHooking scripts game machine buffer run state).1 =
        (linkHooking scripts other machine buffer run mirrored).1 ∧
      related (linkHooking scripts game machine buffer run state).2
        (linkHooking scripts other machine buffer run mirrored).2 := by
  unfold AssetOverlay.linkHooking
  split
  · exact h.linkBeside machine run _ _ hstate
  · exact ⟨rfl, hstate⟩

theorem linkBuffer (h : game.Simulates other related) (scripts : List LoadedScript)
    (machine : ScriptMachine) (buffer : Buffer) (run : Bool) {state : State} {mirrored : Other}
    (hstate : related state mirrored) :
    (linkBuffer scripts game machine buffer run state).1 =
        (linkBuffer scripts other machine buffer run mirrored).1 ∧
      related (linkBuffer scripts game machine buffer run state).2
        (linkBuffer scripts other machine buffer run mirrored).2 := by
  unfold AssetOverlay.linkBuffer
  split
  · next loaded hloaded =>
    have hsynced := h.sync machine loaded state mirrored hstate
    exact ⟨h.code machine buffer run _ _ hsynced, h.link machine buffer run _ _ hsynced⟩
  · exact ⟨h.code machine buffer run _ _ hstate, h.link machine buffer run _ _ hstate⟩

/-- Linking comes to the same with both games. -/
theorem linkScript (h : game.Simulates other related) (scripts : List LoadedScript)
    (machine : ScriptMachine) (buffer : Buffer) (run : Bool) {state : State} {mirrored : Other}
    (hstate : related state mirrored) :
    (linkScript scripts game machine buffer run state).1 =
        (linkScript scripts other machine buffer run mirrored).1 ∧
      related (linkScript scripts game machine buffer run state).2
        (linkScript scripts other machine buffer run mirrored).2 := by
  obtain ⟨houtcome, hnext⟩ := h.linkHooking scripts machine buffer run hstate
  unfold AssetOverlay.linkScript
  cases hgame : AssetOverlay.linkHooking scripts game machine buffer run state with
  | mk outcome next =>
    cases hother : AssetOverlay.linkHooking scripts other machine buffer run mirrored with
    | mk outcomeOther nextOther =>
      rw [hgame, hother] at houtcome hnext
      cases houtcome
      cases outcome with
      | error failure => exact ⟨rfl, hnext⟩
      | ok injected =>
        obtain ⟨hcode, hlast⟩ := h.linkBuffer scripts machine buffer run hnext
        exact ⟨by dsimp only; rw [hcode], hlast⟩

end Game.Simulates

end AssetOverlay
