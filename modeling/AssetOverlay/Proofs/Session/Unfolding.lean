import AssetOverlay.Proofs.Session.Invariant

/-!
# Unfolding links

A link by itself leaves the session alone, and how many calls it makes depends on the codes that the
game answers, not on what the game does inside the calls.  For the session a link therefore amounts
to the actions inside its calls, one after the other, and whatever happens, to any depth, amounts to
a list of operations.

The *moments* of a run are the places between two of these operations.  They include those inside
the calls of links that are still in progress, so every action begins at one of them.
-/

namespace AssetOverlay

/-- A game that answers with the given codes and lets the given actions happen inside its calls. -/
def Game.acting (codes : Nat → Int32) (inside : Nat → List Action) : Game LinkingSession :=
  .planned codes fun call inner ↦ inner.actAll (inside call)

/-- What happens inside so many calls, in order. -/
def actionsInside (inside : Nat → List Action) (calls : Nat) : List Action :=
  (List.range calls).flatMap inside

theorem actionsInside_succ (inside : Nat → List Action) (calls : Nat) :
    actionsInside inside (calls + 1) = actionsInside inside calls ++ inside calls := by
  simp [actionsInside, List.range_succ]

namespace Session

theorem actAll_append (session : Session) (first second : List Action) :
    session.actAll (first ++ second) = (session.actAll first).actAll second := by
  induction first generalizing session with
  | nil => rw [List.nil_append, actAll]
  | cons action rest ih => rw [List.cons_append, actAll, actAll, ih]

theorem actAll_actionsInside_zero (session : Session) (inside : Nat → List Action) :
    session.actAll (actionsInside inside 0) = session := by
  rw [actionsInside, List.range_zero, List.flatMap_nil, actAll]

theorem actAll_actionsInside_succ (session : Session) (inside : Nat → List Action) (calls : Nat) :
    session.actAll (actionsInside inside (calls + 1)) =
      (session.actAll (actionsInside inside calls)).actAll (inside calls) := by
  rw [actionsInside_succ, actAll_append]

theorem performAll_append (session : Session) (first second : List Operation) :
    session.performAll (first ++ second) = (session.performAll first).performAll second :=
  List.foldl_append

end Session

namespace Game

/-- At every moment the session is what the calls made so far have made of it. -/
theorem acting_keeps (codes : Nat → Int32) (inside : Nat → List Action) (session : Session) :
    (acting codes inside).Keeps fun state ↦
      state.session = session.actAll (actionsInside inside state.calls) := by
  constructor
  · intro machine loaded state hstate
    change state.session.actAll (inside state.calls) = _
    rw [hstate]
    exact (session.actAll_actionsInside_succ inside state.calls).symm
  · intro machine buffer run state hstate
    change state.session.actAll (inside state.calls) = _
    rw [hstate]
    exact (session.actAll_actionsInside_succ inside state.calls).symm

/-- What happens inside the calls has no influence on the answers. -/
theorem acting_simulates (codes : Nat → Int32) (inside other : Nat → List Action) :
    (acting codes inside).Simulates (acting codes other) fun state mirrored ↦
      state.calls = mirrored.calls where
  sync := by
    intro machine loaded state mirrored h
    exact congrArg Nat.succ h
  code := by
    intro machine buffer run state mirrored h
    exact congrArg codes h
  link := by
    intro machine buffer run state mirrored h
    exact congrArg Nat.succ h

end Game

namespace Session

/-- How many calls a link makes if the game answers with the given codes. -/
def linkCalls (session : Session) (machine : ScriptMachine) (buffer : Buffer) (run : Bool)
    (codes : Nat → Int32) : Nat :=
  (session.overlay.link (.acting codes fun _ ↦ []) machine buffer run ⟨session, 0⟩).2.calls

/-- For the session a link amounts to what happens inside its calls. -/
theorem act_link (session : Session) (machine : ScriptMachine) (buffer : Buffer) (run : Bool)
    (codes : Nat → Int32) (inside : Nat → List Action) :
    session.act (.link machine buffer run codes inside) =
      session.actAll (actionsInside inside (session.linkCalls machine buffer run codes)) := by
  let scripts := session.overlay.catalogue.scripts
  let last := (linkScript scripts (.acting codes inside) machine buffer run ⟨session, 0⟩).2
  have hcalls : last.calls = session.linkCalls machine buffer run codes :=
    ((Game.acting_simulates codes inside fun _ ↦ []).linkScript scripts machine buffer run rfl).2
  have hlast : last.session = session.actAll (actionsInside inside last.calls) :=
    (Game.acting_keeps codes inside session).linkScript scripts machine buffer run ⟨session, 0⟩
      (session.actAll_actionsInside_zero inside).symm
  rw [act, ← hcalls]
  exact hlast

mutual

/-- The operations that an action amounts to. -/
def operationsOf (session : Session) : Action → List Operation
  | .operate operation => [operation]
  | .link machine buffer run codes inside =>
    (List.range (session.linkCalls machine buffer run codes)).flatMap fun call ↦
      (session.actAll (actionsInside inside call)).operationsOfAll (inside call)

/-- The operations that actions amount to, in the order in which they are performed. -/
def operationsOfAll (session : Session) : List Action → List Operation
  | [] => []
  | action :: rest => session.operationsOf action ++ (session.act action).operationsOfAll rest

end

/-- Performing the operations inside so many calls of a link does what the calls do. -/
theorem performAll_operationsInside {session : Session} {inside : Nat → List Action}
    (h : ∀ call, (session.actAll (actionsInside inside call)).performAll
      ((session.actAll (actionsInside inside call)).operationsOfAll (inside call)) =
        (session.actAll (actionsInside inside call)).actAll (inside call)) (calls : Nat) :
    session.performAll ((List.range calls).flatMap fun call ↦
      (session.actAll (actionsInside inside call)).operationsOfAll (inside call)) =
        session.actAll (actionsInside inside calls) := by
  induction calls with
  | zero =>
    rw [actAll_actionsInside_zero, List.range_zero, List.flatMap_nil]
    rfl
  | succ calls ih =>
    rw [List.range_succ, List.flatMap_append, performAll_append, ih, List.flatMap_singleton, h,
      actAll_actionsInside_succ]

/-- The operations that actions amount to do what the actions do. -/
theorem performAll_operationsOfAll (session : Session) (actions : List Action) :
    session.performAll (session.operationsOfAll actions) = session.actAll actions := by
  induction session, actions using operationsOfAll.induct
    (motive_1 := fun session action ↦
      session.performAll (session.operationsOf action) = session.act action) with
  | case1 session operation => rw [operationsOf, act, performAll, List.foldl_cons, List.foldl_nil]
  | case2 session machine buffer run codes inside ih =>
    rw [operationsOf, performAll_operationsInside ih, act_link]
  | case3 session => rw [operationsOfAll, actAll, performAll, List.foldl_nil]
  | case4 session action rest hact ih =>
    rw [operationsOfAll, performAll_append, hact, ih, actAll]

/-- The session at a moment of a run, after so many of its operations. -/
def atMoment (session : Session) (actions : List Action) (moment : Nat) : Session :=
  session.performAll ((session.operationsOfAll actions).take moment)

/-- The operations that follow a moment of a run, so many of them. -/
def operationsSince (session : Session) (actions : List Action) (moment count : Nat) :
    List Operation :=
  ((session.operationsOfAll actions).drop moment).take count

theorem atMoment_add (session : Session) (actions : List Action) (moment count : Nat) :
    session.atMoment actions (moment + count) =
      (session.atMoment actions moment).performAll
        (session.operationsSince actions moment count) := by
  rw [atMoment, List.take_add, performAll_append]
  rfl

/-- The last moment of a run is its end. -/
theorem atMoment_length (session : Session) (actions : List Action) :
    session.atMoment actions (session.operationsOfAll actions).length = session.actAll actions := by
  rw [atMoment, List.take_length, performAll_operationsOfAll]

/-- Moments of a part of a run are moments of the run. -/
theorem exists_atMoment_of_append {session entered : Session} {actions part : List Action}
    {before after : List Operation}
    (hoperations : session.operationsOfAll actions =
      before ++ (entered.operationsOfAll part ++ after))
    (hentered : session.performAll before = entered) (moment : Nat) :
    ∃ whole, session.atMoment actions whole = entered.atMoment part moment := by
  -- A moment past the end of the part is its last one.
  let within := (entered.operationsOfAll part).take moment
  have htake : (session.operationsOfAll actions).take (before.length + within.length) =
      before ++ within := by
    have hwithin : within.length ≤ (entered.operationsOfAll part).length :=
      List.length_take_le' _ _
    rw [hoperations, List.take_length_add_append, List.take_append_of_le_length hwithin]
    simp [within]
  refine ⟨before.length + within.length, ?_⟩
  rw [atMoment, htake, performAll_append, hentered]
  rfl

/-- Some action begins in a session: one of the given actions, or one inside the calls of a link
that is among them or inside one of these, to any depth. -/
inductive Begins : Session → List Action → Session → Prop where
  | first (session : Session) (action : Action) (rest : List Action) :
      Begins session (action :: rest) session
  | later {session entered : Session} (action : Action) {rest : List Action} :
      Begins (session.act action) rest entered → Begins session (action :: rest) entered
  | inside {session entered : Session} (machine : ScriptMachine) (buffer : Buffer) (run : Bool)
      (codes : Nat → Int32) (inside : Nat → List Action) (rest : List Action) {call : Nat} :
      call < session.linkCalls machine buffer run codes →
        Begins (session.actAll (actionsInside inside call)) (inside call) entered →
          Begins session (.link machine buffer run codes inside :: rest) entered

/-- Every action of a run begins at one of its moments. -/
theorem Begins.exists_moment {session entered : Session} {actions : List Action}
    (h : Begins session actions entered) : ∃ moment, session.atMoment actions moment = entered := by
  induction h with
  | first session action rest => exact ⟨0, rfl⟩
  | @later session entered action rest hlater ih =>
    obtain ⟨moment, rfl⟩ := ih
    have hoperations : session.operationsOfAll (action :: rest) = session.operationsOf action ++
        ((session.act action).operationsOfAll rest ++ []) := by
      rw [operationsOfAll, List.append_nil]
    have hact : session.performAll (session.operationsOf action) = session.act action := by
      have hone := session.performAll_operationsOfAll [action]
      simpa only [operationsOfAll, List.append_nil, actAll] using hone
    exact exists_atMoment_of_append hoperations hact moment
  | @inside session entered machine buffer run codes inside rest call hcall hinside ih =>
    obtain ⟨moment, rfl⟩ := ih
    let operations (call : Nat) : List Operation :=
      (session.actAll (actionsInside inside call)).operationsOfAll (inside call)
    -- What the earlier calls amount to comes before it, what the later ones amount to after it.
    obtain ⟨more, hmore⟩ := Nat.exists_eq_add_of_le (Nat.succ_le_of_lt hcall)
    have hoperations : session.operationsOfAll (.link machine buffer run codes inside :: rest) =
        (List.range call).flatMap operations ++ (operations call ++
          (((List.range more).map (call + 1 + ·)).flatMap operations ++
            (session.act (.link machine buffer run codes inside)).operationsOfAll rest)) := by
      rw [operationsOfAll, operationsOf, hmore, Nat.succ_eq_add_one, List.range_add,
        List.range_succ]
      simp only [operations, List.flatMap_append, List.flatMap_singleton, List.append_assoc]
    have hcalls : session.performAll ((List.range call).flatMap operations) =
        session.actAll (actionsInside inside call) :=
      performAll_operationsInside (fun _ ↦ performAll_operationsOfAll _ _) call
    exact exists_atMoment_of_append hoperations hcalls moment

end Session

end AssetOverlay
