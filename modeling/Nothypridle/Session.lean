import Nothypridle.Lib.Transition

/-!
# What a rule is for

The purpose of a rule, with no word of threads, epochs and flags: once the user has been away for
long enough something is done, once, and it is undone when the user is back. Whatever may keep the
rule from acting is left open; a user may come back before anything is done.
-/

namespace Nothypridle

inductive Session where
  | present
  | away
  /-- Away, and it has been done. -/
  | acted
  /-- Back, and it is still to be undone. -/
  | back
  deriving DecidableEq

namespace Session

inductive Label where
  | leaves
  | acts
  | returns
  | undoes
  deriving DecidableEq

def step : Session → Label → Option Session
  | present, .leaves => some away
  | away, .acts => some acted
  | away, .returns => some present
  | acted, .returns => some back
  | back, .undoes => some present
  | _, _ => none

/-- What is handed to the command runner. -/
def Label.commands (cmd restore : String) : Label → List String
  | acts => [cmd]
  | undoes => [restore]
  | _ => []

/-- A session, and all that has been handed over in it. -/
structure Diary where
  session : Session
  commands : List String

namespace Diary

variable {cmd restore : String}

def blank : Diary := ⟨present, []⟩

def step (cmd restore : String) (diary : Diary) (label : Label) : Option Diary :=
  (diary.session.step label).map fun session =>
    { session, commands := diary.commands ++ label.commands cmd restore }

/-- What has been handed over is `cmd` and `restore` in turn, and `restore` is not missing but where
something is still to be undone. -/
def Balanced (cmd restore : String) (diary : Diary) : Prop :=
  ∃ n, diary.commands = (List.replicate n [cmd, restore]).flatten ++
    match diary.session with
    | acted => [cmd]
    | back => [cmd]
    | _ => []

theorem Balanced.step {diary diary' : Diary} {label : Label}
    (hbalanced : diary.Balanced cmd restore) (hstep : step cmd restore diary label = some diary') :
    diary'.Balanced cmd restore := by
  obtain ⟨n, hcommands⟩ := hbalanced
  obtain ⟨session, commands⟩ := diary
  obtain ⟨session', hsession, rfl⟩ := Option.map_eq_some_iff.mp hstep
  cases session <;> cases label <;> simp only [Session.step, Option.some.injEq, reduceCtorEq]
    at hsession <;> subst hsession <;> simp only at hcommands <;> subst hcommands
  -- Only the undoing completes a turn.
  case back.undoes =>
    refine ⟨n + 1, ?_⟩
    simp [Label.commands, List.replicate_succ']
  all_goals exact ⟨n, by simp [Label.commands]⟩

/-- **Everything that is done is undone**, in turn, and nothing else is. -/
theorem balanced {diary : Diary} {labels : List Label}
    (hrun : Transition.Runs (step cmd restore) blank labels diary) :
    diary.Balanced cmd restore :=
  Transition.Runs.invariant (fun _ _ _ => Balanced.step) hrun ⟨0, rfl⟩

end Diary

end Session

end Nothypridle
