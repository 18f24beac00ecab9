import Grass.Guarantee.Verdict

namespace Grass.Game

open Transition

def progressOf (game : Game) : Participant → Option Progress
  | .host => game.partialHost.taskProgress
  | .member id => (game.client? id).bind PartialClient.taskProgress

def Seats (game : Game) (clientId : Uuid) : Participant → Prop
  | .host => clientId = game.partialHost.id
  | .member id => clientId = id ∧ (game.client? id).isSome

/-- The task is recorded as done for that participant, and for no other. -/
structure Credits (who : Participant) (taskIndex : Nat) (before after : Game) : Prop where
  own : ∃ progress, after.progressOf who = some progress ∧ progress.lookup taskIndex = some true
  others : ∀ other, other ≠ who → after.progressOf other = before.progressOf other

/-- A submission that is done is credited to its submitter, and any other to nobody. -/
structure CreditsRightly (who : Participant) (taskIndex : Nat) (before after : Game)
    (exit : Exit ClientError CompilationResponse) : Prop where
  done : exit.Done → before.Credits who taskIndex after
  undone : ¬ exit.Done → ∀ other, after.progressOf other = before.progressOf other

variable {game : Game} {count : Nat}

theorem credited_credits (progress : Progress) (taskIndex : Nat) :
    game.Credits .host taskIndex (game.credited progress taskIndex) where
  own := ⟨_, rfl, AList.lookup_insert _⟩
  others other apart := by
    cases other with
    | host => exact absurd rfl apart
    | member id => rfl

theorem Underway.uncredited (underway : game.Underway count) (progress : Progress)
    (taskIndex : Nat) (id : Uuid) :
    ¬ game.Credits (.member id) taskIndex (game.credited progress taskIndex) := by
  rintro ⟨⟨kept, tracked, done⟩, -⟩
  obtain ⟨client, present, own⟩ := Option.bind_eq_some_iff.mp tracked
  exact underway.waiting id client present taskIndex ⟨kept, own, done⟩

/-- After a start that returned Ok, whatever has been called since, a submission is
credited rightly exactly where the host submits it, or its two runs are not both as
expected. -/
theorem credits_rightly_iff (game : Game) (order : IterOrder) (closed : SocketSender → Bool)
    (choose : List GameTask → Nat → List GameTask) (availableTasks : List GameTask)
    (taskCount : Nat)
    (finished : (game.start order closed choose availableTasks taskCount).2.exit = .ok ())
    (later : Game) (reached : Reach (fun started =>
      started = (game.start order closed choose availableTasks taskCount).1) calls later)
    (meets : IterOrder) (unreachable : SocketSender → Bool) (sandbox : Sandbox) (clientId : Uuid)
    (who : Participant) (seated : later.Seats clientId who) (taskIndex : Nat) (code : String)
    (result : SandboxResponse) :
    later.CreditsRightly who taskIndex
        (later.validateCodeTest meets unreachable sandbox clientId taskIndex code result).1
        (later.validateCodeTest meets unreachable sandbox clientId taskIndex code result).2.exit ↔
      who = .host ∨ ¬ later.Accepts sandbox clientId taskIndex code result := by
  have underway := (underway_of_start finished).reached reached
  obtain ⟨progress, -, ⟨accepted, done, after⟩ | ⟨refused, undone, after⟩⟩ :=
    underway.recorded meets unreachable sandbox clientId taskIndex code result
  · rw [after]
    constructor
    · intro rightly
      cases who with
      | host => exact .inl rfl
      | member id => exact absurd (rightly.done done) (underway.uncredited progress taskIndex id)
    · rintro (rfl | refused)
      · exact ⟨fun _ => credited_credits progress taskIndex, fun undone => absurd done undone⟩
      · exact absurd accepted refused
  · rw [after]
    exact iff_of_true ⟨fun done => absurd done undone, fun _ _ => rfl⟩ (.inr refused)

/-- A host and a participant of a started game with one task, and what passes it. -/
abbrev pairStarted : Game :=
  let self := PartialClient.new 1 "n" "a" true (some 1)
  let game := ((Game.new true "17" self self).register .stored (fun _ => false)
    (.new 2 "m" "a" true (some 2))).1
  (game.start .stored (fun _ => false) (fun tasks count => tasks.take count)
    [⟨7, "q", [⟨"1", "1", 0⟩], [⟨"2", "1", 0⟩]⟩] 1).1

theorem credits_rightly_host :
    let answer : SandboxResponse := ⟨true, ["1\n"], []⟩
    let graded := pairStarted.validateCodeTest .stored (fun _ => false) (fun _ _ _ => some answer) 1
      0 "code" answer
    pairStarted.CreditsRightly .host 0 graded.1 graded.2.exit := by
  intro answer graded
  let self := PartialClient.new 1 "n" "a" true (some 1)
  let game := ((Game.new true "17" self self).register .stored (fun _ => false)
    (.new 2 "m" "a" true (some 2))).1
  exact (credits_rightly_iff game .stored (fun _ => false) (fun tasks count => tasks.take count)
    [⟨7, "q", [⟨"1", "1", 0⟩], [⟨"2", "1", 0⟩]⟩] 1 rfl pairStarted (.start rfl) .stored
    (fun _ => false) (fun _ _ _ => some answer) 1 .host rfl 0 "code" answer).mpr (.inl rfl)

/-- The participant's submission passes; the participant's flag stays, and the host's is
set. -/
theorem credits_host_instead :
    let answer : SandboxResponse := ⟨true, ["1\n"], []⟩
    let graded := pairStarted.validateCodeTest .stored (fun _ => false) (fun _ _ _ => some answer) 2
      0 "code" answer
    pairStarted.Seats 2 (.member 2) ∧ graded.2.exit.Done ∧
      (graded.1.progressOf (.member 2)).bind (fun progress => progress.lookup 0) = some false ∧
      (graded.1.progressOf .host).bind (fun progress => progress.lookup 0) = some true ∧
      ¬ pairStarted.CreditsRightly (.member 2) 0 graded.1 graded.2.exit := by
  intro answer graded
  have done : graded.2.exit.Done := ⟨_, rfl, rfl⟩
  have unset : (graded.1.progressOf (.member 2)).bind (fun progress => progress.lookup 0) =
      some false := by decide +kernel
  refine ⟨⟨rfl, by decide +kernel⟩, done, unset, by decide +kernel, ?_⟩
  rintro ⟨credited, -⟩
  obtain ⟨progress, kept, set⟩ := (credited done).own
  rw [kept] at unset
  exact absurd (set.symm.trans unset) (by decide)

end Grass.Game
