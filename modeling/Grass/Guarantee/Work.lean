import Grass.Guarantee.Session
import Grass.Refinement.Turns

/-! The work a message takes: how many sections its handler runs at most, however the
other connections run in between. -/

namespace Grass

open Transition

/-- How many sections a handler may still run, the timeout branch included where
`grace` is counted. -/
def Pc.rank (grace : Nat) : Pc → Nat
  | .receive => 5 + grace
  | .compilePrepare _ _ => 4 + grace
  | .compileRun _ _ _ | .existsCheck _ _ => 3 + grace
  | .joinSet _ | .joinRegister _ _ _ _ | .joinForeign _ | .compileValidate _ _ _
  | .existsPurge _ => 2 + grace
  | .joinHost _ | .joinPurge _ | .joinEnter _ _ _ _ _ _ | .joinRefuse _ | .compileFail _
  | .compileReply _ | .createReply _ | .existsReply _ _ => 1 + grace
  | .timeoutClone => 4
  | .timeoutReply _ => 3
  | .timeoutShutdown _ _ => 2
  | .timeoutDelete _ _ | .timeoutLeave _ _ => 1

theorem Pc.rank_pos (grace : Nat) (pc : Pc) : 0 < pc.rank grace := by
  cases pc <;> simp only [Pc.rank] <;> omega

namespace Section

/-- Control goes on only where less is left to run. -/
def Falls (bound : Pc → Nat) (left : Nat) (part : Section) : Prop :=
  ∀ pc, part.next = .goto pc → bound pc < left

variable {bound : Pc → Nat} {left : Nat} {world : World}

@[simp] theorem falls_stop (exit : Exit ClientError Unit) : Falls bound left (stop world exit) :=
  fun _ going => by cases going

@[simp] theorem falls_fail (error : ClientError) : Falls bound left (fail world error) :=
  fun _ going => by cases going

@[simp] theorem falls_panic : Falls bound left (panic world) := fun _ going => by cases going

@[simp] theorem falls_goto {pc : Pc} : Falls bound left (goto world pc) ↔ bound pc < left := by
  simp [Falls, goto]

@[simp] theorem falls_refuse (client : SocketClient) (error : ClientError) :
    Falls bound left (refuse world client error) :=
  fun _ going => by cases going

@[simp] theorem falls_reply (channel : SocketSender) (response : Response)
    (exit : Exit ClientError Unit) : Falls bound left (reply world channel response exit) :=
  fun _ going => by cases going

@[simp] theorem falls_on (paused : List World) {pc : Pc} :
    Falls bound left ⟨paused, world, .goto pc⟩ ↔ bound pc < left := by
  simp [Falls]

@[simp] theorem falls_handled (paused : List World) (exit : Exit ClientError Unit) :
    Falls bound left ⟨paused, world, .handled exit⟩ :=
  fun _ going => by cases going

@[simp] theorem falls_returned (result : Exit ClientError Bool) :
    Falls bound left ⟨[], world, .returned result⟩ :=
  fun _ going => by cases going

end Section

namespace Ctx

variable {grace : Nat} {ctx : Ctx} {world : World}

theorem handleJoin_falls (d : Option Value) :
    (ctx.handleJoin world d).Falls (Pc.rank grace) (5 + grace) := by
  unfold handleJoin joinRead
  repeat' split
  all_goals simp [Pc.rank]

theorem receive_falls : (ctx.receive world).Falls (Pc.rank grace) (5 + grace) := by
  unfold receive
  split
  · simp
  · split
    · split
      · simp
      · rename_i request _
        unfold handleRequest
        split
        · exact handleJoin_falls request.d
        · unfold handleLeave
          repeat' split
          all_goals simp
        · unfold handleStart startHosted
          repeat' split
          all_goals simp
        · unfold handleTask
          repeat' split
          all_goals simp
        · unfold handleCompile
          repeat' split
          all_goals simp [Pc.rank]
        · unfold handlePing
          split <;> simp
        · unfold handleIdentify
          repeat' split
          all_goals simp
        · unfold handleCreate
          repeat' split
          all_goals simp [Pc.rank]
        · unfold handleExists existsRead
          repeat' split
          all_goals simp [Pc.rank]
    · simp

/-- Every section goes on only where less is left to run. -/
theorem runSection_falls (pc : Pc) :
    (ctx.runSection world pc).Falls (Pc.rank grace) (pc.rank grace) := by
  cases pc with
  | receive => exact receive_falls
  | joinSet => simp only [runSection, joinSet]; split <;> simp [Pc.rank]
  | joinHost =>
    simp only [runSection, joinHost]
    repeat' split
    all_goals simp
  | joinRegister =>
    simp only [runSection, joinRegister]
    repeat' split
    all_goals simp [Pc.rank]
  | joinPurge => simp [runSection, joinPurge]
  | joinEnter =>
    simp only [runSection, joinEnter]
    repeat' split
    all_goals simp
  | joinForeign =>
    simp only [runSection, joinForeign]
    repeat' split
    all_goals simp [Pc.rank]
  | joinRefuse => simp only [runSection, joinRefuse]; split <;> simp
  | compilePrepare =>
    simp only [runSection, compilePrepare]
    repeat' split
    all_goals simp [Pc.rank]
  | compileFail => simp only [runSection, compileFail]; split <;> simp
  | compileRun => simp only [runSection, compileRun]; split <;> simp [Pc.rank]
  | compileValidate =>
    simp only [runSection, compileValidate]
    repeat' split
    all_goals simp [Pc.rank]
  | compileReply => simp only [runSection, compileReply]; split <;> simp
  | createReply => simp only [runSection, createReply]; split <;> simp
  | existsCheck => simp only [runSection, existsCheck]; split <;> simp [Pc.rank]
  | existsPurge => simp [runSection, existsPurge, Pc.rank]
  | existsReply => simp only [runSection, existsReply]; split <;> simp
  | timeoutClone => simp only [runSection, timeoutClone]; split <;> simp [Pc.rank]
  | timeoutReply =>
    simp only [runSection, timeoutReply]
    repeat' split
    all_goals simp [Pc.rank]
  | timeoutShutdown => simp only [runSection, timeoutShutdown]; split <;> simp [Pc.rank]
  | timeoutDelete => simp only [runSection, timeoutDelete]; split <;> simp
  | timeoutLeave => simp only [runSection, timeoutLeave]; split <;> simp

/-- The timeout branch is not suspended anywhere; every other section leaves room for it. -/
theorem paused_rank (granted : 4 ≤ grace) {pc : Pc} {after : World}
    (paused : after ∈ (ctx.runSection world pc).paused) :
    Pc.timeoutClone.rank grace < pc.rank grace := by
  cases pc with
  | timeoutClone => simp only [runSection, timeoutClone] at paused; split at paused <;> cases paused
  | timeoutReply =>
    simp only [runSection, timeoutReply] at paused
    repeat' split at paused
    all_goals cases paused
  | timeoutShutdown =>
    simp only [runSection, timeoutShutdown] at paused
    split at paused <;> cases paused
  | timeoutDelete => simp only [runSection, timeoutDelete] at paused; split at paused <;> cases paused
  | timeoutLeave => simp only [runSection, timeoutLeave] at paused; split at paused <;> cases paused
  | _ =>
    simp only [Pc.rank]
    omega

end Ctx

/-- How many sections are left to a reader; none where it handles no message. -/
def Reader.rank (grace : Nat) : Reader → Nat
  | .busy _ _ pc => pc.rank grace
  | _ => 0

theorem Reader.busy_rank (grace : Nat) (oracle : Oracle) (model : DefaultModel) (pc : Pc) :
    (Reader.busy oracle model pc).rank grace = pc.rank grace := rfl

theorem Reader.after_rank (grace : Nat) (result : Exit ClientError Bool) :
    (Reader.after result).rank grace = 0 := by
  rcases Cluster.Reader.after_idle result with same | same <;> rw [same] <;> rfl

namespace Cluster

variable {grace left : Nat} {before after : Cluster} {action : Action} {party : Party}

theorem nextReader_rank {part : Section} (falls : part.Falls (Pc.rank grace) left) (some_ : 0 < left)
    (oracle : Oracle) (model : DefaultModel) :
    (nextReader oracle model part.next).rank grace < left := by
  cases next : part.next with
  | goto pc => exact falls pc next
  | handled exit => simpa only [nextReader, Reader.after_rank]
  | returned result => simpa only [nextReader, Reader.after_rank]

/-- What is left to the handler of a connection. -/
def workLeft (grace : Nat) (cluster : Cluster) (party : Party) : Nat :=
  ((cluster.node party.shardId).reader party.id).rank grace

/-- The sections that each handler has run since its connection last took a frame. -/
def noteWork (_ : Cluster) (action : Action) (spent : Party → Nat) : Party → Nat :=
  match action.kind with
  | .frame _ _ => Function.update spent action.party 0
  | .advance | .timeout _ => Function.update spent action.party (spent action.party + 1)
  | _ => spent

theorem advance_works (grace : Nat) (cluster : Cluster) (party : Party)
    (pending : cluster.workLeft grace party ≠ 0) :
    ∃ after, cluster.step ⟨party, .advance⟩ = some after ∧
      after.workLeft grace party < cluster.workLeft grace party := by
  unfold workLeft at pending ⊢
  cases busy : (cluster.node party.shardId).reader party.id with
  | busy oracle model pc =>
    refine ⟨_, by simp only [step, busy, currentSection_busy busy]; rfl, ?_⟩
    rw [update_reader]
    exact nextReader_rank (Ctx.runSection_falls pc) (pc.rank_pos grace) oracle model
  | absent => simp [busy, Reader.rank] at pending
  | idle => simp [busy, Reader.rank] at pending
  | ended => simp [busy, Reader.rank] at pending

/-- A step spends what it takes away of the acting connection's work. -/
theorem step_works (stepped : before.step action = some after) (granted : action.lapses → 4 ≤ grace)
    (spent : Party → Nat) : noteWork before action spent action.party +
      after.workLeft grace action.party ≤
        max (5 + grace) (spent action.party + before.workLeft grace action.party) := by
  obtain ⟨party, kind⟩ := action
  cases step_does stepped with
  | connects unborn =>
    simp [workLeft, noteWork, setNode, Node.setPhase, Node.setReader, Reader.rank]
  | accepts accepted =>
    simp [workLeft, noteWork, setNode, Node.setPhase, Node.setWorld]
  | receives idle parses => simp [workLeft, noteWork, Reader.rank, Pc.rank]
  | answers idle bare => simp [workLeft, noteWork, Reader.after_rank]
  | @advances oracle model pc busy =>
    have falls := nextReader_rank (@Ctx.runSection_falls _ (before.ctx party oracle model)
      (before.world party.shardId) pc) (pc.rank_pos grace) oracle model
    simp only [workLeft, noteWork, Function.update_self, update_reader, busy, Reader.busy_rank]
    omega
  | @lapses oracle model pc await cut busy paused =>
    have falls := Ctx.paused_rank (granted trivial) (List.mem_of_getElem? paused)
    simp only [workLeft, noteWork, Function.update_self, update_reader, busy, Reader.busy_rank]
    omega
  | hangs idle => simp [workLeft, noteWork, Reader.rank]
  | severs => simp [workLeft, noteWork, setNode]

/-- Fresh processes, no section run. -/
def Unworked (state : Cluster × (Party → Nat)) : Prop := state.1.Fresh ∧ ∀ party, state.2 party = 0

/-- The steps, with the sections counted; requests time out only where that is granted
its sections. -/
def workingSteps (grace : Nat) : Transition.Step (Cluster × (Party → Nat)) Action :=
  (Step.ofOption (recording step noteWork)).when fun _ action _ => action.lapses → 4 ≤ grace

/-- However the connections interleave: a message takes its handler at most five sections,
nine if it may time out, and wherever it stands its own next sections, within that bound
and whatever they find, bring it to its end. -/
theorem work_bounded (grace : Nat) (state : Cluster × (Party → Nat))
    (reached : Reach Unworked (workingSteps grace) state) (party : Party) :
    ∃ count final, state.2 party + count ≤ 5 + grace ∧
      run step state.1 (List.replicate count ⟨party, .advance⟩) = some final ∧
      ((final.node party.shardId).reader party.id).isBusy = false := by
  have budget : ∀ other, state.2 other + state.1.workLeft grace other ≤ 5 + grace := by
    induction reached with
    | start initial =>
      intro other
      obtain ⟨tasks, started⟩ := initial.1 other.shardId
      simp [initial.2 other, workLeft, started, Node.fresh, Reader.rank]
    | @next before action after earlier step ih =>
      intro other
      obtain ⟨recorded, granted⟩ := step
      obtain ⟨stepped, noted⟩ := recording_eq_some.mp recorded
      rw [noted]
      by_cases own : other = action.party
      · subst own
        exact (step_works stepped granted before.2).trans (by simpa using ih action.party)
      · have kept : noteWork before.1 action before.2 other = before.2 other := by
          cases kind : action.kind <;> simp [noteWork, kind, own]
        simpa only [kept, workLeft, (step_other stepped other own).1] using ih other
  have works : ∀ cluster : Cluster, True → cluster.workLeft grace party ≠ 0 → ∃ action after,
      action = ⟨party, .advance⟩ ∧ cluster.step action = some after ∧ True ∧
        after.workLeft grace party < cluster.workLeft grace party := by
    intro cluster _ pending
    obtain ⟨after, stepped, falls⟩ := advance_works grace cluster party pending
    exact ⟨_, after, rfl, stepped, trivial, falls⟩
  obtain ⟨actions, final, few, advances, ran, -, done⟩ := run_exhausts works state.1 trivial
  rw [List.eq_replicate_of_mem advances] at ran
  refine ⟨_, final, by have := budget party; omega, ran, ?_⟩
  cases reader : (final.node party.shardId).reader party.id with
  | busy oracle model pc =>
    simp only [workLeft, reader, Reader.busy_rank] at done
    exact absurd done (pc.rank_pos grace).ne'
  | absent | idle | ended => rfl

/-- A Join that has just made its client a host is timed out, and the timeout branch is
about to end that game. -/
theorem work_bounded_host : ∃ state, Reach Unworked (workingSteps 4) state ∧ state.2 ⟨"a", 1⟩ = 5 ∧
    ∃ count final, 5 + count ≤ 9 ∧
      run step state.1 (List.replicate count ⟨⟨"a", 1⟩, .advance⟩) = some final ∧
      ((final.node "a").reader 1).isBusy = false := by
  let host : Party := ⟨"a", 1⟩
  let oracle := Oracle.calm "17"
  have shows : (run (recording step noteWork) (launch emptyRedis [], fun _ => 0)
      (host.enters oracle ++ host.creates oracle ++ (host.hosts oracle "17").take 3 ++
        [⟨host, .timeout 0⟩, ⟨host, .advance⟩, ⟨host, .advance⟩])).map
          (fun state => state.2 host) = some 5 := by
    decide +kernel
  obtain ⟨state, ran, spent⟩ := Option.map_eq_some_iff.mp shows
  have initial : Reach Unworked (Step.ofOption (recording step noteWork))
      (launch emptyRedis [], fun _ => 0) :=
    .start ⟨launch_fresh emptyRedis [], fun _ => rfl⟩
  have reached : Reach Unworked (workingSteps 4) state :=
    (run_reach _ initial ran).mono fun _ _ _ _ step => ⟨step, fun _ => le_refl 4⟩
  refine ⟨state, reached, spent, ?_⟩
  simpa only [spent] using work_bounded 4 state reached host

end Cluster

end Grass
