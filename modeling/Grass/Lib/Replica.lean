import Mathlib.Data.Finset.Basic

/-! Views of a membership kept up by updates: a newcomer is told who is there, and
everyone is told who comes and goes. Nothing here depends on the modelled program. -/

namespace Replica

universe u v

variable {Id : Type u} {Name : Type v} [DecidableEq Id]

/-- News of the membership. -/
inductive Update (Id : Type u) (Name : Type v) where
  | add (id : Id) (name : Name)
  | remove (id : Id)

def without (members : Finset (Id × Name)) (id : Id) : Finset (Id × Name) :=
  members.filter fun member => member.1 ≠ id

@[simp] theorem mem_without {members : Finset (Id × Name)} {id : Id} {member : Id × Name} :
    member ∈ without members id ↔ member ∈ members ∧ member.1 ≠ id := by
  simp [without]

variable [DecidableEq Name]

def Update.apply (view : Finset (Id × Name)) : Update Id Name → Finset (Id × Name)
  | .add id name => insert (id, name) view
  | .remove id => without view id

def replay (view : Finset (Id × Name)) (news : List (Update Id Name)) : Finset (Id × Name) :=
  news.foldl Update.apply view

theorem replay_append (view : Finset (Id × Name)) (earlier later : List (Update Id Name)) :
    replay view (earlier ++ later) = replay (replay view earlier) later :=
  List.foldl_append ..

theorem mem_replay_adds {news : List (Update Id Name)}
    (adds : ∀ update ∈ news, ∃ id name, update = .add id name) (view : Finset (Id × Name))
    (member : Id × Name) :
    member ∈ replay view news ↔ member ∈ view ∨ .add member.1 member.2 ∈ news := by
  induction news generalizing view with
  | nil => simp [replay]
  | cons update rest ih =>
    obtain ⟨id, name, rfl⟩ := adds update (by simp)
    have later := ih (fun other told => adds other (by simp [told])) (insert (id, name) view)
    rw [show replay view (.add id name :: rest) = replay (insert (id, name) view) rest from rfl,
      later, Finset.mem_insert, List.mem_cons, Update.add.injEq, Prod.ext_iff]
    grind

theorem replay_remove {news : List (Update Id Name)} {id : Id} (told : news ≠ [])
    (removes : ∀ update ∈ news, update = .remove id) (view : Finset (Id × Name)) :
    replay view news = without view id := by
  induction news generalizing view with
  | nil => contradiction
  | cons update rest ih =>
    obtain rfl := removes update (by simp)
    rw [show replay view (.remove id :: rest) = replay (without view id) rest from rfl]
    by_cases last : rest = []
    · simp [last, replay]
    · rw [ih last (fun other later => removes other (by simp [later]))]
      ext member
      simp

/-- A membership, and the news each party has been given since it entered. -/
structure Replicas (Id : Type u) (Name : Type v) where
  members : Finset (Id × Name)
  inbox : Id → List (Update Id Name)

/-- What can happen to a membership, and whom it is told. -/
inductive Moves (before after : Replicas Id Name) : Prop where
  /-- The newcomer is told of everyone there, everyone there of the newcomer. -/
  | arrive (id : Id) (name : Name) (fresh : ∀ member ∈ before.members, member.1 ≠ id)
      (members : after.members = insert (id, name) before.members)
      (adds : ∀ update ∈ after.inbox id, ∃ id name, update = .add id name)
      (caught : ∀ member, .add member.1 member.2 ∈ after.inbox id ↔ member ∈ before.members)
      (told : ∀ member ∈ before.members, ∃ news, news ≠ [] ∧
        (∀ update ∈ news, update = .add id name) ∧
        after.inbox member.1 = before.inbox member.1 ++ news)
  /-- Those who stay are told who has gone. -/
  | depart (id : Id) (members : after.members = without before.members id)
      (told : ∀ member ∈ after.members, ∃ news, news ≠ [] ∧
        (∀ update ∈ news, update = .remove id) ∧
        after.inbox member.1 = before.inbox member.1 ++ news)
  | still (members : after.members = before.members)
      (inbox : ∀ member ∈ before.members, after.inbox member.1 = before.inbox member.1)

/-- Every member has heard of exactly the others. -/
def Synced (replicas : Replicas Id Name) : Prop :=
  ∀ member ∈ replicas.members,
    replay ∅ (replicas.inbox member.1) = without replicas.members member.1

theorem Synced.alone {replicas : Replicas Id Name} (id : Id) (name : Name)
    (only : replicas.members = {(id, name)}) (quiet : replicas.inbox id = []) :
    Synced replicas := by
  intro member listed
  obtain rfl : member = (id, name) := by simpa [only] using listed
  ext other
  simp only [quiet, only, replay, List.foldl_nil, Finset.notMem_empty, mem_without,
    Finset.mem_singleton, false_iff, not_and, not_not]
  rintro rfl
  rfl

theorem Synced.moves {before after : Replicas Id Name} (synced : Synced before)
    (moves : Moves before after) : Synced after := by
  intro member listed
  cases moves with
  | still members inbox =>
    rw [members] at listed ⊢
    rw [inbox member listed, synced member listed]
  | depart id members told =>
    obtain ⟨news, given, removes, heard⟩ := told member listed
    rw [members, mem_without] at listed
    rw [heard, replay_append, replay_remove given removes, synced member listed.1, members]
    ext other
    simp only [mem_without]
    tauto
  | arrive id name fresh members adds caught told =>
    ext other
    rw [members, mem_without, Finset.mem_insert]
    rw [members, Finset.mem_insert] at listed
    rcases listed with rfl | listed
    · -- the newcomer has heard of everyone who was there before
      rw [mem_replay_adds adds, caught other]
      constructor
      · rintro (none | present)
        · simp at none
        · exact ⟨.inr present, fresh other present⟩
      · rintro ⟨rfl | present, distinct⟩
        · exact absurd rfl distinct
        · exact .inr present
    · obtain ⟨news, given, tells, heard⟩ := told member listed
      have known : (.add id name : Update Id Name) ∈ news := by
        obtain ⟨update, present⟩ := List.exists_mem_of_ne_nil news given
        exact tells update present ▸ present
      rw [heard, replay_append,
        mem_replay_adds (fun update present => ⟨id, name, tells update present⟩),
        synced member listed, mem_without]
      constructor
      · rintro (⟨present, distinct⟩ | present)
        · exact ⟨.inr present, distinct⟩
        · obtain ⟨rfl, rfl⟩ : other.1 = id ∧ other.2 = name := by simpa using tells _ present
          exact ⟨.inl rfl, (fresh member listed).symm⟩
      · rintro ⟨rfl | present, distinct⟩
        · exact .inr known
        · exact .inl ⟨present, distinct⟩

section Member

variable {id : Id} {before after : Finset (Id × Name)} {news : List (Update Id Name)}

/-- What one member hears of a change: another's arrival, another's departure, or nothing. -/
inductive Hears (id : Id) (before after : Finset (Id × Name)) (news : List (Update Id Name)) : Prop
  where
  | arrive (other : Id) (name : Name) (distinct : other ≠ id)
      (members : after = insert (other, name) before) (given : news ≠ [])
      (adds : ∀ update ∈ news, update = .add other name)
  | depart (other : Id) (distinct : other ≠ id) (members : after = without before other)
      (given : news ≠ []) (removes : ∀ update ∈ news, update = .remove other)
  | still (members : after = before) (quiet : news = [])

/-- A member that knew the others still does, whether or not everybody else hears too. -/
theorem Hears.replay (hears : Hears id before after news) :
    replay (without before id) news = without after id := by
  cases hears with
  | still members quiet => simp [members, quiet, Replica.replay]
  | depart other distinct members given removes =>
    rw [replay_remove given removes, members]
    ext member
    simp only [mem_without]
    tauto
  | arrive other name distinct members given adds =>
    obtain ⟨update, present⟩ := List.exists_mem_of_ne_nil news given
    ext member
    rw [mem_replay_adds (fun update told => ⟨other, name, adds update told⟩), members, mem_without,
      mem_without, Finset.mem_insert]
    constructor
    · rintro (⟨known, apart⟩ | told)
      · exact ⟨.inr known, apart⟩
      · obtain ⟨rfl, rfl⟩ : member.1 = other ∧ member.2 = name := by simpa using adds _ told
        exact ⟨.inl rfl, distinct⟩
    · rintro ⟨rfl | known, apart⟩
      · exact .inr (adds update present ▸ present)
      · exact .inl ⟨known, apart⟩

theorem Hears.earlier (hears : Hears id before after news) {name : Name}
    (listed : (id, name) ∈ after) : (id, name) ∈ before := by
  cases hears with
  | still members quiet => rwa [members] at listed
  | depart other distinct members given removes =>
    rw [members, mem_without] at listed
    exact listed.1
  | arrive other name distinct members given adds =>
    rw [members, Finset.mem_insert] at listed
    rcases listed with same | there
    · exact absurd (Prod.mk.inj same).1.symm distinct
    · exact there

theorem replay_caught {name : Name} (fresh : ∀ member ∈ before, member.1 ≠ id)
    (adds : ∀ update ∈ news, ∃ id name, update = .add id name)
    (caught : ∀ member, .add member.1 member.2 ∈ news ↔ member ∈ before) :
    replay ∅ news = without (insert (id, name) before) id := by
  ext member
  rw [mem_replay_adds adds, caught, mem_without, Finset.mem_insert]
  constructor
  · rintro (none | present)
    · simp at none
    · exact ⟨.inr present, fresh member present⟩
  · rintro ⟨rfl | present, apart⟩
    · exact absurd rfl apart
    · exact .inr present

end Member

end Replica
