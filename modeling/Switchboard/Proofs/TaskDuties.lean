import Switchboard.Proofs.Enrolling

/-! The duties of tasks. Every task of an office has duties, and its program is safe for them
whenever it goes on. What a task does when it is resumed are effects on its own duties; afterwards
it has duties that its program is safe for again, or it is done and has none left. -/

namespace Switchboard

variable {terms : Terms} {rounds : Nat}

structure Post : Type 1 where
  own : List Duty
  work : Program Chronicle Unit

namespace Post

/-- Whenever the task goes on, it keeps to its duties. -/
structure Ready (terms : Terms) (rounds : Nat) (post : Post) (system : System Chronicle) :
    Prop where
  resting : Resting post.own
  safe (after : System Chronicle) : system.Later after →
    post.work.Safe terms rounds ⟨subjectOf post.own, post.own, after⟩ fun _ now => now.own = []

theorem Ready.later {post : Post} {system after : System Chronicle}
    (ready : post.Ready terms rounds system) (later : system.Later after) :
    post.Ready terms rounds after where
  resting := ready.resting
  safe final more := ready.safe final (later.trans more)

def duties (posts : List Post) : List Duty :=
  posts.flatMap own

theorem duties_append (posts others : List Post) :
    duties (posts ++ others) = duties posts ++ duties others :=
  List.flatMap_append

theorem perm_eraseIdx {posts : List Post} {post : Post} {position : Nat}
    (found : posts[position]? = some post) : posts.Perm (post :: posts.eraseIdx position) := by
  induction posts generalizing position with
  | nil => cases found
  | cons first rest ih =>
    cases position with
    | zero =>
      cases found
      exact .refl _
    | succ position => exact ((ih found).cons first).trans (.swap _ _ _)

theorem duties_perm {posts : List Post} {post : Post} {position : Nat}
    (found : posts[position]? = some post) :
    (duties posts).Perm (post.own ++ duties (posts.eraseIdx position)) :=
  (perm_eraseIdx found).flatMap_right own

end Post

namespace Program

theorem Safe.advance {program : Program Chronicle Unit} {spot : Spot}
    (safe : program.Safe terms rounds spot fun _ now => now.own = []) (sound : spot.Sound terms)
    {after : System Chronicle} {left : Option (Program Chronicle Unit)}
    (moved : program.advance (.level .silent rounds) spot.system = some (after, left)) :
    ∃ own, Effects terms (.task spot.subject) spot.own spot.system own after ∧
      (left = none → own = []) ∧
      ∀ work, left = some work → Post.Ready terms rounds ⟨own, work⟩ after := by
  induction program generalizing spot with
  | done value =>
    obtain ⟨rfl, rfl⟩ := Prod.mk.inj (Option.some.inj moved)
    exact ⟨spot.own, .refl, fun _ => safe, nofun⟩
  | act step next ih =>
    rw [Program.advance] at moved
    split at moved
    · cases moved
    · rename_i value now run
      obtain ⟨own, effects, rest⟩ := safe sound value now run
      obtain ⟨last, more, finished⟩ := ih value rest (sound.after effects) moved
      exact ⟨last, effects.trans more, finished⟩
  | wait pause next ih =>
    have atOnce := safe.2 spot.subject spot.system (.inl ⟨rfl, rfl, sound⟩)
    rw [Program.advance] at moved
    split at moved
    · rename_i value ready
      exact ih _ (atOnce.1 value ready) sound moved
    split at moved
    · rename_i late
      exact ih _ (atOnce.2 late) sound moved
    · obtain ⟨rfl, rfl⟩ := Prod.mk.inj (Option.some.inj moved)
      refine ⟨spot.own, .refl, nofun, ?_⟩
      rintro work ⟨⟩
      refine ⟨safe.1, fun after later => ⟨safe.1, fun subject last resumes => ?_⟩⟩
      refine safe.2 subject last (.inr ?_)
      rcases resumes with ⟨rfl, rfl, -⟩ | ⟨rfl, more⟩
      · exact ⟨rfl, later⟩
      · exact ⟨rfl, later.trans more⟩

end Program

/-- The tasks of an office are at posts, and the duties of all fit the system. -/
structure AllAtPosts (terms : Terms) (rounds : Nat) (posts : List Post) (office : Office) :
    Prop where
  tasks : posts.map (·.work) = office.tasks
  ready {post : Post} : post ∈ posts → post.Ready terms rounds office.system
  orderly : Orderly terms (Post.duties posts) office.system
  works : office.system.works = []

def FollowUp.post (work : FollowUp) : Post where
  own := work.duties
  work := work.program

theorem FollowUp.duties_post (works : List FollowUp) :
    Post.duties (works.map FollowUp.post) = works.flatMap FollowUp.duties := by
  rw [Post.duties, List.flatMap_map]
  rfl

namespace AllAtPosts

variable {posts : List Post} {office after : Office}

theorem resting (allAtPosts : AllAtPosts terms rounds posts office) :
    Resting (Post.duties posts) := by
  intro id among
  obtain ⟨post, member, has⟩ := List.mem_flatMap.mp among
  exact (allAtPosts.ready member).resting id has

theorem absorb (tasks : posts.map (·.work) = office.tasks)
    (ready : ∀ post ∈ posts, post.Ready terms rounds office.system)
    (orderly : Orderly terms (Post.duties (posts ++ office.system.works.map FollowUp.post))
      office.system) :
    AllAtPosts terms rounds (posts ++ office.system.works.map FollowUp.post) office.absorb where
  tasks := by
    rw [List.map_append, tasks, List.map_map]
    rfl
  works := rfl
  orderly := orderly.of_books _ _ _ _ (fun _ => rfl) fun _ => rfl
  ready {post} among := by
    have later : office.system.Later office.absorb.system :=
      .of_connections (List.suffix_refl _) rfl
    rcases List.mem_append.mp among with old | new
    · exact (ready post old).later later
    · obtain ⟨work, left, rfl⟩ := List.mem_map.mp new
      have enabled (id : ConnectionId) (among : .agent id .reselecting ∈ work.duties) :
          terms.settings.domainSelection = true := by
        refine @Orderly.reselection _ _ _ orderly id ?_
        rw [Post.duties_append, FollowUp.duties_post]
        exact List.mem_append_right _ (List.mem_flatMap.mpr ⟨work, left, among⟩)
      refine ⟨?_, fun after _ => work.safe rfl rfl enabled⟩
      cases work with
      | redial id failed permanent => exact resting_agent id _
      | reselect id cause code => exact resting_agent id _
      | errand number => exact resting_nil

theorem resume (allAtPosts : AllAtPosts terms rounds posts office) {position : Nat}
    (moved : office.resume (.level .silent rounds) position = some after) :
    ∃ subject others, Effects terms (.task subject) (Post.duties posts) office.system
        (Post.duties others) after.system ∧
      others.map (·.work) = after.tasks ∧
      ∀ post ∈ others, post.Ready terms rounds after.system := by
  rw [Office.resume] at moved
  split at moved
  · cases moved
    exact ⟨none, posts, .refl, allAtPosts.tasks, fun _ => allAtPosts.ready⟩
  rename_i task found
  rw [← allAtPosts.tasks, List.getElem?_map] at found
  obtain ⟨post, here, rfl⟩ := Option.map_eq_some_iff.mp found
  obtain ⟨⟨system, left⟩, advanced, rfl⟩ := Option.map_eq_some_iff.mp moved
  let others := posts.eraseIdx position
  have ready := allAtPosts.ready (List.mem_of_getElem? here)
  have perm := Post.duties_perm here
  have resting : Resting (Post.duties others) := by
    intro id among
    exact allAtPosts.resting id (perm.mem_iff.mpr (List.mem_append_right _ among))
  have orderly := allAtPosts.orderly.perm perm
  obtain ⟨own, effects, finished, waits⟩ :=
    (ready.safe office.system (.refl _)).advance ⟨_, resting, orderly⟩ advanced
  have later := effects.later
  have framed := effects.frame (Post.duties others)
  have start := @Effect.shuffle terms (.task (subjectOf post.own)) _ _ office.system perm
  have remain (other : Post) (among : other ∈ others) : other.Ready terms rounds system :=
    (allAtPosts.ready (List.mem_of_mem_eraseIdx among)).later later
  have tasks : others.map (·.work) = office.tasks.eraseIdx position := by
    simp [others, ← allAtPosts.tasks, List.eraseIdx_eq_take_drop_succ]
  cases left with
  | none =>
    rw [finished rfl, List.nil_append] at framed
    refine ⟨_, others, (Effects.single start).trans framed, ?_, remain⟩
    rw [tasks]
    exact (List.append_nil _).symm
  | some work =>
    refine ⟨_, others ++ [⟨own, work⟩],
      ((Effects.single start).trans framed).step (.shuffle ?_), ?_,
      fun other among => ?_⟩
    · rw [Post.duties_append]
      exact List.perm_append_comm.trans (by simp [Post.duties])
    · rw [List.map_append, tasks]
      rfl
    · rcases List.mem_append.mp among with old | new
      · exact remain other old
      · obtain rfl := List.mem_singleton.mp new
        exact waits work rfl

end AllAtPosts
end Switchboard
