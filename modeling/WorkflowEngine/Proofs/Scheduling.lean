import Mathlib.Logic.Relation
import WorkflowEngine.Proofs.SessionParties
import WorkflowEngine.Proofs.Listening

/-!
# Sessions as interleavings

A session answers its executions from its world, and lets them take turns as its
caller waits.  Whatever its handlers do and however its clock moves on, all that
it does is a path of an engine.  So what holds on every path holds in every
session.
-/

namespace WorkflowEngine

open Execution (Next)

namespace Session

variable
  {σ : Type}
  {session after : Session σ}
  {own next : Option Progress}
  {first course later : Course}

/-- How far the execution of a party has come. -/
def progress? (session : Session σ) (own : Option Progress) : Party → Option Progress
  | .caller => own
  | .background job => session.jobs[job]?

/-- A session has come to the end of a path, and its caller's own execution, if
there is one, has come as far as is said. -/
structure Follows (session : Session σ) (own : Option Progress) (course : Course) : Prop where
  registry_eq : course.fleet.registry = session.world.registry
  shown : ∀ party {progress}, session.progress? own party = some progress →
    progress.Satisfies (course.Shows party)
  absent : ∀ party, session.progress? own party = none → course.place? party = none

/-- A session has come to the end of a path that another path leads to. -/
def FollowsOn (first : Course) (own : Option Progress) (session : Session σ) : Prop :=
  ∃ later, first.LeadsTo later ∧ session.Follows own later

/-- What is left of an execution that has returned a record is the end in its
place. -/
theorem Follows.ended
    {record : ExecutionRecord}
    (follows : session.Follows own course)
    (party : Party)
    (known : session.progress? own party = some (.ended (.ok record))) :
    ∃ place, course.place? party = some place ∧
      course.fleet.jobs[place]? = some (.done (.ended record)) := by
  have shown : course.Shows party (.done (.ended record)) := follows.shown party known
  generalize ends : Program.done (Next.ended record) = program at shown
  cases shown with
  | seeking => cases ends
  | refused => cases ends
  | @inside place _ placed found => exact ⟨place, placed, ends ▸ found⟩

/-- Paths are about nothing but the registry and how far executions have come. -/
theorem FollowsOn.of_same
    (follows : session.FollowsOn first own)
    (registry : after.world.registry = session.world.registry)
    (jobs : after.jobs = session.jobs) :
    after.FollowsOn first own := by
  obtain ⟨course, begun, follows⟩ := follows
  have same (party : Party) : after.progress? own party = session.progress? own party := by
    unfold progress?
    rw [jobs]
  refine ⟨course, begun, follows.registry_eq.trans registry.symm, fun party _ known => ?_,
    fun party gone => ?_⟩
  · exact follows.shown party ((same party).symm.trans known)
  · exact follows.absent party ((same party).symm.trans gone)

/-- A session goes on as one party does. -/
theorem Follows.onward
    {party : Party}
    {progress : Progress}
    (follows : session.Follows own course)
    (onward : course.Onward party later)
    (registry_eq : later.fleet.registry = after.world.registry)
    (others : ∀ {other}, other ≠ party → after.progress? next other = session.progress? own other)
    (moved : after.progress? next party = some progress)
    (satisfied : progress.Satisfies (later.Shows party)) :
    after.Follows next later where
  registry_eq := registry_eq
  shown other found known := by
    by_cases same : other = party
    · subst same
      cases moved.symm.trans known
      exact satisfied
    · rw [others same] at known
      exact (follows.shown other known).imp fun _ => onward.shown same
  absent other gone := by
    by_cases same : other = party
    · subst same
      cases moved.symm.trans gone
    · rw [others same] at gone
      exact onward.absent same (follows.absent other gone)

/-! ## Executions in the background -/

section

variable {job : Nat} {progress : Progress}

/-- A session goes on as one of its executions in the background does. -/
theorem Follows.background
    (follows : session.Follows own course)
    (present : job < session.jobs.length)
    (onward : course.Onward (.background job) later)
    (registry_eq : later.fleet.registry = after.world.registry)
    (jobs : after.jobs = session.jobs.set job progress)
    (satisfied : progress.Satisfies (later.Shows (.background job))) :
    after.Follows own later := by
  refine follows.onward onward registry_eq (fun {other} different => ?_) ?_ satisfied
  · cases other with
    | caller => rfl
    | background place =>
      unfold progress?
      rw [jobs]
      exact List.getElem?_set_ne fun same => different (congrArg _ same.symm)
  · unfold progress?
    rw [jobs]
    exact List.getElem?_set_self present

/-- A session follows a path on while an execution takes its turns. -/
theorem FollowsOn.runJob
    {program : Program Next}
    (turns : Nat)
    (present : job < session.jobs.length)
    (follows : (session.setJob job (.ready program)).FollowsOn first own) :
    (runJob job turns program session).FollowsOn first own := by
  induction turns generalizing program session with
  | zero => exact follows
  | succ turns inductionHypothesis =>
    obtain ⟨course, begun, follows⟩ := follows
    have shown : course.Shows (.background job) program :=
      follows.shown (.background job) (List.getElem?_set_self present)
    obtain ⟨middle, proceeds, registry, stopped⟩ :=
      course.exists_proceed follows.registry_eq shown
    have there : job < (session.setJob job (.ready program)).jobs.length := by
      unfold setJob
      rwa [List.length_set]
    -- Wherever the program stops, its place on the path tells how far it has come.
    have settles {later : Course} {after : Session σ} {progress : Progress}
        (onward : course.Onward (.background job) later)
        (registry_eq : later.fleet.registry = after.world.registry)
        (jobs : after.jobs = session.jobs.set job progress)
        (satisfied : progress.Satisfies (later.Shows (.background job))) :
        after.FollowsOn first own :=
      ⟨later, begun.trans onward.toLeadsTo,
        follows.background there onward registry_eq (jobs.trans (List.set_set ..).symm) satisfied⟩
    unfold Session.runJob
    dsimp only
    change (proceed program session.world).1.Satisfies _ at stopped
    generalize (proceed program session.world).1 = stop at stopped
    cases stop with
    | done next =>
      cases next with
      | turn execution =>
        obtain ⟨later, turns, same, shown⟩ := middle.exists_turn stopped
        exact inductionHypothesis present
          (settles (proceeds.trans turns) (same.trans registry) rfl shown)
      | ended record => exact settles proceeds registry rfl stopped
      | refused error => exact settles proceeds registry rfl stopped
    | waiting millis next => exact settles proceeds registry rfl stopped
    | listening listener next => exact settles proceeds registry rfl stopped
    | broken => exact settles proceeds registry rfl trivial

/-- An execution that is resumed goes on along the path. -/
theorem FollowsOn.resumeJob
    (follows : session.FollowsOn first own)
    (job : Nat) :
    (session.resumeJob job).FollowsOn first own := by
  obtain ⟨course, begun, there⟩ := follows
  have present {progress : Progress} (known : session.jobs[job]? = some progress) :
      job < session.jobs.length := (List.getElem?_eq_some_iff.mp known).1
  have resumes {later : Course} {program : Program Next}
      (present : job < session.jobs.length)
      (onward : course.Onward (.background job) later)
      (registry_eq : later.fleet.registry = session.world.registry)
      (shown : later.Shows (.background job) program) :
      (Session.runJob job turnLimit program session).FollowsOn first own :=
    .runJob turnLimit present ⟨later, begun.trans onward.toLeadsTo,
      there.background present onward registry_eq rfl shown⟩
  unfold Session.resumeJob
  split
  next program known =>
    have shown := there.shown (.background job) known
    exact resumes (present known) (.refl _ _) there.registry_eq shown
  next program known =>
    have shown := there.shown (.background job) known
    exact resumes (present known) (.refl _ _) there.registry_eq shown
  next listener next known =>
    split
    next heard awake =>
      have shown := there.shown (.background job) known
      obtain ⟨later, onward, registry, shown⟩ :=
        course.exists_answer shown (.listen (there.registry_eq ▸ awake))
      exact resumes (present known) onward (registry.trans there.registry_eq) shown
    next => exact ⟨course, begun, there⟩
  next => exact ⟨course, begun, there⟩

/-- So do all executions that can go on. -/
theorem FollowsOn.drain
    (follows : session.FollowsOn first own)
    (steps : Nat) :
    (session.drain steps).FollowsOn first own := by
  induction steps generalizing session with
  | zero => exact follows
  | succ steps inductionHypothesis =>
    unfold Session.drain
    dsimp only
    split
    next => exact follows.of_same rfl rfl
    next job rest _ =>
      have popped : FollowsOn first own { session.wakeListeners with queue := rest } :=
        follows.of_same rfl rfl
      exact inductionHypothesis (popped.resumeJob job)

/-- A session follows a path on while time passes. -/
theorem FollowsOn.passTo
    (follows : session.FollowsOn first own)
    (time steps : Nat) :
    (session.passTo time steps).FollowsOn first own := by
  induction steps generalizing session with
  | zero => exact follows
  | succ steps inductionHypothesis =>
    have drained := follows.drain turnLimit
    unfold Session.passTo
    dsimp only
    split
    · exact drained.of_same rfl rfl
    · exact inductionHypothesis (drained.of_same rfl rfl)

/-- A caller who waits lets the others go on along the path. -/
theorem FollowsOn.wait
    (follows : session.FollowsOn first own)
    (millis : Nat) :
    (session.wait millis).FollowsOn first own := by
  unfold Session.wait
  split
  · exact follows
  · exact follows.passTo _ _

/-- A session follows a path on until something has happened. -/
theorem FollowsOn.passUntil
    {α : Type}
    {happened : Session σ → Option α}
    {steps : Nat}
    {value : α}
    (follows : session.FollowsOn first own)
    (passed : session.passUntil happened steps = some (value, after)) :
    after.FollowsOn first own ∧ happened after = some value := by
  induction steps generalizing session with
  | zero => cases passed
  | succ steps inductionHypothesis =>
    have drained := follows.drain turnLimit
    unfold Session.passUntil at passed
    dsimp only at passed
    split at passed
    next value happened =>
      cases passed
      exact ⟨drained, happened⟩
    next =>
      obtain ⟨next, _, passed⟩ := Option.bind_eq_some_iff.mp passed
      have advanced : FollowsOn first own ((session.drain turnLimit).advanceTo next) :=
        drained.of_same rfl rfl
      exact inductionHypothesis advanced passed

/-- An execution that is spawned begins with a call. -/
theorem FollowsOn.spawn
    {program : Program Next}
    (follows : session.FollowsOn first own)
    (errand : Errand program) :
    (session.spawn program).2.FollowsOn first own := by
  obtain ⟨course, begun, follows⟩ := follows
  have new : session.progress? own (.background session.jobs.length) = none :=
    List.getElem?_eq_none (Nat.le_refl _)
  obtain ⟨later, onward, registry, shown⟩ := course.exists_errand (follows.absent _ new) errand
  refine ⟨later, begun.trans onward.toLeadsTo, follows.onward onward
    (registry.trans follows.registry_eq) (fun {other} different => ?_)
    List.getElem?_concat_length shown⟩
  cases other with
  | caller => rfl
  | background job =>
    have different : job ≠ session.jobs.length := fun same => different (congrArg _ same)
    unfold progress? Session.spawn
    dsimp only
    rw [List.getElem?_append]
    split
    next => rfl
    next beyond =>
      rw [List.getElem?_singleton, if_neg (by omega), List.getElem?_eq_none (by omega)]

/-- A caller who joins an execution follows the path to the end of it. -/
theorem FollowsOn.join
    {result : Except EngineError ExecutionRecord}
    (follows : session.FollowsOn first own)
    (joined : session.join job = some (result, after)) :
    after.FollowsOn first own ∧ after.jobs[job]? = some (.ended result) := by
  have ended {session : Session σ} (known : session.result? job = some (some result)) :
      session.jobs[job]? = some (.ended result) := by
    unfold result? at known
    split at known
    next found =>
      cases known
      exact found
    next => cases known
    next => cases known
  unfold Session.join at joined
  split at joined
  next known =>
    obtain ⟨_, rfl, same⟩ := Option.map_eq_some_iff.mp joined
    cases same
    exact ⟨follows, ended known⟩
  next =>
    split at joined
    next passed =>
      cases joined
      obtain ⟨follows, known⟩ := follows.passUntil passed
      exact ⟨follows, ended known⟩
    next => cases joined

end

/-! ## The execution of the caller -/

section

variable {program : Program Next} {result : Except EngineError ExecutionRecord}

/-- A session goes on as the execution of its caller does. -/
theorem Follows.caller
    {progress : Progress}
    (follows : session.Follows own course)
    (onward : course.Onward .caller later)
    (registry_eq : later.fleet.registry = after.world.registry)
    (jobs : after.jobs = session.jobs)
    (satisfied : progress.Satisfies (later.Shows .caller)) :
    after.Follows (some progress) later := by
  refine follows.onward onward registry_eq (fun {other} different => ?_) rfl satisfied
  cases other with
  | caller => exact (different rfl).elim
  | background job => exact congrArg (·[job]?) jobs

/-- A caller's own execution begins with a call too. -/
theorem FollowsOn.begin
    (follows : session.FollowsOn first none)
    (errand : Errand program) :
    session.FollowsOn first (some (.ready program)) := by
  obtain ⟨course, begun, follows⟩ := follows
  have free := follows.absent .caller rfl
  obtain ⟨later, onward, registry, shown⟩ := course.exists_errand free errand
  exact ⟨later, begun.trans onward.toLeadsTo,
    follows.caller onward (registry.trans follows.registry_eq) rfl shown⟩

/-- The caller is free for another execution once its own is over. -/
theorem FollowsOn.leave (follows : session.FollowsOn first own) :
    session.FollowsOn first none := by
  obtain ⟨course, begun, follows⟩ := follows
  obtain ⟨later, onward, fleet, left, kept⟩ := course.exists_leave
  refine ⟨later, begun.trans onward, fleet ▸ follows.registry_eq, ?_, ?_⟩
  · intro party progress known
    cases party with
    | caller => cases known
    | background job =>
      refine (follows.shown (.background job) known).imp fun _ shown =>
        shown.of_same (kept Party.noConfusion) fun _ => ?_
      rw [fleet]
  · intro party gone
    cases party with
    | caller => exact left
    | background job =>
      exact (kept Party.noConfusion).trans (follows.absent (.background job) gone)

/-- An answer to a request of it is a step on the path. -/
theorem FollowsOn.answer
    {request : Request}
    {next : request.Answer → Program Next}
    {answer : request.Answer}
    (follows : session.FollowsOn first (some (.ready (.ask request next))))
    (answered : session.answer request = some (answer, after)) :
    after.FollowsOn first (some (.ready (next answer))) := by
  -- Others may have acted by the time of the answer.
  have told {session after : Session σ}
      (follows : session.FollowsOn first (some (.ready (.ask request next))))
      (answers : session.world.registry.Answers request answer after.world.registry)
      (jobs : after.jobs = session.jobs) :
      after.FollowsOn first (some (.ready (next answer))) := by
    obtain ⟨course, begun, follows⟩ := follows
    have shown : course.Shows .caller (.ask request next) := follows.shown .caller rfl
    obtain ⟨later, onward, registry, shown⟩ :=
      course.exists_answer shown (follows.registry_eq ▸ answers)
    exact ⟨later, begun.trans onward.toLeadsTo, follows.caller onward registry jobs shown⟩
  unfold Session.answer at answered
  cases responds : session.world.respond request with
  | answer value world =>
    rw [responds] at answered
    obtain ⟨rfl, rfl⟩ : value = answer ∧ { session with world := world } = after := by
      cases request <;> cases answered <;> exact ⟨rfl, rfl⟩
    exact told follows (World.answers_of_respond responds) rfl
  | broken world =>
    rw [responds] at answered
    cases request <;> cases answered
  | pending =>
    rw [responds] at answered
    cases request with
    | wait millis =>
      cases answered
      exact told (follows.wait millis) (.foreign rfl _) rfl
    | listen listener =>
      obtain ⟨follows, awake⟩ := follows.passUntil answered
      exact told follows (.listen awake) rfl
    | _ => cases answered

/-- A program that is completed has made its exchanges on the path. -/
theorem FollowsOn.complete
    {last : Next}
    (follows : session.FollowsOn first (some (.ready program)))
    (completed : session.complete program = some (last, after)) :
    after.FollowsOn first (some (.ready (.done last))) := by
  induction program generalizing session with
  | done next =>
    cases completed
    exact follows
  | ask request next inductionHypothesis =>
    unfold Session.complete at completed
    split at completed
    next answer middle answered =>
      exact inductionHypothesis answer (follows.answer answered) completed
    next => cases completed

/-- A caller's own execution takes all of its turns on the path. -/
theorem FollowsOn.executeIn
    {turns : Nat}
    (follows : session.FollowsOn first (some (.ready program)))
    (executed : session.executeIn turns program = some (result, after)) :
    after.FollowsOn first (some (.ended result)) := by
  induction turns generalizing program session with
  | zero => cases executed
  | succ turns inductionHypothesis =>
    have ended {session : Session σ} {last : Next} {result : Except EngineError ExecutionRecord}
        (follows : session.FollowsOn first (some (.ready (.done last))))
        (same : ∀ holds, Progress.Satisfies holds (.ready (.done last)) →
          Progress.Satisfies holds (.ended result)) :
        session.FollowsOn first (some (.ended result)) := by
      obtain ⟨course, begun, follows⟩ := follows
      exact ⟨course, begun, follows.caller (.refl _ _) follows.registry_eq rfl
        (same _ (follows.shown .caller rfl))⟩
    unfold Session.executeIn at executed
    split at executed
    next execution middle completed =>
      obtain ⟨course, begun, follows⟩ := follows.complete completed
      obtain ⟨later, onward, registry, shown⟩ := course.exists_turn (follows.shown .caller rfl)
      exact inductionHypothesis ⟨later, begun.trans onward.toLeadsTo,
        follows.caller onward (registry.trans follows.registry_eq) rfl shown⟩ executed
    next completed =>
      cases executed
      exact ended (follows.complete completed) fun _ => id
    next completed =>
      cases executed
      exact ended (follows.complete completed) fun _ => id
    next => cases executed

end

/-! ## The caller -/

/-- What a caller may do with a session. -/
inductive Acts (session : Session σ) : Session σ → Prop
  | execute
      {program : Program Next}
      {result : Except EngineError ExecutionRecord}
      {after : Session σ}
      (errand : Errand program)
      (executed : session.execute program = some (result, after)) :
      Acts session after
  | spawn {program : Program Next} (errand : Errand program) :
      Acts session (session.spawn program).2
  | wait (millis : Nat) : Acts session (session.wait millis)
  | join
      {job : Nat}
      {result : Except EngineError ExecutionRecord}
      {after : Session σ}
      (joined : session.join job = some (result, after)) :
      Acts session after
  | pause {id : String} {world : World σ} (granted : session.world.pause id = .ok world) :
      Acts session { session with world }
  | resume {id : String} {world : World σ} (granted : session.world.resume id = .ok world) :
      Acts session { session with world }
  | cancel
      {id : String}
      {reason : Option String}
      {world : World σ}
      (granted : session.world.cancel id reason = .ok world) :
      Acts session { session with world }
  /-- Workflows are made known, and time passes. -/
  | arrange {world : World σ} (same : world.registry = session.world.registry) :
      Acts session { session with world }

/-- What a caller is granted by a session is granted on its path. -/
theorem Follows.grant
    {id : String}
    {world : World σ}
    (follows : session.Follows own course)
    (signal : Signal)
    (granted : session.world.changeRegistry (·.grant id signal) = .ok world) :
    ∃ later channel, course.LeadsTo later ∧
      later.moves = course.moves ++ [.grant id channel signal] ∧
      Follows { session with world } own later := by
  obtain ⟨later, channel, moves, registry, place, shown⟩ :=
    course.exists_grant (follows.registry_eq ▸ World.registry_of_changeRegistry granted)
  have leads : course.LeadsTo later :=
    ⟨moves ▸ List.prefix_append _ _, fun placed => place ▸ placed⟩
  refine ⟨later, channel, leads, moves, registry, ?_, ?_⟩
  · exact fun party _ known => (follows.shown party known).imp fun _ => shown
  · exact fun party gone => (congrFun place party).trans (follows.absent party gone)

/-- A request that is granted is a step on the path. -/
theorem FollowsOn.grant
    {id : String}
    {world : World σ}
    (follows : session.FollowsOn first own)
    (signal : Signal)
    (granted : session.world.changeRegistry (·.grant id signal) = .ok world) :
    FollowsOn first own { session with world } := by
  obtain ⟨course, begun, follows⟩ := follows
  obtain ⟨later, _, leads, -, follows⟩ := follows.grant signal granted
  exact ⟨later, begun.trans leads, follows⟩

/-- Whatever a caller does with a session goes on with its path. -/
theorem FollowsOn.acts
    (follows : session.FollowsOn first none)
    (acts : session.Acts after) :
    after.FollowsOn first none := by
  cases acts with
  | execute errand executed => exact ((follows.begin errand).executeIn executed).leave
  | spawn errand => exact follows.spawn errand
  | wait millis => exact follows.wait millis
  | join joined => exact (follows.join joined).1
  | pause granted => exact follows.grant .pause granted
  | resume granted => exact follows.grant .run granted
  | @cancel _ reason _ granted => exact follows.grant (.cancel reason) granted
  | arrange same => exact follows.of_same same rfl

/-- Whatever a caller goes on to do with a session goes on with its path. -/
theorem FollowsOn.led
    (follows : session.FollowsOn first none)
    (led : Relation.ReflTransGen Acts session after) :
    after.FollowsOn first none := by
  induction led with
  | refl => exact follows
  | tail _ acts inductionHypothesis => exact inductionHypothesis.acts acts

/-- An engine in which nothing has been executed yet is at the start of a path. -/
theorem followsOn_start
    {world : World σ}
    (unused : world.registry = {}) :
    FollowsOn .start none { world } := by
  refine ⟨.start, .refl _, unused.symm, fun party _ known => ?_, fun _ _ => rfl⟩
  cases party with
  | caller => cases known
  | background job => cases known

/-- Whatever a caller does with a new engine, its registry and its executions are
those at the end of some path. -/
theorem exists_path
    {world : World σ}
    (unused : world.registry = {})
    (led : Relation.ReflTransGen Acts { world } session) :
    ∃ course, session.Follows none course := by
  obtain ⟨course, -, follows⟩ := (followsOn_start unused).led led
  exact ⟨course, follows⟩

/-- In the registry of an engine that executions and callers have shared, entries
have channels of their own. -/
theorem sound_registry
    {world : World σ}
    (unused : world.registry = {})
    (led : Relation.ReflTransGen Acts { world } session) :
    session.world.registry.Sound := by
  obtain ⟨course, follows⟩ := exists_path unused led
  exact follows.registry_eq ▸ course.path.listens.sound

/-- The record that a caller gets for its own execution is the end of an execution
on the path. -/
theorem exists_end_of_execute
    {program : Program Next}
    {record : ExecutionRecord}
    (follows : session.FollowsOn first none)
    (errand : Errand program)
    (executed : session.execute program = some (.ok record, after)) :
    ∃ (later : Course) (place : Nat), first.LeadsTo later ∧
      later.fleet.registry = after.world.registry ∧
      later.fleet.jobs[place]? = some (.done (.ended record)) := by
  obtain ⟨later, leads, follows⟩ := (follows.begin errand).executeIn executed
  obtain ⟨place, -, found⟩ := follows.ended .caller rfl
  exact ⟨later, place, leads, follows.registry_eq, found⟩

/-- The record that a caller gets for an execution in the background is the end of
that execution on the path. -/
theorem exists_end_of_join
    {job : Nat}
    {record : ExecutionRecord}
    (follows : session.FollowsOn first none)
    (joined : session.join job = some (.ok record, after)) :
    ∃ (later : Course) (place : Nat), first.LeadsTo later ∧ after.Follows none later ∧
      later.place? (.background job) = some place ∧
      later.fleet.jobs[place]? = some (.done (.ended record)) := by
  obtain ⟨⟨later, leads, follows⟩, known⟩ := follows.join joined
  obtain ⟨place, placed, found⟩ := follows.ended (.background job) known
  exact ⟨later, place, leads, follows, placed, found⟩

end Session
end WorkflowEngine
