import TaskScheduling.Proofs.Backlog.Accounted
import TaskScheduling.Proofs.Dispatch.Conservation
import TaskScheduling.Proofs.Dispatch.Signals

/-!
# Calls and runs with nothing in between

A client may make a whole call, and a worker may settle a whole run, while everybody else waits.  `System.submit`,
`System.cancel`, `System.shutDown` and `System.shutDownNow` are the calls, as `PooledScheduler` has them, and
`System.conclude` is the end of a run.  Each of them leads from a system that comes about to another one, since it is
made of single steps.

* `PooledScheduler.Submits`: what a whole submission may do.
* `PooledScheduler.Settles`: what becomes of a task at the end of its run.
-/

namespace TaskScheduling

namespace Client

/-- Several steps with nothing in between. -/
def advance : Nat → PooledScheduler × Client → PooledScheduler × Client
  | 0, x => x
  | n + 1, (s, c) => advance n (c.step s)

theorem advance_add (m n : Nat) (x : PooledScheduler × Client) : advance (m + n) x = advance n (advance m x) := by
  induction m generalizing x with
  | zero => rw [Nat.zero_add, advance]
  | succ m ih =>
    rw [Nat.succ_add]
    exact ih _

end Client

namespace System

/-- The client `i` has got so far with its call, and the scheduler has become what it is then.  A dispatcher that has
been started meanwhile is about to begin. -/
def withCall (s : System) (i : Nat) (x : PooledScheduler × Client) : System :=
  { s with
    scheduler := x.1
    clients := Function.update s.clients i x.2
    dispatcher := s.dispatcher <|> x.1.dispatcher.thread.map fun _ => .checking }

variable {s : System}

private theorem withCall_self (h : s.IsRecorded) (i : Nat) : s.withCall i (s.scheduler, s.clients i) = s := by
  have hdispatcher : (s.dispatcher <|> s.scheduler.dispatcher.thread.map fun _ => .checking) = s.dispatcher := by
    have hthread := h.thread_isSome
    cases hd : s.dispatcher with
    | some d => rfl
    | none =>
      rw [hd, Option.isSome_none, Option.isSome_eq_false_iff, Option.isNone_iff_eq_none] at hthread
      rw [hthread]
      rfl
  simp only [withCall, Function.update_eq_self, hdispatcher]

/-- A dispatcher that has been started does not go away. -/
private theorem withCall_withCall {i : Nat} {x y : PooledScheduler × Client}
    (h : ((s.withCall i x).withCall i y).IsRecorded) : (s.withCall i x).withCall i y = s.withCall i y := by
  have hthread := h.thread_isSome
  have hdispatcher : ((s.dispatcher <|> x.1.dispatcher.thread.map fun _ => Dispatcher.checking) <|>
      y.1.dispatcher.thread.map fun _ => .checking) =
        (s.dispatcher <|> y.1.dispatcher.thread.map fun _ => .checking) := by
    simp only [withCall] at hthread
    cases hd : s.dispatcher with
    | some d => rfl
    | none =>
      cases hx : x.1.dispatcher.thread with
      | none => rfl
      | some name =>
        have hsome : y.1.dispatcher.thread.isSome = true := by rw [hthread, hd, hx]; rfl
        obtain ⟨name', hy⟩ := Option.isSome_iff_exists.1 hsome
        rw [hy]
        rfl
  simp only [withCall, Function.update_idem, hdispatcher]

/-- Whatever a client has done so far with nothing in between. -/
theorem Reachable.withCall (h : s.Reachable) (i n : Nat) :
    (s.withCall i (Client.advance n (s.scheduler, s.clients i))).Reachable := by
  induction n generalizing s with
  | zero =>
    rw [Client.advance, withCall_self h.isRecorded]
    exact h
  | succ n ih =>
    have hrest := ih (h.step (.client i))
    rw [clients_stepClient_self] at hrest
    have hrest : ((s.withCall i ((s.clients i).step s.scheduler)).withCall i
      (Client.advance n ((s.clients i).step s.scheduler))).Reachable := hrest
    rwa [withCall_withCall hrest.isRecorded] at hrest

end System

/-! ### Submissions -/

/-- The steps of a submission are those of the client that makes it. -/
private theorem Client.advance_submitting (r : Request) (n : Nat) (s : PooledScheduler) (m : Submission) :
    advance n (s, submitting r m) =
      ((Submission.advance r n (s, m)).1, submitting r (Submission.advance r n (s, m)).2) := by
  induction n generalizing s m with
  | zero => rfl
  | succ n ih => exact ih _ _

namespace PooledScheduler

/-- What a submission with nothing in between may do, and what it answers. -/
inductive Submits (s : PooledScheduler) (r : Request) : PooledScheduler × Except Trouble TaskId → Prop where
  /-- After a shutdown it does nothing. -/
  | refused : s.isShutdown = true → Submits s r (s, .error (.error .shutdown))
  /-- It may have drawn a number in vain, but has entered nothing. -/
  | failed (t : PooledScheduler) (trouble : Trouble) : s.isShutdown = false → t.backlog.tasks = s.backlog.tasks →
      (∀ slot, t.backlog.queue slot = s.backlog.queue slot) → s.backlog.nextId ≤ t.backlog.nextId → t.stats = s.stats →
      t.shutdown = s.shutdown → Submits s r (t, .error trouble)
  | accepted (t : PooledScheduler) (now : Nat) : s.isShutdown = false →
      t.backlog = s.backlog.enlist now r s.defaultPriority → t.stats = s.countSubmitted.stats →
      t.shutdown = s.shutdown → Submits s r (t, .ok ⟨s.backlog.nextId⟩)

private theorem advance_of_shutdown {s : PooledScheduler} (h : s.isShutdown = true) (r : Request) :
    Submission.advance r 7 (s, .checking) = (s, .ended (.error (.error .shutdown))) := by
  simp [Submission.advance, Submission.step, h]

@[simp] theorem stats_wakeDispatcher (s : PooledScheduler) : s.wakeDispatcher.stats = s.stats := by
  unfold wakeDispatcher
  split <;> rfl

private theorem stats_ensureDispatcher (s : PooledScheduler) : s.ensureDispatcher.1.stats = s.stats := by
  unfold ensureDispatcher
  split
  · rfl
  · split
    · rfl
    · split <;> rfl

/-- The scheduler when a submission has read the time and built its task. -/
def built (s : PooledScheduler) : PooledScheduler :=
  { s with clock := s.clock.now.2, backlog := { s.backlog with nextId := s.backlog.nextId + 1 } }

private theorem advance_succ (r : Request) (n : Nat) (s : PooledScheduler) (m : Submission) :
    Submission.advance r (n + 1) (s, m) = Submission.advance r n (m.step s r) := rfl

private theorem advance_ended (r : Request) (n : Nat) (s : PooledScheduler) (result : Except Trouble TaskId) :
    Submission.advance r n (s, .ended result) = (s, .ended result) := by
  induction n with
  | zero => rfl
  | succ n ih => exact ih

private theorem advance_of_invalid {s : PooledScheduler} {r : Request} (hopen : s.isShutdown = false)
    (hvalid : r.kind.isValid = false) : Submission.advance r 7 (s, .checking) =
      ({ s with clock := s.clock.now.2 }, .ended (.error (.error .invalidPeriod))) := by
  simp [Submission.advance, Submission.step, hopen, hvalid]

private theorem advance_of_valid {s : PooledScheduler} {r : Request} (hopen : s.isShutdown = false)
    (hvalid : r.kind.isValid = true) : Submission.advance r 7 (s, .checking) =
      Submission.advance r 5 (s.built, .preparing (r.task s.defaultPriority ⟨s.backlog.nextId⟩ s.clock.now.1)) := by
  have hchecking : Submission.checking.step s r = (s, .building) := by simp [Submission.step, hopen]
  have hbuilding : Submission.building.step s r =
      (s.built, .preparing (r.task s.defaultPriority ⟨s.backlog.nextId⟩ s.clock.now.1)) := by
    simp only [Submission.step, hvalid, ↓reduceIte]
    rfl
  rw [advance_succ, hchecking, advance_succ, hbuilding]

/-- Without a dispatcher, the task that has been built is given up. -/
private theorem advance_of_unstaffed {s u : PooledScheduler} {r : Request} {trouble : Trouble}
    (hopen : s.isShutdown = false) (hvalid : r.kind.isValid = true)
    (hensure : s.built.ensureDispatcher = (u, .error trouble)) :
    Submission.advance r 7 (s, .checking) = (u, .ended (.error trouble)) := by
  rw [advance_of_valid hopen hvalid, advance_succ]
  simp only [Submission.step, hensure]
  exact advance_ended r 4 u _

/-- With a dispatcher, the task is queued. -/
private theorem advance_of_staffed {s u : PooledScheduler} {r : Request} (hopen : s.isShutdown = false)
    (hvalid : r.kind.isValid = true) (hensure : s.built.ensureDispatcher = (u, .ok ())) :
    Submission.advance r 7 (s, .checking) =
      (({ u with backlog := s.backlog.enlist s.clock.now.1 r s.defaultPriority }.countSubmitted).wakeDispatcher,
        .ended (.ok ⟨s.backlog.nextId⟩)) := by
  let task := r.task s.defaultPriority ⟨s.backlog.nextId⟩ s.clock.now.1
  let b := s.backlog.enlist s.clock.now.1 r s.defaultPriority
  have hbacklog := s.built.backlog_ensureDispatcher
  have hflag := shutdown_ensureDispatcher s.built
  rw [hensure] at hbacklog hflag
  have hpreparing : (Submission.preparing task).step s.built r = (u, .inserting task) := by
    simp only [Submission.step, hensure]
  have hinserting : (Submission.inserting task).step u r = ({ u with backlog := b }, .rechecking task.id) := by
    have hslot : ((s.backlog.enroll s.clock.now.1 r s.defaultPriority).task ⟨s.backlog.nextId⟩).slot = none := by
      rw [Backlog.Accounted.task_enroll, if_pos rfl, Request.slot_task]
    have hadd : (u.backlog.enter task).add task.id = .ok b := by
      rw [hbacklog]
      exact Backlog.add_eq_ok hslot
    simp only [Submission.step, hadd]
  have hrechecking : (Submission.rechecking task.id).step { u with backlog := b } r =
      ({ u with backlog := b }, .counting task.id) := by
    have hstill : isShutdown { u with backlog := b } = false := by
      rw [isShutdown, hflag]
      exact hopen
    simp only [Submission.step, hstill, Bool.false_eq_true, ↓reduceIte]
  rw [advance_of_valid hopen hvalid, advance_succ, hpreparing, advance_succ, hinserting, advance_succ, hrechecking]
  rfl

private theorem exists_advance (s : PooledScheduler) (r : Request) :
    ∃ t result, Submission.advance r 7 (s, .checking) = (t, .ended result) ∧ s.Submits r (t, result) := by
  cases hopen : s.isShutdown with
  | true => exact ⟨_, _, advance_of_shutdown hopen r, .refused hopen⟩
  | false =>
    cases hvalid : r.kind.isValid with
    | false =>
      exact ⟨_, _, advance_of_invalid hopen hvalid, .failed _ _ hopen rfl (fun _ => rfl) (Nat.le_refl _) rfl rfl⟩
    | true =>
      have hbacklog := s.built.backlog_ensureDispatcher
      have hstats := stats_ensureDispatcher s.built
      have hflag := shutdown_ensureDispatcher s.built
      rcases hensure : s.built.ensureDispatcher with ⟨u, trouble | _⟩ <;> rw [hensure] at hbacklog hstats hflag <;>
        dsimp only at hbacklog hstats hflag
      · refine ⟨_, _, advance_of_unstaffed hopen hvalid hensure, .failed u trouble hopen ?_ (fun slot => ?_) ?_ hstats
          hflag⟩
        · rw [hbacklog]
          rfl
        · rw [hbacklog]
          obtain ⟨p, k⟩ := slot
          cases p <;> rfl
        · rw [hbacklog]
          exact Nat.le_succ _
      · refine ⟨_, _, advance_of_staffed hopen hvalid hensure, .accepted _ s.clock.now.1 hopen ?_ ?_ ?_⟩
        · rw [backlog_wakeDispatcher]
          rfl
        · rw [stats_wakeDispatcher]
          simp only [countSubmitted, hstats]
          rfl
        · rw [shutdown_wakeDispatcher]
          exact hflag

private theorem submit_eq_of_advance {s t : PooledScheduler} {r : Request} {result : Except Trouble TaskId}
    (h : Submission.advance r 7 (s, .checking) = (t, .ended result)) : s.submit r = (t, result) := by
  rw [submit, h]
  rfl

theorem submit_of_invalid {s : PooledScheduler} {r : Request} (hopen : s.isShutdown = false)
    (hvalid : r.kind.isValid = false) :
    s.submit r = ({ s with clock := s.clock.now.2 }, .error (.error .invalidPeriod)) :=
  submit_eq_of_advance (advance_of_invalid hopen hvalid)

theorem submit_of_unstaffed {s u : PooledScheduler} {r : Request} {trouble : Trouble} (hopen : s.isShutdown = false)
    (hvalid : r.kind.isValid = true) (hensure : s.built.ensureDispatcher = (u, .error trouble)) :
    s.submit r = (u, .error trouble) := submit_eq_of_advance (advance_of_unstaffed hopen hvalid hensure)

theorem submit_of_staffed {s u : PooledScheduler} {r : Request} (hopen : s.isShutdown = false)
    (hvalid : r.kind.isValid = true) (hensure : s.built.ensureDispatcher = (u, .ok ())) :
    s.submit r =
      (({ u with backlog := s.backlog.enlist s.clock.now.1 r s.defaultPriority }.countSubmitted).wakeDispatcher,
        .ok ⟨s.backlog.nextId⟩) := submit_eq_of_advance (advance_of_staffed hopen hvalid hensure)

theorem submits_submit (s : PooledScheduler) (r : Request) : s.Submits r (s.submit r) := by
  obtain ⟨t, result, hadvance, hsubmits⟩ := s.exists_advance r
  rwa [submit_eq_of_advance hadvance]

private theorem advance_submit (s : PooledScheduler) (r : Request) :
    Submission.advance r 7 (s, .checking) = ((s.submit r).1, .ended (s.submit r).2) := by
  obtain ⟨t, result, hadvance, -⟩ := s.exists_advance r
  rw [submit_eq_of_advance hadvance, hadvance]

/-! ### Cancellations and shutdowns -/

theorem backlog_cancel (s : PooledScheduler) (id : TaskId) : (s.cancel id).1.backlog = (s.backlog.cancel id).1 := by
  unfold cancel
  rcases s.backlog.cancel id with ⟨b, _ | _⟩ <;> rfl

theorem stats_cancel (s : PooledScheduler) (id : TaskId) : (s.cancel id).1.stats =
    (s.countCancelled (if (s.backlog.cancel id).2 then [id] else []).length).stats := by
  unfold cancel
  rcases s.backlog.cancel id with ⟨b, _ | _⟩ <;> rfl

theorem shutdown_cancel (s : PooledScheduler) (id : TaskId) : (s.cancel id).1.shutdown = s.shutdown := by
  unfold cancel
  rcases s.backlog.cancel id with ⟨b, _ | _⟩ <;> rfl

theorem backlog_shutdownWith (s : PooledScheduler) (mode : ShutdownMode) :
    (s.shutdownWith mode).1.backlog = (s.backlog.clear mode.scope).1 := by
  simp only [shutdownWith, passOnShutdown]
  split
  · exact backlog_wakeDispatcher _
  · rfl

theorem stats_shutdownWith (s : PooledScheduler) (mode : ShutdownMode) :
    (s.shutdownWith mode).1.stats = (s.countCancelled (s.shutdownWith mode).2.length).stats := by
  simp only [shutdownWith, passOnShutdown]
  split
  · exact stats_wakeDispatcher _
  · rfl

theorem shutdown_shutdownWith (s : PooledScheduler) (mode : ShutdownMode) :
    (s.shutdownWith mode).1.shutdown = some (ShutdownMode.joined s.shutdown mode) := by
  simp only [shutdownWith, passOnShutdown]
  split
  · exact shutdown_wakeDispatcher _
  · rfl

/-- Nobody has changed the state that a cancellation has just seen. -/
private theorem step_claiming (b : Backlog) (id : TaskId) :
    (Cancellation.claiming (b.task id).state).step b id =
      ((b.transition id (b.task id).state .cancelled).1,
        if (b.task id).state = .pending then .unlinking else .ended true) := by
  have hmoved := Backlog.transition_snd b id (b.task id).state .cancelled
  rw [decide_eq_true rfl] at hmoved
  rcases htransition : b.transition id (b.task id).state .cancelled with ⟨c, moved⟩
  rw [htransition] at hmoved
  obtain rfl : moved = true := hmoved
  simp only [Cancellation.step, htransition]

private theorem advance_cancelling (s : PooledScheduler) (id : TaskId) :
    Client.advance 4 (s, .cancelling id .looking) = ((s.cancel id).1, .answered id (s.cancel id).2) := by
  have hlooking : Client.advance 4 (s, .cancelling id .looking) =
      Client.advance 3 (s, .cancelling id (Cancellation.look (s.backlog.task id))) := rfl
  have hclaiming := step_claiming s.backlog id
  rw [hlooking]
  cases hstate : (s.backlog.task id).state with
  | pending =>
    rw [hstate] at hclaiming
    simp only [Cancellation.look, hstate, cancel, Backlog.cancel_of_pending hstate]
    rw [Client.advance]
    simp only [Client.step, hclaiming, ↓reduceIte]
    rfl
  | executing =>
    cases hr : (s.backlog.task id).isRecurring with
    | true =>
      rw [hstate] at hclaiming
      simp only [Cancellation.look, hstate, hr, ↓reduceIte, cancel, Backlog.cancel_of_executing_recurring hstate hr]
      rw [Client.advance]
      simp only [Client.step, hclaiming, reduceCtorEq, ↓reduceIte]
      rfl
    | false =>
      simp only [Cancellation.look, hstate, hr, Bool.false_eq_true, ↓reduceIte, cancel,
        Backlog.cancel_of_executing_once hstate hr]
      rfl
  | done =>
    simp only [Cancellation.look, hstate, cancel, Backlog.cancel_of_settled (.inl hstate)]
    rfl
  | cancelled =>
    simp only [Cancellation.look, hstate, cancel, Backlog.cancel_of_settled (.inr hstate)]
    rfl

/-- The steps of a clearance are those of the client that has requested the shutdown. -/
private theorem exists_advance_clearing {scope : Scope} {n : Nat} {c : Clearance} {s : PooledScheduler} {b : Backlog}
    {claimed : List TaskId} (h : Clearance.advance scope n (s.backlog, c) = (b, .ended claimed)) :
    ∃ m, Client.advance m (s, .shutting (.clearing scope c)) =
      ({ s with backlog := b }, .shutting (.clearing scope (.ended claimed))) := by
  induction n generalizing s c with
  | zero =>
    obtain ⟨rfl, rfl⟩ := Prod.mk.inj h
    exact ⟨0, rfl⟩
  | succ n ih =>
    by_cases hended : ∃ ids, c = .ended ids
    · obtain ⟨ids, rfl⟩ := hended
      rw [Clearance.advance_ended] at h
      obtain ⟨rfl, hids⟩ := Prod.mk.inj h
      exact ⟨0, by rw [hids]; rfl⟩
    · have hstep : (Client.shutting (.clearing scope c)).step s =
          ({ s with backlog := (c.step scope s.backlog).1 },
            .shutting (.clearing scope (c.step scope s.backlog).2)) := by
        cases c with
        | ended ids => exact absurd ⟨ids, rfl⟩ hended
        | _ => rfl
      obtain ⟨m, hm⟩ := ih (c := (c.step scope s.backlog).2) (s := { s with backlog := (c.step scope s.backlog).1 }) h
      exact ⟨m + 1, by rw [Client.advance, hstep, hm]⟩

private theorem exists_advance_shutting (s : PooledScheduler) (mode : ShutdownMode) :
    ∃ m, Client.advance m (s, .shutting (.raising mode)) =
      ((s.shutdownWith mode).1, .shutting (.ended (s.shutdownWith mode).2)) := by
  obtain ⟨m, hm⟩ := exists_advance_clearing (s := s.raise mode) (Clearance.advance_eq_clear mode.scope s.backlog)
  refine ⟨1 + (m + 3), ?_⟩
  rw [Client.advance_add, Client.advance_add]
  exact congrArg (Client.advance 3) hm

end PooledScheduler

/-! ### The end of a run -/

namespace Completion

/-- How many steps a completion has before it at most. -/
def left : Completion → Nat
  | settling => 5
  | returning => 4
  | inserting => 3
  | rechecking => 2
  | withdrawing => 1
  | _ => 0

theorem left_step (b : Backlog) (id : TaskId) (completedAt : Nat) (c : Completion) :
    (c.step b id completedAt).2.left ≤ c.left - 1 := by
  cases c with
  | settling =>
    simp only [step]
    split <;> simp [left]
  | returning =>
    simp only [step]
    split <;> simp [left]
  | inserting =>
    simp only [step]
    split <;> simp [left]
  | rechecking =>
    simp only [step]
    split <;> simp [left]
  | _ => exact Nat.le_refl _

private theorem left_advance (id : TaskId) (completedAt n : Nat) (b : Backlog) (c : Completion) :
    (advance id completedAt n (b, c)).2.left ≤ c.left - n := by
  induction n generalizing b c with
  | zero => exact Nat.le_refl _
  | succ n ih =>
    have hstep := left_step b id completedAt c
    have hrest := ih (c.step b id completedAt).1 (c.step b id completedAt).2
    exact hrest.trans (by omega)

private theorem advance_ended (id : TaskId) (completedAt n : Nat) (b : Backlog) (requeued : Bool) :
    advance id completedAt n (b, ended requeued) = (b, ended requeued) := by
  induction n with
  | zero => rfl
  | succ n ih => exact ih

private theorem advance_faulted (id : TaskId) (completedAt n : Nat) (b : Backlog) (fault : Fault) :
    advance id completedAt n (b, faulted fault) = (b, faulted fault) := by
  induction n with
  | zero => rfl
  | succ n ih => exact ih

/-- Five steps are enough. -/
private theorem advance_of_complete {b c : Backlog} {id : TaskId} {completedAt : Nat} {requeued : Bool}
    (h : b.complete id completedAt = (c, .ok requeued)) :
    advance id completedAt 5 (b, settling) = (c, ended requeued) := by
  have hleft := left_advance id completedAt 5 b settling
  unfold Backlog.complete at h
  rcases hadvance : advance id completedAt 5 (b, settling) with ⟨d, e⟩
  rw [hadvance] at h hleft
  cases e with
  | ended r =>
    cases h
    rfl
  | faulted fault => cases h
  | _ => simp [left] at hleft

end Completion

namespace Execution

/-- Several steps with nothing in between. -/
def advance (id : TaskId) (thread : Option String) : Nat → PooledScheduler × Execution → PooledScheduler × Execution
  | 0, x => x
  | n + 1, (s, e) => advance id thread n (e.step s id thread)

variable {s s' t : PooledScheduler} {id : TaskId} {thread : Option String} {e e' : Execution} {n : Nat}

/-- Whether the execution comes to its end within `n` steps. -/
def EndsIn (id : TaskId) (thread : Option String) (n : Nat) (s : PooledScheduler) (e : Execution)
    (t : PooledScheduler) : Prop := advance id thread n (s, e) = (t, ended)

theorem EndsIn.of_step (h : EndsIn id thread n s' e' t) (hstep : e.step s id thread = (s', e')) :
    EndsIn id thread (n + 1) s e t := by
  rw [EndsIn, advance, hstep]
  exact h

theorem endsIn_ended (id : TaskId) (thread : Option String) (n : Nat) (s : PooledScheduler) :
    EndsIn id thread n s ended s := by
  induction n with
  | zero => rfl
  | succ n ih => exact ih

/-- An execution that has come to its end stays there. -/
theorem EndsIn.add (h : EndsIn id thread n s e t) (m : Nat) : EndsIn id thread (n + m) s e t := by
  induction n generalizing s e with
  | zero =>
    obtain ⟨rfl, rfl⟩ := Prod.mk.inj h
    exact endsIn_ended id thread _ s
  | succ n ih =>
    rw [Nat.succ_add]
    exact ih h

/-- A task that has been settled may have to be pointed out to the dispatcher. -/
private theorem endsIn_settled (id : TaskId) (thread : Option String) (n : Nat) (s : PooledScheduler)
    (completedAt : Nat) (requeued : Bool) :
    EndsIn id thread (n + 2) s (completing completedAt (.ended requeued))
      (if requeued then s.wakeDispatcher else s) := by
  cases requeued with
  | true => exact endsIn_ended id thread n s.wakeDispatcher
  | false => exact endsIn_ended id thread (n + 1) s

/-- The steps of a completion are those of the execution that settles its task. -/
private theorem endsIn_completing {c : Completion} {completedAt : Nat} {b : Backlog} {requeued : Bool}
    (h : Completion.advance id completedAt n (s.backlog, c) = (b, .ended requeued)) :
    EndsIn id thread (n + 2) s (completing completedAt c)
      (if requeued then { s with backlog := b }.wakeDispatcher else { s with backlog := b }) := by
  induction n generalizing s c with
  | zero =>
    obtain ⟨rfl, rfl⟩ := Prod.mk.inj h
    exact endsIn_settled id thread 0 s completedAt requeued
  | succ n ih =>
    have hrest := ih (c := (c.step s.backlog id completedAt).2)
      (s := { s with backlog := (c.step s.backlog id completedAt).1 }) h
    cases c with
    | ended r =>
      rw [Completion.advance_ended] at h
      obtain ⟨rfl, hr⟩ := Prod.mk.inj h
      cases hr
      exact endsIn_settled id thread (n + 1) s completedAt requeued
    | faulted fault =>
      rw [Completion.advance_faulted] at h
      cases h
    | _ => exact hrest

end Execution

namespace PooledScheduler

/-- What becomes of a task whose run has been counted. -/
structure Settles (s : PooledScheduler) (id : TaskId) (t : PooledScheduler) : Prop where
  shutdown_eq : t.shutdown = s.shutdown
  /-- A recurring task is cancelled after a shutdown, unless it has been already; any other task is settled. -/
  cases :
    (s.backlog.task id).isRecurring = true ∧ s.isShutdown = true ∧ (s.backlog.task id).state = .executing ∧
      t.backlog = (s.backlog.transition id .executing .cancelled).1 ∧ t.stats = (s.countCancelled 1).stats ∨
    (s.backlog.task id).isRecurring = true ∧ s.isShutdown = true ∧ (s.backlog.task id).state ≠ .executing ∧
      t.backlog = s.backlog ∧ t.stats = s.stats ∨
    ((s.backlog.task id).isRecurring && s.isShutdown) = false ∧
      (∃ completedAt, t.backlog = (s.backlog.complete id completedAt).1) ∧ t.stats = s.stats

/-- The scheduler after a run has been counted, perhaps with a panic. -/
def countRun (s : PooledScheduler) (panicked : Bool) : PooledScheduler :=
  { s with
    stats := { s.stats with
      executed := s.stats.executed + 1
      failed := s.stats.failed + panicked.toNat } }

/-- A run comes to its end, perhaps with a panic: the failure is routed, the run is counted and its task settled. -/
def conclude (s : PooledScheduler) (id : TaskId) (thread : Option String) (outcome : Option Panic) :
    PooledScheduler × Execution := Execution.advance id thread 12 (s, Execution.running.finish outcome)

variable {s : PooledScheduler} {id : TaskId}

/-- A recurring task that is still being executed is dropped. -/
theorem endsIn_dropping (hstate : (s.backlog.task id).state = .executing) (thread : Option String) (n : Nat) :
    Execution.EndsIn id thread (n + 2) s .dropping
      ({ s with backlog := (s.backlog.transition id .executing .cancelled).1 }.countCancelled 1) := by
  have hdropping : Execution.dropping.step s id thread =
      ({ s with backlog := (s.backlog.transition id .executing .cancelled).1 }, .recording) := by
    simp only [Execution.step]
    rw [Backlog.transition_of_state hstate]
  have hrecording : Execution.EndsIn id thread (n + 1)
      { s with backlog := (s.backlog.transition id .executing .cancelled).1 } .recording _ :=
    Execution.endsIn_ended id thread n _
  exact hrecording.of_step hdropping

/-- A task that is in no queue is settled at the time that is read. -/
theorem exists_endsIn_stamping (hslot : (s.backlog.task id).slot = none) (thread : Option String) :
    ∃ t, Execution.EndsIn id thread 8 s .stamping t ∧ t.backlog = (s.backlog.complete id s.clock.accurate.1).1 ∧
      t.stats = s.stats ∧ t.shutdown = s.shutdown := by
  obtain ⟨b, requeued, hcomplete⟩ : ∃ b requeued, s.backlog.complete id s.clock.accurate.1 = (b, .ok requeued) := by
    rcases Backlog.complete_cases hslot s.clock.accurate.1 with ⟨-, h⟩ | ⟨-, -, h⟩ | ⟨-, -, h⟩ <;> exact ⟨_, _, h⟩
  have hends : Execution.EndsIn id thread 7 { s with clock := s.clock.accurate.2 }
      (.completing s.clock.accurate.1 .settling) _ :=
    Execution.endsIn_completing (Completion.advance_of_complete hcomplete)
  have hstamping : Execution.stamping.step s id thread =
      ({ s with clock := s.clock.accurate.2 }, .completing s.clock.accurate.1 .settling) := rfl
  refine ⟨_, hends.of_step hstamping, ?_, ?_, ?_⟩
  · rw [hcomplete]
    split
    · rw [backlog_wakeDispatcher]
    · rfl
  · split
    · rw [stats_wakeDispatcher]
    · rfl
  · split
    · rw [shutdown_wakeDispatcher]
    · rfl

private theorem exists_settles (hslot : (s.backlog.task id).slot = none) (thread : Option String) :
    ∃ t, Execution.EndsIn id thread 9 s .settling t ∧ s.Settles id t := by
  cases hdrops : (s.backlog.task id).isRecurring && s.isShutdown with
  | true =>
    obtain ⟨hr, hshutdown⟩ := Bool.and_eq_true_iff.1 hdrops
    have hsettling : Execution.settling.step s id thread = (s, .dropping) := by
      simp only [Execution.step, hdrops, ↓reduceIte]
    by_cases hstate : (s.backlog.task id).state = .executing
    · exact ⟨_, (endsIn_dropping hstate thread 6).of_step hsettling, rfl, .inl ⟨hr, hshutdown, hstate, rfl, rfl⟩⟩
    · have hdropping : Execution.dropping.step s id thread = (s, .ended) := by
        simp only [Execution.step, Backlog.transition_of_state_ne hstate]
      exact ⟨s, ((Execution.endsIn_ended id thread 7 s).of_step hdropping).of_step hsettling, rfl,
        .inr (.inl ⟨hr, hshutdown, hstate, rfl, rfl⟩)⟩
  | false =>
    have hsettling : Execution.settling.step s id thread = (s, .stamping) := by
      simp only [Execution.step, hdrops, Bool.false_eq_true, ↓reduceIte]
    obtain ⟨t, hends, hbacklog, hstats, hshutdown⟩ := exists_endsIn_stamping hslot thread
    exact ⟨t, hends.of_step hsettling, hshutdown, .inr (.inr ⟨hdrops, ⟨_, hbacklog⟩, hstats⟩)⟩

/-- A run that ends is counted, and its task is settled. -/
theorem exists_concludes (hslot : (s.backlog.task id).slot = none) (thread : Option String) (outcome : Option Panic) :
    ∃ sink t, s.conclude id thread outcome = (t, .ended) ∧
      Settles { s.countRun outcome.isSome with sink := sink } id t := by
  cases outcome with
  | none =>
    obtain ⟨t, hends, hsettles⟩ := exists_settles (s := s.countExecuted) hslot thread
    have hcounting : (Execution.counting none).step s id thread = (s.countExecuted, .settling) := rfl
    exact ⟨s.sink, t, (hends.of_step hcounting).add 2, hsettles⟩
  | some panic =>
    let delivery := s.router.route (.ofPanic thread id panic) (s.backlog.task id).handler s.factory.uncaught
    let routed : PooledScheduler := { s.countFailed with sink := s.sink.write delivery.written }
    obtain ⟨t, hends, hsettles⟩ := exists_settles (s := routed.countExecuted) hslot thread
    have hfailing : (Execution.failing panic).step s id thread =
        (s.countFailed, .routing (.ofPanic thread id panic)) := rfl
    have hrouting : (Execution.routing (.ofPanic thread id panic)).step s.countFailed id thread =
        (routed, .counting (some delivery)) := rfl
    have hcounting : (Execution.counting (some delivery)).step routed id thread =
        (routed.countExecuted, .settling) := rfl
    exact ⟨routed.sink, t, ((hends.of_step hcounting).of_step hrouting).of_step hfailing, hsettles⟩

end PooledScheduler

/-! ### Systems in which somebody acts alone -/

namespace System

variable {s : System}

def submit (s : System) (i : Nat) (r : Request) : System :=
  s.withCall i ((s.scheduler.submit r).1, .submitting r (.ended (s.scheduler.submit r).2))

def cancel (s : System) (i : Nat) (id : TaskId) : System :=
  s.withCall i ((s.scheduler.cancel id).1, .answered id (s.scheduler.cancel id).2)

def shutDown (s : System) (i : Nat) (mode : ShutdownMode) : System :=
  s.withCall i ((s.scheduler.shutdownWith mode).1, .shutting (.ended (s.scheduler.shutdownWith mode).2))

def shutDownNow (s : System) (i : Nat) : System :=
  s.withCall i ((s.scheduler.shutdownNow).1, .shutting (.ended (s.scheduler.shutdownNow).2))

theorem backlog_cancel (s : System) (i : Nat) (id : TaskId) : (s.cancel i id).backlog = (s.backlog.cancel id).1 :=
  s.scheduler.backlog_cancel id

theorem backlog_shutDown (s : System) (i : Nat) (mode : ShutdownMode) :
    (s.shutDown i mode).backlog = (s.backlog.clear mode.scope).1 := s.scheduler.backlog_shutdownWith mode

theorem backlog_shutDownNow (s : System) (i : Nat) : (s.shutDownNow i).backlog = (s.backlog.clear .everything).1 :=
  s.scheduler.backlog_shutdownWith .discardPending

/-- The worker `k` has got so far with the run of a task. -/
def withExecution (s : System) (k : Nat) (id : TaskId) (x : PooledScheduler × Execution) : System :=
  { s with scheduler := x.1, threads := Function.update s.threads k (some (.ofExecution id x.2)) }

/-- The run of a task on the worker `k` comes to its end. -/
def conclude (s : System) (k : Nat) (id : TaskId) (name : Option String) (outcome : Option Panic) : System :=
  s.withExecution k id (s.scheduler.conclude id name outcome)

/-- What a client has done since it began a call. -/
private theorem Reachable.of_advance {i m : Nat} {c : Client} {x : PooledScheduler × Client}
    (h : (s.withClient i c).Reachable) (hx : Client.advance m (s.scheduler, c) = x) : (s.withCall i x).Reachable := by
  have hclient : (s.withClient i c).clients i = c := Function.update_self ..
  have hcall := h.withCall i m
  rw [hclient] at hcall
  rw [← hx]
  have hsame : (s.withClient i c).withCall i (Client.advance m (s.scheduler, c)) =
      s.withCall i (Client.advance m (s.scheduler, c)) := by
    simp only [System.withCall, System.withClient, Function.update_idem]
  exact hsame ▸ hcall

theorem Reachable.submit (h : s.Reachable) {i : Nat} (hfree : (s.clients i).isFree = true) (r : Request) :
    (s.submit i r).Reachable := by
  refine (h.step (.submit i r hfree)).of_advance (m := 7) ?_
  rw [Client.advance_submitting, PooledScheduler.advance_submit]

theorem Reachable.cancel (h : s.Reachable) {i : Nat} (hfree : (s.clients i).isFree = true) (id : TaskId) :
    (s.cancel i id).Reachable :=
  (h.step (.cancel i id hfree)).of_advance (s.scheduler.advance_cancelling id)

theorem Reachable.shutDown (h : s.Reachable) {i : Nat} (hfree : (s.clients i).isFree = true) (mode : ShutdownMode) :
    (s.shutDown i mode).Reachable := by
  obtain ⟨m, hadvance⟩ := s.scheduler.exists_advance_shutting mode
  exact (h.step (.shutDown i mode hfree)).of_advance hadvance

theorem Reachable.shutDownNow (h : s.Reachable) {i : Nat} (hfree : (s.clients i).isFree = true) :
    (s.shutDownNow i).Reachable :=
  (h.shutDown hfree .discardPending).step .interruptAll

/-- Whatever a worker has done so far about the run of its task with nothing in between. -/
theorem Reachable.withExecution (h : s.Reachable) {k n : Nat} {id : TaskId} {e : Execution}
    (hk : s.threads k = some (.ofExecution id e)) (name : Option String) :
    (s.withExecution k id (Execution.advance id name n (s.scheduler, e))).Reachable := by
  induction n generalizing s e with
  | zero =>
    have hsame : s.withExecution k id (s.scheduler, e) = s := by
      simp only [System.withExecution, ← hk, Function.update_eq_self]
    rwa [Execution.advance, hsame]
  | succ n ih =>
    by_cases hended : e = .ended
    · subst hended
      exact ih h hk
    · have hthread : s.threads k = some (.executing id e) := by
        rw [hk]
        cases e <;> first | rfl | exact absurd rfl hended
      have hrest := ih (h.step (.execution k id e name hthread)) (Function.update_self ..)
      have hsame : (s.stepExecution k id e name).withExecution k id
          (Execution.advance id name n (e.step s.scheduler id name)) =
          s.withExecution k id (Execution.advance id name n (e.step s.scheduler id name)) := by
        simp only [System.withExecution, stepExecution, Function.update_idem]
      exact hsame ▸ hrest

theorem Reachable.conclude (h : s.Reachable) {k : Nat} {id : TaskId} (hk : s.threads k = some (.executing id .running))
    (name : Option String) (outcome : Option Panic) : (s.conclude k id name outcome).Reachable := by
  have hthread : (s.withThread k (.executing id (Execution.running.finish outcome))).threads k =
      some (.ofExecution id (Execution.running.finish outcome)) := by
    refine (Function.update_self ..).trans ?_
    cases outcome <;> rfl
  have hrest := (h.step (.finish k id outcome hk)).withExecution (n := 12) hthread name
  have hsame : (s.withThread k (.executing id (Execution.running.finish outcome))).withExecution k id
      (s.scheduler.conclude id name outcome) = s.conclude k id name outcome := by
    simp only [System.withExecution, System.withThread, System.conclude, Function.update_idem]
  exact hsame ▸ hrest

end System

end TaskScheduling
