import TaskScheduling.Proofs.Backlog.Fairness
import TaskScheduling.Proofs.Dispatch.Queueing

/-!
# A system is a contest for its tasks

The clients, the dispatcher, the workers that have been given a task and the threads that execute one are the actors of
a contest (`System.Plays`): whatever is fair in all contests is so in every system.

Main statements: `System.Plays.run` and `System.Reachable.plays`.
-/

namespace TaskScheduling

open Backlog Relation

/-! ### What each party is in the middle of -/

namespace Submission

def actor : Submission → Actor
  | withdrawing id c => .cancelling id c
  | _ => .idle

end Submission

def Shutdown.actor : Shutdown → Actor
  | clearing scope c => .clearing scope c
  | _ => .idle

namespace Client

def actor : Client → Actor
  | submitting _ m => m.actor
  | cancelling id c => .cancelling id c
  | shutting m => m.actor
  | _ => .idle

end Client

def Dispatcher.actor : Dispatcher → Actor
  | sweeping scope c => .clearing scope c
  | claiming id _ => .claiming id
  | handing id _ | restoring id => .holding id
  | reinserting id => .restoring id
  | _ => .idle

def Execution.actor (id : TaskId) : Execution → Actor
  | starting => .holding id
  | running | failing _ | routing _ | counting _ | settling | stamping => .running id
  | dropping => .dropping id
  | completing completedAt c => .settling id completedAt c
  | _ => .idle

def WorkerThread.actor : WorkerThread → Actor
  | acting (.working id) => .holding id
  | acting _ => .idle
  | executing id e => e.actor id

/-- A worker that has been given a task holds it. -/
def Actor.ofTask? : Option TaskId → Actor
  | none => .idle
  | some id => .holding id

/-- What a step of a party comes to: it takes the step of an actor, or does nothing. -/
def Actor.Does (b : Backlog) (a a' : Actor) (b' : Backlog) : Prop := a' = a ∧ b' = b ∨ ∃ ds, Acts b a a' b' ds

namespace Actor.Does

variable {b b' : Backlog} {a a' : Actor} {ds : List Deed}

protected theorem refl (b : Backlog) (a : Actor) : Does b a a b := .inl ⟨rfl, rfl⟩

theorem of_acts (h : Acts b a a' b' ds) : Does b a a' b' := .inr ⟨ds, h⟩

end Actor.Does

open Actor

theorem Submission.does_step (s : PooledScheduler) (r : Request) {m : Submission} (hbuilding : m ≠ building)
    (hinserting : ∀ t, m ≠ inserting t) : Does s.backlog m.actor (m.step s r).2.actor (m.step s r).1.backlog := by
  cases m with
  | checking =>
    simp only [step]
    split <;> exact .refl _ _
  | building => exact absurd rfl hbuilding
  | preparing task =>
    have hbacklog := s.backlog_ensureDispatcher
    simp only [step]
    rcases hens : s.ensureDispatcher with ⟨t, trouble | _⟩ <;> rw [hens] at hbacklog <;> exact .inl ⟨rfl, hbacklog⟩
  | inserting task => exact absurd rfl (hinserting task)
  | rechecking id =>
    simp only [step]
    split
    · exact .of_acts (.call id)
    · exact .refl _ _
  | withdrawing id c =>
    cases c with
    | ended claimed =>
      simp only [step]
      split <;> exact .of_acts (.answer id _)
    | _ => exact .of_acts (.cancel id _ (by simp))
  | examining id =>
    simp only [step]
    split <;> exact .refl _ _
  | waking id => exact .inl ⟨rfl, s.backlog_wakeDispatcher⟩
  | _ => exact .refl _ _

theorem Shutdown.does_step (s : PooledScheduler) (m : Shutdown) :
    Does s.backlog m.actor (m.step s).2.actor (m.step s).1.backlog := by
  cases m with
  | raising mode => exact .of_acts (.callAll mode.scope)
  | clearing scope c =>
    cases c with
    | ended discarded => exact .of_acts (.answerAll scope discarded)
    | _ => exact .of_acts (.clear scope _ (by simp))
  | waking discarded =>
    refine .inl ⟨rfl, ?_⟩
    simp only [step, PooledScheduler.passOnShutdown]
    split
    · exact s.backlog_wakeDispatcher
    · rfl
  | _ => exact .refl _ _

theorem Client.does_step (s : PooledScheduler) {c : Client} (hbuilding : ∀ r, c ≠ submitting r .building)
    (hinserting : ∀ r t, c ≠ submitting r (.inserting t)) :
    Does s.backlog c.actor (c.step s).2.actor (c.step s).1.backlog := by
  cases c with
  | submitting r m =>
    exact Submission.does_step s r (fun hm => hbuilding r (by rw [hm])) fun t hm => hinserting r t (by rw [hm])
  | cancelling id c =>
    cases c with
    | ended claimed =>
      refine .inr ⟨[.answered id claimed], ?_⟩
      have hbacklog : ((cancelling id (.ended claimed)).step s).1.backlog = s.backlog := by
        simp only [step]
        split <;> rfl
      rw [hbacklog]
      exact .answer id claimed
    | _ => exact .of_acts (.cancel id _ (by simp))
  | shutting m => exact m.does_step s
  | _ => exact .refl _ _

theorem Dispatcher.does_step {s : PooledScheduler} (hb : s.backlog.Kept) {d : Dispatcher} (hd : d.isHanding = false) :
    Does s.backlog d.actor (d.step s).2.actor (d.step s).1.backlog := by
  have hgoes := d.goes_step s
  generalize d.step s = next at hgoes ⊢
  cases hgoes with
  | check mode _ => exact .of_acts (.callAll mode.scope)
  | sweep scope c hc => exact .of_acts (.clear scope c hc)
  | swept scope discarded => exact .of_acts (.answerAll scope discarded)
  | unlink id k c hremove => exact .of_acts (.take id c hremove)
  | gone id k c hremove =>
    refine .inl ⟨rfl, ?_⟩
    cases hslot : (s.backlog.task id).slot with
    | none =>
      rw [remove_of_slot_none hslot] at hremove
      exact (Prod.mk.inj hremove).1.symm
    | some slot =>
      rw [remove_eq_unlink hslot (hb.mem_queue_iff.2 hslot)] at hremove
      cases hremove
  | claim id k c hbegin => exact .of_acts (.begin id c hbegin)
  | drop id k c hbegin => exact .of_acts (.miss id c hbegin)
  | hand => cases hd
  | keep => cases hd
  | restore id c hmoved => exact .of_acts (.restore id c hmoved)
  | letGo id c hmoved => exact .of_acts (.letGo id c hmoved)
  | reinsert id c hadd => exact .of_acts (.reinsert id c hadd)
  | addFault id fault hadd => exact .of_acts (.refuse id fault hadd)
  | _ => exact .refl _ _

theorem Execution.does_step (s : PooledScheduler) (id : TaskId) (thread : Option String) (e : Execution) :
    Does s.backlog (e.actor id) ((e.step s id thread).2.actor id) (e.step s id thread).1.backlog := by
  cases e with
  | starting => exact .of_acts (.invoke id)
  | settling =>
    simp only [step]
    split
    · next hdrops => exact .of_acts (.doom id (Bool.and_eq_true_iff.1 hdrops).1)
    · exact .refl _ _
  | dropping =>
    simp only [step]
    rcases hmoved : s.backlog.transition id .executing .cancelled with ⟨c, _ | _⟩
    · exact .of_acts (.dropLate id c hmoved)
    · exact .of_acts (.drop id c hmoved)
  | stamping => exact .of_acts (.settle id _)
  | completing completedAt c =>
    cases c with
    | ended requeued =>
      simp only [step]
      split <;> exact .of_acts (.leave id completedAt _)
    | faulted fault => exact .of_acts (.fail id completedAt fault)
    | _ => exact .of_acts (.complete id completedAt _)
  | waking => exact .inl ⟨rfl, s.backlog_wakeDispatcher⟩
  | _ => exact .refl _ _

/-! ### The contest of a system -/

theorem WorkerThread.actor_ofPhase (phase : WorkerPhase) : (ofPhase phase).actor = (acting phase).actor := by
  cases phase <;> rfl

theorem WorkerThread.actor_ofExecution (id : TaskId) (e : Execution) : (ofExecution id e).actor = e.actor id := by
  cases e <;> rfl

theorem WorkerThread.actor_acting {phase next : WorkerPhase} (h : ∀ id, next = .working id ↔ phase = .working id) :
    (acting next).actor = (acting phase).actor := by
  cases phase with
  | working id => rw [(h id).2 rfl]
  | _ =>
    cases next with
    | working id => cases (h id).1 rfl
    | _ => rfl

namespace System

def actor (s : System) : Party → Actor
  | .client i => (s.clients i).actor
  | .dispatcher => s.dispatcher.elim .idle Dispatcher.actor
  | .worker k => .ofTask? (s.pool.task? k)
  | .thread k => (s.threads k).elim .idle WorkerThread.actor

/-- Whether the parties of the system are the actors of the contest, as far as it has got. -/
structure Plays (s : System) (c : Contest Party) : Prop where
  backlog_eq : c.backlog = s.backlog
  actors_eq (who : Party) : c.actors who = s.actor who
  born (id : TaskId) : id ∈ c.entered → s.Born id

namespace Plays

variable {s s' : System} {c : Contest Party}

protected theorem start (clock : Clock) (maxSize : Nat) (keepAlive : Duration) (factory : ThreadFactory)
    (router : FailureRouter) (sink : Sink) (defaultPriority : Priority) (lowWait : Nat) :
    (start clock maxSize keepAlive factory router sink defaultPriority lowWait).Plays Contest.start where
  backlog_eq := rfl
  actors_eq who := by cases who <;> rfl
  born _ hid := by cases hid

/-- A step of one party. -/
private theorem of_does (h : s.Plays c) (hleads : s.Leads s') (who : Party)
    (hdoes : Does s.backlog (s.actor who) (s'.actor who) s'.backlog)
    (hothers : ∀ other, other ≠ who → s'.actor other = s.actor other) :
    ∃ c', ReflTransGen Contest.Step c c' ∧ s'.Plays c' := by
  have hborn (id : TaskId) (hid : id ∈ c.entered) : s'.Born id := hleads.born id (h.born id hid)
  rcases hdoes with ⟨hactor, hbacklog⟩ | ⟨ds, hacts⟩
  · refine ⟨c, .refl, h.backlog_eq.trans hbacklog.symm, fun other => ?_, hborn⟩
    rw [h.actors_eq]
    by_cases hother : other = who
    · rw [hother, hactor]
    · rw [hothers other hother]
  · refine ⟨c.act who (s'.actor who) s'.backlog ds, .single (.act who _ _ ds ?_), rfl, fun other => ?_, hborn⟩
    · rw [h.actors_eq, h.backlog_eq]
      exact hacts
    · rw [Contest.actors_act]
      split
      · next hother => rw [hother]
      · next hother => rw [h.actors_eq, hothers other hother]

/-- A step that concerns no task. -/
private theorem of_same (h : s.Plays c) (hleads : s.Leads s') (hbacklog : s'.backlog = s.backlog)
    (hactors : ∀ who, s'.actor who = s.actor who) : ∃ c', ReflTransGen Contest.Step c c' ∧ s'.Plays c' :=
  h.of_does hleads .dispatcher (.inl ⟨hactors _, hbacklog⟩) fun who _ => hactors who

/-- A step in which one party passes a task on to another. -/
private theorem of_transfer (h : s.Plays c) (hleads : s.Leads s') (who other : Party) (id : TaskId)
    (hfrom : s.actor who = .holding id) (hto : s.actor other = .idle) (hfrom' : s'.actor who = .idle)
    (hto' : s'.actor other = .holding id) (hothers : ∀ p, p ≠ who → p ≠ other → s'.actor p = s.actor p)
    (hbacklog : s'.backlog = s.backlog) : ∃ c', ReflTransGen Contest.Step c c' ∧ s'.Plays c' := by
  have hpass := Contest.Step.pass who other id ((h.actors_eq who).trans hfrom) ((h.actors_eq other).trans hto)
  refine ⟨c.pass who other id, .single hpass, h.backlog_eq.trans hbacklog.symm, fun p => ?_,
    fun j hj => hleads.born j (h.born j hj)⟩
  rw [Contest.actors_pass]
  split
  · next hp => rw [hp, hto']
  · next hp =>
    split
    · next hp' => rw [hp', hfrom']
    · next hp' => rw [h.actors_eq, hothers p hp' hp]

/-! ### Clients -/

private theorem actor_of_isFree {c : Client} (h : c.isFree = true) : c.actor = .idle := by
  cases c with
  | submitting r m =>
    cases m with
    | ended result => rfl
    | _ => cases h
  | shutting m =>
    cases m with
    | ended discarded => rfl
    | _ => cases h
  | cancelling id c => cases h
  | _ => rfl

/-- A client makes a call. -/
private theorem withClient (h : s.Plays c) {i : Nat} {next : Client} (hleads : s.Leads (s.withClient i next))
    (hfree : (s.clients i).isFree = true) (hdoes : Does s.backlog .idle next.actor s.backlog) :
    ∃ c', ReflTransGen Contest.Step c c' ∧ (s.withClient i next).Plays c' := by
  have hself : (s.withClient i next).clients i = next := Function.update_self i _ s.clients
  refine h.of_does hleads (.client i) ?_ fun other hne => ?_
  · have hbefore : s.actor (.client i) = .idle := actor_of_isFree hfree
    have hafter : (s.withClient i next).actor (.client i) = next.actor := congrArg Client.actor hself
    rw [hbefore, hafter]
    exact hdoes
  · cases other with
    | client j =>
      have hj : j ≠ i := fun hj => hne (by rw [hj])
      exact congrArg Client.actor (Function.update_of_ne hj _ s.clients)
    | _ => rfl

private theorem actor_stepClient_of_ne (s : System) (i : Nat) {who : Party} (hwho : who ≠ .client i) :
    (s.stepClient i).actor who = s.actor who := by
  cases who with
  | client j =>
    have hj : j ≠ i := fun hj => hwho (by rw [hj])
    exact congrArg Client.actor (Function.update_of_ne hj _ s.clients)
  | dispatcher =>
    simp only [actor, System.stepClient]
    cases s.dispatcher with
    | some d => rfl
    | none => cases ((s.clients i).step s.scheduler).1.dispatcher.thread <;> rfl
  | worker k => simp only [actor, Sound.task?_stepClient]
  | thread k => rfl

/-- A submission draws a number for its task, if it is one. -/
private theorem build (h : s.Plays c) {i : Nat} {r : Request} (hleads : s.Leads (s.stepClient i))
    (hclient : s.clients i = .submitting r .building) :
    ∃ c', ReflTransGen Contest.Step c c' ∧ (s.stepClient i).Plays c' := by
  have hidle : s.actor (.client i) = .idle := congrArg Client.actor hclient
  have hstep : ((s.stepClient i).backlog = s.backlog ∨
      (s.stepClient i).backlog = { s.backlog with nextId := s.backlog.nextId + 1 }) ∧
        (s.stepClient i).actor (.client i) = .idle := by
    simp only [actor, clients_stepClient_self]
    rw [backlog_stepClient, hclient]
    simp only [Client.step, Submission.step]
    split
    · exact ⟨.inr rfl, rfl⟩
    · exact ⟨.inl rfl, rfl⟩
  have hactors (who : Party) : (s.stepClient i).actor who = s.actor who := by
    by_cases hwho : who = .client i
    · rw [hwho, hidle, hstep.2]
    · exact actor_stepClient_of_ne s i hwho
  rcases hstep.1 with hbacklog | hbacklog
  · exact h.of_same hleads hbacklog hactors
  · refine ⟨_, .single .number, ?_, fun who => (h.actors_eq who).trans (hactors who).symm,
      fun id hid => hleads.born id (h.born id hid)⟩
    rw [hbacklog, h.backlog_eq]

/-- A submission enters its task and queues it. -/
private theorem insert (h : s.Plays c) (hs : s.Sound) {i : Nat} {r : Request} {t : Task}
    (hleads : s.Leads (s.stepClient i)) (hclient : s.clients i = .submitting r (.inserting t)) :
    ∃ c', ReflTransGen Contest.Step c c' ∧ (s.stepClient i).Plays c' := by
  have hnew := hs.isNew i t (by rw [hclient]; rfl)
  have hadd : (s.backlog.enter t).add t.id = .ok ((s.backlog.enter t).place t.id) := by
    refine add_eq_ok ?_
    rw [task_enter, if_pos rfl, hnew.slot_eq]
  have hstep := hs.step_of_inserting hclient
  have hbacklog : (s.stepClient i).backlog = (s.backlog.enter t).place t.id := congrArg (·.1.backlog) hstep
  have hactor : (s.stepClient i).actor (.client i) = s.actor (.client i) := by
    simp only [actor]
    rw [clients_stepClient_self, hstep, hclient]
    rfl
  -- until now the submission had the task in hand
  have hunborn : t.id ∉ c.entered := by
    intro hid
    refine (h.born t.id hid).2 (.client i) ?_
    simp [held, hclient, Client.held, Submission.held, Holding.only]
  have hborn : (s.stepClient i).Born t.id := by
    refine hleads.sound.born_of_state ?_
    rw [hs.task_of_inserting hclient, hnew.state_eq]
    decide
  refine ⟨_, .single (.enter t _ hunborn hnew.state_eq hnew.runs_eq (by rw [h.backlog_eq]; exact hadd)), hbacklog.symm,
    fun who => ?_, fun id hid => ?_⟩
  · by_cases hwho : who = .client i
    · rw [hwho, hactor]
      exact h.actors_eq _
    · rw [actor_stepClient_of_ne s i hwho]
      exact h.actors_eq who
  · rcases List.mem_cons.1 hid with rfl | hid
    · exact hborn
    · exact hleads.born id (h.born id hid)

private theorem stepClient (h : s.Plays c) (hs : s.Sound) {i : Nat} (hleads : s.Leads (s.stepClient i)) :
    ∃ c', ReflTransGen Contest.Step c c' ∧ (s.stepClient i).Plays c' := by
  by_cases hbuilding : ∃ r, s.clients i = .submitting r .building
  · obtain ⟨r, hclient⟩ := hbuilding
    exact h.build hleads hclient
  by_cases hinserting : ∃ r t, s.clients i = .submitting r (.inserting t)
  · obtain ⟨r, t, hclient⟩ := hinserting
    exact h.insert hs hleads hclient
  have hinserting' (r : Request) (t : Task) (hclient : s.clients i = .submitting r (.inserting t)) : False :=
    hinserting ⟨r, t, hclient⟩
  refine h.of_does hleads (.client i) ?_ fun who hwho => actor_stepClient_of_ne s i hwho
  simp only [actor, clients_stepClient_self]
  exact Client.does_step s.scheduler (fun r hclient => hbuilding ⟨r, hclient⟩) hinserting'

/-! ### The dispatcher -/

/-- The dispatcher gives a worker its task, or keeps it if the worker has left. -/
private theorem handOver (h : s.Plays c) (hs : s.Sound) {id : TaskId} {k now : Nat}
    (hd : s.dispatcher = some (.handing id k)) (hleads : s.Leads (s.stepDispatcher (.handing id k) now)) :
    ∃ c', ReflTransGen Contest.Step c c' ∧ (s.stepDispatcher (.handing id k) now).Plays c' := by
  have hheld : s.actor .dispatcher = .holding id := by simp only [actor, hd, Option.elim_some, Dispatcher.actor]
  have htask (j : Nat) := s.pool.task?_hand k id j
  have hsnd := s.pool.hand_snd k id
  rcases hhand : s.pool.hand k id with ⟨p, given⟩
  rw [hhand] at htask hsnd
  have hgiven : s.scheduler.pool.hand k id = (p, given) := hhand
  cases given with
  | false =>
    have hstep : s.stepDispatcher (.handing id k) now =
        { s with scheduler := { s.scheduler with pool := p }, dispatcher := some (.restoring id) } := by
      simp only [System.stepDispatcher, Dispatcher.step, hgiven]
      rfl
    rw [hstep] at hleads ⊢
    refine h.of_same hleads rfl fun who => ?_
    cases who with
    | dispatcher => rw [hheld]; rfl
    | worker j =>
      have hsame := htask j
      rw [← hsnd, if_neg (by simp)] at hsame
      exact congrArg Actor.ofTask? hsame
    | _ => rfl
  | true =>
    have hstep : s.stepDispatcher (.handing id k) now =
        { s with scheduler := { s.scheduler with pool := p }, dispatcher := some .checking } := by
      simp only [System.stepDispatcher, Dispatcher.step, hgiven]
      rfl
    have hspare : s.pool.task? k = none := by
      refine (hs.staffed k).task?_eq_none (.inl ?_)
      simp only [reserves, hd, Option.elim_some, Dispatcher.reserves, ↓reduceIte]
      omega
    rw [hstep] at hleads ⊢
    refine h.of_transfer hleads .dispatcher (.worker k) id hheld ?_ rfl ?_ (fun who hwho hwho' => ?_) rfl
    · simp only [actor, hspare, Actor.ofTask?]
    · have hnow := htask k
      rw [← hsnd, if_pos ⟨rfl, rfl⟩] at hnow
      exact congrArg Actor.ofTask? hnow
    · cases who with
      | dispatcher => exact absurd rfl hwho
      | worker j =>
        have hsame := htask j
        rw [if_neg fun hc => hwho' (by rw [hc.1])] at hsame
        exact congrArg Actor.ofTask? hsame
      | _ => rfl

private theorem stepDispatcher (h : s.Plays c) (hs : s.Sound) {d : Dispatcher} {now : Nat} (hd : s.dispatcher = some d)
    (hleads : s.Leads (s.stepDispatcher d now)) :
    ∃ c', ReflTransGen Contest.Step c c' ∧ (s.stepDispatcher d now).Plays c' := by
  cases hhanding : d.isHanding with
  | true =>
    cases d with
    | handing id k => exact h.handOver hs hd hleads
    | _ => cases hhanding
  | false =>
    refine h.of_does hleads .dispatcher ?_ fun who hwho => ?_
    · simp only [actor, hd, Option.elim_some]
      exact Dispatcher.does_step (s := s.scheduler) hs.kept hhanding
    · cases who with
      | client i => rfl
      | dispatcher => exact absurd rfl hwho
      | worker k => simp only [actor, hs.task?_stepDispatcher hd hhanding]
      | thread k =>
        simp only [actor]
        rcases hs.threads_stepDispatcher_cases hd now k with hsame | ⟨hnone, hstarted⟩
        · rw [hsame]
        · rw [hnone, hstarted]
          rfl

/-! ### The workers -/

/-- One thread goes on. -/
private theorem of_thread (h : s.Plays c) (hleads : s.Leads s') {k : Nat} {x y : WorkerThread}
    (ht : s.threads k = some x) (hdoes : Does s.backlog x.actor y.actor s'.backlog)
    (hclients : s'.clients = s.clients) (hdispatcher : s'.dispatcher = s.dispatcher)
    (htask : ∀ j, s'.pool.task? j = s.pool.task? j) (hthreads : s'.threads = Function.update s.threads k (some y)) :
    ∃ c', ReflTransGen Contest.Step c c' ∧ s'.Plays c' := by
  refine h.of_does hleads (.thread k) ?_ fun who hwho => ?_
  · simp only [actor, hthreads, Function.update_self, ht, Option.elim_some]
    exact hdoes
  · cases who with
    | client i => simp only [actor, hclients]
    | dispatcher => simp only [actor, hdispatcher]
    | worker j => simp only [actor, htask]
    | thread j =>
      have hj : j ≠ k := fun hj => hwho (by rw [hj])
      simp only [actor, hthreads, Function.update_of_ne hj]

private theorem stepWorker (h : s.Plays c) (hs : s.Sound) {k now : Nat} {phase : WorkerPhase}
    (ht : s.threads k = some (.acting phase)) (hleads : s.Leads (s.stepWorker k phase now)) :
    ∃ c', ReflTransGen Contest.Step c c' ∧ (s.stepWorker k phase now).Plays c' := by
  have hpool := s.pool_stepWorker k phase now
  have hthreads := s.threads_stepWorker k phase now
  have hbacklog := s.backlog_stepWorker k phase now
  have hmoves := phase.moves_step s.pool k now
  generalize (phase.step s.pool k now).1 = q at hmoves hpool
  generalize (phase.step s.pool k now).2 = next at hmoves hthreads
  have hact (hsame : ∀ id, next = .working id ↔ phase = .working id)
      (htask : ∀ j, (s.stepWorker k phase now).pool.task? j = s.pool.task? j) :
      ∃ c', ReflTransGen Contest.Step c c' ∧ (s.stepWorker k phase now).Plays c' := by
    refine h.of_thread hleads ht (.inl ⟨?_, hbacklog⟩) rfl rfl htask hthreads
    rw [WorkerThread.actor_ofPhase, WorkerThread.actor_acting hsame]
  cases hmoves with
  | take idleSince id htask =>
    have hafter (j : Nat) : (s.stepWorker k (.fetching idleSince) now).pool.task? j =
        if j = k then none else s.pool.task? j := by
      rw [hpool]
      exact s.pool.task?_takeTask k j
    refine h.of_transfer hleads (.worker k) (.thread k) id ?_ ?_ ?_ ?_ (fun who hwho hwho' => ?_) hbacklog
    · simp only [actor, htask, Actor.ofTask?]
    · simp only [actor, ht, Option.elim_some, WorkerThread.actor]
    · simp only [actor, hafter, ↓reduceIte, Actor.ofTask?]
    · simp only [actor, hthreads, Function.update_self]
      rfl
    · cases who with
      | worker j =>
        have hj : j ≠ k := fun hj => hwho (by rw [hj])
        simp only [actor, hafter, if_neg hj]
      | thread j =>
        have hj : j ≠ k := fun hj => hwho' (by rw [hj])
        simp only [actor, hthreads, Function.update_of_ne hj]
      | _ => rfl
  | giveBack => exact hact (by simp) fun j => by rw [hpool]; rfl
  | depart _ hdepart =>
    have hnone := hs.staffed.task?_eq_none_of_depart ht hdepart
    refine hact (fun id => ?_) fun j => ?_
    · rcases hdepart with rfl | ⟨⟨idleSince, rfl⟩, -⟩ <;> simp
    · rw [hpool, Pool.task?_removeWorker]
      split
      · next hj => rw [hj, hnone]
      · rfl
  | goOn _ _ _ hknows _ _ _ hsame => exact hact hsame fun j => by rw [hpool]; exact hknows.task?_eq j

private theorem stepExecution (h : s.Plays c) {k : Nat} {id : TaskId} {e : Execution} {name : Option String}
    (ht : s.threads k = some (.executing id e)) (hleads : s.Leads (s.stepExecution k id e name)) :
    ∃ c', ReflTransGen Contest.Step c c' ∧ (s.stepExecution k id e name).Plays c' := by
  have hpool : (s.stepExecution k id e name).pool = s.pool := e.pool_step s.scheduler id name
  refine h.of_thread hleads ht ?_ rfl rfl (fun j => by rw [hpool]) rfl
  rw [WorkerThread.actor_ofExecution]
  exact e.does_step s.scheduler id name

private theorem withScheduler (h : s.Plays c) {scheduler : PooledScheduler} (hleads : s.Leads (s.withScheduler scheduler))
    (hbacklog : scheduler.backlog = s.backlog) (hknows : s.pool.Knows scheduler.pool) :
    ∃ c', ReflTransGen Contest.Step c c' ∧ (s.withScheduler scheduler).Plays c' := by
  refine h.of_same hleads hbacklog fun who => ?_
  cases who with
  | worker k => exact congrArg Actor.ofTask? (hknows.task?_eq k)
  | _ => rfl

/-- The dispatcher goes over to another phase without doing anything. -/
private theorem withDispatcher (h : s.Plays c) {d next : Dispatcher} (hd : s.dispatcher = some d) (hidle : d.actor = .idle)
    (hnext : next.actor = .idle) (hleads : s.Leads (s.withDispatcher next)) :
    ∃ c', ReflTransGen Contest.Step c c' ∧ (s.withDispatcher next).Plays c' := by
  refine h.of_same hleads rfl fun who => ?_
  cases who with
  | dispatcher => simp only [actor, System.withDispatcher, hd, Option.elim_some, hidle, hnext]
  | _ => rfl

/-- Every step of a system is a step of its contest, or none. -/
theorem step (h : s.Plays c) (hs : s.Sound) (hstep : Step s s') :
    ∃ c', ReflTransGen Contest.Step c c' ∧ s'.Plays c' := by
  have hleads := hs.step hstep
  cases hstep with
  | submit i r hfree => exact h.withClient hleads hfree (.refl _ _)
  | cancel i id hfree => exact h.withClient hleads hfree (.of_acts (.call id))
  | shutDown i mode hfree => exact h.withClient hleads hfree (.refl _ _)
  | client i => exact h.stepClient hs hleads
  | dispatcher d now hd => exact h.stepDispatcher hs hd hleads
  | pick id now lowWait hd => exact h.withDispatcher hd rfl rfl hleads
  | miss until? hd => exact h.withDispatcher hd rfl rfl hleads
  | leave hd _ => exact h.withDispatcher hd rfl rfl hleads
  | rouse until? reason hd => exact h.withDispatcher hd rfl rfl hleads
  | worker k phase now ht => exact h.stepWorker hs ht hleads
  | rouseWorker k idleSince until? ht =>
    exact h.of_thread (y := .acting (.fetching idleSince)) hleads ht (.refl _ _) rfl rfl (fun _ => rfl) rfl
  | execution k id e name ht => exact h.stepExecution ht hleads
  | finish k id outcome ht =>
    refine h.of_thread (y := .executing id (Execution.running.finish outcome)) hleads ht ?_ rfl rfl (fun _ => rfl) rfl
    cases outcome <;> exact .refl _ _
  | setMaxPoolSize n =>
    refine h.withScheduler hleads (PooledScheduler.backlog_wakeDispatcher _) ?_
    rw [s.scheduler.pool_setMaxPoolSize n]
    exact Pool.Knows.setMaxSize _ n
  | setKeepAlive d => exact h.withScheduler hleads rfl ⟨fun _ => rfl, fun _ => rfl, rfl⟩
  | setLowWait d =>
    refine h.withScheduler hleads (PooledScheduler.backlog_wakeDispatcher _) ?_
    rw [s.scheduler.pool_setLowWait d]
    exact Pool.Knows.refl _
  | interruptAll => exact h.withScheduler hleads rfl (Pool.Knows.interruptAll _)
  | tell clock => exact h.withScheduler hleads rfl (Pool.Knows.refl _)

/-- A run of a system is a run of its contest. -/
theorem run (h : s.Plays c) (hs : s.Sound) (hrun : ReflTransGen Step s s') :
    ∃ c', ReflTransGen Contest.Step c c' ∧ s'.Plays c' := by
  induction hrun with
  | refl => exact ⟨c, .refl, h⟩
  | tail hrun hstep ih =>
    obtain ⟨c₁, hrun₁, hplays₁⟩ := ih
    obtain ⟨c₂, hrun₂, hplays₂⟩ := hplays₁.step (hs.run hrun).sound hstep
    exact ⟨c₂, hrun₁.trans hrun₂, hplays₂⟩

end Plays

/-- What has come about in a system has come about in a contest of its parties. -/
theorem Reachable.plays {s : System} (h : Reachable s) : ∃ c : Contest Party, c.Reachable ∧ s.Plays c := by
  induction h with
  | start clock maxSize keepAlive factory router sink defaultPriority lowWait =>
    exact ⟨.start, .start, .start clock maxSize keepAlive factory router sink defaultPriority lowWait⟩
  | step hreachable hstep ih =>
    obtain ⟨c, hc, hplays⟩ := ih
    obtain ⟨c', hrun, hplays'⟩ := hplays.step hreachable.sound hstep
    exact ⟨c', hc.run hrun, hplays'⟩

end System

end TaskScheduling
