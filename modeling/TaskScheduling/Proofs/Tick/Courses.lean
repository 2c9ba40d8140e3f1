import TaskScheduling.Proofs.Backlog.HighWork
import TaskScheduling.Proofs.Tick.ClockHolds
import TaskScheduling.Proofs.Tick.Runs

/-!
# Scripted sessions

A `Course` is a session in which the owner of the high tasks follows a script of calls and ticks, and in which their
actions behave as a `Conduct` says: what they ask of the scheduler and how they end depends on the high runs so far and
on nothing else.  High tasks go by their rank, which is how many of them were submitted before.

Besides, anybody may submit and cancel other tasks at any moment, also between two steps of a tick.  The actions of
those leave the scheduler and the clock alone, and end with any panic or with none.

* `Course.Acts`: what the owner of the high tasks does, and what their actions do.
* `Course.Step`: one step of a course.
* `Course.Sound.step`: what holds in every course, step by step.
-/

namespace TaskScheduling

namespace Clock

/-- The clock does not remember more than its source shows. -/
def Trails (c : Clock) : Prop := c.cached ≤ c.source.reading

variable {c : Clock}

theorem Trails.accurate (h : c.Trails) : c.accurate.2.Trails := by
  unfold Clock.accurate
  split
  · exact h
  · exact Nat.max_le.2 ⟨h, Nat.le_refl _⟩

theorem Trails.now (h : c.Trails) : c.now.2.Trails := by
  unfold Clock.now
  split
  · exact h
  · exact h.accurate

theorem Trails.hold (h : c.Trails) : c.hold.Trails := by
  unfold Trails Clock.hold
  split
  · exact h
  · exact Nat.max_le.2 ⟨h, Nat.le_refl _⟩

theorem Trails.release (h : c.Trails) : c.release.Trails := by
  unfold Clock.release
  dsimp only
  split
  · exact h
  · exact accurate (c := { c with holds := c.holds - 1 }) h

theorem Trails.jump (h : c.Trails) (t : Nat) : (c.jump t).Trails := by
  unfold Trails Clock.jump TimeSource.jump
  rw [TimeSource.reading_withReading]
  exact h.trans (Nat.le_max_left _ _)

theorem Trails.advance (h : c.Trails) {d : Duration} (hd : c.source.reading + d.millis ≤ Time.limit) :
    (c.advance d).1.Trails := by
  unfold Trails Clock.advance TimeSource.advance
  rw [if_pos hd]
  exact h.trans (by rw [TimeSource.reading_withReading]; exact Nat.le_add_right _ _)

end Clock

/-- What the owner of the high tasks may ask for. -/
inductive HighCall where
  | submit (r : Request)
  | cancel (rank : Nat)
  | clear
  | hold
  | release
  | advance (d : Duration)
  | jump (t : Nat)

inductive Instruction where
  | call (c : HighCall)
  | tick

/-- The high runs of the ticks so far, both with the last one first: ranks, with the times for which they were
planned. -/
abbrev Record : Type := List (List (Nat × Nat))

/-- What the action of the high task that was started last does and how it ends, by the record. -/
structure Conduct where
  deeds : Record → List HighCall
  outcome : Record → Option Panic

structure Course where
  session : Session
  /-- What is still to be called. -/
  script : List Instruction
  /-- What the high action that is running is still to do. -/
  deeds : List HighCall
  /-- The high tasks in the order of their submissions. -/
  handles : List TaskId
  ticks : Record

namespace Session

theorem trails_call {w : Session} (h : w.scheduler.clock.Trails) {c : Call}
    (hc : ∀ d, c = .advance d → w.scheduler.clock.source.reading + d.millis ≤ Time.limit) :
    (w.call c).scheduler.clock.Trails := by
  cases c with
  | submit r =>
    cases hvalid : r.kind.isValid with
    | false => rw [call_submit_of_invalid hvalid]; exact h.hold.release
    | true => rw [call_submit_of_valid hvalid]; exact h.hold.release
  | hold => exact h.hold
  | release => exact h.release
  | hasDue => exact h.now
  | now => exact h.now
  | advance d => exact h.advance (hc d rfl)
  | jump t => exact h.jump t
  | _ => exact h

end Session

namespace Course

def backlog (x : Course) : Backlog := x.session.scheduler.backlog

def clock (x : Course) : Clock := x.session.scheduler.clock

/-- The course before the first call. -/
def start (reading : Nat) (defaultPriority : Priority) (script : List Instruction) : Course :=
  ⟨Session.start false (.start (.manual reading)) defaultPriority, script, [], [], []⟩

/-- No tick is in progress. -/
def IsIdle (x : Course) : Prop := ∃ result, x.session.tick = .ended result

/-- The high tasks, apart from their numbers. -/
def highTasks (x : Course) : List Task := x.handles.map fun id => (x.backlog.task id).unnumbered

/-- A high queue, by ranks. -/
def highQueue (x : Course) (kind : QueueKind) : List Nat := (x.backlog.queue ⟨.high, kind⟩).map x.handles.idxOf

/-! ### Steps -/

/-- Submissions are of high tasks, and the source of time does not overflow. -/
def Allows (x : Course) : HighCall → Prop
  | .submit r => r.options.priority.getD x.session.scheduler.defaultPriority = .high
  | .advance d => x.clock.source.reading + d.millis ≤ Time.limit
  | _ => True

def perform (x : Course) : HighCall → Course
  | .submit r =>
    match (x.session.scheduler.submit r.delay r.kind r.options).2 with
    | .ok id => { x with session := x.session.call (.submit r), handles := x.handles ++ [id] }
    | .error _ => { x with session := x.session.call (.submit r) }
  | .cancel rank =>
    match x.handles[rank]? with
    | some id => { x with session := x.session.call (.cancel id) }
    | none => x
  | .clear => { x with session := x.session.call .clear }
  | .hold => { x with session := x.session.call .hold }
  | .release => { x with session := x.session.call .release }
  | .advance d => { x with session := x.session.call (.advance d) }
  | .jump t => { x with session := x.session.call (.jump t) }

theorem perform_submit_of_valid {x : Course} {r : Request} (hvalid : r.kind.isValid = true) :
    x.perform (.submit r) =
      { x with session := x.session.call (.submit r), handles := x.handles ++ [⟨x.backlog.nextId⟩] } := by
  simp only [perform, TickScheduler.submit_of_valid hvalid]
  rfl

theorem perform_submit_of_invalid {x : Course} {r : Request} (hvalid : r.kind.isValid = false) :
    x.perform (.submit r) = { x with session := x.session.call (.submit r) } := by
  simp only [perform, TickScheduler.submit, TickScheduler.accept_of_invalid hvalid]

/-- A call that concerns other tasks only. -/
inductive IsExtra (x : Course) : Call → Prop where
  | submit (r : Request) : r.options.priority.getD x.session.scheduler.defaultPriority ≠ .high →
      IsExtra x (.submit r)
  | cancel (id : TaskId) : (x.backlog.task id).priority ≠ .high → IsExtra x (.cancel id)

/-- One more high run, in the tick that was called last. -/
def record (run : Nat × Nat) : Record → Record
  | [] => [[run]]
  | runs :: earlier => (run :: runs) :: earlier

/-- One step of the tick; a high task that it starts is recorded, and sets about its deeds. -/
def proceed (conduct : Conduct) (x : Course) : Course :=
  match x.session.proceed.tick with
  | .running _ _ id =>
    if id ∈ x.handles then
      let ticks := record (x.handles.idxOf id, (x.backlog.task id).runAt) x.ticks
      { x with session := x.session.proceed, deeds := conduct.deeds ticks, ticks := ticks }
    else { x with session := x.session.proceed }
  | _ => { x with session := x.session.proceed }

/-- What the owner of the high tasks does, and what their actions do. -/
inductive Acts (conduct : Conduct) (x : Course) : Course → Prop where
  | call (c : HighCall) (script : List Instruction) : x.script = .call c :: script → x.IsIdle → x.Allows c →
      Acts conduct x { x.perform c with script := script }
  | tick (script : List Instruction) : x.script = .tick :: script → x.IsIdle →
      Acts conduct x { x with session := x.session.enter, script := script, ticks := [] :: x.ticks }
  | deed (c : HighCall) (deeds : List HighCall) (now ran : Nat) (id : TaskId) : x.deeds = c :: deeds →
      x.session.tick = .running now ran id → id ∈ x.handles → x.Allows c →
      Acts conduct x { x.perform c with deeds := deeds }
  | finish (now ran : Nat) (id : TaskId) (thread : Option String) : x.deeds = [] →
      x.session.tick = .running now ran id → id ∈ x.handles →
      Acts conduct x { x with session := x.session.finish thread (conduct.outcome x.ticks) }

inductive Step (conduct : Conduct) (x : Course) : Course → Prop where
  | act {y : Course} : x.Acts conduct y → Step conduct x y
  | proceed : x.session.tick.isOpen = false → Step conduct x (x.proceed conduct)
  | extra (c : Call) : x.IsExtra c → Step conduct x { x with session := x.session.call c }
  /-- The action of another task ends in any way. -/
  | finish (now ran : Nat) (id : TaskId) (thread : Option String) (outcome : Option Panic) :
      x.session.tick = .running now ran id → id ∉ x.handles →
      Step conduct x { x with session := x.session.finish thread outcome }

/-! ### What a course keeps -/

variable {x y : Course} {conduct : Conduct} {id : TaskId}

/-- A high task is started. -/
theorem proceed_of_mem {now ran : Nat} (htick : x.session.proceed.tick = .running now ran id) (hid : id ∈ x.handles) :
    x.proceed conduct = { x with
      session := x.session.proceed
      deeds := conduct.deeds (record (x.handles.idxOf id, (x.backlog.task id).runAt) x.ticks)
      ticks := record (x.handles.idxOf id, (x.backlog.task id).runAt) x.ticks } := by
  unfold proceed
  rw [htick]
  exact if_pos hid

/-- Otherwise only the session goes on. -/
theorem proceed_of_not_mem (h : ∀ now ran id, x.session.proceed.tick = .running now ran id → id ∉ x.handles) :
    x.proceed conduct = { x with session := x.session.proceed } := by
  unfold proceed
  split
  · next htick => exact if_neg (h _ _ _ htick)
  · rfl

theorem session_proceed : (x.proceed conduct).session = x.session.proceed := by
  unfold proceed
  split
  · split <;> rfl
  · rfl

theorem handles_proceed : (x.proceed conduct).handles = x.handles := by
  unfold proceed
  split
  · split <;> rfl
  · rfl

/-- The high tasks are those that were submitted as high ones, and the tick does not wait. -/
structure Sound (x : Course) : Prop where
  session : x.session.Sound
  blocking_eq : x.session.scheduler.blocking = false
  not_waiting (waiting : Waiting) : x.session.tick ≠ .waiting waiting
  trails : x.clock.Trails
  nodup : x.handles.Nodup
  mem_handles_iff (id : TaskId) : id ∈ x.handles ↔ ∃ r, x.session.requests[id.index]? = some r ∧
    r.options.priority.getD x.session.scheduler.defaultPriority = .high

namespace Sound

protected theorem start (reading : Nat) (defaultPriority : Priority) (script : List Instruction) :
    (start reading defaultPriority script).Sound where
  session := .start ..
  blocking_eq := rfl
  not_waiting _ := by simp [Course.start, Session.start]
  trails := Nat.le_refl _
  nodup := .nil
  mem_handles_iff id := by simp [Course.start, Session.start]

theorem tidy (h : x.Sound) : x.backlog.Tidy none := h.session.accounted.tidy

theorem priority_of_request (h : x.Sound) {r : Request} (hr : x.session.requests[id.index]? = some r) :
    (x.backlog.task id).priority = r.options.priority.getD x.session.scheduler.defaultPriority :=
  congrArg (fun i => i.2.1) (h.session.accounted.identity_eq id r hr)

theorem priority_eq (h : x.Sound) (hid : id ∈ x.handles) : (x.backlog.task id).priority = .high := by
  obtain ⟨r, hr, hp⟩ := (h.mem_handles_iff id).1 hid
  exact (h.priority_of_request hr).trans hp

theorem index_lt (h : x.Sound) (hid : id ∈ x.handles) : id.index < x.backlog.nextId := by
  obtain ⟨r, hr, -⟩ := (h.mem_handles_iff id).1 hid
  have hlt := (List.getElem?_eq_some_iff.1 hr).1
  rwa [← h.session.accounted.nextId_eq] at hlt

theorem ne_next (h : x.Sound) (hid : id ∈ x.handles) : id ≠ ⟨x.backlog.nextId⟩ := by
  rintro rfl
  exact Nat.lt_irrefl _ (h.index_lt hid)

theorem priority_ne (h : x.Sound) (hlt : id.index < x.backlog.nextId) (hid : id ∉ x.handles) :
    (x.backlog.task id).priority ≠ .high := by
  rw [backlog, h.session.accounted.nextId_eq] at hlt
  intro hp
  have hr := List.getElem?_eq_getElem hlt
  exact hid ((h.mem_handles_iff id).2 ⟨_, hr, (h.priority_of_request hr).symm.trans hp⟩)

/-- What the next step of the tick does. -/
theorem proceed_cases (h : x.Sound) (hopen : x.session.tick.isOpen = false) :
    (x.session.tick = .entering ∧ x.session.proceed = { x.session with
      scheduler := { x.session.scheduler with ticking := true }, tick := .reading }) ∨
    (x.session.tick = .reading ∧ x.session.proceed = { x.session with
      scheduler := { x.session.scheduler with clock := x.clock.now.2 }, tick := .picking x.clock.now.1 0 }) ∨
    (∃ now ran, x.session.tick = .picking now ran ∧ x.backlog.nextDue now none = none ∧
      x.session.proceed = { x.session with
        scheduler := { x.session.scheduler with ticking := false }, tick := .ended (.ok ran) }) ∨
    ∃ now ran id, x.session.tick = .picking now ran ∧ x.backlog.nextDue now none = some id ∧
      x.session.proceed = { x.session with
        scheduler := { x.session.scheduler with backlog := x.backlog.launch id }
        tick := .running now ran id
        invoked := id :: x.session.invoked } := by
  cases htick : x.session.tick with
  | entering => exact .inl ⟨rfl, h.session.proceed_of_entering htick⟩
  | reading => exact .inr (.inl ⟨rfl, Session.Sound.proceed_of_reading htick⟩)
  | picking now ran =>
    cases hnext : x.backlog.nextDue now none with
    | some id => exact .inr (.inr (.inr ⟨now, ran, id, rfl, hnext, h.session.proceed_of_some htick hnext⟩))
    | none =>
      have hproceed := h.session.proceed_of_none_of_not_blocking h.blocking_eq htick hnext
      exact .inr (.inr (.inl ⟨now, ran, rfl, hnext, hproceed⟩))
  | claiming now ran id =>
    have hfits := h.session.fits
    rw [htick] at hfits
    exact hfits.elim
  | running now ran id => rw [htick] at hopen; cases hopen
  | waiting waiting => exact absurd htick (h.not_waiting waiting)
  | ended result => rw [htick] at hopen; cases hopen

/-- A step during which no task is submitted. -/
theorem of_step (h : x.Sound) (hsession : y.session.Sound) (hhandles : y.handles = x.handles)
    (hrequests : y.session.requests = x.session.requests)
    (hblocking : y.session.scheduler.blocking = x.session.scheduler.blocking)
    (hdefault : y.session.scheduler.defaultPriority = x.session.scheduler.defaultPriority)
    (hwaiting : ∀ waiting, y.session.tick ≠ .waiting waiting) (htrails : y.clock.Trails) : y.Sound where
  session := hsession
  blocking_eq := hblocking.trans h.blocking_eq
  not_waiting := hwaiting
  trails := htrails
  nodup := hhandles ▸ h.nodup
  mem_handles_iff id := by rw [hhandles, hrequests, hdefault, h.mem_handles_iff]

/-- A call that is not an accepted submission. -/
theorem call (h : x.Sound) (c : Call)
    (hc : match c with
      | .submit r => r.kind.isValid = false
      | .advance d => x.clock.source.reading + d.millis ≤ Time.limit
      | _ => True)
    (hsession : y.session = x.session.call c) (hhandles : y.handles = x.handles) : y.Sound := by
  refine h.of_step (hsession ▸ h.session.call c) hhandles ?_ ?_ ?_ ?_ ?_
  · rw [hsession]
    cases c with
    | submit r => rw [Session.call_submit_of_invalid hc]
    | _ => rfl
  · rw [hsession, Session.blocking_call]
  · rw [hsession, Session.defaultPriority_call]
  · rw [hsession, Session.tick_call]
    exact h.not_waiting
  · rw [clock, hsession]
    refine Session.trails_call h.trails ?_
    rintro d rfl
    exact hc

/-- An accepted submission; the new task is the next high one, or it is not high. -/
theorem submit (h : x.Sound) {r : Request} (hvalid : r.kind.isValid = true)
    (hsession : y.session = x.session.call (.submit r))
    (hhandles : y.handles = if r.options.priority.getD x.session.scheduler.defaultPriority = .high
      then x.handles ++ [⟨x.backlog.nextId⟩] else x.handles) : y.Sound := by
  have hnext : x.backlog.nextId = x.session.requests.length := h.session.accounted.nextId_eq
  have hrequests : y.session.requests = x.session.requests ++ [r] := by
    rw [hsession, Session.call_submit_of_valid hvalid]
  have hdefault : y.session.scheduler.defaultPriority = x.session.scheduler.defaultPriority := by
    rw [hsession, Session.defaultPriority_call]
  have hfresh : (⟨x.backlog.nextId⟩ : TaskId) ∉ x.handles := fun hmem => h.ne_next hmem rfl
  refine ⟨hsession ▸ h.session.call _, ?_, ?_, ?_, ?_, fun id => ?_⟩
  · rw [hsession, Session.blocking_call, h.blocking_eq]
  · rw [hsession, Session.tick_call]
    exact h.not_waiting
  · rw [clock, hsession]
    exact Session.trails_call h.trails (by simp)
  · rw [hhandles]
    split
    · simpa [List.nodup_append] using ⟨h.nodup, fun id hid => h.ne_next hid⟩
    · exact h.nodup
  · rw [hhandles, hrequests, hdefault]
    by_cases hid : id = ⟨x.backlog.nextId⟩
    · subst hid
      rw [hnext, List.getElem?_concat_length]
      split <;> simp_all
    · have hne : id.index ≠ x.session.requests.length := fun heq =>
        hid (Table.index_injective.1 (heq.trans hnext.symm))
      have hold : (x.session.requests ++ [r])[id.index]? = x.session.requests[id.index]? := by grind
      rw [hold, ← h.mem_handles_iff]
      split <;> simp [hid]

/-- The script, the deeds and the record do not matter. -/
theorem congr (h : x.Sound) (hsession : y.session = x.session) (hhandles : y.handles = x.handles) : y.Sound where
  session := hsession ▸ h.session
  blocking_eq := hsession ▸ h.blocking_eq
  not_waiting := hsession ▸ h.not_waiting
  trails := by rw [clock, hsession]; exact h.trails
  nodup := hhandles ▸ h.nodup
  mem_handles_iff := by rw [hsession, hhandles]; exact h.mem_handles_iff

theorem perform (h : x.Sound) {c : HighCall} (hallows : x.Allows c) : (x.perform c).Sound := by
  cases c with
  | submit r =>
    cases hvalid : r.kind.isValid with
    | false =>
      rw [perform_submit_of_invalid hvalid]
      exact h.call (.submit r) hvalid rfl rfl
    | true =>
      rw [perform_submit_of_valid hvalid]
      exact h.submit hvalid rfl (if_pos hallows).symm
  | cancel rank =>
    unfold Course.perform
    dsimp only
    split
    · exact h.call (.cancel _) trivial rfl rfl
    · exact h
  | clear => exact h.call .clear trivial rfl rfl
  | hold => exact h.call .hold trivial rfl rfl
  | release => exact h.call .release trivial rfl rfl
  | advance d => exact h.call (.advance d) hallows rfl rfl
  | jump t => exact h.call (.jump t) trivial rfl rfl

theorem extra (h : x.Sound) {c : Call} (hextra : x.IsExtra c) : { x with session := x.session.call c }.Sound := by
  cases hextra with
  | submit r hlow =>
    cases hvalid : r.kind.isValid with
    | false => exact h.call (.submit r) hvalid rfl rfl
    | true => exact h.submit hvalid rfl (if_neg hlow).symm
  | cancel id hid => exact h.call (.cancel id) trivial rfl rfl

theorem proceed (h : x.Sound) (hopen : x.session.tick.isOpen = false) : (x.proceed conduct).Sound := by
  have hsession := h.session.proceed hopen
  have hsound : { x with session := x.session.proceed }.Sound := by
    rcases h.proceed_cases hopen with ⟨-, hw⟩ | ⟨-, hw⟩ | ⟨now, ran, -, -, hw⟩ | ⟨now, ran, id, -, -, hw⟩ <;>
      rw [hw] at hsession ⊢
    · exact h.of_step hsession rfl rfl rfl rfl (by simp) h.trails
    · exact h.of_step hsession rfl rfl rfl rfl (by simp) h.trails.now
    · exact h.of_step hsession rfl rfl rfl rfl (by simp) h.trails
    · exact h.of_step hsession rfl rfl rfl rfl (by simp) h.trails
  exact hsound.congr session_proceed handles_proceed

theorem finish (h : x.Sound) {now ran : Nat} (htick : x.session.tick = .running now ran id) (thread : Option String)
    (outcome : Option Panic) : { x with session := x.session.finish thread outcome }.Sound := by
  refine h.of_step (h.session.finish thread outcome) rfl (Session.requests_finish ..) (Session.blocking_finish ..)
    (Session.defaultPriority_finish ..) ?_ ?_
  · rw [(h.session.finish_eq htick thread outcome).2]
    cases outcome <;> simp
  · rw [clock, Session.clock_finish htick]
    exact h.trails.now

theorem act (h : x.Sound) (hact : x.Acts conduct y) : y.Sound := by
  cases hact with
  | call c script _ _ hallows => exact (h.perform hallows).congr rfl rfl
  | tick script _ hidle =>
    obtain ⟨result, htick⟩ := hidle
    exact h.of_step (h.session.enter htick) rfl rfl rfl rfl (by simp [Session.enter]) h.trails
  | deed c deeds now ran id _ _ _ hallows => exact (h.perform hallows).congr rfl rfl
  | finish now ran id thread _ htick _ => exact h.finish htick thread _

/-- Every step keeps a course sound. -/
theorem step (h : x.Sound) (hstep : x.Step conduct y) : y.Sound := by
  cases hstep with
  | act hact => exact h.act hact
  | proceed hopen => exact h.proceed hopen
  | extra c hextra => exact h.extra hextra
  | finish now ran id thread outcome htick _ => exact h.finish htick thread outcome

end Sound

theorem Sound.run (h : x.Sound) (hrun : Relation.ReflTransGen (Step conduct) x y) : y.Sound := by
  induction hrun with
  | refl => exact h
  | tail _ hstep ih => exact ih.step hstep

end Course

end TaskScheduling
