/-
# The server

`Server::Start` and `Server::Stop` and the loop of the thread that `Start` creates, as the steps
of one system: the threads that call the two, the thread of the loop, and the peers, whose
connections wait in a queue until they are accepted.  The steps of all come in any order.  A call of
`Start` does not overlap with another call, since both would use `m_thread`; calls of `Stop` may
overlap, and only the one that takes the flag down goes on.
-/
import ProfileService.Lib.Transitions
import ProfileService.Reachable
import ProfileService.Standalone

namespace ProfileService

open Bytes (str)
open Transitions (run)

variable {σ : Type}

/-! ## The model -/

/-- A response as it is written: with the fields that the loop sets. -/
structure Answer where
  response : Response
  fields : List (Bytes × Bytes)
  keepAlive : Bool

/-- The fields that the loop sets on a response. -/
def finish (response : Response) : Answer where
  response := response
  fields :=
    [(str "Server", str "profile-service"),
     (str "Access-Control-Allow-Origin", str "*"),
     (str "Access-Control-Allow-Methods", str "GET, POST, PUT, PATCH, DELETE, OPTIONS"),
     (str "Access-Control-Allow-Headers", str "Content-Type, Authorization, X-User-ID")]
  keepAlive := false

/-- What the peer of a connection comes to send. -/
inductive Sent
  /-- A request; and whether the answer can be written, or the peer keeps the connection and does
  not take what is written on it. -/
  | whole (request : Request) (takes : Bool)
  /-- Nothing that can be read as a request, and then the connection ends. -/
  | nothing
  /-- The connection stays, and no request comes to its end. -/
  | never

/-- The request that is sent. -/
def Sent.asked : Sent → Option Request
  | .whole request _ => some request
  | .nothing | .never => none

/-- Where the thread of the loop is. -/
inductive Worker
  | absent
  | starting
  | looping
  | accepting
  | reading (sent : Sent)
  | handling (request : Request) (takes : Bool)
  | writing (answer : Answer) (takes : Bool)
  | ended

/-- Where the call of `Stop` is that took the flag down, if there is one: it requests the thread of
the loop to stop, connects to its own endpoint, and joins the thread. -/
inductive Caller
  | idle
  | requesting
  | connecting
  | joining (connected : Bool)
deriving DecidableEq

/-- `Server`, with what was taken from the network and given back, which no code reads. -/
structure Server (σ : Type) where
  /-- `m_running`. -/
  running : Bool
  /-- `stopToken.stop_requested()`. -/
  stopRequested : Bool
  worker : Worker
  caller : Caller
  /-- The connections that wait to be accepted. -/
  queue : List Sent
  /-- What `m_impl` works on. -/
  world : World σ
  /-- The connections that were accepted. -/
  accepted : List Sent
  /-- The requests that were handled. -/
  handled : List Request
  /-- The answers, and whether the peer got them. -/
  written : List (Answer × Bool)

/-- A server that was not started. -/
def Server.init (storage : σ) : Server σ :=
  ⟨false, false, .absent, .idle, [], World.start storage, [], [], []⟩

/-- The thread of the loop does not run. -/
def Worker.IsOver : Worker → Prop
  | .absent | .ended => True
  | _ => False

instance : DecidablePred Worker.IsOver
  | .absent | .ended => isTrue True.intro
  | .starting | .looping | .accepting | .reading _ | .handling _ _ | .writing _ _ =>
      isFalse not_false

/-- The acceptor listens. -/
def Worker.Listens : Worker → Prop
  | .absent | .starting | .ended => False
  | _ => True

instance : DecidablePred Worker.Listens
  | .absent | .starting | .ended => isFalse not_false
  | .looping | .accepting | .reading _ | .handling _ _ | .writing _ _ => isTrue True.intro

/-- The loop waits for its peer and for nothing else: for the rest of a request that never comes,
or for the peer to take an answer that it does not take. -/
def Worker.IsStuck : Worker → Prop
  | .reading .never | .writing _ false => True
  | _ => False

/-- A step of one of the parties. -/
inductive Act
  /-- A call of `Start`. -/
  | start
  /-- A call of `Stop`, up to the exchange of `m_running`. -/
  | stop
  | requestStop
  /-- `net::connect`, which throws if it does not succeed; what is thrown is caught. -/
  | connectSelf (ok : Bool)
  | join
  /-- A peer connects. -/
  | connect (sent : Sent)
  /-- The thread opens the acceptor, or throws. -/
  | open (ok : Bool)
  /-- The condition of the loop. -/
  | check
  | accept
  | acceptFails
  | read
  | handle
  | write (ok : Bool)

/-- The thread of the loop returns; the acceptor is closed. -/
def Server.ends (s : Server σ) : Server σ := { s with worker := .ended, queue := [] }

/-- A step of a call of `Start` or `Stop`.  A thread that `Start` replaces is over by then. -/
def Server.call (s : Server σ) (a : Act) : Option (Server σ) :=
  match a, s.caller with
  | .start, .idle =>
      some (if s.running then s
        else { s with running := true, stopRequested := false, worker := .starting })
  | .stop, .idle =>
      some (if s.running then { s with running := false, caller := .requesting } else s)
  -- `Stop` during another call of `Stop`
  | .stop, _ => if s.running then none else some s
  | .requestStop, .requesting => some { s with stopRequested := true, caller := .connecting }
  | .connectSelf ok, .connecting =>
      -- nothing is sent over the connection
      some (if ok ∧ s.worker.Listens then
          { s with queue := s.queue ++ [.nothing], caller := .joining true }
        else { s with caller := .joining false })
  | .join, .joining _ => if s.worker.IsOver then some { s with caller := .idle } else none
  | _, _ => none

/-- A step of the thread of the loop. -/
def Server.work (env : Env σ) (s : Server σ) (a : Act) : Option (Server σ) :=
  match a, s.worker with
  | .open ok, .starting =>
      some (if ok then { s with worker := .looping } else { s.ends with running := false })
  | .check, .looping =>
      some (if s.running ∧ ¬ s.stopRequested then { s with worker := .accepting } else s.ends)
  | .accept, .accepting =>
      match s.queue with
      | [] => none
      | sent :: queue =>
          some { s with queue := queue, worker := .reading sent, accepted := s.accepted ++ [sent] }
  | .acceptFails, .accepting => some { s with worker := .looping }
  | .read, .reading .nothing => some { s with worker := .looping }
  | .read, .reading (.whole request takes) => some { s with worker := .handling request takes }
  | .handle, .handling request takes =>
      let (res, world) := serve env s.world request
      let s' := { s with world := world, handled := s.handled ++ [request] }
      match res with
      | .ok response => some { s' with worker := .writing (finish response) takes }
      | .error _ => some { s'.ends with running := false }
  | .write ok, .writing answer true =>
      some { s with worker := .looping, written := s.written ++ [(answer, ok)] }
  | _, _ => none

/-- The step of a party, if it can be made. -/
def Server.step (env : Env σ) (s : Server σ) : Act → Option (Server σ)
  | .connect sent => if s.worker.Listens then some { s with queue := s.queue ++ [sent] } else none
  | a => (s.call a).or (s.work env a)

/-! ## The steps one by one -/

/-- What a step can be. -/
inductive Server.Steps (env : Env σ) (s : Server σ) : Act → Server σ → Prop
  | startAgain (idle : s.caller = .idle) (running : s.running) : Steps env s .start s
  | start (idle : s.caller = .idle) (stopped : s.running = false) :
      Steps env s .start { s with running := true, stopRequested := false, worker := .starting }
  | stop (idle : s.caller = .idle) (running : s.running) :
      Steps env s .stop { s with running := false, caller := .requesting }
  | stopAgain (stopped : s.running = false) : Steps env s .stop s
  | requestStop (requesting : s.caller = .requesting) :
      Steps env s .requestStop { s with stopRequested := true, caller := .connecting }
  | connected (connecting : s.caller = .connecting) (listens : s.worker.Listens) :
      Steps env s (.connectSelf true)
        { s with queue := s.queue ++ [.nothing], caller := .joining true }
  | unconnected (ok : Bool) (connecting : s.caller = .connecting)
      (failed : ¬ (ok ∧ s.worker.Listens)) :
      Steps env s (.connectSelf ok) { s with caller := .joining false }
  | join (connected : Bool) (joining : s.caller = .joining connected) (isOver : s.worker.IsOver) :
      Steps env s .join { s with caller := .idle }
  | connect (sent : Sent) (listens : s.worker.Listens) :
      Steps env s (.connect sent) { s with queue := s.queue ++ [sent] }
  | opened (starting : s.worker = .starting) :
      Steps env s (.open true) { s with worker := .looping }
  | unopened (starting : s.worker = .starting) :
      Steps env s (.open false) { s.ends with running := false }
  | goOn (looping : s.worker = .looping) (running : s.running) (going : s.stopRequested = false) :
      Steps env s .check { s with worker := .accepting }
  | leave (looping : s.worker = .looping) (stopped : ¬ (s.running ∧ ¬ s.stopRequested)) :
      Steps env s .check s.ends
  | accept (accepting : s.worker = .accepting) (sent : Sent) (queue : List Sent)
      (waits : s.queue = sent :: queue) :
      Steps env s .accept
        { s with queue := queue, worker := .reading sent, accepted := s.accepted ++ [sent] }
  | acceptFails (accepting : s.worker = .accepting) :
      Steps env s .acceptFails { s with worker := .looping }
  | readFails (reading : s.worker = .reading .nothing) :
      Steps env s .read { s with worker := .looping }
  | read (request : Request) (takes : Bool)
      (reading : s.worker = .reading (.whole request takes)) :
      Steps env s .read { s with worker := .handling request takes }
  | handle (request : Request) (takes : Bool) (handling : s.worker = .handling request takes)
      (response : Response) (world : World σ)
      (serves : serve env s.world request = (.ok response, world)) :
      Steps env s .handle
        { s with
          world := world
          handled := s.handled ++ [request]
          worker := .writing (finish response) takes }
  | handleFails (request : Request) (takes : Bool) (handling : s.worker = .handling request takes)
      (err : Exn) (world : World σ) (throws : serve env s.world request = (.error err, world)) :
      Steps env s .handle
        { s.ends with running := false, world := world, handled := s.handled ++ [request] }
  | write (answer : Answer) (writing : s.worker = .writing answer true) (ok : Bool) :
      Steps env s (.write ok)
        { s with worker := .looping, written := s.written ++ [(answer, ok)] }

section Steps

variable {env : Env σ} {s s' : Server σ} {a : Act}

lemma Server.steps_of_call (h : s.call a = some s') : Steps env s a s' := by
  unfold Server.call at h
  split at h
  · rename_i hidle
    obtain rfl := Option.some.inj h
    split_ifs with hrunning
    · exact .startAgain hidle hrunning
    · exact .start hidle (by simpa using hrunning)
  · rename_i hidle
    obtain rfl := Option.some.inj h
    split_ifs with hrunning
    · exact .stop hidle hrunning
    · exact .stopAgain (by simpa using hrunning)
  · split_ifs at h with hrunning
    obtain rfl := Option.some.inj h
    exact .stopAgain (by simpa using hrunning)
  · rename_i hrequesting
    obtain rfl := Option.some.inj h
    exact .requestStop hrequesting
  · rename_i ok hconnecting
    obtain rfl := Option.some.inj h
    split_ifs with hconnected
    · obtain ⟨rfl, hlistens⟩ := hconnected
      exact .connected hconnecting hlistens
    · exact .unconnected ok hconnecting hconnected
  · rename_i connected hjoining
    split_ifs at h with hover
    obtain rfl := Option.some.inj h
    exact .join connected hjoining hover
  · cases h

lemma Server.steps_of_work (h : s.work env a = some s') : Steps env s a s' := by
  unfold Server.work at h
  split at h
  · rename_i ok hstarting
    obtain rfl := Option.some.inj h
    cases ok with
    | true => exact .opened hstarting
    | false => exact .unopened hstarting
  · rename_i hlooping
    obtain rfl := Option.some.inj h
    split_ifs with hgo
    · exact .goOn hlooping hgo.1 (by simpa using hgo.2)
    · exact .leave hlooping hgo
  · rename_i haccepting
    split at h
    · cases h
    · rename_i sent queue hqueue
      obtain rfl := Option.some.inj h
      exact .accept haccepting sent queue hqueue
  · rename_i haccepting
    obtain rfl := Option.some.inj h
    exact .acceptFails haccepting
  · rename_i hreading
    obtain rfl := Option.some.inj h
    exact .readFails hreading
  · rename_i request takes hreading
    obtain rfl := Option.some.inj h
    exact .read request takes hreading
  · rename_i request takes hhandling
    rcases hserve : serve env s.world request with ⟨err | response, world⟩
    · rw [hserve] at h
      obtain rfl := Option.some.inj h
      exact .handleFails request takes hhandling err world hserve
    · rw [hserve] at h
      obtain rfl := Option.some.inj h
      exact .handle request takes hhandling response world hserve
  · rename_i ok answer hwriting
    obtain rfl := Option.some.inj h
    exact .write answer hwriting ok
  · cases h

/-- Every step is one of those. -/
lemma Server.steps_of_step (h : s.step env a = some s') : Steps env s a s' := by
  unfold Server.step at h
  split at h
  · rename_i sent
    split_ifs at h with hlistens
    obtain rfl := Option.some.inj h
    exact .connect sent hlistens
  · rcases hcall : s.call a with _ | t
    · rw [hcall] at h
      exact Server.steps_of_work h
    · rw [hcall] at h
      obtain rfl := Option.some.inj h
      exact Server.steps_of_call hcall

end Steps

/-! ## The two threads -/

/-- How the flag, the two threads and the queue go together: the flag is down while `Stop` is
called, when it is down and nobody is in `Stop` there is no loop, and a loop that `Stop` has
connected to has a connection to accept. -/
structure Server.Orderly (s : Server σ) : Prop where
  idle : s.caller = .idle → s.running = false → s.worker.IsOver
  busy : s.caller ≠ .idle → s.running = false
  connected : s.caller = .joining true → s.worker = .accepting → s.queue ≠ []

section Orderly

variable {env : Env σ} {s s' : Server σ} {a : Act}

lemma Server.Orderly.step (h : s.Orderly) (hstep : Steps env s a s') : s'.Orderly := by
  obtain ⟨hidle, hbusy, hconnected⟩ := h
  -- a loop that goes on has the flag up while nobody is in `Stop`
  have hgoes : ∀ {worker}, s.worker = worker → ¬ worker.IsOver → ∀ {P : Prop},
      s.caller = .idle → s.running = false → P := fun hat hnot _ hcaller hstopped =>
    absurd (hat ▸ hidle hcaller hstopped) hnot
  cases hstep with
  | startAgain | stopAgain => exact ⟨hidle, hbusy, hconnected⟩
  | start hcaller => exact ⟨by simp, fun hne => absurd hcaller hne, by simp [hcaller]⟩
  | stop => exact ⟨by simp, by simp, by simp⟩
  | requestStop hrequesting => exact ⟨by simp, by simp [hbusy, hrequesting], by simp⟩
  | connected hconnecting => exact ⟨by simp, by simp [hbusy, hconnecting], by simp⟩
  | unconnected ok hconnecting => exact ⟨by simp, by simp [hbusy, hconnecting], by simp⟩
  | join connected hjoining hover => exact ⟨fun _ _ => hover, by simp, by simp⟩
  | connect => exact ⟨hidle, hbusy, by simp⟩
  | unopened | handleFails =>
    exact ⟨fun _ _ => True.intro, fun _ => rfl, by simp [Server.ends]⟩
  | leave => exact ⟨fun _ _ => True.intro, hbusy, by simp [Server.ends]⟩
  | opened hat | acceptFails hat | readFails hat | read _ _ hat | handle _ _ hat | write _ hat =>
    exact ⟨hgoes hat not_false, hbusy, by simp⟩
  | accept hat => exact ⟨hgoes hat not_false, hbusy, by simp⟩
  | goOn hat hrunning =>
    refine ⟨hgoes hat not_false, hbusy, fun hjoining _ => ?_⟩
    have hstopped := hbusy (by simp [show s.caller = .joining true from hjoining])
    exact absurd (hstopped.symm.trans hrunning) (by simp)

end Orderly

/-! ## What is handled and answered -/

/-- The request that was accepted and is not handled yet. -/
def Worker.requests : Worker → List Request
  | .reading (.whole request _) | .handling request _ => [request]
  | _ => []

/-- The answer that is not written yet. -/
def Worker.answers : Worker → List Answer
  | .writing answer _ => [answer]
  | _ => []

lemma Worker.IsOver.requests {worker : Worker} (h : worker.IsOver) : worker.requests = [] := by
  cases worker with
  | absent | ended => rfl
  | starting | looping | accepting | reading | handling | writing => exact h.elim

lemma Worker.IsOver.answers {worker : Worker} (h : worker.IsOver) : worker.answers = [] := by
  cases worker with
  | absent | ended => rfl
  | starting | looping | accepting | reading | handling | writing => exact h.elim

/-- The requests of the connections were handled in the order in which the connections were
accepted, each once, and each was answered as the service answers this sequence of requests. -/
structure Server.Serializes (env : Env σ) (storage : σ) (s : Server σ) : Prop where
  world : s.world = after env storage s.handled
  requests : s.accepted.filterMap Sent.asked = s.handled ++ s.worker.requests
  answers : (history env storage s.handled).map Prod.snd =
    (s.written.map Prod.fst ++ s.worker.answers).map fun answer => .ok answer.response
  finished : ∀ answer ∈ s.written.map Prod.fst ++ s.worker.answers,
    answer = finish answer.response

section Serializes

variable {env : Env σ} {storage : σ} {s s' : Server σ} {a : Act}

/-- A step that handles and answers nothing. -/
lemma Server.Serializes.keep (h : s.Serializes env storage) (hworld : s'.world = s.world)
    (hhandled : s'.handled = s.handled) (hwritten : s'.written = s.written)
    (haccepted : s'.accepted = s.accepted) (hrequests : s'.worker.requests = s.worker.requests)
    (hanswers : s'.worker.answers = s.worker.answers) : s'.Serializes env storage := by
  obtain ⟨h₁, h₂, h₃, h₄⟩ := h
  constructor
  · rw [hworld, hhandled, h₁]
  · rw [haccepted, hhandled, hrequests, h₂]
  · rw [hhandled, hwritten, hanswers, h₃]
  · rw [hwritten, hanswers]
    exact h₄

lemma Server.Serializes.step (h : s.Serializes env storage) (horderly : s.Orderly)
    (hstep : Steps env s a s') : s'.Serializes env storage := by
  cases hstep with
  | startAgain | stopAgain => exact h
  | stop | requestStop | connected | unconnected | join | connect =>
    exact h.keep rfl rfl rfl rfl rfl rfl
  | start hidle hstopped =>
    -- the loop that is replaced has nothing in hand
    have hover := horderly.idle hidle hstopped
    exact h.keep rfl rfl rfl rfl hover.requests.symm hover.answers.symm
  | opened hat | unopened hat | goOn hat | leave hat | acceptFails hat | readFails hat
  | read _ _ hat =>
    refine h.keep rfl rfl rfl rfl ?_ ?_
    · rw [hat]
      rfl
    · rw [hat]
      rfl
  | accept hat sent queue =>
    obtain ⟨h₁, h₂, h₃, h₄⟩ := h
    rw [hat] at h₂ h₃ h₄
    refine ⟨h₁, ?_, h₃, h₄⟩
    rw [List.filterMap_append, h₂]
    cases sent <;> simp [Worker.requests, Sent.asked]
  | handle request takes hat response world hserve =>
    obtain ⟨h₁, h₂, h₃, h₄⟩ := h
    rw [hat] at h₂ h₃ h₄
    rw [h₁] at hserve
    have hnil : (Worker.handling request takes).answers = [] := rfl
    rw [hnil, List.append_nil] at h₃ h₄
    refine ⟨?_, ?_, ?_, ?_⟩
    · rw [after, Mealy.run_concat, hserve]
    · simpa [Worker.requests] using h₂
    · rw [history, Mealy.trace_concat, List.map_append, List.map_append, h₃, hserve]
      rfl
    · intro answer hanswer
      rcases List.mem_append.mp hanswer with hanswer | hanswer
      · exact h₄ answer hanswer
      · obtain rfl := List.mem_singleton.mp hanswer
        rfl
  | handleFails request takes hat err world hthrows =>
    -- the service catches every exception
    obtain ⟨response, w', hserve, -⟩ :=
      serve_effect env (after_valid env storage s.handled) request
    rw [h.world, hserve] at hthrows
    cases hthrows
  | write answer hat ok =>
    obtain ⟨h₁, h₂, h₃, h₄⟩ := h
    rw [hat] at h₂ h₃ h₄
    refine ⟨h₁, h₂, ?_, ?_⟩
    · simpa [Worker.answers] using h₃
    · simpa [Worker.answers] using h₄

/-- What holds of a server in every state that it gets to. -/
structure Server.Sound (env : Env σ) (storage : σ) (s : Server σ) : Prop where
  orderly : s.Orderly
  serializes : s.Serializes env storage

lemma Server.sound_init (env : Env σ) (storage : σ) : (Server.init storage).Sound env storage where
  orderly := ⟨fun _ _ => True.intro, fun h => absurd rfl h, by simp [Server.init]⟩
  serializes := ⟨rfl, rfl, rfl, by simp [Server.init, Worker.answers]⟩

lemma Server.sound_run {acts : List Act}
    (hrun : run (Server.step env) (Server.init storage) acts = some s) : s.Sound env storage := by
  have hall : ∀ b ∈ acts, True := fun _ _ => True.intro
  refine Transitions.invariant_run (fun t b t' ht _ hstep => ?_) (Server.sound_init env storage)
    hall hrun
  have hsteps := Server.steps_of_step hstep
  exact ⟨ht.orderly.step hsteps, ht.serializes.step ht.orderly hsteps⟩

end Serializes

/-- Whatever the order of the steps of the peers, the loop and the calls of `Start` and `Stop`, the
requests of the accepted connections are handled one after another in the order of the connections,
each once; what the server works on is what the service leaves after them, and the answers are
those of the service with the fields that the loop sets.  A loop that `Start` creates is the only
one. -/
theorem server_serializes (env : Env σ) (storage : σ) (acts : List Act) (s : Server σ)
    (hrun : run (Server.step env) (Server.init storage) acts = some s) :
    s.Serializes env storage ∧ (s.caller = .idle → s.running = false → s.worker.IsOver) :=
  ⟨(Server.sound_run hrun).serializes, (Server.sound_run hrun).orderly.idle⟩

/-- A peer connects, and the server is stopped before the connection is accepted. -/
def shutdownRun : List Act :=
  [.start, .open true, .check] ++ aliceRun.map (fun request => .connect (.whole request true)) ++
    [.stop, .requestStop, .connectSelf true, .accept, .read, .handle, .write true, .check, .join]

/-- The request is handled, once, and the loop is over. -/
theorem server_serializes_shutdown :
    ∃ s, run (Server.step (Env.standalone .migrations)) (Server.init ()) shutdownRun = some s ∧
      s.Serializes (Env.standalone .migrations) () ∧ s.worker.IsOver ∧ s.handled.length = 1 := by
  have hseen : (run (Server.step (Env.standalone .migrations)) (Server.init ()) shutdownRun).map
      (fun s => (s.running, s.caller, s.handled.length)) = some (false, .idle, 1) := by
    decide +kernel
  obtain ⟨s, hrun, hs⟩ := Option.map_eq_some_iff.mp hseen
  obtain ⟨hstopped, hs⟩ := Prod.mk.inj hs
  obtain ⟨hcaller, hhandled⟩ := Prod.mk.inj hs
  obtain ⟨hserializes, hover⟩ :=
    server_serializes (Env.standalone .migrations) () shutdownRun s hrun
  exact ⟨s, hrun, hserializes, hover hcaller hstopped, hhandled⟩

/-! ## Stopping -/

/-- The requests that a loop may still handle when the flag is down. -/
def Worker.left : Worker → ℕ
  | .accepting | .reading _ | .handling _ _ => 1
  | _ => 0

/-- The connections that a loop may still accept when the flag is down. -/
def Worker.leftToAccept : Worker → ℕ
  | .accepting => 1
  | _ => 0

/-- The steps that a loop may still make when the flag is down. -/
def Worker.stepsLeft : Worker → ℕ
  | .absent | .ended => 0
  | .looping => 1
  | .starting | .writing _ _ => 2
  | .handling _ _ => 3
  | .reading _ => 4
  | .accepting => 5

/-- The steps that a call of `Stop` may still make. -/
def Caller.stepsLeft : Caller → ℕ
  | .idle => 0
  | .joining _ => 1
  | .connecting => 2
  | .requesting => 3

/-- The steps that are left with the flag down. -/
def Server.stepsLeft (s : Server σ) : ℕ := s.worker.stepsLeft + s.caller.stepsLeft

/-- What the service does itself: a peer does not, nor the system that refuses a connection. -/
def Act.isOwn : Act → Bool
  | .start | .stop | .connect _ | .acceptFails => false
  | _ => true

section Stopping

variable {env : Env σ} {storage : σ} {s s' : Server σ} {a : Act}

/-- What a server with the flag down may get to: no more is handled and accepted than the loop
may still take. -/
structure Server.DrainsTo (s s' : Server σ) : Prop where
  stopped : s'.running = false
  handled : s'.handled.length + s'.worker.left ≤ s.handled.length + s.worker.left
  accepted : s'.accepted.length + s'.worker.leftToAccept ≤
    s.accepted.length + s.worker.leftToAccept

/-- With the flag down, a step other than a call of `Start` uses up what is left. -/
lemma Server.drains_step (hstopped : s.running = false) (ha : a ≠ .start)
    (hstep : Steps env s a s') :
    s.DrainsTo s' ∧ s'.stepsLeft + (if a.isOwn then 1 else 0) ≤ s.stepsLeft := by
  cases hstep with
  | startAgain | start => exact absurd rfl ha
  | stop _ hrunning => exact absurd (hstopped.symm.trans hrunning) (by simp)
  | stopAgain => exact ⟨⟨hstopped, le_rfl, le_rfl⟩, by simp [Act.isOwn]⟩
  | requestStop hat | connected hat | unconnected _ hat | join _ hat =>
    refine ⟨⟨hstopped, le_rfl, le_rfl⟩, ?_⟩
    simp [hat, Server.stepsLeft, Caller.stepsLeft, Act.isOwn]
  | connect => exact ⟨⟨hstopped, le_rfl, le_rfl⟩, by simp [Server.stepsLeft, Act.isOwn]⟩
  | goOn _ hrunning => exact absurd (hstopped.symm.trans hrunning) (by simp)
  | unopened hat | handleFails _ _ hat =>
    refine ⟨⟨rfl, ?_, ?_⟩, ?_⟩ <;>
      simp +arith [hat, Server.ends, Worker.left, Worker.leftToAccept, Server.stepsLeft,
        Worker.stepsLeft, Act.isOwn]
  | opened hat | leave hat | accept hat | acceptFails hat | readFails hat | read _ _ hat
  | handle _ _ hat | write _ hat =>
    refine ⟨⟨hstopped, ?_, ?_⟩, ?_⟩ <;>
      simp +arith [hat, Server.ends, Worker.left, Worker.leftToAccept, Server.stepsLeft,
        Worker.stepsLeft, Act.isOwn]

lemma Server.DrainsTo.trans {t : Server σ} (h : s.DrainsTo t) (h' : t.DrainsTo s') :
    s.DrainsTo s' :=
  ⟨h'.stopped, h'.handled.trans h.handled, h'.accepted.trans h.accepted⟩

lemma Worker.IsStuck.not_isOver {worker : Worker} (h : worker.IsStuck) : ¬ worker.IsOver := by
  cases worker with
  | absent | ended => exact h.elim
  | starting | looping | accepting | reading | handling | writing => exact not_false

lemma Worker.left_le (worker : Worker) : worker.left ≤ 1 := by
  cases worker <;> simp [Worker.left]

lemma Worker.leftToAccept_le (worker : Worker) : worker.leftToAccept ≤ 1 := by
  cases worker <;> simp [Worker.leftToAccept]

lemma Server.stepsLeft_le (s : Server σ) : s.stepsLeft ≤ 8 := by
  have hworker : s.worker.stepsLeft ≤ 5 := by
    cases s.worker <;> simp [Worker.stepsLeft]
  have hcaller : s.caller.stepsLeft ≤ 3 := by
    cases s.caller <;> simp [Caller.stepsLeft]
  exact Nat.add_le_add hworker hcaller

end Stopping

/-- From when the flag is down, a loop handles at most one more request and accepts at most one
more connection, and the service makes at most eight steps, until `Start` is called again; calls of
`Stop` find the flag down. -/
theorem stop_drains (env : Env σ) (s s' : Server σ) (hstopped : s.running = false)
    (acts : List Act) (hcalls : ∀ a ∈ acts, a ≠ .start)
    (hrun : run (Server.step env) s acts = some s') :
    s'.running = false ∧ s'.handled.length ≤ s.handled.length + 1 ∧
      s'.accepted.length ≤ s.accepted.length + 1 ∧ acts.countP Act.isOwn ≤ 8 := by
  have hstart : s.DrainsTo s := ⟨hstopped, le_rfl, le_rfl⟩
  have hdrains : s.DrainsTo s' := by
    refine Transitions.invariant_run (fun t a t' ht ha hstep => ?_) hstart hcalls hrun
    exact ht.trans (Server.drains_step ht.stopped ha (Server.steps_of_step hstep)).1
  have hsteps : s'.stepsLeft + acts.countP Act.isOwn ≤ s.stepsLeft := by
    refine Transitions.countP_le_potential (fun t a t' ht ha hstep => ?_) hstart hcalls hrun
    obtain ⟨hnext, hle⟩ := Server.drains_step ht.stopped ha (Server.steps_of_step hstep)
    exact ⟨ht.trans hnext, hle⟩
  have hleft := s.worker.left_le
  have hleftToAccept := s.worker.leftToAccept_le
  have hmost := s.stepsLeft_le
  have hhandled := hdrains.handled
  have haccepted := hdrains.accepted
  exact ⟨hdrains.stopped, by omega, by omega, by omega⟩

/-- `Stop` has put the flag down while a connection waits. -/
def stoppingServer : Server Unit :=
  { Server.init () with
    worker := .accepting
    caller := .requesting
    queue := aliceRun.map (.whole · true) }

/-- The rest of the call of `Stop`, and another call of it on the way. -/
def stoppingRun : List Act :=
  [.requestStop, .connectSelf true, .accept, .read, .stop, .handle, .write true, .check, .join]

/-- The connection is accepted and its request handled, and no other. -/
theorem stop_drains_waiting :
    ∃ s, run (Server.step (Env.standalone .migrations)) stoppingServer stoppingRun = some s ∧
      s.handled.length ≤ 1 := by
  have hdone : (run (Server.step (Env.standalone .migrations)) stoppingServer
      stoppingRun).isSome := by decide +kernel
  obtain ⟨s, hrun⟩ := Option.isSome_iff_exists.mp hdone
  exact ⟨s, hrun, (stop_drains (Env.standalone .migrations) stoppingServer s rfl stoppingRun
    (by simp [stoppingRun]) hrun).2.1⟩

/-- The loop waits for the peer that it waits for in `s`, and has done so far what `s` has done. -/
structure Server.Hangs (s s' : Server σ) : Prop where
  worker : s'.worker = s.worker
  stays : s.caller ≠ .idle → s'.caller ≠ .idle
  flag : s'.caller = .idle → s'.running
  world : s'.world = s.world
  accepted : s'.accepted = s.accepted
  handled : s'.handled = s.handled
  written : s'.written = s.written
  queue : s.queue <+: s'.queue

section Hanging

variable {env : Env σ} {s s' t : Server σ} {a : Act}

lemma Server.Hangs.step (hstuck : s.worker.IsStuck) (h : s.Hangs t) (hstep : Steps env t a s') :
    s.Hangs s' := by
  obtain ⟨hworker, hstays, hflag, hworld, haccepted, hhandled, hwritten, hqueue⟩ := h
  have hat : t.worker.IsStuck := hworker ▸ hstuck
  cases hstep with
  | startAgain | stopAgain =>
    exact ⟨hworker, hstays, hflag, hworld, haccepted, hhandled, hwritten, hqueue⟩
  | start hidle hstopped => exact absurd ((hflag hidle).symm.trans hstopped) (by simp)
  | stop | requestStop | unconnected =>
    exact ⟨hworker, by simp, by simp, hworld, haccepted, hhandled, hwritten, hqueue⟩
  | connected =>
    exact ⟨hworker, by simp, by simp, hworld, haccepted, hhandled, hwritten,
      hqueue.trans (List.prefix_append _ _)⟩
  | join connected hjoining hover => exact absurd hover hat.not_isOver
  | connect =>
    exact ⟨hworker, hstays, hflag, hworld, haccepted, hhandled, hwritten,
      hqueue.trans (List.prefix_append _ _)⟩
  | opened hnext | unopened hnext | goOn hnext | leave hnext | accept hnext | acceptFails hnext
  | readFails hnext | read _ _ hnext | handle _ _ hnext | handleFails _ _ hnext
  | write _ hnext =>
    rw [hnext] at hat
    exact hat.elim

end Hanging

/-- Once the loop reads from a peer that never sends a whole request, or writes to one that does not
take the answer, nothing more is accepted, handled or answered, whatever the peers and the callers
do: the connections that wait go on waiting, and the call of `Stop` that takes the flag down does
not return. -/
theorem silent_peer_hangs (env : Env σ) (storage : σ) (acts more : List Act) (s s' : Server σ)
    (hrun : run (Server.step env) (Server.init storage) acts = some s)
    (hstuck : s.worker.IsStuck) (hmore : run (Server.step env) s more = some s') :
    s.Hangs s' := by
  have horderly := (Server.sound_run hrun).orderly
  have hflag : s.caller = .idle → s.running := fun hidle => by
    by_contra hdown
    have hover := horderly.idle hidle (by simpa using hdown)
    exact hstuck.not_isOver hover
  have hstart : s.Hangs s := ⟨rfl, id, hflag, rfl, rfl, rfl, rfl, List.prefix_rfl⟩
  have hall : ∀ a ∈ more, True := fun _ _ => True.intro
  exact Transitions.invariant_run
    (fun t a t' ht _ hstep => ht.step hstuck (Server.steps_of_step hstep)) hstart hall hmore

/-- A peer connects and sends nothing; another one, with a request, connects after it. -/
def silentRun : List Act := [.start, .open true, .check, .connect .never, .accept]

/-- The second peer waits, and the first call of `Stop` is not over; the second is. -/
theorem silent_peer_hangs_stop :
    ∃ s s' : Server Unit,
      run (Server.step (Env.standalone .migrations)) (Server.init ()) silentRun = some s ∧
      run (Server.step (Env.standalone .migrations)) s
        (aliceRun.map (fun request => .connect (.whole request true)) ++
          [.stop, .requestStop, .connectSelf true, .stop]) = some s' ∧
      s.Hangs s' ∧ s'.caller ≠ .idle ∧ s'.handled = [] := by
  refine ⟨_, _, rfl, rfl, ?_, by decide +kernel, rfl⟩
  exact silent_peer_hangs (Env.standalone .migrations) () silentRun
    (aliceRun.map (fun request => .connect (.whole request true)) ++
      [.stop, .requestStop, .connectSelf true, .stop]) _ _ rfl True.intro rfl

/-! ## A server that nobody stops -/

/-- `Stop` is called, or the acceptor cannot be opened. -/
def Act.Stops : Act → Prop
  | .stop | .open false => True
  | _ => False

/-- The loop that was started runs, and nobody stops it. -/
structure Server.IsUp (env : Env σ) (storage : σ) (s : Server σ) : Prop where
  sound : s.Sound env storage
  caller : s.caller = .idle
  running : s.worker ≠ .absent → s.running
  going : s.worker ≠ .absent → s.stopRequested = false
  alive : s.worker ≠ .ended

section Up

variable {env : Env σ} {storage : σ} {s s' : Server σ} {a : Act}

lemma Server.IsUp.step (h : s.IsUp env storage) (ha : ¬ a.Stops) (hstep : Steps env s a s') :
    s'.IsUp env storage := by
  obtain ⟨⟨horderly, hserializes⟩, hcaller, hrunning, hgoing, halive⟩ := h
  have hsound : s'.Sound env storage :=
    ⟨horderly.step hstep, hserializes.step horderly hstep⟩
  have hat : ∀ {worker}, s.worker = worker → worker ≠ .absent → s.worker ≠ .absent :=
    fun hat hne habsent => hne (hat.symm.trans habsent)
  cases hstep with
  | startAgain => exact ⟨hsound, hcaller, hrunning, hgoing, halive⟩
  | start => exact ⟨hsound, hcaller, fun _ => rfl, fun _ => rfl, by simp⟩
  | stop | stopAgain | unopened => exact absurd True.intro ha
  | requestStop hbusy | connected hbusy | unconnected _ hbusy | join _ hbusy =>
    exact absurd (hcaller.symm.trans hbusy) (by simp)
  | connect => exact ⟨hsound, hcaller, hrunning, hgoing, halive⟩
  | leave hlooping hstopped =>
    have habsent := hat hlooping (by simp)
    exact absurd ⟨hrunning habsent, by simp [hgoing habsent]⟩ hstopped
  | handleFails request _ hhandling err world hthrows =>
    -- the service catches every exception
    obtain ⟨response, w', hserve, -⟩ :=
      serve_effect env (after_valid env storage s.handled) request
    rw [hserializes.world, hserve] at hthrows
    cases hthrows
  | opened hworker | goOn hworker | accept hworker | acceptFails hworker | readFails hworker
  | read _ _ hworker | handle _ _ hworker | write _ hworker =>
    have habsent := hat hworker (by simp)
    exact ⟨hsound, hcaller, fun _ => hrunning habsent, fun _ => hgoing habsent, by simp⟩

end Up

end ProfileService
