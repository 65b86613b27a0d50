import ZeldaServer.World.Logins
import ZeldaServer.World.Tours

/-! The jobs of a session in the order of its packets: a journal numbers the packets of each
session as they arrive, and keeps with every job the visit of its room it was pushed in. -/

namespace ZeldaServer

open Rounds (Tour Mail)

variable (data : GameData)

/-- A job in a queue: the packet it was pushed for, and the number of visits that its room
had had when it was pushed, the one under way included. -/
structure Ticket where
  job : Job
  packet : Option (SessionId × Nat)
  visit : Nat
  deriving DecidableEq

structure Journal where
  /-- The jobs of a session's packets, in the order the packets arrived. -/
  arrived : SessionId → List Job
  jobs : RoomRef → List Ticket
  batch : RoomRef → List Ticket
  visits : RoomRef → Nat
  tour : Tour RoomRef
  /-- The jobs that were run, with the visit they were run in. -/
  executed : List (Ticket × Nat)

namespace Journal

def blank : Journal := ⟨fun _ => [], fun _ => [], fun _ => [], fun _ => 0, .start, []⟩

def startVisit (j : Journal) (r : RoomRef) : Journal :=
  { j with
    batch := Function.update j.batch r (j.batch r ++ j.jobs r)
    jobs := Function.update j.jobs r []
    visits := Function.update j.visits r (j.visits r + 1) }

def popJob (j : Journal) (r : RoomRef) : Journal :=
  match j.batch r with
  | [] => j
  | ticket :: rest =>
      { j with
        batch := Function.update j.batch r rest
        executed := j.executed ++ [(ticket, j.visits r)] }

def push (j : Journal) (a : Routing) (packet : Option (SessionId × Nat)) : Journal :=
  { j with
    jobs := fun r =>
      j.jobs r ++ ((a.rooms r).jobs.drop (j.jobs r).length).map fun job =>
        ⟨job, packet, j.visits r⟩ }

def arrive (j : Journal) (s : SessionId) (job : Job) : Journal :=
  { j with arrived := Function.update j.arrived s (j.arrived s ++ [job]) }

end Journal

def Event.arrival : Event → Option (SessionId × Job)
  | .packet s pkt => (pkt.job s).map fun job => (s, job)
  | _ => none

/-- The job that is run leaves its batch, and the queue of the room that is visited becomes
its batch. -/
def Journal.turn (w : World) (e : Event) (next : World) (j : Journal) : Journal :=
  match e, w.routing.nextJob with
  | .job _, some (r, _, _) => j.popJob r
  | _, _ =>
      match beginsVisit w.routing next.routing with
      | some r => j.startVisit r
      | none => j

def Journal.record (w : World) (e : Event) (next : World) (j : Journal) : Journal :=
  let turned := { j.turn w e next with tour := goRound w.routing next.routing j.tour }
  match e.arrival with
  | some (s, job) => (turned.arrive s job).push next.routing (some (s, (j.arrived s).length))
  | none => turned.push next.routing none

def Ticket.number (s : SessionId) (ticket : Ticket) : Option Nat :=
  match ticket.packet with
  | some (s', n) => if s' = s then some n else none
  | none => none

namespace Journal

/-- The numbers of a session's packets whose jobs were run, in the order they were. -/
def order (j : Journal) (s : SessionId) : List Nat :=
  j.executed.filterMap fun run => run.1.number s

def mail (j : Journal) (a : Routing) (s : SessionId) : Mail RoomRef where
  home := (a.sessions s).gameRoom
  waits := fun r => (j.jobs r).filterMap (Ticket.number s)
  runs := fun r => (j.batch r).filterMap (Ticket.number s)
  ran := j.order s

/-- The number of a ticket is the place of its packet among those that arrived. -/
def Filed (j : Journal) (ticket : Ticket) : Prop :=
  ∀ s n, ticket.packet = some (s, n) → (j.arrived s)[n]? = some ticket.job

/-- The journal has the jobs of the queues; a job is run in a later visit than the one it was
pushed in. -/
structure Synced (j : Journal) (a : Routing) : Prop where
  jobs : ∀ r, (j.jobs r).map (·.job) = (a.rooms r).jobs
  batch : ∀ r, (j.batch r).map (·.job) = (a.rooms r).batch

structure Sound (j : Journal) : Prop where
  jobs : ∀ r, ∀ ticket ∈ j.jobs r, ticket.visit ≤ j.visits r ∧ j.Filed ticket
  batch : ∀ r, ∀ ticket ∈ j.batch r, ticket.visit < j.visits r ∧ j.Filed ticket
  executed : ∀ run ∈ j.executed, run.1.visit < run.2 ∧ j.Filed run.1

structure Grown (j : Journal) (a : Routing) (news : RoomRef → List Job) : Prop where
  jobs : ∀ r, (a.rooms r).jobs = (j.jobs r).map (·.job) ++ news r
  batch : ∀ r, (a.rooms r).batch = (j.batch r).map (·.job)

theorem Synced.grown {j : Journal} {a b : Routing} (synced : j.Synced a)
    (news : RoomRef → List Job) (jobs : ∀ r, (b.rooms r).jobs = (a.rooms r).jobs ++ news r)
    (batch : ∀ r, (b.rooms r).batch = (a.rooms r).batch) : j.Grown b news where
  jobs := fun r => by rw [jobs, synced.jobs]
  batch := fun r => by rw [batch, synced.batch]

section Push

variable {j : Journal} {a : Routing} {news : RoomRef → List Job}

theorem push_jobs (grown : j.Grown a news) (packet : Option (SessionId × Nat)) (r : RoomRef) :
    (j.push a packet).jobs r =
      j.jobs r ++ (news r).map fun job => ⟨job, packet, j.visits r⟩ := by
  have length : (j.jobs r).length = ((j.jobs r).map (·.job)).length := (List.length_map _).symm
  simp only [push, grown.jobs r, length, List.drop_left]

theorem push_synced (grown : j.Grown a news) (packet : Option (SessionId × Nat)) :
    (j.push a packet).Synced a where
  jobs := by
    intro r
    rw [push_jobs grown, List.map_append, List.map_map, grown.jobs]
    exact congrArg _ (List.map_id (news r))
  batch := fun r => (grown.batch r).symm

theorem push_sound (grown : j.Grown a news) (packet : Option (SessionId × Nat)) (sound : j.Sound)
    (filed : ∀ r, ∀ job ∈ news r, ∀ s n, packet = some (s, n) → (j.arrived s)[n]? = some job) :
    (j.push a packet).Sound where
  jobs := by
    intro r ticket member
    rw [push_jobs grown] at member
    rcases List.mem_append.mp member with before | new
    · exact sound.jobs r ticket before
    · obtain ⟨job, pushed, rfl⟩ := List.mem_map.mp new
      exact ⟨Nat.le_refl _, filed r job pushed⟩
  batch := sound.batch
  executed := sound.executed

theorem push_mail_none (grown : j.Grown a news) (b : Routing) (s : SessionId) :
    (j.push a none).mail b s = j.mail b s := by
  apply Mail.ext
  · rfl
  · funext r
    simp only [mail]
    rw [push_jobs grown, List.filterMap_append, List.filterMap_map]
    have unnumbered : Ticket.number s ∘ (fun job => (⟨job, none, j.visits r⟩ : Ticket)) =
        fun _ => none := rfl
    rw [unnumbered]
    simp
  · rfl
  · rfl

theorem push_mail_some (b : Routing) (r : RoomRef) (job : Job) (s s' : SessionId) (n : Nat)
    (grown : j.Grown a fun r' => if r' = r then [job] else []) :
    (j.push a (some (s', n))).mail b s =
      if s = s' then (j.mail b s).post r n else j.mail b s := by
  have waits (r' : RoomRef) : ((j.push a (some (s', n))).jobs r').filterMap (Ticket.number s) =
      (j.jobs r').filterMap (Ticket.number s) ++ if r' = r ∧ s' = s then [n] else [] := by
    rw [push_jobs grown, List.filterMap_append]
    by_cases here : r' = r
    · by_cases own : s' = s
      · simp [here, own, Ticket.number]
      · simp [here, own, Ticket.number]
    · simp [here]
  split
  case isTrue own =>
    subst own
    apply Mail.ext
    · rfl
    · funext r'
      simp only [mail, Mail.post, Function.update_apply]
      rw [waits]
      by_cases here : r' = r
      · rw [if_pos ⟨here, rfl⟩, if_pos here, here]
      · rw [if_neg fun both => here both.1, if_neg here, List.append_nil]
    · rfl
    · rfl
  case isFalse other =>
    apply Mail.ext
    · rfl
    · funext r'
      have apart : ¬ (r' = r ∧ s' = s) := fun both => other both.2.symm
      simp only [mail]
      rw [waits, if_neg apart, List.append_nil]
    · rfl
    · rfl

end Push

/-! A visit begins. -/

section StartVisit

variable (j : Journal) (r : RoomRef)

theorem startVisit_mail (a b : Routing) (s : SessionId)
    (gameRoom : (b.sessions s).gameRoom = (a.sessions s).gameRoom) :
    (j.startVisit r).mail b s = (j.mail a s).collect r := by
  apply Mail.ext
  · exact gameRoom
  · funext r'
    simp only [mail, startVisit, Mail.collect, Function.update_apply]
    split
    · rfl
    · rfl
  · funext r'
    simp only [mail, startVisit, Mail.collect, Function.update_apply]
    split
    · exact List.filterMap_append
    · rfl
  · rfl

theorem startVisit_sound (sound : j.Sound) : (j.startVisit r).Sound where
  jobs := by
    intro r' ticket member
    simp only [startVisit, Function.update_apply] at member ⊢
    split at member
    · cases member
    case isFalse away =>
      rw [if_neg away]
      exact sound.jobs r' ticket member
  batch := by
    intro r' ticket member
    simp only [startVisit, Function.update_apply] at member ⊢
    split at member
    case isTrue here =>
      rw [if_pos here]
      rcases List.mem_append.mp member with before | new
      · exact ⟨Nat.lt_succ_of_lt (sound.batch r ticket before).1, (sound.batch r ticket before).2⟩
      · exact ⟨Nat.lt_succ_of_le (sound.jobs r ticket new).1, (sound.jobs r ticket new).2⟩
    case isFalse away =>
      rw [if_neg away]
      exact sound.batch r' ticket member
  executed := sound.executed

theorem startVisit_grown (a : Routing) (pass : Pass) (synced : j.Synced a) :
    (j.startVisit r).Grown (a.startVisit pass r) fun _ => [] where
  jobs := by
    intro r'
    simp only [startVisit, Routing.startVisit, Routing.setPass, Routing.rooms_setRoom,
      Function.update_apply]
    split
    · rfl
    · rw [List.append_nil, synced.jobs]
  batch := by
    intro r'
    simp only [startVisit, Routing.startVisit, Routing.setPass, Routing.rooms_setRoom,
      Function.update_apply]
    split
    · rw [List.map_append, synced.jobs, synced.batch]
    · rw [synced.batch]

end StartVisit

/-! A job is run. -/

section PopJob

variable {j : Journal} {r : RoomRef} {ticket : Ticket} {rest : List Ticket}

theorem popJob_eq (front : j.batch r = ticket :: rest) :
    j.popJob r =
      { j with
        batch := Function.update j.batch r rest
        executed := j.executed ++ [(ticket, j.visits r)] } := by
  simp only [popJob, front]

theorem popJob_sound (sound : j.Sound) (front : j.batch r = ticket :: rest) :
    (j.popJob r).Sound := by
  rw [popJob_eq front]
  constructor
  · exact sound.jobs
  · intro r' other member
    simp only [Function.update_apply] at member
    split at member
    case isTrue here =>
      apply sound.batch r' other
      rw [here, front]
      exact List.mem_cons_of_mem ticket member
    case isFalse => exact sound.batch r' other member
  · intro run member
    rcases List.mem_append.mp member with before | new
    · exact sound.executed run before
    · rw [List.mem_singleton.mp new]
      apply sound.batch r ticket
      rw [front]
      exact List.mem_cons_self

theorem popJob_mail (front : j.batch r = ticket :: rest) (a : Routing) (s : SessionId) :
    (j.popJob r).mail a s =
      match ticket.number s with
      | none => j.mail a s
      | some n => (j.mail a s).serve r n (rest.filterMap (Ticket.number s)) := by
  rw [popJob_eq front]
  cases numbered : ticket.number s with
  | none =>
      apply Mail.ext
      · rfl
      · rfl
      · funext r'
        simp only [mail, Function.update_apply]
        split
        case isTrue here => rw [here, front, List.filterMap_cons_none numbered]
        case isFalse => rfl
      · simp [mail, order, numbered]
  | some n =>
      apply Mail.ext
      · rfl
      · rfl
      · funext r'
        simp only [mail, Mail.serve, Function.update_apply]
        split
        · rfl
        · rfl
      · simp [mail, order, Mail.serve, numbered]

theorem popJob_grown (a : Routing) (b : Routing) (job : Job) (jobs : List Job)
    (news : RoomRef → List Job) (synced : j.Synced a) (batch : (a.rooms r).batch = job :: jobs)
    (front : j.batch r = ticket :: rest)
    (jobs' : ∀ r', (b.rooms r').jobs = (a.rooms r').jobs ++ news r')
    (batch' : ∀ r', (b.rooms r').batch = if r' = r then jobs else (a.rooms r').batch) :
    (j.popJob r).Grown b news := by
  have tail : rest.map (·.job) = jobs := by
    have same := synced.batch r
    rw [front, batch] at same
    exact (List.cons.inj same).2
  rw [popJob_eq front]
  constructor
  · intro r'
    rw [jobs', synced.jobs]
  · intro r'
    rw [batch']
    simp only [Function.update_apply]
    split
    · exact tail.symm
    · exact (synced.batch r').symm

end PopJob

theorem record_tour (w next : World) (e : Event) (j : Journal) :
    (j.record w e next).tour = goRound w.routing next.routing j.tour := by
  unfold record
  dsimp only
  split <;> rfl

theorem turn_job (w next : World) (j : Journal) (rand : List Nat) (r : RoomRef) (job : Job)
    (rest : List Job) (front : w.routing.nextJob = some (r, job, rest)) :
    j.turn w (.job rand) next = j.popJob r := by
  simp only [turn, front]

theorem turn_visit (w next : World) (e : Event) (j : Journal) (r : RoomRef)
    (jobless : ∀ rand, e ≠ .job rand) (begins : beginsVisit w.routing next.routing = some r) :
    j.turn w e next = j.startVisit r := by
  cases e with
  | job rand => exact absurd rfl (jobless rand)
  | _ => simp only [turn, begins]

theorem turn_still (w next : World) (e : Event) (j : Journal) (jobless : ∀ rand, e ≠ .job rand)
    (still : beginsVisit w.routing next.routing = none) : j.turn w e next = j := by
  cases e with
  | job rand => exact absurd rfl (jobless rand)
  | _ => simp only [turn, still]

theorem arrive_sound (j : Journal) (s : SessionId) (job : Job) (sound : j.Sound) :
    (j.arrive s job).Sound := by
  have filed (ticket : Ticket) (before : j.Filed ticket) : (j.arrive s job).Filed ticket := by
    intro s' n numbered
    have place := before s' n numbered
    simp only [arrive, Function.update_apply]
    split
    case isTrue same =>
      rw [same] at place
      rw [List.getElem?_append_left (List.getElem?_eq_some_iff.mp place).1]
      exact place
    case isFalse => exact place
  constructor
  · exact fun r ticket member => (sound.jobs r ticket member).imp_right (filed ticket)
  · exact fun r ticket member => (sound.batch r ticket member).imp_right (filed ticket)
  · exact fun run member => (sound.executed run member).imp_right (filed run.1)

structure Recorded (w next : World) (e : Event) (j turned : Journal) : Prop where
  synced : (j.record w e next).Synced next.routing
  sound : turned.Sound → (j.record w e next).Sound
  mail : ∀ s, (j.record w e next).mail next.routing s = turned.mail next.routing s

theorem record_untagged (w next : World) (e : Event) (j : Journal) (news : RoomRef → List Job)
    (none : e.arrival = none) (grown : (j.turn w e next).Grown next.routing news) :
    Recorded w next e j (j.turn w e next) := by
  have grown' : ({ j.turn w e next with
      tour := goRound w.routing next.routing j.tour } : Journal).Grown next.routing news :=
    ⟨grown.jobs, grown.batch⟩
  have result : j.record w e next = ({ j.turn w e next with
      tour := goRound w.routing next.routing j.tour } : Journal).push next.routing Option.none := by
    simp only [record, none]
  constructor
  · rw [result]
    exact push_synced grown' Option.none
  · intro sound
    rw [result]
    apply push_sound grown' Option.none ⟨sound.jobs, sound.batch, sound.executed⟩
    intro r job member s n tagged
    cases tagged
  · intro s
    rw [result]
    exact push_mail_none grown' next.routing s

theorem record_still (w next : World) (e : Event) (j : Journal)
    (grown : (j.turn w e next).Grown next.routing fun _ => []) :
    Recorded w next e j (j.turn w e next) := by
  cases arrival : e.arrival with
  | none => exact record_untagged w next e j _ arrival grown
  | some packet =>
      obtain ⟨s, job⟩ := packet
      have result : j.record w e next =
          ((({ j.turn w e next with tour := goRound w.routing next.routing j.tour } :
            Journal).arrive s job).push next.routing (some (s, (j.arrived s).length))) := by
        simp only [record, arrival]
      have grown' : ((({ j.turn w e next with tour := goRound w.routing next.routing j.tour } :
          Journal).arrive s job).Grown next.routing fun _ => []) := ⟨grown.jobs, grown.batch⟩
      constructor
      · rw [result]
        exact push_synced grown' _
      · intro sound
        rw [result]
        apply push_sound grown' _ (arrive_sound _ s job ⟨sound.jobs, sound.batch, sound.executed⟩)
        intro r job' member
        cases member
      · intro s'
        rw [result]
        apply Mail.ext
        · rfl
        · funext r
          simp only [Journal.mail]
          rw [push_jobs grown', List.map_nil, List.append_nil]
          rfl
        · rfl
        · rfl

theorem record_tagged (w next : World) (e : Event) (j : Journal) (r : RoomRef) (s : SessionId)
    (job : Job) (arrival : e.arrival = some (s, job)) (kept : j.turn w e next = j)
    (grown : j.Grown next.routing fun r' => if r' = r then [job] else []) :
    (j.record w e next).Synced next.routing ∧ (j.Sound → (j.record w e next).Sound) ∧
      ∀ s', (j.record w e next).mail next.routing s' =
        if s' = s then (j.mail next.routing s').post r (j.arrived s).length
        else j.mail next.routing s' := by
  have grown' : (({ j with tour := goRound w.routing next.routing j.tour } : Journal).arrive s
      job).Grown next.routing fun r' => if r' = r then [job] else [] := ⟨grown.jobs, grown.batch⟩
  have result : j.record w e next =
      (({ j with tour := goRound w.routing next.routing j.tour } : Journal).arrive s job).push
        next.routing (some (s, (j.arrived s).length)) := by
    simp only [record, arrival, kept]
  refine ⟨?_, fun sound => ?_, fun s' => ?_⟩
  · rw [result]
    exact push_synced grown' _
  · rw [result]
    apply push_sound grown' _ (arrive_sound _ s job ⟨sound.jobs, sound.batch, sound.executed⟩)
    intro r' job' member s' n tagged
    cases tagged
    split at member
    · rw [List.mem_singleton.mp member]
      simp [arrive]
    · cases member
  · rw [result]
    exact push_mail_some next.routing r job s' s _ grown'

end Journal

theorem step_gameRoom (w next : World) (e : Event) (s : SessionId) (inRange : w.routing.InRange)
    (stepped : w.step data e = some next) :
    (next.routing.sessions s).gameRoom = (w.routing.sessions s).gameRoom ∨
      ∃ rand r id rest, e = .job rand ∧ w.routing.nextJob = some (r, .enterRoom s id, rest) ∧
        (next.routing.sessions s).gameRoom = some r := by
  cases step_stepped data w next e stepped with
  | enter r s' id rest rand front result =>
      have sessions : (next.routing.sessions s) =
          (w.routing.entered r s' id rest).sessions s := by
        rw [result, enterRoom_routing]
        rfl
      rw [sessions, Routing.entered_sessions]
      split
      case isTrue same => exact .inr ⟨rand, r, id, rest, rfl, same ▸ front, rfl⟩
      case isFalse => exact .inl rfl
  | ran r job rest rand front stays result =>
      left
      obtain ⟨ranged, -⟩ := forJob_room w inRange r job rest rand front
      rw [result]
      exact (runJob_calm data (w.forJob r rest rand) r job ranged stays).gameRoom s
  | login s' username connected result =>
      left
      rw [result]
      rcases handleCLogin_cases data w s' username with ⟨store, routing, -⟩ | ⟨-, -, routing, -⟩
      · rw [routing]
        rfl
      · rw [routing, Routing.loggedIn_sessions]
        split
        case isTrue same => rw [same]
        case isFalse => rfl
  | left s' connected result =>
      left
      rw [result, onDisconnected_sessions]
      split
      case isTrue same => rw [same]
      case isFalse => rfl
  | other e idles => exact .inl (idles.gameRoom s)

def Routing.Closed (a : Routing) (r : RoomRef) : Prop := r < a.roomCount ∧ ¬ a.Registered r

namespace Routing

theorem closed_same {a b : Routing} (tables : a.SameTables b) (r : RoomRef) (shut : a.Closed r) :
    b.Closed r := by
  rw [Closed, tables.roomCount, tables.registered]
  exact shut

theorem closed_openDungeon {a : Routing} (r : RoomRef) (shut : a.Closed r) :
    a.openDungeon.Closed r := by
  refine ⟨Nat.lt_succ_of_lt shut.1, fun known => ?_⟩
  rcases (Keeps.registered_openDungeon a r).mp known with old | new
  · exact shut.2 old
  · exact Nat.ne_of_lt shut.1 new

theorem closed_removeDungeons {a : Routing} (r : RoomRef) (shut : a.Closed r) :
    a.removeDungeons.Closed r := by
  refine ⟨shut.1, fun known => shut.2 ?_⟩
  rcases known with static | ⟨instanceId, listed⟩
  · exact .inl static
  · exact .inr ⟨instanceId, List.mem_of_mem_filter listed⟩

/-- The mail of a session is in order, and only in rooms that were visited. -/
structure Orderly (a : Routing) (tour : Tour RoomRef) (mail : Mail RoomRef) : Prop
    extends mail.InOrder tour a.Closed where
  seen : ∀ r, mail.waits r ≠ [] → tour.Visited r
  home : ∀ r, mail.home = some r → tour.Visited r

namespace Orderly

variable {a b : Routing} {tour : Tour RoomRef} {mail : Mail RoomRef}

theorem mono (orderly : a.Orderly tour mail) (shut : ∀ r, a.Closed r → b.Closed r) :
    b.Orderly tour mail where
  toInOrder := orderly.toInOrder.mono shut
  seen := orderly.seen
  home := orderly.home

theorem post (orderly : a.Orderly tour mail) (r : RoomRef) (n : Nat) (home : mail.home = some r)
    (latest : mail.Below n) : a.Orderly tour (mail.post r n) where
  toInOrder := orderly.toInOrder.post r n home latest
  seen := by
    intro r' left
    simp only [Mail.post, Function.update_apply] at left
    split at left
    case isTrue here => exact orderly.home r' (here ▸ home)
    case isFalse => exact orderly.seen r' left
  home := orderly.home

theorem collect (orderly : a.Orderly tour mail) (r : RoomRef) (unseen : r ∉ tour.round)
    (known : a.Registered r) (idle : ∀ r', mail.runs r' = []) (stable : (tour.visit r).Stable) :
    a.Orderly (tour.visit r) (mail.collect r) where
  toInOrder := orderly.toInOrder.collect r unseen (fun shut => shut.2 known) idle stable
  seen := by
    intro r' left
    simp only [Mail.collect, Function.update_apply] at left
    split at left
    · exact absurd rfl left
    · exact (Tour.visited_visit tour r r').mpr (.inl (orderly.seen r' left))
  home := fun r' home => (Tour.visited_visit tour r r').mpr (.inl (orderly.home r' home))

theorem serve (orderly : a.Orderly tour mail) (r : RoomRef) (n : Nat) (rest : List Nat)
    (front : mail.runs r = n :: rest) (alone : ∀ r', r' ≠ r → mail.runs r' = []) :
    a.Orderly tour (mail.serve r n rest) where
  toInOrder := orderly.toInOrder.serve r n rest front alone
  seen := orderly.seen
  home := orderly.home

theorem move (orderly : a.Orderly tour mail) (before : List RoomRef) (r : RoomRef)
    (last : tour.round = before ++ [r]) : a.Orderly tour (mail.move r) where
  toInOrder := orderly.toInOrder.move before r last
  seen := orderly.seen
  home := by
    intro r' home
    cases home
    exact ⟨tour.round, List.mem_cons_self, by simp [last]⟩

theorem finish (orderly : a.Orderly tour mail) (shut : ∀ r, a.Closed r → b.Closed r)
    (complete : ∀ r, tour.Visited r → ¬ b.Closed r → r ∈ tour.round) :
    b.Orderly tour.finish mail where
  toInOrder := orderly.toInOrder.finish shut fun r left => complete r (orderly.seen r left)
  seen := fun r left => (Tour.visited_finish tour r).mpr (orderly.seen r left)
  home := fun r home => (Tour.visited_finish tour r).mpr (orderly.home r home)

end Orderly

end Routing

theorem Journal.below_of_sound (j : Journal) (a : Routing) (s : SessionId) (sound : j.Sound) :
    (j.mail a s).Below (j.arrived s).length := by
  have bound (ticket : Ticket) (n : Nat) (filed : j.Filed ticket)
      (numbered : ticket.number s = some n) : n < (j.arrived s).length := by
    unfold Ticket.number at numbered
    split at numbered
    case h_1 s' n' tagged =>
      split at numbered
      case isTrue same =>
        cases numbered
        rw [← same]
        exact (List.getElem?_eq_some_iff.mp (filed s' n tagged)).1
      case isFalse => cases numbered
    case h_2 => cases numbered
  constructor
  · intro r n member
    obtain ⟨ticket, waiting, numbered⟩ := List.mem_filterMap.mp member
    exact bound ticket n (sound.jobs r ticket waiting).2 numbered
  · intro r n member
    obtain ⟨ticket, running, numbered⟩ := List.mem_filterMap.mp member
    exact bound ticket n (sound.batch r ticket running).2 numbered
  · intro n member
    obtain ⟨run, ran, numbered⟩ := List.mem_filterMap.mp member
    exact bound run.1 n (sound.executed run ran).2 numbered

structure World.Journaled (w : World) (j : Journal) : Prop where
  inRange : w.routing.InRange
  housed : w.routing.Housed
  toured : w.routing.Toured j.tour
  synced : j.Synced w.routing
  sound : j.Sound
  orderly : j.tour.Stable → ∀ s, w.routing.Orderly j.tour (j.mail w.routing s)

/-- The parts of `Journaled` that a step does not keep by itself. -/
structure World.Recorded (w next : World) (e : Event) (j : Journal) : Prop where
  synced : (j.record w e next).Synced next.routing
  sound : (j.record w e next).Sound
  orderly : (j.record w e next).tour.Stable →
    ∀ s, next.routing.Orderly (j.record w e next).tour ((j.record w e next).mail next.routing s)

namespace World.Journaled

variable {w next : World} {e : Event} {j : Journal}

theorem mail_kept (a b : Routing) (s : SessionId)
    (gameRoom : (b.sessions s).gameRoom = (a.sessions s).gameRoom) : j.mail b s = j.mail a s :=
  Mail.ext gameRoom rfl rfl rfl

theorem kept (journaled : w.Journaled j) (jobless : ∀ rand, e ≠ .job rand)
    (begins : beginsVisit w.routing next.routing = none)
    (tour : goRound w.routing next.routing j.tour = j.tour)
    (gameRoom : ∀ s, (next.routing.sessions s).gameRoom = (w.routing.sessions s).gameRoom)
    (shut : ∀ r, w.routing.Closed r → next.routing.Closed r)
    (recorded : Journal.Recorded w next e j (j.turn w e next)) : w.Recorded next e j := by
  have turned := Journal.turn_still w next e j jobless begins
  rw [turned] at recorded
  constructor
  · exact recorded.synced
  · exact recorded.sound journaled.sound
  · rw [Journal.record_tour, tour]
    intro stable s
    rw [recorded.mail, mail_kept w.routing next.routing s (gameRoom s)]
    exact (journaled.orderly stable s).mono shut

theorem still (journaled : w.Journaled j) (jobless : ∀ rand, e ≠ .job rand)
    (begins : beginsVisit w.routing next.routing = none)
    (tour : goRound w.routing next.routing j.tour = j.tour)
    (gameRoom : ∀ s, (next.routing.sessions s).gameRoom = (w.routing.sessions s).gameRoom)
    (shut : ∀ r, w.routing.Closed r → next.routing.Closed r)
    (rooms : next.routing.rooms = w.routing.rooms) : w.Recorded next e j := by
  apply journaled.kept jobless begins tour gameRoom shut
  apply Journal.record_still
  rw [Journal.turn_still w next e j jobless begins]
  apply journaled.synced.grown
  · intro r
    rw [rooms, List.append_nil]
  · intro r
    rw [rooms]

theorem pushed (journaled : w.Journaled j) (jobless : ∀ rand, e ≠ .job rand) (r : RoomRef)
    (job : Job) (none : e.arrival = none) (tables : w.routing.SameTables next.routing)
    (gameRoom : ∀ s, (next.routing.sessions s).gameRoom = (w.routing.sessions s).gameRoom)
    (rooms : next.routing.rooms = (w.routing.pushJob r job).rooms) : w.Recorded next e j := by
  have begins := beginsVisit_same w.routing next.routing tables.pass
  apply journaled.kept jobless begins (goRound_same _ _ j.tour tables.pass) gameRoom
    (Routing.closed_same tables)
  apply Journal.record_untagged w next e j (fun r' => if r' = r then [job] else []) none
  rw [Journal.turn_still w next e j jobless begins]
  apply journaled.synced.grown
  · intro r'
    rw [rooms, Routing.jobs_pushJob]
    split <;> simp
  · intro r'
    rw [rooms]
    exact (Routing.sameRoom_pushJob w.routing r r' job).batch

theorem packet (journaled : w.Journaled j) (s : SessionId) (pkt : ClientPacket) (r : RoomRef)
    (job : Job) (sends : pkt.job s = some job)
    (bound : (w.routing.sessions s).gameRoom = some r)
    (result : next.routing = w.routing.pushJob r job) :
    w.Recorded next (.packet s pkt) j := by
  have tables : w.routing.SameTables next.routing := by
    rw [result]
    exact ⟨rfl, rfl, rfl, rfl, rfl⟩
  have begins := beginsVisit_same w.routing next.routing tables.pass
  have arrival : Event.arrival (.packet s pkt) = some (s, job) := by simp [Event.arrival, sends]
  have turned := Journal.turn_still w next (.packet s pkt) j (by simp) begins
  have grown : j.Grown next.routing fun r' => if r' = r then [job] else [] := by
    apply journaled.synced.grown
    · intro r'
      rw [result, Routing.jobs_pushJob]
      split <;> simp
    · intro r'
      rw [result]
      exact (Routing.sameRoom_pushJob w.routing r r' job).batch
  obtain ⟨synced, sound, mail⟩ := Journal.record_tagged w next _ j r s job arrival turned grown
  constructor
  · exact synced
  · exact sound journaled.sound
  · rw [Journal.record_tour, goRound_same _ _ j.tour tables.pass]
    intro stable s'
    have gameRoom : (next.routing.sessions s').gameRoom = (w.routing.sessions s').gameRoom := by
      rw [result]
      rfl
    have before := (journaled.orderly stable s').mono (Routing.closed_same tables)
    rw [mail, mail_kept w.routing next.routing s' gameRoom]
    split
    case isTrue own =>
      subst own
      exact before.post r _ bound (j.below_of_sound w.routing s' journaled.sound)
    case isFalse => exact before

theorem visit (journaled : w.Journaled j) (jobless : ∀ rand, e ≠ .job rand) (pass pass' : Pass)
    (r : RoomRef) (under_way : w.routing.pass = some pass) (idle : pass.current = none)
    (result : next.routing = w.routing.startVisit pass' r) (unseen : r ∉ j.tour.round)
    (known : w.routing.Registered r) : w.Recorded next e j := by
  have begins : beginsVisit w.routing next.routing = some r := by
    rw [result]
    exact beginsVisit_startVisit w.routing pass pass' r under_way idle
  have turned := Journal.turn_visit w next e j r jobless begins
  have grown := Journal.startVisit_grown j r w.routing pass' journaled.synced
  have recorded : Journal.Recorded w next e j (j.turn w e next) := by
    apply Journal.record_still
    rw [turned, result]
    exact grown
  rw [turned] at recorded
  constructor
  · exact recorded.synced
  · exact recorded.sound (Journal.startVisit_sound j r journaled.sound)
  · rw [Journal.record_tour, goRound, begins]
    intro stable s
    have earlier := Tour.stable_of_before stable fun a b => Tour.before_visit j.tour a b r
    have gameRoom : (next.routing.sessions s).gameRoom = (w.routing.sessions s).gameRoom := by
      rw [result]
      rfl
    have shut (r' : RoomRef) (closed : w.routing.Closed r') : next.routing.Closed r' := by
      rw [result]
      exact closed
    have drained (r' : RoomRef) : (j.mail w.routing s).runs r' = [] := by
      have empty := journaled.synced.batch r'
      rw [journaled.housed.drained pass under_way idle, List.map_eq_nil_iff] at empty
      simp [Journal.mail, empty]
    rw [recorded.mail, Journal.startVisit_mail j r w.routing next.routing s gameRoom]
    exact ((journaled.orderly earlier s).collect r unseen known drained stable).mono shut

theorem ran (journaled : w.Journaled j) (rand : List Nat) (r : RoomRef) (job : Job)
    (rest : List Job) (front : w.routing.nextJob = some (r, job, rest))
    (result : next = runJob data (w.forJob r rest rand) r job)
    (stepped : w.step data (.job rand) = some next) : w.Recorded next (.job rand) j := by
  obtain ⟨pass, under_way, current, batch⟩ := nextJob_some w.routing r job rest front
  obtain ⟨news, rooms⟩ := ran_rooms data w rand r job rest journaled.inRange front
  rw [← result] at rooms
  have turned := Journal.turn_job w next j rand r job rest front
  have full := journaled.synced.batch r
  rw [batch] at full
  obtain ⟨ticket, tickets, first, -, -⟩ := List.map_eq_cons_iff.mp full
  have recorded : Journal.Recorded w next (.job rand) j (j.turn w (.job rand) next) := by
    apply Journal.record_untagged w next (.job rand) j news rfl
    rw [turned]
    exact Journal.popJob_grown w.routing next.routing job rest news journaled.synced batch first
      (fun r' => (rooms r').1) fun r' => (rooms r').2.1
  rw [turned] at recorded
  have same : next.routing.pass = w.routing.pass ∧
      ∀ r', w.routing.Closed r' → next.routing.Closed r' := by
    rw [result]
    rcases ran_sameTables data w rand r job rest journaled.inRange front with tables | tables
    · exact ⟨tables.pass, Routing.closed_same tables⟩
    · exact ⟨tables.pass, fun r' shut =>
        Routing.closed_same tables r' (Routing.closed_openDungeon r' shut)⟩
  constructor
  · exact recorded.synced
  · exact recorded.sound (Journal.popJob_sound journaled.sound first)
  · rw [Journal.record_tour, goRound_same _ _ j.tour same.1]
    intro stable s
    have before := journaled.orderly stable s
    have alone (r' : RoomRef) (away : r' ≠ r) : (j.mail w.routing s).runs r' = [] := by
      have empty := journaled.synced.batch r'
      have none : (w.routing.rooms r').batch = [] := by
        by_contra left
        obtain ⟨pass', under_way', current'⟩ := journaled.housed.batch r' left
        rw [under_way] at under_way'
        cases under_way'
        rw [current] at current'
        cases current'
        exact away rfl
      rw [none, List.map_eq_nil_iff] at empty
      simp [Journal.mail, empty]
    -- the job is served while its session is still where it was
    have served : w.routing.Orderly j.tour ((j.popJob r).mail w.routing s) := by
      rw [Journal.popJob_mail first]
      split
      · exact before
      case h_2 n numbered =>
        apply before.serve r n _ _ alone
        simp [Journal.mail, first, numbered]
    rw [recorded.mail]
    rcases step_gameRoom data w next _ s journaled.inRange stepped with stays | moves
    · rw [mail_kept w.routing next.routing s stays]
      exact served.mono same.2
    · obtain ⟨rand', r', id, rest', event, entering, moved⟩ := moves
      rw [front] at entering
      cases entering
      have result : (j.popJob r).mail next.routing s = ((j.popJob r).mail w.routing s).move r :=
        Mail.ext moved rfl rfl rfl
      obtain ⟨earlier, last⟩ :=
        (journaled.toured.midway pass under_way).current _ current
      rw [result]
      exact (served.move earlier r last).mono same.2

theorem finished (journaled : w.Journaled j) (jobless : ∀ rand, e ≠ .job rand) (pass : Pass)
    (dungeonsFrom : InstanceId) (under_way : w.routing.pass = some pass)
    (loop : pass.dungeonsFrom = some dungeonsFrom)
    (complete : ∀ entry ∈ w.routing.dungeonInstances,
      entry.1 ∈ pass.visited ∨ dungeonsFrom ≤ entry.1)
    (result : next.routing = w.routing.removeDungeons) : w.Recorded next e j := by
  have begins : beginsVisit w.routing next.routing = none := by
    rw [result]
    exact beginsVisit_removeDungeons w.routing
  have turned := Journal.turn_still w next e j jobless begins
  have tour : goRound w.routing next.routing j.tour = j.tour.finish := by
    rw [result]
    exact goRound_removeDungeons w.routing pass j.tour under_way
  have recorded : Journal.Recorded w next e j (j.turn w e next) := by
    apply Journal.record_still
    rw [turned, result]
    exact journaled.synced.grown _ (fun r => (List.append_nil _).symm) fun _ => rfl
  rw [turned] at recorded
  constructor
  · exact recorded.synced
  · exact recorded.sound journaled.sound
  · rw [Journal.record_tour, tour]
    intro stable s
    have earlier := Tour.stable_of_before stable fun a b => (Tour.before_finish j.tour a b).mpr
    have gameRoom : (next.routing.sessions s).gameRoom = (w.routing.sessions s).gameRoom := by
      rw [result]
      rfl
    rw [recorded.mail, mail_kept w.routing next.routing s gameRoom]
    apply (journaled.orderly earlier s).finish
    · rw [result]
      exact fun r shut => Routing.closed_removeDungeons r shut
    · intro r seen opened
      apply journaled.toured.complete pass dungeonsFrom under_way loop complete r _ seen
      by_contra unknown
      apply opened
      rw [result]
      exact Routing.closed_removeDungeons r ⟨journaled.toured.made r seen, unknown⟩

end World.Journaled

theorem step_recorded (w next : World) (e : Event) (j : Journal) (journaled : w.Journaled j)
    (stepped : w.step data e = some next) : w.Recorded next e j := by
  have stays (jobless : ∀ rand, e ≠ .job rand) (s : SessionId) :
      (next.routing.sessions s).gameRoom = (w.routing.sessions s).gameRoom := by
    rcases step_gameRoom data w next e s journaled.inRange stepped with same | moved
    · exact same
    · obtain ⟨rand, r, id, rest, event, -⟩ := moved
      exact absurd event (jobless rand)
  cases step_turned data w next e stepped with
  | quiet e jobless ongoing rooms tables pending =>
      exact journaled.still jobless (beginsVisit_same _ _ tables.pass)
        (goRound_same _ _ j.tour tables.pass) (stays jobless) (Routing.closed_same tables) rooms
  | pushed s pkt r job sends bound result =>
      exact journaled.packet s pkt r job sends bound result
  | login s username r id town rooms tables pending =>
      exact journaled.pushed (by simp) r _ rfl tables (stays (by simp)) rooms
  | left s r bound rooms tables pending =>
      exact journaled.pushed (by simp) r _ rfl tables (stays (by simp)) rooms
  | ran rand r job rest front result => exact journaled.ran data rand r job rest front result stepped
  | update idle result =>
      have begins : beginsVisit w.routing next.routing = none := by
        rw [result, beginsVisit, Routing.visiting, idle]
        rfl
      have tour : goRound w.routing next.routing j.tour = j.tour := by
        simp only [goRound, begins, idle, ne_eq, not_true_eq_false, false_and, if_false]
      apply journaled.still (by simp) begins tour (stays (by simp))
      · rw [result]
        exact fun r shut => shut
      · rw [result]
        rfl
  | visitStatic pass r statics under_way idle left result =>
      apply journaled.visit (by simp) pass _ r under_way idle result
      · exact journaled.toured.static_ahead pass r statics under_way left
      · exact journaled.inRange.statics pass r under_way (by simp [left])
  | loopDungeons pass under_way idle left first result =>
      have resting : ({ pass with dungeonsFrom := some w.routing.instanceIdGen } : Pass).current =
          none := idle
      apply journaled.still (by simp) _ _ (stays (by simp))
      · rw [result]
        exact fun r shut => shut
      · rw [result]
        rfl
      · rw [result]
        exact beginsVisit_setPass _ pass _ under_way (.inr resting)
      · rw [result]
        exact goRound_setPass _ pass _ j.tour under_way (.inr resting)
  | visitDungeon pass r instanceId under_way idle loop unvisited listed result =>
      apply journaled.visit (by simp) pass _ r under_way idle result
      · exact journaled.toured.dungeon_ahead journaled.housed pass r instanceId under_way unvisited
          listed
      · exact .inr ⟨instanceId, listed⟩
  | goOn e jobless ongoing pass visit current under_way visiting drained goes result =>
      have busy : pass.current ≠ none := by simp [visiting]
      apply journaled.still jobless _ _ (stays jobless)
      · rw [result]
        exact fun r shut => shut
      · rw [result]
        rfl
      · rw [result]
        exact beginsVisit_setPass _ pass _ under_way (.inl busy)
      · rw [result]
        exact goRound_setPass _ pass _ j.tour under_way (.inl busy)
  | endUpdate pass dungeonsFrom under_way idle loop complete result =>
      exact journaled.finished (by simp) pass dungeonsFrom under_way loop complete result

theorem step_journaled (w next : World) (e : Event) (j : Journal) (journaled : w.Journaled j)
    (stepped : w.step data e = some next) : next.Journaled (j.record w e next) := by
  have recorded := step_recorded data w next e j journaled stepped
  constructor
  · exact step_inRange data w next e journaled.inRange stepped
  · exact step_housed data w next e journaled.inRange journaled.housed stepped
  · rw [Journal.record_tour]
    exact step_toured data w next e j.tour journaled.inRange journaled.housed journaled.toured
      stepped
  · exact recorded.synced
  · exact recorded.sound
  · exact recorded.orderly

theorem init_journaled (store : Store) (redisConnected : Bool) (rand : List Nat) :
    (World.init data store redisConnected rand).Journaled .blank := by
  have blank := init_blank data store redisConnected rand
  have empty (r : RoomRef) := List.append_eq_nil_iff.mp (blank.queue r)
  constructor
  · exact blank.inRange
  · exact init_housed data store redisConnected rand
  · exact init_toured data store redisConnected rand
  · exact ⟨fun r => (empty r).2.symm, fun r => (empty r).1.symm⟩
  · constructor
    · intro r ticket member
      cases member
    · intro r ticket member
      cases member
    · intro run member
      cases member
  · intro stable s
    constructor
    · exact Mail.InOrder.of_empty (fun _ => rfl) (fun _ => rfl) rfl
    · intro r left
      exact absurd rfl left
    · intro r home
      simp [Journal.mail, blank.sessions, GameSession.fresh] at home

def recorded (store : Store) (redisConnected : Bool) (rand : List Nat) (events : List Event) :
    Option (World × Journal) :=
  Runs.run (Runs.observed (World.step data) Journal.record)
    (World.init data store redisConnected rand, .blank) events

theorem recorded_reached (store : Store) (redisConnected : Bool) (rand : List Nat)
    (events : List Event) :
    (recorded data store redisConnected rand events).map Prod.fst =
      reached data store redisConnected rand events :=
  Runs.run_observed Journal.record _ events

theorem observed_journaled (now after : World × Journal) (e : Event)
    (journaled : now.1.Journaled now.2)
    (stepped : Runs.observed (World.step data) Journal.record now e = some after) :
    after.1.Journaled after.2 := by
  obtain ⟨moved, result⟩ := Runs.observed_some Journal.record now after e stepped
  rw [result]
  exact step_journaled data now.1 after.1 e now.2 journaled moved

theorem recorded_journaled (store : Store) (redisConnected : Bool) (rand : List Nat)
    (events : List Event) (w : World) (j : Journal)
    (ran : recorded data store redisConnected rand events = some (w, j)) : w.Journaled j :=
  Runs.run_preserved (fun now : World × Journal => now.1.Journaled now.2)
    (fun now e after journaled stepped => observed_journaled data now after e journaled stepped)
    _ (w, j) events (init_journaled data store redisConnected rand) ran

/-- The journal enters the job that an event runs, and no other. -/
theorem record_executed (w next : World) (e : Event) (j : Journal) (synced : j.Synced w.routing) :
    (j.record w e next).executed.map (·.1.job) =
      j.executed.map (·.1.job) ++ (w.runs e).toList := by
  have pushed : (j.record w e next).executed = (j.turn w e next).executed := by
    unfold Journal.record
    dsimp only
    split <;> rfl
  have visited : (∀ rand, e ≠ .job rand) ∨ w.routing.nextJob = none →
      (j.turn w e next).executed = j.executed := by
    intro jobless
    unfold Journal.turn
    split
    next rand r job rest front =>
      rcases jobless with other | none
      · exact absurd rfl (other rand)
      · rw [none] at front
        cases front
    next => split <;> rfl
  rw [pushed]
  cases e with
  | job rand =>
      cases front : w.routing.nextJob with
      | none => simp [visited (.inr front), World.runs, front]
      | some found =>
          obtain ⟨r, job, rest⟩ := found
          obtain ⟨-, -, -, batch⟩ := nextJob_some w.routing r job rest front
          have tickets := synced.batch r
          rw [batch] at tickets
          obtain ⟨ticket, later, queue, named, -⟩ := List.map_eq_cons_iff.mp tickets
          rw [Journal.turn_job w next j rand r job rest front, Journal.popJob_eq queue]
          simp [World.runs, front, named]
  | _ => simp [visited (.inl fun _ same => nomatch same), World.runs]

/-- As long as `Update` never visits two rooms in one order and in the other one, the jobs of
a session are run at most once and in the order its packets arrived; and no job is run in
the visit it was pushed in. -/
theorem jobs_in_order (store : Store) (redisConnected : Bool) (rand : List Nat)
    (events : List Event) (w : World) (j : Journal)
    (ran : recorded data store redisConnected rand events = some (w, j))
    (stable : j.tour.Stable) :
    (∀ s, (j.order s).Pairwise (· < ·)) ∧
      (∀ run ∈ j.executed, run.1.visit < run.2 ∧
        ∀ s n, run.1.packet = some (s, n) → (j.arrived s)[n]? = some run.1.job) ∧
      j.Synced w.routing ∧
      Runs.EachStep (Runs.observed (World.step data) Journal.record)
        (fun now e => ∀ next, now.1.step data e = some next →
          (now.2.record now.1 e next).executed.map (·.1.job) =
            now.2.executed.map (·.1.job) ++ (now.1.runs e).toList)
        (World.init data store redisConnected rand, .blank) events := by
  have journaled := recorded_journaled data store redisConnected rand events w j ran
  refine ⟨fun s => (journaled.orderly stable s).served, journaled.sound.executed,
    journaled.synced, ?_⟩
  apply Runs.eachStep_mono (fun _ _ => True) _
    (fun now : World × Journal => now.1.Journaled now.2)
    (fun now e after kept _ stepped => observed_journaled data now after e kept stepped) _ _ _
    (init_journaled data store redisConnected rand) (Runs.eachStep_true _ events)
  exact fun now e _ kept _ _ next _ => record_executed now.1 next e now.2 kept.synced

/-- The player of session 1 turns, goes to a dungeon, and turns there. -/
def turnsInDungeon : List Event :=
  intoDungeon ++ [Event.packet 1 (.turn ⟨Dir.left⟩), .update] ++ visit .visitStatic 0 ++
    visit .visitStatic 0 ++ [Event.loopDungeons] ++ visit (.visitDungeon 1) 1 ++ [Event.endUpdate]

set_option maxRecDepth 20000 in
theorem turn_after_change : ∃ w j, recorded smallGame newStore false [] turnsInDungeon = some (w, j) ∧
    j.order 1 = [0, 1] ∧ (∀ s, (j.order s).Pairwise (· < ·)) := by
  have run : (recorded smallGame newStore false [] turnsInDungeon).any
      (fun now => decide now.2.tour.Stable && now.2.order 1 = [0, 1]) = true := by
    decide +kernel
  obtain ⟨⟨w, j⟩, ran, checked⟩ := Option.any_eq_true _ _ |>.mp run
  obtain ⟨stable, order⟩ := Bool.and_eq_true _ _ |>.mp checked
  have ordered := jobs_in_order smallGame newStore false [] turnsInDungeon w j ran
    (of_decide_eq_true stable)
  exact ⟨w, j, ran, of_decide_eq_true order, ordered.1⟩

end ZeldaServer
