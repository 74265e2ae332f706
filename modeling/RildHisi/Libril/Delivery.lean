import RildHisi.Libril.Descriptors

/-!
Owns where responses go: a response is written to the connection its request was read
from, as long as no client is accepted while a thread that has taken a request out of
the list may still write to the new client.
-/

namespace RildHisi.Libril

open RildHisi.Library RildHisi.Library.LinkedList

/-- The response is not sent. -/
def RequestInfo.dropped (info : RequestInfo) : Bool := info.isLocal || info.cancelled

/-- The request a message answers. -/
def Purpose.request : Purpose → Option Nat
  | response t => some t
  | _ => none

/-- The request a thread has taken out of the list. -/
def Sender.request : Sender → Option Nat
  | dequeued t .. | building t .. => some t
  | sending purpose _ | checking purpose .. | writing purpose .. | closing purpose .. =>
      purpose.request

/-- The request was read from the last connection there was. -/
def LoopState.OfLast (s : LoopState) (t : Nat) : Prop :=
  ∃ connection, s.origin t = some connection ∧ connection + 1 = s.libril.connections

/-- What the thread goes on to write goes where its request came from. Up to the read of
`s_fdCommand` that is the last connection, behind it whatever the descriptor stands for. -/
def Sender.Attributed (s : LoopState) : Sender → Prop
  | dequeued t .. => ∀ info, s.libril.heap t = some info → info.dropped = false → s.OfLast t
  | building t .. | sending (.response t) _ => s.OfLast t
  | checking (.response t) _ fd | writing (.response t) _ fd =>
      ∀ connection, s.libril.sockets fd = some connection → s.origin t = some connection
  | _ => True

/-- The requests of the list and those taken out of it are attributed. -/
structure Attributed (s : LoopState) (list : List (Nat × Bool)) : Prop where
  holds : s.libril.Holds RequestInfo.dropped list
  current : ∀ t, (t, false) ∈ list → s.OfLast t
  /-- Behind a client that has left every request is cancelled. -/
  cancelled : s.libril.fdCommand < 0 → s.phase ≠ .closed → s.phase ≠ .rearmed →
    ∀ entry ∈ list, entry.2 = true
  connected : 0 ≤ s.libril.fdCommand → 0 < s.libril.connections
  sockets : ∀ fd connection, s.libril.sockets fd = some connection →
    connection + 1 = s.libril.connections
  held : ∀ thread sender t, s.senders thread = some sender → sender.request = some t →
    t ∉ list.map Prod.fst ∧ (s.libril.heap t).isSome
  distinct : ∀ thread thread' sender sender' t, s.senders thread = some sender →
    s.senders thread' = some sender' → sender.request = some t → sender'.request = some t →
    thread = thread'
  senders : ∀ thread sender, s.senders thread = some sender → sender.Attributed s
  answers : ∀ answer ∈ s.answers, answer.2 = answer.1

theorem attributed_initial : Attributed .initial [] where
  holds := ⟨rfl, le_rfl⟩
  current := fun _ listed => absurd listed List.not_mem_nil
  cancelled := fun _ _ _ _ listed => absurd listed List.not_mem_nil
  connected := fun client => absurd client (by change ¬ (0 : Int) ≤ -1; decide)
  sockets := fun _ _ socket => by cases socket
  held := fun _ _ _ present => by cases present
  distinct := fun _ _ _ _ _ present => by cases present
  senders := fun _ _ present => by cases present
  answers := fun _ member => absurd member List.not_mem_nil

section Actions

variable {s s' : LoopState} {list : List (Nat × Bool)}

@[simp] theorem LoopState.setSender_self {thread : Nat} {next : Option Sender} :
    (s.setSender thread next).senders thread = next :=
  Function.update_self ..

theorem LoopState.setSender_of_ne {thread other : Nat} {next : Option Sender}
    (apart : other ≠ thread) : (s.setSender thread next).senders other = s.senders other :=
  Function.update_of_ne apart ..

/-- For a thread its own request matters, and which sockets are open. -/
theorem Sender.Attributed.frame {sender : Sender} (attributed : sender.Attributed s)
    (heap : ∀ t, sender.request = some t → s'.libril.heap t = s.libril.heap t)
    (origin : ∀ t, sender.request = some t → s'.origin t = s.origin t)
    (connections : s'.libril.connections = s.libril.connections)
    (sockets : ∀ fd connection, s'.libril.sockets fd = some connection →
      s.libril.sockets fd = some connection) : sender.Attributed s' := by
  have ofLast {t : Nat} (own : sender.request = some t) (last : s.OfLast t) : s'.OfLast t := by
    obtain ⟨connection, arrived, same⟩ := last
    exact ⟨connection, by rw [origin t own, arrived], by rw [connections, same]⟩
  have behind {t : Nat} {fd : Int} (own : sender.request = some t)
      (from_ : ∀ connection, s.libril.sockets fd = some connection →
        s.origin t = some connection) (connection : Nat)
      (socket : s'.libril.sockets fd = some connection) : s'.origin t = some connection := by
    rw [origin t own]
    exact from_ connection (sockets fd connection socket)
  cases sender with
  | dequeued t e response responselen =>
      intro info stored kept
      rw [heap t rfl] at stored
      exact ofLast rfl (attributed info stored kept)
  | building t e response responselen => exact ofLast rfl attributed
  | sending purpose data =>
      cases purpose with
      | response t => exact ofLast rfl attributed
      | unsolicited unsolResponse => trivial
      | missedNitz => trivial
  | checking purpose data fd =>
      cases purpose with
      | response t => exact behind rfl attributed
      | unsolicited unsolResponse => trivial
      | missedNitz => trivial
  | writing purpose data fd =>
      cases purpose with
      | response t => exact behind rfl attributed
      | unsolicited unsolResponse => trivial
      | missedNitz => trivial
  | closing purpose data fd => trivial

/-- What a step may change without a thought: watches and phases, sockets that close, and
objects that neither the list nor a thread holds. -/
structure Harmless (s s' : LoopState) (list : List (Nat × Bool)) : Prop where
  queue : s'.libril.pendingRequests = s.libril.pendingRequests ∧
    s'.libril.queued = s.libril.queued
  heap : ∀ t, t ∈ list.map Prod.fst ∨ (∃ thread sender, s'.senders thread = some sender ∧
    sender.request = some t) → s'.libril.heap t = s.libril.heap t ∧ s'.origin t = s.origin t
  fdCommand : s'.libril.fdCommand < 0 → s'.phase ≠ .closed → s'.phase ≠ .rearmed →
    s.libril.fdCommand < 0 ∧ s.phase ≠ .closed ∧ s.phase ≠ .rearmed
  connected : 0 ≤ s'.libril.fdCommand → 0 ≤ s.libril.fdCommand
  connections : s'.libril.connections = s.libril.connections
  sockets : ∀ fd connection, s'.libril.sockets fd = some connection →
    s.libril.sockets fd = some connection
  senders : ∀ thread sender, s'.senders thread = some sender → s.senders thread = some sender

theorem Attributed.harmless (attributed : Attributed s list) (harmless : Harmless s s' list)
    (answers : ∀ answer ∈ s'.answers, answer.2 = answer.1) : Attributed s' list := by
  have held : ∀ thread sender t, s'.senders thread = some sender → sender.request = some t →
      s'.libril.heap t = s.libril.heap t ∧ s'.origin t = s.origin t :=
    fun thread sender t present own => harmless.heap t (Or.inr ⟨thread, sender, present, own⟩)
  constructor
  case holds =>
    obtain ⟨represents, bound⟩ := attributed.holds
    refine ⟨?_, harmless.queue.2 ▸ bound⟩
    rw [harmless.queue.1]
    exact represents.frame fun t listed => (harmless.heap t (Or.inl listed)).1
  case current =>
    intro t listed
    obtain ⟨connection, arrived, same⟩ := attributed.current t listed
    have origin := (harmless.heap t (Or.inl (List.mem_map_of_mem listed))).2
    exact ⟨connection, origin.trans arrived, same.trans harmless.connections.symm⟩
  case cancelled =>
    intro noClient notClosed notRearmed
    obtain ⟨noClient, notClosed, notRearmed⟩ := harmless.fdCommand noClient notClosed notRearmed
    exact attributed.cancelled noClient notClosed notRearmed
  case connected =>
    intro client
    rw [harmless.connections]
    exact attributed.connected (harmless.connected client)
  case sockets =>
    intro fd connection socket
    rw [harmless.connections]
    exact attributed.sockets fd connection (harmless.sockets fd connection socket)
  case held =>
    intro thread sender t present own
    obtain ⟨unlisted, live⟩ :=
      attributed.held thread sender t (harmless.senders thread sender present) own
    exact ⟨unlisted, (held thread sender t present own).1 ▸ live⟩
  case distinct =>
    intro thread thread' sender sender' t present present'
    exact attributed.distinct thread thread' sender sender' t
      (harmless.senders thread sender present) (harmless.senders thread' sender' present')
  case senders =>
    intro thread sender present
    exact (attributed.senders thread sender (harmless.senders thread sender present)).frame
      (fun t own => (held thread sender t present own).1)
      (fun t own => (held thread sender t present own).2) harmless.connections harmless.sockets
  case answers => exact answers

/-- A thread goes on with the request it has, or without one. -/
theorem Attributed.setSender (attributed : Attributed s list) {thread : Nat} {sender : Sender}
    (goesOn : sender.request = none ∨
      ∃ before, s.senders thread = some before ∧ before.request = sender.request)
    (own : sender.Attributed s) : Attributed (s.setSender thread (some sender)) list := by
  have presents {other : Nat} {sender' : Sender} {t : Nat}
      (present : (s.setSender thread (some sender)).senders other = some sender')
      (request : sender'.request = some t) :
      ∃ before, s.senders other = some before ∧ before.request = some t := by
    by_cases same : other = thread
    · subst same
      obtain rfl : sender = sender' := by simpa using present
      rcases goesOn with none_ | ⟨before, was, kept⟩
      · rw [none_] at request
        cases request
      · exact ⟨before, was, kept.trans request⟩
    · rw [LoopState.setSender_of_ne same] at present
      exact ⟨sender', present, request⟩
  refine ⟨attributed.holds, attributed.current, attributed.cancelled, attributed.connected,
    attributed.sockets, ?_, ?_, ?_, attributed.answers⟩
  · intro other sender' t present request
    obtain ⟨before, was, request⟩ := presents present request
    exact attributed.held other before t was request
  · intro first second sender' sender'' t present present' request request'
    obtain ⟨before, was, request⟩ := presents present request
    obtain ⟨before', was', request'⟩ := presents present' request'
    exact attributed.distinct first second before before' t was was' request request'
  · intro other sender' present
    by_cases same : other = thread
    · subst same
      obtain rfl : sender = sender' := by simpa using present
      exact own.frame (fun _ _ => rfl) (fun _ _ => rfl) rfl fun _ _ socket => socket
    · rw [LoopState.setSender_of_ne same] at present
      exact (attributed.senders other sender' present).frame (fun _ _ => rfl) (fun _ _ => rfl) rfl
        fun _ _ socket => socket

/-- A thread sends nothing. -/
theorem Attributed.clearSender (attributed : Attributed s list) {thread : Nat} :
    Attributed (s.setSender thread none) list := by
  refine attributed.harmless ⟨⟨rfl, rfl⟩, fun t _ => ⟨rfl, rfl⟩,
    fun none_ closed rearmed => ⟨none_, closed, rearmed⟩, id, rfl, fun _ _ socket => socket,
    ?_⟩ attributed.answers
  intro other sender present
  by_cases same : other = thread
  · subst same
    rw [LoopState.setSender_self] at present
    cases present
  · rwa [LoopState.setSender_of_ne same] at present

/-! #### Sending threads -/

/-- All that the end of a sending thread changes: its own request, and sockets that close. -/
structure Finishes (s s' : State) (own : Option Nat) : Prop where
  queue : s'.pendingRequests = s.pendingRequests ∧ s'.queued = s.queued
  heap : ∀ t, own ≠ some t → s'.heap t = s.heap t
  fdCommand : s'.fdCommand = s.fdCommand
  connections : s'.connections = s.connections
  sockets : ∀ fd connection, s'.sockets fd = some connection → s.sockets fd = some connection

theorem Finishes.refl (s : State) (own : Option Nat) : Finishes s s own :=
  ⟨⟨rfl, rfl⟩, fun _ _ => rfl, rfl, rfl, fun _ _ socket => socket⟩

theorem Finishes.trans {s s' s'' : State} {own : Option Nat} (first : Finishes s s' own)
    (second : Finishes s' s'' own) : Finishes s s'' own where
  queue := ⟨second.queue.1.trans first.queue.1, second.queue.2.trans first.queue.2⟩
  heap := fun t other => (second.heap t other).trans (first.heap t other)
  fdCommand := second.fdCommand.trans first.fdCommand
  connections := second.connections.trans first.connections
  sockets := fun fd connection socket =>
    first.sockets fd connection (second.sockets fd connection socket)

theorem free_finishes (s : State) (t : Nat) :
    Finishes s { s with heap := Function.update s.heap t none } (some t) where
  queue := ⟨rfl, rfl⟩
  heap := fun _ apart => Function.update_of_ne (fun same => apart (congrArg some same.symm)) ..
  fdCommand := rfl
  connections := rfl
  sockets := fun _ _ socket => socket

theorem finish_finishes (s : State) (purpose : Purpose) (data : List UInt8) (ret : Int) :
    Finishes s (s.finish purpose data ret) purpose.request := by
  cases purpose with
  | response t => exact free_finishes s t
  | unsolicited unsolResponse =>
      simp only [State.finish]
      split_ifs
      · exact ⟨⟨rfl, rfl⟩, fun _ _ => rfl, rfl, rfl, fun _ _ socket => socket⟩
      · exact Finishes.refl s _
  | missedNitz => exact ⟨⟨rfl, rfl⟩, fun _ _ => rfl, rfl, rfl, fun _ _ socket => socket⟩

theorem closeSocket_finishes (s : State) (fd : Int) (own : Option Nat) :
    Finishes s (s.closeSocket fd) own where
  queue := ⟨rfl, rfl⟩
  heap := fun _ _ => rfl
  fdCommand := rfl
  connections := rfl
  sockets := fun other connection socket => by
    change Function.update s.sockets fd none other = some connection at socket
    by_cases same : other = fd
    · subst same
      rw [Function.update_self] at socket
      cases socket
    · rwa [Function.update_of_ne same] at socket

/-- The writes of a frame, without the `close`. -/
theorem writeFrame_finishes (s : State) (fd : Int) (data : List UInt8)
    (script : List WriteOutcome) (own : Option Nat) :
    Finishes s { (s.writeFrame fd data script).2 with sockets := s.sockets } own := by
  simp only [State.writeFrame]
  cases s.sockets fd with
  | none => exact Finishes.refl s own
  | some connection =>
      simp only
      split_ifs <;> exact ⟨⟨rfl, rfl⟩, fun _ _ => rfl, rfl, rfl, fun _ _ socket => socket⟩

/-- A response that is written goes to the connection of its request. -/
theorem Sender.Attributed.answering {sender : Sender} (own : sender.Attributed s) :
    ∀ answer ∈ s.answering sender, answer.2 = answer.1 := by
  intro answer member
  unfold LoopState.answering at member
  split at member
  case h_1 t data fd =>
    split at member
    case h_1 origin connection arrived socket =>
      obtain rfl := List.mem_singleton.mp member
      have same : s.origin t = some connection := own connection socket
      rw [arrived] at same
      exact (Option.some.inj same).symm
    case h_2 => cases member
  case h_2 => cases member

theorem Attributed.finishes (attributed : Attributed s list) {thread : Nat} {sender : Sender}
    (present : s.senders thread = some sender) {libril : State}
    (finishes : Finishes s.libril libril sender.request) (writeMutex : Bool) :
    Attributed ({ s with libril := libril
                         writeMutex := writeMutex
                         answers := s.answers ++ s.answering sender }.setSender thread none)
      list := by
  have others {other : Nat} {sender' : Sender}
      (present' : ({ s with libril := libril
                            writeMutex := writeMutex
                            answers := s.answers ++ s.answering sender }.setSender thread
        none).senders other = some sender') :
      other ≠ thread ∧ s.senders other = some sender' := by
    have apart : other ≠ thread := by
      rintro rfl
      rw [LoopState.setSender_self] at present'
      cases present'
    rw [LoopState.setSender_of_ne apart] at present'
    exact ⟨apart, present'⟩
  refine attributed.harmless ⟨finishes.queue, ?_, ?_, ?_, finishes.connections, finishes.sockets,
    fun other sender' present' => (others present').2⟩ ?_
  · intro t used
    refine ⟨finishes.heap t ?_, rfl⟩
    intro own
    rcases used with listed | ⟨other, sender', present', own'⟩
    · exact (attributed.held thread sender t present own).1 listed
    · obtain ⟨apart, present'⟩ := others present'
      exact apart (attributed.distinct other thread sender' sender t present' present own' own)
  · intro noClient notClosed notRearmed
    exact ⟨finishes.fdCommand ▸ noClient, notClosed, notRearmed⟩
  · intro client
    exact finishes.fdCommand ▸ client
  · intro answer member
    rcases List.mem_append.mp member with before | now
    · exact attributed.answers answer before
    · exact (attributed.senders thread sender present).answering answer now

/-- A thread that still has its request may write and close on the way. -/
theorem Attributed.goesOn (attributed : Attributed s list) {thread : Nat} {sender : Sender}
    (present : s.senders thread = some sender) (next : Sender)
    (same : next.request = sender.request)
    {libril : State} (kept : Finishes s.libril libril none) (writeMutex : Bool)
    (own : next.Attributed { s with libril := libril }) :
    Attributed ({ s with libril := libril
                         writeMutex := writeMutex
                         answers := s.answers ++ s.answering sender }.setSender thread (some next))
      list := by
  have wrote : Attributed { s with libril := libril
                                   writeMutex := writeMutex
                                   answers := s.answers ++ s.answering sender } list := by
    refine attributed.harmless ⟨kept.queue, fun t _ => ⟨kept.heap t nofun, rfl⟩, ?_, ?_,
      kept.connections, kept.sockets, fun _ _ present => present⟩ ?_
    · intro noClient notClosed notRearmed
      exact ⟨kept.fdCommand ▸ noClient, notClosed, notRearmed⟩
    · intro client
      exact kept.fdCommand ▸ client
    · intro answer member
      rcases List.mem_append.mp member with before | now
      · exact attributed.answers answer before
      · exact (attributed.senders thread sender present).answering answer now
  exact wrote.setSender (Or.inr ⟨sender, present, same.symm⟩)
    (own.frame (fun _ _ => rfl) (fun _ _ => rfl) rfl fun _ _ socket => socket)

/-- The descriptor a thread reads stands for the last connection. -/
theorem Attributed.readsFdCommand (attributed : Attributed s list) {t : Nat} (last : s.OfLast t)
    (connection : Nat) (socket : s.libril.sockets s.libril.fdCommand = some connection) :
    s.origin t = some connection := by
  obtain ⟨from_, arrived, same⟩ := last
  have now := attributed.sockets _ connection socket
  obtain rfl : from_ = connection := by omega
  exact arrived

theorem Attributed.advance (P : Type) [Platform P] (version : Nat)
    (attributed : Attributed s list) {thread : Nat} {sender : Sender}
    (present : s.senders thread = some sender) (script : List WriteOutcome) (writeMutex : Bool) :
    Attributed ({ s with
      libril := (sender.advance P version s.libril script).1
      writeMutex := writeMutex
      answers := s.answers ++ s.answering sender }.setSender thread
        (sender.advance P version s.libril script).2) list := by
  have own := attributed.senders thread sender present
  have kept := Finishes.refl s.libril none
  cases sender with
  | dequeued t e response responselen =>
      simp only [Sender.advance]
      cases stored : s.libril.heap t with
      | none => exact attributed.finishes present (Finishes.refl _ _) _
      | some info =>
          simp only
          by_cases dropped : info.isLocal || info.cancelled
          · rw [if_pos dropped]
            exact attributed.finishes present (free_finishes s.libril t) _
          · rw [if_neg dropped]
            exact attributed.goesOn present (.building t e response responselen) rfl kept _
              (own info stored (eq_false_of_ne_true dropped))
  | building t e response responselen =>
      simp only [Sender.advance]
      cases s.libril.heap t with
      | none => exact attributed.finishes present (Finishes.refl _ _) _
      | some info => exact attributed.goesOn present (.sending (.response t) _) rfl kept _ own
  | sending purpose data =>
      refine attributed.goesOn present (.checking purpose data s.libril.fdCommand) rfl kept _ ?_
      cases purpose with
      | response t => exact attributed.readsFdCommand own
      | unsolicited unsolResponse => trivial
      | missedNitz => trivial
  | checking purpose data fd =>
      simp only [Sender.advance]
      split_ifs
      · exact attributed.finishes present (finish_finishes s.libril purpose data (-1)) _
      · refine attributed.goesOn present (.writing purpose data fd) rfl kept _ ?_
        cases purpose with
        | response t => exact own
        | unsolicited unsolResponse => trivial
        | missedNitz => trivial
  | writing purpose data fd =>
      simp only [Sender.advance]
      split_ifs
      · exact attributed.finishes present
          ((writeFrame_finishes s.libril fd data script _).trans (finish_finishes _ purpose data _)) _
      · exact attributed.goesOn present (.closing purpose data fd) rfl
          (writeFrame_finishes s.libril fd data script none) _ trivial
  | closing purpose data fd =>
      exact attributed.finishes present
        ((closeSocket_finishes s.libril fd _).trans (finish_finishes _ purpose data _)) _

/-! #### The list -/

section Queue

variable (P : Type) [Platform P] [LawfulPlatform P] (version : Nat)

/-- An address `calloc` may return is neither in the list nor held by a thread. -/
theorem Attributed.fresh_apart (attributed : Attributed s list) {pRI t : Nat}
    (fresh : s.libril.Fresh pRI)
    (used : t ∈ list.map Prod.fst ∨ ∃ thread sender, s.senders thread = some sender ∧
      sender.request = some t) : t ≠ pRI := by
  rintro rfl
  rcases used with listed | ⟨thread, sender, present, own⟩
  · obtain ⟨⟨address, value⟩, member, rfl⟩ := List.mem_map.mp listed
    obtain ⟨cell, stored, -⟩ := attributed.holds.1.cell member
    rw [fresh.2] at stored
    cases stored
  · have live := (attributed.held thread sender t present own).2
    rw [fresh.2] at live
    cases live

/-- A request that is queued comes from the client there is. -/
theorem Attributed.processCommandBuffer (attributed : Attributed s list)
    (client : 0 ≤ s.libril.fdCommand) (buffer : List UInt8) {pRI : Nat}
    (fresh : s.libril.Fresh pRI) :
    ∃ list', Attributed { s with
      libril := s.libril.processCommandBuffer P version buffer pRI
      origin := Function.update s.origin pRI (some (s.libril.connections - 1)) } list' := by
  have kept {t : Nat} (used : t ∈ list.map Prod.fst ∨ ∃ thread sender,
      s.senders thread = some sender ∧ sender.request = some t) :
      Function.update s.origin pRI (some (s.libril.connections - 1)) t = s.origin t :=
    Function.update_of_ne (attributed.fresh_apart fresh used) ..
  cases found : requestOf buffer with
  | none =>
      rw [processCommandBuffer_rejected version pRI found]
      refine ⟨list, attributed.harmless ⟨⟨rfl, rfl⟩, fun t used => ⟨rfl, kept used⟩,
        fun none_ closed rearmed => ⟨none_, closed, rearmed⟩, id, rfl,
        fun _ _ socket => socket, fun _ _ present => present⟩ attributed.answers⟩
  | some accepted =>
      obtain ⟨pCI, token⟩ := accepted
      rw [processCommandBuffer_accepted version pRI found]
      set info : RequestInfo := ⟨token, pCI, 0, false, false⟩
      have heap {t : Nat} (used : t ∈ list.map Prod.fst ∨ ∃ thread sender,
          s.senders thread = some sender ∧ sender.request = some t) :
          (s.libril.enqueue pRI info).heap t = s.libril.heap t :=
        Function.update_of_ne (attributed.fresh_apart fresh used) ..
      refine ⟨(pRI, false) :: list, attributed.holds.enqueue info fresh rfl, ?_, ?_,
        attributed.connected, attributed.sockets, ?_, attributed.distinct, ?_, attributed.answers⟩
      · intro t listed
        rcases List.mem_cons.mp listed with same | behind
        · obtain rfl : t = pRI := congrArg Prod.fst same
          refine ⟨s.libril.connections - 1, Function.update_self .., ?_⟩
          exact Nat.sub_add_cancel (attributed.connected client)
        · obtain ⟨connection, arrived, same⟩ := attributed.current t behind
          exact ⟨connection, (kept (Or.inl (List.mem_map_of_mem behind))).trans arrived, same⟩
      · intro none_
        exact absurd client (not_le.mpr none_)
      · intro thread sender t present own
        have used : ∃ thread sender, s.senders thread = some sender ∧ sender.request = some t :=
          ⟨thread, sender, present, own⟩
        obtain ⟨unlisted, live⟩ := attributed.held thread sender t present own
        refine ⟨?_, by rw [← heap (Or.inr used)] at live; exact live⟩
        rw [List.map_cons, List.mem_cons]
        rintro (same | listed)
        · exact attributed.fresh_apart fresh (Or.inr used) same
        · exact unlisted listed
      · intro thread sender present
        exact (attributed.senders thread sender present).frame
          (fun t own => heap (Or.inr ⟨thread, sender, present, own⟩))
          (fun t own => kept (Or.inr ⟨thread, sender, present, own⟩)) rfl
          fun _ _ socket => socket

end Queue

/-- Behind the close every request that is still in the list is cancelled. -/
theorem Attributed.onCommandsSocketClosed (attributed : Attributed s list) :
    Attributed { s with libril := s.libril.onCommandsSocketClosed, phase := .firing }
      (list.map fun entry => (entry.1, true)) := by
  have addresses : (list.map fun entry : Nat × Bool => (entry.1, true)).map Prod.fst =
      list.map Prod.fst := by
    rw [List.map_map]
    rfl
  have heap {t : Nat} (unlisted : t ∉ list.map Prod.fst) :
      s.libril.onCommandsSocketClosed.heap t = s.libril.heap t :=
    forEach_outside _ (fun _ => rfl) attributed.holds.1 unlisted
  refine ⟨attributed.holds.onCommandsSocketClosed (fun _ => true) ?_, ?_, ?_,
    attributed.connected, attributed.sockets, ?_, attributed.distinct, ?_, attributed.answers⟩
  · intro info
    exact Bool.or_true _
  · intro t listed
    obtain ⟨entry, -, same⟩ := List.mem_map.mp listed
    cases congrArg Prod.snd same
  · intro _ _ _ entry listed
    obtain ⟨before, -, rfl⟩ := List.mem_map.mp listed
    rfl
  · intro thread sender t present own
    obtain ⟨unlisted, live⟩ := attributed.held thread sender t present own
    rw [addresses]
    exact ⟨unlisted, heap unlisted ▸ live⟩
  · intro thread sender present
    exact (attributed.senders thread sender present).frame
      (fun t own => heap (attributed.held thread sender t present own).1) (fun _ _ => rfl) rfl
      fun _ _ socket => socket

/-- A thread takes its request out of the list. -/
theorem Attributed.rilOnRequestComplete (attributed : Attributed s list) {thread : Nat}
    (idle : s.senders thread = none) (t : Nat) (e : Word) (response : Option Pointee)
    (responselen : Nat) :
    ∃ list', Attributed ({ s with
      libril := (s.libril.checkAndDequeueRequestInfo t).2 }.setSender thread
        (if (s.libril.checkAndDequeueRequestInfo t).1 then
          some (.dequeued t e response responselen) else none)) list' := by
  by_cases listed : t ∈ list.map Prod.fst
  · obtain ⟨⟨address, value⟩, member, rfl⟩ := List.mem_map.mp listed
    obtain ⟨front, back, rfl⟩ := List.append_of_mem member
    obtain ⟨heap, head, info, dequeues, holds, stored, viewed, outside⟩ :=
      State.checkAndDequeue_present attributed.holds (fun _ _ => rfl)
    have distinct := attributed.holds.1.nodup
    rw [List.map_append, List.map_cons] at distinct
    have removed : address ∉ (front ++ back).map Prod.fst := by
      rw [List.map_append, List.mem_append]
      rintro (inFront | inBack)
      · exact (List.nodup_append.mp distinct).2.2 _ inFront _ List.mem_cons_self rfl
      · exact (List.nodup_cons.mp (List.nodup_append.mp distinct).2.1).1 inBack
    have smaller {other : Nat × Bool} (inside : other ∈ front ++ back) :
        other ∈ front ++ (address, value) :: back := by
      rcases List.mem_append.mp inside with inFront | inBack
      · exact List.mem_append_left _ inFront
      · exact List.mem_append_right _ (List.mem_cons_of_mem _ inBack)
    have unused {other : Nat} {sender : Sender} {t : Nat} (present : s.senders other = some sender)
        (own : sender.request = some t) :
        t ∉ (front ++ (address, value) :: back).map Prod.fst ∧ heap t = s.libril.heap t := by
      have unlisted := (attributed.held other sender t present own).1
      refine ⟨unlisted, outside t fun inFront => unlisted ?_⟩
      rw [List.map_append]
      exact List.mem_append_left _ inFront
    have others {other : Nat} {sender : Sender}
        (present : ({ s with libril := { s.libril with heap := heap, pendingRequests := head }
          }.setSender thread (some (.dequeued address e response responselen))).senders other =
            some sender) :
        other = thread ∧ sender = .dequeued address e response responselen ∨
          other ≠ thread ∧ s.senders other = some sender := by
      by_cases same : other = thread
      · subst same
        rw [LoopState.setSender_self] at present
        exact Or.inl ⟨rfl, (Option.some.inj present).symm⟩
      · rw [LoopState.setSender_of_ne same] at present
        exact Or.inr ⟨same, present⟩
    rw [dequeues]
    simp only [if_true]
    refine ⟨front ++ back, holds, ?_, ?_, attributed.connected, attributed.sockets, ?_, ?_, ?_,
      attributed.answers⟩
    · intro t inside
      exact attributed.current t (smaller inside)
    · intro none_ closed rearmed entry inside
      exact attributed.cancelled none_ closed rearmed entry (smaller inside)
    · intro other sender t present own
      rcases others present with ⟨rfl, rfl⟩ | ⟨-, was⟩
      · obtain rfl : address = t := Option.some.inj own
        exact ⟨removed, Option.isSome_iff_exists.mpr ⟨info, stored⟩⟩
      · obtain ⟨unlisted, kept⟩ := unused was own
        refine ⟨fun inside => unlisted ?_, ?_⟩
        · obtain ⟨entry, among, rfl⟩ := List.mem_map.mp inside
          exact List.mem_map_of_mem (smaller among)
        · change (heap t).isSome
          rw [kept]
          exact (attributed.held other sender t was own).2
    · intro first second sender sender' t present present' own own'
      rcases others present with ⟨rfl, rfl⟩ | ⟨-, was⟩ <;>
        rcases others present' with ⟨rfl, rfl⟩ | ⟨-, was'⟩
      · rfl
      · obtain rfl : address = t := Option.some.inj own
        exact absurd (by simp) (unused was' own').1
      · obtain rfl : address = t := Option.some.inj own'
        exact absurd (by simp) (unused was own).1
      · exact attributed.distinct first second sender sender' t was was' own own'
    · intro other sender present
      rcases others present with ⟨rfl, rfl⟩ | ⟨-, was⟩
      · intro info' stored' kept
        obtain rfl : info = info' := Option.some.inj (stored.symm.trans stored')
        obtain rfl : value = false := viewed.symm.trans kept
        exact attributed.current address member
      · exact (attributed.senders other sender was).frame
          (fun t own => (unused was own).2) (fun _ _ => rfl) rfl fun _ _ socket => socket
  · rw [State.checkAndDequeue_absent attributed.holds listed]
    exact ⟨list, attributed.clearSender⟩

/-! #### Accepting a client -/

/-- A client with this descriptor may get the response of this thread: the request is not
dropped, and the descriptor is the one read from `s_fdCommand` or is still to be read. -/
def Sender.MayReach (s : State) (fd : Int) : Sender → Prop
  | dequeued t .. => ∃ info, s.heap t = some info ∧ info.dropped = false
  | building .. => True
  | sending purpose _ => purpose.request.isSome
  | checking purpose _ fd' | writing purpose _ fd' => purpose.request.isSome ∧ fd' = fd
  | closing .. => False

/-- The condition on an action: where it accepts a client, no thread may reach that. -/
def AcceptsUnreached (s : LoopState) (action : Action) : Prop :=
  ∀ fd, action = .firePending (some fd) → s.watches.pendingList.head? = some .listen →
    ∀ thread sender, s.senders thread = some sender → ¬ sender.MayReach s.libril fd

theorem Attributed.acceptClient {lost : Prop} (attributed : Attributed s list)
    (owned : Owned s.descriptors lost) (noClient : s.libril.fdCommand < 0)
    (fires : s.phase = .firing) {fd : Int} (valid : 0 ≤ fd)
    (unreached : ∀ thread sender, s.senders thread = some sender → ¬ sender.MayReach s.libril fd)
    (watches : Watches EventName) :
    Attributed { s with libril := s.libril.acceptClient fd
                        watches := watches
                        phase := .connected } list := by
  have closed (other : Int) : s.libril.sockets other = none := by
    rw [← Option.not_isSome_iff_eq_none]
    intro live
    obtain ⟨valid', same⟩ := owned.live other live
    have client : 0 ≤ s.libril.fdCommand := valid'.trans_eq same
    exact absurd client (not_le.mpr noClient)
  have others {other : Int} {connection : Nat}
      (socket : (s.libril.acceptClient fd).sockets other = some connection) :
      other = fd ∧ connection = s.libril.connections := by
    by_cases same : other = fd
    · subst same
      have here : (s.libril.acceptClient other).sockets other = some s.libril.connections :=
        Function.update_self ..
      rw [here] at socket
      exact ⟨rfl, (Option.some.inj socket).symm⟩
    · have kept : (s.libril.acceptClient fd).sockets other = s.libril.sockets other :=
        Function.update_of_ne same ..
      rw [kept, closed] at socket
      cases socket
  refine ⟨attributed.holds, ?_, ?_, fun _ => Nat.succ_pos _, ?_, attributed.held,
    attributed.distinct, ?_, attributed.answers⟩
  · intro t listed
    have cancelled := attributed.cancelled noClient (by simp [fires]) (by simp [fires]) _ listed
    cases cancelled
  · intro none_
    exact absurd valid (not_le.mpr none_)
  · intro other connection socket
    rw [(others socket).2]
    rfl
  · intro thread sender present
    have away := unreached thread sender present
    cases sender with
    | dequeued t e response responselen =>
        intro info stored kept
        exact absurd ⟨info, stored, kept⟩ away
    | building t e response responselen => exact absurd trivial away
    | sending purpose data =>
        cases purpose with
        | response t => exact absurd rfl away
        | unsolicited unsolResponse => trivial
        | missedNitz => trivial
    | checking purpose data fd' =>
        cases purpose with
        | response t =>
            intro connection socket
            exact absurd ⟨rfl, (others socket).1⟩ away
        | unsolicited unsolResponse => trivial
        | missedNitz => trivial
    | writing purpose data fd' =>
        cases purpose with
        | response t =>
            intro connection socket
            exact absurd ⟨rfl, (others socket).1⟩ away
        | unsolicited unsolResponse => trivial
        | missedNitz => trivial
    | closing purpose data fd' => trivial

/-- Nothing but the watch table, the phase and a descriptor that is not set. -/
theorem Attributed.unchanged (attributed : Attributed s list)
    (libril : s'.libril = s.libril ∨
      s'.libril = { s.libril with fdCommand := -1 } ∧ s.libril.fdCommand < 0)
    (phase : s'.phase = .closed ∨ s'.phase = .rearmed ∨ s.phase ≠ .closed ∧ s.phase ≠ .rearmed)
    (origin : s'.origin = s.origin) (answers : s'.answers = s.answers)
    (senders : s'.senders = s.senders) : Attributed s' list := by
  have phases (closed : s'.phase ≠ .closed) (rearmed : s'.phase ≠ .rearmed) :
      s.phase ≠ .closed ∧ s.phase ≠ .rearmed :=
    (phase.resolve_left closed).resolve_left rearmed
  obtain ⟨libril', watches, phase', fdWakeupRead, fdListen, registered, senders', writeMutex,
    origin', answers'⟩ := s'
  simp only at libril origin answers senders
  subst origin answers senders
  rcases libril with rfl | ⟨rfl, noClient⟩
  · exact attributed.harmless ⟨⟨rfl, rfl⟩, fun _ _ => ⟨rfl, rfl⟩,
      fun none_ closed rearmed => ⟨none_, phases closed rearmed⟩, id, rfl,
      fun _ _ socket => socket, fun _ _ present => present⟩ attributed.answers
  · exact attributed.harmless ⟨⟨rfl, rfl⟩, fun _ _ => ⟨rfl, rfl⟩,
      fun _ closed rearmed => ⟨noClient, phases closed rearmed⟩,
      fun client => absurd client (by change ¬ (0 : Int) ≤ -1; decide), rfl,
      fun _ _ socket => socket, fun _ _ present => present⟩ attributed.answers

theorem Attributed.firePending {lost : Prop} (attributed : Attributed s list)
    (owned : Owned s.descriptors lost) (fires : s.phase = .firing) (accepted : Option Int)
    (unused : ∀ fd, accepted = some fd → s.Unused fd)
    (unreached : AcceptsUnreached s (.firePending accepted)) :
    Attributed (s.firePending accepted) list := by
  have calm : s.phase ≠ .closed ∧ s.phase ≠ .rearmed := by simp [fires]
  unfold LoopState.firePending
  cases pending : s.watches.pendingList with
  | nil => exact attributed.unchanged (Or.inl rfl) (Or.inr (Or.inr calm)) rfl rfl rfl
  | cons ev rest =>
      cases ev with
      | wakeupfd => exact attributed.unchanged (Or.inl rfl) (Or.inr (Or.inr calm)) rfl rfl rfl
      | commands =>
          simp only [LoopState.processCommandsCallback]
          split_ifs
          · exact attributed.unchanged (Or.inl rfl) (Or.inr (Or.inr calm)) rfl rfl rfl
          · exact attributed.unchanged (Or.inl rfl) (Or.inr (Or.inr calm)) rfl rfl rfl
      | listen =>
          simp only [LoopState.listenCallback]
          by_cases fails : ¬ s.libril.fdCommand < 0 ∨
              (s.watches.events .listen).fd ≠ s.fdListen
          · rw [if_pos fails]
            exact attributed.unchanged (Or.inl rfl) (Or.inr (Or.inr calm)) rfl rfl rfl
          · rw [if_neg fails]
            have noClient : s.libril.fdCommand < 0 := by
              by_contra client
              exact fails (Or.inl client)
            cases accepted with
            | none =>
                exact attributed.unchanged (Or.inr ⟨rfl, noClient⟩) (Or.inr (Or.inr calm)) rfl
                  rfl rfl
            | some fd =>
                have listens : s.watches.pendingList.head? = some .listen := by rw [pending]; rfl
                exact attributed.acceptClient owned noClient fires (unused fd rfl).1
                  (unreached fd rfl listens) _

end Actions

/-! ### Runs -/

section Runs

variable (P : Type) [Platform P] [LawfulPlatform P] (version : Nat) {s s' : LoopState}
  {list : List (Nat × Bool)}

theorem Attributed.step {lost : Prop} (attributed : Attributed s list)
    (owned : Owned s.descriptors lost) {action : Action} (unreached : AcceptsUnreached s action)
    (stepped : s.step P version action = some s') : ∃ list', Attributed s' list' := by
  cases LoopState.stepped_of_step P version stepped with
  | start fd begins unused =>
      exact ⟨list, attributed.unchanged (Or.inl rfl) (Or.inr (Or.inr (by simp [begins]))) rfl rfl
        rfl⟩
  | register fd first unused =>
      refine ⟨list, attributed.unchanged (Or.inl rfl) ?_ rfl rfl rfl⟩
      change s.phase = .closed ∨ s.phase = .rearmed ∨ _
      tauto
  | select calls opened =>
      exact ⟨list, attributed.unchanged (Or.inl rfl) (Or.inr (Or.inr (by simp [calls]))) rfl rfl
        rfl⟩
  | badFd calls stale =>
      exact ⟨list, attributed.unchanged (Or.inl rfl) (Or.inr (Or.inr (by simp [calls]))) rfl rfl
        rfl⟩
  | interrupted rfds waits =>
      exact ⟨list, attributed.unchanged (Or.inl rfl) (Or.inr (Or.inr (by simp [waits]))) rfl rfl
        rfl⟩
  | selected ready rfds waits =>
      exact ⟨list, attributed.unchanged (Or.inl rfl) (Or.inr (Or.inr (by simp [waits]))) rfl rfl
        rfl⟩
  | firePending accepted fires unused =>
      exact ⟨list, attributed.firePending owned fires accepted unused unreached⟩
  | processCommandBuffer buffer pRI reads fresh =>
      have client : 0 ≤ s.libril.fdCommand := by
        by_contra noClient
        obtain ⟨-, -, notReading, -⟩ := owned.alone (not_le.mp noClient)
        exact notReading reads
      exact attributed.processCommandBuffer P version client buffer fresh
  | again reads =>
      exact ⟨list, attributed.unchanged (Or.inl rfl) (Or.inr (Or.inr (by simp [reads]))) rfl rfl
        rfl⟩
  | endOfStream reads =>
      refine ⟨list, attributed.harmless ⟨⟨rfl, rfl⟩, fun _ _ => ⟨rfl, rfl⟩, ?_, ?_, rfl, ?_,
        fun _ _ present => present⟩ attributed.answers⟩
      · exact fun _ closed => absurd rfl closed
      · intro client
        change (0 : Int) ≤ -1 at client
        exact absurd client (by decide)
      · intro fd connection socket
        by_cases same : fd = s.libril.fdCommand
        · subst same
          have none_ : s.closeCommand.libril.sockets s.libril.fdCommand = none :=
            Function.update_self ..
          rw [none_] at socket
          cases socket
        · have kept : s.closeCommand.libril.sockets fd = s.libril.sockets fd :=
            Function.update_of_ne same ..
          rwa [kept] at socket
  | rearm begins =>
      exact ⟨list, attributed.unchanged (Or.inl rfl) (Or.inr (Or.inl rfl)) rfl rfl rfl⟩
  | onCommandsSocketClosed begins => exact ⟨_, attributed.onCommandsSocketClosed⟩
  | radioStateChanged radioState data begins =>
      have greeted : Attributed { s with phase := .greeted } list :=
        attributed.unchanged (Or.inl rfl) (Or.inr (Or.inr (by simp [begins]))) rfl rfl rfl
      exact ⟨list, greeted.setSender (Or.inl rfl) trivial⟩
  | resendNitz begins =>
      have sent : Attributed { s with phase := .firing } list :=
        attributed.unchanged (Or.inl rfl) (Or.inr (Or.inr (by simp [begins]))) rfl rfl rfl
      cases s.libril.lastNitzTimeData with
      | none => exact ⟨list, sent.clearSender⟩
      | some data => exact ⟨list, sent.setSender (Or.inl rfl) trivial⟩
  | rilOnRequestComplete thread t e response responselen idle =>
      exact attributed.rilOnRequestComplete idle t e response responselen
  | rilOnUnsolicitedResponse thread unsolResponse payload data idle =>
      exact ⟨list, attributed.setSender (Or.inl rfl) trivial⟩
  | advance thread script sender present =>
      exact ⟨list, attributed.advance P version present script _⟩

/-- **Responses go where their requests came from**, in every run that accepts a client
only while no thread may reach it with the response to an earlier one. -/
theorem answers_of_run {actions : List Action}
    (met : StepsMeet (LoopState.step P version) AcceptsUnreached .initial actions)
    (ran : run (LoopState.step P version) .initial actions = some s) :
    ∀ answer ∈ s.answers, answer.2 = answer.1 := by
  have preserved : ∀ s action s', ((∃ lost, Owned s.descriptors lost) ∧ ∃ list, Attributed s list) →
      AcceptsUnreached s action → s.step P version action = some s' →
        (∃ lost, Owned s'.descriptors lost) ∧ ∃ list, Attributed s' list := by
    rintro s action s' ⟨⟨lost, owned⟩, list, attributed⟩ unreached stepped
    exact ⟨⟨_, owned.step P version stepped⟩, attributed.step P version owned unreached stepped⟩
  obtain ⟨-, list, attributed⟩ := run_invariant_of_stepsMeet preserved
    ⟨⟨False, owned_initial⟩, [], attributed_initial⟩ met ran
  exact attributed.answers

end Runs

/-- A client asks for the IMSI. -/
def askActions : List Action :=
  connectActions ++ [.select, .selected {7}, .firePending none,
    .processCommandBuffer (wordBytes 11 ++ wordBytes 9) 16]

/-- A thread completes the request while the client is there. -/
def answerActions : List Action :=
  askActions ++ [.rilOnRequestComplete 1 16 0 none 0, .advance 1 [], .advance 1 [], .advance 1 [],
    .advance 1 [], .advance 1 []]

theorem answers_answerActions :
    ∃ s, run (LoopState.step ByteParcel 3) .initial answerActions = some s ∧
      s.answers = [(0, 0)] ∧ ∀ answer ∈ s.answers, answer.2 = answer.1 := by
  have met : StepsMeet (LoopState.step ByteParcel 3) AcceptsUnreached .initial answerActions := by
    have quiet : ∀ action ∈ answerActions.take 4 ++ answerActions.drop 5, ∀ s,
        AcceptsUnreached s action := by
      intro action member s fd same
      subst same
      revert member
      simp [answerActions, askActions, connectActions]
    rw [← List.take_append_drop 4 answerActions]
    apply stepsMeet_append
    · exact stepsMeet_of_always (fun action member => quiet action (by simp [member])) _
    · intro s ran
      have none_ : (run (LoopState.step ByteParcel 3) .initial (answerActions.take 4)).map
          LoopState.senders = some fun _ => none := rfl
      rw [ran, Option.map_some, Option.some.injEq] at none_
      refine ⟨fun _ _ _ thread sender present => ?_, fun s' _ => ?_⟩
      · rw [none_] at present
        cases present
      · refine stepsMeet_of_always (fun action member => quiet action ?_) _
        exact List.mem_append_right _ member
  have reached : (run (LoopState.step ByteParcel 3) .initial answerActions).map
      LoopState.answers = some [(0, 0)] := by decide +kernel
  obtain ⟨s, ran, answers⟩ := Option.map_eq_some_iff.mp reached
  exact ⟨s, ran, answers, answers_of_run ByteParcel 3 met ran⟩

/-- The thread has taken the request out of the list when the client leaves, and reads
`s_fdCommand` when the next one is there. -/
def lateAnswerActions : List Action :=
  askActions ++ [.rilOnRequestComplete 1 16 0 none 0, .advance 1 [], .endOfStream, .rearm,
    .onCommandsSocketClosed, .firePending none, .select, .selected {5}, .firePending (some 9),
    .advance 1 [], .advance 1 [], .advance 1 [], .advance 1 []]

/-- **A late answer goes to the next client.** -/
theorem lateAnswer_misdelivered :
    ∃ s, run (LoopState.step ByteParcel 3) .initial lateAnswerActions = some s ∧
      ∃ answer ∈ s.answers, answer.1 < answer.2 := by
  have reached : (run (LoopState.step ByteParcel 3) .initial lateAnswerActions).map
      LoopState.answers = some [(0, 1)] := by decide +kernel
  obtain ⟨s, ran, answers⟩ := Option.map_eq_some_iff.mp reached
  exact ⟨s, ran, (0, 1), by simp [answers], by decide⟩

end RildHisi.Libril
