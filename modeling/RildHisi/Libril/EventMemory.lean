import RildHisi.Libril.RilEvent
import RildHisi.Libril.Timers

/-!
Owns all of ril_event.cpp over one memory: an event may be watched, be a timer, wait in
`pending_list`, or be several of these at once, and any caller may call any function at
any time. `step` is one call, or one part of a round of `ril_event_loop`.

A step is none where the call does not return: it waits for `listMutex`, it follows a
NULL pointer, or it goes round a broken list until the fuel is out. What `select`
reports and when the clock is read are arguments; its time-out is in `Timers`.
-/

namespace RildHisi.Libril

open RildHisi.Library

/-- Where `ril_event_loop` stands. -/
inductive RoundPoint (ε : Type)
  /-- At the copy of `readFds`, or in `select`. -/
  | waiting
  /-- At the call of `processTimeouts`; `select` has left these descriptors. -/
  | selected (rfds : Finset Int)
  /-- At the call of `processReadReadies`. -/
  | timed (rfds : Finset Int)
  /-- At the call of `firePending`. -/
  | readied
  /-- In `firePending` with this `ev`, or in the function it has called before that. -/
  | firing (ev : EventPointer ε)
  deriving DecidableEq

structure EventMemory (ε : Type) where
  /-- The watch table, and `fd`, `index` and `persist` of every event. The `pendingList` in
  it is empty between two steps: `links` has `pending_list`. -/
  watches : Watches ε
  timeout : EventPointer ε → Timeval
  links : Links (EventPointer ε)
  point : RoundPoint ε

inductive MemoryOp (ε : Type)
  | rilEventSet (ev : ε) (fd : Int) (persist : Bool)
  | rilEventAdd (ev : ε)
  | rilEventDel (ev : ε)
  /-- `tv` may be NULL; `getNow` returns `now`. -/
  | rilTimerAdd (ev : ε) (tv : Option Timeval) (now : Timeval)
  /-- `select` returns with these descriptors, none at the time-out. -/
  | select (rfds : Finset Int)
  | processTimeouts (now : Timeval)
  | processReadReadies
  | firePending
  /-- One turn of `firePending`, up to the call of the function, which may be any of the
  steps behind this one, or the end of its loop. -/
  | fireNext
  deriving DecidableEq

/-- `ril_event_add` of the event, or `ril_timer_add` of it with a time. -/
def MemoryOp.Adds {ε : Type} (ev : ε) : MemoryOp ε → Prop
  | .rilEventAdd ev' => ev' = ev
  | .rilTimerAdd ev' tv _ => ev' = ev ∧ tv ≠ none
  | _ => False

namespace EventMemory

variable {ε : Type}

/-- Behind `ril_event_init`, in static memory. -/
def rilEventInit : EventMemory ε where
  watches := .rilEventInit
  timeout := fun _ => ⟨0, 0⟩
  links := (Timers.initial : Timers ε).links
  point := .waiting

section Calls

variable [DecidableEq ε]

def addToList (links : Links (EventPointer ε)) (ev list : EventPointer ε) :
    Option (Links (EventPointer ε)) :=
  if list = .null ∨ links.prev list = .null then none else some (links.insertBefore ev list)

def removeFromList (links : Links (EventPointer ε)) (ev : EventPointer ε) :
    Option (Links (EventPointer ε)) :=
  if ev = .null ∨ links.next ev = .null ∨ links.prev ev = .null then none
  else some (links.remove .null ev)

/-- `ril_event_set`, which takes no mutex: its `memset` clears the pointers too. -/
def rilEventSet (s : EventMemory ε) (ev : ε) (fd : Int) (persist : Bool) : EventMemory ε :=
  { s with
    watches := s.watches.rilEventSet ev fd persist
    timeout := Function.update s.timeout (.event ev) ⟨0, 0⟩
    links := s.links.clear .null (.event ev) }

/-- The loop of `ril_timer_add`. -/
def insertionPoint (timeouts : EventPointer ε → Timeval) (links : Links (EventPointer ε))
    (timeout : Timeval) : Nat → EventPointer ε → Option (EventPointer ε)
  | 0, _ => none
  | fuel + 1, list =>
      if list = .null then none
      else if timercmp (timeouts list) timeout && list ≠ .timerList then
        insertionPoint timeouts links timeout fuel (links.next list)
      else some list

/-- `ril_timer_add`. -/
def rilTimerAdd (s : EventMemory ε) (fuel : Nat) (ev : ε) (tv : Option Timeval)
    (now : Timeval) : Option (EventMemory ε) :=
  match tv with
  | none => some s
  | some tv =>
      let timeout := timeradd now tv
      let events := Function.update s.watches.events ev { s.watches.events ev with fd := -1 }
      let timeouts := Function.update s.timeout (.event ev) timeout
      (insertionPoint timeouts s.links timeout fuel (s.links.next .timerList)).bind fun list =>
        (addToList s.links (.event ev) list).map fun links =>
          { s with
            watches := { s.watches with events := events }
            timeout := timeouts
            links := links }

/-- The loop of `processTimeouts`. -/
def expire (timeouts : EventPointer ε → Timeval) (now : Timeval) :
    Nat → EventPointer ε → Links (EventPointer ε) → Option (Links (EventPointer ε))
  | 0, _, _ => none
  | fuel + 1, tev, links =>
      if tev = .timerList then some links
      else if tev = .null then none
      else if timercmp (timeouts tev) now then
        ((removeFromList links tev).bind fun links => addToList links tev .pendingList).bind
          fun moved => expire timeouts now fuel (links.next tev) moved
      else some links

/-- `processReadReadies`: the calls of `addToList` read nothing that the loop over the table
writes, and are made behind it here. -/
def processReadReadies (s : EventMemory ε) (rfds : Finset Int) : Option (EventMemory ε) :=
  let watches := { s.watches with pendingList := [] }.processReadReadies rfds rfds.card
  (watches.pendingList.foldlM (fun links rev => addToList links (.event rev) .pendingList)
    s.links).map fun links =>
      { s with watches := { watches with pendingList := [] }, links := links, point := .readied }

/-- One turn of the loop of `firePending`. A list node has no function to call. -/
def fireNext (s : EventMemory ε) : EventPointer ε → Option (EventMemory ε)
  | .pendingList => some { s with point := .waiting }
  | .event ev => (removeFromList s.links (.event ev)).map fun links =>
      { s with links := links, point := .firing (s.links.next (.event ev)) }
  | .null | .timerList => none

/-- `MUTEX_ACQUIRE` at the start of a call. -/
def acquire (s : EventMemory ε) (call : Option (EventMemory ε)) : Option (EventMemory ε) :=
  if s.watches.listMutex then none else call

/-- One step, with `fuel` for each of its loops. -/
def step (fuel : Nat) (s : EventMemory ε) : MemoryOp ε → Option (EventMemory ε)
  | .rilEventSet ev fd persist => some (s.rilEventSet ev fd persist)
  | .rilEventAdd ev => s.acquire (some { s with watches := s.watches.rilEventAdd ev })
  | .rilEventDel ev => s.acquire (some { s with watches := s.watches.rilEventDel ev })
  | .rilTimerAdd ev tv now => s.acquire (s.rilTimerAdd fuel ev tv now)
  | .select rfds =>
      if s.point = .waiting ∧ rfds ⊆ s.watches.readFds then
        some { s with point := .selected rfds }
      else none
  | .processTimeouts now =>
      match s.point with
      | .selected rfds =>
          s.acquire ((expire s.timeout now fuel (s.links.next .timerList) s.links).map fun links =>
            { s with links := links, point := .timed rfds })
      | _ => none
  | .processReadReadies =>
      match s.point with
      | .timed rfds => s.acquire (s.processReadReadies rfds)
      | _ => none
  | .firePending =>
      if s.point = .readied then
        some { s with point := .firing (s.links.next .pendingList) }
      else none
  | .fireNext =>
      match s.point with
      | .firing ev => s.fireNext ev
      | _ => none

/-- The loop may take this step now; callers may call at any time. -/
def Due (s : EventMemory ε) : MemoryOp ε → Prop
  | .select rfds => s.point = .waiting ∧ rfds ⊆ s.watches.readFds
  | .processTimeouts _ => ∃ rfds, s.point = .selected rfds
  | .processReadReadies => ∃ rfds, s.point = .timed rfds
  | .firePending => s.point = .readied
  | .fireNext => ∃ ev, s.point = .firing ev
  | .rilEventSet _ _ _ | .rilEventAdd _ | .rilEventDel _ | .rilTimerAdd _ _ _ => True

end Calls

end EventMemory

/-! ### The table in any state

Whatever the callers have done, the loop of `processReadReadies` sees each slot as it was
before the loop. -/

namespace Watches

variable {ε : Type} {w w' : Watches ε} {ev : ε}

/-- The event in a slot, if it is ready. -/
def readyAt (w : Watches ε) (rfds : Finset Int) (i : Nat) : Option ε :=
  w.watchTable[i]?.join.filter fun rev => (w.events rev).fd ∈ rfds

/-- The ready events by their slots. -/
def readies (w : Watches ε) (rfds : Finset Int) : List ε :=
  (List.range maxFdEvents).filterMap (w.readyAt rfds)

/-- What the loop has done behind these slots. -/
structure Turned (w w' : Watches ε) (rfds : Finset Int) (slots : List Nat) : Prop where
  listMutex : w'.listMutex = w.listMutex
  length : w'.watchTable.length = w.watchTable.length
  fd : ∀ ev, (w'.events ev).fd = (w.events ev).fd
  kept : ∀ j, j ∉ slots → w'.watchTable[j]? = w.watchTable[j]?
  watched : ∀ ev, w'.Watched ev → w.Watched ev
  pending : ∃ fired, w'.pendingList = w.pendingList ++ fired ∧
    fired.Sublist (slots.filterMap (w.readyAt rfds))

theorem watched_of_readyAt {rfds : Finset Int} {i : Nat} (ready : w.readyAt rfds i = some ev) :
    w.Watched ev := by
  obtain ⟨slot, -⟩ := Option.filter_eq_some_iff.mp ready
  exact watched_iff.mpr ⟨i, Option.join_eq_some_iff.mp slot⟩

theorem watched_of_mem_readies {rfds : Finset Int} (member : ev ∈ w.readies rfds) :
    w.Watched ev := by
  obtain ⟨i, -, ready⟩ := List.mem_filterMap.mp member
  exact watched_of_readyAt ready

theorem Turned.nothing (rfds : Finset Int) (slots : List Nat) : Turned w w rfds slots :=
  ⟨rfl, rfl, fun _ => rfl, fun _ _ => rfl, fun _ watched => watched, [], by simp, by simp⟩

theorem Turned.append {w'' : Watches ε} {rfds : Finset Int} {i : Nat} {slots : List Nat}
    (first : Turned w w' rfds [i]) (rest : Turned w' w'' rfds slots) (fresh : i ∉ slots) :
    Turned w w'' rfds (i :: slots) := by
  have same : slots.filterMap (w'.readyAt rfds) = slots.filterMap (w.readyAt rfds) := by
    apply List.filterMap_congr
    intro j inside
    have apart : j ∉ [i] := fun here => fresh (List.mem_singleton.mp here ▸ inside)
    unfold readyAt
    simp only [first.kept j apart, first.fd]
  obtain ⟨fired, pending, sublist⟩ := first.pending
  obtain ⟨fired', pending', sublist'⟩ := rest.pending
  refine ⟨rest.listMutex.trans first.listMutex, rest.length.trans first.length,
    fun ev => (rest.fd ev).trans (first.fd ev), fun j out => ?_, fun ev watched => first.watched ev (rest.watched ev watched),
    fired ++ fired', ?_, ?_⟩
  · rw [List.mem_cons, not_or] at out
    rw [rest.kept j out.2, first.kept j (by simpa using out.1)]
  · rw [pending', pending, List.append_assoc]
  · rw [same] at sublist'
    have both := sublist.append sublist'
    rwa [← List.filterMap_append] at both

variable [DecidableEq ε]

theorem watched_of_removeWatch (ev : ε) (index : Nat) {other : ε}
    (watched : (w.removeWatch ev index).Watched other) : w.Watched other := by
  rcases List.mem_or_eq_of_mem_set watched with listed | cleared
  · exact listed
  · cases cleared

theorem fd_removeWatch (index : Nat) (other : ε) :
    ((w.removeWatch ev index).events other).fd = (w.events other).fd :=
  (sameEvents_setIndex (-1) w.events other).1

theorem Turned.processReadReady (rfds : Finset Int) (n i : Nat) :
    Turned w (Watches.processReadReady rfds (w, n) i).1 rfds [i] := by
  unfold Watches.processReadReady
  by_cases finished : n = 0
  · simp only [if_pos finished]
    exact Turned.nothing rfds [i]
  simp only [if_neg finished]
  cases slot : w.watchTable[i]?.join with
  | none => exact Turned.nothing rfds [i]
  | some rev =>
      simp only
      by_cases ready : (w.events rev).fd ∈ rfds
      case neg =>
        rw [if_neg ready]
        exact Turned.nothing rfds [i]
      rw [if_pos ready]
      have here : w.readyAt rfds i = some rev :=
        Option.filter_eq_some_iff.mpr ⟨slot, decide_eq_true ready⟩
      have fired : [rev].Sublist ([i].filterMap (w.readyAt rfds)) := by
        rw [List.filterMap_cons_some here]
        exact List.Sublist.refl _
      cases persist : (w.events rev).persist with
      | true =>
          exact ⟨rfl, rfl, fun _ => rfl, fun _ _ => rfl, fun _ watched => watched, [rev], rfl, fired⟩
      | false =>
          refine ⟨rfl, List.length_set, fd_removeWatch i, fun j out => ?_, fun ev watched => ?_,
            [rev], rfl, fired⟩
          · exact List.getElem?_set_ne fun same => out (by simp [same])
          · exact watched_of_removeWatch rev i watched

theorem Turned.processReadReadies (rfds : Finset Int) (n : Nat) :
    Turned w (w.processReadReadies rfds n) rfds (List.range maxFdEvents) := by
  have loop (slots : List Nat) (distinct : slots.Nodup) (w : Watches ε) (n : Nat) :
      Turned w (slots.foldl (Watches.processReadReady rfds) (w, n)).1 rfds slots := by
    induction slots generalizing w n with
    | nil => exact Turned.nothing rfds []
    | cons i slots inductionHypothesis =>
        obtain ⟨fresh, distinct⟩ := List.nodup_cons.mp distinct
        exact (Turned.processReadReady rfds n i).append (inductionHypothesis distinct _ _) fresh
  exact loop _ List.nodup_range w n

end Watches

namespace EventMemory

variable {ε : Type} [DecidableEq ε] {s s' : EventMemory ε}

omit [DecidableEq ε] in
theorem acquire_eq_some {call : Option (EventMemory ε)} :
    s.acquire call = some s' ↔ s.watches.listMutex = false ∧ call = some s' := by
  unfold acquire
  cases s.watches.listMutex <;> simp

theorem addToList_eq_some {links links' : Links (EventPointer ε)} {ev list : EventPointer ε} :
    addToList links ev list = some links' ↔
      (list ≠ .null ∧ links.prev list ≠ .null) ∧ links.insertBefore ev list = links' := by
  unfold addToList
  split_ifs with broken
  · simp only [false_iff, not_and]
    exact fun sound => absurd broken (not_or.mpr sound)
  · rw [not_or] at broken
    simp [broken]

theorem removeFromList_eq_some {links links' : Links (EventPointer ε)} {ev : EventPointer ε} :
    removeFromList links ev = some links' ↔
      (ev ≠ .null ∧ links.next ev ≠ .null ∧ links.prev ev ≠ .null) ∧
        links.remove .null ev = links' := by
  unfold removeFromList
  split_ifs with broken
  · simp only [false_iff, not_and]
    exact fun sound => absurd broken (by rw [not_or, not_or]; exact sound)
  · rw [not_or, not_or] at broken
    simp [broken]

/-- What `processReadReadies` does: some of the ready events go into `pending_list`, in
their order, and some may lose their slot. -/
theorem processReadReadies_eq (s : EventMemory ε) (rfds : Finset Int) :
    ∃ (fired : List ε) (watches' : Watches ε),
      fired.Sublist (s.watches.readies rfds) ∧
      watches'.listMutex = s.watches.listMutex ∧
      watches'.watchTable.length = s.watches.watchTable.length ∧
      (∀ ev, watches'.Watched ev → s.watches.Watched ev) ∧
      s.processReadReadies rfds =
        (fired.foldlM (fun links rev => addToList links (.event rev) .pendingList) s.links).map
          fun links => { s with watches := watches', links := links, point := .readied } := by
  have turned := Watches.Turned.processReadReadies (w := { s.watches with pendingList := [] })
    rfds rfds.card
  unfold EventMemory.processReadReadies
  generalize Watches.processReadReadies { s.watches with pendingList := [] } rfds rfds.card = after
    at turned ⊢
  obtain ⟨fired, pending, sublist⟩ := turned.pending
  rw [List.nil_append] at pending
  refine ⟨fired, { after with pendingList := [] }, sublist, turned.listMutex,
    turned.length, turned.watched, ?_⟩
  dsimp only
  rw [pending]

/-! ### What a step does -/

variable {fuel : Nat}

theorem step_rilEventAdd_iff {ev : ε} : step fuel s (.rilEventAdd ev) = some s' ↔
    s.watches.listMutex = false ∧ { s with watches := s.watches.rilEventAdd ev } = s' := by
  simp only [step, acquire_eq_some, Option.some.injEq]

theorem step_rilEventDel_iff {ev : ε} : step fuel s (.rilEventDel ev) = some s' ↔
    s.watches.listMutex = false ∧ { s with watches := s.watches.rilEventDel ev } = s' := by
  simp only [step, acquire_eq_some, Option.some.injEq]

theorem step_select_iff {rfds : Finset Int} : step fuel s (.select rfds) = some s' ↔
    (s.point = .waiting ∧ rfds ⊆ s.watches.readFds) ∧ { s with point := .selected rfds } = s' := by
  simp only [step, Option.ite_none_right_eq_some, Option.some.injEq]

theorem step_processTimeouts_iff {now : Timeval} :
    step fuel s (.processTimeouts now) = some s' ↔ ∃ rfds links, s.point = .selected rfds ∧
      s.watches.listMutex = false ∧
      expire s.timeout now fuel (s.links.next .timerList) s.links = some links ∧
      { s with links := links, point := .timed rfds } = s' := by
  cases here : s.point with
  | selected rfds => simp [step, here, acquire_eq_some]
  | _ => simp [step, here]

theorem step_processReadReadies_iff : step fuel s .processReadReadies = some s' ↔
    ∃ rfds, s.point = .timed rfds ∧ s.watches.listMutex = false ∧
      s.processReadReadies rfds = some s' := by
  cases here : s.point with
  | timed rfds => simp [step, here, acquire_eq_some]
  | _ => simp [step, here]

theorem step_firePending_iff : step fuel s .firePending = some s' ↔ s.point = .readied ∧
    { s with point := .firing (s.links.next .pendingList) } = s' := by
  simp only [step, Option.ite_none_right_eq_some, Option.some.injEq]

theorem step_fireNext_iff : step fuel s .fireNext = some s' ↔
    ∃ node, s.point = .firing node ∧ s.fireNext node = some s' := by
  cases here : s.point with
  | firing node => simp [step, here]
  | _ => simp [step, here]

/-- **What a step leaves alone**: the table has its length, and only `ril_event_del` may
return with another mutex. -/
theorem frame_of_step {op : MemoryOp ε} (stepped : step fuel s op = some s') :
    s'.watches.watchTable.length = s.watches.watchTable.length ∧
      ((∀ ev, op ≠ .rilEventDel ev) → s'.watches.listMutex = s.watches.listMutex) := by
  cases op with
  | rilEventSet ev fd persist =>
      obtain rfl := Option.some.inj stepped
      exact ⟨rfl, fun _ => rfl⟩
  | rilEventAdd ev =>
      obtain ⟨-, rfl⟩ := step_rilEventAdd_iff.mp stepped
      simp only [Watches.rilEventAdd]
      cases s.watches.watchTable.findIdx? Option.isNone with
      | none => exact ⟨rfl, fun _ => rfl⟩
      | some i => exact ⟨List.length_set, fun _ => rfl⟩
  | rilEventDel ev =>
      obtain ⟨-, rfl⟩ := step_rilEventDel_iff.mp stepped
      refine ⟨?_, fun others => absurd rfl (others ev)⟩
      simp only [Watches.rilEventDel]
      split_ifs
      · rfl
      · exact List.length_set
  | rilTimerAdd ev tv now =>
      obtain ⟨-, returned⟩ := acquire_eq_some.mp stepped
      cases tv with
      | none =>
          obtain rfl := Option.some.inj returned
          exact ⟨rfl, fun _ => rfl⟩
      | some tv =>
          obtain ⟨list, -, rest⟩ := Option.bind_eq_some_iff.mp returned
          obtain ⟨links, -, rfl⟩ := Option.map_eq_some_iff.mp rest
          exact ⟨rfl, fun _ => rfl⟩
  | select rfds =>
      obtain ⟨-, rfl⟩ := step_select_iff.mp stepped
      exact ⟨rfl, fun _ => rfl⟩
  | processTimeouts now =>
      obtain ⟨rfds, links, -, -, -, rfl⟩ := step_processTimeouts_iff.mp stepped
      exact ⟨rfl, fun _ => rfl⟩
  | processReadReadies =>
      obtain ⟨rfds, -, -, returned⟩ := step_processReadReadies_iff.mp stepped
      obtain ⟨fired, watches', -, mutex, length, -, same⟩ := s.processReadReadies_eq rfds
      rw [same] at returned
      obtain ⟨links, -, rfl⟩ := Option.map_eq_some_iff.mp returned
      exact ⟨length, fun _ => mutex⟩
  | firePending =>
      obtain ⟨-, rfl⟩ := step_firePending_iff.mp stepped
      exact ⟨rfl, fun _ => rfl⟩
  | fireNext =>
      obtain ⟨node, -, returned⟩ := step_fireNext_iff.mp stepped
      cases node with
      | null | timerList => cases returned
      | pendingList =>
          obtain rfl := Option.some.inj returned
          exact ⟨rfl, fun _ => rfl⟩
      | event ev =>
          obtain ⟨links, -, rfl⟩ := Option.map_eq_some_iff.mp returned
          exact ⟨rfl, fun _ => rfl⟩

end EventMemory

end RildHisi.Libril
