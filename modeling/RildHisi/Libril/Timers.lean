import RildHisi.Library.Ring
import RildHisi.Library.Runs
import Mathlib.Data.List.Sort
import Mathlib.Data.List.GetD
import Mathlib.Data.List.TakeWhile
import Mathlib.Order.Interval.Finset.Nat

/-!
Owns the timers of ril_event.cpp: `timer_list` and `pending_list` as rings of
events in memory, the sorted insertion of `ril_timer_add`, `processTimeouts`,
`firePending` and `calcNextTimeout`.

`time_t` is taken wide enough for every deadline.
-/

namespace RildHisi.Libril

open RildHisi.Library

/-- `struct timeval`. -/
structure Timeval where
  tvSec : Int
  tvUsec : Int
  deriving DecidableEq, Repr

def timeradd (tvp uvp : Timeval) : Timeval :=
  let tvSec := tvp.tvSec + uvp.tvSec
  let tvUsec := tvp.tvUsec + uvp.tvUsec
  if 1000000 ≤ tvUsec then ⟨tvSec + 1, tvUsec - 1000000⟩ else ⟨tvSec, tvUsec⟩

/-- `timercmp` with `<`; with `>` its arguments change places. -/
def timercmp (a b : Timeval) : Bool :=
  if a.tvSec = b.tvSec then a.tvUsec < b.tvUsec else a.tvSec < b.tvSec

def timersub (a b : Timeval) : Timeval :=
  let tvSec := a.tvSec - b.tvSec
  let tvUsec := a.tvUsec - b.tvUsec
  if tvUsec < 0 then ⟨tvSec - 1, tvUsec + 1000000⟩ else ⟨tvSec, tvUsec⟩

/-- The microseconds are those of a second. -/
def Timeval.Normalised (tv : Timeval) : Prop := 0 ≤ tv.tvUsec ∧ tv.tvUsec < 1000000

instance (tv : Timeval) : Decidable tv.Normalised := inferInstanceAs (Decidable (_ ∧ _))

def Timeval.micros (tv : Timeval) : Int := tv.tvSec * 1000000 + tv.tvUsec

theorem timercmp_iff {a b : Timeval} (first : a.Normalised) (second : b.Normalised) :
    timercmp a b = true ↔ a.micros < b.micros := by
  unfold timercmp Timeval.micros
  unfold Timeval.Normalised at first second
  split_ifs <;> simp only [decide_eq_true_eq] <;> omega

theorem timeradd_spec {a b : Timeval} (first : a.Normalised) (second : b.Normalised) :
    (timeradd a b).Normalised ∧ (timeradd a b).micros = a.micros + b.micros := by
  unfold timeradd Timeval.micros Timeval.Normalised
  unfold Timeval.Normalised at first second
  simp only
  split_ifs <;> simp only <;> omega

theorem timersub_spec {a b : Timeval} (first : a.Normalised) (second : b.Normalised) :
    (timersub a b).Normalised ∧ (timersub a b).micros = a.micros - b.micros := by
  unfold timersub Timeval.micros Timeval.Normalised
  unfold Timeval.Normalised at first second
  simp only
  split_ifs <;> simp only <;> omega

/-- A pointer to a `struct ril_event`: NULL, one of the two static lists, or an event. -/
inductive EventPointer (ε : Type)
  | null
  | timerList
  | pendingList
  | event (ev : ε)
  deriving DecidableEq

/-- What happened so far, for a timer by its number in the order of the additions. -/
structure TimerHistory (ε : Type) where
  /-- The deadlines, by number. -/
  added : List Timeval
  /-- The number of the timer an event was last added for. -/
  number : ε → Nat
  /-- For each `processTimeouts`, how many timers had been added and what time it saw. -/
  seen : List (Nat × Timeval)
  /-- The `processTimeouts` that moved the timer. -/
  moved : Nat → Option Nat
  /-- The timers in the order in which they fired. -/
  fired : List Nat

/-- The next `processTimeouts` moves these timers. -/
def TimerHistory.mark {ε : Type} (history : TimerHistory ε) (numbers : List Nat) :
    TimerHistory ε :=
  { history with moved := fun number =>
      if number ∈ numbers then some history.seen.length else history.moved number }

/-- The lists of ril_event.cpp, and the variable `ev` of a `firePending` that runs. -/
structure Timers (ε : Type) where
  links : Links (EventPointer ε)
  timeout : EventPointer ε → Timeval
  fd : ε → Int
  firing : Option (EventPointer ε)
  history : TimerHistory ε

namespace Timers

variable {ε : Type}

/-- Behind `ril_event_init`; the events are zeroed by `ril_event_set`. -/
def initial : Timers ε where
  links :=
    let self : EventPointer ε → EventPointer ε := fun
      | .timerList => .timerList
      | .pendingList => .pendingList
      | _ => .null
    ⟨self, self⟩
  timeout := fun _ => ⟨0, 0⟩
  fd := fun _ => 0
  firing := none
  history := ⟨[], fun _ => 0, [], fun _ => none, []⟩

section Calls

variable [DecidableEq ε]

/-- The loop of `ril_timer_add`: the first node that is not earlier, or the list itself,
whose own timeout is read before the pointers are compared. -/
def insertionPoint (s : Timers ε) (timeout : Timeval) : Nat → EventPointer ε →
    Option (EventPointer ε)
  | 0, _ => none
  | fuel + 1, list =>
      if timercmp (s.timeout list) timeout && list ≠ .timerList then
        s.insertionPoint timeout fuel (s.links.next list)
      else some list

/-- `ril_timer_add`; `tv` may be NULL. -/
def rilTimerAdd (s : Timers ε) (fuel : Nat) (ev : ε) (tv : Option Timeval) (now : Timeval) :
    Option (Timers ε) :=
  match tv with
  | none => some s
  | some tv =>
      let timeout := timeradd now tv
      let s := { s with
        fd := Function.update s.fd ev (-1)
        timeout := Function.update s.timeout (.event ev) timeout }
      (s.insertionPoint timeout fuel (s.links.next .timerList)).map fun list =>
        { s with
          links := s.links.insertBefore (.event ev) list
          history := { s.history with
            added := s.history.added ++ [timeout]
            number := Function.update s.history.number ev s.history.added.length } }

/-- `removeFromList` and `addToList` of a timer that has expired. -/
def moveToPending (s : Timers ε) (tev : EventPointer ε) : Timers ε :=
  { s with
    links := (s.links.remove .null tev).insertBefore tev .pendingList
    history := { s.history with
      moved := match tev with
        | .event ev =>
            Function.update s.history.moved (s.history.number ev) (some s.history.seen.length)
        | _ => s.history.moved } }

/-- The loop of `processTimeouts`. -/
def expire (now : Timeval) : Nat → EventPointer ε → Timers ε → Option (Timers ε)
  | 0, _, _ => none
  | fuel + 1, tev, s =>
      if tev ≠ .timerList && timercmp (s.timeout tev) now then
        expire now fuel (s.links.next tev) (s.moveToPending tev)
      else some s

/-- `processTimeouts`. -/
def processTimeouts (s : Timers ε) (fuel : Nat) (now : Timeval) : Option (Timers ε) :=
  (expire now fuel (s.links.next .timerList) s).map fun s =>
    { s with history := { s.history with
      seen := s.history.seen ++ [(s.history.added.length, now)] } }

/-- One turn of the loop of `firePending`, the last of which leaves it. -/
def fireNext (s : Timers ε) : Option (Timers ε) :=
  match s.firing with
  | some (.event ev) =>
      let next := s.links.next (.event ev)
      some { s with
        links := s.links.remove .null (.event ev)
        firing := some next
        history := { s.history with fired := s.history.fired ++ [s.history.number ev] } }
  | some .pendingList => some { s with firing := none }
  | _ => none

/-- `calcNextTimeout`, none for `-1`. -/
def calcNextTimeout (s : Timers ε) (now : Timeval) : Option Timeval :=
  let tev := s.links.next .timerList
  if tev = .timerList then none
  else if timercmp now (s.timeout tev) then some (timersub (s.timeout tev) now)
  else some ⟨0, 0⟩

end Calls

end Timers

inductive TimerOp (ε : Type)
  /-- `ril_timer_add` when `getNow` returns `now`. -/
  | add (ev : ε) (tv : Option Timeval) (now : Timeval)
  | processTimeouts (now : Timeval)
  /-- The call of `firePending`. -/
  | firePending
  /-- One turn of its loop. The function it calls may add timers in between. -/
  | fireNext

/-- The operation is an addition of this event. -/
def TimerOp.Adds {ε : Type} (op : TimerOp ε) (ev : ε) : Prop :=
  match op with
  | .add ev' _ _ => ev' = ev
  | _ => False

namespace Timers

variable {ε : Type}

/-- When the timer with this number is due. -/
def deadline (s : Timers ε) (number : Nat) : Timeval := s.history.added.getD number ⟨0, 0⟩

/-- The deadline of an event that is listed. -/
def due (s : Timers ε) (ev : ε) : Int := (s.timeout (.event ev)).micros

/-! ### The lists -/

/-- The two rings, what is in none of them, and where `firePending` stands. -/
structure Lists (s : Timers ε) (timers pending : List ε) : Prop where
  timerRing : s.links.Ring .timerList (timers.map .event)
  pendingRing : s.links.Ring .pendingList (pending.map .event)
  distinct : (timers ++ pending).Nodup
  unlisted : ∀ ev, ev ∉ timers ++ pending → s.links.next (.event ev) = .null
  sorted : timers.Pairwise fun first second => s.due first ≤ s.due second
  normalised : ∀ ev ∈ timers, (s.timeout (.event ev)).Normalised
  /-- The list itself has the timeout it was initialised with. -/
  sentinel : s.timeout .timerList = ⟨0, 0⟩
  firing : ∀ node, s.firing = some node → node = (pending.map .event).headD .pendingList

theorem initial_lists : (initial : Timers ε).Lists [] [] where
  timerRing := Links.ring_nil rfl rfl
  pendingRing := Links.ring_nil rfl rfl
  distinct := List.nodup_nil
  unlisted := fun _ _ => rfl
  sorted := List.Pairwise.nil
  normalised := nofun
  sentinel := rfl
  firing := nofun

variable {s : Timers ε} {timers pending : List ε}

/-- The two rings as the library has them. -/
theorem Lists.rings (lists : s.Lists timers pending) :
    s.links.Rings .null .timerList .pendingList (timers.map .event) (pending.map .event) where
  ring := lists.timerRing
  ring' := lists.pendingRing
  apart := by
    have disjoint := (List.nodup_append.mp lists.distinct).2.2
    intro a inside inside'
    rcases List.mem_cons.mp inside with rfl | inTimers
    · simp at inside'
    · obtain ⟨ev, listed, rfl⟩ := List.mem_map.mp inTimers
      have listed' : ev ∈ pending := by simpa using inside'
      exact disjoint ev listed ev listed' rfl
  outside := by
    intro a a_ne out out'
    cases a with
    | null => exact absurd rfl a_ne
    | timerList => simp at out
    | pendingList => simp at out'
    | event ev =>
        apply lists.unlisted ev
        rw [List.mem_append, not_or]
        exact ⟨by simpa using out, by simpa using out'⟩
  notNull := by simp

theorem outside_of_unlisted {ev : ε} (fresh : ev ∉ timers ++ pending) :
    EventPointer.event ev ∉ EventPointer.timerList :: timers.map EventPointer.event ∧
      EventPointer.event ev ∉ EventPointer.pendingList :: pending.map EventPointer.event := by
  rw [List.mem_append, not_or] at fresh
  simpa using fresh

/-- What the pointers are is what the rings say. -/
theorem Lists.of_rings (rings : s.links.Rings .null .timerList .pendingList (timers.map .event)
      (pending.map .event))
    (sorted : timers.Pairwise fun first second => s.due first ≤ s.due second)
    (normalised : ∀ ev ∈ timers, (s.timeout (.event ev)).Normalised)
    (sentinel : s.timeout .timerList = ⟨0, 0⟩)
    (firing : ∀ node, s.firing = some node →
      node = (pending.map .event).headD .pendingList) : s.Lists timers pending where
  timerRing := rings.ring
  pendingRing := rings.ring'
  distinct := by
    have nodup {sentinel : EventPointer ε} {list : List ε}
        (distinct : (sentinel :: list.map EventPointer.event).Nodup) : list.Nodup :=
      List.Nodup.of_map _ (List.nodup_cons.mp distinct).2
    refine List.nodup_append.mpr ⟨nodup rings.ring.distinct, nodup rings.ring'.distinct, ?_⟩
    rintro ev listed _ listed' rfl
    exact rings.apart (.event ev) (by simp [listed]) (by simp [listed'])
  unlisted := fun ev fresh =>
    rings.outside _ (by simp) (outside_of_unlisted fresh).1 (outside_of_unlisted fresh).2
  sorted := sorted
  normalised := normalised
  sentinel := sentinel
  firing := firing

/-- Behind the front part of a sorted list there is no more of its kind. -/
theorem not_of_mem_dropWhile {r : ε → ε → Prop} {p : ε → Bool} {list : List ε}
    (sorted : list.Pairwise r)
    (down : ∀ a ∈ list, ∀ b ∈ list, r a b → p b = true → p a = true) :
    ∀ b ∈ list.dropWhile p, p b = false := by
  induction list with
  | nil => nofun
  | cons head list inductionHypothesis =>
      obtain ⟨first, sorted⟩ := List.pairwise_cons.mp sorted
      by_cases kept : p head = true
      · rw [List.dropWhile_cons_of_pos kept]
        exact inductionHypothesis sorted fun a inside b inside' =>
          down a (List.mem_cons_of_mem _ inside) b (List.mem_cons_of_mem _ inside')
      · rw [List.dropWhile_cons_of_neg kept]
        intro b member
        rcases List.mem_cons.mp member with rfl | behind
        · simpa using kept
        · by_contra more
          exact kept (down head List.mem_cons_self b member (first b behind) (by simpa using more))

/-! ### Steps -/

variable [DecidableEq ε]

/-- An event is added when it is in no list, which leaves its `next` NULL, and the event
loop calls one function at a time. -/
def Allows (s : Timers ε) : TimerOp ε → Prop
  | .add ev tv now => s.links.next (.event ev) = .null ∧ now.Normalised ∧
      ∀ delay ∈ tv, delay.Normalised ∧ 0 ≤ delay.tvSec
  | .processTimeouts now => s.firing = none ∧ now.Normalised
  | .firePending => s.firing = none
  | .fireNext => s.firing ≠ none

instance (s : Timers ε) : DecidablePred s.Allows := fun op =>
  match op with
  | .add _ _ _ => inferInstanceAs (Decidable (_ ∧ _ ∧ _))
  | .processTimeouts _ => inferInstanceAs (Decidable (_ ∧ _))
  | .firePending => inferInstanceAs (Decidable (_ = _))
  | .fireNext => inferInstanceAs (Decidable (_ ≠ _))

/-- One step, with `fuel` for each of its loops. -/
def step (fuel : Nat) (s : Timers ε) (op : TimerOp ε) : Option (Timers ε) :=
  if s.Allows op then
    match op with
    | .add ev tv now => s.rilTimerAdd fuel ev tv now
    | .processTimeouts now => s.processTimeouts fuel now
    | .firePending => some { s with firing := some (s.links.next .pendingList) }
    | .fireNext => s.fireNext
  else none

/-- The insertion point is the first timer that is not earlier. -/
theorem insertionPoint_eq (timeout : Timeval) {front back : List ε}
    (ring : s.links.Ring .timerList ((front ++ back).map .event)) {fuel : Nat}
    (enough : back.length < fuel) :
    s.insertionPoint timeout fuel ((back.map .event).headD .timerList) =
      some (((back.dropWhile fun ev => timercmp (s.timeout (.event ev)) timeout).map
        .event).headD .timerList) := by
  induction back generalizing front fuel with
  | nil =>
      obtain ⟨fuel, rfl⟩ : ∃ less, fuel = less + 1 := ⟨fuel - 1, by simp at enough; omega⟩
      simp [insertionPoint]
  | cons ev back inductionHypothesis =>
      obtain ⟨fuel, rfl⟩ : ∃ less, fuel = less + 1 := ⟨fuel - 1, by simp at enough; omega⟩
      have bound : back.length < fuel := by simpa using enough
      have shifted : s.links.Ring .timerList ((front ++ [ev] ++ back).map .event) := by
        simpa using ring
      have rest := inductionHypothesis shifted bound
      rw [List.map_append, List.map_cons] at ring
      unfold insertionPoint
      by_cases earlier : timercmp (s.timeout (.event ev)) timeout = true
      · simp only [List.map_cons, List.headD_cons, earlier, Bool.true_and, List.dropWhile_cons,
          if_true]
        rw [if_pos (by simp), ring.next_node]
        exact rest
      · simp [earlier]

/-- An event in front of the timers that are not earlier. -/
theorem Lists.insert {front back : List ε} (lists : s.Lists (front ++ back) pending) {ev : ε}
    (fresh : ev ∉ front ++ back ++ pending) {timeout : Timeval} (normal : timeout.Normalised)
    (inFront : ∀ other ∈ front, s.due other < timeout.micros)
    (inBack : ∀ other ∈ back, timeout.micros ≤ s.due other) (fd : ε → Int)
    (history : TimerHistory ε) :
    Lists { s with
      fd := fd
      timeout := Function.update s.timeout (.event ev) timeout
      links := s.links.insertBefore (.event ev) ((back.map .event).headD .timerList)
      history := history } (front ++ ev :: back) pending := by
  have own : Function.update s.timeout (.event ev) timeout (.event ev) = timeout :=
    Function.update_self ..
  have others {other : ε} (apart : other ≠ ev) :
      Function.update s.timeout (.event ev) timeout (.event other) = s.timeout (.event other) :=
    Function.update_of_ne (fun same => apart (EventPointer.event.inj same)) ..
  have notEv {other : ε} (listed : other ∈ front ++ back) : other ≠ ev := fun same =>
    fresh (List.mem_append_left _ (same ▸ listed))
  apply Lists.of_rings
  case rings =>
    obtain ⟨outTimers, outPending⟩ := outside_of_unlisted fresh
    have rings := lists.rings
    rw [List.map_append] at rings outTimers
    rw [List.map_append, List.map_cons]
    exact rings.insertBefore outTimers outPending (by simp)
  case sorted =>
    have sorted := List.pairwise_append.mp lists.sorted
    unfold due at inFront inBack sorted ⊢
    dsimp only
    refine List.pairwise_append.mpr ⟨?_, List.pairwise_cons.mpr ⟨?_, ?_⟩, ?_⟩
    · refine sorted.1.imp_of_mem fun first second ordered => ?_
      rw [others (notEv (List.mem_append_left _ first)),
        others (notEv (List.mem_append_left _ second))]
      exact ordered
    · intro other member
      rw [own, others (notEv (List.mem_append_right _ member))]
      exact inBack other member
    · refine sorted.2.1.imp_of_mem fun first second ordered => ?_
      rw [others (notEv (List.mem_append_right _ first)),
        others (notEv (List.mem_append_right _ second))]
      exact ordered
    · intro first inside second member
      rw [others (notEv (List.mem_append_left _ inside))]
      rcases List.mem_cons.mp member with rfl | behind
      · rw [own]
        exact (inFront first inside).le
      · rw [others (notEv (List.mem_append_right _ behind))]
        exact sorted.2.2 first inside second behind
  case normalised =>
    intro other member
    dsimp only
    by_cases same : other = ev
    · subst same
      rw [own]
      exact normal
    · rw [others same]
      apply lists.normalised
      simp only [List.mem_append, List.mem_cons] at member ⊢
      tauto
  case sentinel => exact lists.sentinel
  case firing => exact lists.firing

/-- `ril_timer_add` of an event that is in no list puts it in front of the first timer
that is not earlier. -/
theorem Lists.rilTimerAdd (lists : s.Lists timers pending) {ev : ε}
    (fresh : ev ∉ timers ++ pending) {tv now : Timeval} (delay : tv.Normalised)
    (clock : now.Normalised) {fuel : Nat} (enough : timers.length < fuel) :
    ∃ s' front back, s.rilTimerAdd fuel ev (some tv) now = some s' ∧ timers = front ++ back ∧
      s'.Lists (front ++ ev :: back) pending ∧
      s'.timeout = Function.update s.timeout (.event ev) (timeradd now tv) ∧
      s'.history = { s.history with
        added := s.history.added ++ [timeradd now tv]
        number := Function.update s.history.number ev s.history.added.length } := by
  obtain ⟨normal, -⟩ := timeradd_spec clock delay
  unfold Timers.rilTimerAdd
  dsimp only
  generalize timeradd now tv = timeout at *
  have unchanged {other : ε} (listed : other ∈ timers) :
      Function.update s.timeout (.event ev) timeout (.event other) = s.timeout (.event other) := by
    apply Function.update_of_ne
    intro same
    exact fresh (List.mem_append_left _ (EventPointer.event.inj same ▸ listed))
  -- the loop stops at the first timer that is not earlier
  obtain ⟨earlier, isEarlier⟩ : ∃ earlier : ε → Bool, earlier = fun other =>
      timercmp (Function.update s.timeout (.event ev) timeout (.event other)) timeout := ⟨_, rfl⟩
  have before {other : ε} (listed : other ∈ timers) :
      earlier other = true ↔ s.due other < timeout.micros := by
    rw [isEarlier]
    simp only [unchanged listed]
    exact timercmp_iff (lists.normalised other listed) normal
  have split : timers = timers.takeWhile earlier ++ timers.dropWhile earlier :=
    List.takeWhile_append_dropWhile.symm
  have inFront : ∀ other ∈ timers.takeWhile earlier, s.due other < timeout.micros := by
    intro other member
    exact (before ((List.takeWhile_sublist _).mem member)).mp (List.mem_takeWhile_imp member)
  have inBack : ∀ other ∈ timers.dropWhile earlier, timeout.micros ≤ s.due other := by
    intro other member
    have late := not_of_mem_dropWhile lists.sorted (fun first listed second listed' ordered late =>
      (before listed).mpr (lt_of_le_of_lt ordered ((before listed').mp late))) other member
    by_contra short
    rw [(before ((List.dropWhile_sublist _).mem member)).mpr (by omega)] at late
    cases late
  have ring : ({ s with
      fd := Function.update s.fd ev (-1)
      timeout := Function.update s.timeout (.event ev) timeout } : Timers ε).links.Ring .timerList
        (([] ++ timers).map .event) := lists.timerRing
  have point := insertionPoint_eq timeout ring enough
  rw [lists.timerRing.next_sentinel, point, ← isEarlier]
  rw [split] at lists fresh
  exact ⟨_, timers.takeWhile earlier, timers.dropWhile earlier, rfl, split,
    lists.insert fresh normal inFront inBack _ _, rfl, rfl⟩

/-- A timer that has expired goes from the head of the one list to the end of the
other. -/
theorem Lists.moveToPending {ev : ε} (lists : s.Lists (ev :: timers) pending)
    (idle : s.firing = none) : (s.moveToPending (.event ev)).Lists timers (pending ++ [ev]) := by
  apply Lists.of_rings
  case rings =>
    have rings : s.links.Rings .null .timerList .pendingList ([] ++ .event ev :: timers.map .event)
      (pending.map .event) := lists.rings
    have removed := rings.remove
    obtain ⟨outTimers, outPending⟩ := removed.not_mem_of_next (rings.ring.remove .null).2
    have whole : (s.links.remove .null (.event ev)).Rings .null .pendingList .timerList
        (pending.map .event ++ []) (timers.map .event) := by
      rw [List.append_nil]
      exact removed.symm
    rw [List.map_append]
    exact (whole.insertBefore (by rwa [List.append_nil]) outTimers (by simp)).symm
  case sorted => exact (List.pairwise_cons.mp lists.sorted).2
  case normalised => exact fun other member => lists.normalised other (List.mem_cons_of_mem _ member)
  case sentinel => exact lists.sentinel
  case firing =>
    intro node running
    exact absurd (idle.symm.trans running) nofun

/-- The loop of `processTimeouts` moves the timers whose deadline has passed. -/
theorem Lists.expire (lists : s.Lists timers pending) (idle : s.firing = none) {now : Timeval}
    (clock : now.Normalised) {fuel : Nat} (enough : timers.length < fuel) :
    ∃ s' moved rest, Timers.expire now fuel ((timers.map .event).headD .timerList) s = some s' ∧
      timers = moved ++ rest ∧ (∀ ev ∈ moved, s.due ev < now.micros) ∧
      (∀ ev ∈ rest, now.micros ≤ s.due ev) ∧ s'.Lists rest (pending ++ moved) ∧
      s'.timeout = s.timeout ∧ s'.firing = none ∧
      s'.history = s.history.mark (moved.map s.history.number) := by
  induction timers generalizing s pending fuel with
  | nil =>
      obtain ⟨fuel, rfl⟩ : ∃ less, fuel = less + 1 := ⟨fuel - 1, by simp at enough; omega⟩
      refine ⟨s, [], [], ?_, rfl, nofun, nofun, by simpa using lists, rfl, idle, ?_⟩
      · simp [Timers.expire]
      · simp [TimerHistory.mark]
  | cons ev timers inductionHypothesis =>
      obtain ⟨fuel, rfl⟩ : ∃ less, fuel = less + 1 := ⟨fuel - 1, by simp at enough; omega⟩
      have past := timercmp_iff (lists.normalised ev List.mem_cons_self) clock
      by_cases expired : timercmp (s.timeout (.event ev)) now = true
      · have next : s.links.next (.event ev) = (timers.map .event).headD .timerList := by
          have ring : s.links.Ring .timerList ([] ++ .event ev :: timers.map .event) :=
            lists.timerRing
          exact ring.next_node
        have enough' : timers.length < fuel := by simpa using enough
        obtain ⟨s', moved, rest, ran, split, early, late, lists', timeout, idle', history⟩ :=
          inductionHypothesis (lists.moveToPending idle) idle enough'
        refine ⟨s', ev :: moved, rest, ?_, by rw [split]; rfl, ?_, late, ?_, timeout, idle', ?_⟩
        · simp only [List.map_cons, List.headD_cons, Timers.expire, expired, next]
          simpa using ran
        · intro other member
          rcases List.mem_cons.mp member with rfl | behind
          · exact past.mp expired
          · exact early other behind
        · simpa using lists'
        · rw [history]
          simp only [Timers.moveToPending, TimerHistory.mark, List.map_cons, List.mem_cons,
            TimerHistory.mk.injEq, true_and, and_true]
          funext number
          by_cases same : number = s.history.number ev
          · subst same
            simp
          · simp [same]
      · refine ⟨s, [], ev :: timers, ?_, rfl, nofun, ?_, by simpa using lists, rfl, idle,
          by simp [TimerHistory.mark]⟩
        · simp [Timers.expire, expired]
        · have first : now.micros ≤ s.due ev := by
            rw [past] at expired
            exact not_lt.mp expired
          intro other member
          rcases List.mem_cons.mp member with rfl | behind
          · exact first
          · exact first.trans ((List.pairwise_cons.mp lists.sorted).1 other behind)

/-- A turn of `firePending` takes the first pending event. -/
theorem Lists.fireNext (lists : s.Lists timers pending) (running : s.firing ≠ none) :
    (pending = [] ∧ s.fireNext = some { s with firing := none }) ∨
    ∃ ev rest s', pending = ev :: rest ∧ s.fireNext = some s' ∧ s'.Lists timers rest ∧
      s'.timeout = s.timeout ∧
      s'.history = { s.history with fired := s.history.fired ++ [s.history.number ev] } := by
  obtain ⟨node, here⟩ := Option.ne_none_iff_exists'.mp running
  have place := lists.firing node here
  cases pending with
  | nil =>
      obtain rfl : node = .pendingList := place
      exact Or.inl ⟨rfl, by simp [Timers.fireNext, here]⟩
  | cons ev rest =>
      obtain rfl : node = .event ev := place
      refine Or.inr ⟨ev, rest, { s with
        links := s.links.remove .null (.event ev)
        firing := some (s.links.next (.event ev))
        history := { s.history with fired := s.history.fired ++ [s.history.number ev] } }, rfl,
        by simp [Timers.fireNext, here], ?_, rfl, rfl⟩
      have rings : s.links.Rings .null .pendingList .timerList ([] ++ .event ev :: rest.map .event)
        (timers.map .event) := lists.rings.symm
      apply Lists.of_rings
      case rings => exact rings.remove.symm
      case sorted => exact lists.sorted
      case normalised => exact lists.normalised
      case sentinel => exact lists.sentinel
      case firing =>
        rintro node rfl'
        obtain rfl := Option.some.inj rfl'
        exact rings.ring.next_node

end Timers

end RildHisi.Libril
