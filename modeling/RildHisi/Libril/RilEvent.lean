import Mathlib.Data.Fintype.Card
import Mathlib.Data.Finset.Insert
import Mathlib.Logic.Function.Basic

/-!
Owns the watch table of ril_event.cpp: `ril_event_set`, `ril_event_add`,
`ril_event_del` and `processReadReadies` as the code computes them, and what they
keep while no two watched events have the same descriptor. Timers are not embedded.
-/

namespace RildHisi.Libril

/-- `struct ril_event`. Its callback and its parameter go by the name of the event. -/
structure RilEvent where
  fd : Int
  index : Int
  persist : Bool
  deriving DecidableEq, Repr

/-- `MAX_FD_EVENTS`. -/
def maxFdEvents : Nat := 8

/-- The statics of ril_event.cpp, for events with names in `ε`. -/
structure Watches (ε : Type) where
  events : ε → RilEvent
  watchTable : List (Option ε)
  readFds : Finset Int
  nfds : Int
  /-- `pending_list`, the next event to fire first. -/
  pendingList : List ε
  /-- A call has returned with `listMutex` locked. -/
  listMutex : Bool

namespace Watches

variable {ε : Type}

/-- The static memory behind `ril_event_init`. -/
def rilEventInit : Watches ε where
  events := fun _ => ⟨0, 0, false⟩
  watchTable := List.replicate maxFdEvents none
  readFds := ∅
  nfds := 0
  pendingList := []
  listMutex := false

section Calls

variable [DecidableEq ε]

/-- `ril_event_set`. -/
def rilEventSet (w : Watches ε) (ev : ε) (fd : Int) (persist : Bool) : Watches ε :=
  { w with events := Function.update w.events ev ⟨fd, -1, persist⟩ }

/-- `ril_event_add`: the first slot that is free. Where there is none the event is dropped. -/
def rilEventAdd (w : Watches ε) (ev : ε) : Watches ε :=
  match w.watchTable.findIdx? Option.isNone with
  | none => w
  | some i =>
      let fd := (w.events ev).fd
      { w with
        events := Function.update w.events ev { w.events ev with index := i }
        watchTable := w.watchTable.set i (some ev)
        readFds := insert fd w.readFds
        nfds := if w.nfds ≤ fd then fd + 1 else w.nfds }

/-- The largest descriptor in a watch table, 0 if there is none. -/
def largestFd (events : ε → RilEvent) (watchTable : List (Option ε)) : Int :=
  watchTable.foldl (fun n rev => rev.elim n fun rev => max n (events rev).fd) 0

/-- `removeWatch`. -/
def removeWatch (w : Watches ε) (ev : ε) (index : Nat) : Watches ε :=
  let watchTable := w.watchTable.set index none
  let events := Function.update w.events ev { w.events ev with index := -1 }
  let fd := (w.events ev).fd
  { w with
    events := events
    watchTable := watchTable
    readFds := w.readFds.erase fd
    nfds := if fd + 1 = w.nfds then largestFd events watchTable + 1 else w.nfds }

/-- `ril_event_del`. For an event without an index it returns with the mutex locked. -/
def rilEventDel (w : Watches ε) (ev : ε) : Watches ε :=
  let index := (w.events ev).index
  if index < 0 ∨ (maxFdEvents : Int) ≤ index then { w with listMutex := true }
  else w.removeWatch ev index.toNat

/-- One turn of the loop of `processReadReadies`, with the number of events to come. -/
def processReadReady (rfds : Finset Int) (state : Watches ε × Nat) (i : Nat) :
    Watches ε × Nat :=
  let (w, n) := state
  if n = 0 then (w, n)
  else match w.watchTable[i]?.join with
    | none => (w, n)
    | some rev =>
        if (w.events rev).fd ∈ rfds then
          let w := { w with pendingList := w.pendingList ++ [rev] }
          (if (w.events rev).persist then w else w.removeWatch rev i, n - 1)
        else (w, n)

/-- `processReadReadies`. -/
def processReadReadies (w : Watches ε) (rfds : Finset Int) (n : Nat) : Watches ε :=
  ((List.range maxFdEvents).foldl (processReadReady rfds) (w, n)).1

end Calls

/-! ### What the table keeps -/

/-- The event has a slot. -/
def Watched (w : Watches ε) (ev : ε) : Prop := some ev ∈ w.watchTable

instance [DecidableEq ε] (w : Watches ε) (ev : ε) : Decidable (w.Watched ev) :=
  inferInstanceAs (Decidable (_ ∈ _))

/-- Every slot is known to its event, `readFds` and `nfds` are those of the watched
events, and no two of them share a descriptor. -/
structure Wf (w : Watches ε) : Prop where
  length : w.watchTable.length = maxFdEvents
  placed : ∀ (i : Nat) ev, w.watchTable[i]? = some (some ev) → (w.events ev).index = i
  readFds : ∀ fd, fd ∈ w.readFds ↔ ∃ ev, w.Watched ev ∧ (w.events ev).fd = fd
  distinct : ∀ ev ev', w.Watched ev → w.Watched ev' → (w.events ev).fd = (w.events ev').fd →
    ev = ev'
  below : ∀ ev, w.Watched ev → 0 ≤ (w.events ev).fd ∧ (w.events ev).fd < w.nfds

/-- The same descriptors and kinds of events, in whatever slots. -/
def SameEvents (w w' : Watches ε) : Prop :=
  ∀ ev, (w'.events ev).fd = (w.events ev).fd ∧ (w'.events ev).persist = (w.events ev).persist

theorem SameEvents.refl (w : Watches ε) : SameEvents w w := fun _ => ⟨rfl, rfl⟩

theorem SameEvents.trans {w w' w'' : Watches ε} (first : SameEvents w w')
    (second : SameEvents w' w'') : SameEvents w w'' :=
  fun ev => ⟨(second ev).1.trans (first ev).1, (second ev).2.trans (first ev).2⟩

section Laws

variable {w : Watches ε} {ev : ε}

theorem watched_iff : w.Watched ev ↔ ∃ i : Nat, w.watchTable[i]? = some (some ev) :=
  List.mem_iff_getElem?

theorem wf_rilEventInit : (rilEventInit : Watches ε).Wf where
  length := rfl
  placed := fun i ev slot => by
    have member := List.mem_of_getElem? slot
    cases List.eq_of_mem_replicate member
  readFds := fun fd => by simp [rilEventInit, Watched]
  distinct := fun ev _ watched => by cases List.eq_of_mem_replicate watched
  below := fun ev watched => by cases List.eq_of_mem_replicate watched

/-- A free slot is there as long as there are fewer events than slots. -/
theorem Wf.free [Fintype ε] (wf : w.Wf) (few : Fintype.card ε < maxFdEvents) :
    ∃ i, w.watchTable.findIdx? Option.isNone = some i := by
  rw [← Option.isSome_iff_exists, List.findIdx?_isSome]
  by_contra full
  have occupied : ∀ slot ∈ w.watchTable, slot.isSome := by
    intro slot member
    by_contra none_
    apply full
    exact List.any_eq_true.mpr ⟨slot, member, by simpa using none_⟩
  have inside (i : Fin maxFdEvents) : i.val < w.watchTable.length := by
    rw [wf.length]
    exact i.isLt
  let holder (i : Fin maxFdEvents) : ε :=
    (w.watchTable.get ⟨i.val, inside i⟩).get (occupied _ (List.get_mem _ _))
  have slot (i : Fin maxFdEvents) : w.watchTable[i.val]? = some (some (holder i)) := by
    rw [List.getElem?_eq_getElem (inside i)]
    exact congrArg some (Option.some_get _).symm
  have injective : Function.Injective holder := by
    intro i j same
    have first := wf.placed i _ (slot i)
    rw [same, wf.placed j _ (slot j)] at first
    exact Fin.ext (by omega)
  have enough := Fintype.card_le_of_injective holder injective
  rw [Fintype.card_fin] at enough
  omega

/-! ### What the calls do to the table -/

/-- The table is in order, and these events are watched now. -/
structure Becomes (w w' : Watches ε) (watched : ε → Prop) : Prop where
  wf : w'.Wf
  watched : ∀ ev, w'.Watched ev ↔ watched ev
  events : SameEvents w w'
  listMutex : w'.listMutex = w.listMutex

theorem Becomes.refl (wf : w.Wf) : Becomes w w w.Watched :=
  ⟨wf, fun _ => Iff.rfl, SameEvents.refl w, rfl⟩

theorem Becomes.congr {w' : Watches ε} {watched watched' : ε → Prop}
    (becomes : Becomes w w' watched) (same : ∀ ev, watched ev ↔ watched' ev) :
    Becomes w w' watched' :=
  ⟨becomes.wf, fun ev => (becomes.watched ev).trans (same ev), becomes.events, becomes.listMutex⟩

/-- The events in these slots that are ready are pending, each once, and those of them
that are not persistent have lost their slot. -/
structure Readied (w w' : Watches ε) (rfds : Finset Int) (slots : List Nat) (fired : List ε) :
    Prop where
  ready : ∀ ev ∈ fired, (w.events ev).fd ∈ rfds ∧
    ∃ i ∈ slots, w.watchTable[i]? = some (some ev)
  nodup : fired.Nodup
  pending : w'.pendingList = w.pendingList ++ fired
  becomes : Becomes w w' fun ev => w.Watched ev ∧ (ev ∈ fired → (w.events ev).persist = true)
  kept : ∀ j, j ∉ slots → w'.watchTable[j]? = w.watchTable[j]?

theorem Readied.nothing (wf : w.Wf) (rfds : Finset Int) (slots : List Nat) :
    Readied w w rfds slots [] where
  ready := by simp
  nodup := List.nodup_nil
  pending := (List.append_nil _).symm
  becomes := (Becomes.refl wf).congr fun ev => by simp
  kept := fun _ _ => rfl

theorem Readied.append {w' w'' : Watches ε} {rfds : Finset Int} {i : Nat} {slots : List Nat}
    {first rest : List ε} (readied : Readied w w' rfds [i] first)
    (more : Readied w' w'' rfds slots rest) (wf : w.Wf) (fresh : i ∉ slots) :
    Readied w w'' rfds (i :: slots) (first ++ rest) := by
  have earlier {ev : ε} (member : ev ∈ rest) : (w.events ev).fd ∈ rfds ∧
      ∃ j ∈ slots, w.watchTable[j]? = some (some ev) := by
    obtain ⟨ready, j, inside, slot⟩ := more.ready ev member
    have apart : j ≠ i := fun same => fresh (same ▸ inside)
    rw [(readied.becomes.events ev).1] at ready
    rw [readied.kept j (by simpa using apart)] at slot
    exact ⟨ready, j, inside, slot⟩
  have disjoint : ∀ ev ∈ first, ev ∉ rest := by
    intro ev member member'
    obtain ⟨-, i', inside, slot⟩ := readied.ready ev member
    obtain ⟨-, j, inside', slot'⟩ := earlier member'
    obtain rfl : i' = i := List.mem_singleton.mp inside
    have index := wf.placed i' ev slot
    rw [wf.placed j ev slot'] at index
    obtain rfl : j = i' := by omega
    exact fresh inside'
  refine ⟨?_, ?_, ?_, ⟨more.becomes.wf, ?_, readied.becomes.events.trans more.becomes.events,
    more.becomes.listMutex.trans readied.becomes.listMutex⟩, ?_⟩
  · intro ev member
    rcases List.mem_append.mp member with here | later
    · obtain ⟨ready, i', inside, slot⟩ := readied.ready ev here
      obtain rfl : i' = i := List.mem_singleton.mp inside
      exact ⟨ready, i', List.mem_cons_self, slot⟩
    · obtain ⟨ready, j, inside, slot⟩ := earlier later
      exact ⟨ready, j, List.mem_cons_of_mem _ inside, slot⟩
  · exact List.nodup_append.mpr ⟨readied.nodup, more.nodup,
      fun ev member ev' member' same => disjoint ev member (same ▸ member')⟩
  · rw [more.pending, readied.pending, List.append_assoc]
  · intro ev
    rw [more.becomes.watched, readied.becomes.watched, (readied.becomes.events ev).2,
      List.mem_append]
    constructor
    · rintro ⟨⟨watched, here⟩, later⟩
      exact ⟨watched, fun member => member.elim here later⟩
    · rintro ⟨watched, all⟩
      exact ⟨⟨watched, fun member => all (Or.inl member)⟩, fun member => all (Or.inr member)⟩
  · intro j outside
    rw [more.kept j fun member => outside (List.mem_cons_of_mem _ member),
      readied.kept j fun member => outside (List.mem_singleton.mp member ▸ List.mem_cons_self)]

/-- The loop of `largestFd` only goes up. -/
theorem le_largest (events : ε → RilEvent) (table : List (Option ε)) (n : Int) :
    n ≤ table.foldl (fun n rev => rev.elim n fun rev => max n (events rev).fd) n := by
  induction table generalizing n with
  | nil => exact le_rfl
  | cons slot table inductionHypothesis =>
      refine le_trans ?_ (inductionHypothesis _)
      cases slot with
      | none => exact le_rfl
      | some rev => exact le_max_left _ _

theorem fd_le_largestFd {events : ε → RilEvent} {watchTable : List (Option ε)} {ev : ε}
    (member : some ev ∈ watchTable) : (events ev).fd ≤ largestFd events watchTable := by
  obtain ⟨front, back, rfl⟩ := List.append_of_mem member
  rw [largestFd, List.foldl_append, List.foldl_cons]
  exact le_trans (le_max_right _ _) (le_largest events back _)

variable [DecidableEq ε]

/-- An event of which nothing but the index changes. -/
theorem sameEvents_setIndex (index : Int) (events : ε → RilEvent) (other : ε) :
    (Function.update events ev { events ev with index := index } other).fd = (events other).fd ∧
      (Function.update events ev { events ev with index := index } other).persist =
        (events other).persist := by
  by_cases same : other = ev
  · subst same
    rw [Function.update_self]
    exact ⟨rfl, rfl⟩
  · rw [Function.update_of_ne same]
    exact ⟨rfl, rfl⟩

/-- An event that is not watched may be set up anew. -/
theorem Wf.rilEventSet (wf : w.Wf) (unwatched : ¬ w.Watched ev) (fd : Int) (persist : Bool) :
    (w.rilEventSet ev fd persist).Wf := by
  have kept {other : ε} (watched : w.Watched other) :
      (w.rilEventSet ev fd persist).events other = w.events other := by
    apply Function.update_of_ne
    rintro rfl
    exact unwatched watched
  obtain ⟨length, placed, readFds, distinct, below⟩ := wf
  refine ⟨length, ?_, ?_, ?_, ?_⟩
  · intro i other slot
    rw [kept (watched_iff.mpr ⟨i, slot⟩)]
    exact placed i other slot
  · intro fd'
    rw [show (w.rilEventSet ev fd persist).readFds = w.readFds from rfl, readFds]
    refine exists_congr fun other => and_congr_right fun watched => ?_
    rw [kept watched]
  · intro first second watched watched' same
    rw [kept watched, kept watched'] at same
    exact distinct first second watched watched' same
  · intro other watched
    rw [kept watched]
    exact below other watched

theorem Wf.rilEventAdd (wf : w.Wf) {i : Nat}
    (free : w.watchTable.findIdx? Option.isNone = some i) (unwatched : ¬ w.Watched ev)
    (valid : 0 ≤ (w.events ev).fd)
    (unshared : ∀ other, w.Watched other → (w.events other).fd ≠ (w.events ev).fd) :
    Becomes w (w.rilEventAdd ev) (fun other => other = ev ∨ w.Watched other) ∧
      (w.rilEventAdd ev).pendingList = w.pendingList := by
  obtain ⟨inside, empty, -⟩ := List.findIdx?_eq_some_iff_getElem.mp free
  have vacant : w.watchTable[i]? = some none := by
    rw [List.getElem?_eq_getElem inside, Option.isNone_iff_eq_none.mp empty]
  have sameEvents : SameEvents w (w.rilEventAdd ev) := by
    simp only [Watches.rilEventAdd, free]
    exact sameEvents_setIndex i w.events
  obtain ⟨table, events, readFds, nfds, pending, mutex⟩ :
      (w.rilEventAdd ev).watchTable = w.watchTable.set i (some ev) ∧
      (w.rilEventAdd ev).events = Function.update w.events ev { w.events ev with index := i } ∧
      (w.rilEventAdd ev).readFds = insert (w.events ev).fd w.readFds ∧
      (w.rilEventAdd ev).nfds =
        (if w.nfds ≤ (w.events ev).fd then (w.events ev).fd + 1 else w.nfds) ∧
      (w.rilEventAdd ev).pendingList = w.pendingList ∧
      (w.rilEventAdd ev).listMutex = w.listMutex := by
    simp [Watches.rilEventAdd, free]
  generalize w.rilEventAdd ev = w' at *
  have slots (j : Nat) : w'.watchTable[j]? =
      if i = j then some (some ev) else w.watchTable[j]? := by
    rw [table, List.getElem?_set]
    simp only [inside, if_true]
  have watched (other : ε) : w'.Watched other ↔ other = ev ∨ w.Watched other := by
    rw [watched_iff, watched_iff]
    constructor
    · rintro ⟨j, slot⟩
      rw [slots] at slot
      by_cases here : i = j
      · rw [if_pos here] at slot
        simp only [Option.some.injEq] at slot
        exact Or.inl slot.symm
      · rw [if_neg here] at slot
        exact Or.inr ⟨j, slot⟩
    · rintro (rfl | ⟨j, slot⟩)
      · exact ⟨i, by rw [slots, if_pos rfl]⟩
      · have elsewhere : i ≠ j := by
          rintro rfl
          rw [vacant] at slot
          cases slot
        exact ⟨j, by rw [slots, if_neg elsewhere, slot]⟩
  refine ⟨⟨⟨?_, ?_, ?_, ?_, ?_⟩, watched, sameEvents, mutex⟩, pending⟩
  · rw [table, List.length_set, wf.length]
  · intro j other slot
    rw [slots] at slot
    by_cases here : i = j
    · rw [if_pos here] at slot
      obtain rfl : ev = other := by simpa using slot
      rw [events, Function.update_self, here]
    · rw [if_neg here] at slot
      have apart : other ≠ ev := fun same => unwatched (same ▸ watched_iff.mpr ⟨j, slot⟩)
      rw [events, Function.update_of_ne apart]
      exact wf.placed j other slot
  · intro fd
    rw [readFds, Finset.mem_insert, wf.readFds]
    simp only [watched, (sameEvents _).1]
    constructor
    · rintro (rfl | ⟨other, listed, same⟩)
      · exact ⟨ev, Or.inl rfl, rfl⟩
      · exact ⟨other, Or.inr listed, same⟩
    · rintro ⟨other, rfl | listed, same⟩
      · exact Or.inl same.symm
      · exact Or.inr ⟨other, listed, same⟩
  · intro first second listed listed' same
    rw [(sameEvents first).1, (sameEvents second).1] at same
    rcases (watched first).mp listed with rfl | old
    · rcases (watched second).mp listed' with rfl | old'
      · rfl
      · exact absurd same.symm (unshared second old')
    · rcases (watched second).mp listed' with rfl | old'
      · exact absurd same (unshared first old)
      · exact wf.distinct first second old old' same
  · intro other listed
    rw [(sameEvents other).1, nfds]
    rcases (watched other).mp listed with rfl | old
    · refine ⟨valid, ?_⟩
      split_ifs <;> omega
    · have bounds := wf.below other old
      refine ⟨bounds.1, ?_⟩
      split_ifs <;> omega

/-- `ril_event_set` and `ril_event_add` of an event for a descriptor that is not watched. -/
theorem Wf.watch (wf : w.Wf) {i : Nat} (free : w.watchTable.findIdx? Option.isNone = some i)
    (unwatched : ¬ w.Watched ev) {fd : Int} (valid : 0 ≤ fd) (unshared : fd ∉ w.readFds)
    (persist : Bool) :
    ∃ w', (w.rilEventSet ev fd persist).rilEventAdd ev = w' ∧ w'.Wf ∧
      (∀ other, w'.Watched other ↔ other = ev ∨ w.Watched other) ∧
      ((w'.events ev).fd = fd ∧ (w'.events ev).persist = persist) ∧
      (∀ other, other ≠ ev → (w'.events other).fd = (w.events other).fd ∧
        (w'.events other).persist = (w.events other).persist) ∧
      w'.pendingList = w.pendingList ∧ w'.listMutex = w.listMutex := by
  have here : (w.rilEventSet ev fd persist).events ev = ⟨fd, -1, persist⟩ :=
    Function.update_self ..
  have others {other : ε} (apart : other ≠ ev) :
      (w.rilEventSet ev fd persist).events other = w.events other :=
    Function.update_of_ne apart ..
  obtain ⟨⟨wf', watched, events, mutex⟩, pending⟩ :=
    (wf.rilEventSet unwatched fd persist).rilEventAdd free unwatched (by rw [here]; exact valid) <| by
      intro other watched
      have apart : other ≠ ev := fun same => unwatched (same ▸ watched)
      rw [here, others apart]
      exact fun same => unshared ((wf.readFds fd).mpr ⟨other, watched, same⟩)
  refine ⟨_, rfl, wf', watched, ?_, ?_, pending, mutex⟩
  · have same := events ev
    rwa [here] at same
  · intro other apart
    have same := events other
    rwa [others apart] at same

theorem Wf.removeWatch (wf : w.Wf) {index : Nat}
    (slot : w.watchTable[index]? = some (some ev)) :
    Becomes w (w.removeWatch ev index) (fun other => other ≠ ev ∧ w.Watched other) := by
  have sameEvents : SameEvents w (w.removeWatch ev index) := sameEvents_setIndex (-1) w.events
  obtain ⟨table, events, readFds, nfds⟩ :
      (w.removeWatch ev index).watchTable = w.watchTable.set index none ∧
      (w.removeWatch ev index).events =
        Function.update w.events ev { w.events ev with index := -1 } ∧
      (w.removeWatch ev index).readFds = w.readFds.erase (w.events ev).fd ∧
      (w.removeWatch ev index).nfds = (if (w.events ev).fd + 1 = w.nfds then
        largestFd (w.removeWatch ev index).events (w.removeWatch ev index).watchTable + 1
        else w.nfds) := ⟨rfl, rfl, rfl, rfl⟩
  have mutex : (w.removeWatch ev index).listMutex = w.listMutex := rfl
  generalize w.removeWatch ev index = w' at *
  have watchedHere : w.Watched ev := watched_iff.mpr ⟨index, slot⟩
  have slots (j : Nat) (elsewhere : index ≠ j) : w'.watchTable[j]? = w.watchTable[j]? := by
    rw [table, List.getElem?_set_ne elsewhere]
  have away {j : Nat} {other : ε} (here : w'.watchTable[j]? = some (some other)) :
      index ≠ j := by
    rintro rfl
    rw [table, List.getElem?_set] at here
    simp at here
  have watched (other : ε) : w'.Watched other ↔ other ≠ ev ∧ w.Watched other := by
    rw [watched_iff, watched_iff]
    constructor
    · rintro ⟨j, there⟩
      have elsewhere := away there
      rw [slots j elsewhere] at there
      refine ⟨?_, j, there⟩
      rintro rfl
      have first := wf.placed index other slot
      rw [wf.placed j other there] at first
      omega
    · rintro ⟨apart, j, there⟩
      have elsewhere : index ≠ j := by
        rintro rfl
        rw [slot] at there
        simp only [Option.some.injEq] at there
        exact apart there.symm
      exact ⟨j, by rw [slots j elsewhere, there]⟩
  refine ⟨⟨?_, ?_, ?_, ?_, ?_⟩, watched, sameEvents, mutex⟩
  · rw [table, List.length_set, wf.length]
  · intro j other there
    have apart := ((watched other).mp (watched_iff.mpr ⟨j, there⟩)).1
    rw [slots j (away there)] at there
    rw [events, Function.update_of_ne apart]
    exact wf.placed j other there
  · intro fd
    rw [readFds, Finset.mem_erase, wf.readFds]
    simp only [watched, (sameEvents _).1]
    constructor
    · rintro ⟨apart, other, listed, rfl⟩
      exact ⟨other, ⟨fun same => apart (same ▸ rfl), listed⟩, rfl⟩
    · rintro ⟨other, ⟨apart, listed⟩, rfl⟩
      exact ⟨fun same => apart (wf.distinct other ev listed watchedHere same), other, listed, rfl⟩
  · intro first second listed listed' same
    rw [(sameEvents first).1, (sameEvents second).1] at same
    exact wf.distinct first second ((watched first).mp listed).2 ((watched second).mp listed').2
      same
  · intro other listed
    have bounds := wf.below other ((watched other).mp listed).2
    have largest : (w'.events other).fd ≤ largestFd w'.events w'.watchTable :=
      fd_le_largestFd listed
    rw [(sameEvents other).1] at largest ⊢
    refine ⟨bounds.1, ?_⟩
    rw [nfds]
    split_ifs <;> omega

/-- `ril_event_del` of an event that is watched reaches `removeWatch`. -/
theorem Wf.rilEventDel_eq (wf : w.Wf) {i : Nat} (slot : w.watchTable[i]? = some (some ev)) :
    w.rilEventDel ev = w.removeWatch ev i := by
  have index := wf.placed i ev slot
  have inside : i < maxFdEvents := by
    rw [← wf.length]
    exact (List.getElem?_eq_some_iff.mp slot).1
  unfold Watches.rilEventDel
  simp only [index]
  rw [if_neg (by omega), Int.toNat_natCast]

theorem Wf.rilEventDel (wf : w.Wf) (listed : w.Watched ev) :
    Becomes w (w.rilEventDel ev) (fun other => other ≠ ev ∧ w.Watched other) ∧
      (w.rilEventDel ev).pendingList = w.pendingList := by
  obtain ⟨i, slot⟩ := watched_iff.mp listed
  rw [wf.rilEventDel_eq slot]
  exact ⟨wf.removeWatch slot, rfl⟩

/-- One turn readies at most the event in its slot. -/
theorem Wf.processReadReady (wf : w.Wf) (rfds : Finset Int) (n i : Nat) :
    ∃ fired, Readied w (Watches.processReadReady rfds (w, n) i).1 rfds [i] fired := by
  unfold Watches.processReadReady
  by_cases finished : n = 0
  · simp only [if_pos finished]
    exact ⟨[], Readied.nothing wf rfds [i]⟩
  simp only [if_neg finished]
  cases slot : w.watchTable[i]?.join with
  | none => exact ⟨[], Readied.nothing wf rfds [i]⟩
  | some rev =>
      have here : w.watchTable[i]? = some (some rev) := Option.join_eq_some_iff.mp slot
      simp only
      by_cases ready : (w.events rev).fd ∈ rfds
      · rw [if_pos ready]
        refine ⟨[rev], ?_, List.nodup_singleton rev, ?_, ?_, ?_⟩
        · simpa using ⟨ready, here⟩
        · cases persist : (w.events rev).persist <;> simp [persist, Watches.removeWatch]
        · have wf' : ({ w with pendingList := w.pendingList ++ [rev] } : Watches ε).Wf :=
            ⟨wf.length, wf.placed, wf.readFds, wf.distinct, wf.below⟩
          cases persist : (w.events rev).persist with
          | true =>
              simp only [if_true]
              refine ⟨wf', fun ev => ?_, SameEvents.refl w, rfl⟩
              refine (and_iff_left fun member => ?_).symm
              rw [List.mem_singleton.mp member, persist]
          | false =>
              simp only [Bool.false_eq_true, if_false]
              obtain ⟨wf'', watched, events, mutex⟩ := wf'.removeWatch here
              refine ⟨wf'', fun ev => (watched ev).trans ?_, events, mutex⟩
              rw [and_comm]
              refine and_congr_right fun _ => ?_
              rw [List.mem_singleton]
              constructor
              · intro apart same
                exact absurd same apart
              · rintro only rfl
                rw [persist] at only
                cases only rfl
        · intro j other
          have apart : i ≠ j := fun same => other (by simp [same])
          cases persist : (w.events rev).persist with
          | true => simp
          | false => simp [persist, Watches.removeWatch, List.getElem?_set_ne apart]
      · rw [if_neg ready]
        exact ⟨[], Readied.nothing wf rfds [i]⟩

/-- **Ready events** are put into the pending list once, in the order of their slots. -/
theorem Wf.processReadReadies (wf : w.Wf) (rfds : Finset Int) (n : Nat) :
    ∃ fired, Readied w (w.processReadReadies rfds n) rfds (List.range maxFdEvents) fired := by
  have loop (slots : List Nat) (distinct : slots.Nodup) (w : Watches ε) (n : Nat) (wf : w.Wf) :
      ∃ fired, Readied w (slots.foldl (Watches.processReadReady rfds) (w, n)).1 rfds slots fired := by
    induction slots generalizing w n with
    | nil => exact ⟨[], Readied.nothing wf rfds []⟩
    | cons i slots inductionHypothesis =>
        obtain ⟨fresh, distinct⟩ := List.nodup_cons.mp distinct
        obtain ⟨first, readied⟩ := wf.processReadReady rfds n i
        obtain ⟨rest, more⟩ := inductionHypothesis distinct _
          (Watches.processReadReady rfds (w, n) i).2 readied.becomes.wf
        exact ⟨first ++ rest, readied.append more wf fresh⟩
  exact loop _ List.nodup_range w n wf

end Laws

end Watches

end RildHisi.Libril
