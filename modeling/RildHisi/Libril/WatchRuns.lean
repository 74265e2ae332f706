import RildHisi.Libril.RilEvent
import RildHisi.Library.Runs
import Mathlib.Data.Finset.Card

/-!
Owns what holds of the watch table over whole runs of `ril_event_add`,
`ril_event_del` and `processReadReadies`: the table, `readFds`, the indices and
`nfds` agree, and every ready event becomes pending once.

`Wf` bounds `nfds` from above; here it is exact as soon as something is watched.
-/

namespace RildHisi.Libril

open RildHisi.Library

namespace Watches

variable {ε : Type} {w w' : Watches ε} {ev : ε}

/-- `nfds` is one more than the largest watched descriptor, and at most 1 when nothing
is watched. -/
structure Tight (w : Watches ε) : Prop where
  nonneg : 0 ≤ w.nfds
  empty : (∀ ev, ¬ w.Watched ev) → w.nfds ≤ 1
  attained : ∀ ev, w.Watched ev → ∃ top, w.Watched top ∧ w.nfds = (w.events top).fd + 1

/-- The largest descriptor is that of an event, unless it is the 0 the loop starts from. -/
theorem largestFd_attained (events : ε → RilEvent) (watchTable : List (Option ε)) :
    largestFd events watchTable = 0 ∨
      ∃ ev, some ev ∈ watchTable ∧ largestFd events watchTable = (events ev).fd := by
  unfold largestFd
  induction watchTable using List.reverseRecOn with
  | nil => exact Or.inl rfl
  | append_singleton table slot inductionHypothesis =>
      rw [List.foldl_append, List.foldl_cons, List.foldl_nil]
      have earlier : ∀ ev, some ev ∈ table → some ev ∈ table ++ [slot] :=
        fun _ => List.mem_append_left _
      cases slot with
      | none =>
          apply inductionHypothesis.imp id
          rintro ⟨ev, member, same⟩
          exact ⟨ev, earlier ev member, same⟩
      | some rev =>
          simp only [Option.elim_some]
          rcases le_total (table.foldl (fun n rev => rev.elim n fun rev => max n (events rev).fd) 0)
              (events rev).fd with below | above
          · rw [max_eq_right below]
            exact Or.inr ⟨rev, by simp, rfl⟩
          · rw [max_eq_left above]
            apply inductionHypothesis.imp id
            rintro ⟨ev, member, same⟩
            exact ⟨ev, earlier ev member, same⟩

variable [DecidableEq ε]

theorem Tight.removeWatch (tight : w.Tight) (wf : w.Wf) {index : Nat}
    (slot : w.watchTable[index]? = some (some ev)) : (w.removeWatch ev index).Tight := by
  obtain ⟨wf', watched, events, -⟩ := wf.removeWatch slot
  have here : w.Watched ev := watched_iff.mpr ⟨index, slot⟩
  have nfds : (w.removeWatch ev index).nfds = if (w.events ev).fd + 1 = w.nfds then
      largestFd (w.removeWatch ev index).events (w.removeWatch ev index).watchTable + 1
    else w.nfds := rfl
  generalize w.removeWatch ev index = w' at *
  obtain ⟨top, topWatched, exact'⟩ := tight.attained ev here
  by_cases last : (w.events ev).fd + 1 = w.nfds
  · rw [if_pos last] at nfds
    have lower : 0 ≤ largestFd w'.events w'.watchTable := le_largest _ _ 0
    rcases largestFd_attained w'.events w'.watchTable with zero | ⟨other, listed, same⟩
    · refine ⟨by omega, fun _ => by omega, fun other listed => ⟨other, listed, ?_⟩⟩
      have bound : (w'.events other).fd ≤ largestFd w'.events w'.watchTable :=
        fd_le_largestFd listed
      have valid := (wf'.below other listed).1
      omega
    · exact ⟨by omega, fun none' => absurd listed (none' other),
        fun _ _ => ⟨other, listed, by rw [nfds, same]⟩⟩
  · rw [if_neg last] at nfds
    have apart : top ≠ ev := by
      rintro rfl
      exact last exact'.symm
    have topWatched' := (watched top).mpr ⟨apart, topWatched⟩
    refine ⟨nfds ▸ tight.nonneg, fun none' => absurd topWatched' (none' top), fun _ _ => ?_⟩
    exact ⟨top, topWatched', by rw [nfds, (events top).1, exact']⟩

theorem Tight.rilEventAdd (tight : w.Tight) (valid : 0 ≤ (w.events ev).fd)
    (becomes : Becomes w (w.rilEventAdd ev) fun other => other = ev ∨ w.Watched other)
    {i : Nat} (free : w.watchTable.findIdx? Option.isNone = some i) :
    (w.rilEventAdd ev).Tight := by
  obtain ⟨-, watched, events, -⟩ := becomes
  have nfds : (w.rilEventAdd ev).nfds =
      if w.nfds ≤ (w.events ev).fd then (w.events ev).fd + 1 else w.nfds := by
    simp [Watches.rilEventAdd, free]
  generalize w.rilEventAdd ev = w' at *
  have own : w'.Watched ev := (watched ev).mpr (Or.inl rfl)
  have nonneg := tight.nonneg
  refine ⟨by rw [nfds]; split_ifs <;> omega, fun none' => absurd own (none' ev), fun _ _ => ?_⟩
  by_cases higher : w.nfds ≤ (w.events ev).fd
  · exact ⟨ev, own, by rw [nfds, if_pos higher, (events ev).1]⟩
  · rw [if_neg higher] at nfds
    by_cases some' : ∃ other, w.Watched other
    · obtain ⟨other, listed⟩ := some'
      obtain ⟨top, topWatched, exact'⟩ := tight.attained other listed
      exact ⟨top, (watched top).mpr (Or.inr topWatched), by rw [nfds, exact', (events top).1]⟩
    · -- the only descriptor below 1 is 0
      have low := tight.empty fun other listed => some' ⟨other, listed⟩
      exact ⟨ev, own, by rw [nfds, (events ev).1]; omega⟩

/-! ### Ready events -/

/-- The number of slots whose event is ready. -/
def readyCount (w : Watches ε) (rfds : Finset Int) (slots : List Nat) : Nat :=
  slots.countP fun i => (w.watchTable[i]?.join).any fun rev => (w.events rev).fd ∈ rfds

/-- One turn with enough events to come does not miss the one in its slot, and leaves
enough for the other slots. -/
theorem processReadReady_complete (wf : w.Wf) (tight : w.Tight) (rfds : Finset Int) {n i : Nat}
    {slots : List Nat} (fresh : i ∉ slots) (enough : w.readyCount rfds (i :: slots) ≤ n)
    {fired : List ε} (readied : Readied w (processReadReady rfds (w, n) i).1 rfds [i] fired) :
    (processReadReady rfds (w, n) i).1.Tight ∧
      (processReadReady rfds (w, n) i).1.readyCount rfds slots ≤
        (processReadReady rfds (w, n) i).2 ∧
      ∀ rev, w.watchTable[i]? = some (some rev) → (w.events rev).fd ∈ rfds → rev ∈ fired := by
  have others : (processReadReady rfds (w, n) i).1.readyCount rfds slots =
      w.readyCount rfds slots := by
    refine List.countP_congr fun j member => ?_
    have elsewhere : j ∉ [i] := by
      rintro here
      exact fresh (List.mem_singleton.mp here ▸ member)
    rw [readied.kept j elsewhere]
    cases w.watchTable[j]?.join with
    | none => rfl
    | some rev => simp [(readied.becomes.events rev).1]
  rw [others]
  unfold readyCount at enough ⊢
  rw [List.countP_cons] at enough
  have pending := readied.pending
  unfold processReadReady at pending ⊢
  by_cases finished : n = 0
  · simp only [if_pos finished]
    refine ⟨tight, by omega, fun rev slot ready => ?_⟩
    have counted : w.watchTable[i]?.join = some rev := by rw [slot]; rfl
    simp [counted, ready] at enough
    omega
  simp only [if_neg finished] at pending ⊢
  cases slot : w.watchTable[i]?.join with
  | none =>
      refine ⟨tight, by simpa [slot] using enough, fun rev here => ?_⟩
      rw [here] at slot
      cases slot
  | some rev =>
      have here : w.watchTable[i]? = some (some rev) := Option.join_eq_some_iff.mp slot
      simp only [slot] at pending ⊢
      by_cases ready : (w.events rev).fd ∈ rfds
      · rw [if_pos ready] at pending ⊢
        refine ⟨?_, ?_, ?_⟩
        · have wf' : ({ w with pendingList := w.pendingList ++ [rev] } : Watches ε).Wf :=
            ⟨wf.length, wf.placed, wf.readFds, wf.distinct, wf.below⟩
          have tight' : ({ w with pendingList := w.pendingList ++ [rev] } : Watches ε).Tight :=
            ⟨tight.nonneg, tight.empty, tight.attained⟩
          cases persist : (w.events rev).persist with
          | true => exact tight'
          | false => exact tight'.removeWatch wf' here
        · simp [slot, ready] at enough
          dsimp only
          omega
        · intro other same _
          rw [here] at same
          obtain rfl : rev = other := by simpa using same
          have appended : w.pendingList ++ [rev] = w.pendingList ++ fired := by
            cases persist : (w.events rev).persist with
            | true => simpa [persist] using pending
            | false => simpa [persist, removeWatch] using pending
          rw [← List.append_cancel_left appended]
          exact List.mem_singleton_self rev
      · rw [if_neg ready]
        refine ⟨tight, by simpa [slot, ready] using enough, fun other same inside => ?_⟩
        rw [here] at same
        obtain rfl : rev = other := by simpa using same
        exact absurd inside ready

/-- The loop over these slots misses nothing. -/
theorem processReadReadies_loop (rfds : Finset Int) {slots : List Nat} (distinct : slots.Nodup)
    (w : Watches ε) (n : Nat) (wf : w.Wf) (tight : w.Tight)
    (enough : w.readyCount rfds slots ≤ n) :
    ∃ fired, Readied w (slots.foldl (processReadReady rfds) (w, n)).1 rfds slots fired ∧
      (slots.foldl (processReadReady rfds) (w, n)).1.Tight ∧
      ∀ i ∈ slots, ∀ rev, w.watchTable[i]? = some (some rev) → (w.events rev).fd ∈ rfds →
        rev ∈ fired := by
  induction slots generalizing w n with
  | nil => exact ⟨[], Readied.nothing wf rfds [], tight, nofun⟩
  | cons i slots inductionHypothesis =>
      obtain ⟨fresh, distinct⟩ := List.nodup_cons.mp distinct
      obtain ⟨first, readied⟩ := wf.processReadReady rfds n i
      obtain ⟨tight', enough', complete⟩ :=
        processReadReady_complete wf tight rfds fresh enough readied
      obtain ⟨rest, more, tight'', complete'⟩ := inductionHypothesis distinct _
        (processReadReady rfds (w, n) i).2 readied.becomes.wf tight' enough'
      refine ⟨first ++ rest, readied.append more wf fresh, tight'', ?_⟩
      intro j member rev slot ready
      rcases List.mem_cons.mp member with rfl | later
      · exact List.mem_append_left _ (complete rev slot ready)
      · have elsewhere : j ∉ [i] := by
          rintro here
          exact fresh (List.mem_singleton.mp here ▸ later)
        refine List.mem_append_right _ (complete' j later rev ?_ ?_)
        · rw [readied.kept j elsewhere, slot]
        · rw [(readied.becomes.events rev).1]
          exact ready

omit [DecidableEq ε] in
/-- Ready slots are no more than ready descriptors. -/
theorem readyCount_le (wf : w.Wf) (rfds : Finset Int) {slots : List Nat}
    (distinct : slots.Nodup) : w.readyCount rfds slots ≤ rfds.card := by
  unfold readyCount
  rw [List.countP_eq_length_filter, ← List.toFinset_card_of_nodup (distinct.filter _)]
  let descriptor (i : Nat) : Int := (w.watchTable[i]?.join).elim 0 fun rev => (w.events rev).fd
  have ready {i : Nat} (member : i ∈ (slots.filter fun i =>
      (w.watchTable[i]?.join).any fun rev => (w.events rev).fd ∈ rfds).toFinset) :
      ∃ rev, w.watchTable[i]? = some (some rev) ∧ descriptor i = (w.events rev).fd ∧
        (w.events rev).fd ∈ rfds := by
    have any := (List.mem_filter.mp (List.mem_toFinset.mp member)).2
    obtain ⟨rev, slot, inside⟩ := (Option.any_eq_true _ _).mp any
    exact ⟨rev, Option.join_eq_some_iff.mp slot, by simp only [descriptor, slot, Option.elim_some],
      of_decide_eq_true inside⟩
  refine Finset.card_le_card_of_injOn descriptor ?_ ?_
  · intro i member
    obtain ⟨rev, -, same, inside⟩ := ready member
    exact same ▸ inside
  · intro i member j member' same
    obtain ⟨rev, slot, here, -⟩ := ready member
    obtain ⟨rev', slot', there, -⟩ := ready member'
    rw [here, there] at same
    obtain rfl := wf.distinct rev rev' (watched_iff.mpr ⟨i, slot⟩) (watched_iff.mpr ⟨j, slot'⟩) same
    have index := wf.placed i rev slot
    rw [wf.placed j rev slot'] at index
    omega

/-- **Nothing ready is missed**: with at least as many turns as there are ready
descriptors, exactly the events behind them become pending, each once, and the
persistent ones of them stay watched. -/
theorem Tight.processReadReadies (tight : w.Tight) (wf : w.Wf) (rfds : Finset Int) :
    ∃ fired, Readied w (w.processReadReadies rfds rfds.card) rfds (List.range maxFdEvents) fired ∧
      (w.processReadReadies rfds rfds.card).Tight ∧
      ∀ ev, ev ∈ fired ↔ w.Watched ev ∧ (w.events ev).fd ∈ rfds := by
  obtain ⟨fired, readied, tight', complete⟩ := processReadReadies_loop rfds List.nodup_range w
    rfds.card wf tight (readyCount_le wf rfds List.nodup_range)
  refine ⟨fired, readied, tight', fun ev => ⟨fun member => ?_, ?_⟩⟩
  · obtain ⟨ready, i, -, slot⟩ := readied.ready ev member
    exact ⟨watched_iff.mpr ⟨i, slot⟩, ready⟩
  · rintro ⟨listed, ready⟩
    obtain ⟨i, slot⟩ := watched_iff.mp listed
    have inside : i < maxFdEvents := by
      rw [← wf.length]
      exact (List.getElem?_eq_some_iff.mp slot).1
    exact complete i (List.mem_range.mpr inside) ev slot ready

/-! ### Runs -/

/-- The calls, with a turn of `firePending` as a call of its own: the function it calls
may add and delete events. -/
inductive WatchOp (ε : Type)
  | rilEventAdd (ev : ε)
  | rilEventDel (ev : ε)
  | processReadReadies (rfds : Finset Int)
  | firePending
  deriving DecidableEq

/-- The events after `ril_event_init` and a `ril_event_set` of each. -/
def prepared (fd : ε → Int) (persist : ε → Bool) : Watches ε :=
  { rilEventInit with events := fun ev => ⟨fd ev, -1, persist ev⟩ }

/-- The number of slots in use. -/
def occupied (w : Watches ε) : Nat := w.watchTable.countP Option.isSome

/-- An event is added while it is not watched and a slot is free, deleted while it is
watched, and `processReadReadies` waits for the last `firePending`. -/
def Permits (w : Watches ε) : WatchOp ε → Prop
  | .rilEventAdd ev => ¬ w.Watched ev ∧ w.occupied < maxFdEvents
  | .rilEventDel ev => w.Watched ev
  | .processReadReadies rfds => rfds ⊆ w.readFds ∧ w.pendingList = []
  | .firePending => True

instance (w : Watches ε) : (op : WatchOp ε) → Decidable (w.Permits op)
  | .rilEventAdd _ => inferInstanceAs (Decidable (_ ∧ _))
  | .rilEventDel ev => inferInstanceAs (Decidable (w.Watched ev))
  | .processReadReadies _ => inferInstanceAs (Decidable (_ ∧ _))
  | .firePending => inferInstanceAs (Decidable True)

/-- One call, where it is permitted. -/
def step (w : Watches ε) (op : WatchOp ε) : Option (Watches ε) :=
  if w.Permits op then
    match op with
    | .rilEventAdd ev => some (w.rilEventAdd ev)
    | .rilEventDel ev => some (w.rilEventDel ev)
    | .processReadReadies rfds => some (w.processReadReadies rfds rfds.card)
    | .firePending => some { w with pendingList := w.pendingList.tail }
  else none

/-- What every run keeps; the descriptors and kinds of the events never change. -/
structure Kept (w : Watches ε) (fd : ε → Int) (persist : ε → Bool) : Prop where
  wf : w.Wf
  tight : w.Tight
  fd : ∀ ev, (w.events ev).fd = fd ev
  persist : ∀ ev, (w.events ev).persist = persist ev

variable {fd : ε → Int} {persist : ε → Bool}

omit [DecidableEq ε] in
theorem kept_prepared : (prepared fd persist).Kept fd persist where
  wf := by
    obtain ⟨length, -, readFds, -, -⟩ := wf_rilEventInit (ε := ε)
    have nothing : ∀ ev, ¬ (prepared fd persist).Watched ev :=
      fun ev listed => by cases List.eq_of_mem_replicate listed
    exact ⟨length, fun i ev slot => absurd (watched_iff.mpr ⟨i, slot⟩) (nothing ev),
      fun fd' => iff_of_false (Finset.notMem_empty fd') fun ⟨ev, listed, _⟩ => nothing ev listed,
      fun ev _ listed => absurd listed (nothing ev), fun ev listed => absurd listed (nothing ev)⟩
  tight := ⟨le_rfl, fun _ => zero_le_one,
    fun ev listed => by cases List.eq_of_mem_replicate listed⟩
  fd := fun _ => rfl
  persist := fun _ => rfl

omit [DecidableEq ε] in
theorem findIdx?_of_occupied (wf : w.Wf) (few : w.occupied < maxFdEvents) :
    ∃ i, w.watchTable.findIdx? Option.isNone = some i := by
  rw [← Option.isSome_iff_exists, List.findIdx?_isSome, List.any_eq_true]
  by_contra full
  have all : ∀ slot ∈ w.watchTable, slot.isSome = true := by
    intro slot member
    cases slot with
    | none => exact absurd ⟨none, member, rfl⟩ full
    | some ev => rfl
  rw [occupied, List.countP_eq_length.mpr all, wf.length] at few
  exact lt_irrefl _ few

theorem Kept.step (kept : w.Kept fd persist) (injective : Function.Injective fd)
    (valid : ∀ ev, 0 ≤ fd ev) {op : WatchOp ε} (stepped : w.step op = some w') :
    w'.Kept fd persist := by
  obtain ⟨wf, tight, sameFd, samePersist⟩ := kept
  have becomes {watched : ε → Prop} {w'' : Watches ε} (after : Becomes w w'' watched)
      (tight' : w''.Tight) : w''.Kept fd persist :=
    ⟨after.wf, tight', fun ev => (after.events ev).1.trans (sameFd ev),
      fun ev => (after.events ev).2.trans (samePersist ev)⟩
  unfold Watches.step at stepped
  by_cases permitted : w.Permits op
  case neg => rw [if_neg permitted] at stepped; cases stepped
  rw [if_pos permitted] at stepped
  cases op with
  | rilEventAdd ev =>
      obtain rfl := Option.some.inj stepped
      obtain ⟨unwatched, few⟩ := permitted
      obtain ⟨i, free⟩ := findIdx?_of_occupied wf few
      have nonneg : 0 ≤ (w.events ev).fd := by rw [sameFd]; exact valid ev
      obtain ⟨after, -⟩ := wf.rilEventAdd free unwatched nonneg fun other listed same => by
        rw [sameFd, sameFd] at same
        exact unwatched (injective same ▸ listed)
      exact becomes after (tight.rilEventAdd nonneg after free)
  | rilEventDel ev =>
      obtain rfl := Option.some.inj stepped
      obtain ⟨i, slot⟩ := watched_iff.mp permitted
      rw [wf.rilEventDel_eq slot]
      exact becomes (wf.removeWatch slot) (tight.removeWatch wf slot)
  | processReadReadies rfds =>
      obtain rfl := Option.some.inj stepped
      obtain ⟨fired, readied, tight', -⟩ := tight.processReadReadies wf rfds
      exact becomes readied.becomes tight'
  | firePending =>
      obtain rfl := Option.some.inj stepped
      exact ⟨⟨wf.length, wf.placed, wf.readFds, wf.distinct, wf.below⟩,
        ⟨tight.nonneg, tight.empty, tight.attained⟩, sameFd, samePersist⟩

/-- What `processReadReadies` does with these ready descriptors: it appends each ready
event once, and leaves the others and the persistent ones watched. -/
def ReadiesOnce (w : Watches ε) (rfds : Finset Int) : Prop :=
  ∃ fired : List ε, fired.Nodup ∧
    (w.processReadReadies rfds rfds.card).pendingList = w.pendingList ++ fired ∧
    (∀ ev, ev ∈ fired ↔ w.Watched ev ∧ (w.events ev).fd ∈ rfds) ∧
    ∀ ev, (w.processReadReadies rfds rfds.card).Watched ev ↔
      w.Watched ev ∧ ((w.events ev).fd ∈ rfds → (w.events ev).persist = true)

theorem Kept.readiesOnce (kept : w.Kept fd persist) (rfds : Finset Int) : w.ReadiesOnce rfds := by
  obtain ⟨fired, readied, -, complete⟩ := kept.tight.processReadReadies kept.wf rfds
  refine ⟨fired, readied.nodup, readied.pending, complete, fun ev => ?_⟩
  rw [readied.becomes.watched ev, complete ev]
  exact and_congr_right fun listed => by simp [listed]

/-- **The watch table in every run**: `readFds` has the descriptors of the events in the
table, every index is a slot, `nfds` is one more than the largest descriptor, and
`processReadReadies` misses no ready event and takes none twice. -/
theorem watches_of_run (injective : Function.Injective fd) (valid : ∀ ev, 0 ≤ fd ev)
    {ops : List (WatchOp ε)} (ran : run step (prepared fd persist) ops = some w) :
    (∀ d, d ∈ w.readFds ↔ ∃ ev, some ev ∈ w.watchTable ∧ fd ev = d) ∧
      (∀ ev, w.Watched ev →
        w.watchTable[(w.events ev).index.toNat]? = some (some ev) ∧ 0 ≤ (w.events ev).index) ∧
      (∀ ev, w.Watched ev → fd ev < w.nfds ∧ ∃ top, w.Watched top ∧ w.nfds = fd top + 1) ∧
      (∀ ev, (w.events ev).fd = fd ev ∧ (w.events ev).persist = persist ev) ∧
      ∀ rfds ⊆ w.readFds, w.ReadiesOnce rfds := by
  have preserved : ∀ (w : Watches ε) op w', w.Kept fd persist → w.step op = some w' →
      w'.Kept fd persist := fun _ _ _ kept stepped => kept.step injective valid stepped
  have kept : w.Kept fd persist := run_invariant preserved kept_prepared ran
  refine ⟨fun d => ?_, fun ev listed => ?_, fun ev listed => ⟨?_, ?_⟩,
    fun ev => ⟨kept.fd ev, kept.persist ev⟩, fun rfds _ => kept.readiesOnce rfds⟩
  · rw [kept.wf.readFds]
    exact exists_congr fun ev => and_congr_right fun _ => by rw [kept.fd]
  · obtain ⟨i, slot⟩ := watched_iff.mp listed
    rw [kept.wf.placed i ev slot, Int.toNat_natCast]
    exact ⟨slot, Int.natCast_nonneg i⟩
  · rw [← kept.fd]
    exact (kept.wf.below ev listed).2
  · obtain ⟨top, topWatched, exact'⟩ := kept.tight.attained ev listed
    exact ⟨top, topWatched, by rw [← kept.fd]; exact exact'⟩

/-- Events 0 to 9 with descriptors 3 to 12: the largest goes first, its slot is used
again, and a one-shot and a persistent event are ready together. -/
def sampleWatchOps : List (WatchOp Nat) :=
  [.rilEventAdd 9, .rilEventAdd 2, .rilEventAdd 5, .rilEventDel 9, .rilEventAdd 1,
    .processReadReadies {4, 8}, .firePending, .rilEventAdd 7, .firePending, .rilEventDel 2,
    .processReadReadies {10}, .firePending]

theorem watches_sampleWatchOps : ∃ w,
    run step (prepared (fun ev : Nat => (ev : Int) + 3) (fun ev => ev % 2 = 0)) sampleWatchOps =
      some w ∧
    (∀ d, d ∈ w.readFds ↔ ∃ ev, some ev ∈ w.watchTable ∧ (ev : Int) + 3 = d) ∧
      (∀ ev, w.Watched ev →
        w.watchTable[(w.events ev).index.toNat]? = some (some ev) ∧ 0 ≤ (w.events ev).index) ∧
      (∀ ev, w.Watched ev →
        (ev : Int) + 3 < w.nfds ∧ ∃ top, w.Watched top ∧ w.nfds = ((top : Nat) : Int) + 3 + 1) ∧
      (∀ ev, (w.events ev).fd = (ev : Int) + 3 ∧
        (w.events ev).persist = decide (ev % 2 = 0)) ∧
      ∀ rfds ⊆ w.readFds, w.ReadiesOnce rfds := by
  have ends : (run step (prepared (fun ev : Nat => (ev : Int) + 3) (fun ev => ev % 2 = 0))
      sampleWatchOps).isSome = true := by decide +kernel
  obtain ⟨w, ran⟩ := Option.isSome_iff_exists.mp ends
  refine ⟨w, ran, watches_of_run ?_ ?_ ran⟩
  · intro first second same
    exact Int.ofNat_inj.mp (by simpa using same)
  · exact fun ev => by omega

end Watches

end RildHisi.Libril
