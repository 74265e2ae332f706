import RildHisi.Libril.EventMemory
import RildHisi.Library.Runs

/-!
Owns the two lists of ril_event.cpp as every caller finds them: as long as no event is put
into a list, or set up anew, while it is in one, `timer_list` and `pending_list` are rings
without a common event, and every step that is due returns (`Sound.step`).

`Timers` has the same loops without the checks for NULL; what returns here returns there.
-/

namespace RildHisi.Libril

open RildHisi.Library

namespace EventMemory

variable {ε : Type}

/-- The lists are rings with these events, and `firePending` stands at the first that
waits. -/
structure Sound (s : EventMemory ε) (timers pending : List ε) : Prop where
  rings : s.links.Rings .null .timerList .pendingList (timers.map .event) (pending.map .event)
  firing : ∀ node, s.point = .firing node → node = (pending.map .event).headD .pendingList

theorem sound_rilEventInit : (rilEventInit : EventMemory ε).Sound [] [] where
  rings := by
    refine ⟨Links.ring_nil rfl rfl, Links.ring_nil rfl rfl, by simp, ?_, by simp⟩
    intro node _ out out'
    cases node with
    | null | event ev => rfl
    | timerList => simp at out
    | pendingList => simp at out'
  firing := fun _ here => by cases here

variable [DecidableEq ε] {s s' : EventMemory ε} {links links' : Links (EventPointer ε)}
  {first second : EventPointer ε} {front back list : List ε} {ev : ε} {fuel : Nat}

/-! ### List operations -/

/-- A list that is a ring takes an event that is in none, in front of any of its nodes. -/
theorem addToList_eq (rings : links.Rings .null first second ((front ++ back).map .event)
      (list.map .event)) (unlisted : links.next (.event ev) = .null) :
    ∃ links', addToList links (.event ev) ((back.map .event).headD first) = some links' ∧
      links'.Rings .null first second ((front ++ ev :: back).map .event) (list.map .event) := by
  rw [List.map_append] at rings
  obtain ⟨fresh, fresh'⟩ := rings.not_mem_of_next unlisted
  have inside : (back.map EventPointer.event).headD first ∈
      first :: (front.map .event ++ back.map .event) := by
    cases back <;> simp
  have notNull : (back.map EventPointer.event).headD first ≠ .null :=
    fun same => rings.notNull.1 (same ▸ inside)
  refine ⟨_, addToList_eq_some.mpr ⟨⟨notNull, rings.prev_ne_null inside⟩, rfl⟩, ?_⟩
  rw [List.map_append, List.map_cons]
  exact rings.insertBefore fresh fresh' (by simp)

/-- An event that is taken out is in none. -/
theorem removeFromList_eq (rings : links.Rings .null first second ((ev :: back).map .event)
      (list.map .event)) :
    ∃ links', removeFromList links (.event ev) = some links' ∧
      links'.Rings .null first second (back.map .event) (list.map .event) ∧
      links'.next (.event ev) = .null := by
  have inside : EventPointer.event ev ∈ first :: (ev :: back).map .event := by simp
  have rings' : links.Rings .null first second ([] ++ .event ev :: back.map .event)
    (list.map .event) := rings
  refine ⟨_, removeFromList_eq_some.mpr ⟨⟨by simp, rings.next_ne_null inside,
    rings.prev_ne_null inside⟩, rfl⟩, rings'.remove, (rings'.ring.remove .null).2⟩

/-- The loop of `ril_timer_add` ends at a node of the list. -/
theorem insertionPoint_eq (ring : links.Ring .timerList ((front ++ back).map .event))
    (timeouts : EventPointer ε → Timeval) (timeout : Timeval) (enough : back.length < fuel) :
    ∃ front' back', front ++ back = front' ++ back' ∧
      insertionPoint timeouts links timeout fuel ((back.map .event).headD .timerList) =
        some ((back'.map .event).headD .timerList) := by
  induction back generalizing front fuel with
  | nil =>
      obtain ⟨fuel, rfl⟩ : ∃ less, fuel = less + 1 := ⟨fuel - 1, by simp at enough; omega⟩
      exact ⟨front, [], rfl, by simp [insertionPoint]⟩
  | cons ev back inductionHypothesis =>
      obtain ⟨fuel, rfl⟩ : ∃ less, fuel = less + 1 := ⟨fuel - 1, by simp at enough; omega⟩
      unfold insertionPoint
      by_cases earlier : timercmp (timeouts (.event ev)) timeout = true
      · have shifted : links.Ring .timerList ((front ++ [ev] ++ back).map .event) := by
          simpa using ring
        obtain ⟨front', back', split, found⟩ := inductionHypothesis shifted (by simpa using enough)
        refine ⟨front', back', by rw [← split]; simp, ?_⟩
        rw [List.map_append, List.map_cons] at ring
        simpa [earlier, ring.next_node] using found
      · exact ⟨front, ev :: back, rfl, by simp [earlier]⟩

/-- The loop of `processTimeouts` moves the front of the one list to the end of the
other. -/
theorem expire_eq {timers pending : List ε} (rings : links.Rings .null .timerList .pendingList
      (timers.map .event) (pending.map .event)) (timeouts : EventPointer ε → Timeval)
    (now : Timeval) (enough : timers.length < fuel) :
    ∃ links' moved rest,
      expire timeouts now fuel ((timers.map .event).headD .timerList) links = some links' ∧
      timers = moved ++ rest ∧ links'.Rings .null .timerList .pendingList (rest.map .event)
        ((pending ++ moved).map .event) := by
  induction timers generalizing links pending fuel with
  | nil =>
      obtain ⟨fuel, rfl⟩ : ∃ less, fuel = less + 1 := ⟨fuel - 1, by simp at enough; omega⟩
      exact ⟨links, [], [], by simp [expire], rfl, by simpa using rings⟩
  | cons ev timers inductionHypothesis =>
      obtain ⟨fuel, rfl⟩ : ∃ less, fuel = less + 1 := ⟨fuel - 1, by simp at enough; omega⟩
      unfold expire
      by_cases expired : timercmp (timeouts (.event ev)) now = true
      · have next : links.next (.event ev) = (timers.map .event).headD .timerList := by
          have ring : links.Ring .timerList ([] ++ .event ev :: timers.map .event) := rings.ring
          exact ring.next_node
        obtain ⟨removed, taken, rings', unlisted⟩ := removeFromList_eq rings
        have whole : removed.Rings .null .pendingList .timerList ((pending ++ []).map .event)
            (timers.map .event) := by
          rw [List.append_nil]
          exact rings'.symm
        obtain ⟨moved, added, rings''⟩ := addToList_eq whole unlisted
        have added' : addToList removed (.event ev) .pendingList = some moved := added
        obtain ⟨links', batch, rest, ended, split, final⟩ :=
          inductionHypothesis rings''.symm (by simpa using enough)
        refine ⟨links', ev :: batch, rest, ?_, by rw [split]; rfl, by simpa using final⟩
        simpa [expired, next, taken, added'] using ended
      · exact ⟨links, [], ev :: timers, by simp [expired], rfl, by simpa using rings⟩

/-- The ready events go to the end of `pending_list`. -/
theorem readies_eq {timers pending fired : List ε} (rings : links.Rings .null .timerList
      .pendingList (timers.map .event) (pending.map .event)) (distinct : fired.Nodup)
    (unlisted : ∀ ev ∈ fired, links.next (.event ev) = .null) :
    ∃ links', fired.foldlM (fun links rev => addToList links (.event rev) .pendingList) links =
        some links' ∧ links'.Rings .null .timerList .pendingList (timers.map .event)
        ((pending ++ fired).map .event) := by
  induction fired generalizing links pending with
  | nil => exact ⟨links, rfl, by simpa using rings⟩
  | cons rev fired inductionHypothesis =>
      obtain ⟨fresh, distinct⟩ := List.nodup_cons.mp distinct
      have whole : links.Rings .null .pendingList .timerList ((pending ++ []).map .event)
          (timers.map .event) := by
        rw [List.append_nil]
        exact rings.symm
      obtain ⟨next, added, rings'⟩ := addToList_eq whole (unlisted rev List.mem_cons_self)
      have added' : addToList links (.event rev) .pendingList = some next := added
      have still : ∀ ev ∈ fired, next.next (.event ev) = .null := by
        intro ev member
        obtain ⟨out, out'⟩ := rings.not_mem_of_next (unlisted ev (List.mem_cons_of_mem _ member))
        have apart : ev ≠ rev := fun same => fresh (same ▸ member)
        apply rings'.outside _ (by simp) _ out
        simpa [apart] using out'
      obtain ⟨links', appended, final⟩ := inductionHypothesis rings'.symm distinct still
      refine ⟨links', ?_, by simpa using final⟩
      rw [List.foldlM_cons, added']
      exact appended

/-! ### Steps -/

/-- The events `processReadReadies` finds ready if it is called now. -/
def readies (s : EventMemory ε) : List ε :=
  match s.point with
  | .timed rfds => s.watches.readies rfds
  | _ => []

/-- The events this step clears or puts into a list are in none. -/
def PutsUnlisted (s : EventMemory ε) : MemoryOp ε → Prop
  | .rilEventSet ev _ _ => s.links.next (.event ev) = .null
  | .rilTimerAdd ev tv _ => tv ≠ none → s.links.next (.event ev) = .null
  | .processReadReadies => s.readies.Nodup ∧ ∀ ev ∈ s.readies, s.links.next (.event ev) = .null
  | .rilEventAdd _ | .rilEventDel _ | .select _ | .processTimeouts _ | .firePending
  | .fireNext => True

instance (s : EventMemory ε) : DecidablePred s.PutsUnlisted := fun op =>
  match op with
  | .rilEventSet _ _ _ => inferInstanceAs (Decidable (_ = _))
  | .rilTimerAdd _ _ _ => inferInstanceAs (Decidable (_ → _))
  | .processReadReadies => inferInstanceAs (Decidable (_ ∧ _))
  | .rilEventAdd _ | .rilEventDel _ | .select _ | .processTimeouts _ | .firePending
  | .fireNext => inferInstanceAs (Decidable True)

variable {timers pending : List ε}

omit [DecidableEq ε] in
/-- What leaves the pointers alone, and `firePending` where it is. -/
theorem Sound.of_links (sound : s.Sound timers pending) (links : s'.links = s.links)
    (point : ∀ node, s'.point = .firing node → s.point = .firing node) :
    s'.Sound timers pending :=
  ⟨links ▸ sound.rings, fun node here => sound.firing node (point node here)⟩

theorem Sound.rilEventSet (sound : s.Sound timers pending)
    (unlisted : s.links.next (.event ev) = .null) (fd : Int) (persist : Bool) :
    (s.rilEventSet ev fd persist).Sound timers pending := by
  obtain ⟨fresh, fresh'⟩ := sound.rings.not_mem_of_next unlisted
  exact ⟨sound.rings.clear fresh fresh', sound.firing⟩

theorem Sound.rilTimerAdd (sound : s.Sound timers pending) {tv : Option Timeval} {now : Timeval}
    (unlisted : tv ≠ none → s.links.next (.event ev) = .null) (enough : timers.length < fuel) :
    ∃ s' timers', s.rilTimerAdd fuel ev tv now = some s' ∧ s'.Sound timers' pending := by
  cases tv with
  | none => exact ⟨s, timers, rfl, sound⟩
  | some tv =>
      have ring : s.links.Ring .timerList (([] ++ timers).map .event) := sound.rings.ring
      obtain ⟨front, back, split, found⟩ := insertionPoint_eq ring
        (Function.update s.timeout (.event ev) (timeradd now tv)) (timeradd now tv) enough
      rw [List.nil_append] at split
      rw [← sound.rings.ring.next_sentinel] at found
      have rings := sound.rings
      rw [split] at rings
      obtain ⟨links', added, rings'⟩ := addToList_eq rings (unlisted (by simp))
      refine ⟨{ s with
        watches := { s.watches with
          events := Function.update s.watches.events ev { s.watches.events ev with fd := -1 } }
        timeout := Function.update s.timeout (.event ev) (timeradd now tv)
        links := links' }, front ++ ev :: back, ?_, rings', sound.firing⟩
      simp only [EventMemory.rilTimerAdd, found, added, Option.bind_some, Option.map_some]

/-- A turn of `firePending` takes the first event that waits. -/
theorem Sound.fireNext_cons (sound : s.Sound timers (ev :: pending)) {node : EventPointer ε}
    (here : s.point = .firing node) :
    ∃ s', s.fireNext node = some s' ∧ s'.Sound timers pending ∧
      s'.point = .firing ((pending.map .event).headD .pendingList) := by
  obtain rfl : node = .event ev := sound.firing node here
  obtain ⟨links', removed, rings', -⟩ := removeFromList_eq sound.rings.symm
  have ring : s.links.Ring .pendingList ([] ++ .event ev :: pending.map .event) :=
    sound.rings.ring'
  refine ⟨_, Option.map_eq_some_iff.mpr ⟨links', removed, rfl⟩, ⟨rings'.symm, ?_⟩, ?_⟩
  · intro node next
    rw [← RoundPoint.firing.inj next]
    exact ring.next_node
  · exact congrArg RoundPoint.firing ring.next_node

/-- Behind the last of them the loop ends. -/
theorem Sound.fireNext_nil (sound : s.Sound timers []) {node : EventPointer ε}
    (here : s.point = .firing node) :
    s.fireNext node = some { s with point := .waiting } := by
  obtain rfl : node = .pendingList := sound.firing node here
  rfl

/-- **A step that is due returns**, with enough fuel for the timers there are, and leaves
two rings. -/
theorem Sound.step (sound : s.Sound timers pending) {op : MemoryOp ε} (due : s.Due op)
    (unlisted : s.PutsUnlisted op) (free : s.watches.listMutex = false)
    (enough : timers.length < fuel) :
    ∃ s' timers' pending', EventMemory.step fuel s op = some s' ∧ s'.Sound timers' pending' := by
  have acquired (call : Option (EventMemory ε)) : s.acquire call = call := by
    simp [acquire, free]
  cases op with
  | rilEventSet ev fd persist => exact ⟨_, timers, pending, rfl, sound.rilEventSet unlisted fd persist⟩
  | rilEventAdd ev => exact ⟨_, timers, pending, acquired _, sound.of_links rfl fun _ here => here⟩
  | rilEventDel ev => exact ⟨_, timers, pending, acquired _, sound.of_links rfl fun _ here => here⟩
  | rilTimerAdd ev tv now =>
      obtain ⟨s', timers', returned, sound'⟩ := sound.rilTimerAdd unlisted enough
      exact ⟨s', timers', pending, (acquired _).trans returned, sound'⟩
  | select rfds => exact ⟨_, timers, pending, if_pos due, sound.of_links rfl fun _ here => by cases here⟩
  | processTimeouts now =>
      obtain ⟨rfds, here⟩ := due
      obtain ⟨links', moved, rest, ended, -, rings'⟩ :=
        expire_eq sound.rings s.timeout now enough
      rw [← sound.rings.ring.next_sentinel] at ended
      refine ⟨{ s with links := links', point := .timed rfds }, rest, pending ++ moved, ?_,
        rings', fun _ here => by cases here⟩
      exact step_processTimeouts_iff.mpr ⟨rfds, links', here, free, ended, rfl⟩
  | processReadReadies =>
      obtain ⟨rfds, here⟩ := due
      have ready : s.readies = s.watches.readies rfds := by simp only [EventMemory.readies, here]
      obtain ⟨distinct, fresh⟩ := unlisted
      rw [ready] at distinct fresh
      obtain ⟨fired, watches', sublist, -, -, -, same⟩ := s.processReadReadies_eq rfds
      obtain ⟨links', appended, rings'⟩ := readies_eq sound.rings (distinct.sublist sublist)
        fun ev member => fresh ev (sublist.mem member)
      refine ⟨{ s with watches := watches', links := links', point := .readied }, timers,
        pending ++ fired, ?_, rings', fun _ here => by cases here⟩
      refine step_processReadReadies_iff.mpr ⟨rfds, here, free, ?_⟩
      rw [same, appended, Option.map_some]
  | firePending =>
      refine ⟨_, timers, pending, if_pos due, sound.rings, fun node next => ?_⟩
      rw [← RoundPoint.firing.inj next]
      exact sound.rings.ring'.next_sentinel
  | fireNext =>
      obtain ⟨node, here⟩ := due
      cases pending with
      | nil =>
          refine ⟨{ s with point := .waiting }, timers, [], ?_,
            sound.of_links rfl fun _ here => by cases here⟩
          exact step_fireNext_iff.mpr ⟨node, here, sound.fireNext_nil here⟩
      | cons ev pending =>
          obtain ⟨s', fired, sound', -⟩ := sound.fireNext_cons here
          exact ⟨s', timers, pending, step_fireNext_iff.mpr ⟨node, here, fired⟩, sound'⟩

/-! ### Fuel -/

theorem insertionPoint_mono {timeouts : EventPointer ε → Timeval} {timeout : Timeval}
    {fuel' : Nat} (more : fuel ≤ fuel') {list found : EventPointer ε}
    (ended : insertionPoint timeouts links timeout fuel list = some found) :
    insertionPoint timeouts links timeout fuel' list = some found := by
  induction fuel generalizing list fuel' with
  | zero => cases ended
  | succ fuel inductionHypothesis =>
      obtain ⟨fuel', rfl⟩ : ∃ less, fuel' = less + 1 := ⟨fuel' - 1, by omega⟩
      unfold insertionPoint at ended ⊢
      split_ifs at ended ⊢ with null goesOn
      · exact inductionHypothesis (by omega) ended
      · exact ended

theorem expire_mono {timeouts : EventPointer ε → Timeval} {now : Timeval} {fuel' : Nat}
    (more : fuel ≤ fuel') {tev : EventPointer ε}
    (ended : expire timeouts now fuel tev links = some links') :
    expire timeouts now fuel' tev links = some links' := by
  induction fuel generalizing links tev fuel' with
  | zero => cases ended
  | succ fuel inductionHypothesis =>
      obtain ⟨fuel', rfl⟩ : ∃ less, fuel' = less + 1 := ⟨fuel' - 1, by omega⟩
      unfold expire at ended ⊢
      split_ifs at ended ⊢ with last null expired
      · exact ended
      · obtain ⟨moved, appended, rest⟩ := Option.bind_eq_some_iff.mp ended
        rw [appended, Option.bind_some]
        exact inductionHypothesis (by omega) rest
      · exact ended

/-- Fuel only decides whether a step returns. -/
theorem step_mono {fuel' : Nat} (more : fuel ≤ fuel') {op : MemoryOp ε}
    (stepped : step fuel s op = some s') : step fuel' s op = some s' := by
  cases op with
  | rilTimerAdd ev tv now =>
      obtain ⟨free, returned⟩ := acquire_eq_some.mp stepped
      apply acquire_eq_some.mpr
      refine ⟨free, ?_⟩
      cases tv with
      | none => exact returned
      | some tv =>
          obtain ⟨list, found, rest⟩ := Option.bind_eq_some_iff.mp returned
          exact Option.bind_eq_some_iff.mpr ⟨list, insertionPoint_mono more found, rest⟩
  | processTimeouts now =>
      obtain ⟨rfds, links, here, free, ended, rfl⟩ := step_processTimeouts_iff.mp stepped
      exact step_processTimeouts_iff.mpr ⟨rfds, links, here, free, expire_mono more ended, rfl⟩
  | rilEventSet _ _ _ | rilEventAdd _ | rilEventDel _ | select _ | processReadReadies
  | firePending | fireNext => exact stepped

theorem due_of_step {op : MemoryOp ε} (stepped : step fuel s op = some s') :
    s.Due op := by
  cases op with
  | rilEventSet _ _ _ | rilEventAdd _ | rilEventDel _ | rilTimerAdd _ _ _ => trivial
  | select rfds => exact (step_select_iff.mp stepped).1
  | processTimeouts now =>
      obtain ⟨rfds, -, here, -⟩ := step_processTimeouts_iff.mp stepped
      exact ⟨rfds, here⟩
  | processReadReadies =>
      obtain ⟨rfds, here, -⟩ := step_processReadReadies_iff.mp stepped
      exact ⟨rfds, here⟩
  | firePending => exact (step_firePending_iff.mp stepped).1
  | fireNext =>
      obtain ⟨node, here, -⟩ := step_fireNext_iff.mp stepped
      exact ⟨node, here⟩

/-- A step that has returned left two rings, whatever its fuel. -/
theorem Sound.of_step (sound : s.Sound timers pending) {op : MemoryOp ε}
    (unlisted : s.PutsUnlisted op) (free : s.watches.listMutex = false)
    (stepped : EventMemory.step fuel s op = some s') :
    ∃ timers' pending', s'.Sound timers' pending' := by
  obtain ⟨next, timers', pending', returned, sound'⟩ := sound.step (due_of_step stepped) unlisted
    free (lt_of_lt_of_le (Nat.lt_succ_self _) (Nat.le_max_right fuel _))
  rw [step_mono (Nat.le_max_left fuel _) stepped, Option.some.injEq] at returned
  exact ⟨timers', pending', returned ▸ sound'⟩

/-! ### The timers by themselves -/

/-- This memory as `Timers` has it. -/
def toTimers (s : EventMemory ε) (history : TimerHistory ε) : Timers ε where
  links := s.links
  timeout := s.timeout
  fd := fun ev => (s.watches.events ev).fd
  firing := match s.point with
    | .firing ev => some ev
    | _ => none
  history := history

theorem toTimers_insertionPoint {timers : Timers ε} {timeout : Timeval}
    {list found : EventPointer ε}
    (ended : insertionPoint timers.timeout timers.links timeout fuel list = some found) :
    timers.insertionPoint timeout fuel list = some found := by
  induction fuel generalizing list with
  | zero => cases ended
  | succ fuel inductionHypothesis =>
      unfold insertionPoint at ended
      unfold Timers.insertionPoint
      split_ifs at ended ⊢ with null goesOn
      · exact inductionHypothesis ended
      · exact ended

/-- **`ril_timer_add`** that returns is that of `Timers`. -/
theorem toTimers_rilTimerAdd {tv : Option Timeval} {now : Timeval}
    (returned : s.rilTimerAdd fuel ev tv now = some s') (history : TimerHistory ε) :
    ∃ history', (s.toTimers history).rilTimerAdd fuel ev tv now = some (s'.toTimers history') := by
  cases tv with
  | none =>
      obtain rfl := Option.some.inj returned
      exact ⟨history, rfl⟩
  | some tv =>
      obtain ⟨list, found, rest⟩ := Option.bind_eq_some_iff.mp returned
      obtain ⟨links', added, rfl⟩ := Option.map_eq_some_iff.mp rest
      obtain ⟨-, rfl⟩ := addToList_eq_some.mp added
      have fd : (fun other => (Function.update s.watches.events ev
          { s.watches.events ev with fd := -1 } other).fd) =
          Function.update (fun other => (s.watches.events other).fd) ev (-1) := by
        funext other
        by_cases same : other = ev
        · subst same
          simp
        · simp [same]
      refine ⟨{ history with
        added := history.added ++ [timeradd now tv]
        number := Function.update history.number ev history.added.length },
        Option.map_eq_some_iff.mpr ⟨list, toTimers_insertionPoint found, ?_⟩⟩
      simp only [toTimers, fd]

theorem toTimers_expire {now : Timeval} {tev : EventPointer ε} {timers : Timers ε}
    (ended : expire timers.timeout now fuel tev timers.links = some links') :
    ∃ history', Timers.expire now fuel tev timers =
      some { timers with links := links', history := history' } := by
  induction fuel generalizing timers tev with
  | zero => cases ended
  | succ fuel inductionHypothesis =>
      unfold expire at ended
      unfold Timers.expire
      split_ifs at ended with last null expired
      · obtain rfl := Option.some.inj ended
        exact ⟨timers.history, by simp [last]⟩
      · obtain ⟨moved, appended, rest⟩ := Option.bind_eq_some_iff.mp ended
        obtain ⟨removed, taken, added⟩ := Option.bind_eq_some_iff.mp appended
        obtain ⟨-, rfl⟩ := removeFromList_eq_some.mp taken
        obtain ⟨-, rfl⟩ := addToList_eq_some.mp added
        obtain ⟨history', moves⟩ := @inductionHypothesis _ (timers.moveToPending tev) rest
        exact ⟨history', by simpa [last, expired, Timers.moveToPending] using moves⟩
      · obtain rfl := Option.some.inj ended
        exact ⟨timers.history, by simp [expired]⟩

/-- **`processTimeouts`** that returns is that of `Timers`. -/
theorem toTimers_processTimeouts {now : Timeval}
    (stepped : step fuel s (.processTimeouts now) = some s') (history : TimerHistory ε) :
    ∃ history', (s.toTimers history).processTimeouts fuel now =
      some (s'.toTimers history') := by
  obtain ⟨rfds, links', here, -, ended, rfl⟩ := step_processTimeouts_iff.mp stepped
  have ended' : expire (s.toTimers history).timeout now fuel
      (s.links.next .timerList) (s.toTimers history).links = some links' := ended
  obtain ⟨history', moves⟩ := toTimers_expire ended'
  refine ⟨{ history' with seen := history'.seen ++ [(history'.added.length, now)] },
    Option.map_eq_some_iff.mpr ⟨_, moves, ?_⟩⟩
  simp only [toTimers, here]

/-- **A turn of `firePending`** that returns is that of `Timers`. -/
theorem toTimers_fireNext {node : EventPointer ε} (here : s.point = .firing node)
    (returned : s.fireNext node = some s') (history : TimerHistory ε) :
    ∃ history', (s.toTimers history).fireNext = some (s'.toTimers history') := by
  cases node with
  | null | timerList => cases returned
  | pendingList =>
      obtain rfl := Option.some.inj returned
      exact ⟨history, by simp only [Timers.fireNext, toTimers, here]⟩
  | event ev =>
      obtain ⟨links', removed, rfl⟩ := Option.map_eq_some_iff.mp returned
      obtain ⟨-, rfl⟩ := removeFromList_eq_some.mp removed
      refine ⟨{ history with fired := history.fired ++ [history.number ev] }, ?_⟩
      simp only [Timers.fireNext, toTimers, here]

end EventMemory

end RildHisi.Libril
