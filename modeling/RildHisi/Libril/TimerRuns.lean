import RildHisi.Libril.Timers

/-!
Owns what holds of the timers over whole runs: every timer is in exactly one of
the lists or has fired, none leaves `timer_list` before a `processTimeouts` has
seen it expire and none stays behind one, what one call moves fires in the order
of the deadlines, and `calcNextTimeout` reports the time to the earliest one.
-/

namespace RildHisi.Libril

open RildHisi.Library

namespace Timers

variable {ε : Type} {s s' : Timers ε} {timers pending : List ε}

/-- Every timer is in one place, went there for a reason, and leaves in time. -/
structure Accounted (s : Timers ε) (timers pending : List ε) : Prop where
  /-- Each timer is listed, pending or fired, in one place and once. -/
  once : (timers.map s.history.number ++ pending.map s.history.number ++ s.history.fired).Perm
    (List.range s.history.added.length)
  deadlines : ∀ ev ∈ timers ++ pending,
    s.deadline (s.history.number ev) = s.timeout (.event ev)
  /-- Who has left the list was seen to be past its deadline. -/
  expired : ∀ number ∈ pending.map s.history.number ++ s.history.fired,
    ∃ call count now, s.history.moved number = some call ∧
      s.history.seen[call]? = some (count, now) ∧ number < count ∧
      (s.deadline number).micros < now.micros
  /-- Who is still in the list was not. -/
  waiting : ∀ count now, (count, now) ∈ s.history.seen → ∀ ev ∈ timers,
    s.history.number ev < count → now.micros ≤ s.due ev
  counts : ∀ count now, (count, now) ∈ s.history.seen → count ≤ s.history.added.length
  /-- What one call has moved fires in the order of the deadlines. -/
  order : (s.history.fired ++ pending.map s.history.number).Pairwise fun first second =>
    s.history.moved first = s.history.moved second →
      (s.deadline first).micros ≤ (s.deadline second).micros

theorem initial_accounted : (initial : Timers ε).Accounted [] [] where
  once := List.Perm.refl _
  deadlines := nofun
  expired := nofun
  waiting := nofun
  counts := nofun
  order := List.Pairwise.nil

/-- The timers that are accounted for are those that were added. -/
theorem Accounted.lt_length (accounted : s.Accounted timers pending) {number : Nat}
    (member : number ∈ timers.map s.history.number ++ pending.map s.history.number ++
      s.history.fired) : number < s.history.added.length :=
  List.mem_range.mp (accounted.once.mem_iff.mp member)

/-- `ril_timer_add` has added a timer. -/
theorem Accounted.add [DecidableEq ε] (accounted : s.Accounted timers pending) {ev : ε} {timeout : Timeval}
    {front back : List ε} (fresh : ev ∉ timers ++ pending) (split : timers = front ++ back)
    (timeouts : s'.timeout = Function.update s.timeout (.event ev) timeout)
    (history : s'.history = { s.history with
      added := s.history.added ++ [timeout]
      number := Function.update s.history.number ev s.history.added.length }) :
    s'.Accounted (front ++ ev :: back) pending := by
  have notEv {other : ε} (listed : other ∈ timers ++ pending) : other ≠ ev :=
    fun same => fresh (same ▸ listed)
  have own : s'.history.number ev = s.history.added.length := by
    rw [history]
    exact Function.update_self ..
  have number {other : ε} (listed : other ∈ timers ++ pending) :
      s'.history.number other = s.history.number other := by
    rw [history]
    exact Function.update_of_ne (notEv listed) ..
  have numbers {list : List ε} (listed : ∀ other ∈ list, other ∈ timers ++ pending) :
      list.map s'.history.number = list.map s.history.number :=
    List.map_congr_left fun other member => number (listed other member)
  have timeoutOf {other : ε} (listed : other ∈ timers ++ pending) :
      s'.timeout (.event other) = s.timeout (.event other) := by
    rw [timeouts]
    exact Function.update_of_ne (fun same => notEv listed (EventPointer.event.inj same)) ..
  have deadline {count : Nat} (old : count < s.history.added.length) :
      s'.deadline count = s.deadline count := by
    unfold Timers.deadline
    rw [history]
    exact List.getD_append _ _ _ _ old
  have pendingNumbers : pending.map s'.history.number = pending.map s.history.number :=
    numbers fun _ => List.mem_append_right timers
  have timerNumbers : timers.map s'.history.number = timers.map s.history.number :=
    numbers fun _ => List.mem_append_left pending
  have fired : s'.history.fired = s.history.fired := by rw [history]
  have moved : s'.history.moved = s.history.moved := by rw [history]
  have seen : s'.history.seen = s.history.seen := by rw [history]
  have added : s'.history.added = s.history.added ++ [timeout] := by rw [history]
  have old {number : Nat} (member : number ∈ pending.map s.history.number ++ s.history.fired) :
      number < s.history.added.length := by
    apply accounted.lt_length
    rw [List.append_assoc]
    exact List.mem_append_right _ member
  have members {other : ε} (listed : other ∈ front ++ ev :: back) :
      other = ev ∨ other ∈ timers := by
    rw [split]
    simp only [List.mem_append, List.mem_cons] at listed ⊢
    tauto
  constructor
  case once =>
    have perm : ((front ++ ev :: back).map s'.history.number).Perm
        (s.history.added.length :: timers.map s.history.number) := by
      rw [← own, ← timerNumbers, ← List.map_cons, split]
      exact List.perm_middle.map _
    rw [pendingNumbers, fired, added, List.length_append, List.length_singleton, List.range_succ]
    apply ((perm.append_right _).append_right _).trans
    refine ((accounted.once.cons s.history.added.length).trans ?_)
    exact (List.perm_append_singleton _ _).symm
  case deadlines =>
    intro other listed
    by_cases same : other = ev
    · subst same
      rw [own, timeouts, Function.update_self]
      unfold Timers.deadline
      rw [added, List.getD_append_right _ _ _ _ le_rfl]
      simp
    · have listed' : other ∈ timers ++ pending := by
        rw [split]
        simp only [List.mem_append, List.mem_cons] at listed ⊢
        tauto
      have inside : s.history.number other < s.history.added.length := by
        apply accounted.lt_length
        rw [← List.map_append]
        exact List.mem_append_left _ (List.mem_map_of_mem listed')
      rw [number listed', deadline inside, timeoutOf listed']
      exact accounted.deadlines other listed'
  case expired =>
    rw [pendingNumbers, fired, moved, seen]
    intro count member
    rw [deadline (old member)]
    exact accounted.expired count member
  case waiting =>
    rw [seen]
    intro count now call other listed earlier
    have bound := accounted.counts count now call
    rcases members listed with rfl | listed'
    · omega
    · have listed'' := List.mem_append_left pending listed'
      rw [number listed''] at earlier
      unfold Timers.due
      rw [timeoutOf listed'']
      exact accounted.waiting count now call other listed' earlier
  case counts =>
    rw [seen, added]
    intro count now call
    exact (accounted.counts count now call).trans (by simp)
  case order =>
    rw [fired, pendingNumbers, moved]
    refine accounted.order.imp_of_mem fun first second ordered same => ?_
    rw [List.mem_append, or_comm, ← List.mem_append] at first second
    rw [deadline (old first), deadline (old second)]
    exact ordered same

/-- `processTimeouts` has moved the timers it saw expire. -/
theorem Accounted.processTimeouts {rest batch : List ε} {now : Timeval}
    (accounted : s.Accounted (batch ++ rest) pending) (lists : s.Lists (batch ++ rest) pending)
    (early : ∀ ev ∈ batch, s.due ev < now.micros) (late : ∀ ev ∈ rest, now.micros ≤ s.due ev)
    (timeouts : s'.timeout = s.timeout)
    (history : s'.history = { s.history.mark (batch.map s.history.number) with
      seen := s.history.seen ++ [(s.history.added.length, now)] }) :
    s'.Accounted rest (pending ++ batch) := by
  have number : s'.history.number = s.history.number := by rw [history]; rfl
  have fired : s'.history.fired = s.history.fired := by rw [history]; rfl
  have added : s'.history.added = s.history.added := by rw [history]; rfl
  have seen : s'.history.seen = s.history.seen ++ [(s.history.added.length, now)] := by
    rw [history]
  have moved (count : Nat) : s'.history.moved count =
      if count ∈ batch.map s.history.number then some s.history.seen.length
      else s.history.moved count := by rw [history]; rfl
  have deadline (count : Nat) : s'.deadline count = s.deadline count := by
    unfold Timers.deadline
    rw [added]
  have due (ev : ε) : s'.due ev = s.due ev := by
    unfold Timers.due
    rw [timeouts]
  have batchDeadline {ev : ε} (member : ev ∈ batch) :
      (s.deadline (s.history.number ev)).micros = s.due ev := by
    rw [accounted.deadlines ev (by simp [member])]
    rfl
  -- the timers of the batch were in no other place
  have disjoint {count : Nat} (member : count ∈ pending.map s.history.number ++ s.history.fired) :
      count ∉ batch.map s.history.number := by
    have nodup := accounted.once.nodup_iff.mpr List.nodup_range
    rw [List.append_assoc] at nodup
    intro inBatch
    exact (List.nodup_append.mp nodup).2.2 count (by simp [List.map_append, inBatch]) count member
      rfl
  constructor
  case once =>
    rw [number, fired, added]
    refine List.Perm.trans ?_ accounted.once
    rw [List.map_append, List.map_append, ← List.append_assoc]
    apply List.Perm.append_right _
    exact List.perm_append_comm.trans (by simp)
  case deadlines =>
    intro ev listed
    rw [deadline, number, timeouts]
    apply accounted.deadlines
    simp only [List.mem_append] at listed ⊢
    tauto
  case expired =>
    rw [number, fired]
    intro count member
    rw [deadline]
    by_cases inBatch : count ∈ batch.map s.history.number
    · refine ⟨s.history.seen.length, s.history.added.length, now, ?_, ?_, ?_, ?_⟩
      · rw [moved, if_pos inBatch]
      · rw [seen]
        simp
      · apply accounted.lt_length
        simp [List.map_append, inBatch]
      · obtain ⟨ev, listed, rfl⟩ := List.mem_map.mp inBatch
        rw [batchDeadline listed]
        exact early ev listed
    · have member' : count ∈ pending.map s.history.number ++ s.history.fired := by
        rw [List.map_append] at member
        simp only [List.mem_append] at member inBatch ⊢
        tauto
      obtain ⟨call, bound, time, byCall, recorded, known, passed⟩ :=
        accounted.expired count member'
      refine ⟨call, bound, time, ?_, ?_, known, passed⟩
      · rw [moved, if_neg inBatch, byCall]
      · rw [seen, List.getElem?_append_left (List.getElem?_eq_some_iff.mp recorded).1]
        exact recorded
  case waiting =>
    rw [seen, number]
    intro count time call ev listed earlier
    rw [due]
    rcases List.mem_append.mp call with before | this
    · exact accounted.waiting count time before ev (by simp [listed]) earlier
    · obtain ⟨rfl, rfl⟩ := Prod.mk.inj (List.mem_singleton.mp this)
      exact late ev listed
  case counts =>
    rw [seen, added]
    intro count time call
    rcases List.mem_append.mp call with before | this
    · exact accounted.counts count time before
    · obtain ⟨rfl, rfl⟩ := Prod.mk.inj (List.mem_singleton.mp this)
      exact le_rfl
  case order =>
    rw [number, fired, List.map_append, ← List.append_assoc]
    have earlier {count : Nat} (member : count ∈ s.history.fired ++ pending.map s.history.number) :
        s'.history.moved count = s.history.moved count ∧
          ∃ call, s.history.moved count = some call ∧ call < s.history.seen.length := by
      rw [List.mem_append, or_comm, ← List.mem_append] at member
      obtain ⟨call, bound, time, byCall, recorded, -⟩ := accounted.expired count member
      exact ⟨by rw [moved, if_neg (disjoint member)], call, byCall,
        (List.getElem?_eq_some_iff.mp recorded).1⟩
    refine List.pairwise_append.mpr ⟨?_, ?_, ?_⟩
    · refine accounted.order.imp_of_mem fun first second ordered same => ?_
      rw [(earlier first).1, (earlier second).1] at same
      rw [deadline, deadline]
      exact ordered same
    · rw [List.pairwise_map]
      refine (List.pairwise_append.mp lists.sorted).1.imp_of_mem fun first second ordered _ => ?_
      rw [deadline, deadline, batchDeadline first, batchDeadline second]
      exact ordered
    · intro first member second inBatch same
      obtain ⟨unmarked, call, byCall, before⟩ := earlier member
      rw [unmarked, byCall, moved, if_pos inBatch, Option.some.injEq] at same
      omega

/-- A turn of `firePending` has fired the first pending timer. -/
theorem Accounted.fireNext {ev : ε} {rest : List ε} (accounted : s.Accounted timers (ev :: rest))
    (timeouts : s'.timeout = s.timeout)
    (history : s'.history =
      { s.history with fired := s.history.fired ++ [s.history.number ev] }) :
    s'.Accounted timers rest := by
  have deadline (count : Nat) : s'.deadline count = s.deadline count := by
    unfold Timers.deadline
    rw [history]
  have due (other : ε) : s'.due other = s.due other := by
    unfold Timers.due
    rw [timeouts]
  constructor
  case once =>
    rw [history]
    refine List.Perm.trans ?_ accounted.once
    simp only [List.append_assoc, List.map_cons, List.cons_append]
    apply List.Perm.append_left _
    rw [← List.append_assoc]
    exact List.perm_append_singleton _ _
  case deadlines =>
    intro other listed
    rw [deadline, timeouts, history]
    apply accounted.deadlines
    simp only [List.mem_append, List.mem_cons] at listed ⊢
    tauto
  case expired =>
    intro count member
    rw [deadline, history]
    rw [history] at member
    apply accounted.expired
    simp only [List.map_cons, List.mem_append, List.mem_cons, List.not_mem_nil] at member ⊢
    tauto
  case waiting =>
    rw [history]
    intro count now call other listed earlier
    rw [due]
    exact accounted.waiting count now call other listed earlier
  case counts =>
    rw [history]
    exact accounted.counts
  case order =>
    rw [history]
    simp only [List.append_assoc, List.singleton_append]
    refine accounted.order.imp fun ordered same => ?_
    rw [deadline, deadline]
    exact ordered same

/-- Whether `firePending` runs makes no difference. -/
theorem Accounted.setFiring (accounted : s.Accounted timers pending)
    (firing : Option (EventPointer ε)) : Accounted { s with firing := firing } timers pending :=
  ⟨accounted.once, accounted.deadlines, accounted.expired, accounted.waiting, accounted.counts,
    accounted.order⟩

/-- The lists, and the accounts of them. -/
structure Scheduled (s : Timers ε) (timers pending : List ε) : Prop where
  lists : s.Lists timers pending
  accounted : s.Accounted timers pending

theorem Scheduled.length_le (scheduled : s.Scheduled timers pending) :
    timers.length ≤ s.history.added.length := by
  have lengths := scheduled.accounted.once.length_eq
  simp only [List.length_append, List.length_map, List.length_range] at lengths
  omega

/-- An event that `ril_timer_add` may be called for is in no list. -/
theorem Lists.unlisted_of_next (lists : s.Lists timers pending) {ev : ε}
    (next : s.links.next (.event ev) = .null) : ev ∉ timers ++ pending := by
  obtain ⟨out, out'⟩ := lists.rings.not_mem_of_next next
  rw [List.mem_append, not_or]
  exact ⟨by simpa using out, by simpa using out'⟩

variable [DecidableEq ε]

/-- What `calcNextTimeout` reports. -/
structure Waits (s : Timers ε) (timers : List ε) : Prop where
  none : ∀ now, s.calcNextTimeout now = none ↔ timers = []
  interval : ∀ now tv, now.Normalised → s.calcNextTimeout now = some tv → tv.Normalised ∧
    ∃ ev ∈ timers, (∀ other ∈ timers, s.due ev ≤ s.due other) ∧
      tv.micros = max 0 (s.due ev - now.micros)

theorem Lists.waits (lists : s.Lists timers pending) : s.Waits timers := by
  have first := lists.timerRing.next_sentinel
  constructor
  · intro now
    unfold calcNextTimeout
    cases timers with
    | nil => simp [first]
    | cons ev rest =>
        simp only [first, List.map_cons, List.headD_cons]
        split_ifs <;> simp_all
  · intro now tv clock reported
    unfold calcNextTimeout at reported
    cases timers with
    | nil => simp [first] at reported
    | cons ev rest =>
        have normal := lists.normalised ev List.mem_cons_self
        simp only [first, List.map_cons, List.headD_cons] at reported
        rw [if_neg nofun] at reported
        have earliest : ∀ other ∈ ev :: rest, s.due ev ≤ s.due other := by
          intro other member
          rcases List.mem_cons.mp member with rfl | behind
          · exact le_rfl
          · exact (List.pairwise_cons.mp lists.sorted).1 other behind
        by_cases ahead : timercmp now (s.timeout (.event ev)) = true
        · rw [if_pos ahead, Option.some.injEq] at reported
          subst reported
          obtain ⟨normalised, micros⟩ := timersub_spec normal clock
          have later := (timercmp_iff clock normal).mp ahead
          refine ⟨normalised, ev, List.mem_cons_self, earliest, ?_⟩
          rw [micros, max_eq_right (by unfold due; omega)]
          rfl
        · rw [if_neg ahead, Option.some.injEq] at reported
          subst reported
          rw [timercmp_iff clock normal, not_lt] at ahead
          refine ⟨by decide, ev, List.mem_cons_self, earliest, ?_⟩
          rw [max_eq_left (by unfold due; omega)]
          rfl

/-! ### Runs -/

theorem insertionPoint_mono {timeout : Timeval} {fuel fuel' : Nat} (more : fuel ≤ fuel')
    {list found : EventPointer ε} (ended : s.insertionPoint timeout fuel list = some found) :
    s.insertionPoint timeout fuel' list = some found := by
  induction fuel generalizing list fuel' with
  | zero => cases ended
  | succ fuel inductionHypothesis =>
      obtain ⟨fuel', rfl⟩ : ∃ less, fuel' = less + 1 := ⟨fuel' - 1, by omega⟩
      unfold insertionPoint at ended ⊢
      split_ifs at ended ⊢ with goesOn
      · exact inductionHypothesis (by omega) ended
      · exact ended

theorem expire_mono {now : Timeval} {fuel fuel' : Nat} (more : fuel ≤ fuel')
    {tev : EventPointer ε} (ended : expire now fuel tev s = some s') :
    expire now fuel' tev s = some s' := by
  induction fuel generalizing s tev fuel' with
  | zero => cases ended
  | succ fuel inductionHypothesis =>
      obtain ⟨fuel', rfl⟩ : ∃ less, fuel' = less + 1 := ⟨fuel' - 1, by omega⟩
      unfold expire at ended ⊢
      split_ifs at ended ⊢ with goesOn
      · exact inductionHypothesis (by omega) ended
      · exact ended

/-- Fuel only decides whether a step ends. -/
theorem step_mono {fuel fuel' : Nat} (more : fuel ≤ fuel') {op : TimerOp ε}
    (stepped : step fuel s op = some s') : step fuel' s op = some s' := by
  unfold step at stepped ⊢
  split_ifs at stepped ⊢
  cases op with
  | add ev tv now =>
      cases tv with
      | none => exact stepped
      | some tv =>
          obtain ⟨list, found, shape⟩ := Option.map_eq_some_iff.mp stepped
          exact Option.map_eq_some_iff.mpr ⟨list, insertionPoint_mono more found, shape⟩
  | processTimeouts now =>
      obtain ⟨middle, ended, shape⟩ := Option.map_eq_some_iff.mp stepped
      exact Option.map_eq_some_iff.mpr ⟨middle, expire_mono more ended, shape⟩
  | firePending | fireNext => exact stepped

/-- **A step that is allowed ends**, with as much fuel as there were timers, and keeps
the lists and their accounts. Only an addition brings a timer into the list, and no
step changes the deadline of another. -/
theorem Scheduled.step (scheduled : s.Scheduled timers pending) {op : TimerOp ε}
    (allowed : s.Allows op) {fuel : Nat} (enough : s.history.added.length < fuel) :
    ∃ s' timers' pending', Timers.step fuel s op = some s' ∧ s'.Scheduled timers' pending' ∧
      ∀ ev ∈ timers', op.Adds ev ∨ ev ∈ timers ∧ s'.due ev = s.due ev := by
  obtain ⟨lists, accounted⟩ := scheduled
  have bound := lt_of_le_of_lt (Scheduled.length_le ⟨lists, accounted⟩) enough
  unfold Timers.step
  rw [if_pos allowed]
  cases op with
  | add ev tv now =>
      obtain ⟨next, clock, delays⟩ := allowed
      cases tv with
      | none =>
          exact ⟨s, timers, pending, rfl, ⟨lists, accounted⟩, fun _ listed => Or.inr ⟨listed, rfl⟩⟩
      | some tv =>
          have fresh := lists.unlisted_of_next next
          obtain ⟨s', front, back, added, split, lists', timeouts, history⟩ :=
            lists.rilTimerAdd fresh (delays tv rfl).1 clock bound
          refine ⟨s', _, pending, added, ⟨lists', accounted.add fresh split timeouts history⟩, ?_⟩
          intro other listed
          by_cases same : other = ev
          · exact Or.inl same.symm
          · refine Or.inr ⟨?_, ?_⟩
            · rw [split]
              simpa [same] using listed
            · unfold due
              rw [timeouts, Function.update_of_ne]
              exact fun here => same (EventPointer.event.inj here)
  | processTimeouts now =>
      obtain ⟨idle, clock⟩ := allowed
      obtain ⟨s', batch, rest, ran, rfl, early, late, lists', timeouts, -, history⟩ :=
        lists.expire idle clock bound
      dsimp only
      unfold Timers.processTimeouts
      rw [lists.timerRing.next_sentinel, ran]
      refine ⟨_, rest, pending ++ batch, rfl, ⟨⟨lists'.timerRing, lists'.pendingRing,
        lists'.distinct, lists'.unlisted, lists'.sorted, lists'.normalised, lists'.sentinel,
        lists'.firing⟩, accounted.processTimeouts lists early late timeouts ?_⟩, ?_⟩
      · simp only [history, TimerHistory.mark]
      · intro ev listed
        refine Or.inr ⟨List.mem_append_right _ listed, ?_⟩
        unfold due
        rw [timeouts]
  | firePending =>
      refine ⟨_, timers, pending, rfl, ⟨⟨lists.timerRing, lists.pendingRing, lists.distinct,
        lists.unlisted, lists.sorted, lists.normalised, lists.sentinel, ?_⟩,
        accounted.setFiring _⟩, fun _ listed => Or.inr ⟨listed, rfl⟩⟩
      rintro node shape
      obtain rfl := Option.some.inj shape
      exact lists.pendingRing.next_sentinel
  | fireNext =>
      rcases lists.fireNext allowed with ⟨rfl, last⟩ | ⟨ev, rest, s', rfl, fired, lists', same, history⟩
      · exact ⟨_, timers, [], last, ⟨⟨lists.timerRing, lists.pendingRing, lists.distinct,
          lists.unlisted, lists.sorted, lists.normalised, lists.sentinel,
          fun _ firing => by cases firing⟩, accounted.setFiring none⟩, fun _ listed => Or.inr ⟨listed, rfl⟩⟩
      · refine ⟨s', timers, rest, fired, ⟨lists', accounted.fireNext same history⟩, ?_⟩
        intro other listed
        refine Or.inr ⟨listed, ?_⟩
        unfold due
        rw [same]

/-- A step that has ended kept the lists, whatever its fuel. -/
theorem Scheduled.of_step (scheduled : s.Scheduled timers pending) {fuel : Nat} {op : TimerOp ε}
    (stepped : Timers.step fuel s op = some s') :
    ∃ timers' pending', s'.Scheduled timers' pending' ∧
      ∀ ev ∈ timers', op.Adds ev ∨ ev ∈ timers ∧ s'.due ev = s.due ev := by
  have allowed : s.Allows op := by
    by_contra refused
    unfold Timers.step at stepped
    rw [if_neg refused] at stepped
    cases stepped
  obtain ⟨next, timers', pending', ended, scheduled', kept⟩ :=
    scheduled.step allowed (lt_of_lt_of_le (Nat.lt_succ_self _) (Nat.le_max_right fuel _))
  rw [step_mono (Nat.le_max_left fuel _) stepped, Option.some.injEq] at ended
  subst ended
  exact ⟨timers', pending', scheduled', kept⟩

/-- **The timers in every run**: the two lists are rings, `timer_list` is sorted, every
timer is in one place and leaves it when it is due and not before, `calcNextTimeout`
reports the time to the earliest, a `firePending` that ends leaves `pending_list` empty,
and every step that is allowed ends. -/
theorem scheduled_of_run {fuel : Nat} {ops : List (TimerOp ε)}
    (ran : run (step fuel) (initial : Timers ε) ops = some s) :
    ∃ timers pending, s.Lists timers pending ∧ s.Accounted timers pending ∧ s.Waits timers ∧
      (s.firing = some .pendingList → pending = []) ∧
      ∀ op fuel', s.Allows op → s.history.added.length < fuel' → (step fuel' s op).isSome := by
  have kept : ∀ (s : Timers ε) op s', (∃ timers pending, s.Scheduled timers pending) →
      step fuel s op = some s' → ∃ timers pending, s'.Scheduled timers pending := by
    rintro s op s' ⟨timers, pending, scheduled⟩ stepped
    obtain ⟨timers', pending', scheduled', -⟩ := scheduled.of_step stepped
    exact ⟨timers', pending', scheduled'⟩
  obtain ⟨timers, pending, scheduled⟩ :=
    run_invariant kept ⟨[], [], initial_lists, initial_accounted⟩ ran
  refine ⟨timers, pending, scheduled.lists, scheduled.accounted, scheduled.lists.waits, ?_, ?_⟩
  · intro ended
    have place := scheduled.lists.firing _ ended
    cases pending with
    | nil => rfl
    | cons ev rest => cases place
  · intro op fuel' allowed enough
    obtain ⟨s', -, -, stepped, -, -⟩ := scheduled.step allowed enough
    exact Option.isSome_iff_exists.mpr ⟨s', stepped⟩

/-- Two timers with one deadline and an earlier one; the clock goes back once, and one of
the functions called adds its event again. -/
def sampleOps : List (TimerOp Nat) :=
  [.add 1 (some ⟨1, 500000⟩) ⟨10, 700000⟩, .processTimeouts ⟨9, 0⟩,
    .add 2 (some ⟨2, 0⟩) ⟨10, 200000⟩, .add 3 (some ⟨0, 0⟩) ⟨9, 999999⟩,
    .processTimeouts ⟨11, 0⟩, .firePending, .fireNext, .add 3 (some ⟨5, 0⟩) ⟨11, 0⟩, .fireNext,
    .processTimeouts ⟨13, 1⟩, .firePending, .fireNext]

theorem scheduled_sampleOps : ∃ s, run (step 8) (initial : Timers Nat) sampleOps = some s ∧
    ∃ timers pending, s.Lists timers pending ∧ s.Accounted timers pending ∧ s.Waits timers ∧
      (s.firing = some .pendingList → pending = []) ∧
      ∀ op fuel', s.Allows op → s.history.added.length < fuel' → (step fuel' s op).isSome := by
  have ends : (run (step 8) (initial : Timers Nat) sampleOps).isSome = true := by decide +kernel
  obtain ⟨s, ran⟩ := Option.isSome_iff_exists.mp ends
  exact ⟨s, ran, scheduled_of_run ran⟩

end Timers

end RildHisi.Libril
