import RildHisi.Libril.State

/-!
Owns `sendResponseRaw` as any number of threads run it on one open connection, one
`write` at a time: the mutex keeps the two write loops of a frame together, so the
client receives whole frames (`frames_of_run`), up to where the first write fails.

The descriptor is read once, before the mutex is taken. Behind a failing write it is
closed, and every other write to it fails.
-/

namespace RildHisi.Libril

open RildHisi.Library

/-- A frame as the client receives it. -/
def frameBytes (data : List UInt8) : List UInt8 := htonl data.length ++ data

/-- The number a client reads from a length header. -/
def ntohl (bytes : List UInt8) : Nat := bytes.foldl (fun high byte => high * 2 ^ 8 + byte.toNat) 0

theorem htonl_length (size : Nat) : (htonl size).length = 4 := rfl

/-- The header gives the length. -/
theorem ntohl_htonl {size : Nat} (fits : size < 2 ^ 32) : ntohl (htonl size) = size := by
  simp only [ntohl, htonl, wordBytes, BitVec.toNat_ofNat, Nat.mod_eq_of_lt fits, List.map_cons,
    List.map_nil, List.reverse_cons, List.reverse_nil, List.nil_append, List.cons_append,
    List.foldl_cons, List.foldl_nil, UInt8.toNat_ofNat']
  omega

/-- Where a thread stands in `sendResponseRaw`. -/
inductive FramePoint
  /-- Behind the checks, at `pthread_mutex_lock`. -/
  | locking (data : List UInt8)
  /-- In the `blockingWrite` of the header. -/
  | header (data : List UInt8) (writeOffset : Nat)
  /-- In the `blockingWrite` of the data. -/
  | body (data : List UInt8) (writeOffset : Nat)
  /-- At `pthread_mutex_unlock`. -/
  | unlocking (data : List UInt8) (ret : Int)
  deriving DecidableEq

namespace FramePoint

def data : FramePoint → List UInt8
  | locking data | header data _ | body data _ | unlocking data _ => data

/-- The thread holds the mutex. -/
def inside : FramePoint → Bool
  | locking _ => false
  | _ => true

/-- What the thread has written of its frame, unless it failed. -/
def written : FramePoint → List UInt8
  | locking _ => []
  | header data writeOffset => (htonl data.length).take writeOffset
  | body data writeOffset => htonl data.length ++ data.take writeOffset
  | unlocking data _ => frameBytes data

/-- The thread has not written and cannot write. -/
def stuck : FramePoint → Bool
  | locking _ => true
  | header _ writeOffset => writeOffset = 0
  | body _ _ => false
  | unlocking _ ret => ret = -1

end FramePoint

/-- The connection behind `s_fdCommand`, and the threads `θ` that send on it. -/
structure Senders (θ : Type) where
  isOpen : Bool
  /-- What the client receives. -/
  received : List UInt8
  /-- The thread that holds `s_writeMutex`. -/
  writeMutex : Option θ
  points : θ → Option FramePoint
  /-- The data and the result of every call that has returned. -/
  returned : List (List UInt8 × Int)

inductive SendEvent (θ : Type)
  | sendResponseRaw (thread : θ) (data : List UInt8)
  | lock (thread : θ)
  /-- A `write` in `blockingWrite`. -/
  | write (thread : θ) (outcome : WriteOutcome)
  /-- `blockingWrite` has written all and returns. -/
  | written (thread : θ)
  | unlock (thread : θ)
  deriving DecidableEq

theorem FramePoint.written_front (point : FramePoint) : point.written <+: frameBytes point.data := by
  cases point with
  | locking data => exact List.nil_prefix
  | header data writeOffset => exact (List.take_prefix _ _).trans (List.prefix_append _ _)
  | body data writeOffset => exact (List.prefix_append_right_inj _).mpr (List.take_prefix _ _)
  | unlocking data ret => exact List.prefix_refl _

namespace Senders

variable {θ : Type}

def initial : Senders θ := ⟨true, [], none, fun _ => none, []⟩

/-- The data of the calls that were successful, in the order of their return. -/
def sent (s : Senders θ) : List (List UInt8) := (s.returned.filter (·.2 = 0)).map Prod.fst

/-- The thread in the mutex has written this of its frame. -/
def partly (s : Senders θ) : List UInt8 :=
  (s.writeMutex.bind s.points).elim [] FramePoint.written

section Steps

variable [DecidableEq θ]

def setPoint (s : Senders θ) (thread : θ) (point : Option FramePoint) : Senders θ :=
  { s with points := Function.update s.points thread point }

/-- A `write` of what is left of `bytes`; `goesOn` is where the loop is afterwards. -/
def writeSome (s : Senders θ) (thread : θ) (data bytes : List UInt8) (writeOffset : Nat)
    (goesOn : Nat → FramePoint) : WriteOutcome → Option (Senders θ)
  | .interrupted => some s
  | .failed => some ({ s with isOpen := false }.setPoint thread (some (.unlocking data (-1))))
  | .wrote count =>
      let taken := (bytes.drop writeOffset).take count
      if s.isOpen then
        some ({ s with received := s.received ++ taken }.setPoint thread
          (some (goesOn (writeOffset + taken.length))))
      else none

def step (s : Senders θ) : SendEvent θ → Option (Senders θ)
  | .sendResponseRaw thread data =>
      if s.points thread = none then
        if maxCommandBytes < data.length then
          some { s with returned := s.returned ++ [(data, -1)] }
        else some (s.setPoint thread (some (.locking data)))
      else none
  | .lock thread =>
      match s.points thread with
      | some (.locking data) =>
          if s.writeMutex = none then
            some ({ s with writeMutex := some thread }.setPoint thread (some (.header data 0)))
          else none
      | _ => none
  | .write thread outcome =>
      match s.points thread with
      | some (.header data writeOffset) =>
          if writeOffset < (htonl data.length).length then
            s.writeSome thread data (htonl data.length) writeOffset (.header data) outcome
          else none
      | some (.body data writeOffset) =>
          if writeOffset < data.length then
            s.writeSome thread data data writeOffset (.body data) outcome
          else none
      | _ => none
  | .written thread =>
      match s.points thread with
      | some (.header data writeOffset) =>
          if writeOffset < (htonl data.length).length then none
          else some (s.setPoint thread (some (.body data 0)))
      | some (.body data writeOffset) =>
          if writeOffset < data.length then none
          else some (s.setPoint thread (some (.unlocking data 0)))
      | _ => none
  | .unlock thread =>
      match s.points thread with
      | some (.unlocking data ret) =>
          some ({ s with writeMutex := none, returned := s.returned ++ [(data, ret)] }.setPoint
            thread none)
      | _ => none

/-- What a step is, with all it does. -/
inductive Stepped (s : Senders θ) : SendEvent θ → Senders θ → Prop
  | tooLong (thread : θ) (data : List UInt8) (idle : s.points thread = none)
      (large : maxCommandBytes < data.length) :
      Stepped s (.sendResponseRaw thread data) { s with returned := s.returned ++ [(data, -1)] }
  | starts (thread : θ) (data : List UInt8) (idle : s.points thread = none)
      (fits : data.length ≤ maxCommandBytes) :
      Stepped s (.sendResponseRaw thread data) (s.setPoint thread (some (.locking data)))
  | locks (thread : θ) (data : List UInt8) (here : s.points thread = some (.locking data))
      (free : s.writeMutex = none) :
      Stepped s (.lock thread)
        ({ s with writeMutex := some thread }.setPoint thread (some (.header data 0)))
  | writesHeader (thread : θ) (outcome : WriteOutcome) (data : List UInt8) (writeOffset : Nat)
      (s' : Senders θ) (here : s.points thread = some (.header data writeOffset))
      (wrote : s.writeSome thread data (htonl data.length) writeOffset (.header data) outcome =
        some s') :
      Stepped s (.write thread outcome) s'
  | writesBody (thread : θ) (outcome : WriteOutcome) (data : List UInt8) (writeOffset : Nat)
      (s' : Senders θ) (here : s.points thread = some (.body data writeOffset))
      (wrote : s.writeSome thread data data writeOffset (.body data) outcome = some s') :
      Stepped s (.write thread outcome) s'
  | headerWritten (thread : θ) (data : List UInt8) (writeOffset : Nat)
      (here : s.points thread = some (.header data writeOffset))
      (whole : (htonl data.length).length ≤ writeOffset) :
      Stepped s (.written thread) (s.setPoint thread (some (.body data 0)))
  | bodyWritten (thread : θ) (data : List UInt8) (writeOffset : Nat)
      (here : s.points thread = some (.body data writeOffset)) (whole : data.length ≤ writeOffset) :
      Stepped s (.written thread) (s.setPoint thread (some (.unlocking data 0)))
  | unlocks (thread : θ) (data : List UInt8) (ret : Int)
      (here : s.points thread = some (.unlocking data ret)) :
      Stepped s (.unlock thread)
        ({ s with writeMutex := none, returned := s.returned ++ [(data, ret)] }.setPoint thread none)

theorem stepped_of_step {s s' : Senders θ} {event : SendEvent θ}
    (stepped : s.step event = some s') : s.Stepped event s' := by
  cases event with
  | sendResponseRaw thread data =>
      obtain ⟨idle, shape⟩ := Option.ite_none_right_eq_some.mp stepped
      split_ifs at shape with large
      · exact Option.some.inj shape ▸ .tooLong thread data idle large
      · exact Option.some.inj shape ▸ .starts thread data idle (not_lt.mp large)
  | lock thread =>
      simp only [step] at stepped
      split at stepped
      case h_1 data here =>
        obtain ⟨free, shape⟩ := Option.ite_none_right_eq_some.mp stepped
        exact Option.some.inj shape ▸ .locks thread data here free
      case h_2 => cases stepped
  | write thread outcome =>
      simp only [step] at stepped
      split at stepped
      case h_1 data writeOffset here =>
        obtain ⟨-, wrote⟩ := Option.ite_none_right_eq_some.mp stepped
        exact .writesHeader thread outcome data writeOffset s' here wrote
      case h_2 data writeOffset here =>
        obtain ⟨-, wrote⟩ := Option.ite_none_right_eq_some.mp stepped
        exact .writesBody thread outcome data writeOffset s' here wrote
      case h_3 => cases stepped
  | written thread =>
      simp only [step] at stepped
      split at stepped
      case h_1 data writeOffset here =>
        obtain ⟨whole, shape⟩ := Option.ite_none_left_eq_some.mp stepped
        exact Option.some.inj shape ▸ .headerWritten thread data writeOffset here (not_lt.mp whole)
      case h_2 data writeOffset here =>
        obtain ⟨whole, shape⟩ := Option.ite_none_left_eq_some.mp stepped
        exact Option.some.inj shape ▸ .bodyWritten thread data writeOffset here (not_lt.mp whole)
      case h_3 => cases stepped
  | unlock thread =>
      simp only [step] at stepped
      split at stepped
      case h_1 data ret here =>
        exact Option.some.inj stepped ▸ .unlocks thread data ret here
      case h_2 => cases stepped

end Steps

/-! ### What the mutex keeps together -/

/-- While the connection is open the client has the frames of the calls that were
successful and what the holder of the mutex has written; behind a failure it has a
front part of such frames, and nothing more is written. -/
structure Sound (s : Senders θ) : Prop where
  holder : ∀ thread, s.writeMutex = some thread ↔ ∃ point, s.points thread = some point ∧
    point.inside = true
  fits : ∀ thread point, s.points thread = some point → point.data.length ≤ maxCommandBytes
  results : ∀ call ∈ s.returned, call.2 = 0 ∧ call.1.length ≤ maxCommandBytes ∨
    call.2 = -1 ∧ (maxCommandBytes < call.1.length ∨ s.isOpen = false)
  whole : s.isOpen = true → s.received = s.sent.flatMap frameBytes ++ s.partly
  open' : s.isOpen = true → ∀ thread data ret, s.points thread = some (.unlocking data ret) →
    ret = 0
  cut : s.isOpen = false → (∀ thread point, s.points thread = some point → point.stuck = true) ∧
    ∃ data, data.length ≤ maxCommandBytes ∧ s.received <+: (s.sent ++ [data]).flatMap frameBytes ∧
      ((data, -1) ∈ s.returned ∨ ∃ thread, s.points thread = some (.unlocking data (-1)))

theorem initial_sound : (initial : Senders θ).Sound where
  holder := fun thread => by simp [initial]
  fits := nofun
  results := nofun
  whole := fun _ => rfl
  open' := nofun
  cut := nofun

variable {s s' : Senders θ} {thread : θ} {data : List UInt8} {point : FramePoint}

theorem partly_of_holder (holds : s.writeMutex = some thread)
    (here : s.points thread = some point) : s.partly = point.written := by
  simp [partly, holds, here]

theorem partly_of_free (free : s.writeMutex = none) : s.partly = [] := by simp [partly, free]

/-- Who is inside holds the mutex, and the others have not begun. -/
theorem Sound.alone (sound : s.Sound) (here : s.points thread = some point)
    (inside : point.inside = true) : s.writeMutex = some thread ∧
      ∀ other point', other ≠ thread → s.points other = some point' →
        point'.inside = false ∧ point'.stuck = true := by
  have holds := (sound.holder thread).mpr ⟨point, here, inside⟩
  refine ⟨holds, fun other point' apart there => ?_⟩
  have outside : point'.inside = false := by
    by_contra inside'
    have := (sound.holder other).mpr ⟨point', there, by simpa using inside'⟩
    exact apart (Option.some.inj (this.symm.trans holds))
  cases point' with
  | locking _ => exact ⟨rfl, rfl⟩
  | _ => cases outside

/-- A call whose data is too long writes nothing. -/
theorem Sound.tooLong (sound : s.Sound) (large : maxCommandBytes < data.length) :
    ({ s with returned := s.returned ++ [(data, -1)] } : Senders θ).Sound := by
  have sent : ({ s with returned := s.returned ++ [(data, -1)] } : Senders θ).sent = s.sent := by
    simp [Senders.sent]
  refine ⟨sound.holder, sound.fits, ?_, fun opens => ?_, sound.open', fun closed => ?_⟩
  · intro call member
    rcases List.mem_append.mp member with before | new
    · exact sound.results call before
    · rw [List.mem_singleton.mp new]
      exact Or.inr ⟨rfl, Or.inl large⟩
  · rw [sent]
    exact sound.whole opens
  · obtain ⟨stuck, first, fits, front, witness⟩ := sound.cut closed
    refine ⟨stuck, first, fits, by rw [sent]; exact front, witness.imp_left ?_⟩
    exact List.mem_append_left _

variable [DecidableEq θ]

@[simp] theorem setPoint_self (s : Senders θ) (thread : θ) (point : Option FramePoint) :
    (s.setPoint thread point).points thread = point := Function.update_self ..

theorem setPoint_points (s : Senders θ) (thread other : θ) (point : Option FramePoint) :
    (s.setPoint thread point).points other = if other = thread then point else s.points other :=
  Function.update_apply ..

/-- A thread is at the new point, or where it was. -/
theorem setPoint_cases {thread other : θ} {next point : FramePoint}
    (there : (s.setPoint thread (some next)).points other = some point) :
    other = thread ∧ next = point ∨ other ≠ thread ∧ s.points other = some point := by
  rw [setPoint_points] at there
  by_cases same : other = thread
  · rw [if_pos same] at there
    exact Or.inl ⟨same, Option.some.inj there⟩
  · rw [if_neg same] at there
    exact Or.inr ⟨same, there⟩

/-- The thread in the mutex goes on to another point inside it. -/
theorem Sound.goesOn (sound : s.Sound) (here : s.points thread = some point)
    (inside : point.inside = true) {next : FramePoint} (inside' : next.inside = true)
    (same : next.data = point.data) {isOpen : Bool} {received : List UInt8}
    (opens : isOpen = true → s.isOpen = true)
    (whole : isOpen = true → received = s.sent.flatMap frameBytes ++ next.written)
    (ret : isOpen = true → ∀ data ret, next = .unlocking data ret → ret = 0)
    (cut : isOpen = false → next.stuck = true ∧
      ∃ data, data.length ≤ maxCommandBytes ∧
        received <+: (s.sent ++ [data]).flatMap frameBytes ∧
        ((data, -1) ∈ s.returned ∨ next = .unlocking data (-1) ∨
          ∃ other, other ≠ thread ∧ s.points other = some (.unlocking data (-1)))) :
    (Senders.setPoint { s with isOpen := isOpen, received := received } thread
      (some next)).Sound := by
  obtain ⟨holds, others⟩ := sound.alone here inside
  constructor
  case holder =>
    intro other
    rw [setPoint_points]
    apply (sound.holder other).trans
    by_cases same : other = thread
    · subst same
      simp [here, inside, inside']
    · rw [if_neg same]
  case fits =>
    intro other point' there
    rcases setPoint_cases there with ⟨-, rfl⟩ | ⟨-, before⟩
    · rw [same]
      exact sound.fits thread point here
    · exact sound.fits other point' before
  case results =>
    intro call member
    refine (sound.results call member).imp_right fun failed => ⟨failed.1, failed.2.imp_right ?_⟩
    intro closed
    cases isOpen with
    | false => rfl
    | true =>
        rw [opens rfl] at closed
        cases closed
  case whole =>
    intro isOpen
    have partly : (Senders.setPoint { s with received := received } thread (some next)).partly =
        next.written := partly_of_holder holds (setPoint_self _ _ _)
    exact (whole isOpen).trans (congrArg _ partly.symm)
  case open' =>
    intro isOpen other data ret' there
    rcases setPoint_cases there with ⟨-, same⟩ | ⟨-, before⟩
    · exact ret isOpen data ret' same
    · exact sound.open' (opens isOpen) other data ret' before
  case cut =>
    intro closed
    obtain ⟨stuck, data, fits, front, witness⟩ := cut closed
    refine ⟨fun other point' there => ?_, data, fits, front, ?_⟩
    · rcases setPoint_cases there with ⟨-, rfl⟩ | ⟨apart, before⟩
      · exact stuck
      · exact (others other point' apart before).2
    · apply witness.imp_right
      rintro (rfl | ⟨other, apart, there⟩)
      · exact ⟨thread, setPoint_self _ _ _⟩
      · exact ⟨other, by rw [setPoint_points, if_neg apart, there]⟩

theorem take_append_taken (bytes : List UInt8) (writeOffset count : Nat) :
    bytes.take writeOffset ++ (bytes.drop writeOffset).take count =
      bytes.take (writeOffset + ((bytes.drop writeOffset).take count).length) := by
  rw [List.take_add, List.length_take]
  congr 1
  rw [List.take_eq_take_iff]
  omega

/-- A `write` of a thread inside: it is repeated, or fails and closes the connection, or
takes the next bytes of the frame. -/
theorem Sound.writeSome (sound : s.Sound) {bytes : List UInt8} {writeOffset : Nat}
    {goesOn : Nat → FramePoint} (here : s.points thread = some (goesOn writeOffset))
    (inside : ∀ offset, (goesOn offset).inside = true) (same : ∀ offset, (goesOn offset).data = data)
    (written : ∀ count, (goesOn writeOffset).written ++ (bytes.drop writeOffset).take count =
      (goesOn (writeOffset + ((bytes.drop writeOffset).take count).length)).written)
    (noUnlock : ∀ offset data ret, goesOn offset ≠ .unlocking data ret)
    {outcome : WriteOutcome}
    (wrote : s.writeSome thread data bytes writeOffset goesOn outcome = some s') : s'.Sound := by
  have inHere := inside writeOffset
  have holds := (sound.alone here inHere).1
  have fits : data.length ≤ maxCommandBytes := same writeOffset ▸ sound.fits thread _ here
  cases outcome with
  | interrupted =>
      obtain rfl := Option.some.inj wrote
      exact sound
  | failed =>
      obtain rfl := Option.some.inj wrote
      have same' : (FramePoint.unlocking data (-1)).data = (goesOn writeOffset).data :=
        (same writeOffset).symm
      refine sound.goesOn here inHere rfl same' nofun nofun nofun fun _ => ⟨rfl, ?_⟩
      cases opens : s.isOpen with
      | true =>
          refine ⟨data, fits, ?_, Or.inr (Or.inl rfl)⟩
          rw [sound.whole opens, partly_of_holder holds here, List.flatMap_append,
            List.flatMap_singleton]
          have front := (goesOn writeOffset).written_front
          rw [same] at front
          exact (List.prefix_append_right_inj _).mpr front
      | false =>
          obtain ⟨-, first, fits', front', witness⟩ := sound.cut opens
          refine ⟨first, fits', front', witness.imp_right ?_⟩
          rintro ⟨other, there⟩
          refine Or.inr ⟨other, ?_, there⟩
          rintro rfl
          rw [here, Option.some.injEq] at there
          exact noUnlock _ _ _ there
  | wrote count =>
      obtain ⟨opens, shape⟩ := Option.ite_none_right_eq_some.mp wrote
      obtain rfl := Option.some.inj shape
      refine sound.goesOn here inHere (inside _) ((same _).trans (same _).symm) (fun _ => opens)
        (fun _ => ?_) (fun _ _ _ finished => absurd finished (noUnlock _ _ _)) fun closed => ?_
      · rw [sound.whole opens, partly_of_holder holds here, List.append_assoc, written]
      · rw [opens] at closed
        cases closed

theorem Sound.starts (sound : s.Sound) (idle : s.points thread = none)
    (fits : data.length ≤ maxCommandBytes) : (s.setPoint thread (some (.locking data))).Sound := by
  have notHolder : s.writeMutex ≠ some thread := by
    intro holds
    obtain ⟨point, here, -⟩ := (sound.holder thread).mp holds
    rw [idle] at here
    cases here
  have partly : (s.setPoint thread (some (.locking data))).partly = s.partly := by
    cases holder : s.writeMutex with
    | none => simp [Senders.partly, Senders.setPoint, holder]
    | some other =>
        have apart : other ≠ thread := by
          rintro rfl
          exact notHolder holder
        simp [Senders.partly, Senders.setPoint, holder, apart]
  constructor
  case holder =>
    intro other
    rw [setPoint_points]
    apply (sound.holder other).trans
    by_cases same : other = thread
    · subst same
      simp [idle, FramePoint.inside]
    · rw [if_neg same]
  case fits =>
    intro other point there
    rcases setPoint_cases there with ⟨-, rfl⟩ | ⟨-, before⟩
    · exact fits
    · exact sound.fits other point before
  case results => exact sound.results
  case whole => exact fun opens => (sound.whole opens).trans (congrArg _ partly.symm)
  case open' =>
    intro opens other data ret there
    rcases setPoint_cases there with ⟨-, same⟩ | ⟨-, before⟩
    · cases same
    · exact sound.open' opens other data ret before
  case cut =>
    intro closed
    obtain ⟨stuck, first, fits, front, witness⟩ := sound.cut closed
    refine ⟨fun other point there => ?_, first, fits, front, witness.imp_right ?_⟩
    · rcases setPoint_cases there with ⟨-, rfl⟩ | ⟨-, before⟩
      · rfl
      · exact stuck other point before
    · rintro ⟨other, there⟩
      refine ⟨other, ?_⟩
      have apart : other ≠ thread := by
        rintro rfl
        rw [idle] at there
        cases there
      rw [setPoint_points, if_neg apart, there]

theorem Sound.locks (sound : s.Sound) (here : s.points thread = some (.locking data))
    (free : s.writeMutex = none) :
    (Senders.setPoint { s with writeMutex := some thread } thread (some (.header data 0))).Sound := by
  constructor
  case holder =>
    intro other
    rw [setPoint_points]
    by_cases same : other = thread
    · subst same
      simp [Senders.setPoint, FramePoint.inside]
    · rw [if_neg same, ← sound.holder other, free]
      simp [Senders.setPoint, Ne.symm same]
  case fits =>
    intro other point there
    rcases setPoint_cases there with ⟨-, rfl⟩ | ⟨-, before⟩
    · have fits := sound.fits thread _ here
      exact fits
    · exact sound.fits other point before
  case results => exact sound.results
  case whole =>
    intro opens
    have partly : (Senders.setPoint { s with writeMutex := some thread } thread
        (some (.header data 0))).partly = s.partly := by
      rw [partly_of_free free]
      exact partly_of_holder rfl (setPoint_self _ _ _)
    exact (sound.whole opens).trans (congrArg _ partly.symm)
  case open' =>
    intro opens other data' ret there
    rcases setPoint_cases there with ⟨-, same⟩ | ⟨-, before⟩
    · cases same
    · exact sound.open' opens other data' ret before
  case cut =>
    intro closed
    obtain ⟨stuck, first, fits, front, witness⟩ := sound.cut closed
    refine ⟨fun other point there => ?_, first, fits, front, witness.imp_right ?_⟩
    · rcases setPoint_cases there with ⟨-, rfl⟩ | ⟨-, before⟩
      · rfl
      · exact stuck other point before
    · rintro ⟨other, there⟩
      refine ⟨other, ?_⟩
      have apart : other ≠ thread := by
        rintro rfl
        rw [here] at there
        cases there
      rw [setPoint_points, if_neg apart, there]

/-- The loop of `blockingWrite` ends behind the last byte. -/
theorem Sound.written (sound : s.Sound) {next : FramePoint} (here : s.points thread = some point)
    (inside : point.inside = true) (inside' : next.inside = true) (same : next.data = point.data)
    (written : next.written = point.written) (moving : point.stuck = false)
    (ret : ∀ data ret, next = .unlocking data ret → ret = 0) :
    (s.setPoint thread (some next)).Sound := by
  refine sound.goesOn here inside inside' same id (fun opens => ?_) (fun _ => ret) fun closed => ?_
  · rw [written, ← partly_of_holder (sound.alone here inside).1 here]
    exact sound.whole opens
  · have stuck := (sound.cut closed).1 thread point here
    rw [moving] at stuck
    cases stuck

theorem Sound.unlocks (sound : s.Sound) {ret : Int}
    (here : s.points thread = some (.unlocking data ret)) :
    (Senders.setPoint { s with writeMutex := none, returned := s.returned ++ [(data, ret)] } thread
      none).Sound := by
  obtain ⟨holds, others⟩ := sound.alone here rfl
  have fits : data.length ≤ maxCommandBytes := sound.fits thread _ here
  have kept {other : θ} {point : FramePoint} (there : (Senders.setPoint { s with
      writeMutex := none
      returned := s.returned ++ [(data, ret)] } thread none).points other = some point) :
      other ≠ thread ∧ s.points other = some point := by
    rw [setPoint_points] at there
    by_cases same : other = thread
    · rw [if_pos same] at there
      cases there
    · exact ⟨same, by rwa [if_neg same] at there⟩
  -- a connection that is closed has failed this call too
  have result : s.isOpen = true ∧ ret = 0 ∨ s.isOpen = false ∧ ret = -1 := by
    cases opens : s.isOpen with
    | true => exact Or.inl ⟨rfl, sound.open' opens thread data ret here⟩
    | false =>
        have stuck := (sound.cut opens).1 thread _ here
        exact Or.inr ⟨rfl, of_decide_eq_true stuck⟩
  constructor
  case holder =>
    intro other
    apply iff_of_false nofun
    rintro ⟨point, there, inside⟩
    obtain ⟨apart, before⟩ := kept there
    rw [(others other point apart before).1] at inside
    cases inside
  case fits => exact fun other point there => sound.fits other point (kept there).2
  case results =>
    intro call member
    rcases List.mem_append.mp member with before | new
    · exact sound.results call before
    · rw [List.mem_singleton.mp new]
      rcases result with ⟨-, success⟩ | ⟨closed, failed⟩
      · exact Or.inl ⟨success, fits⟩
      · exact Or.inr ⟨failed, Or.inr closed⟩
  case whole =>
    intro opens
    obtain ⟨-, rfl⟩ := result.resolve_right fun closed => by
      rw [closed.1] at opens
      cases opens
    have received := sound.whole opens
    rw [partly_of_holder holds here] at received
    apply received.trans
    simp [Senders.sent, Senders.setPoint, Senders.partly, FramePoint.written]
  case open' =>
    intro opens other data' ret' there
    exact sound.open' opens other data' ret' (kept there).2
  case cut =>
    intro closed
    obtain ⟨-, rfl⟩ := result.resolve_left fun opens => by
      rw [opens.1] at closed
      cases closed
    obtain ⟨stuck, first, fits', front, witness⟩ := sound.cut closed
    refine ⟨fun other point there => stuck other point (kept there).2, first, fits', ?_, ?_⟩
    · simpa [Senders.sent, Senders.setPoint] using front
    · rcases witness with before | ⟨other, there⟩
      · exact Or.inl (List.mem_append_left _ before)
      · by_cases same : other = thread
        · rw [same, here, Option.some.injEq] at there
          obtain ⟨rfl, -⟩ := FramePoint.unlocking.inj there
          exact Or.inl (by simp [Senders.setPoint])
        · exact Or.inr ⟨other, by rw [setPoint_points, if_neg same, there]⟩

theorem Sound.step (sound : s.Sound) {event : SendEvent θ} (stepped : s.step event = some s') :
    s'.Sound := by
  cases stepped_of_step stepped with
  | tooLong thread data idle large => exact sound.tooLong large
  | starts thread data idle fits => exact sound.starts idle fits
  | locks thread data here free => exact sound.locks here free
  | writesHeader thread outcome data writeOffset s' here wrote =>
      exact sound.writeSome here (fun _ => rfl) (fun _ => rfl)
        (fun count => take_append_taken _ _ _) nofun wrote
  | writesBody thread outcome data writeOffset s' here wrote =>
      refine sound.writeSome here (fun _ => rfl) (fun _ => rfl) (fun count => ?_) nofun wrote
      simp only [FramePoint.written]
      rw [List.append_assoc, take_append_taken]
  | headerWritten thread data writeOffset here whole =>
      refine sound.written here rfl rfl rfl ?_ ?_ nofun
      · simp only [FramePoint.written, List.take_zero, List.append_nil]
        exact (List.take_of_length_le whole).symm
      · rw [htonl_length] at whole
        simp only [FramePoint.stuck, decide_eq_false_iff_not]
        omega
  | bodyWritten thread data writeOffset here whole =>
      refine sound.written here rfl rfl rfl ?_ rfl ?_
      · simp only [FramePoint.written, frameBytes, List.take_of_length_le whole]
      · rintro data' ret same
        exact (FramePoint.unlocking.inj same).2.symm
  | unlocks thread data ret here => exact sound.unlocks here

/-- Only a write that fails closes the connection. -/
theorem writeSome_isOpen {bytes : List UInt8} {writeOffset : Nat} {goesOn : Nat → FramePoint}
    {outcome : WriteOutcome}
    (wrote : s.writeSome thread data bytes writeOffset goesOn outcome = some s') :
    s'.isOpen = true ↔ s.isOpen = true ∧
      ∀ other, SendEvent.write thread outcome ≠ .write other .failed := by
  cases outcome with
  | interrupted =>
      obtain rfl := Option.some.inj wrote
      simp
  | failed =>
      obtain rfl := Option.some.inj wrote
      exact iff_of_false nofun fun both => both.2 thread rfl
  | wrote count =>
      obtain ⟨opens, shape⟩ := Option.ite_none_right_eq_some.mp wrote
      obtain rfl := Option.some.inj shape
      simp [setPoint]

theorem step_isOpen {event : SendEvent θ} (stepped : s.step event = some s') :
    s'.isOpen = true ↔ s.isOpen = true ∧ ∀ thread, event ≠ .write thread .failed := by
  cases stepped_of_step stepped with
  | writesHeader thread outcome data writeOffset s' here wrote => exact writeSome_isOpen wrote
  | writesBody thread outcome data writeOffset s' here wrote => exact writeSome_isOpen wrote
  | tooLong thread data idle large => exact (and_iff_left nofun).symm
  | starts thread data idle fits => exact (and_iff_left nofun).symm
  | locks thread data here free => exact (and_iff_left nofun).symm
  | headerWritten thread data writeOffset here whole => exact (and_iff_left nofun).symm
  | bodyWritten thread data writeOffset here whole => exact (and_iff_left nofun).symm
  | unlocks thread data ret here => exact (and_iff_left nofun).symm

theorem isOpen_of_run {s₀ : Senders θ} {events : List (SendEvent θ)}
    (ran : run Senders.step s₀ events = some s) :
    s.isOpen = true ↔ s₀.isOpen = true ∧ ∀ thread, .write thread .failed ∉ events := by
  induction events generalizing s₀ with
  | nil =>
      obtain rfl : s₀ = s := by simpa using ran
      simp
  | cons event events inductionHypothesis =>
      obtain ⟨next, stepped, rest⟩ := Option.bind_eq_some_iff.mp ran
      rw [inductionHypothesis rest, step_isOpen stepped, and_assoc, ← forall_and]
      refine and_congr_right fun _ => forall_congr' fun thread => ?_
      rw [List.mem_cons, not_or, ne_comm]

/-- **Framing over every run.** Without a failing write the client has the frames of the
successful calls, in the order in which they returned, and at most the front part of one
more, whose thread is in the mutex; every call was successful unless its data was too
long. With one it has a front part of such frames. -/
theorem frames_of_run {events : List (SendEvent θ)}
    (ran : run Senders.step (initial : Senders θ) events = some s) :
    (∀ data ∈ s.sent, data.length ≤ maxCommandBytes ∧ (htonl data.length).length = 4 ∧
        ntohl (htonl data.length) = data.length) ∧
      ((∀ thread, .write thread .failed ∉ events) →
        (∀ call ∈ s.returned, call.2 = 0 ∨ call.2 = -1 ∧ maxCommandBytes < call.1.length) ∧
        ∃ partly, s.received = s.sent.flatMap frameBytes ++ partly ∧
          (partly = [] ∨ ∃ thread point, s.writeMutex = some thread ∧
            s.points thread = some point ∧ partly <+: frameBytes point.data)) ∧
      ((∃ thread, .write thread .failed ∈ events) →
        ∃ data, data.length ≤ maxCommandBytes ∧
          s.received <+: (s.sent ++ [data]).flatMap frameBytes) := by
  have preserved : ∀ (s : Senders θ) event s', s.Sound → s.step event = some s' → s'.Sound :=
    fun _ _ _ sound stepped => sound.step stepped
  have sound := run_invariant preserved initial_sound ran
  have opens := isOpen_of_run ran
  refine ⟨fun data member => ?_, fun clean => ?_, fun ⟨thread, failed⟩ => ?_⟩
  · obtain ⟨call, success, rfl⟩ := List.mem_map.mp member
    obtain ⟨returned, zero⟩ := List.mem_filter.mp success
    have zero := of_decide_eq_true zero
    have fits : call.1.length ≤ maxCommandBytes := by
      rcases sound.results call returned with ⟨-, fits⟩ | ⟨failed, -⟩
      · exact fits
      · rw [zero] at failed
        cases failed
    exact ⟨fits, htonl_length _, ntohl_htonl (lt_of_le_of_lt fits (by decide))⟩
  · have isOpen := opens.mpr ⟨rfl, clean⟩
    refine ⟨fun call member => ?_, s.partly, sound.whole isOpen, ?_⟩
    · refine (sound.results call member).imp And.left fun failed => ⟨failed.1, ?_⟩
      exact failed.2.resolve_right (by simp [isOpen])
    · cases holder : s.writeMutex with
      | none => exact Or.inl (partly_of_free holder)
      | some thread =>
          obtain ⟨point, here, -⟩ := (sound.holder thread).mp holder
          refine Or.inr ⟨thread, point, rfl, here, ?_⟩
          rw [partly_of_holder holder here]
          exact point.written_front
  · have closed : s.isOpen = false := by
      by_contra isOpen
      exact (opens.mp (by simpa using isOpen)).2 thread failed
    obtain ⟨-, data, fits, front, -⟩ := sound.cut closed
    exact ⟨data, fits, front⟩

/-- Two threads at once, with short and interrupted writes, and a third that waits. -/
def sampleSends : List (SendEvent Nat) :=
  [.sendResponseRaw 1 [7, 8, 9], .sendResponseRaw 2 [5], .lock 1, .write 1 (.wrote 3),
    .write 1 .interrupted, .write 1 (.wrote 9), .written 1, .sendResponseRaw 3 [],
    .write 1 (.wrote 0), .write 1 (.wrote 2), .write 1 (.wrote 1), .written 1, .unlock 1, .lock 2,
    .write 2 (.wrote 4), .written 2, .write 2 (.wrote 1), .written 2, .unlock 2, .lock 3,
    .write 3 (.wrote 1)]

theorem frames_sampleSends : ∃ s : Senders Nat, run Senders.step initial sampleSends = some s ∧
    (∀ data ∈ s.sent, data.length ≤ maxCommandBytes ∧ (htonl data.length).length = 4 ∧
        ntohl (htonl data.length) = data.length) ∧
      ((∀ thread, .write thread .failed ∉ sampleSends) →
        (∀ call ∈ s.returned, call.2 = 0 ∨ call.2 = -1 ∧ maxCommandBytes < call.1.length) ∧
        ∃ partly, s.received = s.sent.flatMap frameBytes ++ partly ∧
          (partly = [] ∨ ∃ thread point, s.writeMutex = some thread ∧
            s.points thread = some point ∧ partly <+: frameBytes point.data)) ∧
      ((∃ thread, .write thread .failed ∈ sampleSends) →
        ∃ data, data.length ≤ maxCommandBytes ∧
          s.received <+: (s.sent ++ [data]).flatMap frameBytes) := by
  have ends : (run Senders.step (initial : Senders Nat) sampleSends).isSome = true := by
    decide +kernel
  obtain ⟨s, ran⟩ := Option.isSome_iff_exists.mp ends
  exact ⟨s, ran, frames_of_run ran⟩

end Senders

end RildHisi.Libril
