import RildHisi.Libril.Operations

/-!
Owns `s_lastNITZTimeData`, the one NITZ frame libril keeps for the next client:
`RIL_onUnsolicitedResponse` fills it when a send reports a failure, and
`onNewCommandConnect` sends and empties it, whatever that send reports.

What reaches a client is in order and is the newest frame there is
(`Nitz.Sound`), but a frame is lost for good exactly where the client that
connects does not take it (`nitz_of_run`).
-/

namespace RildHisi.Libril

open RildHisi.Library

/-! ### NITZ messages -/

/-- `writeInt64`. -/
def int64Bytes (value : BitVec 64) : List UInt8 :=
  wordBytes (value.extractLsb' 0 32) ++ wordBytes (value.extractLsb' 32 32)

/-- A `RIL_UNSOL_NITZ_TIME_RECEIVED`: what `responseString` writes, and `timeReceived`. -/
structure NitzMessage where
  time : List UInt8
  timeReceived : BitVec 64
  deriving DecidableEq

namespace NitzMessage

def payload (message : NitzMessage) : List UInt8 := message.time ++ int64Bytes message.timeReceived

/-- The frame. -/
def data (message : NitzMessage) : List UInt8 :=
  wordBytes responseUnsolicited ++ wordBytes (BitVec.ofNat 32 rilUnsolNitzTimeReceived) ++
    message.payload

end NitzMessage

/-- The frame `onNewCommandConnect` sends first. -/
def radioStateData (radioState : Word) : List UInt8 :=
  wordBytes responseUnsolicited ++ wordBytes (BitVec.ofNat 32 rilUnsolResponseBase) ++
    wordBytes radioState

/-- The frame is a NITZ message. -/
def Frame.isNitz (frame : Frame) : Bool :=
  (wordBytes responseUnsolicited ++
    wordBytes (BitVec.ofNat 32 rilUnsolNitzTimeReceived)).isPrefixOf frame.data

theorem NitzMessage.isNitz_data (message : NitzMessage) (connection : Nat) (taken : List UInt8) :
    (Frame.mk connection message.data taken).isNitz = true := by
  rw [Frame.isNitz, List.isPrefixOf_iff_prefix]
  exact List.prefix_append _ _

theorem not_isNitz_radioStateData (radioState : Word) (connection : Nat) (taken : List UInt8) :
    (Frame.mk connection (radioStateData radioState) taken).isNitz = false := by
  rfl

inductive NitzEvent
  /-- `RIL_onUnsolicitedResponse`. -/
  | nitz (message : NitzMessage) (script : List WriteOutcome)
  /-- `listenCallback` with `onNewCommandConnect`. -/
  | clientConnect (fd : Int) (radioState : Word) (script nitzScript : List WriteOutcome)
  | clientDisconnect

/-- libril, and what happened to the NITZ messages by their number. -/
structure Nitz where
  libril : State
  /-- The messages in the order in which they came. -/
  arrived : List NitzMessage
  /-- Those whose send reported a failure. -/
  failed : List Nat
  /-- The one in `s_lastNITZTimeData`. -/
  cached : Option Nat
  /-- The frames put on a connection, and whether all of it was taken. -/
  attempts : List (Nat × Bool)

namespace Nitz

def initial : Nitz := ⟨.initial, [], [], none, []⟩

/-- The message with this number. -/
def dataOf (s : Nitz) (number : Nat) : List UInt8 := (s.arrived[number]?).elim [] NitzMessage.data

def step (s : Nitz) : NitzEvent → Option Nitz
  | .nitz message script =>
      let number := s.arrived.length
      let (ret, _) := s.libril.sendResponseRaw message.data script
      some {
        libril := s.libril.rilOnUnsolicitedResponse rilUnsolNitzTimeReceived
          (some message.payload) script
        arrived := s.arrived ++ [message]
        failed := if ret = 0 then s.failed else s.failed ++ [number]
        cached := if ret = 0 then s.cached else some number
        attempts := s.attempts ++
          (s.libril.attempt message.data script).toList.map fun whole => (number, whole) }
  | .clientConnect fd radioState script nitzScript =>
      if s.libril.fdCommand < 0 ∧ 0 ≤ fd ∧ s.libril.sockets fd = none then
        let accepted := s.libril.acceptClient fd
        let greeted := accepted.rilOnUnsolicitedResponse rilUnsolResponseBase
          (some (wordBytes radioState)) script
        some { s with
          libril := accepted.onNewCommandConnect radioState script nitzScript
          cached := none
          attempts := s.attempts ++ s.cached.elim [] fun number =>
            (greeted.attempt (s.dataOf number) nitzScript).toList.map fun whole => (number, whole) }
      else none
  | .clientDisconnect =>
      if 0 ≤ s.libril.fdCommand then
        some { s with libril := s.libril.closeCommand.onCommandsSocketClosed }
      else none

/-- All of the message was taken by a client. -/
def Sent (s : Nitz) (number : Nat) : Prop := (number, true) ∈ s.attempts

/-- This message or a newer one was sent. -/
def SentFrom (s : Nitz) (number : Nat) : Prop := ∃ later, number ≤ later ∧ s.Sent later

/-- A message whose send failed stays cached until it or a newer one is sent. -/
def Kept (s : Nitz) : Prop := ∀ number ∈ s.failed, s.cached = some number ∨ s.SentFrom number

/-- The same, where a newer one may take its place. -/
def NewestKept (s : Nitz) : Prop :=
  ∀ number ∈ s.failed, (∃ newer ∈ s.cached, number ≤ newer) ∨ s.SentFrom number

/-- Behind a message that was sent no older one is put on a connection, nor itself. -/
def Ordered (s : Nitz) : Prop :=
  s.attempts.Pairwise fun first second => first.2 = true → first.1 < second.1

/-- A client that connects gets at most one message, the newest that was not sent. -/
def GreetsNewest (s : Nitz) : Prop :=
  ∀ fd radioState script nitzScript s',
    s.step (.clientConnect fd radioState script nitzScript) = some s' →
    ∃ late, s'.attempts = s.attempts ++ late ∧ late.length ≤ 1 ∧ ∀ attempt ∈ late,
      s.cached = some attempt.1 ∧ ¬ s.Sent attempt.1 ∧
      ∀ number < s.arrived.length, ¬ s.Sent number → number ≤ attempt.1

/-- The cached message is newer than all that were sent. -/
def Overdue (s : Nitz) : Prop :=
  ∃ number ∈ s.cached, ¬ s.SentFrom number

/-- The client that connects takes the radio state and a message that is overdue. -/
def TakesLate (s : Nitz) : NitzEvent → Prop
  | .clientConnect _ radioState script nitzScript => s.Overdue →
      takesFrame script (radioStateData radioState) = true ∧
        ∀ data ∈ s.libril.lastNitzTimeData,
          data.length ≤ maxCommandBytes ∧ takesFrame nitzScript data = true
  | _ => True

/-- And no message fails while an older one is overdue. -/
def TakesEach (s : Nitz) : NitzEvent → Prop
  | .nitz message script => s.Overdue →
      s.libril.client.isSome = true ∧ message.data.length ≤ maxCommandBytes ∧
        takesFrame script message.data = true
  | event => s.TakesLate event

/-! ### Steps -/

section Steps

variable {s : State}

/-- What `RIL_onUnsolicitedResponse` does with a NITZ message. -/
theorem rilOnUnsolicitedResponse_nitz (message : NitzMessage) (script : List WriteOutcome) :
    s.rilOnUnsolicitedResponse rilUnsolNitzTimeReceived (some message.payload) script =
      if (s.sendResponseRaw message.data script).1 = 0 then
        (s.sendResponseRaw message.data script).2
      else
        { (s.sendResponseRaw message.data script).2 with lastNitzTimeData := some message.data } := by
  have known : ¬ (rilUnsolNitzTimeReceived < rilUnsolResponseBase ∨
      rilUnsolResponseBase + numUnsolResponses ≤ rilUnsolNitzTimeReceived) := by decide
  have frame : wordBytes responseUnsolicited ++
      wordBytes (BitVec.ofNat 32 rilUnsolNitzTimeReceived) ++ message.payload = message.data := rfl
  unfold State.rilOnUnsolicitedResponse
  simp only [if_neg known, frame]
  generalize s.sendResponseRaw message.data script = result
  obtain ⟨ret, after⟩ := result
  by_cases sent : ret = 0 <;> simp [sent]

/-- What a connecting client is sent first. -/
theorem greeted_spec {fd : Int} (valid : 0 ≤ fd) (radioState : Word) (script : List WriteOutcome) :
    ∃ greeted taken, (s.acceptClient fd).rilOnUnsolicitedResponse rilUnsolResponseBase
        (some (wordBytes radioState)) script = greeted ∧
      greeted.frames = s.frames ++ [⟨s.connections, radioStateData radioState, taken⟩] ∧
      greeted.lastNitzTimeData = s.lastNitzTimeData ∧
      greeted.client = if takesFrame script (radioStateData radioState) then some s.connections
        else none := by
  have live : ¬ fd < 0 := by omega
  have open' : (s.acceptClient fd).client = some s.connections := by
    simp [State.client, State.acceptClient, live]
  have short : (radioStateData radioState).length ≤ maxCommandBytes := by
    simp [radioStateData, wordBytes, maxCommandBytes]
  obtain ⟨taken, sent, -⟩ := State.sendResponseRaw_tried open' short script
  refine ⟨_, taken, rfl, ?_⟩
  have shape : (s.acceptClient fd).rilOnUnsolicitedResponse rilUnsolResponseBase
      (some (wordBytes radioState)) script =
        ((s.acceptClient fd).sendResponseRaw (radioStateData radioState) script).2 := by
    unfold State.rilOnUnsolicitedResponse
    rw [if_neg (by decide)]
    have other : rilUnsolResponseBase ≠ rilUnsolNitzTimeReceived := by decide
    simp only [other, and_false, if_false, radioStateData]
  rw [shape, sent]
  cases takesFrame script (radioStateData radioState) with
  | true => exact ⟨rfl, rfl, open'⟩
  | false => exact ⟨rfl, rfl, (s.acceptClient fd).client_closeSocket⟩

theorem onNewCommandConnect_eq (radioState : Word) (script nitzScript : List WriteOutcome) :
    s.onNewCommandConnect radioState script nitzScript =
      let greeted := s.rilOnUnsolicitedResponse rilUnsolResponseBase (some (wordBytes radioState))
        script
      greeted.lastNitzTimeData.elim greeted fun data =>
        { (greeted.sendResponseRaw data nitzScript).2 with lastNitzTimeData := none } := by
  unfold State.onNewCommandConnect
  dsimp only
  cases (s.rilOnUnsolicitedResponse rilUnsolResponseBase (some (wordBytes radioState))
    script).lastNitzTimeData <;> rfl

end Steps

/-- A NITZ message either fails, and is cached, or is sent. -/
theorem step_nitz {s s' : Nitz} {message : NitzMessage} {script : List WriteOutcome}
    (stepped : s.step (.nitz message script) = some s') :
    ∃ tried : List Bool, tried.length ≤ 1 ∧
      s'.arrived = s.arrived ++ [message] ∧
      s'.attempts = s.attempts ++ tried.map (s.arrived.length, ·) ∧
      (tried ≠ [] → message.data.length ≤ maxCommandBytes ∧ s.libril.client.isSome = true) ∧
      (s'.libril.frames.filter Frame.isNitz).map Frame.data =
        (s.libril.frames.filter Frame.isNitz).map Frame.data ++ tried.map (fun _ => message.data) ∧
      (tried = [true] ∧ s'.failed = s.failed ∧ s'.cached = s.cached ∧
          s'.libril.lastNitzTimeData = s.libril.lastNitzTimeData ∧
          takesFrame script message.data = true ∨
        true ∉ tried ∧ s'.failed = s.failed ++ [s.arrived.length] ∧
          s'.cached = some s.arrived.length ∧
          s'.libril.lastNitzTimeData = some message.data ∧
          (message.data.length ≤ maxCommandBytes → s'.libril.client = none) ∧
          ¬ (s.libril.client.isSome = true ∧ message.data.length ≤ maxCommandBytes ∧
            takesFrame script message.data = true)) := by
  simp only [step, Option.some.injEq] at stepped
  subst stepped
  simp only [rilOnUnsolicitedResponse_nitz]
  by_cases fits : message.data.length ≤ maxCommandBytes
  case neg =>
    have refused := Or.inr (a := s.libril.client = none) (not_le.mp fits)
    rw [State.attempt_refused refused, State.sendResponseRaw_refused refused]
    exact ⟨[], by simp, by simp, by simp, by simp, by simp,
      Or.inr ⟨by simp, by simp, by simp, by simp, fun short => absurd short fits,
        fun taken => fits taken.2.1⟩⟩
  cases open' : s.libril.client with
  | none =>
      have refused := Or.inl (b := maxCommandBytes < message.data.length) open'
      rw [State.attempt_refused refused, State.sendResponseRaw_refused refused]
      exact ⟨[], by simp, by simp, by simp, by simp, by simp,
        Or.inr ⟨by simp, by simp, by simp, by simp, fun _ => open', fun taken => by simp at taken⟩⟩
  | some connection =>
      obtain ⟨taken, sent, -⟩ := State.sendResponseRaw_tried open' fits script
      have kind : (Frame.mk connection message.data taken).isNitz = true := message.isNitz_data _ _
      rw [State.attempt_tried open' fits, sent]
      refine ⟨[takesFrame script message.data], by simp, by simp, by simp, by simp [fits], ?_, ?_⟩
      · cases takesFrame script message.data <;> simp [kind]
      · cases whole : takesFrame script message.data with
        | true => exact Or.inl (by simp)
        | false =>
            refine Or.inr ⟨by simp, by simp, by simp, by simp, fun _ => ?_, by simp⟩
            exact s.libril.client_closeSocket

/-! ### What the cache keeps -/

/-- The cache holds the newest message that was not sent, and its frame is what stands in
`s_lastNITZTimeData`; while it could be sent there is no client to take it. -/
structure Sound (s : Nitz) : Prop where
  link : s.libril.lastNitzTimeData = s.cached.map s.dataOf
  failedBelow : ∀ number ∈ s.failed, number < s.arrived.length
  attemptsBelow : ∀ attempt ∈ s.attempts, attempt.1 < s.arrived.length
  cachedFailed : ∀ number ∈ s.cached, number ∈ s.failed
  newest : ∀ number ∈ s.cached, ∀ other ∈ s.failed, other ≤ number
  unsent : ∀ number ∈ s.cached, ¬ s.Sent number
  settled : ∀ number < s.arrived.length, number ∈ s.failed ∨ s.Sent number
  alone : ∀ number ∈ s.cached, (s.dataOf number).length ≤ maxCommandBytes →
    s.libril.client = none ∧ ¬ s.SentFrom number
  ordered : s.Ordered
  wire : (s.libril.frames.filter Frame.isNitz).map Frame.data =
    s.attempts.map fun attempt => s.dataOf attempt.1

theorem initial_sound : initial.Sound where
  link := rfl
  failedBelow := nofun
  attemptsBelow := nofun
  cachedFailed := nofun
  newest := nofun
  unsent := nofun
  settled := nofun
  alone := nofun
  ordered := List.Pairwise.nil
  wire := rfl

variable {s s' : Nitz}

theorem dataOf_old {message : NitzMessage} (grows : s'.arrived = s.arrived ++ [message])
    {number : Nat} (old : number < s.arrived.length) : s'.dataOf number = s.dataOf number := by
  unfold dataOf
  rw [grows, List.getElem?_append_left old]

theorem dataOf_new {message : NitzMessage} (grows : s'.arrived = s.arrived ++ [message]) :
    s'.dataOf s.arrived.length = message.data := by
  unfold dataOf
  rw [grows, List.getElem?_append_right le_rfl, Nat.sub_self]
  rfl

theorem Sound.sent_below (sound : s.Sound) {number : Nat} (sent : s.Sent number) :
    number < s.arrived.length := sound.attemptsBelow _ sent

theorem Sound.nitz (sound : s.Sound) {message : NitzMessage} {script : List WriteOutcome}
    (stepped : s.step (.nitz message script) = some s') : s'.Sound := by
  obtain ⟨tried, one, grows, attempts, able, wire, outcome⟩ := step_nitz stepped
  have length : s'.arrived.length = s.arrived.length + 1 := by rw [grows]; simp
  have tries {attempt : Nat × Bool} (member : attempt ∈ s'.attempts) :
      attempt ∈ s.attempts ∨ attempt.1 = s.arrived.length ∧ attempt.2 ∈ tried := by
    rw [attempts, List.mem_append, List.mem_map] at member
    apply member.imp id
    rintro ⟨whole, inside, rfl⟩
    exact ⟨rfl, inside⟩
  have sentOld {number : Nat} (sent : s.Sent number) : s'.Sent number := by
    unfold Sent
    rw [attempts]
    exact List.mem_append_left _ sent
  constructor
  case link =>
    rcases outcome with ⟨-, -, cached, data, -⟩ | ⟨-, -, cached, data, -, -⟩
    · rw [data, cached, sound.link]
      cases known : s.cached with
      | none => rfl
      | some number =>
          have old := sound.failedBelow number (sound.cachedFailed number known)
          rw [Option.map_some, Option.map_some, dataOf_old grows old]
    · rw [data, cached, Option.map_some, dataOf_new grows]
  case failedBelow =>
    intro number member
    rcases outcome with ⟨-, failed, -⟩ | ⟨-, failed, -⟩
    · rw [failed] at member
      have := sound.failedBelow number member
      omega
    · rw [failed, List.mem_append, List.mem_singleton] at member
      rcases member with old | rfl
      · have := sound.failedBelow number old
        omega
      · omega
  case attemptsBelow =>
    intro attempt member
    rcases tries member with old | ⟨same, -⟩
    · have := sound.attemptsBelow attempt old
      omega
    · omega
  case cachedFailed =>
    intro number member
    rcases outcome with ⟨-, failed, cached, -⟩ | ⟨-, failed, cached, -⟩
    · rw [failed]
      exact sound.cachedFailed number (cached ▸ member)
    · rw [cached, Option.mem_some_iff] at member
      rw [failed, ← member]
      simp
  case newest =>
    intro number member other inFailed
    rcases outcome with ⟨-, failed, cached, -⟩ | ⟨-, failed, cached, -⟩
    · exact sound.newest number (cached ▸ member) other (failed ▸ inFailed)
    · rw [cached, Option.mem_some_iff] at member
      subst member
      rw [failed, List.mem_append, List.mem_singleton] at inFailed
      rcases inFailed with old | rfl
      · exact (sound.failedBelow other old).le
      · exact le_rfl
  case unsent =>
    intro number member sent
    rcases outcome with ⟨-, -, cached, -⟩ | ⟨partly, -, cached, -⟩
    · rw [cached] at member
      have old := sound.failedBelow number (sound.cachedFailed number member)
      rcases tries sent with before | ⟨same, -⟩
      · exact sound.unsent number member before
      · exact absurd same old.ne
    · rw [cached, Option.mem_some_iff] at member
      subst member
      rcases tries sent with before | ⟨-, whole⟩
      · exact (sound.sent_below before).ne rfl
      · exact partly whole
  case settled =>
    intro number below
    rcases Nat.lt_succ_iff_lt_or_eq.mp (length ▸ below) with old | rfl
    · refine (sound.settled number old).imp (fun inFailed => ?_) sentOld
      rcases outcome with ⟨-, failed, -⟩ | ⟨-, failed, -⟩
      · exact failed ▸ inFailed
      · exact failed ▸ List.mem_append_left _ inFailed
    · rcases outcome with ⟨whole, -⟩ | ⟨-, failed, -⟩
      · apply Or.inr
        unfold Sent
        rw [attempts, whole]
        simp
      · exact Or.inl (by rw [failed]; simp)
  case alone =>
    intro number member fits
    rcases outcome with ⟨whole, -, cached, -⟩ | ⟨partly, -, cached, -, closes, -⟩
    · rw [cached] at member
      have old := sound.failedBelow number (sound.cachedFailed number member)
      rw [dataOf_old grows old] at fits
      have noClient := (sound.alone number member fits).1
      have client := (able (by simp [whole])).2
      rw [noClient] at client
      cases client
    · rw [cached, Option.mem_some_iff] at member
      subst member
      rw [dataOf_new grows] at fits
      refine ⟨closes fits, ?_⟩
      rintro ⟨later, from', sent⟩
      rcases tries sent with before | ⟨-, inTried⟩
      · have := sound.sent_below before
        omega
      · exact partly inTried
  case ordered =>
    unfold Ordered
    rw [attempts]
    refine List.pairwise_append.mpr ⟨sound.ordered, ?_, ?_⟩
    · match tried, one with
      | [], _ => exact List.Pairwise.nil
      | [_], _ => exact List.pairwise_singleton _ _
    · intro attempt before later member _
      obtain ⟨whole, -, rfl⟩ := List.mem_map.mp member
      exact sound.attemptsBelow attempt before
  case wire =>
    rw [wire, attempts, sound.wire, List.map_append, List.map_map]
    refine congrArg₂ _ ?_ ?_
    · refine List.map_congr_left fun attempt member => ?_
      rw [dataOf_old grows (sound.attemptsBelow attempt member)]
    · refine List.map_congr_left fun whole _ => ?_
      exact (dataOf_new grows).symm

/-- A client connects: nothing was missed, or the cached message is tried once and
forgotten. -/
theorem Sound.step_clientConnect (sound : s.Sound) {fd : Int} {radioState : Word}
    {script nitzScript : List WriteOutcome}
    (stepped : s.step (.clientConnect fd radioState script nitzScript) = some s') :
    ∃ tried : List (Nat × Bool), tried.length ≤ 1 ∧
      s'.arrived = s.arrived ∧ s'.failed = s.failed ∧ s'.cached = none ∧
      s'.libril.lastNitzTimeData = none ∧ s'.attempts = s.attempts ++ tried ∧
      (s'.libril.frames.filter Frame.isNitz).map Frame.data =
        (s.libril.frames.filter Frame.isNitz).map Frame.data ++
          tried.map (fun attempt => s.dataOf attempt.1) ∧
      (∀ attempt ∈ tried, s.cached = some attempt.1 ∧
        (s.dataOf attempt.1).length ≤ maxCommandBytes) ∧
      ∀ number ∈ s.cached, (number, true) ∈ tried ↔
        takesFrame script (radioStateData radioState) = true ∧
          (s.dataOf number).length ≤ maxCommandBytes ∧
          takesFrame nitzScript (s.dataOf number) = true := by
  obtain ⟨⟨-, valid, -⟩, shape⟩ := Option.ite_some_none_eq_some.mp stepped
  obtain ⟨greeted, taken, greets, frames, data, client⟩ :=
    greeted_spec (s := s.libril) valid radioState script
  obtain ⟨arrived, failed, cached⟩ :
      s'.arrived = s.arrived ∧ s'.failed = s.failed ∧ s'.cached = none := by
    rw [← shape]
    exact ⟨rfl, rfl, rfl⟩
  have libril : s'.libril = greeted.lastNitzTimeData.elim greeted fun data =>
      { (greeted.sendResponseRaw data nitzScript).2 with lastNitzTimeData := none } := by
    rw [← shape, ← greets]
    exact onNewCommandConnect_eq radioState script nitzScript
  have attempts : s'.attempts = s.attempts ++ s.cached.elim [] fun number =>
      (greeted.attempt (s.dataOf number) nitzScript).toList.map fun whole => (number, whole) := by
    rw [← shape, ← greets]
  rw [data, sound.link] at libril
  have radioFrame : (Frame.mk s.libril.connections (radioStateData radioState) taken).isNitz =
      false := not_isNitz_radioStateData _ _ _
  have quiet : (greeted.frames.filter Frame.isNitz).map Frame.data =
      (s.libril.frames.filter Frame.isNitz).map Frame.data := by
    rw [frames]
    simp [radioFrame]
  cases known : s.cached with
  | none =>
      rw [known] at libril attempts
      have same : s'.libril = greeted := libril
      refine ⟨[], by simp, arrived, failed, cached, ?_, attempts, ?_, nofun, nofun⟩
      · rw [same, data, sound.link, known]
        rfl
      · rw [same, quiet]
        simp
  | some number =>
      have inRange := sound.failedBelow number (sound.cachedFailed number known)
      rw [known] at libril attempts
      simp only [Option.map_some, Option.elim_some] at libril attempts
      by_cases able : takesFrame script (radioStateData radioState) = true ∧
          (s.dataOf number).length ≤ maxCommandBytes
      · obtain ⟨greetingTaken, fits⟩ := able
        rw [if_pos greetingTaken] at client
        obtain ⟨taken', sent, -⟩ := State.sendResponseRaw_tried client fits nitzScript
        have kind : (Frame.mk s.libril.connections (s.dataOf number) taken').isNitz = true := by
          unfold dataOf
          rw [List.getElem?_eq_getElem inRange]
          exact NitzMessage.isNitz_data _ _ _
        rw [State.attempt_tried client fits] at attempts
        rw [sent] at libril
        refine ⟨[(number, takesFrame nitzScript (s.dataOf number))], by simp, arrived, failed,
          cached, ?_, attempts, ?_, ?_, ?_⟩
        · rw [libril]
        · rw [libril, ← quiet]
          simp [kind]
        · rintro attempt member
          rw [List.mem_singleton.mp member]
          exact ⟨rfl, fits⟩
        · rintro other same
          obtain rfl := Option.some.inj same
          rw [List.mem_singleton, Prod.mk.injEq]
          constructor
          · rintro ⟨-, whole⟩
            exact ⟨greetingTaken, fits, whole.symm⟩
          · rintro ⟨-, -, whole⟩
            exact ⟨rfl, whole.symm⟩
      · have refused : greeted.client = none ∨ maxCommandBytes < (s.dataOf number).length := by
          rw [client]
          by_cases greetingTaken : takesFrame script (radioStateData radioState) = true
          · exact Or.inr (not_le.mp fun fits => able ⟨greetingTaken, fits⟩)
          · exact Or.inl (if_neg greetingTaken)
        rw [State.attempt_refused refused] at attempts
        rw [State.sendResponseRaw_refused refused] at libril
        refine ⟨[], by simp, arrived, failed, cached, ?_, attempts, ?_, nofun, ?_⟩
        · rw [libril]
        · rw [libril, ← quiet]
          simp
        · rintro other same
          obtain rfl := Option.some.inj same
          exact iff_of_false (by simp) fun taken => able ⟨taken.1, taken.2.1⟩

theorem Sound.clientConnect (sound : s.Sound) {fd : Int} {radioState : Word}
    {script nitzScript : List WriteOutcome}
    (stepped : s.step (.clientConnect fd radioState script nitzScript) = some s') : s'.Sound := by
  obtain ⟨tried, one, arrived, failed, cached, data, attempts, wire, tries, -⟩ :=
    sound.step_clientConnect stepped
  have dataOf : s'.dataOf = s.dataOf := by
    funext number
    unfold Nitz.dataOf
    rw [arrived]
  constructor
  case link => rw [data, cached]; rfl
  case failedBelow => rw [failed, arrived]; exact sound.failedBelow
  case attemptsBelow =>
    rw [attempts, arrived]
    intro attempt member
    rcases List.mem_append.mp member with before | late
    · exact sound.attemptsBelow attempt before
    · exact sound.failedBelow _ (sound.cachedFailed _ (tries attempt late).1)
  case cachedFailed => rw [cached]; nofun
  case newest => rw [cached]; nofun
  case unsent => rw [cached]; nofun
  case settled =>
    rw [arrived, failed]
    refine fun number below => (sound.settled number below).imp_right fun sent => ?_
    unfold Sent
    rw [attempts]
    exact List.mem_append_left _ sent
  case alone => rw [cached]; nofun
  case ordered =>
    unfold Ordered
    rw [attempts]
    refine List.pairwise_append.mpr ⟨sound.ordered, ?_, ?_⟩
    · match tried, one with
      | [], _ => exact List.Pairwise.nil
      | [_], _ => exact List.pairwise_singleton _ _
    · rintro ⟨earlier, whole⟩ before late member rfl
      obtain ⟨known, fits⟩ := tries late member
      by_contra newer
      exact (sound.alone late.1 known fits).2 ⟨earlier, not_lt.mp newer, before⟩
  case wire =>
    rw [wire, attempts, sound.wire, dataOf, List.map_append]

theorem Sound.clientDisconnect (sound : s.Sound)
    (stepped : s.step .clientDisconnect = some s') : s'.Sound := by
  obtain ⟨-, rfl⟩ := Option.ite_some_none_eq_some.mp stepped
  exact ⟨sound.link, sound.failedBelow, sound.attemptsBelow, sound.cachedFailed, sound.newest,
    sound.unsent, sound.settled, fun number known fits => ⟨rfl, (sound.alone number known fits).2⟩,
    sound.ordered, sound.wire⟩

theorem Sound.step (sound : s.Sound) {event : NitzEvent} (stepped : s.step event = some s') :
    s'.Sound := by
  cases event with
  | nitz message script => exact sound.nitz stepped
  | clientConnect fd radioState script nitzScript => exact sound.clientConnect stepped
  | clientDisconnect => exact sound.clientDisconnect stepped

theorem Sound.greetsNewest (sound : s.Sound) : s.GreetsNewest := by
  intro fd radioState script nitzScript s' stepped
  obtain ⟨tried, one, -, -, -, -, attempts, -, tries, -⟩ := sound.step_clientConnect stepped
  refine ⟨tried, attempts, one, fun attempt member => ?_⟩
  have known := (tries attempt member).1
  refine ⟨known, sound.unsent attempt.1 known, fun number below unsent => ?_⟩
  exact sound.newest attempt.1 known number ((sound.settled number below).resolve_right unsent)

/-! ### When nothing is lost -/

theorem SentFrom.mono {number : Nat} (grows : s.attempts ⊆ s'.attempts)
    (sent : s.SentFrom number) : s'.SentFrom number := by
  obtain ⟨later, from', member⟩ := sent
  exact ⟨later, from', grows member⟩

/-- A connecting client leaves nothing in the cache: it has to take what is overdue. -/
theorem Sound.kept_clientConnect (sound : s.Sound) {fd : Int} {radioState : Word}
    {script nitzScript : List WriteOutcome}
    (stepped : s.step (.clientConnect fd radioState script nitzScript) = some s')
    (kept : s.NewestKept) :
    s.TakesLate (.clientConnect fd radioState script nitzScript) ↔
      ∀ number ∈ s'.failed, s'.SentFrom number := by
  obtain ⟨tried, one, arrived, failed, cached, data, attempts, wire, tries, whole⟩ :=
    sound.step_clientConnect stepped
  have grows : s.attempts ⊆ s'.attempts := by
    rw [attempts]
    exact List.subset_append_left _ _
  rw [failed]
  constructor
  · intro takes number inFailed
    rcases kept number inFailed with ⟨newer, known, order⟩ | sent
    · by_cases late : s.SentFrom newer
      · obtain ⟨later, from', member⟩ := late
        exact ⟨later, order.trans from', grows member⟩
      · obtain ⟨radio, takesData⟩ := takes ⟨newer, known, late⟩
        have content : s.dataOf newer ∈ s.libril.lastNitzTimeData := by
          rw [sound.link, Option.mem_def.mp known]
          rfl
        obtain ⟨fits, taken⟩ := takesData _ content
        refine ⟨newer, order, ?_⟩
        unfold Sent
        rw [attempts]
        exact List.mem_append_right _ ((whole newer known).mpr ⟨radio, fits, taken⟩)
    · exact sent.mono grows
  · rintro all ⟨number, known, overdue⟩
    obtain ⟨later, from', member⟩ := all number (sound.cachedFailed number known)
    unfold Sent at member
    rw [attempts] at member
    rcases List.mem_append.mp member with before | late
    · exact absurd ⟨later, from', before⟩ overdue
    · obtain rfl : number = later := Option.some.inj (known.symm.trans (tries _ late).1)
      obtain ⟨radio, fits, taken⟩ := (whole number known).mp late
      refine ⟨radio, fun data content => ?_⟩
      rw [sound.link, Option.mem_def.mp known] at content
      obtain rfl := Option.some.inj content
      exact ⟨fits, taken⟩

theorem Kept.newestKept (kept : s.Kept) : s.NewestKept :=
  fun number inFailed => (kept number inFailed).imp_left fun known => ⟨number, known, le_rfl⟩

theorem Sound.exact_newestKept (sound : s.Sound) (kept : s.NewestKept) {event : NitzEvent}
    (stepped : s.step event = some s') : s.TakesLate event ↔ s'.NewestKept := by
  cases event with
  | clientConnect fd radioState script nitzScript =>
      rw [sound.kept_clientConnect stepped kept]
      obtain ⟨-, -, -, -, cached, -⟩ := sound.step_clientConnect stepped
      refine forall₂_congr fun number _ => ?_
      rw [cached]
      simp
  | clientDisconnect =>
      obtain ⟨-, rfl⟩ := Option.ite_some_none_eq_some.mp stepped
      exact iff_of_true trivial kept
  | nitz message script =>
      apply iff_of_true trivial
      have sound' := sound.nitz stepped
      obtain ⟨tried, -, grows, attempts, -, -, outcome⟩ := step_nitz stepped
      have more : s.attempts ⊆ s'.attempts := by
        rw [attempts]
        exact List.subset_append_left _ _
      rcases outcome with ⟨-, failed, cached, -⟩ | ⟨-, failed, cached, -⟩
      · intro number inFailed
        rw [failed] at inFailed
        rw [cached]
        exact (kept number inFailed).imp_right fun sent => sent.mono more
      · intro number inFailed
        refine Or.inl ⟨s.arrived.length, by rw [cached]; rfl, ?_⟩
        exact sound'.newest _ (by rw [cached]; rfl) number inFailed

theorem Sound.exact_kept (sound : s.Sound) (kept : s.Kept) {event : NitzEvent}
    (stepped : s.step event = some s') : s.TakesEach event ↔ s'.Kept := by
  cases event with
  | clientConnect fd radioState script nitzScript =>
      apply (sound.kept_clientConnect stepped kept.newestKept).trans
      obtain ⟨-, -, -, -, cached, -⟩ := sound.step_clientConnect stepped
      refine forall₂_congr fun number _ => ?_
      rw [cached]
      simp
  | clientDisconnect =>
      obtain ⟨-, rfl⟩ := Option.ite_some_none_eq_some.mp stepped
      exact iff_of_true trivial kept
  | nitz message script =>
      have sound' := sound.nitz stepped
      obtain ⟨tried, -, grows, attempts, able, -, outcome⟩ := step_nitz stepped
      have more : s.attempts ⊆ s'.attempts := by
        rw [attempts]
        exact List.subset_append_left _ _
      rcases outcome with ⟨whole, failed, cached, -, taken⟩ | ⟨partly, failed, cached, -, -, refused⟩
      · refine iff_of_true (fun overdue => ?_) ?_
        · obtain ⟨fits, client⟩ := able (by simp [whole])
          exact ⟨client, fits, taken⟩
        · intro number inFailed
          rw [failed] at inFailed
          rw [cached]
          exact (kept number inFailed).imp_right fun sent => sent.mono more
      · -- the message takes the place of the one that was cached
        have sentBefore {number : Nat} (sent : s'.SentFrom number) : s.SentFrom number := by
          obtain ⟨later, from', member⟩ := sent
          unfold Sent at member
          rw [attempts] at member
          rcases List.mem_append.mp member with before | late
          · exact ⟨later, from', before⟩
          · obtain ⟨whole, inTried, same⟩ := List.mem_map.mp late
            obtain ⟨-, rfl⟩ := Prod.mk.inj same
            exact absurd inTried partly
        constructor
        · intro takes number inFailed
          rw [failed, List.mem_append, List.mem_singleton] at inFailed
          rcases inFailed with old | rfl
          · refine Or.inr (SentFrom.mono more ?_)
            rcases kept number old with known | sent
            · by_contra overdue
              exact refused (takes ⟨number, known, overdue⟩)
            · exact sent
          · exact Or.inl cached
        · rintro kept' ⟨number, known, overdue⟩
          have old := sound.cachedFailed number known
          have below := sound.failedBelow number old
          rcases kept' number (by rw [failed]; exact List.mem_append_left _ old) with here | sent
          · rw [cached, Option.some.injEq] at here
            omega
          · exact absurd (sentBefore sent) overdue

/-- The properties of a state, for what is asked of the cache. -/
structure Meets (s : Nitz) (cache : Nitz → Prop) : Prop where
  cache : cache s
  ordered : s.Ordered
  greetsNewest : s.GreetsNewest

/-- **The NITZ cache over every run.** What stands in `s_lastNITZTimeData` and what
reached the clients is what `cached` and `attempts` say. A message whose send failed
stays cached until it or a newer one is sent exactly if every client that connects while
a message is overdue takes it, and no message fails while an older one is overdue; and
if the newer one may take its place, exactly if every such client takes it. -/
theorem nitz_of_run {events : List NitzEvent} (ran : run step initial events = some s) :
    s.libril.lastNitzTimeData = s.cached.map s.dataOf ∧
      (s.libril.frames.filter Frame.isNitz).map Frame.data =
        s.attempts.map (fun attempt => s.dataOf attempt.1) ∧
      ((∀ front back s', events = front ++ back → run step initial front = some s' →
          s'.Meets Kept) ↔ StepsMeet step TakesEach initial events) ∧
      ((∀ front back s', events = front ++ back → run step initial front = some s' →
          s'.Meets NewestKept) ↔ StepsMeet step TakesLate initial events) := by
  have preserved : ∀ (s : Nitz) event s', s.Sound → s.step event = some s' → s'.Sound :=
    fun _ _ _ sound stepped => sound.step stepped
  have meets (cache : Nitz → Prop) {s : Nitz} (sound : s.Sound) : s.Meets cache ↔ cache s :=
    ⟨Meets.cache, fun holds => ⟨holds, sound.ordered, sound.greetsNewest⟩⟩
  have sound := run_invariant preserved initial_sound ran
  have nothing : initial.Kept := nofun
  refine ⟨sound.link, sound.wire, ?_, ?_⟩
  · rw [stepsMeet_iff_along preserved (fun s event s' sound kept stepped =>
      (sound.exact_kept ((meets Kept sound).mp kept) stepped).trans
        (meets Kept (preserved s event s' sound stepped)).symm) initial_sound
      ((meets Kept initial_sound).mpr nothing) ran]
  · rw [stepsMeet_iff_along preserved (fun s event s' sound kept stepped =>
      (sound.exact_newestKept ((meets NewestKept sound).mp kept) stepped).trans
        (meets NewestKept (preserved s event s' sound stepped)).symm) initial_sound
      ((meets NewestKept initial_sound).mpr nothing.newestKept) ran]

/-- A NITZ time. -/
def sampleTime (digit : Char16) (timeReceived : BitVec 64) : NitzMessage :=
  ⟨string16Bytes (some [0x30, digit]), timeReceived⟩

/-- A message without a client, one in place of it, a client that takes it, one it sends at
once, one whose write fails, and a client that takes that. -/
def sampleNitz : List NitzEvent :=
  [.nitz (sampleTime 0x31 10) [], .nitz (sampleTime 0x32 20) [], .clientConnect 5 0 [] [],
    .nitz (sampleTime 0x33 30) [.interrupted, .wrote 3],
    .nitz (sampleTime 0x34 40) [.wrote 4, .wrote 6, .failed], .clientDisconnect,
    .clientConnect 5 0 [] [.wrote 9]]

theorem nitz_sampleNitz : ∃ s, run step initial sampleNitz = some s ∧
    s.libril.lastNitzTimeData = s.cached.map s.dataOf ∧
      (s.libril.frames.filter Frame.isNitz).map Frame.data =
        s.attempts.map (fun attempt => s.dataOf attempt.1) ∧
      ((∀ front back s', sampleNitz = front ++ back → run step initial front = some s' →
          s'.Meets Kept) ↔ StepsMeet step TakesEach initial sampleNitz) ∧
      ((∀ front back s', sampleNitz = front ++ back → run step initial front = some s' →
          s'.Meets NewestKept) ↔ StepsMeet step TakesLate initial sampleNitz) := by
  have ends : (run step initial sampleNitz).isSome = true := by decide +kernel
  obtain ⟨s, ran⟩ := Option.isSome_iff_exists.mp ends
  exact ⟨s, ran, nitz_of_run ran⟩

/-- The client that connects does not take the message, and the next one is not sent it. -/
def lostNitz : List NitzEvent :=
  [.nitz (sampleTime 0x31 10) [], .clientConnect 5 0 [] [.wrote 4, .wrote 6, .failed],
    .clientDisconnect, .clientConnect 5 0 [] []]

theorem lostNitz_not_kept : ∃ s, run step initial lostNitz = some s ∧ ¬ s.Meets Kept ∧
    ¬ s.Meets NewestKept := by
  have ends : (run step initial lostNitz).any (fun s =>
      decide (s.failed = [0] ∧ s.cached = none ∧ s.attempts = [(0, false)])) = true := by
    decide +kernel
  obtain ⟨s, ran, facts⟩ := (Option.any_eq_true _ _).mp ends
  obtain ⟨failed, cached, attempts⟩ := of_decide_eq_true facts
  have lost : ¬ s.NewestKept := by
    intro kept
    rcases kept 0 (by simp [failed]) with ⟨newer, known, -⟩ | ⟨later, -, sent⟩
    · rw [cached] at known
      cases known
    · unfold Sent at sent
      simp [attempts] at sent
  exact ⟨s, ran, fun meets => lost meets.cache.newestKept, fun meets => lost meets.cache⟩

end Nitz

end RildHisi.Libril
