import RildHisi.MockRil.CtrlServer

/-!
Owns which message a response of the control server answers. A worker finishes a request
later, by its command and token alone: the frame goes to whoever is connected then, and
the token has been a number of JavaScript in between (`correlates_iff`).
-/

namespace RildHisi.MockRil

open RildHisi.Library

/-- The command and the token come back from JavaScript as they were. -/
structure CtrlMessage.Exact (message : CtrlMessage) : Prop where
  cmd : message.cmd.toNat < 2 ^ 31
  small : message.token.toNat < 2 ^ 63
  token : ulp 53 message.token.toNat ∣ message.token.toNat

theorem numberCmd_eq_iff (cmd : BitVec 32) : numberCmd cmd = some cmd ↔ cmd.toNat < 2 ^ 31 := by
  unfold numberCmd
  split_ifs with small
  · exact iff_of_true rfl small
  · exact iff_of_false (by simp) small

theorem numberToken_eq_iff (token : BitVec 64) :
    numberToken token = some token ↔
      token.toNat < 2 ^ 63 ∧ ulp 53 token.toNat ∣ token.toNat := by
  rw [← roundToEven_eq_self_iff]
  simp only [numberToken]
  split_ifs with small
  · constructor
    · intro same
      have value := congrArg BitVec.toNat (Option.some.inj same)
      rw [BitVec.toNat_ofNat, Nat.mod_eq_of_lt (by omega)] at value
      exact ⟨value ▸ small, value⟩
    · rintro ⟨-, same⟩
      rw [same, BitVec.ofNat_toNat, BitVec.setWidth_eq]
  · apply iff_of_false (by simp)
    rintro ⟨below, same⟩
    exact small (same.symm ▸ below)

/-- A token below 2^53 is exact. -/
theorem CtrlMessage.exact_of_lt {message : CtrlMessage} (cmd : message.cmd.toNat < 2 ^ 31)
    (token : message.token.toNat < 2 ^ 53) : message.Exact where
  cmd := cmd
  small := by omega
  token := (roundToEven_eq_self_iff 53 _).mp (roundToEven_of_lt 53 _ token)

theorem CtrlMessage.exact_iff (message : CtrlMessage) :
    message.Exact ↔ numberCmd message.cmd = some message.cmd ∧
      numberToken message.token = some message.token := by
  rw [numberCmd_eq_iff, numberToken_eq_iff]
  exact ⟨fun exactly => ⟨exactly.cmd, exactly.small, exactly.token⟩,
    fun ⟨cmd, small, token⟩ => ⟨cmd, small, token⟩⟩

namespace CtrlServer

/-- The frame answers a message that came from its connection, with its command and token. -/
def Answers (s : CtrlServer) (frame : Written) : Prop :=
  ∃ message, s.read[frame.message]? = some (frame.connection, message) ∧
    frame.response.cmd = some message.cmd ∧ frame.response.token = some message.token

/-- No message is answered twice, and each response goes back to where its message came from,
with the same command and token. -/
structure Correlates (s : CtrlServer) : Prop where
  once : (s.written.map Written.message).Nodup
  same : ∀ frame ∈ s.written, s.Answers frame

/-- JavaScript answers a message only if it is exact; a worker, when somebody is connected,
only a message of that connection, and only one that has no answer yet. -/
def RespondsInTime (s : CtrlServer) : CtrlEvent → Prop
  | .finish index true _ _ true =>
      ∀ connection message client, s.read[index]? = some (connection, message) →
        s.client = some client →
        client = connection ∧ message.Exact ∧ ∀ frame ∈ s.written, frame.message ≠ index
  | .server true =>
      ∀ index connection message, s.phase = .handle index →
        s.read[index]? = some (connection, message) → message.cmd.toNat ≠ CTRL_CMD_ECHO →
        onCtrlServerCmd message.cmd = .unknown → message.Exact
  | _ => True

/-! ### The message in hand -/

structure Sound (s : CtrlServer) : Prop where
  written : ∀ frame ∈ s.written, frame.message < s.read.length
  handling : ∀ index, s.phase = .handle index →
    (∃ connection message, s.read[index]? = some (connection, message) ∧
      s.client = some connection) ∧ ∀ frame ∈ s.written, frame.message ≠ index

theorem sound_initial : CtrlServer.initial.Sound where
  written frame member := absurd member List.not_mem_nil
  handling index at' := by cases at'

/-- What a step writes. -/
inductive Writes (s s' : CtrlServer) (event : CtrlEvent) : Prop
  | nothing (same : s'.written = s.written) (responds : s.Sound → s.RespondsInTime event)
  | frame (frame : Written) (same : s'.written = s.written ++ [frame]) (read : s'.read = s.read)
      (responds : s.Sound → (s.RespondsInTime event ↔
        (∀ old ∈ s.written, old.message ≠ frame.message) ∧ s.Answers frame))

/-- An answer of JavaScript is right if it goes to the right connection and the message is
exact. -/
theorem answers_number {s : CtrlServer} {index client connection : Nat} {message : CtrlMessage}
    (known : s.read[index]? = some (connection, message)) (status : Nat) (data : List UInt8) :
    s.Answers ⟨index, client, numberCmd message.cmd, numberToken message.token, status, data⟩ ↔
      client = connection ∧ message.Exact := by
  rw [CtrlMessage.exact_iff]
  constructor
  · rintro ⟨other, read, cmd, token⟩
    obtain ⟨rfl, rfl⟩ := Prod.mk.inj (Option.some.inj (known.symm.trans read))
    exact ⟨rfl, cmd, token⟩
  · rintro ⟨rfl, cmd, token⟩
    exact ⟨message, known, cmd, token⟩

/-- A step of the thread without a message in hand. -/
theorem respondsInTime_server {s : CtrlServer} {phase : CtrlPhase} (at' : s.phase = phase)
    (apart : ∀ index, phase ≠ .handle index) (ok : Bool) : s.RespondsInTime (.server ok) := by
  cases ok with
  | false => trivial
  | true => exact fun index _ _ handles => absurd (at'.symm.trans handles) (apart index)

theorem writes_handle {s : CtrlServer} {index connection : Nat} {message : CtrlMessage}
    (at' : s.phase = .handle index) (known : s.read[index]? = some (connection, message))
    (ok : Bool) : s.Writes (s.handle ok index message) (.server ok) := by
  have own (other : Nat) (handles : s.phase = .handle other) : other = index :=
    (CtrlPhase.handle.inj (at'.symm.trans handles)).symm
  -- JavaScript answers nothing in this step
  have responds (silent : message.cmd.toNat = CTRL_CMD_ECHO ∨
      onCtrlServerCmd message.cmd ≠ .unknown) : s.RespondsInTime (.server ok) := by
    cases ok with
    | false => trivial
    | true =>
        intro other from' message' handles read notEcho unknown
        obtain rfl := own other handles
        obtain ⟨-, rfl⟩ := Prod.mk.inj (Option.some.inj (known.symm.trans read))
        rcases silent with echoes | dispatched
        · exact absurd echoes notEcho
        · exact absurd unknown dispatched
  -- the message in hand came from the client, and has no answer yet
  have inHand (sound : s.Sound) : s.client = some connection ∧
      ∀ frame ∈ s.written, frame.message ≠ index := by
    obtain ⟨⟨from', message', read, client⟩, fresh⟩ := sound.handling index at'
    obtain ⟨rfl, rfl⟩ := Prod.mk.inj (Option.some.inj (known.symm.trans read))
    exact ⟨client, fresh⟩
  by_cases echoes : message.cmd.toNat = CTRL_CMD_ECHO
  · rw [handle, if_pos echoes]
    rcases s.writeMessage_cases ok index (echo message) with
      ⟨-, same⟩ | ⟨current, -, client, same⟩
    · rw [same]
      exact .nothing rfl fun _ => responds (Or.inl echoes)
    · rw [same]
      refine .frame _ rfl rfl fun sound => iff_of_true (responds (Or.inl echoes)) ?_
      obtain ⟨connected, fresh⟩ := inHand sound
      obtain rfl := Option.some.inj (client.symm.trans connected)
      exact ⟨fresh, message, known, rfl, rfl⟩
  · rw [handle, if_neg echoes]
    cases dispatch : onCtrlServerCmd message.cmd with
    | unknown =>
        simp only [sendCtrlRequestComplete]
        rcases s.writeMessage_cases ok index ⟨numberCmd message.cmd, numberToken message.token,
          RIL_E_REQUEST_NOT_SUPPORTED, []⟩ with ⟨unsent, same⟩ | ⟨current, rfl, client, same⟩
        · rw [same]
          refine .nothing rfl fun sound => ?_
          rcases unsent with rfl | client
          · trivial
          · have connected := (inHand sound).1
            rw [client] at connected
            cases connected
        · rw [same]
          refine .frame _ rfl rfl fun sound => ?_
          obtain ⟨connected, fresh⟩ := inHand sound
          obtain rfl := Option.some.inj (client.symm.trans connected)
          rw [answers_number known]
          constructor
          · intro responds
            exact ⟨fresh, rfl, responds index current message at' known echoes dispatch⟩
          · rintro ⟨-, -, exactly⟩ other from' message' handles read' - -
            obtain rfl := own other handles
            obtain ⟨-, rfl⟩ := Prod.mk.inj (Option.some.inj (known.symm.trans read'))
            exact exactly
    | ctrlWorker => exact .nothing rfl fun _ => responds (Or.inr (by simp [dispatch]))
    | simulatedRadioWorker => exact .nothing rfl fun _ => responds (Or.inr (by simp [dispatch]))

theorem writes_finish {s : CtrlServer} {index connection : Nat} {message : CtrlMessage}
    (known : s.read[index]? = some (connection, message)) (sendResponse ok : Bool) (status : Nat)
    (data : List UInt8) :
    s.Writes (if sendResponse then s.sendCtrlRequestComplete ok index message status data else s)
      (.finish index sendResponse status data ok) := by
  cases sendResponse with
  | false => exact .nothing rfl fun _ => trivial
  | true =>
      rw [if_pos rfl, sendCtrlRequestComplete]
      rcases s.writeMessage_cases ok index ⟨numberCmd message.cmd, numberToken message.token,
        status, data⟩ with ⟨unsent, same⟩ | ⟨current, rfl, client, same⟩
      · rw [same]
        refine .nothing rfl fun _ => ?_
        rcases unsent with rfl | client
        · trivial
        · cases ok with
          | false => trivial
          | true =>
              intro from' message' current _ connected
              rw [client] at connected
              cases connected
      · rw [same]
        refine .frame _ rfl rfl fun _ => ?_
        rw [answers_number known]
        constructor
        · intro responds
          obtain ⟨same, exactly, fresh⟩ := responds connection message current known client
          exact ⟨fresh, same, exactly⟩
        · rintro ⟨fresh, same, exactly⟩ from' message' current' read connected
          obtain ⟨rfl, rfl⟩ := Prod.mk.inj (Option.some.inj (known.symm.trans read))
          obtain rfl := Option.some.inj (client.symm.trans connected)
          exact ⟨same, exactly, fresh⟩

theorem writes_step {s s' : CtrlServer} {event : CtrlEvent} (stepped : s.step event = some s') :
    s.Writes s' event := by
  cases stepped_of_step stepped with
  | connect => exact .nothing rfl fun _ => trivial
  | arrives event begun incoming disconnected byClient =>
      rcases byClient with ⟨connection, rfl⟩ | ⟨connection, message, rfl⟩ | ⟨connection, rfl⟩ <;>
        exact .nothing rfl fun _ => trivial
  | stops at' => exact .nothing rfl fun _ => trivial
  | stopFails at' => exact .nothing rfl fun _ => trivial
  | setsDone at' => exact .nothing rfl fun _ => trivial
  | sends at' => exact .nothing rfl fun _ => trivial
  | polls at' stopping => exact .nothing rfl fun _ => trivial
  | stopReturns at' done => exact .nothing rfl fun _ => trivial
  | begins ok at' => exact .nothing rfl fun _ => respondsInTime_server at' (by simp) ok
  | outerTest ok at' => exact .nothing rfl fun _ => respondsInTime_server at' (by simp) ok
  | found ok at' => exact .nothing rfl fun _ => respondsInTime_server at' (by simp) ok
  | acceptTest ok found at' => exact .nothing rfl fun _ => respondsInTime_server at' (by simp) ok
  | accepts connection backlog at' first =>
      exact .nothing rfl fun _ => respondsInTime_server at' (by simp) true
  | acceptFails at' => exact .nothing rfl fun _ => respondsInTime_server at' (by simp) false
  | innerTest ok at' => exact .nothing rfl fun _ => respondsInTime_server at' (by simp) ok
  | readies ok at' => exact .nothing rfl fun _ => respondsInTime_server at' (by simp) ok
  | clientTest ok at' => exact .nothing rfl fun _ => respondsInTime_server at' (by simp) ok
  | reads ok connection message rest at' client arrived =>
      exact .nothing rfl fun _ => respondsInTime_server at' (by simp) ok
  | readFails ok at' => exact .nothing rfl fun _ => respondsInTime_server at' (by simp) ok
  | closes ok at' => exact .nothing rfl fun _ => respondsInTime_server at' (by simp) ok
  | leaves ok at' => exact .nothing rfl fun _ => respondsInTime_server at' (by simp) ok
  | handles ok index connection message at' known => exact writes_handle at' known ok
  | finishes index sendResponse status data ok connection message requested free known =>
      exact writes_finish known sendResponse ok status data

/-- A step that ends with no message in hand. -/
theorem Sound.out {s s' : CtrlServer} (sound : s.Sound) (read : s'.read = s.read)
    (phase : ∀ index, s'.phase ≠ .handle index)
    (written : ∀ frame ∈ s'.written, frame ∈ s.written ∨ frame.message < s.read.length) :
    s'.Sound where
  written frame member := by
    rw [read]
    exact (written frame member).elim (sound.written frame) id
  handling index at' := absurd at' (phase index)

/-- A step of another party that writes nothing. -/
theorem Sound.stays {s s' : CtrlServer} (sound : s.Sound) (read : s'.read = s.read)
    (phase : s'.phase = s.phase) (client : s'.client = s.client)
    (written : s'.written = s.written) : s'.Sound where
  written := by
    rw [written, read]
    exact sound.written
  handling := by
    rw [phase, read, client, written]
    exact sound.handling

theorem lt_of_known {s : CtrlServer} {index : Nat} {pair : Nat × CtrlMessage}
    (known : s.read[index]? = some pair) : index < s.read.length :=
  (List.getElem?_eq_some_iff.mp known).1

theorem sound_step {s s' : CtrlServer} {event : CtrlEvent} (sound : s.Sound)
    (stepped : s.step event = some s') : s'.Sound := by
  have old : ∀ frame ∈ s.written, frame ∈ s.written ∨ frame.message < s.read.length :=
    fun frame member => Or.inl member
  cases stepped_of_step stepped with
  | connect => exact sound.stays rfl rfl rfl rfl
  | arrives event begun incoming disconnected byClient => exact sound.stays rfl rfl rfl rfl
  | stops at' => exact sound.stays rfl rfl rfl rfl
  | stopFails at' => exact sound
  | setsDone at' => exact sound.stays rfl rfl rfl rfl
  | sends at' => exact sound.stays rfl rfl rfl rfl
  | polls at' stopping => exact sound
  | stopReturns at' done => exact sound.stays rfl rfl rfl rfl
  | begins ok at' => exact sound.out rfl (by simp) old
  | outerTest ok at' => exact sound.out rfl (fun index => by dsimp only; split_ifs <;> simp) old
  | found ok at' => exact sound.out rfl (by simp) old
  | acceptTest ok found at' =>
      exact sound.out rfl (fun index => by dsimp only; split_ifs <;> simp) old
  | accepts connection backlog at' first => exact sound.out rfl (by simp) old
  | acceptFails at' => exact sound.out rfl (by simp) old
  | innerTest ok at' => exact sound.out rfl (fun index => by dsimp only; split_ifs <;> simp) old
  | readies ok at' => exact sound.out rfl (by simp) old
  | clientTest ok at' => exact sound.out rfl (fun index => by dsimp only; split_ifs <;> simp) old
  | readFails ok at' => exact sound.out rfl (by simp) old
  | closes ok at' => exact sound.out rfl (by simp) old
  | leaves ok at' => exact sound.out rfl (by simp) old
  | reads ok connection message rest at' client arrived =>
      refine ⟨fun frame member => ?_, fun index handles => ?_⟩
      · rw [List.length_append]
        exact (sound.written frame member).trans_le (Nat.le_add_right _ _)
      · obtain rfl := CtrlPhase.handle.inj handles
        refine ⟨⟨connection, message, by simp, client⟩, fun frame member => ?_⟩
        exact (sound.written frame member).ne
  | handles ok index connection message at' known =>
      obtain ⟨written, requests, phase, same, inside, own⟩ := s.handle_eq ok index message
      rw [same]
      refine sound.out rfl ?_ fun frame member => (own frame member).imp_right fun answer => ?_
      · rcases inside with rfl | rfl <;> simp
      · rw [answer]
        exact lt_of_known known
  | finishes index sendResponse status data ok connection message requested free known =>
      have apart (other : Nat) : s.phase ≠ .handle other := by
        intro handles
        rw [handles] at free
        cases free
      obtain ⟨written, same, own⟩ := s.finish_eq sendResponse ok index message status data
      rw [same]
      refine sound.out rfl apart fun frame member => (own frame member).imp_right fun answer => ?_
      rw [answer]
      exact lt_of_known known

/-! ### One frame more -/

/-- What was read stays where it was. -/
theorem read_step {s s' : CtrlServer} {event : CtrlEvent} (stepped : s.step event = some s')
    {index : Nat} {pair : Nat × CtrlMessage} (known : s.read[index]? = some pair) :
    s'.read[index]? = some pair := by
  cases stepped_of_step stepped with
  | reads ok connection message rest at' client arrived =>
      rw [List.getElem?_append_left (lt_of_known known)]
      exact known
  | handles ok index connection message at' known' =>
      obtain ⟨written, requests, phase, same, -⟩ := s.handle_eq ok index message
      rw [same]
      exact known
  | finishes index sendResponse status data ok connection message requested free known' =>
      obtain ⟨written, same, -⟩ := s.finish_eq sendResponse ok index message status data
      rw [same]
      exact known
  | _ => exact known

theorem correlates_concat {s s' : CtrlServer} {frame : Written} (correlates : s.Correlates)
    (written : s'.written = s.written ++ [frame]) (read : s'.read = s.read) :
    s'.Correlates ↔ (∀ old ∈ s.written, old.message ≠ frame.message) ∧ s.Answers frame := by
  have answers (other : Written) : s'.Answers other ↔ s.Answers other := by simp [Answers, read]
  constructor
  · intro after
    have once := after.once
    rw [written, List.map_append] at once
    refine ⟨fun old member same => ?_, ?_⟩
    · exact (List.nodup_append.mp once).2.2 _ (List.mem_map_of_mem member) _
        (List.mem_singleton_self _) same
    · exact (answers frame).mp (after.same frame (by simp [written]))
  · rintro ⟨fresh, right⟩
    refine ⟨?_, fun other member => (answers other).mpr ?_⟩
    · rw [written, List.map_append]
      refine List.nodup_append.mpr ⟨correlates.once, by simp, ?_⟩
      intro message member _ last same
      obtain ⟨old, inside, rfl⟩ := List.mem_map.mp member
      exact fresh old inside (same.trans (List.mem_singleton.mp last))
    · rw [written] at member
      rcases List.mem_append.mp member with inside | last
      · exact correlates.same other inside
      · exact List.mem_singleton.mp last ▸ right

/-- **One step.** -/
theorem correlates_step {s s' : CtrlServer} {event : CtrlEvent} (sound : s.Sound)
    (correlates : s.Correlates) (stepped : s.step event = some s') :
    s.RespondsInTime event ↔ s'.Correlates := by
  cases writes_step stepped with
  | nothing same responds =>
      refine iff_of_true (responds sound) ⟨same ▸ correlates.once, fun frame member => ?_⟩
      obtain ⟨message, read, answer⟩ := correlates.same frame (same ▸ member)
      exact ⟨message, read_step stepped read, answer⟩
  | frame frame same read responds =>
      exact (responds sound).trans (correlates_concat correlates same read).symm

end CtrlServer

/-- **Requests and responses correlate**, all along a run, exactly if JavaScript answers only
exact messages, and the workers only those of the connection of the moment, once each. -/
theorem correlates_iff {events : List CtrlEvent} {s : CtrlServer}
    (ran : run CtrlServer.step .initial events = some s) :
    (∀ front back middle, events = front ++ back →
      run CtrlServer.step .initial front = some middle → middle.Correlates) ↔
      StepsMeet CtrlServer.step CtrlServer.RespondsInTime .initial events := by
  have initially : CtrlServer.initial.Correlates :=
    ⟨List.nodup_nil, fun frame member => absurd member List.not_mem_nil⟩
  exact (stepsMeet_iff_along (fun _ _ _ sound stepped => CtrlServer.sound_step sound stepped)
    (fun _ _ _ sound correlates stepped => CtrlServer.correlates_step sound correlates stepped)
    CtrlServer.sound_initial initially ran).symm

/-- `CTRL_CMD_GET_RADIO_STATE` with this token. -/
def getRadioState (token : BitVec 64) : CtrlMessage := ⟨1, token, 0, []⟩

/-- A first client connects and sends the message, which is given to the worker. -/
def requested (token : BitVec 64) : List CtrlEvent :=
  [.server true, .server true, .connect] ++ List.replicate 4 (.server true) ++
    [.send 0 (getRadioState token)] ++ List.replicate 5 (.server true)

/-- It disconnects, and a second client is there when the worker answers. -/
def strayResponse : List CtrlEvent :=
  requested 7 ++ [.disconnect 0] ++ List.replicate 5 (.server true) ++ [.connect] ++
    List.replicate 4 (.server true) ++ [.finish 0 true 0 [] true]

/-- The worker answers the first client, and the token is 2^53 + 1. -/
def roundedToken : List CtrlEvent :=
  requested 9007199254740993 ++ [.finish 0 true 0 [] true]

/-- **A response for somebody else**, and one with another token. -/
theorem strayResponse_correlates :
    (∃ s, run CtrlServer.step .initial strayResponse = some s ∧ ¬ s.Correlates) ∧
      ∃ s, run CtrlServer.step .initial roundedToken = some s ∧ ¬ s.Correlates := by
  constructor
  · have stray : (run CtrlServer.step .initial strayResponse).any (fun s =>
        s.read = [(0, getRadioState 7)] ∧ s.written = [⟨0, 1, some 1, some 7, 0, []⟩]) = true := by
      decide
    obtain ⟨s, ran, shape⟩ := (Option.any_eq_true _ _).mp stray
    obtain ⟨read, written⟩ := of_decide_eq_true shape
    refine ⟨s, ran, fun correlates => ?_⟩
    obtain ⟨message, origin, -⟩ := correlates.same _ (by rw [written]; exact List.mem_cons_self)
    rw [read] at origin
    exact absurd origin (by simp)
  · have rounded : (run CtrlServer.step .initial roundedToken).any (fun s =>
        s.read = [(0, getRadioState 9007199254740993)] ∧
          s.written = [⟨0, 0, some 1, some 9007199254740992, 0, []⟩]) = true := by decide
    obtain ⟨s, ran, shape⟩ := (Option.any_eq_true _ _).mp rounded
    obtain ⟨read, written⟩ := of_decide_eq_true shape
    refine ⟨s, ran, fun correlates => ?_⟩
    obtain ⟨message, origin, -, token⟩ :=
      correlates.same _ (by rw [written]; exact List.mem_cons_self)
    rw [read] at origin
    obtain ⟨-, rfl⟩ := Prod.mk.inj (Option.some.inj origin)
    exact absurd token (by decide)

/-- The request that the event finishes. -/
def CtrlEvent.request : CtrlEvent → Option Nat
  | .finish index _ _ _ _ => some index
  | _ => none

/-- The first client is answered, disconnects, and a second one connects. -/
def promptResponse : List CtrlEvent :=
  requested 7 ++ [.finish 0 true 0 [] true, .disconnect 0] ++ List.replicate 5 (.server true) ++
    [.connect] ++ List.replicate 4 (.server true)

theorem promptResponse_correlates :
    ∃ s, run CtrlServer.step .initial promptResponse = some s ∧ s.Correlates := by
  have finishes : (run CtrlServer.step .initial promptResponse).isSome = true := by decide
  obtain ⟨s, ran⟩ := Option.isSome_iff_exists.mp finishes
  have calm : StepsMeet CtrlServer.step (fun s event =>
      (s.read = [] ∨ s.read = [(0, getRadioState 7)]) ∧
        (event.request = none ∨ s.client = some 0 ∧ s.written = [])) .initial promptResponse := by
    decide
  have met : StepsMeet CtrlServer.step CtrlServer.RespondsInTime .initial promptResponse := by
    refine calm.mono fun s event quiet => ?_
    obtain ⟨read, request⟩ := quiet
    have only (index connection : Nat) (message : CtrlMessage)
        (known : s.read[index]? = some (connection, message)) :
        connection = 0 ∧ message = getRadioState 7 := by
      have member := List.mem_of_getElem? known
      rcases read with read | read
      · simp [read] at member
      · simpa [read] using member
    cases event with
    | finish index sendResponse status data ok =>
        obtain ⟨client, written⟩ := request.resolve_left (by simp [CtrlEvent.request])
        cases sendResponse with
        | false => trivial
        | true =>
            cases ok with
            | false => trivial
            | true =>
                intro connection message current known connected
                obtain ⟨rfl, rfl⟩ := only index connection message known
                obtain rfl := Option.some.inj (client.symm.trans connected)
                exact ⟨rfl, CtrlMessage.exact_of_lt (by decide) (by decide), by simp [written]⟩
    | server ok =>
        cases ok with
        | false => trivial
        | true =>
            intro index connection message _ known _ unknown
            obtain ⟨-, rfl⟩ := only index connection message known
            exact absurd unknown (by decide)
    | _ => trivial
  exact ⟨s, ran, (correlates_iff ran).mpr met promptResponse [] s (List.append_nil _).symm ran⟩

end RildHisi.MockRil
