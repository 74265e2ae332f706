import RildHisi.Libril.Parcel

/-!
Owns the request codes of ril.h and the table `s_commands` of ril_commands.h.
-/

namespace RildHisi.Libril

/-- The request codes, in the order of their numbers. -/
inductive RilRequest
  | getSimStatus | enterSimPin | enterSimPuk | enterSimPin2 | enterSimPuk2 | changeSimPin
  | changeSimPin2 | enterNetworkDepersonalization | getCurrentCalls | dial | getImsi | hangup
  | hangupWaitingOrBackground | hangupForegroundResumeBackground
  | switchWaitingOrHoldingAndActive | conference | udub | lastCallFailCause | signalStrength
  | registrationState | gprsRegistrationState | operator | radioPower | dtmf | sendSms
  | sendSmsExpectMore | setupDataCall | simIo | sendUssd | cancelUssd | getClir | setClir
  | queryCallForwardStatus | setCallForward | queryCallWaiting | setCallWaiting | smsAcknowledge
  | getImei | getImeisv | answer | deactivateDataCall | queryFacilityLock | setFacilityLock
  | changeBarringPassword | queryNetworkSelectionMode | setNetworkSelectionAutomatic
  | setNetworkSelectionManual | queryAvailableNetworks | dtmfStart | dtmfStop | basebandVersion
  | separateConnection | setMute | getMute | queryClip | lastDataCallFailCause | dataCallList
  | resetRadio | oemHookRaw | oemHookStrings | screenState | setSuppSvcNotification
  | writeSmsToSim | deleteSmsOnSim | setBandMode | queryAvailableBandMode | stkGetProfile
  | stkSetProfile | stkSendEnvelopeCommand | stkSendTerminalResponse
  | stkHandleCallSetupRequestedFromSim | explicitCallTransfer | setPreferredNetworkType
  | getPreferredNetworkType | getNeighboringCellIds | setLocationUpdates | cdmaSetSubscription
  | cdmaSetRoamingPreference | cdmaQueryRoamingPreference | setTtyMode | queryTtyMode
  | cdmaSetPreferredVoicePrivacyMode | cdmaQueryPreferredVoicePrivacyMode | cdmaFlash
  | cdmaBurstDtmf | cdmaValidateAndWriteAkey | cdmaSendSms | cdmaSmsAcknowledge
  | gsmGetBroadcastSmsConfig | gsmSetBroadcastSmsConfig | gsmSmsBroadcastActivation
  | cdmaGetBroadcastSmsConfig | cdmaSetBroadcastSmsConfig | cdmaSmsBroadcastActivation
  | cdmaSubscription | cdmaWriteSmsToRuim | cdmaDeleteSmsOnRuim | deviceIdentity
  | exitEmergencyCallbackMode | getSmscAddress | setSmscAddress | reportSmsMemoryStatus
  | reportStkServiceIsRunning | supportPorts | pscsBindState | ndisDial | pdpAddr | dhcpInfo
  deriving DecidableEq, Repr

/-- The code on the wire: `RIL_REQUEST_GET_SIM_STATUS` is 1. -/
def RilRequest.number (request : RilRequest) : Nat := request.ctorIdx + 1

inductive DispatchFunction
  | dispatchVoid | dispatchString | dispatchStrings | dispatchInts | dispatchDial | dispatchSimIo
  | dispatchCallForward | dispatchRaw | dispatchSmsWrite | dispatchCdmaSms | dispatchCdmaSmsAck
  | dispatchGsmBrSmsCnf | dispatchCdmaBrSmsCnf | dispatchRilCdmaSmsWriteArgs
  deriving DecidableEq, Repr

inductive ResponseFunction
  | responseInts | responseStrings | responseString | responseVoid | responseCallList
  | responseSms | responseSimIo | responseCallForwards | responseDataCallList | responseRaw
  | responseSimStatus | responseGsmBrSmsCnf | responseCdmaBrSmsCnf | responseCellList
  | responseRilSignalStrength
  deriving DecidableEq, Repr

structure CommandInfo where
  requestNumber : RilRequest
  dispatchFunction : DispatchFunction
  responseFunction : ResponseFunction
  deriving DecidableEq, Repr

/-- `s_commands` behind its first entry, `{0, NULL, NULL}`, which no request reaches. -/
def sCommands : List CommandInfo :=
  [⟨.getSimStatus, .dispatchVoid, .responseSimStatus⟩,
    ⟨.enterSimPin, .dispatchStrings, .responseInts⟩,
    ⟨.enterSimPuk, .dispatchStrings, .responseInts⟩,
    ⟨.enterSimPin2, .dispatchStrings, .responseInts⟩,
    ⟨.enterSimPuk2, .dispatchStrings, .responseInts⟩,
    ⟨.changeSimPin, .dispatchStrings, .responseInts⟩,
    ⟨.changeSimPin2, .dispatchStrings, .responseInts⟩,
    ⟨.enterNetworkDepersonalization, .dispatchStrings, .responseInts⟩,
    ⟨.getCurrentCalls, .dispatchVoid, .responseCallList⟩,
    ⟨.dial, .dispatchDial, .responseVoid⟩,
    ⟨.getImsi, .dispatchVoid, .responseString⟩,
    ⟨.hangup, .dispatchInts, .responseVoid⟩,
    ⟨.hangupWaitingOrBackground, .dispatchVoid, .responseVoid⟩,
    ⟨.hangupForegroundResumeBackground, .dispatchVoid, .responseVoid⟩,
    ⟨.switchWaitingOrHoldingAndActive, .dispatchVoid, .responseVoid⟩,
    ⟨.conference, .dispatchVoid, .responseVoid⟩,
    ⟨.udub, .dispatchVoid, .responseVoid⟩,
    ⟨.lastCallFailCause, .dispatchVoid, .responseInts⟩,
    ⟨.signalStrength, .dispatchVoid, .responseRilSignalStrength⟩,
    ⟨.registrationState, .dispatchVoid, .responseStrings⟩,
    ⟨.gprsRegistrationState, .dispatchVoid, .responseStrings⟩,
    ⟨.operator, .dispatchVoid, .responseStrings⟩,
    ⟨.radioPower, .dispatchInts, .responseVoid⟩,
    ⟨.dtmf, .dispatchString, .responseVoid⟩,
    ⟨.sendSms, .dispatchStrings, .responseSms⟩,
    ⟨.sendSmsExpectMore, .dispatchStrings, .responseSms⟩,
    ⟨.setupDataCall, .dispatchStrings, .responseStrings⟩,
    ⟨.simIo, .dispatchSimIo, .responseSimIo⟩,
    ⟨.sendUssd, .dispatchString, .responseVoid⟩,
    ⟨.cancelUssd, .dispatchVoid, .responseVoid⟩,
    ⟨.getClir, .dispatchVoid, .responseInts⟩,
    ⟨.setClir, .dispatchInts, .responseVoid⟩,
    ⟨.queryCallForwardStatus, .dispatchCallForward, .responseCallForwards⟩,
    ⟨.setCallForward, .dispatchCallForward, .responseVoid⟩,
    ⟨.queryCallWaiting, .dispatchInts, .responseInts⟩,
    ⟨.setCallWaiting, .dispatchInts, .responseVoid⟩,
    ⟨.smsAcknowledge, .dispatchInts, .responseVoid⟩,
    ⟨.getImei, .dispatchVoid, .responseString⟩,
    ⟨.getImeisv, .dispatchVoid, .responseString⟩,
    ⟨.answer, .dispatchVoid, .responseVoid⟩,
    ⟨.deactivateDataCall, .dispatchStrings, .responseVoid⟩,
    ⟨.queryFacilityLock, .dispatchStrings, .responseInts⟩,
    ⟨.setFacilityLock, .dispatchStrings, .responseInts⟩,
    ⟨.changeBarringPassword, .dispatchStrings, .responseVoid⟩,
    ⟨.queryNetworkSelectionMode, .dispatchVoid, .responseInts⟩,
    ⟨.setNetworkSelectionAutomatic, .dispatchVoid, .responseVoid⟩,
    ⟨.setNetworkSelectionManual, .dispatchString, .responseVoid⟩,
    ⟨.queryAvailableNetworks, .dispatchVoid, .responseStrings⟩,
    ⟨.dtmfStart, .dispatchString, .responseVoid⟩,
    ⟨.dtmfStop, .dispatchVoid, .responseVoid⟩,
    ⟨.basebandVersion, .dispatchVoid, .responseString⟩,
    ⟨.separateConnection, .dispatchInts, .responseVoid⟩,
    ⟨.setMute, .dispatchInts, .responseVoid⟩,
    ⟨.getMute, .dispatchVoid, .responseInts⟩,
    ⟨.queryClip, .dispatchVoid, .responseInts⟩,
    ⟨.lastDataCallFailCause, .dispatchVoid, .responseInts⟩,
    ⟨.dataCallList, .dispatchVoid, .responseDataCallList⟩,
    ⟨.resetRadio, .dispatchVoid, .responseVoid⟩,
    ⟨.oemHookRaw, .dispatchRaw, .responseRaw⟩,
    ⟨.oemHookStrings, .dispatchStrings, .responseStrings⟩,
    ⟨.screenState, .dispatchInts, .responseVoid⟩,
    ⟨.setSuppSvcNotification, .dispatchInts, .responseVoid⟩,
    ⟨.writeSmsToSim, .dispatchSmsWrite, .responseInts⟩,
    ⟨.deleteSmsOnSim, .dispatchInts, .responseVoid⟩,
    ⟨.setBandMode, .dispatchInts, .responseVoid⟩,
    ⟨.queryAvailableBandMode, .dispatchVoid, .responseInts⟩,
    ⟨.stkGetProfile, .dispatchVoid, .responseString⟩,
    ⟨.stkSetProfile, .dispatchString, .responseVoid⟩,
    ⟨.stkSendEnvelopeCommand, .dispatchString, .responseString⟩,
    ⟨.stkSendTerminalResponse, .dispatchString, .responseVoid⟩,
    ⟨.stkHandleCallSetupRequestedFromSim, .dispatchInts, .responseVoid⟩,
    ⟨.explicitCallTransfer, .dispatchVoid, .responseVoid⟩,
    ⟨.setPreferredNetworkType, .dispatchInts, .responseVoid⟩,
    ⟨.getPreferredNetworkType, .dispatchVoid, .responseInts⟩,
    ⟨.getNeighboringCellIds, .dispatchVoid, .responseCellList⟩,
    ⟨.setLocationUpdates, .dispatchInts, .responseVoid⟩,
    ⟨.cdmaSetSubscription, .dispatchInts, .responseVoid⟩,
    ⟨.cdmaSetRoamingPreference, .dispatchInts, .responseVoid⟩,
    ⟨.cdmaQueryRoamingPreference, .dispatchVoid, .responseInts⟩,
    ⟨.setTtyMode, .dispatchInts, .responseVoid⟩,
    ⟨.queryTtyMode, .dispatchVoid, .responseInts⟩,
    ⟨.cdmaSetPreferredVoicePrivacyMode, .dispatchInts, .responseVoid⟩,
    ⟨.cdmaQueryPreferredVoicePrivacyMode, .dispatchVoid, .responseInts⟩,
    ⟨.cdmaFlash, .dispatchString, .responseVoid⟩,
    ⟨.cdmaBurstDtmf, .dispatchStrings, .responseVoid⟩,
    ⟨.cdmaValidateAndWriteAkey, .dispatchString, .responseVoid⟩,
    ⟨.cdmaSendSms, .dispatchCdmaSms, .responseSms⟩,
    ⟨.cdmaSmsAcknowledge, .dispatchCdmaSmsAck, .responseVoid⟩,
    ⟨.gsmGetBroadcastSmsConfig, .dispatchVoid, .responseGsmBrSmsCnf⟩,
    ⟨.gsmSetBroadcastSmsConfig, .dispatchGsmBrSmsCnf, .responseVoid⟩,
    ⟨.gsmSmsBroadcastActivation, .dispatchInts, .responseVoid⟩,
    ⟨.cdmaGetBroadcastSmsConfig, .dispatchVoid, .responseCdmaBrSmsCnf⟩,
    ⟨.cdmaSetBroadcastSmsConfig, .dispatchCdmaBrSmsCnf, .responseVoid⟩,
    ⟨.cdmaSmsBroadcastActivation, .dispatchInts, .responseVoid⟩,
    ⟨.cdmaSubscription, .dispatchVoid, .responseStrings⟩,
    ⟨.cdmaWriteSmsToRuim, .dispatchRilCdmaSmsWriteArgs, .responseInts⟩,
    ⟨.cdmaDeleteSmsOnRuim, .dispatchInts, .responseVoid⟩,
    ⟨.deviceIdentity, .dispatchVoid, .responseStrings⟩,
    ⟨.exitEmergencyCallbackMode, .dispatchVoid, .responseVoid⟩,
    ⟨.getSmscAddress, .dispatchVoid, .responseString⟩,
    ⟨.setSmscAddress, .dispatchString, .responseVoid⟩,
    ⟨.reportSmsMemoryStatus, .dispatchInts, .responseVoid⟩,
    ⟨.reportStkServiceIsRunning, .dispatchVoid, .responseVoid⟩,
    ⟨.supportPorts, .dispatchStrings, .responseStrings⟩,
    ⟨.pscsBindState, .dispatchStrings, .responseStrings⟩,
    ⟨.ndisDial, .dispatchStrings, .responseVoid⟩,
    ⟨.pdpAddr, .dispatchStrings, .responseStrings⟩,
    ⟨.dhcpInfo, .dispatchStrings, .responseStrings⟩]

/-- `NUM_ELEMS(s_commands)`. -/
def numCommands : Nat := sCommands.length + 1

/-- `s_commands[request]`. -/
def commandInfo (request : Nat) : Option CommandInfo :=
  if request = 0 then none else sCommands[request - 1]?

theorem sCommands_numbers :
    sCommands.map (fun info => info.requestNumber.number) = List.range' 1 108 := by decide

/-- The self-check of `RIL_register`: each entry stands at its own number. -/
theorem requestNumber_commandInfo {request : Nat} {info : CommandInfo}
    (entry : commandInfo request = some info) : info.requestNumber.number = request := by
  unfold commandInfo at entry
  split_ifs at entry with zero
  have number : (sCommands.map fun info => info.requestNumber.number)[request - 1]? =
      some info.requestNumber.number := by
    rw [List.getElem?_map, entry, Option.map_some]
  rw [sCommands_numbers] at number
  obtain ⟨inside, value⟩ := List.getElem?_eq_some_iff.mp number
  rw [List.getElem_range'] at value
  omega

/-- Every request has its entry. -/
theorem commandInfo_number (request : RilRequest) :
    ∃ info, commandInfo request.number = some info ∧ info.requestNumber = request := by
  cases request <;> exact ⟨_, rfl, rfl⟩

/-- Every code the range check lets through has an entry. -/
theorem commandInfo_isSome {request : Nat} (above : 1 ≤ request) (below : request < numCommands) :
    (commandInfo request).isSome = true := by
  unfold commandInfo numCommands at *
  rw [if_neg (by omega), List.getElem?_eq_getElem (by omega)]
  rfl

end RildHisi.Libril
