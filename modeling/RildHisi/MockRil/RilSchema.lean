import RildHisi.MockRil.ProtobufV8

/-!
Owns the schema of ril.proto and ctrl.proto, in which mock-ril parses and serializes.
-/

namespace RildHisi.MockRil

/-! ### Enumerations -/

def radioState : EnumDescriptor where
  values := [("RADIOSTATE_OFF", 0), ("RADIOSTATE_UNAVAILABLE", 1),
    ("RADIOSTATE_SIM_NOT_READY", 2), ("RADIOSTATE_SIM_LOCKED_OR_ABSENT", 3),
    ("RADIOSTATE_SIM_READY", 4), ("RADIOSTATE_RUIM_NOT_READY", 5), ("RADIOSTATE_RUIM_READY", 6),
    ("RADIOSTATE_RUIM_LOCKED_OR_ABSENT", 7), ("RADIOSTATE_NV_NOT_READY", 8),
    ("RADIOSTATE_NV_READY", 9)]
  names_nodup := by decide +kernel

def rilCardState : EnumDescriptor where
  values := [("CARDSTATE_ABSENT", 0), ("CARDSTATE_PRESENT", 1), ("CARDSTATE_ERROR", 2)]
  names_nodup := by decide +kernel

def rilPersoSubstate : EnumDescriptor where
  values := [("PERSOSUBSTATE_UNKNOWN", 0), ("PERSOSUBSTATE_IN_PROGRESS", 1),
    ("PERSOSUBSTATE_READY", 2), ("PERSOSUBSTATE_SIM_NETWORK", 3),
    ("PERSOSUBSTATE_SIM_NETWORK_SUBSET", 4), ("PERSOSUBSTATE_SIM_CORPORATE", 5),
    ("PERSOSUBSTATE_SIM_SERVICE_PROVIDER", 6), ("PERSOSUBSTATE_SIM_SIM", 7),
    ("PERSOSUBSTATE_SIM_NETWORK_PUK", 8), ("PERSOSUBSTATE_SIM_NETWORK_SUBSET_PUK", 9),
    ("PERSOSUBSTATE_SIM_CORPORATE_PUK", 10), ("PERSOSUBSTATE_SIM_SERVICE_PROVIDER_PUK", 11),
    ("PERSOSUBSTATE_SIM_SIM_PUK", 12), ("PERSOSUBSTATE_RUIM_NETWORK1", 13),
    ("PERSOSUBSTATE_RUIM_NETWORK2", 14), ("PERSOSUBSTATE_RUIM_HRPD", 15),
    ("PERSOSUBSTATE_RUIM_CORPORATE", 16), ("PERSOSUBSTATE_RUIM_SERVICE_PROVIDER", 17),
    ("PERSOSUBSTATE_RUIM_RUIM", 18), ("PERSOSUBSTATE_RUIM_NETWORK1_PUK", 19),
    ("PERSOSUBSTATE_RUIM_NETWORK2_PUK", 20), ("PERSOSUBSTATE_RUIM_HRPD_PUK", 21),
    ("PERSOSUBSTATE_RUIM_CORPORATE_PUK", 22), ("PERSOSUBSTATE_RUIM_SERVICE_PROVIDER_PUK", 23),
    ("PERSOSUBSTATE_RUIM_RUIM_PUK", 24)]
  names_nodup := by decide +kernel

def rilAppState : EnumDescriptor where
  values := [("APPSTATE_UNKNOWN", 0), ("APPSTATE_DETECTED", 1), ("APPSTATE_PIN", 2),
    ("APPSTATE_PUK", 3), ("APPSTATE_SUBSCRIPTION_PERSO", 4), ("APPSTATE_READY", 5)]
  names_nodup := by decide +kernel

def rilPinState : EnumDescriptor where
  values := [("PINSTATE_UNKNOWN", 0), ("PINSTATE_ENABLED_NOT_VERIFIED", 1),
    ("PINSTATE_ENABLED_VERIFIED", 2), ("PINSTATE_DISABLED", 3), ("PINSTATE_ENABLED_BLOCKED", 4),
    ("PINSTATE_ENABLED_PERM_BLOCKED", 5)]
  names_nodup := by decide +kernel

def rilAppType : EnumDescriptor where
  values := [("APPTYPE_UNKNOWN", 0), ("APPTYPE_SIM", 1), ("APPTYPE_USIM", 2),
    ("APPTYPE_RUIM", 3), ("APPTYPE_CSIM", 4)]
  names_nodup := by decide +kernel

def rilUusType : EnumDescriptor where
  values := [("RILUUSTYPE1_IMPLICIT", 0), ("RILUUSTYPE1_REQUIRED", 1),
    ("RILUUSTYPE1_NOT_REQUIRED", 2), ("RILUUSTYPE2_REQUIRED", 3),
    ("RILUUSTYPE2_NOT_REQUIRED", 4), ("RILUUSTYPE3_REQUIRED", 5),
    ("RILUUSTYPE3_NOT_REQUIRED", 6)]
  names_nodup := by decide +kernel

def rilUusDcs : EnumDescriptor where
  values := [("RILUUSDCS_USP", 0), ("RILUUSDCS_OSIHLP", 1), ("RILUUSDCS_X244", 2),
    ("RILUUSDCS_RMCF", 3), ("RILUUSDCS_IA5c", 4)]
  names_nodup := by decide +kernel

def rilCallState : EnumDescriptor where
  values := [("CALLSTATE_ACTIVE", 0), ("CALLSTATE_HOLDING", 1), ("CALLSTATE_DIALING", 2),
    ("CALLSTATE_ALERTING", 3), ("CALLSTATE_INCOMING", 4), ("CALLSTATE_WAITING", 5)]
  names_nodup := by decide +kernel

/-! ### Messages -/

inductive RilMessage
  | rilAppStatus
  | rilCardStatus
  | rilUusInfo
  | rilCall
  | rilGwSignalStrength
  | rilCdmaSignalStrength
  | rilEvdoSignalStrength
  | rspStrings
  | rspIntegers
  | rspGetSimStatus
  | reqEnterSimPin
  | rspEnterSimPin
  | rspGetCurrentCalls
  | reqDial
  | reqHangUp
  | rspLastCallFailCause
  | rspSignalStrength
  | rspOperator
  | reqSeparateConnection
  | reqSetMute
  | reqScreenState
  | ctrlReqRadioState
  | ctrlRspRadioState
  | ctrlReqSetMTCall
  | ctrlHangupConnRemote
  | ctrlSetCallTransitionFlag
  | ctrlReqAddDialingCall
  deriving DecidableEq

/-- An optional or a required field. -/
def singular (camelcaseName : String) (type : FieldType RilMessage) : Field RilMessage :=
  ⟨camelcaseName, false, type⟩

def repeated (camelcaseName : String) (type : FieldType RilMessage) : Field RilMessage :=
  ⟨camelcaseName, true, type⟩

def RilMessage.fields : RilMessage → List (Field RilMessage)
  | rilAppStatus =>
      [singular "appType" (.enum rilAppType), singular "appState" (.enum rilAppState),
        singular "persoSubstate" (.enum rilPersoSubstate), singular "aid" .string,
        singular "appLabel" .string, singular "pin1Replaced" (.int .int32),
        singular "pin1" (.enum rilPinState), singular "pin2" (.enum rilPinState)]
  | rilCardStatus =>
      [singular "cardState" (.enum rilCardState),
        singular "universalPinState" (.enum rilPinState),
        singular "gsmUmtsSubscriptionAppIndex" (.int .int32),
        singular "cdmaSubscriptionAppIndex" (.int .int32),
        singular "numApplications" (.int .int32),
        repeated "applications" (.message .rilAppStatus)]
  | rilUusInfo =>
      [singular "uusType" (.enum rilUusType), singular "uusDcs" (.enum rilUusDcs),
        singular "uusLength" (.int .int32), singular "uusData" .string]
  | rilCall =>
      [singular "state" (.enum rilCallState), singular "index" (.int .int32),
        singular "toa" (.int .int32), singular "isMpty" .bool, singular "isMt" .bool,
        singular "als" (.int .int32), singular "isVoice" .bool, singular "isVoicePrivacy" .bool,
        singular "number" .string, singular "numberPresentation" (.int .int32),
        singular "name" .string, singular "namePresentation" (.int .int32),
        singular "uusInfo" (.message .rilUusInfo)]
  | rilGwSignalStrength =>
      [singular "signalStrength" (.int .int32), singular "bitErrorRate" (.int .int32)]
  | rilCdmaSignalStrength => [singular "dbm" (.int .int32), singular "ecio" (.int .int32)]
  | rilEvdoSignalStrength =>
      [singular "dbm" (.int .int32), singular "ecio" (.int .int32),
        singular "signalNoiseRatio" (.int .int32)]
  | rspStrings => [repeated "strings" .string]
  | rspIntegers => [repeated "integers" (.int .int32)]
  | rspGetSimStatus => [singular "cardStatus" (.message .rilCardStatus)]
  | reqEnterSimPin => [singular "pin" .string]
  | rspEnterSimPin => [singular "retriesRemaining" (.int .int32)]
  | rspGetCurrentCalls => [repeated "calls" (.message .rilCall)]
  | reqDial =>
      [singular "address" .string, singular "clir" (.int .int32),
        singular "uusInfo" (.message .rilUusInfo)]
  | reqHangUp => [singular "connectionIndex" (.int .int32)]
  | rspLastCallFailCause => [singular "lastCallFailCause" (.int .int32)]
  | rspSignalStrength =>
      [singular "gwSignalstrength" (.message .rilGwSignalStrength),
        singular "cdmaSignalstrength" (.message .rilCdmaSignalStrength),
        singular "evdoSignalstrength" (.message .rilEvdoSignalStrength)]
  | rspOperator =>
      [singular "longAlphaOns" .string, singular "shortAlphaOns" .string,
        singular "mccMnc" .string]
  | reqSeparateConnection => [singular "index" (.int .int32)]
  | reqSetMute => [singular "state" .bool]
  | reqScreenState => [singular "state" .bool]
  | ctrlReqRadioState => [singular "state" (.enum radioState)]
  | ctrlRspRadioState => [singular "state" (.enum radioState)]
  | ctrlReqSetMTCall => [singular "phoneNumber" .string]
  | ctrlHangupConnRemote =>
      [singular "connectionId" (.int .int32), singular "callFailCause" (.int .int32)]
  | ctrlSetCallTransitionFlag => [singular "flag" .bool]
  | ctrlReqAddDialingCall => [singular "phoneNumber" .string]

def rilSchema : Schema RilMessage where
  fields := RilMessage.fields
  names_nodup := by
    intro type
    cases type <;> decide +kernel

end RildHisi.MockRil
