import RildHisi.Daemon.Payloads
import RildHisi.MockRil.JsAnswers
import RildHisi.MockRil.WireStream

/-!
Owns the answers of mock-ril that are lists of strings, from the array that a handler fills to
the frame of libril: the texts of the array, and NULL for every `NULL_RESPONSE_STRING`.
-/

namespace RildHisi.MockRil.Generated

open RildHisi.Daemon
open RildHisi.Libril (Abi AsciiText OnRequest Platform Pointee RequestInfo RilRequest TextPlatform
  WireText Word dispatchStrings frameHeader readTexts responseParcel short_wideTexts
  readTexts_wideTexts stringsPayload wideTexts dispatchStrings_stringsPayload)

/-! ### Texts -/

/-- ASCII without NUL. -/
def PlainText (text : String) : Prop := ∀ char ∈ text.toList, 0 < char.toNat ∧ char.toNat < 128

theorem plainText_of_all {text : String}
    (every : (text.toList.all fun char => decide (0 < char.toNat ∧ char.toNat < 128)) = true) :
    PlainText text :=
  fun char inside => of_decide_eq_true (List.all_eq_true.mp every char inside)

theorem PlainText.isAscii {text : String} (plain : PlainText text) : IsAscii text :=
  fun char member => (plain char member).2

theorem PlainText.asciiText {text : String} (plain : PlainText text) : AsciiText (ascii text) := by
  intro c member
  obtain ⟨char, inside, rfl⟩ := List.mem_map.mp member
  obtain ⟨positive, small⟩ := plain char inside
  have value : char.toUInt8.toNat = char.toNat := by
    show (UInt32.toUInt8 char.val).toNat = char.val.toNat
    rw [UInt32.toNat_toUInt8]
    exact Nat.mod_eq_of_lt (lt_trans small (by decide))
  rw [value]
  exact ⟨positive, small⟩

theorem ascii_length (text : String) : (ascii text).length = text.length := by
  rw [ascii, List.length_map, String.length_toList]

/-- A text that JavaScript hands over as it is: without NUL, and of a size that fits a parcel. -/
structure WireString (text : String) : Prop where
  plain : PlainText text
  short : text.length < 2 ^ 29

theorem WireString.wireText {text : String} (wire : WireString text) :
    WireText (unlessMagicNull (ascii text)) := by
  intro s present
  unfold unlessMagicNull at present
  split_ifs at present
  · cases present
  · obtain rfl := Option.some.inj present
    exact ⟨wire.plain.asciiText, by rw [ascii_length]; exact wire.short⟩

theorem cStr_protoOf_string {υ : Type} {text : String} (plain : PlainText text) :
    cStr (protoOf (.string text) : Proto υ) = ascii text :=
  Libril.cString_of_ascii plain.asciiText

/-! ### JavaScript -/

/-- `rsp.strings`. -/
def stringsToJs (texts : List String) : JsValue := .object [.array (texts.map .string)]

def stringsValue (texts : List String) : Value := .message [texts.map .string]

section

variable {texts : List String}

theorem elementsToProto_strings (v8 : V8) (freed : FreedMemory)
    (plain : ∀ text ∈ texts, PlainText text) (position index : ℕ) :
    elementsToProto rilSchema v8 freed position index .string (texts.map .string) =
      some (texts.map .string) := by
  induction texts generalizing index with
  | nil => rfl
  | cons text texts inductionHypothesis =>
      have first : v8.asciiValue (.string text) = text :=
        v8.asciiValue_string text (plain text List.mem_cons_self)
      have rest := inductionHypothesis
        (fun other member => plain other (List.mem_cons_of_mem _ member)) (index + 1)
      simp only [List.map_cons, elementsToProto, valueToProto, scalarToProto, first, rest,
        Option.pure_def, Option.bind_eq_bind, Option.bind_some]

/-- `Serialize` of an object of strings. -/
theorem serialize_strings (v8 : V8) (freed : FreedMemory)
    (plain : ∀ text ∈ texts, PlainText text) :
    rilSchema.serialize v8 freed .rspStrings (stringsToJs texts) = some (stringsValue texts) := by
  have elements := elementsToProto_strings v8 freed plain 0 0
  show valueToProto rilSchema v8 freed (.message .rspStrings) (stringsToJs texts) = _
  have fields : rilSchema.fields .rspStrings = [repeated "strings" .string] := rfl
  simp only [stringsToJs, stringsValue, valueToProto, fields, fieldsToProto, repeated, if_true,
    elements, Option.pure_def, Option.bind_eq_bind, Option.bind_some]

theorem stringsValue_hasType (plain : ∀ text ∈ texts, PlainText text) :
    ValueHasType rilSchema (.message .rspStrings) (stringsValue texts) := by
  refine ⟨fun single => absurd single (by decide), ?_, trivial⟩
  show ElementsHaveType rilSchema .string (texts.map .string)
  induction texts with
  | nil => exact trivial
  | cons text texts inductionHypothesis =>
      exact ⟨(plain text List.mem_cons_self).isAscii, inductionHypothesis
        fun other member => plain other (List.mem_cons_of_mem _ member)⟩

theorem stringsValue_levels (texts : List String) : levels (stringsValue texts) = 1 := by
  have flat : elementsLevels (texts.map .string) = 0 := by
    induction texts with
    | nil => rfl
    | cons text texts inductionHypothesis =>
        rw [List.map_cons, elementsLevels, inductionHypothesis]
        rfl
  rw [stringsValue, levels, fieldsLevels, flat]
  rfl

theorem elementsOf_strings {υ : Type} (plain : ∀ text ∈ texts, PlainText text) :
    (elementsOf (texts.map .string) : List (Proto υ)).map (fun value => unlessMagicNull (cStr value)) =
      texts.map fun text => unlessMagicNull (ascii text) := by
  rw [elementsOf_eq_map, List.map_map, List.map_map]
  apply List.map_congr_left
  intro text member
  exact congrArg unlessMagicNull (cStr_protoOf_string (plain text member))

end

/-! ### The conversion -/

theorem resultLen_eq (abi : Abi) {n size : ℕ} (small : n * size < 2 ^ 31) :
    resultLen abi n size = n * size := abi.sizeT_ofNat small

section

variable {stream : CodedStream} (lookahead : Lookahead stream) (signedChar : Bool)
  {texts : List String}

/-- What `RspStrings` makes of the buffer. -/
theorem convert_strings (abi : Abi) (memory : Pointee) (plain : ∀ text ∈ texts, PlainText text)
    (few : texts.length < 2 ^ 28)
    (small : (serializeToArray stream .rspStrings (stringsValue texts)).length < 2 ^ 31) :
    RspConversion.convert lookahead abi signedChar memory .strings
        (serializeToArray stream .rspStrings (stringsValue texts)) =
      some ⟨pointeeOf memory (.strings (texts.map fun text => unlessMagicNull (ascii text))),
        texts.length * abi.ptrSize⟩ := by
  have parsed := parsedContents_serializeToArray lookahead (stringsValue_hasType plain)
    (by rw [stringsValue_levels]; omega) small
  have length : texts.length * abi.ptrSize < 2 ^ 31 := by
    cases abi <;> simp only [Abi.ptrSize] <;> omega
  have strings := elementsOf_strings (υ := stream.Unknown) plain
  show ((parsedContents lookahead .rspStrings _).bind fun rsp =>
    some (rspStrings abi memory rsp)) = _
  rw [parsed, Option.bind_some]
  have elements : (Contents.ofProto (protoOf (stringsValue texts) : Proto stream.Unknown)).elements 0 =
      elementsOf (texts.map .string) := rfl
  simp only [rspStrings, elements, strings, List.length_map, resultLen_eq abi length, pointeeOf]

/-- **A list of strings comes through mock-ril and libril**: the frame holds the texts that the
handler has put into its array, one by one, and NULL where it has put `*magic-null*`. -/
theorem strings_onWire {P : Type} [Platform P] [TextPlatform P] (v8 : V8) (freed : FreedMemory)
    (memory : Pointee) (version : ℕ) (pRI : RequestInfo)
    (function : pRI.pCI.responseFunction = .responseStrings) (e : Word)
    (wire : ∀ text ∈ texts, WireString text) (few : texts.length < 2 ^ 28)
    (small : (serializeToArray stream .rspStrings (stringsValue texts)).length < 2 ^ 31) :
    ∃ value response payload,
      rilSchema.serialize v8 freed .rspStrings (stringsToJs texts) = some value ∧
      RspConversion.convert lookahead (Platform.abi P) signedChar memory .strings
        (serializeToArray stream .rspStrings value) = some response ∧
      Platform.data (responseParcel P version pRI e response.response response.responselen) =
        frameHeader pRI.pCI.requestNumber pRI.token e ++ payload ∧
      ∀ (request : RilRequest) (t : ℕ),
        ((dispatchStrings (Platform.abi P) request t).runBytes (Platform.strndup16to8 P)
            payload).2.2 =
          [⟨request, .strings (texts.map fun text => unlessMagicNull (ascii text)),
            texts.length * (Platform.abi P).ptrSize, t⟩] := by
  have plain : ∀ text ∈ texts, PlainText text := fun text member => (wire text member).plain
  have wireTexts : ∀ s ∈ texts.map (fun text => unlessMagicNull (ascii text)), WireText s := by
    intro s member
    obtain ⟨text, inside, rfl⟩ := List.mem_map.mp member
    exact (wire text inside).wireText
  have count : (texts.map fun text => unlessMagicNull (ascii text)).length = texts.length :=
    List.length_map _
  refine ⟨_, _, stringsPayload (wideTexts P (texts.map fun text => unlessMagicNull (ascii text))),
    serialize_strings v8 freed plain,
    convert_strings lookahead signedChar (Platform.abi P) memory plain few small, ?_, ?_⟩
  · have frame := responseParcel_strings (P := P) version pRI function e memory wireTexts
      (by rw [count]; omega)
    rw [count] at frame
    exact frame
  · intro request t
    have wide : (wideTexts P (texts.map fun text => unlessMagicNull (ascii text))).length =
        texts.length := by rw [wideTexts, List.length_map, count]
    rw [dispatchStrings_stringsPayload (Platform.strndup16to8 P) (Platform.abi P) request t
      (by rw [wide]; omega) (short_wideTexts wireTexts), readTexts_wideTexts wireTexts, wide]

end

/-- V8, for strings and numbers. -/
def plainV8 : V8 where
  asciiValue
    | .string value => value
    | _ => ""
  numberValue
    | .number value => some value
    | _ => none
  asciiValue_string _ _ := rfl
  numberValue_number _ := rfl

/-- A location area code, and a station that is not known. -/
def registrationTexts : List String := ["1", "*magic-null*"]

theorem registrationTexts_wire : ∀ text ∈ registrationTexts, WireString text := by
  have plain : ∀ text ∈ registrationTexts, PlainText text := by
    simp only [registrationTexts, List.forall_mem_cons]
    exact ⟨plainText_of_all rfl, plainText_of_all rfl, fun _ member => absurd member (by simp)⟩
  have short : ∀ text ∈ registrationTexts, text.length < 20 := by decide +kernel
  exact fun text member => ⟨plain text member, lt_trans (short text member) (by decide)⟩

theorem strings_onWire_registration :
    ∃ value response payload,
      rilSchema.serialize plainV8 (fun _ => id) .rspStrings (stringsToJs registrationTexts) =
        some value ∧
      RspConversion.convert wireLookahead .lp64 true default .strings
        (serializeToArray wireStream .rspStrings value) = some response ∧
      Platform.data (responseParcel Libril.ByteParcel 3
          ⟨9, ⟨.registrationState, .dispatchVoid, .responseStrings⟩, 0, false, false⟩ 0
          response.response response.responselen) =
        frameHeader .registrationState 9 0 ++ payload ∧
      ∀ (request : RilRequest) (t : ℕ),
        ((dispatchStrings .lp64 request t).runBytes (Platform.strndup16to8 Libril.ByteParcel)
            payload).2.2 =
          [⟨request, .strings [some (ascii "1"), none], 16, t⟩] :=
  strings_onWire (P := Libril.ByteParcel) wireLookahead true plainV8 (fun _ => id) default 3
    ⟨9, ⟨.registrationState, .dispatchVoid, .responseStrings⟩, 0, false, false⟩ rfl 0
    registrationTexts_wire (by decide) (by decide +kernel)

end RildHisi.MockRil.Generated
