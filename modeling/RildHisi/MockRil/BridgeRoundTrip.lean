import RildHisi.MockRil.RilSchema

/-!
Owns the round trip of a message through `Parse` and `Serialize`. The object that `Parse`
should give holds the list of all elements under each repeated field; it does so, and
`Serialize` gives the message back, exactly for the messages of `FieldsKept`.
-/

namespace RildHisi.MockRil

open RildHisi.Library

variable {ι : Type}

/-! ### The object with the lists -/

def propertyWithList (isRepeated : Bool) : List JsValue → JsValue
  | [] => .undefined
  | value :: rest => if isRepeated then .array (value :: rest) else value

mutual

/-- The object that holds under each repeated field the list of its elements in order. -/
def valueWithLists (schema : Schema ι) : FieldType ι → Value → JsValue
  | .message type, .message fields =>
      .object (fieldsWithLists schema (schema.fields type) fields)
  | type, value => scalarToJs type value

def fieldsWithLists (schema : Schema ι) : List (Field ι) → List (List Value) → List JsValue
  | field :: fields, elements :: rest =>
      propertyWithList field.isRepeated (elementsWithLists schema field.type elements) ::
        fieldsWithLists schema fields rest
  | _, _ => []

def elementsWithLists (schema : Schema ι) (type : FieldType ι) : List Value → List JsValue
  | [] => []
  | element :: elements =>
      valueWithLists schema type element :: elementsWithLists schema type elements

end

/-- The round trip of a message: its object holds the lists of the elements, and gives the
message back. -/
def Schema.Message.RoundTrips {schema : Schema ι} {type : ι} (message : schema.Message type)
    (v8 : V8) (freed : FreedMemory) : Prop :=
  schema.parse type message.value = valueWithLists schema (.message type) message.value ∧
    schema.serialize v8 freed type (schema.parse type message.value) = some message.value

/-! ### What is kept -/

def HasNul (value : String) : Prop := ∃ char ∈ value.toList, char.toNat = 0

mutual

/-- What it takes for a value to come back: V8 keeps the NUL characters of a string, and the
released name of an enumeration is read as one of the same number. -/
def ValueKept (schema : Schema ι) (v8 : V8) (freed : FreedMemory) : FieldType ι → Value → Prop
  | .message type, .message fields =>
      FieldsKept schema v8 freed 0 (schema.fields type) fields
  | .string, .string value => HasNul value → v8.asciiValue (.string value) = value
  | .enum descriptor, .enum number =>
      ∃ name ∈ descriptor.nameOf number,
        descriptor.findValueByName (freed [] (v8.asciiValue (.string name))) = some number
  | _, _ => True

/-- A repeated field has no elements, or it is the first field and has one. -/
def FieldsKept (schema : Schema ι) (v8 : V8) (freed : FreedMemory) (position : Nat) :
    List (Field ι) → List (List Value) → Prop
  | field :: fields, elements :: rest =>
      (field.isRepeated = true → elements = [] ∨ position = 0 ∧ elements.length = 1) ∧
        ElementsKept schema v8 freed position 0 field.type elements ∧
          FieldsKept schema v8 freed (position + 1) fields rest
  | _, _ => True

def ElementsKept (schema : Schema ι) (v8 : V8) (freed : FreedMemory) (position index : Nat)
    (type : FieldType ι) : List Value → Prop
  | [] => True
  | element :: elements =>
      ValueKept schema v8 (freed.below position index) type element ∧
        ElementsKept schema v8 freed position (index + 1) type elements

end

/-! ### Arrays -/

/-- A hole of an array reads as undefined. -/
theorem eq_undefined_of_hole {array : SparseArray JsValue} {index : Nat} {value : JsValue}
    (hole : array.get index = none)
    (element : (array.elements.map fun element => element.getD .undefined)[index]? = some value) :
    value = .undefined := by
  rw [List.getElem?_map] at element
  unfold SparseArray.get at hole
  cases found : array.elements[index]? with
  | none =>
      rw [found] at element
      cases element
  | some slot =>
      rw [found] at element hole
      cases slot with
      | none => exact (Option.some.inj element).symm
      | some value => cases hole

/-- **The array of a repeated field** has all the elements only if the field is the first
and has one element. -/
theorem repeatedToJs_eq_iff (position : Nat) {elements whole : List JsValue}
    (lengths : elements.length = whole.length) (present : whole ≠ [])
    (defined : ∀ value ∈ whole, value ≠ .undefined) :
    repeatedToJs position elements = .array whole ↔
      (position = 0 ∧ whole.length = 1) ∧ elements = whole := by
  constructor
  · intro same
    -- every position below the length has to be the one that is written
    have written : ∀ index, index < whole.length → index = position := by
      intro index below
      by_contra different
      have hole := SparseArray.get_foldl_put_of_ne elements
        (SparseArray.ofLength elements.length) different
      rw [SparseArray.get_ofLength] at hole
      have element := congrArg (·[index]?) (JsValue.array.inj same)
      simp only [List.getElem?_eq_getElem below] at element
      exact defined _ (List.getElem_mem below) (eq_undefined_of_hole hole element)
    have some := List.length_pos_iff.mpr present
    have first : 0 = position := written 0 some
    have single : whole.length = 1 := by
      by_contra more
      have second : 1 = position := written 1 (by omega)
      omega
    subst first
    rw [single] at lengths
    obtain ⟨element, rfl⟩ := List.length_eq_one_iff.mp lengths
    exact ⟨⟨rfl, single⟩, JsValue.array.inj same⟩
  · rintro ⟨⟨rfl, single⟩, rfl⟩
    obtain ⟨element, rfl⟩ := List.length_eq_one_iff.mp single
    rfl

/-! ### Scalars -/

/-- A double holds every integer of at most 53 bits. -/
theorem numberNew_of_le {value : Int} (small : value.natAbs ≤ 2 ^ 53) : numberNew value = value := by
  have exact : roundToEven 53 value.natAbs = value.natAbs := by
    rcases Nat.lt_or_eq_of_le small with below | largest
    · exact roundToEven_of_lt 53 value.natAbs below
    · rw [largest]
      exact (roundToEven_eq_self_iff 53 (2 ^ 53)).mpr (by decide)
  unfold numberNew
  rw [exact]
  split_ifs <;> omega

theorem EnumDescriptor.nameOf_of_member {descriptor : EnumDescriptor} {number : Int}
    (member : descriptor.Member number) : ∃ name, descriptor.nameOf number = some name := by
  obtain ⟨entry, known, same⟩ := List.mem_map.mp member
  unfold EnumDescriptor.nameOf
  cases found : descriptor.values.find? fun value => value.2 = number with
  | none => exact absurd (List.find?_eq_none.mp found entry known) (by simpa using same)
  | some value => exact ⟨value.1, rfl⟩

/-- The name of a value names its number, as no other value has that name. -/
theorem EnumDescriptor.findValueByName_of_nameOf {descriptor : EnumDescriptor} {number : Int}
    {name : String} (named : descriptor.nameOf number = some name) :
    descriptor.findValueByName name = some number := by
  obtain ⟨value, found, rfl⟩ := Option.map_eq_some_iff.mp named
  have same : value.2 = number := by simpa using List.find?_some found
  obtain ⟨front, back, shape⟩ := List.append_of_mem (List.mem_of_find?_eq_some found)
  have distinct := descriptor.names_nodup
  unfold EnumDescriptor.findValueByName
  rw [List.lookup_eq_some_iff]
  refine ⟨front, back, by rw [shape, ← same], ?_⟩
  intro entry before
  rw [shape, List.map_append, List.map_cons] at distinct
  have apart := (List.nodup_append.mp distinct).2.2 entry.1 (List.mem_map_of_mem before) value.1
    List.mem_cons_self
  simpa using Ne.symm apart

/-- A string comes back if V8 keeps its NUL characters. -/
theorem asciiValue_iff (v8 : V8) {value : String} (ascii : IsAscii value) :
    v8.asciiValue (.string value) = value ↔
      (HasNul value → v8.asciiValue (.string value) = value) := by
  constructor
  · exact fun same _ => same
  · intro kept
    by_cases nul : HasNul value
    · exact kept nul
    · apply v8.asciiValue_string
      intro char member
      have positive : char.toNat ≠ 0 := fun zero => nul ⟨char, member, zero⟩
      exact ⟨Nat.pos_of_ne_zero positive, ascii char member⟩

variable (ι) in
/-- An integer comes back. -/
theorem int_toProto (v8 : V8) (freed : FreedMemory) (type : IntType) {value : Int}
    (inRange : type.InRange value) (small : value.natAbs ≤ 2 ^ 53) :
    scalarToProto v8 freed (.int type : FieldType ι)
        (scalarToJs (.int type : FieldType ι) (.int value)) = some (.int value) := by
  have number : scalarToJs (.int type : FieldType ι) (.int value) = .number value := by
    cases type <;> simp [scalarToJs, numberNew_of_le small]
  rw [number]
  simp [scalarToProto, v8.numberValue_number, IntType.ofDouble, inRange]

variable (ι) in
/-- An enumeration comes back if the memory of its name still gives its number. -/
theorem enum_toProto_iff (v8 : V8) (freed : FreedMemory) {descriptor : EnumDescriptor}
    {number : Int} (member : descriptor.Member number) :
    scalarToProto v8 freed (.enum descriptor : FieldType ι)
        (scalarToJs (.enum descriptor : FieldType ι) (.enum number)) = some (.enum number) ↔
      ∃ name ∈ descriptor.nameOf number,
        descriptor.findValueByName (freed [] (v8.asciiValue (.string name))) = some number := by
  obtain ⟨name, named⟩ := EnumDescriptor.nameOf_of_member member
  simp [scalarToProto, scalarToJs, named, enumToProto]

/-- The object of a value is defined. -/
theorem valueWithLists_ne_undefined (schema : Schema ι) {type : FieldType ι} {value : Value}
    (typed : ValueHasType schema type value) : valueWithLists schema type value ≠ .undefined := by
  cases value with
  | message fields =>
      cases type <;> first | exact typed.elim | simp [valueWithLists]
  | string value => cases type <;> first | exact typed.elim | simp [valueWithLists, scalarToJs]
  | int value =>
      cases type with
      | int type => cases type <;> simp [valueWithLists, scalarToJs]
      | _ => exact typed.elim
  | bool value => cases type <;> first | exact typed.elim | simp [valueWithLists, scalarToJs]
  | enum number =>
      cases type with
      | enum descriptor =>
          obtain ⟨name, named⟩ := EnumDescriptor.nameOf_of_member typed
          simp [valueWithLists, scalarToJs, named]
      | _ => exact typed.elim

/-! ### The round trip -/

theorem elementsToJs_length (schema : Schema ι) (type : FieldType ι) (elements : List Value) :
    (elementsToJs schema type elements).length = elements.length := by
  induction elements with
  | nil => rfl
  | cons element elements inductionHypothesis =>
      rw [elementsToJs, List.length_cons, inductionHypothesis, List.length_cons]

theorem elementsWithLists_length (schema : Schema ι) (type : FieldType ι)
    (elements : List Value) :
    (elementsWithLists schema type elements).length = elements.length := by
  induction elements with
  | nil => rfl
  | cons element elements inductionHypothesis =>
      rw [elementsWithLists, List.length_cons, inductionHypothesis, List.length_cons]

theorem fieldsToJs_length (schema : Schema ι) (position : Nat) {fields : List (Field ι)}
    {lists : List (List Value)} (typed : FieldsHaveType schema fields lists) :
    (fieldsToJs schema position fields lists).length = fields.length := by
  induction fields generalizing position lists with
  | nil => cases lists <;> rfl
  | cons field fields inductionHypothesis =>
      cases lists with
      | nil => exact typed.elim
      | cons elements rest =>
          rw [fieldsToJs, List.length_cons, inductionHypothesis _ typed.2.2, List.length_cons]

/-- The object of a message holds the properties of its fields. -/
theorem valueToJs_message (schema : Schema ι) {type : ι} {fields : List (List Value)}
    (typed : FieldsHaveType schema (schema.fields type) fields) :
    valueToJs schema (.message type) (.message fields) =
      .object (fieldsToJs schema 0 (schema.fields type) fields) := by
  apply congrArg JsValue.object
  apply toArray_construct (schema.names_nodup type)
  rw [List.length_map, fieldsToJs_length schema 0 typed]

theorem elementsWithLists_defined (schema : Schema ι) {type : FieldType ι}
    {elements : List Value} (typed : ElementsHaveType schema type elements) :
    ∀ value ∈ elementsWithLists schema type elements, value ≠ .undefined := by
  induction elements with
  | nil => exact fun value member => absurd member List.not_mem_nil
  | cons element elements inductionHypothesis =>
      intro value member
      rw [elementsWithLists, List.mem_cons] at member
      rcases member with rfl | later
      · exact valueWithLists_ne_undefined schema typed.1
      · exact inductionHypothesis typed.2 value later

/-- `ToProto` of a property that is defined, of a field that is not repeated. -/
theorem fieldsToProto_singular (schema : Schema ι) (v8 : V8) (freed : FreedMemory)
    (position : Nat) {field : Field ι} (singular : field.isRepeated = false)
    {property : JsValue} (defined : property ≠ .undefined) (fields : List (Field ι))
    (properties : List JsValue) :
    fieldsToProto schema v8 freed position (field :: fields) (property :: properties) = do
      let value ← valueToProto schema v8 (freed.below position 0) field.type property
      return [value] :: (← fieldsToProto schema v8 freed (position + 1) fields properties) := by
  cases property with
  | undefined => exact absurd rfl defined
  | array elements => simp [fieldsToProto, singular]
  | _ => rfl

theorem bind_return_eq_some_iff {α β : Type} (wrap : α → β) (injective : wrap.Injective)
    (computation : Option α) (value : α) :
    (do return wrap (← computation)) = some (wrap value) ↔ computation = some value := by
  cases computation <;> simp [injective.eq_iff]

/-- A computation that puts two results together. -/
theorem bind_cons_eq_some_iff {α : Type} (first : Option α) (rest : Option (List α)) (head : α)
    (tail : List α) :
    (do return (← first) :: (← rest)) = some (head :: tail) ↔
      first = some head ∧ rest = some tail := by
  cases first <;> cases rest <;> simp

/-- **One field**: its property is the list and gives the elements back exactly if the
elements do and the field is kept. -/
theorem field_iff (schema : Schema ι) (v8 : V8) (freed : FreedMemory) (position : Nat)
    {field : Field ι} {elements : List Value} (fields : List (Field ι))
    (short : field.isRepeated = false → elements.length ≤ 1)
    (typed : ElementsHaveType schema field.type elements) (properties : List JsValue)
    (rest : List (List Value)) :
    (propertyToJs position field.isRepeated (elementsToJs schema field.type elements) =
          propertyWithList field.isRepeated (elementsWithLists schema field.type elements) ∧
        fieldsToProto schema v8 freed position (field :: fields)
            (propertyWithList field.isRepeated (elementsWithLists schema field.type elements) ::
              properties) = some (elements :: rest)) ↔
      (field.isRepeated = true → elements = [] ∨ position = 0 ∧ elements.length = 1) ∧
        (elementsToJs schema field.type elements = elementsWithLists schema field.type elements ∧
          elementsToProto schema v8 freed position 0 field.type
            (elementsWithLists schema field.type elements) = some elements) ∧
        fieldsToProto schema v8 freed (position + 1) fields properties = some rest := by
  cases elements with
  | nil =>
      have skipped := bind_return_eq_some_iff (List.cons ([] : List Value)) List.cons_injective
        (fieldsToProto schema v8 freed (position + 1) fields properties) rest
      simp only [propertyToJs, propertyWithList, elementsToJs, elementsWithLists, fieldsToProto,
        elementsToProto, skipped]
      simp
  | cons element elements =>
      cases repeated : field.isRepeated with
      | true =>
          have arrays := repeatedToJs_eq_iff position
            ((elementsToJs_length schema field.type (element :: elements)).trans
              (elementsWithLists_length schema field.type (element :: elements)).symm)
            (by simp [elementsWithLists]) (elementsWithLists_defined schema typed)
          rw [elementsWithLists_length] at arrays
          simp only [elementsToJs, elementsWithLists, propertyToJs, propertyWithList, if_true,
            fieldsToProto, repeated] at arrays ⊢
          rw [arrays, bind_cons_eq_some_iff]
          simp [and_assoc]
      | false =>
          have alone : elements = [] := by
            have := short repeated
            rw [List.length_cons] at this
            exact List.length_eq_zero_iff.mp (by omega)
          subst alone
          have defined := valueWithLists_ne_undefined schema typed.1
          simp only [elementsToJs, elementsWithLists, propertyToJs, propertyWithList,
            Bool.false_eq_true, if_false, elementsToProto]
          rw [fieldsToProto_singular schema v8 freed position repeated defined]
          generalize valueToProto schema v8 (freed.below position 0) field.type
            (valueWithLists schema field.type element) = value
          cases value <;> cases fieldsToProto schema v8 freed (position + 1) fields properties <;>
            simp [and_assoc]

mutual

theorem value_iff (schema : Schema ι) (v8 : V8) (freed : FreedMemory) (type : FieldType ι) :
    ∀ value, ValueHasType schema type value →
      ((valueToJs schema type value = valueWithLists schema type value ∧
          valueToProto schema v8 freed type (valueWithLists schema type value) = some value) ↔
        ValueKept schema v8 freed type value)
  | .message fields, typed => by
      cases type with
      | message type =>
          have inside := fields_iff schema v8 freed 0 (schema.fields type) fields typed
          have whole := bind_return_eq_some_iff Value.message
            (fun _ _ same => Value.message.inj same)
            (fieldsToProto schema v8 freed 0 (schema.fields type)
              (fieldsWithLists schema (schema.fields type) fields)) fields
          rw [valueToJs_message schema typed, valueWithLists, ValueKept, ← inside, valueToProto,
            whole, JsValue.object.injEq]
      | _ => exact typed.elim
  | .string value, typed => by
      cases type with
      | string =>
          rw [ValueKept, ← asciiValue_iff v8 typed]
          simp [valueToJs, valueWithLists, valueToProto, scalarToJs, scalarToProto]
      | _ => exact typed.elim
  | .int value, typed => by
      cases type with
      | int type =>
          have back := int_toProto ι v8 freed type typed.1 typed.2
          simp [valueToJs, valueWithLists, valueToProto, ValueKept, back]
      | _ => exact typed.elim
  | .bool value, typed => by
      cases type with
      | bool =>
          simp [valueToJs, valueWithLists, valueToProto, scalarToJs, scalarToProto, booleanValue,
            ValueKept]
      | _ => exact typed.elim
  | .enum number, typed => by
      cases type with
      | enum descriptor =>
          have back := enum_toProto_iff ι v8 freed typed
          rw [ValueKept, ← back]
          simp [valueToJs, valueWithLists, valueToProto]
      | _ => exact typed.elim

theorem fields_iff (schema : Schema ι) (v8 : V8) (freed : FreedMemory) (position : Nat)
    (fields : List (Field ι)) :
    ∀ lists, FieldsHaveType schema fields lists →
      ((fieldsToJs schema position fields lists = fieldsWithLists schema fields lists ∧
          fieldsToProto schema v8 freed position fields (fieldsWithLists schema fields lists) =
            some lists) ↔
        FieldsKept schema v8 freed position fields lists)
  | [], typed => by
      cases fields with
      | nil => simp [fieldsToJs, fieldsWithLists, fieldsToProto, FieldsKept]
      | cons field fields => exact typed.elim
  | elements :: rest, typed => by
      cases fields with
      | nil => exact typed.elim
      | cons field fields =>
          have here := elements_iff schema v8 freed position 0 field.type elements typed.2.1
          have there := fields_iff schema v8 freed (position + 1) fields rest typed.2.2
          have one := field_iff schema v8 freed position fields typed.1 typed.2.1
            (fieldsWithLists schema fields rest) rest
          rw [FieldsKept, ← here, ← there]
          simp only [fieldsToJs, fieldsWithLists, List.cons.injEq]
          rw [and_right_comm, one]
          simp only [and_assoc, and_comm, and_left_comm]

theorem elements_iff (schema : Schema ι) (v8 : V8) (freed : FreedMemory)
    (position index : Nat) (type : FieldType ι) :
    ∀ elements, ElementsHaveType schema type elements →
      ((elementsToJs schema type elements = elementsWithLists schema type elements ∧
          elementsToProto schema v8 freed position index type
            (elementsWithLists schema type elements) = some elements) ↔
        ElementsKept schema v8 freed position index type elements)
  | [], _ => by simp [elementsToJs, elementsWithLists, elementsToProto, ElementsKept]
  | element :: elements, typed => by
      have here := value_iff schema v8 (freed.below position index) type element typed.1
      have there := elements_iff schema v8 freed position (index + 1) type elements typed.2
      rw [ElementsKept, ← here, ← there]
      simp only [elementsToJs, elementsWithLists, elementsToProto, List.cons.injEq]
      rw [bind_cons_eq_some_iff]
      exact and_and_and_comm

end

/-- The condition for the round trip of a message. -/
def Schema.Message.Kept {schema : Schema ι} {type : ι} (message : schema.Message type) (v8 : V8)
    (freed : FreedMemory) : Prop :=
  ValueKept schema v8 freed (.message type) message.value

/-- **The round trip**: a message comes back, from an object with the lists of its elements,
exactly if its only repeated fields with elements are the first of their messages and have
one element, and what is read of the released names still names its enumerations. -/
theorem Schema.Message.roundTrips_iff (schema : Schema ι) (type : ι)
    (message : schema.Message type) (v8 : V8) (freed : FreedMemory) :
    message.RoundTrips v8 freed ↔ message.Kept v8 freed := by
  have both := value_iff schema v8 freed (.message type) message.value message.hasType
  unfold Schema.Message.RoundTrips Schema.Message.Kept Schema.parse Schema.serialize
  rw [← both]
  constructor
  · rintro ⟨lists, back⟩
    rw [lists] at back
    exact ⟨lists, back⟩
  · rintro ⟨lists, back⟩
    exact ⟨lists, by rw [lists]; exact back⟩

/-- V8 as it converts strings, integers and booleans. -/
def plainV8 : V8 where
  asciiValue
    | .string value => value
    | .boolean true => "true"
    | .boolean false => "false"
    | .undefined => "undefined"
    | .number value => toString value
    | .array _ => ""
    | .object _ => "[object Object]"
  numberValue
    | .number value => some value
    | .boolean true => some 1
    | .boolean false => some 0
    | _ => none
  asciiValue_string := fun _ _ => rfl
  numberValue_number := fun _ => rfl

def callAt (index : Int) : Value :=
  .message [[.enum 0], [.int index], [], [], [], [], [], [], [.string "555"], [], [], [], []]

/-- The answer to GET_CURRENT_CALLS with two calls. -/
def twoCalls : rilSchema.Message .rspGetCurrentCalls where
  value := .message [[callAt 1, callAt 2]]
  hasType := by
    simp [ValueHasType, FieldsHaveType, ElementsHaveType, rilSchema, RilMessage.fields, callAt,
      singular, repeated, IntType.InRange, EnumDescriptor.Member, rilCallState, IsAscii]

/-- **Two calls are lost**: the second one takes the place of the first, and neither the
object nor the message is right, though no memory is read wrongly. -/
theorem twoCalls_lost :
    rilSchema.parse .rspGetCurrentCalls twoCalls.value ≠
        valueWithLists rilSchema (.message .rspGetCurrentCalls) twoCalls.value ∧
      rilSchema.serialize plainV8 (fun _ name => name) .rspGetCurrentCalls
        (rilSchema.parse .rspGetCurrentCalls twoCalls.value) ≠ some twoCalls.value := by
  have object : rilSchema.parse .rspGetCurrentCalls twoCalls.value = _ :=
    valueToJs_message rilSchema twoCalls.hasType
  rw [object]
  constructor
  · intro lists
    cases lists
  · intro back
    cases back

end RildHisi.MockRil
