import RildHisi.MockRil.ExpectTag
import RildHisi.MockRil.MessageWriting

/-!
Owns what the generated classes read of a message that they wrote: read into another message
it is merged into that, and read into a new one it is the message itself.
-/

namespace RildHisi.MockRil.Generated

open RildHisi.Library

variable {ι : Type} {stream : CodedStream} {classes : Classes ι} {depth : ℕ}
  {readMessage : MessageReader stream ι} {fields : List (Field ι)}

/-! ### Merging an element -/

/-- An element as it is merged into those of its field. -/
def mergedElement {υ : Type} (classes : Classes ι) (field : Field ι) (into : List (Proto υ))
    (value : Proto υ) : Proto υ :=
  match field.type with
  | .message type =>
      mergeFrom classes type ((currentElement field into).getD (classes.defaultInstance type)) value
  | _ => value

theorem mergeElements_cons {υ : Type} (field : Field ι) (value : Proto υ)
    (values into : List (Proto υ)) :
    mergeElements classes field (value :: values) into =
      mergeElements classes field values
        (withElement field.isRepeated into (mergedElement classes field into value)) := rfl

/-- The contents with the elements of a field changed. -/
def Contents.modifyField {υ : Type} (contents : Contents υ) (position : ℕ)
    (change : List (Proto υ) → List (Proto υ)) : Contents υ :=
  { contents with fields := contents.fields.modify position change }

/-- An element goes where those of its field are merged into. -/
theorem store_mergedElement {υ : Type} (contents : Contents υ) (position : ℕ) (field : Field ι)
    (value : Proto υ) :
    contents.store position field.isRepeated
        (mergedElement classes field (contents.elements position) value) =
      contents.modifyField position fun into =>
        withElement field.isRepeated into (mergedElement classes field into value) := by
  unfold Contents.store Contents.modifyField Contents.elements
  congr 1
  apply List.ext_getElem?
  intro index
  rw [List.getElem?_modify, List.getElem?_modify, List.getD_eq_getElem?_getD]
  by_cases same : position = index
  · subst same
    cases contents.fields[position]? <;> rfl
  · simp only [if_neg same]

theorem modifyField_mergeElements_cons {υ : Type} (contents : Contents υ) (position : ℕ)
    (field : Field ι) (value : Proto υ) (values : List (Proto υ)) :
    contents.modifyField position (mergeElements classes field (value :: values)) =
      (contents.store position field.isRepeated
        (mergedElement classes field (contents.elements position) value)).modifyField position
          (mergeElements classes field values) := by
  rw [store_mergedElement]
  unfold Contents.modifyField
  rw [List.modify_modify_eq]
  rfl

theorem modifyField_mergeElements_nil {υ : Type} (contents : Contents υ) (position : ℕ)
    (field : Field ι) :
    contents.modifyField position (mergeElements classes field []) = contents := by
  have nothing : mergeElements (υ := υ) classes field [] = id := rfl
  rw [Contents.modifyField, nothing, List.modify_id]

/-! ### Reading an element -/

/-- A reader of messages merges what fits. -/
def MergesMessages (stream : CodedStream) (classes : Classes ι) (depth : ℕ)
    (readMessage : MessageReader stream ι) : Prop :=
  ∀ type into value rest, MessageFits stream classes depth type value →
    (valueBytes stream classes (.message type) value).length < 2 ^ 31 →
    readMessage type into (valueBytes stream classes (.message type) value ++ rest) =
      some (mergeFrom classes type into value, rest)

theorem readValue_scalar {type : FieldType ι} {value : Proto stream.Unknown}
    (fits : ScalarFits type value) (small : (scalarBytes stream type value).length < 2 ^ 31)
    (current : Option (Proto stream.Unknown)) (rest : List UInt8) :
    readValue stream classes readMessage type current (scalarBytes stream type value ++ rest) =
      some (value, rest) := by
  cases type <;> cases value <;> first | exact fits.elim | skip
  case string.string bytes =>
    rw [scalarBytes, List.length_append] at small
    rw [readValue, scalarBytes, List.append_assoc, stream.readLengthDelimited_write _ _ (by omega)]
    rfl
  case int.number type value =>
    have inRange : (Primitive.int type).InRange value := fits
    rw [readValue, scalarBytes, stream.readPrimitive_write _ _ _ inRange]
    rfl
  case bool.number value =>
    have inRange : Primitive.bool.InRange value := fits
    rw [readValue, scalarBytes, stream.readPrimitive_write _ _ _ inRange]
    rfl
  case enum.number descriptor value =>
    rw [readValue, scalarBytes, stream.readPrimitive_write _ _ _ fits.2]
    rfl

theorem readValue_element (merges : MergesMessages stream classes depth readMessage)
    {field : Field ι} {value : Proto stream.Unknown}
    (fits : ValueFits stream classes depth field.type value)
    (small : (valueBytes stream classes field.type value).length < 2 ^ 31)
    (into : List (Proto stream.Unknown)) (rest : List UInt8) :
    readValue stream classes readMessage field.type (currentElement field into)
        (valueBytes stream classes field.type value ++ rest) =
      some (mergedElement classes field into value, rest) := by
  unfold mergedElement
  cases typed : field.type with
  | message type =>
      rw [typed] at fits small
      exact merges type _ value rest fits small
  | string =>
      rw [typed] at fits small
      exact readValue_scalar fits small _ rest
  | int type =>
      rw [typed] at fits small
      exact readValue_scalar fits small _ rest
  | bool =>
      rw [typed] at fits small
      exact readValue_scalar fits small _ rest
  | enum descriptor =>
      rw [typed] at fits small
      exact readValue_scalar fits small _ rest

/-- What fits is not refused. -/
theorem refusedNumber_element {field : Field ι} {value : Proto stream.Unknown}
    (fits : ValueFits stream classes depth field.type value) (into : List (Proto stream.Unknown)) :
    refusedNumber field.type (mergedElement classes field into value) = none := by
  unfold mergedElement
  cases typed : field.type with
  | enum descriptor =>
      rw [typed] at fits
      cases value with
      | message fields unknown => rfl
      | string bytes => rfl
      | number value => exact if_pos fits.1
  | message type => rfl
  | string => rfl
  | int type => rfl
  | bool => rfl

/-- A turn reads an element behind its tag and merges it into its field. -/
theorem mergeTurn_element (merges : MergesMessages stream classes depth readMessage)
    {position : ℕ} {field : Field ι} (present : fields[position]? = some field)
    (below : position < 15) {value : Proto stream.Unknown}
    (fits : ValueFits stream classes depth field.type value)
    (small : (valueBytes stream classes field.type value).length < 2 ^ 31)
    (contents : Contents stream.Unknown) (rest : List UInt8) :
    mergeTurn (.never stream) classes depth readMessage fields (contents, none)
        (stream.writeTag (fieldTag position field) ++
          (valueBytes stream classes field.type value ++ rest)) =
      some (.goesOn (contents.store position field.isRepeated
        (mergedElement classes field (contents.elements position) value), none) rest) := by
  have positive := Nat.pos_of_ne_zero (fieldTag_ne_zero position field)
  have bound : fieldTag position field < 2 ^ 32 := lt_trans (fieldTag_lt below field) (by decide)
  rw [mergeTurn_tag, stream.readTag_write _ _ positive bound,
    if_neg (fieldTag_ne_zero position field), switchField_fieldTag _ (position, field) present]
  simp only [readField, readValue_element merges fits small, refusedNumber_element fits,
    Option.bind_eq_bind, Option.bind_some, afterField_never]

/-! ### Reading unknown fields -/

/-- A turn reads a field that the class does not take. -/
theorem mergeTurn_skipped {unknown : stream.Unknown} (readable : stream.Readable depth unknown)
    (positive : 0 < stream.unknownTag unknown) (small : stream.unknownTag unknown < 2 ^ 32)
    (skips : Skips fields (stream.unknownTag unknown)) (contents : Contents stream.Unknown)
    (rest : List UInt8) :
    mergeTurn (.never stream) classes depth readMessage fields (contents, none)
        (stream.writeTag (stream.unknownTag unknown) ++ (stream.writeUnknown unknown ++ rest)) =
      some (.goesOn (contents.addUnknown unknown, none) rest) := by
  have handled : handleUninterpreted (ι := ι) stream depth contents (stream.unknownTag unknown)
      (stream.writeUnknown unknown ++ rest) =
        some (.goesOn (contents.addUnknown unknown, none) rest) := by
    rw [handleUninterpreted, if_neg skips.1, stream.skipField_write _ _ _ readable]
    rfl
  rw [mergeTurn_tag, stream.readTag_write _ _ positive small, if_neg (Nat.ne_of_gt positive),
    switchField]
  cases found : findField fields (tagFieldNumber (stream.unknownTag unknown)) with
  | none => exact handled
  | some place =>
      obtain ⟨position, field⟩ := place
      obtain ⟨other, unpacked⟩ := skips.2 position field found
      simp only [if_neg other]
      cases packed : packedType field with
      | none => exact handled
      | some type =>
          have differs := unpacked.resolve_left (by rw [packed]; simp)
          exact (if_neg differs).trans handled

/-- A turn reads a number that an enumeration does not have. -/
theorem mergeTurn_refused {position : ℕ} {field : Field ι} {descriptor : EnumDescriptor}
    {value : Int} (present : fields[position]? = some field) (below : position < 15)
    (isEnum : field.type = .enum descriptor) (inRange : Primitive.enum.InRange value)
    (stranger : ¬ descriptor.Member value) (contents : Contents stream.Unknown)
    (rest : List UInt8) :
    mergeTurn (.never stream) classes depth readMessage fields (contents, none)
        (stream.writeTag (stream.unknownTag (stream.varintField (position + 1) value)) ++
          (stream.writeUnknown (stream.varintField (position + 1) value) ++ rest)) =
      some (.goesOn (contents.addUnknown (stream.varintField (position + 1) value), none)
        rest) := by
  have positive := Nat.pos_of_ne_zero (fieldTag_ne_zero position field)
  have bound : fieldTag position field < 2 ^ 32 := lt_trans (fieldTag_lt below field) (by decide)
  have tag : stream.unknownTag (stream.varintField (position + 1) value) =
      fieldTag position field := by
    rw [stream.varintField_tag, fieldTag, isEnum]
    rfl
  have read : readValue stream classes readMessage field.type
      (currentElement field (contents.elements position))
        (stream.writeUnknown (stream.varintField (position + 1) value) ++ rest) =
      some (.number value, rest) := by
    rw [isEnum, readValue, stream.readPrimitive_varintField _ _ _ inRange]
    rfl
  have refused : refusedNumber field.type (Proto.number (υ := stream.Unknown) value) =
      some value := by
    rw [isEnum]
    exact if_neg stranger
  rw [tag, mergeTurn_tag, stream.readTag_write _ _ positive bound,
    if_neg (fieldTag_ne_zero position field),
    switchField_fieldTag _ (position, field) present]
  simp only [readField, read, refused, Option.bind_eq_bind, Option.bind_some, afterField_never]

/-- The loop goes over the unknown fields. -/
theorem readLoop_unknown (takesBytes : TakesBytes readMessage) {unknown : List stream.Unknown}
    (short : fields.length ≤ 15)
    (fit : ∀ field ∈ unknown, UnknownFits stream depth fields field)
    (contents : Contents stream.Unknown) (rest : List UInt8) :
    readLoop (mergeTurn (.never stream) classes depth readMessage fields) (contents, none)
        (unknownBytes stream unknown ++ rest) =
      readLoop (mergeTurn (.never stream) classes depth readMessage fields)
        (⟨contents.fields, contents.unknown ++ unknown⟩, none) rest := by
  have shortens := shortens_mergeTurn takesBytes classes depth fields (.never stream)
  induction unknown generalizing contents with
  | nil => rw [List.append_nil]; rfl
  | cons field unknown inductionHypothesis =>
      have turn : mergeTurn (.never stream) classes depth readMessage fields (contents, none)
          (stream.writeTag (stream.unknownTag field) ++ (stream.writeUnknown field ++
            (unknownBytes stream unknown ++ rest))) =
          some (.goesOn (contents.addUnknown field, none)
            (unknownBytes stream unknown ++ rest)) := by
        cases fit field List.mem_cons_self with
        | skipped _ readable positive small skips =>
            exact mergeTurn_skipped readable positive small skips contents _
        | refused position field' descriptor value present isEnum inRange stranger =>
            have inside := (List.getElem?_eq_some_iff.mp present).1
            exact mergeTurn_refused present (by omega) isEnum inRange stranger contents _
      have others : ∀ other ∈ unknown, UnknownFits stream depth fields other :=
        fun other member => fit other (List.mem_cons_of_mem _ member)
      rw [unknownBytes, List.flatMap_cons, List.append_assoc, List.append_assoc]
      refine (readLoop_of_goesOn shortens turn).trans ?_
      rw [inductionHypothesis others, Contents.addUnknown, List.append_assoc, List.singleton_append]

/-! ### Reading a message -/

section

variable (takesBytes : TakesBytes readMessage)
  (merges : MergesMessages stream classes depth readMessage)

include takesBytes merges

/-- The loop goes over the elements of a field, and has merged them. -/
theorem readLoop_elements {position : ℕ} {field : Field ι}
    (present : fields[position]? = some field) (below : position < 15)
    {values : List (Proto stream.Unknown)}
    (fit : ElementsFit stream classes depth field.type values)
    (small : (elementsBytes stream classes (fieldTag position field) field.type values).length <
      2 ^ 31) (contents : Contents stream.Unknown) (rest : List UInt8) :
    readLoop (mergeTurn (.never stream) classes depth readMessage fields) (contents, none)
        (elementsBytes stream classes (fieldTag position field) field.type values ++ rest) =
      readLoop (mergeTurn (.never stream) classes depth readMessage fields)
        (contents.modifyField position (mergeElements classes field values), none) rest := by
  have shortens := shortens_mergeTurn takesBytes classes depth fields (.never stream)
  induction values generalizing contents with
  | nil => rw [modifyField_mergeElements_nil, elementsBytes, List.nil_append]
  | cons value values inductionHypothesis =>
      obtain ⟨first, others⟩ := (elementsFit_cons _ value values depth).mp fit
      rw [elementsBytes_cons, List.length_append, List.length_append] at small
      rw [modifyField_mergeElements_cons, elementsBytes_cons, List.append_assoc, List.append_assoc,
        readLoop_of_goesOn shortens
          (mergeTurn_element merges present below first (by omega) contents _)]
      exact inductionHypothesis others (by omega) _

/-- The loop goes over the fields from a position on. -/
theorem readLoop_fields {position : ℕ} {behind : List (Field ι)}
    (suffix : fields.drop position = behind) (short : fields.length ≤ 15)
    {values : List (List (Proto stream.Unknown))}
    (fit : FieldsFit stream classes depth behind values)
    (small : (fieldsBytes stream classes position behind values).length < 2 ^ 31)
    (contents : Contents stream.Unknown) (rest : List UInt8) :
    readLoop (mergeTurn (.never stream) classes depth readMessage fields) (contents, none)
        (fieldsBytes stream classes position behind values ++ rest) =
      readLoop (mergeTurn (.never stream) classes depth readMessage fields)
        (⟨mergeFields classes position behind values contents.fields, contents.unknown⟩, none)
          rest := by
  induction behind generalizing position values contents with
  | nil => rw [fieldsBytes, mergeFields, List.nil_append] <;> simp
  | cons field behind inductionHypothesis =>
      cases values with
      | nil => exact fit.elim
      | cons elements values =>
          have inside : position < fields.length := by
            by_contra outside
            rw [List.drop_eq_nil_of_le (by omega)] at suffix
            cases suffix
          rw [List.drop_eq_getElem_cons inside] at suffix
          obtain ⟨here, next⟩ := List.cons_eq_cons.mp suffix
          have present : fields[position]? = some field := by
            rw [List.getElem?_eq_getElem inside, here]
          rw [fieldsBytes, List.length_append] at small
          rw [fieldsBytes, mergeFields, List.append_assoc,
            readLoop_elements takesBytes merges present (by omega) fit.2.1 (by omega),
            inductionHypothesis next fit.2.2 (by omega)]
          rfl

/-- The loop goes over a message of the class, and has merged it. -/
theorem readLoop_message {type : ι} {value : Proto stream.Unknown}
    (fits : MessageFits stream classes (depth + 1) type value)
    (small : (messageBytes stream classes type value).length < 2 ^ 31)
    (into : Proto stream.Unknown) (rest : List UInt8) :
    readLoop (mergeTurn (.never stream) classes depth readMessage (classes.fields type))
        (.ofProto into, none) (messageBytes stream classes type value ++ rest) =
      readLoop (mergeTurn (.never stream) classes depth readMessage (classes.fields type))
        (.ofProto (mergeFrom classes type into value), none) rest := by
  have short := classes.fields_length type
  obtain ⟨levels, fields, unknown, same, rfl, fieldsFit, unknownFit⟩ := messageFits_iff.mp fits
  obtain rfl := Nat.succ.inj same
  rw [messageBytes, List.length_append] at small
  rw [messageBytes, List.append_assoc, mergeFrom,
    readLoop_fields takesBytes merges List.drop_zero short fieldsFit (by omega),
    readLoop_unknown takesBytes short unknownFit]
  rfl

end

/-- At the end of the bytes the loop returns. -/
theorem readLoop_nil (contents : Contents stream.Unknown) :
    readLoop (mergeTurn (.never stream) classes depth readMessage fields) (contents, none) [] =
      some (contents, true) := by
  apply readLoop_of_ends
  rw [mergeTurn_tag, stream.readTag_nil]
  rfl

theorem mergesMessages_readMessageNoVirtual
    {merge : ι → Proto stream.Unknown → List UInt8 → Option (Merged stream)}
    (merges : ∀ type into value, MessageFits stream classes depth type value →
      (messageBytes stream classes type value).length < 2 ^ 31 →
      merge type into (messageBytes stream classes type value) =
        some (.ofProto (mergeFrom classes type into value), true)) :
    MergesMessages stream classes depth (readMessageNoVirtual stream merge) := by
  intro type into value rest fits small
  rw [valueBytes, List.length_append] at small
  have size := messageBytes_length depth type value fits (by omega)
  rw [readMessageNoVirtual, valueBytes, ← size, List.append_assoc,
    stream.readLengthDelimited_write _ _ (by omega)]
  simp only [merges type into value fits (by omega), Option.bind_eq_bind, Option.bind_some, if_true]
  obtain ⟨levels, fields, unknown, -, rfl, -⟩ := messageFits_iff.mp fits
  rw [mergeFrom]
  rfl

theorem mergesMessages_mergePartialFromCodedStream (depth : ℕ) :
    MergesMessages stream classes depth
      (readMessageNoVirtual stream
        (mergePartialFromCodedStream (.never stream) classes depth)) := by
  apply mergesMessages_readMessageNoVirtual
  induction depth with
  | zero =>
      intro type into value fits
      exact (messageFits_iff.mp fits).elim fun levels rest => by simp at rest
  | succ depth inductionHypothesis =>
      intro type into value fits small
      have whole := List.append_nil (messageBytes stream classes type value)
      rw [mergePartialFromCodedStream, ← whole,
        readLoop_message (takesBytes_readMessageNoVirtual _)
          (mergesMessages_readMessageNoVirtual inductionHypothesis) fits small, readLoop_nil]

/-- **A message that was written is merged when it is read**, whatever was there before and
whatever comes behind. -/
theorem mergePartialFromCodedStream_append (lookahead : Lookahead stream) (depth : ℕ)
    (type : ι) (into value : Proto stream.Unknown)
    (fits : MessageFits stream classes depth type value)
    (small : (messageBytes stream classes type value).length < 2 ^ 31) (rest : List UInt8) :
    mergePartialFromCodedStream lookahead classes depth type into
        (messageBytes stream classes type value ++ rest) =
      mergePartialFromCodedStream lookahead classes depth type (mergeFrom classes type into value)
        rest := by
  rw [mergePartialFromCodedStream_never]
  cases depth with
  | zero => exact (messageFits_iff.mp fits).elim fun levels rest => by simp at rest
  | succ depth =>
      rw [mergePartialFromCodedStream, mergePartialFromCodedStream]
      exact readLoop_message (takesBytes_readMessageNoVirtual _)
        (mergesMessages_mergePartialFromCodedStream depth) fits small into rest

/-- With enough levels, nothing is read at the end of the bytes. -/
theorem mergePartialFromCodedStream_nil (lookahead : Lookahead stream) (depth : ℕ) (type : ι)
    (into : Proto stream.Unknown) :
    mergePartialFromCodedStream lookahead classes (depth + 1) type into [] =
      some (.ofProto into, true) := by
  rw [mergePartialFromCodedStream_never, mergePartialFromCodedStream]
  exact readLoop_nil _

end RildHisi.MockRil.Generated
