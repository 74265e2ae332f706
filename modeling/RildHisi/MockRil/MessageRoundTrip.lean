import RildHisi.MockRil.GeneratedClasses
import RildHisi.MockRil.MessageReading
import RildHisi.MockRil.WireStream

/-!
Owns the round trips of the generated classes. A message comes back from its bytes; several
messages behind each other are read as their merge; and whatever bytes are accepted, they
are read as a message that fits and that comes back from what is written of it.
-/

namespace RildHisi.MockRil.Generated

open RildHisi.Library

variable {ι : Type} {stream : CodedStream} {classes : Classes ι} {depth : ℕ}

/-! ### Merging into a new message -/

theorem mergeElements_eq {field : Field ι} {values into : List (Proto stream.Unknown)}
    (alone : ∀ value ∈ values, ∀ elements, currentElement field elements = none →
      mergedElement classes field elements value = value)
    (single : field.isRepeated = false → values.length ≤ 1 ∧ (values ≠ [] → into = [])) :
    mergeElements classes field values into = into ++ values := by
  induction values generalizing into with
  | nil =>
      rw [List.append_nil]
      rfl
  | cons value values inductionHypothesis =>
      have others : ∀ other ∈ values, ∀ elements, currentElement field elements = none →
          mergedElement classes field elements other = other :=
        fun other member => alone other (List.mem_cons_of_mem _ member)
      rw [mergeElements_cons]
      cases repeats : field.isRepeated with
      | true =>
          have nothing : currentElement field into = none := if_pos repeats
          rw [alone value List.mem_cons_self into nothing, withElement, if_pos rfl,
            inductionHypothesis others (by rw [repeats]; simp), List.append_assoc,
            List.singleton_append]
      | false =>
          obtain ⟨one, fresh⟩ := single repeats
          obtain rfl := fresh (List.cons_ne_nil _ _)
          obtain rfl : values = [] := by
            rw [List.length_cons] at one
            exact List.eq_nil_of_length_eq_zero (by omega)
          have nothing : currentElement field ([] : List (Proto stream.Unknown)) = none := by
            rw [currentElement, repeats]
            rfl
          rw [alone value List.mem_cons_self [] nothing]
          rfl

theorem modify_append_cons {α : Type*} (front : List α) (value : α) (rest : List α)
    (change : α → α) :
    (front ++ value :: rest).modify front.length change = front ++ change value :: rest :=
  List.modifyTailIdx_add (List.modifyHead change) 0 front (value :: rest)

theorem valueFits_of_mem {type : FieldType ι} {values : List (Proto stream.Unknown)}
    (fit : ElementsFit stream classes depth type values) {value : Proto stream.Unknown}
    (member : value ∈ values) : ValueFits stream classes depth type value := by
  induction values with
  | nil => cases member
  | cons first values inductionHypothesis =>
      obtain ⟨firstFits, others⟩ := (elementsFit_cons type first values depth).mp fit
      rcases List.mem_cons.mp member with rfl | later
      · exact firstFits
      · exact inductionHypothesis others later

section

variable (alone : ∀ type value, MessageFits stream classes depth type value →
  mergeFrom classes type (classes.defaultInstance type) value = value)

include alone

theorem mergedElement_alone {field : Field ι} {value : Proto stream.Unknown}
    (fits : ValueFits stream classes depth field.type value)
    {elements : List (Proto stream.Unknown)} (nothing : currentElement field elements = none) :
    mergedElement classes field elements value = value := by
  unfold mergedElement
  cases typed : field.type with
  | message type =>
      rw [typed] at fits
      rw [nothing]
      exact alone type value fits
  | string => rfl
  | int type => rfl
  | bool => rfl
  | enum descriptor => rfl

theorem mergeFields_fresh {position : ℕ} {fields : List (Field ι)}
    {values front : List (List (Proto stream.Unknown))} (here : front.length = position)
    (fit : FieldsFit stream classes depth fields values) :
    mergeFields classes position fields values (front ++ fields.map fun _ => []) =
      front ++ values := by
  induction fields generalizing position values front with
  | nil =>
      cases values with
      | nil => rfl
      | cons elements values => exact fit.elim
  | cons field fields inductionHypothesis =>
      cases values with
      | nil => exact fit.elim
      | cons elements values =>
          have merged : mergeElements classes field elements [] = elements := by
            rw [mergeElements_eq (fun value member into nothing =>
              mergedElement_alone alone (valueFits_of_mem fit.2.1 member) nothing)
              (fun single => ⟨fit.1 single, fun _ => rfl⟩), List.nil_append]
          have later : mergeFields classes (position + 1) fields values
              (front ++ [elements] ++ fields.map fun _ => []) = front ++ [elements] ++ values :=
            inductionHypothesis (by rw [List.length_append, List.length_singleton, here]) fit.2.2
          rw [List.append_assoc, List.append_assoc, List.singleton_append] at later
          subst here
          rw [mergeFields, List.map_cons, modify_append_cons, merged]
          exact later

end

/-- Merged into a new message, a message is itself. -/
theorem mergeFrom_defaultInstance (depth : ℕ) (type : ι) (value : Proto stream.Unknown)
    (fits : MessageFits stream classes depth type value) :
    mergeFrom classes type (classes.defaultInstance type) value = value := by
  induction depth generalizing type value with
  | zero => exact (messageFits_iff.mp fits).elim fun levels rest => by simp at rest
  | succ depth inductionHypothesis =>
      obtain ⟨levels, fields, unknown, same, rfl, fieldsFit, -⟩ := messageFits_iff.mp fits
      obtain rfl := Nat.succ.inj same
      have fresh : mergeFields classes 0 (classes.fields type) fields
          ([] ++ (classes.fields type).map fun _ => []) = [] ++ fields :=
        mergeFields_fresh inductionHypothesis rfl fieldsFit
      rw [List.nil_append, List.nil_append] at fresh
      rw [mergeFrom, Classes.defaultInstance, Contents.ofProto, fresh, List.nil_append]

/-! ### Several messages behind each other -/

/-- The bytes of messages behind each other. -/
def messagesBytes (stream : CodedStream) (classes : Classes ι) (type : ι)
    (values : List (Proto stream.Unknown)) : List UInt8 :=
  values.flatMap (messageBytes stream classes type)

theorem mergePartialFromCodedStream_messages (lookahead : Lookahead stream) (type : ι)
    (values : List (Proto stream.Unknown))
    (fit : ∀ value ∈ values, MessageFits stream classes (depth + 1) type value)
    (small : ∀ value ∈ values, (messageBytes stream classes type value).length < 2 ^ 31)
    (into : Proto stream.Unknown) :
    mergePartialFromCodedStream lookahead classes (depth + 1) type into
        (messagesBytes stream classes type values) =
      some (.ofProto (values.foldl (mergeFrom classes type) into), true) := by
  induction values generalizing into with
  | nil => exact mergePartialFromCodedStream_nil lookahead depth type into
  | cons value values inductionHypothesis =>
      rw [messagesBytes, List.flatMap_cons, List.foldl_cons,
        mergePartialFromCodedStream_append lookahead _ type into value
          (fit value List.mem_cons_self) (small value List.mem_cons_self)]
      apply inductionHypothesis
      · exact fun other member => fit other (List.mem_cons_of_mem _ member)
      · exact fun other member => small other (List.mem_cons_of_mem _ member)

/-- `IsInitialized` of a message. -/
def Classes.Initialized {υ : Type} (classes : Classes ι) (type : ι) (value : Proto υ) : Prop :=
  isInitialized classes type (.ofProto value) = true

instance {υ : Type} (classes : Classes ι) (type : ι) (value : Proto υ) :
    Decidable (classes.Initialized type value) :=
  inferInstanceAs (Decidable (_ = _))

theorem toProto_foldl_mergeFrom {υ : Type} (classes : Classes ι) (type : ι)
    (values : List (Proto υ)) (into : Proto υ)
    (isMessage : (Contents.ofProto into).toProto = into) :
    (Contents.ofProto (values.foldl (mergeFrom classes type) into)).toProto =
      values.foldl (mergeFrom classes type) into := by
  induction values generalizing into with
  | nil => exact isMessage
  | cons value values inductionHypothesis =>
      apply inductionHypothesis
      cases value with
      | message fields unknown => rw [mergeFrom]; rfl
      | string bytes => rw [mergeFrom] <;> simp [isMessage]
      | number value => rw [mergeFrom] <;> simp [isMessage]

/-- A message is merged into the default instance as it was written. -/
theorem mergePartialFromCodedStream_messageBytes (lookahead : Lookahead stream) {type : ι}
    {value : Proto stream.Unknown}
    (fits : MessageFits stream classes (stream.recursionLimit + 1) type value)
    (small : (messageBytes stream classes type value).length < 2 ^ 31) :
    mergePartialFromCodedStream lookahead classes (stream.recursionLimit + 1) type
        (classes.defaultInstance type) (messageBytes stream classes type value) =
      some (.ofProto value, true) := by
  have alone := mergeFrom_defaultInstance _ type value fits
  have read := mergePartialFromCodedStream_messages lookahead type [value]
    (fun other member => List.mem_singleton.mp member ▸ fits)
    (fun other member => List.mem_singleton.mp member ▸ small) (classes.defaultInstance type)
  have whole : messagesBytes stream classes type [value] = messageBytes stream classes type value :=
    List.flatMap_singleton _ _
  rw [whole] at read
  rw [read, List.foldl_cons, List.foldl_nil, alone]

/-- A message comes back from its bytes. -/
theorem parseFromArray_messageBytes (lookahead : Lookahead stream) {type : ι}
    {value : Proto stream.Unknown}
    (fits : MessageFits stream classes (stream.recursionLimit + 1) type value)
    (small : (messageBytes stream classes type value).length < 2 ^ 31)
    (initialized : classes.Initialized type value) :
    parseFromArray lookahead classes type (messageBytes stream classes type value) =
      some value := by
  have read := mergePartialFromCodedStream_messageBytes lookahead fits small
  have isMessage : (Contents.ofProto value).toProto = value := by
    obtain ⟨levels, fields, unknown, -, rfl, -⟩ := messageFits_iff.mp fits
    rfl
  have accepted : isInitialized classes type (Contents.ofProto value) = true := initialized
  simp [parseFromArray, read, isMessage, accepted]

/-! ### The merge, field by field -/

section

variable {υ : Type} {field : Field ι} {type : ι} {position : ℕ}

theorem mergeElements_append (first second into : List (Proto υ)) :
    mergeElements classes field (first ++ second) into =
      mergeElements classes field second (mergeElements classes field first into) := by
  induction first generalizing into with
  | nil => rfl
  | cons value first inductionHypothesis => exact inductionHypothesis _

theorem mergeElements_nonempty {values : List (Proto υ)} (into : List (Proto υ)) :
    mergeElements classes field values into ≠ [] ↔ values ≠ [] ∨ into ≠ [] := by
  induction values generalizing into with
  | nil => simp [mergeElements]
  | cons value values inductionHypothesis =>
      rw [mergeElements_cons, inductionHypothesis]
      have kept (element : Proto υ) : withElement field.isRepeated into element ≠ [] := by
        rw [withElement]
        split_ifs <;> simp
      simp [kept]

/-- A field that is not repeated keeps the last element, unless it holds messages. -/
theorem mergeElements_last (single : field.isRepeated = false)
    (scalar : ∀ inner, field.type ≠ .message inner) (values : List (Proto υ)) :
    mergeElements classes field values [] = values.getLast?.toList := by
  rcases List.eq_nil_or_concat values with rfl | ⟨front, value, rfl⟩
  · rfl
  · have merged (into : List (Proto υ)) : mergedElement classes field into value = value := by
      unfold mergedElement
      split
      · exact absurd ‹_› (scalar _)
      · rfl
    rw [List.concat_eq_append, mergeElements_append, mergeElements_cons, merged, single,
      List.getLast?_append]
    rfl

/-- The messages of a field that is not repeated are merged. -/
theorem mergeElements_messages (single : field.isRepeated = false) {inner : ι}
    (typed : field.type = .message inner) {values : List (Proto υ)} (set : values ≠ []) :
    mergeElements classes field values [] =
      [values.foldl (mergeFrom classes inner) (classes.defaultInstance inner)] := by
  have element (into : List (Proto υ)) (value : Proto υ) :
      withElement field.isRepeated into (mergedElement classes field into value) =
        [mergeFrom classes inner (into.head?.getD (classes.defaultInstance inner)) value] := by
    simp [withElement, mergedElement, currentElement, single, typed]
  have behind (current : Proto υ) (values : List (Proto υ)) :
      mergeElements classes field values [current] =
        [values.foldl (mergeFrom classes inner) current] := by
    induction values generalizing current with
    | nil => rfl
    | cons value values inductionHypothesis =>
        rw [mergeElements_cons, element, inductionHypothesis]
        rfl
  cases values with
  | nil => exact absurd rfl set
  | cons value values =>
      rw [mergeElements_cons, element, behind]
      rfl

theorem mergeFields_below {fields : List (Field ι)} {values into : List (List (Proto υ))} {index : ℕ}
    (below : index < position) :
    (mergeFields classes position fields values into)[index]? = into[index]? := by
  induction fields generalizing position values into with
  | nil => rw [mergeFields]; simp
  | cons field fields inductionHypothesis =>
      cases values with
      | nil => rw [mergeFields]; simp
      | cons elements values =>
          rw [mergeFields, inductionHypothesis (Nat.lt_succ_of_lt below),
            List.getElem?_modify_ne _ _ (Nat.ne_of_gt below)]

/-- The elements of a field are merged into those of the same field. -/
theorem mergeFields_at {fields : List (Field ι)} {values into : List (List (Proto υ))} {index : ℕ}
    (known : fields[index]? = some field) :
    (mergeFields classes position fields values into)[position + index]? =
      into[position + index]?.map (mergeElements classes field (values.getD index [])) := by
  induction fields generalizing position values into index with
  | nil => simp at known
  | cons first fields inductionHypothesis =>
      cases values with
      | nil =>
          rw [mergeFields]
          · cases into[position + index]? <;> rfl
          · simp
      | cons elements values =>
          rw [mergeFields]
          cases index with
          | zero =>
              obtain rfl : first = field := by simpa using known
              simp only [Nat.add_zero]
              rw [mergeFields_below (Nat.lt_succ_self position), List.getElem?_modify_eq]
              rfl
          | succ index =>
              have known' : fields[index]? = some field := by simpa using known
              rw [show position + (index + 1) = position + 1 + index by omega,
                inductionHypothesis known', List.getElem?_modify_ne _ _ (by omega)]
              rfl

theorem length_mergeFields {fields : List (Field ι)} {values into : List (List (Proto υ))} :
    (mergeFields classes position fields values into).length = into.length := by
  induction fields generalizing position values into with
  | nil => rw [mergeFields]; simp
  | cons field fields inductionHypothesis =>
      cases values with
      | nil => rw [mergeFields]; simp
      | cons elements values => rw [mergeFields, inductionHypothesis, List.length_modify]

theorem length_mergeFrom (into value : Proto υ) :
    (Contents.ofProto (mergeFrom classes type into value)).fields.length =
      (Contents.ofProto into).fields.length := by
  cases value with
  | message fields unknown =>
      rw [mergeFrom]
      exact length_mergeFields
  | string bytes => rw [mergeFrom]; simp
  | number value => rw [mergeFrom]; simp

theorem elements_mergeFrom (known : (classes.fields type)[position]? = some field)
    (into value : Proto υ) (inside : position < (Contents.ofProto into).fields.length) :
    (Contents.ofProto (mergeFrom classes type into value)).elements position =
      mergeElements classes field ((Contents.ofProto value).elements position)
        ((Contents.ofProto into).elements position) := by
  cases value with
  | message fields unknown =>
      rw [mergeFrom]
      have merged : (mergeFields classes 0 (classes.fields type) fields
          (Contents.ofProto into).fields)[0 + position]? = _ := mergeFields_at known
      rw [Nat.zero_add, List.getElem?_eq_getElem inside] at merged
      show (mergeFields classes 0 _ fields _).getD position [] = _
      simp only [Contents.elements, List.getD_eq_getElem?_getD]
      rw [merged, List.getElem?_eq_getElem inside]
      rfl
  | string bytes => rw [mergeFrom] <;> simp [Contents.ofProto, Contents.elements, mergeElements]
  | number value => rw [mergeFrom] <;> simp [Contents.ofProto, Contents.elements, mergeElements]

/-- The elements of a field in all of the messages, merged. -/
theorem elements_foldl_mergeFrom (known : (classes.fields type)[position]? = some field)
    (values : List (Proto υ)) (into : Proto υ)
    (inside : position < (Contents.ofProto into).fields.length) :
    (Contents.ofProto (values.foldl (mergeFrom classes type) into)).elements position =
      mergeElements classes field
        (values.flatMap fun value => (Contents.ofProto value).elements position)
        ((Contents.ofProto into).elements position) := by
  induction values generalizing into with
  | nil => rfl
  | cons value values inductionHypothesis =>
      have still : position <
          (Contents.ofProto (mergeFrom classes type into value)).fields.length := by
        rw [length_mergeFrom]
        exact inside
      rw [List.foldl_cons, inductionHypothesis _ still, elements_mergeFrom known into value inside,
        List.flatMap_cons, mergeElements_append]

end

/-- What the messages behind each other are read as. -/
def mergedMessages {υ : Type} (classes : Classes ι) (type : ι) (values : List (Proto υ)) : Proto υ :=
  values.foldl (mergeFrom classes type) (classes.defaultInstance type)

section

variable {υ : Type} {field : Field ι} {type : ι} {position : ℕ}

/-- What the messages have in a field, one behind the other. -/
def fieldElements (values : List (Proto υ)) (position : ℕ) : List (Proto υ) :=
  values.flatMap fun value => (Contents.ofProto value).elements position

theorem elements_mergedMessages (known : (classes.fields type)[position]? = some field)
    (values : List (Proto υ)) :
    (Contents.ofProto (mergedMessages classes type values)).elements position =
      mergeElements classes field (fieldElements values position) [] := by
  have inside : position < ((classes.fields type).map fun _ => ([] : List (Proto υ))).length := by
    rw [List.length_map]
    exact (List.getElem?_eq_some_iff.mp known).1
  have fresh : ((classes.fields type).map fun _ => ([] : List (Proto υ))).getD position [] = [] := by
    rw [List.getD_eq_getElem?_getD, List.getElem?_map, known]
    rfl
  refine (elements_foldl_mergeFrom known values (classes.defaultInstance type) inside).trans ?_
  exact congrArg (mergeElements classes field _) fresh

/-- A singular number or string is the last one that was set. -/
theorem elements_mergedMessages_last (known : (classes.fields type)[position]? = some field)
    (single : field.isRepeated = false) (scalar : ∀ inner, field.type ≠ .message inner)
    (values : List (Proto υ)) :
    (Contents.ofProto (mergedMessages classes type values)).elements position =
      (fieldElements values position).getLast?.toList :=
  (elements_mergedMessages known values).trans (mergeElements_last single scalar _)

/-- Singular messages are merged in turn. -/
theorem elements_mergedMessages_message (known : (classes.fields type)[position]? = some field)
    (single : field.isRepeated = false) {inner : ι} (typed : field.type = .message inner)
    {values : List (Proto υ)} (set : fieldElements values position ≠ []) :
    (Contents.ofProto (mergedMessages classes type values)).elements position =
      [mergedMessages classes inner (fieldElements values position)] :=
  (elements_mergedMessages known values).trans (mergeElements_messages single typed set)

theorem elementsFit_at {fields : List (Field ι)} {values : List (List (Proto stream.Unknown))}
    {index : ℕ} (fit : FieldsFit stream classes depth fields values)
    (known : fields[index]? = some field) :
    ElementsFit stream classes depth field.type (values.getD index []) := by
  induction fields generalizing values index with
  | nil => simp at known
  | cons first fields inductionHypothesis =>
      cases values with
      | nil => exact fit.elim
      | cons elements values =>
          cases index with
          | zero =>
              obtain rfl : first = field := by simpa using known
              exact fit.2.1
          | succ index =>
              show ElementsFit stream classes depth field.type (values.getD index [])
              exact inductionHypothesis fit.2.2 (by simpa using known)

/-- A repeated field has the elements of all. -/
theorem elements_mergedMessages_repeated (known : (classes.fields type)[position]? = some field)
    (repeated : field.isRepeated = true) {values : List (Proto stream.Unknown)}
    (fit : ∀ value ∈ values, MessageFits stream classes depth type value) :
    (Contents.ofProto (mergedMessages classes type values)).elements position =
      fieldElements values position := by
  rw [elements_mergedMessages known]
  refine (mergeElements_eq (fun element member elements nothing => ?_)
    (fun single => by rw [repeated] at single; cases single)).trans (List.nil_append _)
  obtain ⟨value, inside, here⟩ := List.mem_flatMap.mp member
  obtain ⟨levels, fields, unknown, rfl, rfl, fieldsFit, -⟩ := messageFits_iff.mp (fit value inside)
  exact mergedElement_alone (mergeFrom_defaultInstance levels)
    (valueFits_of_mem (elementsFit_at fieldsFit known) here) nothing

/-- The unknown fields are those of all. -/
theorem unknown_mergedMessages (values : List (Proto υ)) :
    (Contents.ofProto (mergedMessages classes type values)).unknown =
      values.flatMap fun value => (Contents.ofProto value).unknown := by
  have behind (into : Proto υ) :
      (Contents.ofProto (values.foldl (mergeFrom classes type) into)).unknown =
        (Contents.ofProto into).unknown ++
          values.flatMap fun value => (Contents.ofProto value).unknown := by
    induction values generalizing into with
    | nil => exact (List.append_nil _).symm
    | cons value values inductionHypothesis =>
        rw [List.foldl_cons, inductionHypothesis, List.flatMap_cons, ← List.append_assoc]
        cases value with
        | message fields unknown => rw [mergeFrom]; rfl
        | string bytes => rw [mergeFrom] <;> simp [Contents.ofProto]
        | number value => rw [mergeFrom] <;> simp [Contents.ofProto]
  exact (behind _).trans (List.nil_append _)

theorem length_mergedMessages (values : List (Proto υ)) :
    (Contents.ofProto (mergedMessages classes type values)).fields.length =
      (classes.fields type).length := by
  have behind (into : Proto υ) :
      (Contents.ofProto (values.foldl (mergeFrom classes type) into)).fields.length =
        (Contents.ofProto into).fields.length := by
    induction values generalizing into with
    | nil => rfl
    | cons value values inductionHypothesis =>
        rw [List.foldl_cons, inductionHypothesis, length_mergeFrom]
  exact (behind _).trans (List.length_map _)

theorem length_of_fieldsFit {fields : List (Field ι)} {values : List (List (Proto stream.Unknown))}
    (fit : FieldsFit stream classes depth fields values) : values.length = fields.length := by
  induction fields generalizing values with
  | nil =>
      cases values with
      | nil => rfl
      | cons elements values => exact fit.elim
  | cons field fields inductionHypothesis =>
      cases values with
      | nil => exact fit.elim
      | cons elements values =>
          rw [List.length_cons, List.length_cons, inductionHypothesis fit.2.2]

/-- A required field is missing if none of the messages sets it. -/
theorem initialized_mergedMessages_iff {values : List (Proto stream.Unknown)}
    (fit : ∀ value ∈ values, MessageFits stream classes depth type value) :
    classes.Initialized type (mergedMessages classes type values) ↔
      ∀ position ∈ classes.required type, fieldElements values position ≠ [] := by
  rw [Classes.Initialized, isInitialized, List.all_eq_true]
  refine forall₂_congr fun position _ => ?_
  rw [decide_eq_true_iff]
  cases known : (classes.fields type)[position]? with
  | some field =>
      rw [elements_mergedMessages known, mergeElements_nonempty]
      simp
  | none =>
      have outside : (classes.fields type).length ≤ position := List.getElem?_eq_none_iff.mp known
      have beyond (value : Proto stream.Unknown)
          (short : (Contents.ofProto value).fields.length = (classes.fields type).length) :
          (Contents.ofProto value).elements position = [] := by
        rw [Contents.elements, List.getD_eq_getElem?_getD, List.getElem?_eq_none (by omega)]
        rfl
      have nothing : fieldElements values position = [] := by
        refine List.flatMap_eq_nil_iff.mpr fun value member => beyond value ?_
        obtain ⟨levels, fields, unknown, rfl, rfl, fieldsFit, -⟩ :=
          messageFits_iff.mp (fit value member)
        exact length_of_fieldsFit fieldsFit
      rw [beyond _ (length_mergedMessages values), nothing]

end

/-! ### Round trips -/

def firstHeader : MsgHeader := ⟨7, 3, 0, 0xffffffffffffffff⟩

def secondHeader : MsgHeader := ⟨1, 0, 1, 5⟩

theorem headerBytes_small (header : MsgHeader)
    (member : header ∈ [firstHeader, secondHeader]) :
    (messageBytes wireStream headerClasses () (headerProto header)).length < 2 ^ 31 := by
  have all : ∀ header ∈ [firstHeader, secondHeader],
      (messageBytes wireStream headerClasses () (headerProto header)).length < 2 ^ 31 := by
    decide +kernel
  exact all header member

/-- **A buffer of `ByteSize` bytes is filled exactly, and gives the message back**, for every
class, at every level, with the unknown fields it had. -/
theorem writtenMessage_roundTrip (lookahead : Lookahead stream) (classes : Classes ι) (type : ι)
    (value : Proto stream.Unknown)
    (fits : MessageFits stream classes (stream.recursionLimit + 1) type value)
    (small : (messageBytes stream classes type value).length < 2 ^ 31)
    (initialized : classes.Initialized type value) :
    (messageBytes stream classes type value).length = byteSize stream classes type value ∧
      parseFromArray lookahead classes type (messageBytes stream classes type value) =
        some value :=
  ⟨messageBytes_length _ type value fits small,
    parseFromArray_messageBytes lookahead fits small initialized⟩

/-- An incoming call whose state came a second time, as 9, in a message with a field 7. -/
def strangeCalls : Proto WireField :=
  .message [[.message [[.number 4], [.number 1], [], [], [], [], [], [], [.string [53, 53, 53]],
    [], [], [], []] [.varint 1 9]]] [.lengthDelimited 7 [0xff]]

theorem strangeCalls_fits : MessageFits wireStream rilClasses 65 .rspGetCurrentCalls strangeCalls := by
  have one : false = false → 1 ≤ 1 := fun _ => Nat.le_refl 1
  have unset : false = false → 0 ≤ 1 := fun _ => Nat.zero_le 1
  refine ⟨⟨nofun, ⟨⟨⟨one, ⟨⟨by decide +kernel, by decide, by decide⟩, trivial⟩, one,
    ⟨⟨by decide, by decide⟩, trivial⟩, unset, trivial, unset, trivial, unset, trivial, unset, trivial,
    unset, trivial, unset, trivial, one, ⟨trivial, trivial⟩, unset, trivial, unset, trivial, unset,
    trivial, unset, trivial, trivial⟩, ?_⟩, trivial⟩, trivial⟩, ?_⟩
  · intro field member
    obtain rfl := List.mem_singleton.mp member
    exact .refused 0 _ rilCallState 9 rfl rfl ⟨by decide, by decide⟩ (by decide +kernel)
  · intro field member
    obtain rfl := List.mem_singleton.mp member
    refine .skipped _ (show [(0xff : UInt8)].length < 2 ^ 31 by decide) (by decide) (by decide)
      ⟨by decide, fun position field found => ?_⟩
    cases found

theorem writtenMessage_roundTrip_strangeCalls :
    messageBytes wireStream rilClasses .rspGetCurrentCalls strangeCalls =
        [0x0a, 11, 0x08, 4, 0x10, 1, 0x4a, 3, 53, 53, 53, 0x08, 9, 0x3a, 1, 0xff] ∧
      parseFromArray wireLookahead rilClasses .rspGetCurrentCalls
        (messageBytes wireStream rilClasses .rspGetCurrentCalls strangeCalls) =
          some strangeCalls := by
  have written : messageBytes wireStream rilClasses .rspGetCurrentCalls strangeCalls =
      [0x0a, 11, 0x08, 4, 0x10, 1, 0x4a, 3, 53, 53, 53, 0x08, 9, 0x3a, 1, 0xff] := by
    decide +kernel
  have small : (messageBytes wireStream rilClasses .rspGetCurrentCalls strangeCalls).length <
      2 ^ 31 := by
    rw [written]
    decide
  exact ⟨written, (writtenMessage_roundTrip wireLookahead rilClasses .rspGetCurrentCalls
    strangeCalls strangeCalls_fits small rfl).2⟩

/-- **Messages behind each other are read as their merge**: each field is what the last that
set it says, each list has the elements of all, and it is refused if a required field is set
by none. -/
theorem parseFromArray_messages (lookahead : Lookahead stream) (classes : Classes ι) (type : ι)
    (values : List (Proto stream.Unknown))
    (fit : ∀ value ∈ values, MessageFits stream classes (stream.recursionLimit + 1) type value)
    (small : ∀ value ∈ values, (messageBytes stream classes type value).length < 2 ^ 31) :
    parseFromArray lookahead classes type (messagesBytes stream classes type values) =
      let merged := mergedMessages classes type values
      if classes.Initialized type merged then some merged else none := by
  rw [parseFromArray, mergePartialFromCodedStream_messages lookahead type values fit small]
  have same := toProto_foldl_mergeFrom classes type values
    (classes.defaultInstance (υ := stream.Unknown) type) rfl
  simp only [Option.bind_eq_bind, Option.bind_some, same, true_and]
  rfl

/-- The second of two headers is read. -/
theorem parseFromArray_messages_headers :
    parseFromArray wireLookahead headerClasses ()
        (messagesBytes wireStream headerClasses ()
          [headerProto firstHeader, headerProto secondHeader]) =
      some (headerProto secondHeader) :=
  parseFromArray_messages wireLookahead headerClasses ()
    [headerProto firstHeader, headerProto secondHeader]
    (by
      intro value member
      rcases List.mem_pair.mp member with rfl | rfl
      · exact headerProto_fits wireStream _ firstHeader
      · exact headerProto_fits wireStream _ secondHeader)
    (by
      intro value member
      rcases List.mem_pair.mp member with rfl | rfl
      · exact headerBytes_small firstHeader (by decide)
      · exact headerBytes_small secondHeader (by decide))

end RildHisi.MockRil.Generated
