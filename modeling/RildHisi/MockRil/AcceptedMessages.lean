import RildHisi.MockRil.MessageRoundTrip

/-!
Owns what the generated classes accept. Whatever bytes they are, a message that was read fits
its class, so it comes back from what is written of it: that is its normal form.
-/

namespace RildHisi.MockRil.Generated

open RildHisi.Library

variable {ι : Type} {stream : CodedStream} {classes : Classes ι} {depth : ℕ}
  {readMessage : MessageReader stream ι} {fields : List (Field ι)}

/-- The members are those of a message that fits. -/
def ContentsFit (stream : CodedStream) (classes : Classes ι) (depth : ℕ) (fields : List (Field ι))
    (contents : Contents stream.Unknown) : Prop :=
  FieldsFit stream classes depth fields contents.fields ∧
    ∀ field ∈ contents.unknown, UnknownFits stream depth fields field

/-! ### New messages -/

theorem fieldsFit_fresh : FieldsFit stream classes depth fields (fields.map fun _ => []) := by
  induction fields with
  | nil => trivial
  | cons field fields inductionHypothesis =>
      refine ⟨fun _ => Nat.zero_le 1, ?_, inductionHypothesis⟩
      cases field.type <;> trivial

theorem contentsFit_defaultInstance (type : ι) :
    ContentsFit stream classes depth (classes.fields type)
      (.ofProto (classes.defaultInstance type)) := by
  refine ⟨fieldsFit_fresh, ?_⟩
  intro field member
  cases member

/-! ### Elements -/

theorem elementsFit_nil (type : FieldType ι) : ElementsFit stream classes depth type [] := by
  cases type <;> trivial

theorem elementsFit_append {type : FieldType ι} {values : List (Proto stream.Unknown)}
    (fit : ElementsFit stream classes depth type values) {value : Proto stream.Unknown}
    (fits : ValueFits stream classes depth type value) :
    ElementsFit stream classes depth type (values ++ [value]) := by
  induction values with
  | nil => exact (elementsFit_cons type value [] depth).mpr ⟨fits, elementsFit_nil type⟩
  | cons first values inductionHypothesis =>
      obtain ⟨firstFits, others⟩ := (elementsFit_cons type first values depth).mp fit
      exact (elementsFit_cons type first _ depth).mpr ⟨firstFits, inductionHypothesis others⟩

/-- An element that fits can be stored. -/
theorem fieldsFit_store {values : List (List (Proto stream.Unknown))}
    (fit : FieldsFit stream classes depth fields values) {position : ℕ} {field : Field ι}
    (present : fields[position]? = some field) {value : Proto stream.Unknown}
    (fits : ValueFits stream classes depth field.type value) :
    FieldsFit stream classes depth fields
      (values.modify position fun elements => withElement field.isRepeated elements value) := by
  induction fields generalizing position values with
  | nil => cases present
  | cons first fields inductionHypothesis =>
      cases values with
      | nil => exact fit.elim
      | cons elements values =>
          cases position with
          | zero =>
              obtain rfl : first = field := Option.some.inj present
              have single := (elementsFit_cons first.type value [] depth).mpr
                ⟨fits, elementsFit_nil first.type⟩
              cases repeats : first.isRepeated with
              | true => exact ⟨by simp [repeats], elementsFit_append fit.2.1 fits, fit.2.2⟩
              | false => exact ⟨fun _ => Nat.le_refl 1, single, fit.2.2⟩
          | succ position =>
              exact ⟨fit.1, fit.2.1, inductionHypothesis fit.2.2 present⟩

/-- The element that is there fits. -/
theorem valueFits_of_currentElement {values : List (List (Proto stream.Unknown))}
    (fit : FieldsFit stream classes depth fields values) {position : ℕ} {field : Field ι}
    (present : fields[position]? = some field) {value : Proto stream.Unknown}
    (current : currentElement field (values.getD position []) = some value) :
    ValueFits stream classes depth field.type value := by
  have member : value ∈ values.getD position [] := by
    unfold currentElement at current
    split_ifs at current
    exact List.mem_of_head? current
  clear current
  induction fields generalizing position values with
  | nil => cases present
  | cons first fields inductionHypothesis =>
      cases values with
      | nil => exact fit.elim
      | cons elements values =>
          cases position with
          | zero =>
              obtain rfl : first = field := Option.some.inj present
              exact valueFits_of_mem fit.2.1 member
          | succ position => exact inductionHypothesis fit.2.2 present member

/-! ### Values -/

/-- A reader of messages that keeps what fits, and makes what fits. -/
def ReadsFitting (stream : CodedStream) (classes : Classes ι) (depth : ℕ)
    (readMessage : MessageReader stream ι) : Prop :=
  ∀ type into bytes value rest,
    into = classes.defaultInstance type ∨ MessageFits stream classes depth type into →
    readMessage type into bytes = some (value, rest) → MessageFits stream classes depth type value

/-- A value that is read fits, unless it is a number that an enumeration does not have. -/
theorem readValue_fits (fitting : ReadsFitting stream classes depth readMessage)
    {type : FieldType ι} {current : Option (Proto stream.Unknown)}
    (currentFits : ∀ value ∈ current, ValueFits stream classes depth type value)
    {bytes rest : List UInt8} {value : Proto stream.Unknown}
    (came : readValue stream classes readMessage type current bytes = some (value, rest)) :
    (refusedNumber type value = none ∧ ValueFits stream classes depth type value) ∨
      ∃ descriptor number, type = .enum descriptor ∧ refusedNumber type value = some number ∧
        Primitive.enum.InRange number ∧ ¬ descriptor.Member number := by
  cases type with
  | message type =>
      refine Or.inl ⟨rfl, fitting type _ bytes value rest ?_ came⟩
      cases current with
      | none => exact Or.inl rfl
      | some value => exact Or.inr (currentFits value rfl)
  | string =>
      obtain ⟨read, -, same⟩ := Option.map_eq_some_iff.mp came
      obtain ⟨rfl, rfl⟩ := Prod.mk.inj same
      exact Or.inl ⟨rfl, trivial⟩
  | int type =>
      obtain ⟨number, rfl, taken⟩ := readPrimitive_of_map came
      exact Or.inl ⟨rfl, stream.readPrimitive_inRange _ _ _ _ taken⟩
  | bool =>
      obtain ⟨number, rfl, taken⟩ := readPrimitive_of_map came
      exact Or.inl ⟨rfl, stream.readPrimitive_inRange _ _ _ _ taken⟩
  | enum descriptor =>
      obtain ⟨number, rfl, taken⟩ := readPrimitive_of_map came
      have inRange := stream.readPrimitive_inRange _ _ _ _ taken
      by_cases isMember : descriptor.Member number
      · exact Or.inl ⟨if_pos isMember, isMember, inRange⟩
      · exact Or.inr ⟨descriptor, number, rfl, if_neg isMember, inRange, isMember⟩

theorem readField_fits (fitting : ReadsFitting stream classes depth readMessage)
    {position : ℕ} {field : Field ι} (present : fields[position]? = some field)
    {contents contents' : Contents stream.Unknown}
    (fit : ContentsFit stream classes depth fields contents) {bytes rest : List UInt8}
    (came : readField stream classes readMessage position field contents bytes =
      some (contents', rest)) : ContentsFit stream classes depth fields contents' := by
  simp only [readField, Option.bind_eq_bind, Option.bind_eq_some_iff, Prod.exists] at came
  obtain ⟨value, behind, taken, came⟩ := came
  rcases readValue_fits fitting
    (fun value current => valueFits_of_currentElement fit.1 present current) taken with
    ⟨accepted, fits⟩ | ⟨descriptor, number, isEnum, refused, inRange, stranger⟩
  · rw [accepted] at came
    obtain ⟨rfl, -⟩ := Prod.mk.inj (Option.some.inj came)
    exact ⟨fieldsFit_store fit.1 present fits, fit.2⟩
  · rw [refused] at came
    obtain ⟨rfl, -⟩ := Prod.mk.inj (Option.some.inj came)
    refine ⟨fit.1, ?_⟩
    intro other member
    rcases List.mem_append.mp member with old | new
    · exact fit.2 other old
    · obtain rfl := List.mem_singleton.mp new
      exact .refused position field descriptor number present isEnum inRange stranger

theorem packedType_eq_some {field : Field ι} {type : IntType}
    (packed : packedType field = some type) : field.type = .int type ∧ field.isRepeated = true := by
  unfold packedType at packed
  cases typed : field.type with
  | int type' =>
      simp only [typed] at packed
      split_ifs at packed with repeats
      rw [Option.some.inj packed]
      exact ⟨rfl, repeats⟩
  | message type' => simp [typed] at packed
  | string => simp [typed] at packed
  | bool => simp [typed] at packed
  | enum descriptor => simp [typed] at packed

theorem shortens_packedTurn (type : IntType) (position : ℕ) :
    Shortens (packedTurn stream type position) := by
  intro contents bytes contents' rest came
  unfold packedTurn at came
  split_ifs at came
  · cases came
  · simp only [Option.bind_eq_bind, Option.bind_eq_some_iff, Prod.exists] at came
    obtain ⟨value, behind, taken, came⟩ := came
    obtain ⟨-, rfl⟩ := ReadTurn.goesOn.inj (Option.some.inj came)
    exact stream.readPrimitive_shorter _ _ _ _ taken

theorem readPacked_fits {type : IntType} {position : ℕ} {field : Field ι}
    (present : fields[position]? = some field) (packed : packedType field = some type)
    {contents contents' : Contents stream.Unknown}
    (fit : ContentsFit stream classes depth fields contents) {bytes rest : List UInt8}
    (came : readPacked stream type position contents bytes = some (contents', rest)) :
    ContentsFit stream classes depth fields contents' := by
  obtain ⟨typed, repeats⟩ := packedType_eq_some packed
  simp only [readPacked, Option.bind_eq_bind, Option.bind_eq_some_iff, Prod.exists] at came
  obtain ⟨payload, behind, -, read, looped, came⟩ := came
  obtain ⟨rfl, -⟩ := Prod.mk.inj (Option.some.inj came)
  apply readLoop_invariant (shortens_packedTurn type position)
    (ContentsFit stream classes depth fields) _ _ fit looped
  · intro contents bytes contents' rest before turn
    unfold packedTurn at turn
    split_ifs at turn
    · cases turn
    · simp only [Option.bind_eq_bind, Option.bind_eq_some_iff, Prod.exists] at turn
      obtain ⟨value, behind, taken, turn⟩ := turn
      obtain ⟨rfl, -⟩ := ReadTurn.goesOn.inj (Option.some.inj turn)
      have fits : ValueFits stream classes depth field.type (.number value) := by
        rw [typed]
        exact stream.readPrimitive_inRange _ _ _ _ taken
      have stored := fieldsFit_store before.1 present fits
      rw [repeats] at stored
      exact ⟨stored, before.2⟩
  · intro contents bytes result before turn
    unfold packedTurn at turn
    split_ifs at turn
    · obtain rfl := ReadTurn.ends.inj (Option.some.inj turn)
      exact before
    · simp only [Option.bind_eq_bind, Option.bind_eq_some_iff, Prod.exists] at turn
      obtain ⟨value, behind, -, turn⟩ := turn
      cases Option.some.inj turn

/-! ### Turns -/

/-- What a turn without lookahead brings: members that fit, and no label. -/
inductive TurnFits (stream : CodedStream) (classes : Classes ι) (depth : ℕ)
    (fields : List (Field ι)) : LoopTurn stream ι → Prop
  | goesOn (contents : Contents stream.Unknown) (rest : List UInt8)
      (fit : ContentsFit stream classes depth fields contents) :
      TurnFits stream classes depth fields (.goesOn (contents, none) rest)
  | ends (contents : Contents stream.Unknown) (consumed : Bool)
      (fit : ContentsFit stream classes depth fields contents) :
      TurnFits stream classes depth fields (.ends (contents, consumed))

theorem handleUninterpreted_fits {contents : Contents stream.Unknown}
    (fit : ContentsFit stream classes depth fields contents) {tag : ℕ} (positive : 0 < tag)
    (small : tag < 2 ^ 32)
    (untaken : ∀ position field, findField fields (tagFieldNumber tag) = some (position, field) →
      tagWireType tag ≠ wireType field.type ∧
        (packedType field = none ∨ tagWireType tag ≠ wireTypeLengthDelimited))
    {bytes : List UInt8} {turn : LoopTurn stream ι}
    (came : handleUninterpreted stream depth contents tag bytes = some turn) :
    TurnFits stream classes depth fields turn := by
  unfold handleUninterpreted at came
  split_ifs at came with ended
  · obtain rfl := Option.some.inj came
    exact .ends contents false fit
  · simp only [Option.bind_eq_bind, Option.bind_eq_some_iff, Prod.exists] at came
    obtain ⟨unknown, rest, taken, came⟩ := came
    obtain rfl := Option.some.inj came
    obtain ⟨rfl, readable⟩ := stream.skipField_readable _ _ _ _ _ taken
    refine .goesOn _ rest ⟨fit.1, ?_⟩
    intro other member
    rcases List.mem_append.mp member with old | new
    · exact fit.2 other old
    · obtain rfl := List.mem_singleton.mp new
      exact .skipped other readable positive small ⟨ended, untaken⟩

theorem switchField_fits (fitting : ReadsFitting stream classes depth readMessage)
    {contents : Contents stream.Unknown} (fit : ContentsFit stream classes depth fields contents)
    {tag : ℕ} (positive : 0 < tag) (small : tag < 2 ^ 32) {bytes : List UInt8}
    {turn : LoopTurn stream ι}
    (came : switchField (.never stream) classes depth readMessage fields contents tag bytes =
      some turn) : TurnFits stream classes depth fields turn := by
  rw [switchField] at came
  cases found : findField fields (tagFieldNumber tag) with
  | none =>
      rw [found] at came
      exact handleUninterpreted_fits fit positive small (by simp [found]) came
  | some place =>
      obtain ⟨position, field⟩ := place
      have present := (getElem?_of_findField found).2
      simp only [found] at came
      by_cases typed : tagWireType tag = wireType field.type
      · simp only [if_pos typed, Option.bind_eq_bind, Option.bind_eq_some_iff, Prod.exists,
          afterField_never] at came
        obtain ⟨contents', rest, read, came⟩ := came
        obtain rfl := Option.some.inj came
        exact .goesOn contents' rest (readField_fits fitting present fit read)
      · rw [if_neg typed] at came
        cases packed : packedType field with
        | none =>
            rw [packed] at came
            refine handleUninterpreted_fits fit positive small ?_ came
            rintro _ _ same
            obtain ⟨rfl, rfl⟩ := Prod.mk.inj (Option.some.inj (found.symm.trans same))
            exact ⟨typed, Or.inl packed⟩
        | some type =>
            simp only [packed] at came
            by_cases delimited : tagWireType tag = wireTypeLengthDelimited
            · simp only [if_pos delimited, Option.bind_eq_bind, Option.bind_eq_some_iff,
                Prod.exists, afterField_never] at came
              obtain ⟨contents', rest, read, came⟩ := came
              obtain rfl := Option.some.inj came
              exact .goesOn contents' rest (readPacked_fits present packed fit read)
            · rw [if_neg delimited] at came
              refine handleUninterpreted_fits fit positive small ?_ came
              rintro _ _ same
              obtain ⟨rfl, rfl⟩ := Prod.mk.inj (Option.some.inj (found.symm.trans same))
              exact ⟨typed, Or.inr delimited⟩

theorem mergeTurn_fits (fitting : ReadsFitting stream classes depth readMessage)
    {contents : Contents stream.Unknown} (fit : ContentsFit stream classes depth fields contents)
    {bytes : List UInt8} {turn : LoopTurn stream ι}
    (came : mergeTurn (.never stream) classes depth readMessage fields (contents, none) bytes =
      some turn) : TurnFits stream classes depth fields turn := by
  rw [mergeTurn_tag] at came
  split_ifs at came with ended
  · obtain rfl := Option.some.inj came
    exact .ends contents _ fit
  · exact switchField_fits fitting fit (Nat.pos_of_ne_zero ended) (stream.readTag_lt bytes) came

/-! ### Messages -/

theorem readLoop_fits (takesBytes : TakesBytes readMessage)
    (fitting : ReadsFitting stream classes depth readMessage) {contents : Contents stream.Unknown}
    (fit : ContentsFit stream classes depth fields contents) {bytes : List UInt8}
    {result : Merged stream}
    (came : readLoop (mergeTurn (.never stream) classes depth readMessage fields) (contents, none)
      bytes = some result) : ContentsFit stream classes depth fields result.1 := by
  apply readLoop_invariant (shortens_mergeTurn takesBytes classes depth fields (.never stream))
    (fun state => state.2 = none ∧ ContentsFit stream classes depth fields state.1) _ _
    ⟨rfl, fit⟩ came
  · rintro ⟨contents, label⟩ bytes state rest ⟨rfl, before⟩ turn
    cases mergeTurn_fits fitting before turn with
    | goesOn contents' rest after => exact ⟨rfl, after⟩
  · rintro ⟨contents, label⟩ bytes result ⟨rfl, before⟩ turn
    cases mergeTurn_fits fitting before turn with
    | ends contents' consumed after => exact after

/-- What is read into a message that fits makes one that fits. -/
theorem mergePartialFromCodedStream_fits (lookahead : Lookahead stream) (classes : Classes ι)
    (depth : ℕ) (type : ι) {into : Proto stream.Unknown}
    (start : into = classes.defaultInstance type ∨ MessageFits stream classes depth type into)
    {bytes : List UInt8} {result : Merged stream}
    (came : mergePartialFromCodedStream lookahead classes depth type into bytes = some result) :
    MessageFits stream classes depth type result.1.toProto := by
  rw [mergePartialFromCodedStream_never] at came
  induction depth generalizing type into bytes result with
  | zero => cases came
  | succ depth inductionHypothesis =>
      have fitting : ReadsFitting stream classes depth (readMessageNoVirtual stream
          (mergePartialFromCodedStream (.never stream) classes depth)) := by
        intro type into bytes value rest start read
        simp only [readMessageNoVirtual, Option.bind_eq_bind, Option.bind_eq_some_iff,
          Prod.exists] at read
        obtain ⟨payload, behind, -, contents, consumed, merged, read⟩ := read
        split_ifs at read
        obtain ⟨rfl, -⟩ := Prod.mk.inj (Option.some.inj read)
        exact inductionHypothesis type start merged
      have fit : ContentsFit stream classes depth (classes.fields type) (.ofProto into) := by
        rcases start with rfl | fits
        · exact contentsFit_defaultInstance type
        · obtain ⟨levels, values, unknown, same, rfl, fit⟩ := messageFits_iff.mp fits
          obtain rfl := Nat.succ.inj same
          exact fit
      rw [mergePartialFromCodedStream] at came
      exact readLoop_fits (takesBytes_readMessageNoVirtual _) fitting fit came

/-- **What is accepted fits, and comes back.** Whatever the bytes, the message that is read
from them is one of its class; and from what is written of it, the same one is read. -/
theorem parseFromArray_normalForm (lookahead : Lookahead stream) (classes : Classes ι) (type : ι)
    (bytes : List UInt8) (value : Proto stream.Unknown)
    (came : parseFromArray lookahead classes type bytes = some value) :
    MessageFits stream classes (stream.recursionLimit + 1) type value ∧
      ((messageBytes stream classes type value).length < 2 ^ 31 →
        parseFromArray lookahead classes type (messageBytes stream classes type value) =
          some value) := by
  simp only [parseFromArray, Option.bind_eq_bind, Option.bind_eq_some_iff, Prod.exists] at came
  obtain ⟨contents, consumed, merged, came⟩ := came
  split_ifs at came with accepted
  obtain rfl := Option.some.inj came
  have fits := mergePartialFromCodedStream_fits lookahead classes _ type (Or.inl rfl) merged
  exact ⟨fits, fun small => parseFromArray_messageBytes lookahead fits small accepted.2⟩

/-- A field that the class does not know, and a command of two bytes where one would do. -/
def oddHeader : List UInt8 := [0x3a, 1, 0xff, 0x08, 0x81, 0x00, 0x10, 0x02]

theorem parseFromArray_normalForm_oddHeader : ∃ value,
    parseFromArray wireLookahead headerClasses () oddHeader = some value ∧
      messageBytes wireStream headerClasses () value = [0x08, 0x01, 0x10, 0x02, 0x3a, 1, 0xff] ∧
      parseFromArray wireLookahead headerClasses ()
        (messageBytes wireStream headerClasses () value) = some value :=
  ⟨.message [[.number 1], [.number 2], [], []] [.lengthDelimited 7 [0xff]], rfl, by decide +kernel,
    (parseFromArray_normalForm wireLookahead headerClasses () oddHeader _ rfl).2
      (by decide +kernel)⟩

end RildHisi.MockRil.Generated
