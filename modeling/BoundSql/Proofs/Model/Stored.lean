import BoundSql.Model.Instance
import BoundSql.Proofs.Argument.RoundTrip
import BoundSql.Proofs.Argument.Encoding
import BoundSql.Proofs.Calendar.IsoText

/-!
# Stored types

The types whose values are stored: numbers, truth values, texts, calendar values, and
enumerations of texts or of whole numbers, each of them optional or not.  What is
bound for a value of a stored type is converted back to the value by the type alone.
-/

namespace BoundSql

namespace Value

/-- Whole numbers are equal as quantities only when they are the same. -/
theorem sameScaled_whole (i j : Int) : Quantity.sameScaled i 0 j 0 = true ↔ i = j := by
  unfold Quantity.sameScaled
  split
  next zero => rw [beq_iff_eq]
  next nonzero =>
      simp only [Bool.and_eq_true, beq_iff_eq]
      constructor
      · intro aligned
        simpa using aligned.2
      · rintro rfl
        exact ⟨rfl, rfl⟩

theorem same_text (s t : String) : (text s).same (text t) = true ↔ s = t := by
  have atoms : (text s).same (text t) = (s == t) := by
    simp [same, sameAtom, quantity?, int?, float?, text?]
  rw [atoms, beq_iff_eq]

theorem same_int (i j : Int) : (int i).same (int j) = true ↔ i = j := by
  have atoms : (int i).same (int j) = Quantity.sameScaled i 0 j 0 := by
    simp [same, sameAtom, quantity?, int?, Quantity.same]
  rw [atoms, sameScaled_whole]

end Value

/-! ## Enumerations -/

/-- The values that the members of an enumeration carry are different texts, or they are different
whole numbers and the members are shown by them. -/
structure EnumerationType.Stored (type : EnumerationType) : Prop where
  carried :
    (type.enumeration.carrier = .text ∧ ∀ member ∈ type.members, ∃ s, member.2 = .text s) ∨
      (type.enumeration.carrier = .integer ∧ type.enumeration.showsName = false ∧
        ∀ member ∈ type.members, ∃ i, member.2 = .int i)
  distinct : (type.members.map Prod.snd).Nodup

namespace EnumerationType

variable {type : EnumerationType}

/-- Payloads of a stored enumeration are equal only when they are the same. -/
theorem Stored.same_iff
    (stored : type.Stored)
    {member other : String × Value}
    (listed : member ∈ type.members)
    (otherListed : other ∈ type.members) :
    member.2.same other.2 = true ↔ member.2 = other.2 := by
  obtain ⟨_, texts⟩ | ⟨_, _, numbers⟩ := stored.carried
  · obtain ⟨s, first⟩ := texts member listed
    obtain ⟨t, second⟩ := texts other otherListed
    rw [first, second, Value.same_text, Value.text.injEq]
  · obtain ⟨i, first⟩ := numbers member listed
    obtain ⟨j, second⟩ := numbers other otherListed
    rw [first, second, Value.same_int, Value.int.injEq]

/-- A member of a stored enumeration is found by what it carries. -/
theorem Stored.find?_eq_some
    (stored : type.Stored)
    {name : String}
    {payload : Value}
    (listed : (name, payload) ∈ type.members) :
    type.members.find? (fun member => member.2.same payload) = some (name, payload) := by
  have distinct := stored.distinct
  obtain ⟨before, after, split⟩ := List.append_of_mem listed
  rw [List.find?_eq_some_iff_append]
  refine ⟨(stored.same_iff listed listed).mpr rfl, before, after, split, fun other member => ?_⟩
  have otherListed : other ∈ type.members := by
    rw [split]
    exact List.mem_append_left _ member
  rw [split, List.map_append, List.nodup_append] at distinct
  have different : other.2 ≠ payload :=
    distinct.2.2 other.2 (List.mem_map_of_mem member) payload (by simp)
  rw [Bool.not_eq_true', ← Bool.not_eq_true, stored.same_iff otherListed listed]
  exact different

/-- What a member of a stored enumeration carries is converted to the member. -/
theorem Stored.convert?_payload
    (stored : type.Stored)
    {name : String}
    {payload : Value}
    (listed : (name, payload) ∈ type.members) :
    type.convert? payload = some (.member type.enumeration name payload) := by
  have found := stored.find?_eq_some listed
  obtain ⟨_, texts⟩ | ⟨_, _, numbers⟩ := stored.carried
  · obtain ⟨s, rfl⟩ : ∃ s, payload = .text s := texts _ listed
    rw [convert?, found]
    · rfl
    · nofun
  · obtain ⟨i, rfl⟩ : ∃ i, payload = .int i := numbers _ listed
    rw [convert?, found]
    · rfl
    · nofun

/-- Nothing is no member of a stored enumeration. -/
theorem Stored.convert?_null (stored : type.Stored) : type.convert? .null = none := by
  have absent : type.members.find? (fun member => member.2.same .null) = none := by
    rw [List.find?_eq_none]
    intro member listed
    obtain ⟨_, texts⟩ | ⟨_, _, numbers⟩ := stored.carried
    · obtain ⟨s, carries⟩ := texts member listed
      simp [carries, Value.same, Value.sameAtom, Value.quantity?, Value.int?, Value.float?,
        Value.text?]
    · obtain ⟨i, carries⟩ := numbers member listed
      simp [carries, Value.same, Value.sameAtom, Value.quantity?, Value.int?, Value.float?,
        Value.text?]
  rw [convert?, absent]
  · rfl
  · nofun

/-- A member of a stored enumeration is encoded as what it carries. -/
theorem Stored.encode_member
    (stored : type.Stored)
    {name : String}
    {payload : Value}
    (listed : (name, payload) ∈ type.members) :
    Argument.encode (.member type.enumeration name payload) = Argument.encode payload := by
  obtain ⟨carrier, texts⟩ | ⟨carrier, showsNumber, numbers⟩ := stored.carried
  · obtain ⟨s, rfl⟩ : ∃ s, payload = .text s := texts _ listed
    simp [Argument.encode, carrier, Value.int?, Value.float?]
  · obtain ⟨i, rfl⟩ : ∃ i, payload = .int i := numbers _ listed
    simp [Argument.encode, carrier, showsNumber, Value.int?]

end EnumerationType

/-! ## Scalar types -/

namespace ScalarType

/-- The types whose values are stored. -/
def Stored : ScalarType → Prop
  | .integer | .real | .boolean | .text | .date | .datetime => True
  | .enumerated type => type.Stored
  | _ => False

/-- The values of a stored type. -/
inductive Has : ScalarType → Value → Prop
  | integer (i : Int) : Has .integer (.int i)
  | real (x : Binary64) : Has .real (.float x)
  | boolean (b : Bool) : Has .boolean (.bool b)
  | text (s : String) : Has .text (.text s)
  | date (d : Date) : Has .date (.date d)
  | datetime (d : DateTime) (naive : d.offset = none) : Has .datetime (.datetime d)
  | member
      {type : EnumerationType}
      {name : String}
      {payload : Value}
      (stored : type.Stored)
      (listed : (name, payload) ∈ type.members) :
      Has (.enumerated type) (.member type.enumeration name payload)

/-- Nothing is no value of a stored type. -/
theorem convert?_null {type : ScalarType} (stored : type.Stored) : type.convert? .null = none := by
  cases type with
  | integer | real | boolean | text | date | datetime => rfl
  | enumerated type => exact EnumerationType.Stored.convert?_null stored
  | _ => exact stored.elim

end ScalarType

namespace Argument

/-- A whole number that is encoded is not too long. -/
theorem short_of_ofWhole
    {i : Int}
    {argument : Argument}
    (encodes : ofWhole i = .ok argument) :
    (Nat.toDigits 10 i.natAbs).length ≤ Literal.digitLimit := by
  by_contra long
  have refused : Value.wholeText i = .error (.tooLong Literal.digitLimit) :=
    if_pos (Nat.lt_of_not_le long)
  rw [ofWhole, refused] at encodes
  cases encodes

/-- An encoded whole number is bound as itself. -/
theorem bound_of_whole
    {i : Int}
    {argument : Argument}
    {bound : Value}
    (encodes : ofWhole i = .ok argument)
    (decodes : argument.decode = .ok bound) :
    bound = .int i := by
  have short := short_of_ofWhole encodes
  obtain rfl := ofWhole_eq_ok encodes
  rw [decode_whole short] at decodes
  exact (Except.ok.inj decodes).symm

end Argument

namespace ScalarType

variable {argument : Argument} {bound : Value}

theorem datetime?_isoText {d : DateTime} (naive : d.offset = none) :
    datetime? (.text (String.ofList (d.isoText ' '))) = some d := by
  simp only [datetime?, Value.text?, String.toList_ofList, DateTime.ofIso?_isoText naive]

theorem date?_isoText (d : Date) : date? (.text (String.ofList d.isoText)) = some d := by
  have midnight : (DateTime.atMidnight d).time.microseconds = 0 := by
    simp [DateTime.atMidnight, TimeOfDay.midnight, TimeOfDay.microseconds]
  have begins : datetime? (.text (String.ofList d.isoText)) = some (.atMidnight d) := by
    simp only [datetime?, Value.text?, String.toList_ofList, DateTime.ofIso?_date]
  rw [date?, begins, Option.bind_some, midnight, beq_self_eq_true, if_pos rfl]
  rfl

/-- What is bound for a value of a stored type is not nothing and is converted to the value. -/
theorem Has.convert?_bound
    {type : ScalarType}
    {value : Value}
    (has : type.Has value)
    (encodes : Argument.encode value = .ok argument)
    (decodes : argument.decode = .ok bound) :
    type.convert? bound = some value ∧ bound.isNull = false := by
  cases has with
  | integer i =>
      obtain rfl := Argument.bound_of_whole encodes decodes
      exact ⟨rfl, rfl⟩
  | real x =>
      cases encodes
      rw [Argument.decode_ofReal] at decodes
      cases decodes
      exact ⟨rfl, rfl⟩
  | boolean b =>
      cases encodes
      rw [Argument.decode_bool] at decodes
      cases decodes
      cases b with
      | false => exact ⟨rfl, rfl⟩
      | true => exact ⟨rfl, rfl⟩
  | text s =>
      cases encodes
      cases decodes
      exact ⟨rfl, rfl⟩
  | date d =>
      cases encodes
      rw [Argument.decode_ofText .date _ (by simp)] at decodes
      cases decodes
      rw [convert?, date?_isoText]
      exact ⟨rfl, rfl⟩
  | datetime d naive =>
      cases encodes
      rw [Argument.decode_ofText .datetime _ (by simp)] at decodes
      cases decodes
      rw [convert?, datetime?_isoText naive]
      exact ⟨rfl, rfl⟩
  | @member type name payload stored listed =>
      rw [stored.encode_member listed] at encodes
      have converted := stored.convert?_payload listed
      obtain ⟨_, texts⟩ | ⟨_, _, numbers⟩ := stored.carried
      · obtain ⟨s, rfl⟩ : ∃ s, payload = .text s := texts _ listed
        cases encodes
        cases decodes
        exact ⟨converted, rfl⟩
      · obtain ⟨i, rfl⟩ : ∃ i, payload = .int i := numbers _ listed
        obtain rfl := Argument.bound_of_whole encodes decodes
        exact ⟨converted, rfl⟩

end ScalarType

/-! ## Field types -/

namespace FieldType

variable {type : FieldType} {scalar : ScalarType} {nullable : Bool}

theorem eq_nothing_of_isNone {form : TypeForm} (isNone : form.isNone = true) :
    form = .scalar .nothing := by
  unfold TypeForm.isNone at isNone
  split at isNone
  · rfl
  · cases isNone

/-- A type of one scalar type has that type among its forms and nothing besides it. -/
theorem forms_of_scalar?
    (known : type.scalar? = some (scalar, nullable)) :
    .scalar scalar ∈ type.members ∧
      (∀ form ∈ type.members, form = .scalar scalar ∨ form = .scalar .nothing) ∧
      (nullable = true → .scalar .nothing ∈ type.members) := by
  unfold scalar? at known
  split at known
  next single members =>
      cases known
      simp [members]
  next notSingle =>
      split at known
      next inner others =>
          cases known
          have listed : .scalar scalar ∈ type.members.filter fun form => !form.isNone := by
            simp [others]
          refine ⟨(List.mem_filter.mp listed).1, fun form member => ?_, fun _ => ?_⟩
          · cases isNone : form.isNone with
            | true => exact Or.inr (eq_nothing_of_isNone isNone)
            | false =>
                have kept : form ∈ type.members.filter fun form => !form.isNone :=
                  List.mem_filter.mpr ⟨member, by simp [isNone]⟩
                rw [others, List.mem_singleton] at kept
                exact Or.inl kept
          · by_contra absent
            have all : type.members.filter (fun form => !form.isNone) = type.members := by
              rw [List.filter_eq_self]
              intro form member
              by_contra isNone
              have nothing : form = .scalar .nothing := eq_nothing_of_isNone (by simpa using isNone)
              exact absent (nothing ▸ member)
            exact notSingle scalar (all.symm.trans others)
      next => cases known

/-- A value that is not nothing is converted as the scalar type converts it. -/
theorem convert?_of_scalar
    {bound value : Value}
    (known : type.scalar? = some (scalar, nullable))
    (notNull : bound.isNull = false)
    (converted : scalar.convert? bound = some value) :
    type.convert? bound = some value := by
  obtain ⟨listed, forms, _⟩ := forms_of_scalar? known
  have refused : (TypeForm.scalar .nothing).convert? bound = none := by
    cases bound with
    | null => cases notNull
    | _ => rfl
  have taken : (TypeForm.scalar scalar).convert? bound = some value := converted
  unfold convert?
  cases held : type.members.find? fun form => form.holds bound with
  | some form =>
      obtain rfl | rfl := forms form (List.mem_of_find?_eq_some held)
      · exact taken
      · have holds := List.find?_some held
        simp [TypeForm.holds, refused] at holds
  | none =>
      have found : (type.members.findSome? fun form => form.convert? bound).isSome = true := by
        rw [List.isSome_findSome?, List.any_eq_true]
        exact ⟨_, listed, by rw [taken]; rfl⟩
      obtain ⟨other, first⟩ := Option.isSome_iff_exists.mp found
      obtain ⟨form, member, accepts⟩ := List.exists_of_findSome?_eq_some first
      obtain rfl | rfl := forms form member
      · rw [taken] at accepts
        exact first.trans accepts.symm
      · rw [refused] at accepts
        cases accepts

/-- An optional type of a stored type takes nothing as it stands. -/
theorem convert?_null
    (known : type.scalar? = some (scalar, true))
    (stored : scalar.Stored) :
    type.convert? .null = some .null := by
  obtain ⟨_, forms, optional⟩ := forms_of_scalar? known
  have refused : (TypeForm.scalar scalar).convert? .null = none :=
    ScalarType.convert?_null stored
  have found : (type.members.find? fun form => form.holds .null).isSome = true := by
    rw [List.find?_isSome]
    exact ⟨_, optional rfl, rfl⟩
  obtain ⟨form, held⟩ := Option.isSome_iff_exists.mp found
  unfold convert?
  rw [held]
  obtain rfl | rfl := forms form (List.mem_of_find?_eq_some held)
  · have holds := List.find?_some held
    simp [TypeForm.holds, refused] at holds
  · rfl

/-- The values of a field type that is one stored type or an optional one. -/
inductive Has (type : FieldType) : Value → Prop
  | null
      {scalar : ScalarType}
      (known : type.scalar? = some (scalar, true))
      (stored : scalar.Stored) :
      Has type .null
  | value
      {scalar : ScalarType}
      {nullable : Bool}
      {value : Value}
      (known : type.scalar? = some (scalar, nullable))
      (has : scalar.Has value) :
      Has type value

theorem Has.convert?_null (has : type.Has .null) : type.convert? .null = some .null := by
  cases has with
  | null known stored => exact FieldType.convert?_null known stored
  | value known has => cases has

/-- What is bound for a value of a field type is converted to the value. -/
theorem Has.convert?_bound
    {argument : Argument}
    {value bound : Value}
    (has : type.Has value)
    (encodes : Argument.encode value = .ok argument)
    (decodes : argument.decode = .ok bound) :
    type.convert? bound = some value := by
  cases has with
  | null known stored =>
      cases encodes
      cases decodes
      exact FieldType.convert?_null known stored
  | value known has =>
      obtain ⟨converted, notNull⟩ := has.convert?_bound encodes decodes
      exact convert?_of_scalar known notNull converted

end FieldType
end BoundSql
