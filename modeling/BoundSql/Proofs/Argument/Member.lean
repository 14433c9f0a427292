import BoundSql.Proofs.Argument.RoundTrip
import BoundSql.Proofs.Outcome

/-!
# Members of enumerations as arguments

A member of an enumeration is encoded as the value that it carries, whatever that is,
also another member or a value without a serialized form.  The exception are members
that are whole numbers and are shown by their names: what is written for such a member
is its name, and no whole number is read back from that.
-/

namespace BoundSql

/-! ## Texts that are no whole numbers -/

namespace Literal

variable {s : List Char} {c : Char}

theorem mem_dropWhile_of_not {test : Char → Bool} (member : c ∈ s) (fails : test c = false) :
    c ∈ s.dropWhile test := by
  rw [← List.takeWhile_append_dropWhile (p := test) (l := s)] at member
  obtain taken | left := List.mem_append.mp member
  · have passes := List.mem_takeWhile_imp taken
    rw [fails] at passes
    cases passes
  · exact left

theorem mem_takeSign (member : c ∈ s) (noSign : c ≠ '-' ∧ c ≠ '+') : c ∈ (takeSign s).2 := by
  unfold takeSign
  split
  · exact (List.mem_cons.mp member).resolve_left noSign.1
  · exact (List.mem_cons.mp member).resolve_left noSign.2
  · exact member

/-- No whole number is read from a text with a point. -/
theorem whole_ne_ok_of_point (point : '.' ∈ s) (i : Int) : whole s ≠ .ok i := by
  have inPlain : '.' ∈ plain s := List.mem_map.mpr ⟨'.', point, by decide⟩
  have inBody : '.' ∈ (takeSign ((plain s).dropWhile isBlank)).2 :=
    mem_takeSign (mem_dropWhile_of_not inPlain (by decide)) (by decide)
  have behindRun : '.' ∈ ((takeSign ((plain s).dropWhile isBlank)).2).dropWhile
      fun c => c.isDigit || c == '_' :=
    mem_dropWhile_of_not inBody rfl
  have notBlank : (((takeSign ((plain s).dropWhile isBlank)).2).dropWhile
      fun c => c.isDigit || c == '_').all isBlank = false := by
    rw [List.all_eq_false]
    exact ⟨'.', behindRun, by decide⟩
  simp only [whole, List.span_eq_takeWhile_dropWhile, notBlank]
  split
  · intro read
    cases read
  · split <;> (intro read; cases read)

end Literal

/-! ## What members carry -/

namespace Carrier

/-- What a member of an enumeration can carry: anything, unless it is a text or a number itself. -/
def Admits : Carrier → Value → Prop
  | .plain, _ => True
  | .text, payload => ∃ s, payload = .text s
  | .integer, payload => ∃ i, payload = .int i
  | .real, payload => ∃ x, payload = .float x

theorem admits_empty (carrier : Carrier) : carrier.Admits carrier.empty := by
  cases carrier with
  | plain => trivial
  | text | integer | real => exact ⟨_, rfl⟩

theorem admits_of_convert
    {carrier : Carrier}
    {given payload : Value}
    (converts : carrier.convert given = .ok payload) :
    carrier.Admits payload := by
  cases carrier with
  | plain => trivial
  | text =>
      cases converts
      exact ⟨_, rfl⟩
  | integer | real =>
      obtain ⟨number, _, rfl⟩ := map_eq_ok.mp converts
      exact ⟨number, rfl⟩

/-- What members are declared with becomes something that they can carry. -/
theorem admits_of_carried
    {carrier : Carrier}
    {given payload : Value}
    (carries : carrier.carried given = .ok payload) :
    carrier.Admits payload := by
  unfold carried at carries
  split at carries
  · trivial
  · cases carries
    exact carrier.admits_empty
  · exact admits_of_convert carries
  · exact admits_of_convert carries

end Carrier

namespace Value

/-- Whether a value is a member of an enumeration, as it is declared or one of the keywords, that
carries another value. -/
inductive Carries : Value → Value → Prop
  | declared {e : Enumeration} {name : String} {payload : Value} (given : Value)
      (declares : e.declare name given = .ok (.member e name payload)) :
      Carries (.member e name payload) payload
  | keyword (k : Keyword) : Carries (.keyword k) (.text k.symbol)

/-- Whether a value is a member that is also a whole number and is shown by its name. -/
def isNamedWhole : Value → Bool
  | .member e _ _ => e.carrier == .integer && e.showsName
  | _ => false

theorem isNamedWhole_member_iff {e : Enumeration} {name : String} {payload : Value} :
    isNamedWhole (.member e name payload) = true ↔ e.carrier = .integer ∧ e.showsName = true := by
  rw [isNamedWhole, Bool.and_eq_true, beq_iff_eq]

theorem admits_of_declare
    {e : Enumeration}
    {name : String}
    {given payload : Value}
    (declares : e.declare name given = .ok (.member e name payload)) :
    e.carrier.Admits payload := by
  unfold Enumeration.declare at declares
  split at declares
  · cases declares
  · obtain ⟨carried, carries, same⟩ := map_eq_ok.mp declares
    cases same
    exact Carrier.admits_of_carried carries

end Value

namespace Argument

/-- A member that is not named as a whole number is encoded as what it carries. -/
theorem encode_member
    {e : Enumeration}
    {payload : Value}
    (admits : e.carrier.Admits payload)
    (name : String)
    (notNamed : Value.isNamedWhole (.member e name payload) = false) :
    encode (.member e name payload) = encode payload := by
  rw [encode]
  cases carrier : e.carrier with
  | plain | text => rfl
  | integer =>
      rw [carrier] at admits
      obtain ⟨i, rfl⟩ := admits
      rw [Value.isNamedWhole, carrier, beq_self_eq_true, Bool.true_and] at notNamed
      rw [notNamed]
      rfl
  | real =>
      rw [carrier] at admits
      obtain ⟨x, rfl⟩ := admits
      rfl

/-- A text with a point is refused under the tag of whole numbers. -/
theorem exists_decode_of_point {s : String} (point : '.' ∈ s.toList) :
    ∃ fault, decode (ofText .integer s) =
      .error (.coercion (.text s) (.text "integer") (.conversion fault)) := by
  have unread : ∀ i, Literal.whole s.toList ≠ .ok i := Literal.whole_ne_ok_of_point point
  have read : (Value.text s).toInt = Value.readWhole (Value.text s).literal s.toList := rfl
  change ∃ fault, ((ofText .integer s).coerced (Value.text s).toInt).map Value.int = _
  rw [read, Value.readWhole]
  split
  · rename_i i whole
    exact absurd whole (unread i)
  · exact ⟨_, rfl⟩
  · exact ⟨_, rfl⟩

/-- A member that is named as a whole number is encoded by its name, from which no whole number is
read back. -/
theorem encode_of_isNamedWhole
    {e : Enumeration}
    {payload : Value}
    (admits : e.carrier.Admits payload)
    {name : String}
    (named : Value.isNamedWhole (.member e name payload) = true) :
    encode (.member e name payload) =
        .ok (ofText .integer (Value.member e name payload).display) ∧
      ∃ fault, decode (ofText .integer (Value.member e name payload).display) =
        .error (.coercion (.text (Value.member e name payload).display) (.text "integer")
          (.conversion fault)) := by
  obtain ⟨carrier, showsName⟩ := Value.isNamedWhole_member_iff.mp named
  rw [carrier] at admits
  obtain ⟨i, rfl⟩ := admits
  have shown : (Value.member e name (.int i)).display = e.name ++ "." ++ name := by
    rw [Value.display, if_pos showsName]
  constructor
  · rw [encode, carrier, showsName]
    rfl
  · refine exists_decode_of_point ?_
    rw [shown]
    simp

/-- Encoding a whole number and decoding it never ends in a refusal of what is written for it. -/
theorem decode_encode_int_ne (i : Int) (value tag : Value) (reason : CoercionReason) :
    (encode (.int i) >>= decode) ≠ .error (.coercion value tag reason) := by
  rw [encode]
  by_cases short : (Nat.toDigits 10 i.natAbs).length ≤ Literal.digitLimit
  · rw [ofWhole_of_short short]
    change decode (ofText .integer (toString i)) ≠ _
    rw [decode_whole short]
    intro refused
    cases refused
  · have tooLong : Value.wholeText i = .error (.tooLong Literal.digitLimit) :=
      if_pos (Nat.lt_of_not_le short)
    rw [ofWhole, tooLong]
    intro refused
    cases refused

/-- A member of an enumeration is encoded as the value that it carries, and what is bound for it is
what is bound for that value, unless the member is a whole number that is shown by its name.  Then
its name is encoded under the tag of whole numbers, and decoding refuses it. -/
theorem encode_of_carries {m v : Value} (carries : m.Carries v) :
    (encode m = encode v ↔ m.isNamedWhole = false) ∧
      ((encode m >>= decode) = (encode v >>= decode) ↔ m.isNamedWhole = false) ∧
      (m.isNamedWhole = true → encode m = .ok (ofText .integer m.display) ∧
        ∃ fault, decode (ofText .integer m.display) =
          .error (.coercion (.text m.display) (.text "integer") (.conversion fault))) := by
  cases carries with
  | keyword k => exact ⟨⟨fun _ => rfl, fun _ => rfl⟩, ⟨fun _ => rfl, fun _ => rfl⟩, nofun⟩
  | @declared e name payload given declares =>
      have admits : e.carrier.Admits v := Value.admits_of_declare declares
      cases named : Value.isNamedWhole (.member e name v) with
      | false =>
          have same := encode_member admits name named
          exact ⟨⟨fun _ => rfl, fun _ => same⟩, ⟨fun _ => rfl, fun _ => by rw [same]⟩, nofun⟩
      | true =>
          obtain ⟨encoded, fault, refused⟩ := encode_of_isNamedWhole admits named
          have bound : (encode (.member e name v) >>= decode) ≠ (encode v >>= decode) := by
            have unbound := bind_eq_error.mpr (.inr ⟨_, encoded, refused⟩)
            obtain ⟨carrier, _⟩ := Value.isNamedWhole_member_iff.mp named
            rw [carrier] at admits
            obtain ⟨i, rfl⟩ := admits
            rw [unbound]
            exact (decode_encode_int_ne i _ _ _).symm
          refine ⟨⟨fun same => ?_, nofun⟩, ⟨fun same => absurd same bound, nofun⟩,
            fun _ => ⟨encoded, fault, refused⟩⟩
          exact absurd (congrArg (· >>= decode) same) bound

/-- An enumeration whose members are whole numbers and are shown by their names. -/
def namedWholes : Enumeration := ⟨"IntMixin", .integer, true⟩

/-- An enumeration whose members are no texts or numbers themselves. -/
def plainMembers : Enumeration := ⟨"Plain", .plain, true⟩

theorem encode_of_carries_nested :
    (∃ inner outer, plainMembers.declare "INNER" (.text "red") = .ok inner ∧
        plainMembers.declare "OUTER" inner = .ok outer ∧ outer.Carries inner ∧
        encode outer = encode inner ∧ encode inner = .ok (ofText .text "red")) ∧
      ∃ fault, (Value.member namedWholes "MEMBER" (.int 7)).Carries (.int 7) ∧
        encode (.member namedWholes "MEMBER" (.int 7)) =
          .ok (ofText .integer "IntMixin.MEMBER") ∧
        decode (ofText .integer "IntMixin.MEMBER") =
          .error (.coercion (.text "IntMixin.MEMBER") (.text "integer") (.conversion fault)) := by
  constructor
  · have carries : (Value.member plainMembers "OUTER"
        (.member plainMembers "INNER" (.text "red"))).Carries
          (.member plainMembers "INNER" (.text "red")) :=
      .declared (.member plainMembers "INNER" (.text "red")) rfl
    exact ⟨_, _, rfl, rfl, carries, (encode_of_carries carries).1.mpr rfl, rfl⟩
  · have carries : (Value.member namedWholes "MEMBER" (.int 7)).Carries (.int 7) :=
      .declared (.int 7) rfl
    obtain ⟨encoded, fault, refused⟩ := (encode_of_carries carries).2.2 rfl
    exact ⟨fault, carries, encoded, refused⟩

/-- A member that is a whole number shown by its name is encoded as its name, and the seven that it
carries as a seven. -/
theorem encode_named_seven :
    (Value.member namedWholes "MEMBER" (.int 7)).Carries (.int 7) ∧
      encode (.member namedWholes "MEMBER" (.int 7)) =
        .ok (ofText .integer "IntMixin.MEMBER") ∧
      encode (.int 7) = .ok (ofText .integer "7") ∧
      encode (.member namedWholes "MEMBER" (.int 7)) ≠ encode (.int 7) := by
  have encoded : encode (.member namedWholes "MEMBER" (.int 7)) =
      .ok (ofText .integer "IntMixin.MEMBER") := rfl
  have whole : encode (.int 7) = .ok (ofText .integer "7") :=
    ofWhole_of_short (by decide)
  refine ⟨.declared (.int 7) rfl, encoded, whole, fun same => ?_⟩
  rw [encoded, whole] at same
  have texts : some "IntMixin.MEMBER" = some "7" :=
    congrArg (fun argument => argument.value.text?) (Except.ok.inj same)
  exact absurd texts (by decide)

end Argument
end BoundSql
