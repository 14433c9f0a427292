import BoundSql.Traced

/-!
# Successful outcomes

A computation made of parts succeeds exactly when its parts do.  These lemmas take
a success apart, for results and for traced computations.
-/

namespace BoundSql

section Results

variable {ε α β γ δ : Type}

/-- A sequence of two results succeeds exactly when both parts do. -/
theorem bind_eq_ok {first : Except ε α} {next : α → Except ε β} {value : β} :
    (first >>= next) = .ok value ↔
      ∃ middle, first = .ok middle ∧ next middle = .ok value := by
  cases first with
  | error error => simp [bind, Except.bind]
  | ok middle => simp [bind, Except.bind]

/-- A sequence of two results fails exactly when its first part does, or the second one after it. -/
theorem bind_eq_error {first : Except ε α} {next : α → Except ε β} {error : ε} :
    (first >>= next) = .error error ↔
      first = .error error ∨ ∃ middle, first = .ok middle ∧ next middle = .error error := by
  cases first with
  | error error => simp [bind, Except.bind]
  | ok middle => simp [bind, Except.bind]

/-- A result with its value changed succeeds exactly when the result does. -/
theorem map_eq_ok {result : Except ε α} {change : α → β} {value : β} :
    result.map change = .ok value ↔ ∃ inner, result = .ok inner ∧ change inner = value := by
  cases result with
  | error error => simp [Except.map]
  | ok inner => simp [Except.map]

/-- A result with its value changed fails exactly when the result does. -/
theorem map_eq_error {result : Except ε α} {change : α → β} {error : ε} :
    result.map change = .error error ↔ result = .error error := by
  cases result with
  | error other => simp [Except.map]
  | ok inner => simp [Except.map]

/-- A result with its error changed succeeds exactly when the result does. -/
theorem mapError_eq_ok {result : Except ε α} {change : ε → δ} {value : α} :
    result.mapError change = .ok value ↔ result = .ok value := by
  constructor
  · intro changed
    cases result with
    | error error => cases changed
    | ok inner =>
        cases changed
        rfl
  · rintro rfl
    rfl

/-- Changing the value of a sequence of two results changes that of the second one. -/
theorem map_bind
    (first : Except ε α)
    (next : α → Except ε β)
    (change : β → γ) :
    (first >>= next).map change = first >>= fun value => (next value).map change := by
  cases first <;> rfl

/-- A change of the first of two results that carries over to the second one. -/
theorem map_bind_of_commutes
    {first : Except ε α}
    {change : α → β}
    {next : β → Except ε δ}
    {nextBefore : α → Except ε γ}
    {changeLast : γ → δ}
    (commutes : ∀ value, next (change value) = (nextBefore value).map changeLast) :
    (first.map change >>= next) = (first >>= nextBefore).map changeLast := by
  cases first with
  | error error => rfl
  | ok value => exact commutes value

/-- Results for the members of a list succeed exactly when each of them does. -/
theorem mapM_cons_eq_ok {item : α} {items : List α} {f : α → Except ε β} {values : List β} :
    (item :: items).mapM f = .ok values ↔
      ∃ value others, f item = .ok value ∧ items.mapM f = .ok others ∧
        value :: others = values := by
  rw [List.mapM_cons]
  simp only [bind_eq_ok, pure, Except.pure, Except.ok.injEq]
  constructor
  · rintro ⟨value, first, others, rest, rfl⟩
    exact ⟨value, others, first, rest, rfl⟩
  · rintro ⟨value, others, first, rest, rfl⟩
    exact ⟨value, first, others, rest, rfl⟩

/-- Something holds of all members of a list, or there is a first one that it does not hold of. -/
theorem forall_or_exists_first (property : α → Prop) (items : List α) :
    (∀ item ∈ items, property item) ∨
      ∃ before item after, items = before ++ item :: after ∧
        (∀ other ∈ before, property other) ∧ ¬property item := by
  induction items with
  | nil => exact .inl nofun
  | cons item rest restHolds =>
      by_cases holds : property item
      · rcases restHolds with all | ⟨before, first, after, rfl, all, fails⟩
        · exact .inl (List.forall_mem_cons.mpr ⟨holds, all⟩)
        · exact .inr ⟨item :: before, first, after, rfl,
            List.forall_mem_cons.mpr ⟨holds, all⟩, fails⟩
      · exact .inr ⟨[], item, rest, rfl, nofun, holds⟩

/-- Results for the members of a list fail exactly with the failure of the first member that
fails. -/
theorem mapM_eq_error {items : List α} {f : α → Except ε β} {error : ε} :
    items.mapM f = .error error ↔
      ∃ before item after, items = before ++ item :: after ∧
        (∃ values, before.mapM f = .ok values) ∧ f item = .error error := by
  induction items with
  | nil =>
      constructor
      · intro fails
        cases fails
      · rintro ⟨before, item, after, split, _⟩
        cases before <;> cases split
  | cons first rest failsRest =>
      rw [List.mapM_cons, bind_eq_error]
      constructor
      · rintro (fails | ⟨value, ok, fails⟩)
        · exact ⟨[], first, rest, rfl, ⟨[], rfl⟩, fails⟩
        · obtain fails | ⟨_, _, impossible⟩ := bind_eq_error.mp fails
          · obtain ⟨before, item, after, rfl, ⟨values, made⟩, failed⟩ := failsRest.mp fails
            exact ⟨first :: before, item, after, rfl,
              ⟨value :: values, mapM_cons_eq_ok.mpr ⟨value, values, ok, made, rfl⟩⟩, failed⟩
          · cases impossible
      · rintro ⟨before, item, after, split, ⟨values, made⟩, failed⟩
        cases before with
        | nil =>
            obtain ⟨rfl, rfl⟩ := List.cons.inj split
            exact .inl failed
        | cons head before =>
            obtain ⟨rfl, rfl⟩ := List.cons.inj split
            obtain ⟨value, others, ok, madeRest, _⟩ := mapM_cons_eq_ok.mp made
            refine .inr ⟨value, ok, bind_eq_error.mpr (.inl ?_)⟩
            exact failsRest.mpr ⟨before, item, after, rfl, ⟨others, madeRest⟩, failed⟩

/-- The results for two lists one after the other. -/
theorem mapM_append_ok
    {items more : List α}
    {f : α → Except ε β}
    {values others : List β}
    (first : items.mapM f = .ok values)
    (second : more.mapM f = .ok others) :
    (items ++ more).mapM f = .ok (values ++ others) := by
  rw [List.mapM_append, first, second]
  rfl

/-- The results for two lists one after the other, taken apart. -/
theorem mapM_append_eq_ok
    {items more : List α}
    {f : α → Except ε β}
    {values : List β}
    (both : (items ++ more).mapM f = .ok values) :
    ∃ first second, items.mapM f = .ok first ∧ more.mapM f = .ok second ∧
      values = first ++ second := by
  rw [List.mapM_append] at both
  obtain ⟨first, firstMade, both⟩ := bind_eq_ok.mp both
  obtain ⟨second, secondMade, finished⟩ := bind_eq_ok.mp both
  exact ⟨first, second, firstMade, secondMade, (Except.ok.inj finished).symm⟩

/-- Results that are known for each member of a list. -/
theorem mapM_eq_ok_map
    {items : List α}
    {f : α → Except ε β}
    {g : α → β}
    (known : ∀ item ∈ items, f item = .ok (g item)) :
    items.mapM f = .ok (items.map g) := by
  induction items with
  | nil => rfl
  | cons item items knownRest =>
      refine mapM_cons_eq_ok.mpr ⟨g item, items.map g, known item List.mem_cons_self, ?_, rfl⟩
      exact knownRest fun other member => known other (List.mem_cons_of_mem _ member)

/-- Results for the members of a list succeed exactly when there are as many values, each the one of
the member at its place. -/
theorem mapM_eq_ok_iff {items : List α} {f : α → Except ε β} {values : List β} :
    items.mapM f = .ok values ↔
      values.length = items.length ∧
        ∀ (place : Nat) item value, items[place]? = some item → values[place]? = some value →
          f item = .ok value := by
  induction items generalizing values with
  | nil =>
      constructor
      · rintro ⟨⟩
        exact ⟨rfl, nofun⟩
      · rintro ⟨none, _⟩
        rw [List.length_eq_zero_iff.mp none]
        rfl
  | cons first rest okRest =>
      rw [mapM_cons_eq_ok]
      constructor
      · rintro ⟨value, others, ok, made, rfl⟩
        obtain ⟨counted, each⟩ := okRest.mp made
        refine ⟨congrArg Nat.succ counted, fun place item found atItem atFound => ?_⟩
        cases place with
        | zero =>
            cases atItem
            cases atFound
            exact ok
        | succ place => exact each place item found atItem atFound
      · rintro ⟨counted, each⟩
        cases values with
        | nil => cases counted
        | cons value others =>
            exact ⟨value, others, each 0 first value rfl rfl,
              okRest.mpr ⟨Nat.succ.inj counted, fun place => each (place + 1)⟩, rfl⟩

/-- Each of the values that were made is the one of a member. -/
theorem exists_of_mem_mapM
    {items : List α}
    {f : α → Except ε β}
    {values : List β}
    {value : β}
    (made : items.mapM f = .ok values)
    (member : value ∈ values) :
    ∃ item ∈ items, f item = .ok value := by
  induction items generalizing values with
  | nil =>
      cases made
      cases member
  | cons first rest madeRest =>
      obtain ⟨own, others, ok, rest, rfl⟩ := mapM_cons_eq_ok.mp made
      rcases List.mem_cons.mp member with rfl | member
      · exact ⟨first, List.mem_cons_self, ok⟩
      · obtain ⟨item, isItem, ok⟩ := madeRest rest member
        exact ⟨item, List.mem_cons_of_mem first isItem, ok⟩

/-- Changing the value of each of several results changes the values of all. -/
theorem mapM_map_result
    (items : List α)
    (f : α → Except ε β)
    (change : β → γ) :
    items.mapM (fun item => (f item).map change) = (items.mapM f).map (List.map change) := by
  induction items with
  | nil => rfl
  | cons first rest changedRest =>
      rw [List.mapM_cons, List.mapM_cons, changedRest]
      exact map_bind_of_commutes fun value => map_bind_of_commutes fun others => rfl

/-- Computations that agree on the members of a list have the same results for it. -/
theorem mapM_congr
    {items : List α}
    {f g : α → Except ε β}
    (same : ∀ item ∈ items, f item = g item) :
    items.mapM f = items.mapM g := by
  induction items with
  | nil => rfl
  | cons item items sameRest =>
      rw [List.mapM_cons, List.mapM_cons, same item List.mem_cons_self,
        sameRest fun other member => same other (List.mem_cons_of_mem _ member)]

end Results

namespace Traced

variable {ε α β : Type}

/-- A sequence of two computations succeeds exactly when both parts do. -/
theorem result_bind_eq_ok
    {first : Traced ε α}
    {next : α → Traced ε β}
    {value : β} :
    (first >>= next).result = .ok value ↔
      ∃ middle, first.result = .ok middle ∧ (next middle).result = .ok value := by
  rw [result_bind]
  exact bind_eq_ok

/-- A sequence of two computations fails exactly when its first part does, or the second one after
it. -/
theorem result_bind_eq_error
    {first : Traced ε α}
    {next : α → Traced ε β}
    {error : Error} :
    (first >>= next).result = .error error ↔
      first.result = .error error ∨
        ∃ middle, first.result = .ok middle ∧ (next middle).result = .error error := by
  rw [result_bind]
  exact bind_eq_error

@[simp] theorem result_ofExcept (result : Except Error α) :
    (ofExcept result : Traced ε α).result = result := rfl

end Traced
end BoundSql
