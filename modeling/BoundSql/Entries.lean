/-!
# Entries

Items under keys, in the order in which the keys first came. An item that is
entered under a key which is there already takes the place of the item before
it, and the key stays where it is. Entering a list of pairs one after the other
leaves one entry for each key, with the last item that came under it.
-/

namespace BoundSql
namespace Entries

/-- Enter an item under a key. -/
def enter
    {κ ι : Type}
    (same : κ → κ → Bool)
    (entries : List (κ × ι))
    (key : κ)
    (item : ι) : List (κ × ι) :=
  if entries.any fun entry => same entry.1 key then
    entries.map fun entry => if same entry.1 key then (entry.1, item) else entry
  else
    entries ++ [(key, item)]

/-- The entries of a list of pairs. -/
def ofPairs {κ ι : Type} (same : κ → κ → Bool) (pairs : List (κ × ι)) : List (κ × ι) :=
  pairs.foldl (fun entries pair => enter same entries pair.1 pair.2) []

section Lookup

variable {κ ι : Type} [BEq κ] [LawfulBEq κ]

/-- A key is there exactly when an item is found under it. -/
theorem any_eq_isSome_lookup (entries : List (κ × ι)) (key : κ) :
    (entries.any fun entry => entry.1 == key) = (entries.lookup key).isSome := by
  induction entries with
  | nil => rfl
  | cons entry entries known =>
      obtain ⟨first, item⟩ := entry
      by_cases same : first = key
      · simp [same]
      · simp [known, List.lookup_cons, same, beq_false_of_ne (Ne.symm same)]

/-- What is found under a key is there. -/
theorem mem_of_lookup
    {entries : List (κ × ι)}
    {key : κ}
    {item : ι}
    (found : entries.lookup key = some item) :
    (key, item) ∈ entries := by
  obtain ⟨before, after, split, _⟩ := List.lookup_eq_some_iff.mp found
  rw [split]
  exact List.mem_append_right before List.mem_cons_self

/-- Where a key is there, only what is found under it changes when its item is replaced. -/
theorem lookup_replaced (entries : List (κ × ι)) (key other : κ) (item : ι) :
    (entries.map fun entry => if entry.1 == key then (entry.1, item) else entry).lookup other =
      if other == key then (entries.lookup key).map fun _ => item else entries.lookup other := by
  induction entries with
  | nil => simp
  | cons entry entries replaced =>
      obtain ⟨first, previous⟩ := entry
      rw [List.map_cons]
      by_cases same : first = key
      · subst same
        by_cases asked : other = first
        · simp [asked]
        · rw [beq_false_of_ne asked] at replaced ⊢
          simpa [List.lookup_cons, beq_false_of_ne asked] using replaced
      · by_cases asked : other = key
        · subst asked
          rw [beq_self_eq_true] at replaced ⊢
          simpa [List.lookup_cons, beq_false_of_ne same, beq_false_of_ne (Ne.symm same)]
            using replaced
        · rw [beq_false_of_ne asked] at replaced ⊢
          simp only [beq_false_of_ne same, Bool.false_eq_true, if_false, List.lookup_cons]
            at replaced ⊢
          rw [replaced]

/-- The item entered under a key is the one found under it; other keys keep theirs. -/
theorem lookup_enter (entries : List (κ × ι)) (key other : κ) (item : ι) :
    (enter (· == ·) entries key item).lookup other =
      if other == key then some item else entries.lookup other := by
  unfold enter
  split
  · rename_i known
    obtain ⟨previous, found⟩ :=
      Option.isSome_iff_exists.mp ((any_eq_isSome_lookup entries key).symm.trans known)
    rw [lookup_replaced, found]
    rfl
  · rename_i new
    have absent : entries.lookup key = none := by
      rw [any_eq_isSome_lookup] at new
      exact Option.not_isSome_iff_eq_none.mp new
    by_cases asked : other = key
    · subst asked
      simp [List.lookup_append, absent]
    · simp [List.lookup_append, List.lookup_cons, beq_false_of_ne asked]

/-- A key that was there keeps its place, and a new one comes last. -/
theorem keys_enter (entries : List (κ × ι)) (key : κ) (item : ι) :
    (enter (· == ·) entries key item).map Prod.fst =
      if entries.any (fun entry => entry.1 == key) then entries.map Prod.fst
      else entries.map Prod.fst ++ [key] := by
  unfold enter
  split
  · rw [List.map_map]
    apply List.map_congr_left
    intro entry _
    by_cases same : entry.1 = key <;> simp [same]
  · simp

/-- Pairs whose keys are all new are entered behind the others as they are. -/
theorem foldl_enter_of_new
    (pairs entries : List (κ × ι))
    (distinct : ((entries ++ pairs).map Prod.fst).Nodup) :
    pairs.foldl (fun entries pair => enter (· == ·) entries pair.1 pair.2) entries =
      entries ++ pairs := by
  induction pairs generalizing entries with
  | nil => simp
  | cons pair pairs entered =>
      have new : (entries.any fun entry => entry.1 == pair.1) = false := by
        rw [List.any_eq_false]
        intro entry member equal
        have split := List.nodup_append.mp (List.map_append ▸ distinct)
        exact split.2.2 entry.1 (List.mem_map_of_mem member) pair.1 (by simp)
          (by simpa using equal)
      simp only [List.foldl_cons]
      rw [enter, new, if_neg Bool.false_ne_true, entered _ (by simpa using distinct)]
      simp

/-- Pairs with distinct keys are entries as they are. -/
theorem ofPairs_of_nodup (pairs : List (κ × ι)) (distinct : (pairs.map Prod.fst).Nodup) :
    ofPairs (· == ·) pairs = pairs :=
  foldl_enter_of_new pairs [] distinct

end Lookup
end Entries
end BoundSql
