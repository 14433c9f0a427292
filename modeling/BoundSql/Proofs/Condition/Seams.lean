import BoundSql.Proofs.Condition.Placement

/-!
# Seams of joined filters

Sequences that are joined by a connective make the filter that one would put together
from their own filters: each of them numbered from where the ones before it stop, the
texts of those that are not empty with the connective between them, and the arguments
one after the other.  Nothing is written at a seam but the connective, and at the seam
of two sequences side by side it is `and`.
-/

namespace BoundSql
namespace Conditions

/-- Whether a sequence makes a filter. -/
def Accepted (conditions : Conditions) : Prop :=
  ∃ start fragment, Fragment.forFilter conditions start = .ok fragment

/-- A sequence that makes a filter does so from every positive start on. -/
theorem Accepted.exists_forFilter
    {conditions : Conditions}
    (accepted : conditions.Accepted)
    {start : Int}
    (positive : 1 ≤ start) :
    ∃ fragment, Fragment.forFilter conditions start = .ok fragment := by
  obtain ⟨_, _, made⟩ := accepted
  obtain rfl | ⟨chain, reads⟩ := Fragment.eq_nil_or_readsAs_of_forFilter made
  · exact ⟨_, Fragment.forFilter_nil start⟩
  · exact ⟨_, Fragment.forFilter_of_readsAs reads positive⟩

/-- It does not matter which of the seams of three sequences is made first. -/
instance connect_associative (connective : Connective) :
    Std.Associative (connect connective) where
  assoc a b c := by
    cases a with
    | nil => simp only [connect_nil_left]
    | cons first a =>
        cases b with
        | nil => simp only [connect_nil_left, connect_nil_right]
        | cons second b =>
            cases c with
            | nil => simp only [connect_nil_right]
            | cons third c => simp [connect]

/-- Joining sequences is joining the first one to the join of the others. -/
theorem connectAll_cons (connective : Connective) (first : Conditions) (others : List Conditions) :
    connectAll connective (first :: others) =
      connect connective first (connectAll connective others) := by
  rw [connectAll, List.foldl_cons, connect_nil_left]
  calc others.foldl (connect connective) first
    _ = others.foldl (connect connective) (connect connective first []) := by
      rw [connect_nil_right]
    _ = connect connective first (connectAll connective others) := List.foldl_assoc

end Conditions

namespace Fragment

open Conditions (connect connectAll)

/-- Filters of several sequences, each numbered from where those before it stop. -/
inductive Successive : Int → List Conditions → List Fragment → Prop
  | none (start : Int) : Successive start [] []
  | next {start : Int} {conditions : Conditions} {fragment : Fragment}
      {others : List Conditions} {fragments : List Fragment}
      (made : forFilter conditions start = .ok fragment)
      (successive : Successive (start + fragment.arguments.length) others fragments) :
      Successive start (conditions :: others) (fragment :: fragments)

/-- The texts of filters whose sequences are not empty. -/
def textsOf
    (dialect : Dialect)
    (sequences : List Conditions)
    (fragments : List Fragment) : List String :=
  ((sequences.zip fragments).filter fun (conditions, _) => !conditions.isEmpty).map
    fun (_, fragment) => fragment.text dialect

/-- A filter that is put together from filters with a connective between them. -/
structure Assembles
    (whole : Fragment)
    (connective : Connective)
    (sequences : List Conditions)
    (fragments : List Fragment) : Prop where
  text_eq : ∀ dialect, whole.text dialect =
    (" " ++ connective.symbol ++ " ").intercalate (textsOf dialect sequences fragments)
  arguments_eq : whole.arguments = fragments.flatMap Fragment.arguments

theorem textsOf_cons_nil
    (dialect : Dialect)
    (fragment : Fragment)
    (others : List Conditions)
    (fragments : List Fragment) :
    textsOf dialect ([] :: others) (fragment :: fragments) = textsOf dialect others fragments := rfl

theorem textsOf_cons_of_ne_nil
    (dialect : Dialect)
    {conditions : Conditions}
    (nonempty : conditions ≠ [])
    (fragment : Fragment)
    (others : List Conditions)
    (fragments : List Fragment) :
    textsOf dialect (conditions :: others) (fragment :: fragments) =
      fragment.text dialect :: textsOf dialect others fragments := by
  rw [textsOf, List.zip_cons_cons, List.filter_cons_of_pos (by simp [nonempty])]
  rfl

/-- There are texts exactly when there is something to join. -/
theorem textsOf_eq_nil_iff
    {start : Int}
    {sequences : List Conditions}
    {fragments : List Fragment}
    (successive : Successive start sequences fragments)
    (connective : Connective)
    (dialect : Dialect) :
    textsOf dialect sequences fragments = [] ↔ connectAll connective sequences = [] := by
  induction successive with
  | none start => exact ⟨fun _ => rfl, fun _ => rfl⟩
  | @next _ conditions _ others _ _ _ same =>
      rw [Conditions.connectAll_cons]
      by_cases empty : conditions = []
      · subst empty
        rw [textsOf_cons_nil, same, Conditions.connect_nil_left]
      · have present : connect connective conditions (connectAll connective others) ≠ [] := by
          unfold connect
          split <;> simp [empty]
        rw [textsOf_cons_of_ne_nil dialect empty]
        exact ⟨nofun, fun absent => absurd absent present⟩

section Seams

variable {a b : Conditions} {chain other : Chain} {start : Int}

/-- The text of two chains that are joined is that of the one, the connective, and that of the
other. -/
theorem text_join (dialect : Dialect) (connective : Connective) :
    ((chain.join connective other).filter start).text dialect =
      (chain.filter start).text dialect ++ (" " ++ connective.symbol ++ " ") ++
        (other.filter (start + chain.arguments.length)).text dialect := by
  have symbol : (Sql.ofText connective.symbol).render dialect = connective.symbol := by
    rw [Sql.ofText, Sql.render_cons, Sql.render_nil, String.append_empty]
    rfl
  have nonempty (start : Int) (chain : Chain) : (chain.parts start).map (Sql.render dialect) ≠ [] :=
    List.cons_ne_nil _ _
  rw [text_filter, text_filter, text_filter, Chain.parts_join, List.map_append, List.map_cons,
    String.intercalate_append_of_ne_nil (nonempty start chain) (List.cons_ne_nil _ _),
    String.intercalate_cons_of_ne_nil (nonempty _ other), symbol]
  simp only [String.append_assoc]

/-- A sequence that is joined to others is written in front of them. -/
theorem exists_forFilter_connect
    {first second : Fragment}
    (connective : Connective)
    (positive : 1 ≤ start)
    (madeFirst : forFilter a start = .ok first)
    (madeSecond : forFilter b (start + first.arguments.length) = .ok second) :
    ∃ whole, forFilter (connect connective a b) start = .ok whole ∧
      whole.arguments = first.arguments ++ second.arguments ∧
      (a = [] → whole = second) ∧ (b = [] → whole = first) ∧
      (a ≠ [] → b ≠ [] → ∀ dialect, whole.text dialect =
        first.text dialect ++ (" " ++ connective.symbol ++ " ") ++ second.text dialect) := by
  obtain rfl | ⟨chain, reads⟩ := eq_nil_or_readsAs_of_forFilter madeFirst
  · cases madeFirst
    rw [List.length_nil, Int.natCast_zero, Int.add_zero] at madeSecond
    refine ⟨second, by rw [Conditions.connect_nil_left, madeSecond], rfl, fun _ => rfl, ?_, ?_⟩
    · rintro rfl
      cases madeSecond
      rfl
    · exact fun absent => absurd rfl absent
  obtain rfl | ⟨other, readsOther⟩ := eq_nil_or_readsAs_of_forFilter madeSecond
  · cases madeSecond
    refine ⟨first, by rw [Conditions.connect_nil_right, madeFirst], ?_, ?_, fun _ => rfl, ?_⟩
    · rw [List.append_nil]
    · exact fun absent => absurd absent reads.ne_nil
    · exact fun _ absent => absurd rfl absent
  · rw [forFilter_of_readsAs reads positive] at madeFirst
    cases madeFirst
    have further : 1 ≤ start + ((chain.filter start).arguments.length : Int) := by omega
    rw [forFilter_of_readsAs readsOther further] at madeSecond
    cases madeSecond
    refine ⟨_, forFilter_of_readsAs (reads.connect connective readsOther) positive,
      Chain.arguments_join connective chain other, ?_, ?_, fun _ _ dialect => ?_⟩
    · exact fun absent => absurd absent reads.ne_nil
    · exact fun absent => absurd absent readsOther.ne_nil
    · exact text_join dialect connective

/-- Side by side, two sequences make the filter that they make when they are joined by `and`. -/
theorem forFilter_append_eq
    (first : a.Accepted)
    (second : b.Accepted)
    (positive : 1 ≤ start) :
    forFilter (a ++ b) start = forFilter (connect .and a b) start := by
  obtain ⟨_, _, madeFirst⟩ := first
  obtain ⟨_, _, madeSecond⟩ := second
  obtain rfl | ⟨chain, reads⟩ := eq_nil_or_readsAs_of_forFilter madeFirst
  · rw [Conditions.connect_nil_left, List.nil_append]
  obtain rfl | ⟨other, readsOther⟩ := eq_nil_or_readsAs_of_forFilter madeSecond
  · rw [Conditions.connect_nil_right, List.append_nil]
  · rw [forFilter_of_readsAs (reads.append readsOther) positive,
      forFilter_of_readsAs (reads.connect .and readsOther) positive]

end Seams

/-- Sequences that make filters make one when they are joined, which is put together from theirs. -/
theorem exists_assembles
    (connective : Connective)
    {sequences : List Conditions}
    (accepted : ∀ conditions ∈ sequences, conditions.Accepted)
    {start : Int}
    (positive : 1 ≤ start) :
    ∃ whole fragments, forFilter (connectAll connective sequences) start = .ok whole ∧
      Successive start sequences fragments ∧ whole.Assembles connective sequences fragments := by
  induction sequences generalizing start with
  | nil =>
      refine ⟨_, [], forFilter_nil start, .none start, fun dialect => ?_, rfl⟩
      rw [textsOf, List.zip_nil_left, List.filter_nil, List.map_nil, String.intercalate_nil]
      rfl
  | cons conditions others assembled =>
      obtain ⟨first, madeFirst⟩ :=
        (accepted conditions List.mem_cons_self).exists_forFilter positive
      have further : 1 ≤ start + (first.arguments.length : Int) := by omega
      obtain ⟨rest, fragments, madeRest, successive, assembles⟩ :=
        assembled (fun other member => accepted other (List.mem_cons_of_mem _ member)) further
      obtain ⟨whole, made, arguments, alone, last, between⟩ :=
        exists_forFilter_connect connective positive madeFirst madeRest
      refine ⟨whole, first :: fragments, ?_, .next madeFirst successive, fun dialect => ?_, ?_⟩
      · rw [Conditions.connectAll_cons, made]
      · by_cases empty : conditions = []
        · rw [alone empty, assembles.text_eq dialect, empty, textsOf_cons_nil]
        · rw [textsOf_cons_of_ne_nil dialect empty]
          have noTexts := textsOf_eq_nil_iff successive connective dialect
          by_cases nothing : connectAll connective others = []
          · rw [last nothing, noTexts.mpr nothing, String.intercalate_singleton]
          · rw [between empty nothing dialect, assembles.text_eq dialect,
              String.intercalate_cons_of_ne_nil fun absent => nothing (noTexts.mp absent)]
      · rw [arguments, assembles.arguments_eq, List.flatMap_cons]

/-- Joined by a connective, sequences that make filters make one from any positive start on.  It has
the texts of their own filters, each numbered from where those before it stop, with the connective
between those of sequences that are not empty, it has their arguments, and it stops behind all of
them.  Two sequences side by side make the filter that they make when they are joined by `and`. -/
theorem forFilter_joined
    (connective : Connective)
    {sequences : List Conditions}
    (accepted : ∀ conditions ∈ sequences, conditions.Accepted)
    {start : Int}
    (positive : 1 ≤ start) :
    (∃ whole fragments, forFilter (connectAll connective sequences) start = .ok whole ∧
        Successive start sequences fragments ∧ whole.Assembles connective sequences fragments ∧
        whole.nextIndex = start + (fragments.map fun fragment => fragment.arguments.length).sum) ∧
      ∀ a b : Conditions, a.Accepted → b.Accepted →
        ∃ fragment, forFilter (a ++ b) start = .ok fragment ∧
          forFilter (connect .and a b) start = .ok fragment := by
  constructor
  · obtain ⟨whole, fragments, made, successive, assembles⟩ :=
      exists_assembles connective accepted positive
    refine ⟨whole, fragments, made, successive, assembles, ?_⟩
    rw [nextIndex, (forFilter_eq_ok made).1, assembles.arguments_eq, List.length_flatMap]
  · intro a b first second
    obtain ⟨left, madeFirst⟩ := first.exists_forFilter positive
    have further : 1 ≤ start + (left.arguments.length : Int) := by omega
    obtain ⟨_, madeSecond⟩ := second.exists_forFilter further
    obtain ⟨whole, made, _⟩ := exists_forFilter_connect .and positive madeFirst madeSecond
    exact ⟨whole, by rw [forFilter_append_eq first second positive, made], made⟩

theorem forFilter_joined_around_empty :
    (∃ whole fragments, forFilter (connectAll .or [beside, [], beside.drop 2]) 4 = .ok whole ∧
        Successive 4 [beside, [], beside.drop 2] fragments ∧
        whole.Assembles .or [beside, [], beside.drop 2] fragments ∧
        whole.text .postgres = "a=$4 or b<c.d and e!=$5 or b<c.d and e!=$6") ∧
      ∃ fragment, forFilter (beside ++ beside) 4 = .ok fragment ∧
        forFilter (connect .and beside beside) 4 = .ok fragment := by
  have acceptedBeside : beside.Accepted := ⟨4, _, rfl⟩
  have accepted : ∀ conditions ∈ [beside, [], beside.drop 2], conditions.Accepted := by
    intro conditions member
    simp only [List.mem_cons, List.not_mem_nil, or_false] at member
    obtain rfl | rfl | rfl := member
    · exact acceptedBeside
    · exact ⟨4, _, rfl⟩
    · exact ⟨4, _, rfl⟩
  have joined := forFilter_joined .or accepted (show (1 : Int) ≤ 4 by decide)
  obtain ⟨whole, fragments, made, successive, assembles, _⟩ := joined.1
  refine ⟨⟨whole, fragments, made, successive, assembles, ?_⟩,
    joined.2 beside beside acceptedBeside acceptedBeside⟩
  cases made
  decide +kernel

end Fragment
end BoundSql
