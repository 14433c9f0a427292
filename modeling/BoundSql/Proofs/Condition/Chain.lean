import BoundSql.Proofs.Condition.Shape

/-!
# Chains of predicates

A well-shaped sequence that is not empty reads as a chain: a first predicate, and links
that each join one more predicate to the one before.  A link has the connective that
stands between the two, or `and` where the two are side by side.

A filter depends on the chain of its sequence alone.  It is written as comparisons and
connectives by turns, and its slots are numbered in a row.  Sequences that are joined
read as one chain, so what is written for them is what is written for the first one, the
connective, and what is written for the second one from the next number on.
-/

namespace BoundSql

/-- A predicate with the connective that joins it to the predicate before. -/
structure Link where
  connective : Connective
  predicate : Predicate

/-- Predicates in a row, joined by connectives. -/
structure Chain where
  first : Predicate
  links : List Link

/-- A predicate as a comparison of a filter, with a slot for the value that it compares with. -/
def Predicate.comparison (next : Int) (p : Predicate) : Sql :=
  if p.isColumn then
    [.text (p.field ++ p.operator.symbol ++ p.value.display)]
  else
    [.text (p.field ++ p.operator.symbol), .slot next]

namespace Link

/-- The arguments of links, in their order. -/
def argumentsOf (links : List Link) : List Argument :=
  links.flatMap fun link => link.predicate.arguments

/-- The connectives and the comparisons of links by turns, numbered from `next` on. -/
def partsFrom (next : Int) : List Link → List Sql
  | [] => []
  | link :: links =>
      Sql.ofText link.connective.symbol :: link.predicate.comparison next ::
        partsFrom (next + link.predicate.arguments.length) links

@[simp] theorem argumentsOf_nil : argumentsOf [] = [] := rfl

@[simp] theorem argumentsOf_cons (link : Link) (links : List Link) :
    argumentsOf (link :: links) = link.predicate.arguments ++ argumentsOf links := rfl

@[simp] theorem argumentsOf_append (links more : List Link) :
    argumentsOf (links ++ more) = argumentsOf links ++ argumentsOf more :=
  List.flatMap_append

/-- Links one after the other are numbered on. -/
theorem partsFrom_append (next : Int) (links more : List Link) :
    partsFrom next (links ++ more) =
      partsFrom next links ++ partsFrom (next + (argumentsOf links).length) more := by
  induction links generalizing next with
  | nil => simp [partsFrom]
  | cons link links appended =>
      rw [List.cons_append, partsFrom, appended, argumentsOf_cons, List.length_append,
        Int.natCast_add, ← Int.add_assoc]
      rfl

end Link

namespace Chain

/-- The predicates of a chain, in their order. -/
def predicates (chain : Chain) : List Predicate :=
  chain.first :: chain.links.map Link.predicate

/-- The arguments of a chain, in their order. -/
def arguments (chain : Chain) : List Argument :=
  chain.first.arguments ++ Link.argumentsOf chain.links

/-- What is written for a chain: a comparison, and then connectives and comparisons by turns. -/
def parts (start : Int) (chain : Chain) : List Sql :=
  chain.first.comparison start ::
    Link.partsFrom (start + chain.first.arguments.length) chain.links

/-- The filter of a chain. -/
def filter (start : Int) (chain : Chain) : Fragment where
  shape := .filter
  parts := chain.parts start
  arguments := chain.arguments
  columns := []
  start := start

/-- Two chains as one, the second one joined to the first by a connective. -/
def join (connective : Connective) (chain other : Chain) : Chain where
  first := chain.first
  links := chain.links ++ ⟨connective, other.first⟩ :: other.links

theorem arguments_join (connective : Connective) (chain other : Chain) :
    (chain.join connective other).arguments = chain.arguments ++ other.arguments := by
  simp [join, arguments]

/-- The second one of two chains is numbered from where the first one stops. -/
theorem parts_join (start : Int) (connective : Connective) (chain other : Chain) :
    (chain.join connective other).parts start =
      chain.parts start ++ Sql.ofText connective.symbol ::
        other.parts (start + chain.arguments.length) := by
  simp only [join, parts, arguments, Link.partsFrom_append, Link.partsFrom, List.cons_append,
    List.length_append, Int.natCast_add, Int.add_assoc]

end Chain

namespace Conditions

/-- How the members behind a predicate read as links: a connective joins the predicate behind it,
and a predicate without a connective is joined by `and`. -/
inductive Linked : Conditions → List Link → Prop
  | empty : Linked [] []
  | beside (p : Predicate) {rest : Conditions} {links : List Link} :
      Linked rest links → Linked (.predicate p :: rest) (⟨.and, p⟩ :: links)
  | joined (c : Connective) (p : Predicate) {rest : Conditions} {links : List Link} :
      Linked rest links → Linked (.connective c :: .predicate p :: rest) (⟨c, p⟩ :: links)

/-- How a sequence reads as a chain. -/
inductive ReadsAs : Conditions → Chain → Prop
  | chain (first : Predicate) {rest : Conditions} {links : List Link} :
      Linked rest links → ReadsAs (.predicate first :: rest) ⟨first, links⟩

theorem Linked.append
    {a b : Conditions}
    {links more : List Link}
    (first : Linked a links)
    (second : Linked b more) :
    Linked (a ++ b) (links ++ more) := by
  induction first with
  | empty => exact second
  | beside p _ rest => exact .beside p rest
  | joined c p _ rest => exact .joined c p rest

/-- A well-shaped sequence is empty or reads as a chain. -/
theorem Shaped.eq_nil_or_readsAs {conditions : Conditions} (shaped : conditions.Shaped) :
    conditions = [] ∨ ∃ chain, conditions.ReadsAs chain := by
  induction shaped with
  | empty => exact .inl rfl
  | predicate p _ restReads =>
      obtain rfl | ⟨_, reads⟩ := restReads
      · exact .inr ⟨_, .chain p .empty⟩
      · cases reads with
        | chain q linked => exact .inr ⟨_, .chain p (.beside q linked)⟩
  | connected p c q _ restReads =>
      obtain absent | ⟨_, reads⟩ := restReads
      · cases absent
      · cases reads with
        | chain q linked => exact .inr ⟨_, .chain p (.joined c q linked)⟩

namespace ReadsAs

variable {a b : Conditions} {chain other : Chain}

theorem ne_nil (reads : a.ReadsAs chain) : a ≠ [] := by
  cases reads with
  | chain first linked => exact List.cons_ne_nil _ _

/-- A chain has the predicates of the sequence, in their order. -/
theorem predicates_eq (reads : a.ReadsAs chain) : a.predicates = chain.predicates := by
  cases reads with
  | @chain first rest links linked =>
      have linkedPredicates : rest.predicates = links.map Link.predicate := by
        induction linked with
        | empty => rfl
        | beside p _ same => exact congrArg (p :: ·) same
        | joined c p _ same => exact congrArg (p :: ·) same
      exact congrArg (first :: ·) linkedPredicates

/-- Side by side, two sequences read as two chains that are joined by `and`. -/
theorem append (first : a.ReadsAs chain) (second : b.ReadsAs other) :
    ReadsAs (a ++ b) (chain.join .and other) := by
  cases first with
  | chain p linked =>
      cases second with
      | chain q linkedOther => exact .chain p (linked.append (.beside q linkedOther))

/-- Joined by a connective, two sequences read as two chains that are joined by it. -/
theorem connect (connective : Connective) (first : a.ReadsAs chain) (second : b.ReadsAs other) :
    ReadsAs (Conditions.connect connective a b) (chain.join connective other) := by
  cases first with
  | chain p linked =>
      cases second with
      | chain q linkedOther => exact .chain p (linked.append (.joined connective q linkedOther))

end ReadsAs
end Conditions

namespace Fragment

/-- A predicate is written as a comparison with any positive number. -/
theorem bindPredicate_of_pos {next : Int} (positive : 1 ≤ next) (p : Predicate) :
    bindPredicate p.operator.symbol next p = .ok (p.comparison next, p.arguments) := by
  unfold bindPredicate slotAt Predicate.comparison Predicate.arguments
  cases p.isColumn with
  | true => rfl
  | false =>
      rw [if_neg (show ¬next < 1 by omega)]
      rfl

/-- Links pass the check of the shape behind a predicate. -/
theorem checkShape_of_linked
    {rest : Conditions}
    {links : List Link}
    (linked : rest.Linked links)
    (position : Nat) :
    checkShape false position rest = .ok () := by
  induction linked generalizing position with
  | empty => rfl
  | beside p _ passes => exact passes (position + 1)
  | joined c p _ passes => exact passes (position + 1 + 1)

/-- A predicate is written in front of the members behind it, after an `and` if a predicate stands
before it. -/
theorem filterParts_predicate
    {next : Int}
    (positive : 1 ≤ next)
    {p : Predicate}
    {position : Nat}
    {rest : Conditions}
    {parts : List Sql}
    {bound : List Argument}
    (later : filterParts true (next + p.arguments.length) (position + 1) rest = .ok (parts, bound))
    (joined : Bool) :
    filterParts joined next position (.predicate p :: rest) =
      .ok
        ((if joined then [Sql.ofText Connective.and.symbol] else []) ++ p.comparison next :: parts,
          p.arguments ++ bound) := by
  rw [filterParts, bindPredicate_of_pos positive]
  refine bind_eq_ok.mpr ⟨(p.comparison next, p.arguments), rfl, ?_⟩
  refine bind_eq_ok.mpr ⟨(parts, bound), later, ?_⟩
  cases joined <;> rfl

/-- What is written behind a predicate for the members that read as links. -/
theorem filterParts_of_linked
    {rest : Conditions}
    {links : List Link}
    (linked : rest.Linked links)
    {next : Int}
    (positive : 1 ≤ next)
    (position : Nat) :
    filterParts true next position rest =
      .ok (Link.partsFrom next links, Link.argumentsOf links) := by
  induction linked generalizing next position with
  | empty => rfl
  | beside p _ written =>
      exact filterParts_predicate positive (written (by omega) (position + 1)) true
  | joined c p _ written =>
      have further : 1 ≤ next + (p.arguments.length : Int) := by omega
      have first := filterParts_predicate positive (written further (position + 1 + 1)) false
      exact bind_eq_ok.mpr ⟨_, first, rfl⟩

/-- The filter of a sequence is the filter of the chain that it reads as. -/
theorem forFilter_of_readsAs
    {conditions : Conditions}
    {chain : Chain}
    (reads : conditions.ReadsAs chain)
    {start : Int}
    (positive : 1 ≤ start) :
    forFilter conditions start = .ok (chain.filter start) := by
  cases reads with
  | @chain first rest links linked =>
      have passes : checkShape true 0 (.predicate first :: rest) = .ok () :=
        checkShape_of_linked linked 1
      have further : 1 ≤ start + (first.arguments.length : Int) := by omega
      have written := filterParts_predicate positive (filterParts_of_linked linked further 1) false
      exact bind_eq_ok.mpr ⟨(), passes, bind_eq_ok.mpr ⟨_, written, rfl⟩⟩

/-- The filter of an empty sequence has no parts. -/
theorem forFilter_nil (start : Int) :
    forFilter [] start = .ok ⟨.filter, [], [], [], start⟩ := rfl

/-- Filters are made of sequences that are empty or read as chains. -/
theorem eq_nil_or_readsAs_of_forFilter
    {conditions : Conditions}
    {start : Int}
    {fragment : Fragment}
    (made : forFilter conditions start = .ok fragment) :
    conditions = [] ∨ ∃ chain, conditions.ReadsAs chain :=
  (shaped_of_forFilter made).eq_nil_or_readsAs

end Fragment
end BoundSql
