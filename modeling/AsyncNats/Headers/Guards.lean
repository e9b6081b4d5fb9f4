import AsyncNats.Headers.Traversal

/-! # The two guards of a traversal

A loop over the headers can test `it != end` or `!(it == end)`. `operator!=` compares the
pointers. `operator==` was meant to be its negation and compares them in the same way, so it
holds of iterators that differ: the second loop is not entered when there are headers, and
uses the null pointer of `end` when there are none.
-/

namespace AsyncNats.Headers

variable {Name : Type}

namespace HeadersView

/-- `!(it == end)`. -/
def notEqual (iterator : HeaderIterator) : Bool := !iterator.eq iterEnd

/-- Two loops visit the same headers and end in the same state. -/
def SameWalk (first second : Except Failure (List (Visit Name) × HeaderIterator × Heap Name)) :
    Prop :=
  ∃ visits others iterator after, first = .ok (visits, iterator, after) ∧
    second = .ok (others, iterator, after) ∧ visits.map Visit.key = others.map Visit.key

end HeadersView

open HeadersView

theorem HeaderIterator.eq_self (iterator : HeaderIterator) : iterator.eq iterator = false := by
  rw [HeaderIterator.eq, bne_self_eq_false]

/-- A loop with `==` over at least one header is not entered. -/
theorem HeadersView.walk_notEqual_of_cons {names : HeaderNames Name} {rounds : Nat}
    {heap : Heap Name} {map : HeaderMap Name} {entry : Entry Name} {rest : List (Entry Name)}
    (some_left : map.entries = entry :: rest) :
    walk notEqual names rounds heap (some map) =
      .ok ([], ⟨some heap.length⟩, heap ++ [standing (entry :: rest)]) := by
  rw [walk, iterBegin_of_some, some_left]
  cases rounds with
  | zero => rfl
  | succ rounds => rfl

/-- A loop with `==` over no header reads the header of `end`. -/
theorem HeadersView.walkFrom_notEqual_of_end (names : HeaderNames Name) (rounds : Nat)
    (heap : Heap Name) : walkFrom notEqual names (rounds + 1) iterEnd heap = .error .null := rfl

theorem HeadersView.walk_notEqual_of_nil {names : HeaderNames Name} {rounds : Nat}
    {heap : Heap Name} {headers : Option (HeaderMap Name)} (empty : entries headers = []) :
    walk notEqual names (rounds + 1) heap headers = .error .null := by
  cases headers with
  | none => rfl
  | some map =>
      have nothing_left : map.entries = [] := empty
      rw [walk, iterBegin_of_some, nothing_left]
      exact walkFrom_notEqual_of_end names rounds (heap ++ [none])

/-- The traversal of at least one header visits one. -/
theorem HeadersView.visits_ne_nil {names : HeaderNames Name} {rounds : Nat} {heap after : Heap Name}
    {map : HeaderMap Name} {visits : List (Visit Name)} {iterator : HeaderIterator}
    (some_left : map.entries ≠ [])
    (walked : traverse names (rounds + 1) heap (some map) = .ok (visits, iterator, after)) :
    visits ≠ [] := by
  obtain ⟨seen, loop, shown⟩ := walkFrom_differs names heap (rounds + 1) map.entries
  rw [traverse_of_some, loop] at walked
  cases walked
  rintro rfl
  have count := shown.length_eq
  rw [List.length_nil, List.length_take] at count
  have positive := List.length_pos_of_ne_nil some_left
  omega

/-- For every message the two loops differ as soon as they test their guard, and for all
iterators the two operators agree where one should deny the other. -/
theorem guards_differ (names : HeaderNames Name) (heap : Heap Name)
    (headers : Option (HeaderMap Name)) (rounds : Nat) :
    ¬ SameWalk (walk notEqual names (rounds + 1) heap headers)
        (walk differs names (rounds + 1) heap headers) ∧
      (∀ iterator o : HeaderIterator, ¬ (iterator.eq o = true ↔ ¬ iterator.ne o = true)) ∧
      ∀ iterator : HeaderIterator, ¬ iterator.eq iterator = true := by
  refine ⟨?_, fun iterator o opposite => iff_not_self opposite, fun iterator same => ?_⟩
  · rintro ⟨visits, others, iterator, after, first, second, keys⟩
    cases left : entries headers with
    | nil =>
        rw [walk_notEqual_of_nil left] at first
        cases first
    | cons entry rest =>
        cases headers with
        | none => cases left
        | some map =>
            rw [walk_notEqual_of_cons left] at first
            cases first
            have some_left : map.entries ≠ [] := by
              rw [show map.entries = entry :: rest from left]
              exact List.cons_ne_nil _ _
            exact visits_ne_nil some_left second (List.map_eq_nil_iff.mp keys.symm)
  · rw [HeaderIterator.eq_self] at same
    cases same

/-- One header is visited by one loop only. -/
theorem not_sameWalk_of_one :
    ¬ ∀ headers : Option (HeaderMap Bytes), ∀ rounds,
      SameWalk (walk notEqual .visible rounds [] headers)
        (walk differs .visible rounds [] headers) := by
  intro same
  obtain ⟨visits, others, iterator, after, first, second, _⟩ :=
    same (some (AList.insert [65] ⟨[[1]], by decide⟩ ∅)) 1
  cases first
  cases second

end AsyncNats.Headers
