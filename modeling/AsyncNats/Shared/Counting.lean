import AsyncNats.Shared.Basic

/-! # The counters count the holders

Whatever the objects do to each other, the counter of a live Rust object is the
number of the C++ objects that hold its pointer, so the step that removes its last
holder frees it and no step touches a freed one.
-/

namespace AsyncNats.Shared

open Sync Ownership Transition

/-- An object that can be copied: no view, and no error that was moved from. -/
def Copyable : Wrapper Class → Prop
  | ⟨.message, _⟩ => True
  | ⟨.headersView, _⟩ => False
  | ⟨.connectionError, raw⟩ | ⟨.requestError, raw⟩ => raw ≠ none

/-- The objects of the step are there, of a class that has it and not there yet if it makes
them, and no error is copied that was moved from. Nothing is said of the Rust objects. -/
def Applies (state : State) : Event → Prop
  | .construct object kind => kind ≠ .headersView ∧ state.objects.lookup object = none
  | .constructNull object => state.objects.lookup object = none
  | .copyConstruct source object =>
      state.objects.lookup object = none ∧
        ∃ wrapper, state.objects.lookup source = some wrapper ∧ Copyable wrapper
  | .moveConstruct source object =>
      state.objects.lookup object = none ∧ ∃ wrapper, state.objects.lookup source = some wrapper
  | .copyAssign target source =>
      ∃ old wrapper, state.objects.lookup target = some old ∧
        state.objects.lookup source = some wrapper ∧ old.kind = wrapper.kind ∧
          old.kind ≠ .headersView ∧ (target = source ∨ Copyable wrapper)
  | .moveAssign target source =>
      ∃ old wrapper, state.objects.lookup target = some old ∧
        state.objects.lookup source = some wrapper ∧ old.kind = wrapper.kind
  | .headers source object =>
      state.objects.lookup object = none ∧
        ∃ raw, state.objects.lookup source = some ⟨.message, raw⟩
  | .destroy object => ∃ wrapper, state.objects.lookup object = some wrapper

variable {state next : State} {event : Event}

theorem copyable_of_clone {counters copied : Counters} {wrapper : Wrapper Class}
    (cloned : State.clone counters wrapper = some copied) : Copyable wrapper := by
  obtain ⟨kind, raw⟩ := wrapper
  cases kind with
  | message => trivial
  | headersView => cases cloned
  | connectionError | requestError =>
      rintro rfl
      cases cloned

/-- A step that is defined applies. -/
theorem applies_of_step (taken : step state event = some next) : Applies state event := by
  cases event with
  | construct object kind =>
      simp only [step, State.construct, Option.ite_none_right_eq_some] at taken
      exact taken.1
  | constructNull object =>
      simp only [step, State.constructNull, Option.ite_none_right_eq_some] at taken
      exact taken.1
  | copyConstruct source object =>
      simp only [step, State.copyConstruct] at taken
      split at taken
      · next fresh found =>
          obtain ⟨_, cloned, _⟩ := Option.map_eq_some_iff.mp taken
          exact ⟨fresh, _, found, copyable_of_clone cloned⟩
      · cases taken
  | moveConstruct source object =>
      simp only [step, State.moveConstruct] at taken
      split at taken
      · next fresh found => exact ⟨fresh, _, found⟩
      · cases taken
  | copyAssign target source =>
      simp only [step, State.copyAssign] at taken
      split at taken
      · next kind raw wrapper found given =>
          rw [Option.ite_none_left_eq_some] at taken
          obtain ⟨classes, taken⟩ := taken
          rw [not_or, not_not] at classes
          refine ⟨_, wrapper, found, given, classes.1, classes.2, ?_⟩
          by_cases same : target = source
          · exact .inl same
          · rw [if_neg same, Option.bind_eq_some_iff] at taken
            obtain ⟨_, _, mapped⟩ := taken
            obtain ⟨_, cloned, _⟩ := Option.map_eq_some_iff.mp mapped
            exact .inr (copyable_of_clone cloned)
      · cases taken
  | moveAssign target source =>
      simp only [step, State.moveAssign] at taken
      split at taken
      · next kind raw wrapper found given =>
          rw [Option.ite_none_left_eq_some, not_not] at taken
          exact ⟨_, wrapper, found, given, taken.1⟩
      · cases taken
  | headers source object =>
      simp only [step, State.headers] at taken
      split at taken
      · next raw fresh found => exact ⟨fresh, raw, found⟩
      · cases taken
  | destroy object =>
      simp only [step, State.destroy] at taken
      split at taken
      · next found => exact ⟨_, found⟩
      · cases taken

/-- The counters are those of the objects' pointers, and new Rust objects are new. -/
structure Shares (state : State) : Prop where
  counted : Counted state.counters (Wrappers.holders state.objects)
  created : ∀ pointer ∈ Wrappers.holders state.objects, pointer < state.created

/-- Objects that hold no new pointer, with the counters to match. -/
theorem Shares.change (shares : Shares state) {counters : Counters} (objects : Wrappers Class)
    (counted : Counted counters (Wrappers.holders objects))
    (subset : ∀ pointer ∈ Wrappers.holders objects, pointer ∈ Wrappers.holders state.objects) :
    Shares { state with counters, objects } where
  counted := counted
  created := fun pointer member => shares.created pointer (subset pointer member)

theorem mem_holders_of_erase {objects : Wrappers Class} {object : ObjectId} {pointer : Pointer}
    (member : pointer ∈ Wrappers.holders (AList.erase object objects)) :
    pointer ∈ Wrappers.holders objects :=
  (Wrappers.holders_perm objects object).mem_iff.mpr (List.mem_append_right _ member)

/-- Cloning what a holder holds makes one more holder. -/
theorem clone_counted {counters : Counters} {holders : List Pointer} {wrapper : Wrapper Class}
    (counted : Counted counters holders) (copyable : Copyable wrapper)
    (held : ∀ pointer ∈ wrapper.raw, pointer ∈ holders) :
    ∃ copied, State.clone counters wrapper = some copied ∧
      Counted copied (wrapper.raw.toList ++ holders) := by
  obtain ⟨kind, raw⟩ := wrapper
  cases kind with
  | message => exact counted.retainRaw held
  | headersView => exact copyable.elim
  | connectionError | requestError =>
      cases raw with
      | none => exact (copyable rfl).elim
      | some pointer => exact counted.retain (held pointer rfl)

/-- A new object that holds nothing, or what another one holds too. -/
theorem Shares.add (shares : Shares state) (wrapper : Wrapper Class) {counters : Counters}
    {object : ObjectId} (fresh : state.objects.lookup object = none)
    (held : ∀ pointer ∈ wrapper.raw, pointer ∈ Wrappers.holders state.objects)
    (counted : Counted counters (wrapper.raw.toList ++ Wrappers.holders state.objects)) :
    Shares { state with counters, objects := state.objects.insert object wrapper } := by
  have holders := Wrappers.holders_insert_new fresh wrapper
  refine shares.change (AList.insert object wrapper state.objects) (holders ▸ counted) ?_
  intro pointer member
  rw [holders] at member
  rcases List.mem_append.mp member with new | old
  · exact held pointer (Option.mem_toList.mp new)
  · exact old

/-- Releasing what one object holds leaves the counters of the others. -/
theorem Shares.release (shares : Shares state) {object : ObjectId} {wrapper : Wrapper Class}
    {rest : List Pointer} (found : state.objects.lookup object = some wrapper)
    (others : ((Wrappers.raw state.objects object).toList ++ rest).Perm
      (Wrappers.holders state.objects)) :
    ∃ counters, state.counters.releaseRaw wrapper.raw = some counters ∧
      Counted counters rest := by
  rw [Wrappers.raw_of_lookup found] at others
  exact (shares.counted.perm others.symm).releaseRaw

/-- Moving makes no new holders. -/
theorem mem_holders_of_move {objects : Wrappers Class} {source target : ObjectId}
    {wrapper : Wrapper Class} (found : objects.lookup source = some wrapper)
    (distinct : source ≠ target) {pointer : Pointer}
    (member : pointer ∈ Wrappers.holders (Wrappers.move objects source target)) :
    pointer ∈ Wrappers.holders objects :=
  (Wrappers.holders_move found distinct).mem_iff.mp (List.mem_append_right _ member)

theorem Shares.construct (shares : Shares state) {object : ObjectId} {kind : Class}
    (view : kind ≠ .headersView) (fresh : state.objects.lookup object = none) :
    ∃ next, state.construct object kind = some next ∧ Shares next := by
  have holders := Wrappers.holders_insert_new fresh (⟨kind, some state.created⟩ : Wrapper Class)
  refine ⟨_, if_pos ⟨view, fresh⟩, ?_, ?_⟩
  · rw [holders]
    exact shares.counted.create fun member => Nat.lt_irrefl _ (shares.created _ member)
  · intro pointer member
    rw [holders] at member
    rcases List.mem_cons.mp member with rfl | old
    · exact Nat.lt_succ_self _
    · exact Nat.lt_succ_of_lt (shares.created pointer old)

theorem Shares.copyAssign (shares : Shares state) {target source : ObjectId}
    {old wrapper : Wrapper Class} (found : state.objects.lookup target = some old)
    (given : state.objects.lookup source = some wrapper) (same_class : old.kind = wrapper.kind)
    (view : old.kind ≠ .headersView) (copyable : target = source ∨ Copyable wrapper) :
    ∃ next, state.copyAssign target source = some next ∧ Shares next := by
  have classes : ¬ (old.kind ≠ wrapper.kind ∨ old.kind = .headersView) :=
    not_or.mpr ⟨not_not_intro same_class, view⟩
  by_cases self : target = source
  · exact ⟨state, by simp only [State.copyAssign, found, given, if_neg classes, if_pos self],
      shares⟩
  · obtain ⟨released, freed, counted⟩ :=
      shares.release found (Wrappers.holders_perm state.objects target).symm
    have still : (state.objects.erase target).lookup source = some wrapper := by
      rw [AList.lookup_erase_ne fun same => self same.symm]
      exact given
    obtain ⟨counters, cloned, counted⟩ :=
      clone_counted counted (copyable.resolve_left self) (Wrappers.mem_holders still)
    have holders := Wrappers.holders_insert state.objects target wrapper
    refine ⟨_, ?_, shares.change (AList.insert target wrapper state.objects) (holders ▸ counted) ?_⟩
    · simp only [State.copyAssign, found, given, if_neg classes, if_neg self, freed,
        Option.bind_some, cloned, Option.map_some]
    · intro pointer member
      rw [holders] at member
      rcases List.mem_append.mp member with new | others
      · exact Wrappers.mem_holders given pointer (Option.mem_toList.mp new)
      · exact mem_holders_of_erase others

theorem Shares.moveAssign (shares : Shares state) {target source : ObjectId}
    {old wrapper : Wrapper Class} (found : state.objects.lookup target = some old)
    (given : state.objects.lookup source = some wrapper) (same_class : old.kind = wrapper.kind) :
    ∃ next, state.moveAssign target source = some next ∧ Shares next := by
  have classes : ¬ old.kind ≠ wrapper.kind := not_not_intro same_class
  by_cases self : target = source
  · exact ⟨state, by simp only [State.moveAssign, found, given, if_neg classes, if_pos self],
      shares⟩
  · have distinct : source ≠ target := fun same => self same.symm
    obtain ⟨counters, released, counted⟩ :=
      shares.release found (Wrappers.holders_move given distinct)
    refine ⟨_, ?_, shares.change _ counted fun _ => mem_holders_of_move given distinct⟩
    simp only [State.moveAssign, found, given, if_neg classes, if_neg self, released,
      Option.map_some]

/-- A step that applies is defined, and the counters still count the holders. -/
theorem Shares.step (shares : Shares state) (applies : Applies state event) :
    ∃ next, step state event = some next ∧ Shares next := by
  cases event with
  | construct object kind => exact shares.construct applies.1 applies.2
  | constructNull object =>
      refine ⟨_, if_pos applies, shares.add ⟨.message, none⟩ applies ?_ shares.counted⟩
      intro pointer held
      cases held
  | copyConstruct source object =>
      obtain ⟨fresh, wrapper, found, copyable⟩ := applies
      have held := Wrappers.mem_holders found
      obtain ⟨counters, cloned, counted⟩ := clone_counted shares.counted copyable held
      refine ⟨_, ?_, shares.add wrapper fresh held counted⟩
      simp only [Shared.step, State.copyConstruct, fresh, found, cloned, Option.map_some]
  | moveConstruct source object =>
      obtain ⟨fresh, wrapper, found⟩ := applies
      have moved := Wrappers.holders_move_new found fresh
      refine ⟨_, ?_, shares.change _ (shares.counted.perm moved.symm)
        fun _ => moved.mem_iff.mp⟩
      simp only [Shared.step, State.moveConstruct, fresh, found]
  | copyAssign target source =>
      obtain ⟨old, wrapper, found, given, same_class, view, copyable⟩ := applies
      exact shares.copyAssign found given same_class view copyable
  | moveAssign target source =>
      obtain ⟨old, wrapper, found, given, same_class⟩ := applies
      exact shares.moveAssign found given same_class
  | headers source object =>
      obtain ⟨fresh, raw, found⟩ := applies
      have held := Wrappers.mem_holders found
      obtain ⟨counters, retained, counted⟩ := shares.counted.retainRaw held
      have viewed := shares.add ⟨.headersView, raw⟩ fresh held counted
      refine ⟨_, ?_, viewed⟩
      simp only [Shared.step, State.headers, fresh, found, retained, Option.map_some]
  | destroy object =>
      obtain ⟨wrapper, found⟩ := applies
      obtain ⟨counters, released, counted⟩ :=
        shares.release found (Wrappers.holders_perm state.objects object).symm
      refine ⟨_, ?_, shares.change _ counted fun _ => mem_holders_of_erase⟩
      simp only [Shared.step, State.destroy, found, released, Option.map_some]

theorem Shares.of_step (shares : Shares state) (taken : Shared.step state event = some next) :
    Shares next := by
  obtain ⟨after, defined, shares⟩ := shares.step (applies_of_step taken)
  cases taken.symm.trans defined
  exact shares

theorem shares_of_reachable (reached : system.Reachable state) : Shares state := by
  refine System.Reachable.induction (motive := Shares)
    ⟨fun pointer => rfl, fun pointer member => (List.not_mem_nil member).elim⟩ ?_ reached
  exact fun _ _ _ _ shares taken => shares.of_step taken

/-- The number of C++ objects that hold a pointer. -/
def State.holderCount (state : State) (pointer : Pointer) : Nat :=
  state.objects.entries.countP fun entry => entry.2.raw = some pointer

theorem count_holders (state : State) (pointer : Pointer) :
    (Wrappers.holders state.objects).count pointer = state.holderCount pointer := by
  unfold State.holderCount Wrappers.holders Table.gather
  induction state.objects.entries with
  | nil => rfl
  | cons entry rest ih =>
      rw [List.flatMap_cons, List.count_append, ih, List.countP_cons, Nat.add_comm]
      congr 1
      beta_reduce
      cases held : entry.2.raw with
      | none => rfl
      | some other =>
          rw [Option.toList_some, List.count_singleton]
          by_cases same : other = pointer
          · subst same
            simp only [beq_self_eq_true, ↓reduceIte, decide_true]
          · simp only [beq_iff_eq, same, ↓reduceIte, Option.some.injEq, decide_false,
              Bool.false_eq_true]

/-- What the counters guarantee in one state. -/
structure CountsHold (state : State) : Prop where
  /-- The counter of a live Rust object is the number of its holders. -/
  counter : ∀ pointer refs, state.counters.lookup pointer = some refs →
    refs = state.holderCount pointer ∧ 0 < refs
  /-- What an object holds is live. -/
  live : ∀ object wrapper, state.objects.lookup object = some wrapper →
    ∀ pointer ∈ wrapper.raw, ∃ refs, state.counters.lookup pointer = some refs
  /-- No step of the application touches a freed object. -/
  untouched : ∀ event, Applies state event → ∃ next, step state event = some next
  /-- A step frees a live object exactly if it leaves it without a holder. -/
  freed : ∀ event next, step state event = some next → ∀ pointer refs,
    state.counters.lookup pointer = some refs →
      (next.counters.lookup pointer = none ↔ next.holderCount pointer = 0)

/-- The counters are right in every reachable state. -/
theorem counts_hold (reached : system.Reachable state) : CountsHold state := by
  have shares := shares_of_reachable reached
  exact
    { counter := fun pointer refs found => by
        have counted := shares.counted pointer
        rw [found] at counted
        by_cases member : pointer ∈ Wrappers.holders state.objects
        · rw [if_pos member] at counted
          rw [← count_holders, Option.some.inj counted]
          exact ⟨rfl, List.count_pos_iff.mpr member⟩
        · rw [if_neg member] at counted
          cases counted
      live := fun object wrapper found pointer held =>
        ⟨_, shares.counted.lookup_of_mem (Wrappers.mem_holders found pointer held)⟩
      untouched := fun event applies => by
        obtain ⟨next, defined, _⟩ := shares.step applies
        exact ⟨next, defined⟩
      freed := fun event next taken pointer refs _ => by
        have counted := (shares_of_reachable (reached.step taken)).counted pointer
        rw [counted, ← count_holders, List.count_eq_zero]
        by_cases member : pointer ∈ Wrappers.holders next.objects
        · rw [if_pos member]
          exact iff_of_false (Option.some_ne_none _) (not_not_intro member)
        · rw [if_neg member]
          exact iff_of_true rfl member }

/-- A message, a copy and a view share one counter; two objects that hold the same message
are assigned to each other, and then all but the view are destroyed. -/
theorem counts_hold_of_sharing :
    ∃ state,
      system.run
        [.construct 0 .message, .copyConstruct 0 1, .headers 1 2, .copyAssign 1 0,
          .moveAssign 0 1, .construct 3 .connectionError, .copyConstruct 3 4,
          .moveConstruct 3 5, .destroy 0, .destroy 1] = some state ∧
      state.counters.entries = [⟨0, 1⟩, ⟨1, 2⟩] ∧ CountsHold state := by
  have evaluated :
      (system.run
        [.construct 0 .message, .copyConstruct 0 1, .headers 1 2, .copyAssign 1 0,
          .moveAssign 0 1, .construct 3 .connectionError, .copyConstruct 3 4,
          .moveConstruct 3 5, .destroy 0, .destroy 1]).map
            (fun state => state.counters.entries) = some [⟨0, 1⟩, ⟨1, 2⟩] := by decide
  obtain ⟨state, run, counters⟩ := Option.map_eq_some_iff.mp evaluated
  exact ⟨state, run, counters, counts_hold ⟨_, run⟩⟩

end AsyncNats.Shared
