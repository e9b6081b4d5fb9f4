import Mathlib.Data.List.Basic
import Mathlib.Logic.Function.Basic

/-! # Handles to sequences

A store keeps sequences behind handles. A handle can be made, extended, split and frozen, and
how the store shares its memory between handles is its own affair. `Lawful` is what a program
may rely on: each operation does what it says to its own handle and leaves the others as they
were. `Owned` says that a program holds its handles in distinct places and what each of them
stands for. There is one rule for each operation.
-/

namespace Ownership

universe u v w x

/-- The operations of a store. `view` is what a live handle stands for, and `splitTo` is
undefined where it panics. -/
structure Store (Mem : Type u) (Handle : Type v) (α : Type w) where
  empty : Mem
  view : Mem → Handle → Option (List α)
  withCapacity : Nat → Mem → Handle × Mem
  extendFromSlice : Mem → Handle → List α → Mem
  splitTo : Mem → Handle → Nat → Option (Handle × Mem)
  freeze : Mem → Handle → Handle × Mem
  drop : Mem → Handle → Mem

variable {Mem : Type u} {Handle : Type v} {α : Type w} {Place : Type x}

namespace Store

variable (store : Store Mem Handle α)

/-- The live handles that have not `changed` stand for what they stood for. -/
def Frame (changed : Handle → Prop) (before after : Mem) : Prop :=
  ∀ other content, ¬ changed other → store.view before other = some content →
    store.view after other = some content

/-- What a program may rely on. New handles are not live before. -/
structure Lawful : Prop where
  withCapacity : ∀ capacity mem, ∃ handle after,
    store.withCapacity capacity mem = (handle, after) ∧ store.view mem handle = none ∧
      store.view after handle = some [] ∧ store.Frame (fun _ => False) mem after
  extendFromSlice : ∀ mem handle content data, store.view mem handle = some content →
    store.view (store.extendFromSlice mem handle data) handle = some (content ++ data) ∧
      store.Frame (· = handle) mem (store.extendFromSlice mem handle data)
  splitTo : ∀ mem handle content count, store.view mem handle = some content →
    count ≤ content.length → ∃ front after,
      store.splitTo mem handle count = some (front, after) ∧ store.view mem front = none ∧
        store.view after front = some (content.take count) ∧
        store.view after handle = some (content.drop count) ∧
        store.Frame (· = handle) mem after
  freeze : ∀ mem handle content, store.view mem handle = some content → ∃ frozen after,
    store.freeze mem handle = (frozen, after) ∧
      (frozen = handle ∨ store.view mem frozen = none) ∧
      store.view after frozen = some content ∧ store.Frame (· = handle) mem after
  drop : ∀ mem handle, store.Frame (· = handle) mem (store.drop mem handle)

end Store

namespace Store

variable {mem : List (Option (List α))} {handle : Nat} {content : List α}

end Store

/-- The held handles are distinct, and each stands for the content of its place. -/
structure Owned (store : Store Mem Handle α) (mem : Mem) (held : Place → Option Handle)
    (content : Place → List α) : Prop where
  distinct : ∀ {first second handle}, held first = some handle → held second = some handle →
    first = second
  views : ∀ {place handle}, held place = some handle →
    store.view mem handle = some (content place)

namespace Owned

variable {store : Store Mem Handle α} {mem after : Mem} {held held' : Place → Option Handle}
  {content content' : Place → List α} {place target : Place} {handle : Handle}

/-- Nothing is held. -/
theorem none (store : Store Mem Handle α) (mem : Mem) (content : Place → List α) :
    Owned store mem (fun _ => Option.none) content where
  distinct := fun held => by cases held
  views := fun held => by cases held

/-- The content of a place that holds nothing does not matter. -/
theorem congr (owned : Owned store mem held content)
    (same : ∀ place handle, held' place = some handle →
      held place = some handle ∧ content place = content' place) :
    Owned store mem held' content' where
  distinct := fun first second => owned.distinct (same _ _ first).1 (same _ _ second).1
  views := fun there => (same _ _ there).2 ▸ owned.views (same _ _ there).1

/-- A handle that is not live is not held. -/
theorem not_held (owned : Owned store mem held content) (dead : store.view mem handle = Option.none)
    (other : Place) : held other ≠ some handle := by
  intro there
  rw [owned.views there] at dead
  cases dead

/-- The handles of the other places are not the one of this place. -/
theorem ne_of_ne (owned : Owned store mem held content) (here : held place = some handle)
    {other : Place} {another : Handle} (there : held other = some another)
    (apart : other ≠ place) : another ≠ handle := by
  rintro rfl
  exact apart (owned.distinct there here)

variable [DecidableEq Place]

/-- A place comes to hold a handle that no other place holds, while the others stay. -/
theorem put (owned : Owned store mem held content) {items : List α}
    (unheld : ∀ other, other ≠ place → held other ≠ some handle)
    (there : store.view after handle = some items)
    (stay : ∀ other another, other ≠ place → held other = some another →
      store.view after another = some (content other)) :
    Owned store after (Function.update held place (some handle))
      (Function.update content place items) where
  distinct := by
    intro first second another
    simp only [Function.update_apply]
    split_ifs with isFirst isSecond isSecond
    · exact fun _ _ => isFirst.trans isSecond.symm
    · rintro ⟨⟩ there
      exact absurd there (unheld second isSecond)
    · rintro there ⟨⟩
      exact absurd there (unheld first isFirst)
    · exact owned.distinct
  views := by
    intro other another
    simp only [Function.update_apply]
    split_ifs with same
    · rintro ⟨⟩
      exact there
    · exact stay other another same

/-- A place lets go of its handle, while the others stay. -/
theorem release (owned : Owned store mem held content)
    (stay : ∀ other another, other ≠ place → held other = some another →
      store.view after another = some (content other)) :
    Owned store after (Function.update held place Option.none) content where
  distinct := by
    intro first second another
    simp only [Function.update_apply]
    split_ifs
    · exact fun gone => nomatch gone
    · exact fun gone => nomatch gone
    · exact fun _ gone => nomatch gone
    · exact owned.distinct
  views := by
    intro other another
    simp only [Function.update_apply]
    split_ifs with same
    · exact fun gone => nomatch gone
    · exact stay other another same

/-- A new handle is empty. -/
theorem withCapacity (lawful : store.Lawful) (owned : Owned store mem held content)
    (capacity : Nat) (place : Place) : ∃ handle after,
      store.withCapacity capacity mem = (handle, after) ∧
        Owned store after (Function.update held place (some handle))
          (Function.update content place []) := by
  obtain ⟨handle, after, made, dead, view, frame⟩ := lawful.withCapacity capacity mem
  refine ⟨handle, after, made, owned.put (fun other _ => owned.not_held dead other) view ?_⟩
  intro other another _ there
  exact frame another _ id (owned.views there)

/-- What is appended to a handle comes after what it stands for. -/
theorem extendFromSlice (lawful : store.Lawful) (owned : Owned store mem held content)
    (here : held place = some handle) (data : List α) :
    Owned store (store.extendFromSlice mem handle data) held
      (Function.update content place (content place ++ data)) := by
  obtain ⟨view, frame⟩ := lawful.extendFromSlice mem handle _ data (owned.views here)
  have put : Owned store (store.extendFromSlice mem handle data)
      (Function.update held place (some handle))
      (Function.update content place (content place ++ data)) := by
    refine owned.put (fun other apart there => apart (owned.distinct there here)) view ?_
    intro other another apart there
    exact frame another _ (owned.ne_of_ne here there apart) (owned.views there)
  rwa [← here, Function.update_eq_self] at put

/-- A handle with enough items is split in two. -/
theorem splitTo (lawful : store.Lawful) (owned : Owned store mem held content)
    (here : held place = some handle) (target : Place) {count : Nat}
    (enough : count ≤ (content place).length) : ∃ front after,
      store.splitTo mem handle count = some (front, after) ∧
        Owned store after (Function.update held target (some front))
          (Function.update (Function.update content place ((content place).drop count)) target
            ((content place).take count)) := by
  obtain ⟨front, after, split, dead, first, rest, frame⟩ :=
    lawful.splitTo mem handle _ count (owned.views here) enough
  have stays : ∀ other another, other ≠ place → held other = some another →
      store.view after another = some (content other) := fun other another apart there =>
    frame another _ (owned.ne_of_ne here there apart) (owned.views there)
  have shortened : Owned store after (Function.update held place (some handle))
      (Function.update content place ((content place).drop count)) :=
    owned.put (fun other apart there => apart (owned.distinct there here)) rest stays
  rw [← here, Function.update_eq_self] at shortened
  refine ⟨front, after, split, shortened.put (fun other _ => owned.not_held dead other) first ?_⟩
  exact fun other another _ there => shortened.views there

/-- A frozen handle stands for the same. -/
theorem freeze (lawful : store.Lawful) (owned : Owned store mem held content)
    (here : held place = some handle) : ∃ frozen after,
      store.freeze mem handle = (frozen, after) ∧
        Owned store after (Function.update held place (some frozen)) content := by
  obtain ⟨frozen, after, made, same, view, frame⟩ := lawful.freeze mem handle _ (owned.views here)
  have put : Owned store after (Function.update held place (some frozen))
      (Function.update content place (content place)) := by
    refine owned.put ?_ view ?_
    · intro other apart there
      rcases same with rfl | dead
      · exact apart (owned.distinct there here)
      · exact owned.not_held dead other there
    · intro other another apart there
      exact frame another _ (owned.ne_of_ne here there apart) (owned.views there)
  rw [Function.update_eq_self] at put
  exact ⟨frozen, after, made, put⟩

/-- A handle goes from one place to another. -/
theorem move (owned : Owned store mem held content) (here : held place = some handle)
    (target : Place) :
    Owned store mem
      (Function.update (Function.update held place Option.none) target (some handle))
      (Function.update content target (content place)) := by
  have released : Owned store mem (Function.update held place Option.none) content :=
    owned.release fun _ _ _ there => owned.views there
  refine released.put ?_ (owned.views here) fun _ _ _ there => released.views there
  intro other _ there
  rw [Function.update_apply] at there
  split_ifs at there with same
  exact same (owned.distinct there here)

/-- A handle is dropped. -/
theorem drop (lawful : store.Lawful) (owned : Owned store mem held content)
    (here : held place = some handle) :
    Owned store (store.drop mem handle) (Function.update held place Option.none) content := by
  refine owned.release fun other another apart there => ?_
  exact lawful.drop mem handle another _ (owned.ne_of_ne here there apart) (owned.views there)

end Owned

end Ownership
