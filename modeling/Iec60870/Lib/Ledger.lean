import Mathlib

/-!
# Ledgers of a stop-and-wait sender

A sender that has one item at a time outstanding keeps a ledger: every item it has
begun, in order, with a mark for having been delivered at the other end and one for
having been completed at this end.

## Main definitions

* `Ledger` — the items begun, the last of which may still be open.
* `Accounts` — three lists are the items queued, delivered and completed of some
  ledger in which every completed item was delivered.

## Main results

* `Ledger.accounts` — an honest ledger accounts for what it lists.
-/

universe u v

/-- What has become of an item. -/
structure Entry (α : Type u) where
  item : α
  delivered : Bool
  completed : Bool

/-- The items begun so far; the last of them may still be open. -/
structure Ledger (α : Type u) where
  past : List (Entry α)
  current : Option (Entry α)

namespace Ledger

variable {α : Type u} {β : Type v} (l : Ledger α)

/-- Nothing begun yet. -/
def empty : Ledger α := ⟨[], none⟩

/-- All entries, oldest first. -/
def entries : List (Entry α) := l.past ++ l.current.toList

/-- The items begun. -/
def begun : List α := l.entries.map Entry.item

/-- The items delivered. -/
def delivered : List α := (l.entries.filter Entry.delivered).map Entry.item

/-- The items completed. -/
def completed : List α := (l.entries.filter Entry.completed).map Entry.item

/-- An item is begun. -/
def start (x : α) : Ledger α := ⟨l.entries, some ⟨x, false, false⟩⟩

/-- The open item is delivered. -/
def deliver : Ledger α := { l with current := l.current.map fun e => { e with delivered := true } }

/-- The open item is completed. -/
def finish : Ledger α :=
  ⟨l.past ++ (l.current.map fun e => { e with completed := true }).toList, none⟩

/-- The open item is given up. -/
def abandon : Ledger α := ⟨l.entries, none⟩

/-- Every completed item was delivered. -/
def Honest : Prop := ∀ e ∈ l.entries, e.completed = true → e.delivered = true

/-! ### What the operations list -/

variable {l} {x : α} {b : Bool}

@[simp] theorem begun_start : (l.start x).begun = l.begun ++ [x] := by
  simp [start, begun, entries]

@[simp] theorem delivered_start : (l.start x).delivered = l.delivered := by
  simp [start, delivered, entries]

@[simp] theorem completed_start : (l.start x).completed = l.completed := by
  simp [start, completed, entries]

@[simp] theorem begun_deliver : l.deliver.begun = l.begun := by
  rcases hc : l.current with _ | e <;> simp [deliver, begun, entries, hc]

@[simp] theorem completed_deliver : l.deliver.completed = l.completed := by
  rcases hc : l.current with _ | e
  · simp [deliver, completed, entries, hc]
  · rcases he : e.completed with _ | _ <;>
      simp [deliver, completed, entries, hc, he]

theorem delivered_deliver (h : l.current = some ⟨x, false, b⟩) :
    l.deliver.delivered = l.delivered ++ [x] := by
  simp [deliver, delivered, entries, h]

theorem current_deliver (h : l.current = some ⟨x, false, b⟩) :
    l.deliver.current = some ⟨x, true, b⟩ := by simp [deliver, h]

@[simp] theorem begun_finish : l.finish.begun = l.begun := by
  rcases hc : l.current with _ | e <;> simp [finish, begun, entries, hc]

@[simp] theorem delivered_finish : l.finish.delivered = l.delivered := by
  rcases hc : l.current with _ | e
  · simp [finish, delivered, entries, hc]
  · rcases he : e.delivered with _ | _ <;>
      simp [finish, delivered, entries, hc, he]

theorem completed_finish (h : l.current = some ⟨x, b, false⟩) :
    l.finish.completed = l.completed ++ [x] := by
  simp [finish, completed, entries, h]

@[simp] theorem begun_abandon : l.abandon.begun = l.begun := by
  simp [abandon, begun, entries]

@[simp] theorem delivered_abandon : l.abandon.delivered = l.delivered := by
  simp [abandon, delivered, entries]

@[simp] theorem completed_abandon : l.abandon.completed = l.completed := by
  simp [abandon, completed, entries]

/-- What was delivered was begun, in that order. -/
theorem delivered_sublist_begun (l : Ledger α) : l.delivered.Sublist l.begun :=
  List.filter_sublist.map _

/-! ### Honesty -/

theorem honest_empty : (empty : Ledger α).Honest := fun e he => by cases he

theorem Honest.start (h : l.Honest) : (l.start x).Honest := by
  intro e he
  rcases List.mem_append.mp he with he | he
  · exact h e he
  · rw [Option.mem_toList] at he
    cases he
    exact fun hc => by cases hc

theorem Honest.deliver (h : l.Honest) : l.deliver.Honest := by
  intro e he
  rcases List.mem_append.mp he with he | he
  · exact h e (List.mem_append_left _ he)
  · rw [Option.mem_toList] at he
    obtain ⟨e', -, rfl⟩ := Option.map_eq_some_iff.mp he
    exact fun _ => rfl

theorem Honest.finish (h : l.Honest) (hc : l.current = some ⟨x, true, b⟩) : l.finish.Honest := by
  intro e he
  rcases List.mem_append.mp he with he | he
  · rcases List.mem_append.mp he with he | he
    · exact h e (List.mem_append_left _ he)
    · rw [hc, Option.mem_toList] at he
      cases he
      exact fun _ => rfl
  · cases he

theorem Honest.abandon (h : l.Honest) : l.abandon.Honest := by
  intro e he
  rcases List.mem_append.mp he with he | he
  · exact h e he
  · cases he

end Ledger

/-! ### Accounts -/

/-- There is a ledger of which `queued` contains the items, in order, `delivered` is
what was delivered and `completed` what was completed, all of it delivered. -/
def Accounts {α : Type u} (queued delivered completed : List α) : Prop :=
  ∃ es : List (Entry α), (es.map Entry.item).Sublist queued ∧
    (es.filter Entry.delivered).map Entry.item = delivered ∧
    (es.filter Entry.completed).map Entry.item = completed ∧
    ∀ e ∈ es, e.completed = true → e.delivered = true

/-- The entry of the item that `f` selects. -/
def Entry.select {α : Type u} {β : Type v} (f : α → Option β) (e : Entry α) : Option (Entry β) :=
  (f e.item).map fun y => ⟨y, e.delivered, e.completed⟩

section Select

variable {α : Type u} {β : Type v} (f : α → Option β)

theorem map_item_select (es : List (Entry α)) :
    (es.filterMap (Entry.select f)).map Entry.item = (es.map Entry.item).filterMap f := by
  rw [List.map_filterMap, List.filterMap_map]
  refine List.filterMap_congr fun e _ => ?_
  simp [Entry.select, Function.comp_def]

/-- Selecting leaves the marks alone. -/
theorem filter_select (q : Bool → Bool → Bool) (es : List (Entry α)) :
    (es.filterMap (Entry.select f)).filter (fun e => q e.delivered e.completed) =
      (es.filter fun e => q e.delivered e.completed).filterMap (Entry.select f) := by
  induction es with
  | nil => rfl
  | cons e es ih =>
    rcases hf : f e.item with _ | y <;> rcases hb : q e.delivered e.completed with _ | _ <;>
      simp [Entry.select, hf, hb, ih]

end Select

/-- **An honest ledger accounts for what it lists**, also for the part of the items
that `f` selects. -/
theorem Ledger.accounts {α : Type u} {β : Type v} {l : Ledger α} (h : l.Honest)
    (f : α → Option β) {queued : List β} (hq : (l.begun.filterMap f).Sublist queued) :
    Accounts queued (l.delivered.filterMap f) (l.completed.filterMap f) := by
  -- The entries `f` selects are a ledger of their own, in which what was done to an item is done to
  -- its image.
  refine ⟨l.entries.filterMap (Entry.select f), ?_, ?_, ?_, ?_⟩
  · rw [map_item_select]
    exact hq
  · have hd := filter_select f (fun d _ => d) l.entries
    rw [hd, map_item_select]
    rfl
  · have hc := filter_select f (fun _ c => c) l.entries
    rw [hc, map_item_select]
    rfl
  · intro e he
    obtain ⟨e', he', hg⟩ := List.mem_filterMap.mp he
    obtain ⟨y, -, rfl⟩ := Option.map_eq_some_iff.mp hg
    exact h e' he'
