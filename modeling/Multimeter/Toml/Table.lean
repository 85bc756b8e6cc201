import Multimeter.Toml.Value
/-!
# Building tables

A document is a sequence of additions to one table. An addition follows a path of keys and makes the
tables on its way that are not there yet. It is refused if it names something twice, if it enters
something that is no table, or if it adds to a table that is complete.
-/

namespace Multimeter.Toml

namespace Entries

/-- Put a value under a key, in the place of the value that is there. -/
def put (key : String) (value : Value) : Entries → Entries
  | [] => [(key, value)]
  | (other, old) :: later =>
    if other = key then (key, value) :: later else (other, old) :: put key value later

/-- The value that was put under a key is found there. -/
@[simp]
theorem lookup_put_self (key : String) (value : Value) (entries : Entries) :
    (put key value entries).lookup key = some value := by
  induction entries with
  | nil => simp [put]
  | cons entry later ih =>
    obtain ⟨other, old⟩ := entry
    by_cases h : other = key
    · simp [put, h]
    · have hne : (key == other) = false := beq_eq_false_iff_ne.2 (Ne.symm h)
      simp [put, h, List.lookup_cons, hne, ih]

/-- What stands under other keys stays. -/
theorem lookup_put_of_ne {key other : String} (h : other ≠ key) (value : Value)
    (entries : Entries) : (put key value entries).lookup other = entries.lookup other := by
  induction entries with
  | nil => simp [put, List.lookup_cons, beq_eq_false_iff_ne.2 h]
  | cons entry later ih =>
    obtain ⟨first, old⟩ := entry
    by_cases hfirst : first = key
    · subst hfirst
      simp [put, List.lookup_cons, beq_eq_false_iff_ne.2 h]
    · simp [put, hfirst, List.lookup_cons, ih]

/-- Change the table at the end of a path. Tables on the way that are not there yet come from a
dotted key or from a header, as `made` says. -/
def change (made : Origin) (step : Origin → Entries → Option Entries) :
    (path : List String) → Origin → Entries → Option Entries
  | [], origin, entries => step origin entries
  | key :: path, _, entries => do
    let child ← match entries.lookup key with
      -- the path goes on in a new table
      | none => return entries ++ [(key, .table made (← change made step path made []))]
      -- a dotted key does not reach into a table that has a header of its own
      | some (.table origin inner) =>
        guard (origin ≠ .braces ∧ (made = .dotted → origin ≠ .header))
        pure (Value.table origin (← change made step path origin inner))
      -- a list of tables stands for its last element
      | some (.tables elements) =>
        match elements.getLast? with
        | some (.table origin inner) =>
          let last := Value.table origin (← change made step path origin inner)
          pure (Value.tables (elements.dropLast ++ [last]))
        | _ => none
      | some _ => none
    return put key child entries

/-- Add a value under a dotted key: a path and the last key. The table that takes the value must
have been made by such a key itself, unless the path is empty. -/
def insert (path : List String) (key : String) (value : Value) (origin : Origin)
    (entries : Entries) : Option Entries :=
  change .dotted
    (fun origin entries => do
      guard ((origin = .dotted ↔ path ≠ []) ∧ entries.lookup key = none)
      return entries ++ [(key, value)])
    path origin entries

/-- Open the table with this header. -/
def openTable (path : List String) (key : String) (entries : Entries) : Option Entries :=
  change .passed
    (fun _ entries =>
      match entries.lookup key with
      | none => some (entries ++ [(key, .table .header [])])
      | some (.table .passed inner) => some (put key (.table .header inner) entries)
      | some _ => none)
    path .header entries

/-- Open one more table of the list with this header. -/
def openElement (path : List String) (key : String) (entries : Entries) : Option Entries :=
  change .passed
    (fun _ entries =>
      match entries.lookup key with
      | none => some (entries ++ [(key, .tables [.table .header []])])
      | some (.tables elements) =>
        some (put key (.tables (elements ++ [.table .header []])) entries)
      | some _ => none)
    path .header entries

end Entries

end Multimeter.Toml
