/-!
# Ordered tables

A table from keys to values that remembers the order in which its keys were first set. Setting a key
again changes its value and keeps its place.
-/

namespace MarkupLog

/-- Pairs of a key and its value, in the order in which the keys were first set. -/
abbrev Entries (κ α : Type) := List (κ × α)

namespace Entries

variable {κ α : Type} [DecidableEq κ]

def get? : Entries κ α → κ → Option α
  | [], _ => none
  | (k, v) :: rest, key => if k = key then some v else get? rest key

def has (t : Entries κ α) (key : κ) : Bool :=
  (t.get? key).isSome

/-- Sets a key: in its place if it is known, otherwise at the end. -/
def put : Entries κ α → κ → α → Entries κ α
  | [], key, value => [(key, value)]
  | (k, v) :: rest, key, value =>
    if k = key then (k, value) :: rest else (k, v) :: put rest key value

/-- Sets every pair of `more` in turn. -/
def putAll (t more : Entries κ α) : Entries κ α :=
  more.foldl (fun acc p => acc.put p.1 p.2) t

def ofPairs (pairs : List (κ × α)) : Entries κ α :=
  putAll [] pairs

/-- The keys, in order. -/
def keys (t : Entries κ α) : List κ :=
  t.map Prod.fst

@[simp] theorem get?_nil (key : κ) : get? ([] : Entries κ α) key = none := rfl

@[simp] theorem get?_cons (k key : κ) (v : α) (rest : Entries κ α) :
    get? ((k, v) :: rest) key = if k = key then some v else get? rest key := rfl

theorem get?_put (t : Entries κ α) (key other : κ) (value : α) :
    (t.put key value).get? other = if key = other then some value else t.get? other := by
  induction t with
  | nil => rfl
  | cons p rest ih =>
    obtain ⟨k, v⟩ := p
    unfold put
    by_cases h : k = key
    · subst h; by_cases h2 : k = other <;> simp [h2]
    · by_cases h2 : k = other
      · subst h2
        have h3 : ¬key = k := fun e => h e.symm
        simp [h, h3]
      · simp [h, h2, ih]

theorem putAll_cons (t rest : Entries κ α) (p : κ × α) :
    t.putAll (p :: rest) = (t.put p.1 p.2).putAll rest := rfl

end Entries

end MarkupLog
