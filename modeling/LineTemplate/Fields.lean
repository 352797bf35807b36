/-!
# Fields

Named things in the order of their names: a list of pairs, ascending by the code points of the
name, each name once. `set` keeps that order; of two things set under one name the last stays.
-/

namespace LineTemplate

/-- Pairs of a name and a thing, ascending by name. -/
abbrev Fields (α : Type) := List (String × α)

namespace Fields

variable {α : Type}

def get? (fields : Fields α) (name : String) : Option α :=
  match fields with
  | [] => none
  | (key, thing) :: rest => if key = name then some thing else get? rest name

def has (fields : Fields α) (name : String) : Bool := (fields.get? name).isSome

/-- The fields with `thing` under `name`, in place of what was there. -/
def set (fields : Fields α) (name : String) (thing : α) : Fields α :=
  match fields with
  | [] => [(name, thing)]
  | (key, old) :: rest =>
    if name < key then (name, thing) :: (key, old) :: rest
    else if name = key then (name, thing) :: rest
    else (key, old) :: set rest name thing

def names (fields : Fields α) : List String := fields.map (·.1)

/-- The fields of a list of pairs; of two with one name the later stays. -/
def ofList (pairs : List (String × α)) : Fields α :=
  pairs.foldl (fun fields pair => fields.set pair.1 pair.2) []

@[simp] theorem get?_nil (name : String) : get? ([] : Fields α) name = none := rfl

/-- A name leads to what was last set under it, every other name to what it led to before. -/
theorem get?_set (fields : Fields α) (name key : String) (thing : α) :
    (fields.set name thing).get? key = if name = key then some thing else fields.get? key := by
  induction fields with
  | nil => simp [set, get?]
  | cons pair rest ih =>
    obtain ⟨k, old⟩ := pair
    simp only [set]
    split
    · simp [get?]
    · split
      · rename_i h
        subst h
        by_cases hk : name = key <;> simp [get?, hk]
      · rename_i h
        by_cases hk : k = key
        · subst hk
          simp [get?, h]
        · simp [get?, hk, ih]

theorem isSome_get? {fields : Fields α} {name : String} :
    (fields.get? name).isSome = true ↔ name ∈ fields.names := by
  induction fields with
  | nil => simp [names]
  | cons pair rest ih =>
    obtain ⟨key, thing⟩ := pair
    by_cases h : key = name
    · simp [get?, names, h]
    · have hne : name ≠ key := fun he => h he.symm
      rw [get?, if_neg h, ih]
      simp [names, hne]

theorem get?_eq_none {fields : Fields α} {name : String} :
    fields.get? name = none ↔ name ∉ fields.names := by
  rw [← isSome_get?, Option.isSome_iff_ne_none, Decidable.not_not]

theorem mem_names_of_get? {fields : Fields α} {name : String} {thing : α}
    (h : fields.get? name = some thing) : name ∈ fields.names :=
  isSome_get?.1 (by rw [h]; rfl)

/-- Setting adds one name and takes none away. -/
theorem mem_names_set {fields : Fields α} {name key : String} {thing : α} :
    key ∈ (fields.set name thing).names ↔ key = name ∨ key ∈ fields.names := by
  rw [← isSome_get?, get?_set]
  by_cases h : name = key
  · simp [h]
  · have hne : key ≠ name := fun he => h he.symm
    rw [if_neg h, isSome_get?]
    simp [hne]

end Fields

end LineTemplate
