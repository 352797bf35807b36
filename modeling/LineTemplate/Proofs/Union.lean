import Mathlib
import LineTemplate.Rendering

/-!
# Putting pairs together

Fields, and the values of definitions made inside loops, are lists of pairs in ascending order of
their keys. The union of two such lists has the pairs of both, and those of the second one where a
key is in both. To set one more pair is the same in the second list and in the union.
-/

namespace LineTemplate

/-! ### Pairs with any keys -/

namespace Pairs

variable {κ α : Type} [DecidableEq κ] (before : κ → κ → Prop) [DecidableRel before]

/-- The pairs with `thing` under `key`, in place of what was there, where `before` orders the
keys. -/
def set (pairs : List (κ × α)) (key : κ) (thing : α) : List (κ × α) :=
  match pairs with
  | [] => [(key, thing)]
  | (k, old) :: rest =>
    if before key k then (key, thing) :: (k, old) :: rest
    else if key = k then (key, thing) :: rest
    else (k, old) :: set rest key thing

def union (a b : List (κ × α)) : List (κ × α) :=
  b.foldr (fun pair pairs => set before pairs pair.1 pair.2) a

variable {before} [IsStrictTotalOrder κ before] {pairs rest : List (κ × α)} {k l : κ} {v w old : α}

omit [IsStrictTotalOrder κ before] in
theorem set_of_before (h : before k l) :
    set before ((l, old) :: rest) k v = (k, v) :: (l, old) :: rest := by
  rw [set, if_pos h]

theorem set_of_eq : set before ((k, old) :: rest) k v = (k, v) :: rest := by
  rw [set, if_neg (irrefl k), if_pos rfl]

theorem set_of_after (h : before l k) :
    set before ((l, old) :: rest) k v = (l, old) :: set before rest k v := by
  have hne : k ≠ l := fun he => irrefl l (he ▸ h)
  rw [set, if_neg (asymm h), if_neg hne]

/-- Of two things set under one key the last stays. -/
theorem set_set : set before (set before pairs k v) k w = set before pairs k w := by
  induction pairs with
  | nil => rw [set, set_of_eq, set]
  | cons pair rest ih =>
    obtain ⟨l, old⟩ := pair
    rcases trichotomous_of before k l with h | rfl | h
    · rw [set_of_before h, set_of_before h, set_of_eq]
    · rw [set_of_eq, set_of_eq, set_of_eq]
    · rw [set_of_after h, set_of_after h, set_of_after h, ih]

theorem set_comm_of_before (h : before k l) :
    set before (set before pairs k v) l w = set before (set before pairs l w) k v := by
  induction pairs with
  | nil => rw [set, set, set_of_after h, set_of_before h, set]
  | cons pair rest ih =>
    obtain ⟨m, old⟩ := pair
    rcases trichotomous_of before l m with hl | rfl | hl
    · have hk : before k m := IsTrans.trans k l m h hl
      rw [set_of_before hk, set_of_before hl, set_of_before h, set_of_after h, set_of_before hl]
    · rw [set_of_before h, set_of_after h, set_of_eq, set_of_before h]
    · rw [set_of_after hl]
      rcases trichotomous_of before k m with hk | rfl | hk
      · rw [set_of_before hk, set_of_before hk, set_of_after h, set_of_after hl]
      · rw [set_of_eq, set_of_eq, set_of_after h]
      · rw [set_of_after hk, set_of_after hk, set_of_after hl, ih]

theorem set_comm (h : k ≠ l) :
    set before (set before pairs k v) l w = set before (set before pairs l w) k v := by
  rcases trichotomous_of before k l with hb | he | hb
  · exact set_comm_of_before hb
  · exact absurd he h
  · exact (set_comm_of_before hb).symm

omit [IsStrictTotalOrder κ before] in
/-- A thing under a key that is new is one more pair, and the others stay. -/
theorem set_perm (h : k ∉ pairs.map (·.1)) : (set before pairs k v).Perm ((k, v) :: pairs) := by
  induction pairs with
  | nil => exact List.Perm.refl _
  | cons pair rest ih =>
    obtain ⟨l, old⟩ := pair
    rw [List.map_cons, List.mem_cons, not_or] at h
    rw [set, if_neg h.1]
    split
    · exact List.Perm.refl _
    · exact ((ih h.2).cons (l, old)).trans (List.Perm.swap (k, v) (l, old) rest)

theorem union_set (a b : List (κ × α)) (k : κ) (v : α) :
    union before a (set before b k v) = set before (union before a b) k v := by
  induction b with
  | nil => rfl
  | cons pair rest ih =>
    obtain ⟨l, old⟩ := pair
    have hcons : ∀ (l : κ) (old : α) (rest : List (κ × α)),
        union before a ((l, old) :: rest) = set before (union before a rest) l old :=
      fun _ _ _ => rfl
    rcases trichotomous_of before k l with h | rfl | h
    · rw [set_of_before h, hcons]
    · rw [set_of_eq, hcons, hcons, set_set]
    · have hne : k ≠ l := fun he => irrefl l (he ▸ h)
      rw [set_of_after h, hcons, hcons, ih, set_comm hne]

end Pairs

/-! ### Fields -/

namespace Fields

variable {α : Type}

/-- The fields of both, and those of `b` where a name is in both. -/
def union (a b : Fields α) : Fields α := b.foldr (fun pair fields => fields.set pair.1 pair.2) a

theorem set_eq : (set : Fields α → String → α → Fields α) = Pairs.set (· < ·) := by
  funext fields name thing
  induction fields with
  | nil => rfl
  | cons pair rest ih =>
    obtain ⟨key, old⟩ := pair
    rw [set, Pairs.set, ih]

theorem set_perm {fields : Fields α} {name : String} (h : name ∉ fields.names) (thing : α) :
    (fields.set name thing).Perm ((name, thing) :: fields) := by
  rw [set_eq]
  exact Pairs.set_perm h

theorem union_set (a b : Fields α) (name : String) (thing : α) :
    a.union (b.set name thing) = (a.union b).set name thing := by
  unfold union
  rw [set_eq]
  exact Pairs.union_set a b name thing

theorem get?_union (a b : Fields α) (name : String) :
    (a.union b).get? name = (b.get? name <|> a.get? name) := by
  induction b with
  | nil => rfl
  | cons pair rest ih =>
    obtain ⟨key, thing⟩ := pair
    have hcons : a.union ((key, thing) :: rest) = (a.union rest).set key thing := rfl
    rw [hcons, get?_set, get?]
    split
    · rfl
    · exact ih

theorem mem_names_union {a b : Fields α} {name : String} :
    name ∈ (a.union b).names ↔ name ∈ a.names ∨ name ∈ b.names := by
  rw [← isSome_get?, ← isSome_get?, ← isSome_get?, get?_union]
  cases a.get? name <;> cases b.get? name <;> simp

end Fields

/-! ### Definitions made inside loops -/

namespace LoopKey

theorem precedes_iff {a b : LoopKey} : a.precedes b = true ↔ a.name < b.name ∨
    a.name = b.name ∧ (a.occurrence < b.occurrence ∨
      a.occurrence = b.occurrence ∧ a.iteration < b.iteration) := by
  simp [precedes]

instance : IsStrictTotalOrder LoopKey (fun a b => a.precedes b = true) where
  irrefl a := by
    rw [precedes_iff]
    rintro (h | ⟨-, h⟩)
    · exact String.lt_irrefl _ h
    · omega
  trans a b c := by
    rw [precedes_iff, precedes_iff, precedes_iff]
    rintro (hab | ⟨hab, h⟩) (hbc | ⟨hbc, h'⟩)
    · exact .inl (String.lt_trans hab hbc)
    · exact .inl (hbc ▸ hab)
    · exact .inl (hab ▸ hbc)
    · exact .inr ⟨hab.trans hbc, by omega⟩
  trichotomous a b := by
    rw [precedes_iff, precedes_iff]
    intro hab hba
    have hname : a.name = b.name := by
      rcases lt_trichotomy a.name b.name with h | h | h
      · exact absurd (.inl h) hab
      · exact h
      · exact absurd (.inl h) hba
    obtain ⟨name, o, i⟩ := a
    obtain ⟨name', o', i'⟩ := b
    simp only [LoopKey.mk.injEq] at *
    subst hname
    simp only [true_and] at *
    omega

/-- The same definition, behind `n` more loops. -/
def behind (n : Nat) (key : LoopKey) : LoopKey := { key with occurrence := key.occurrence + n }

theorem precedes_behind (n : Nat) (a b : LoopKey) :
    (a.behind n).precedes (b.behind n) = a.precedes b := by
  rw [Bool.eq_iff_iff, precedes_iff, precedes_iff]
  simp [behind]

theorem behind_inj {n : Nat} {a b : LoopKey} : a.behind n = b.behind n ↔ a = b := by
  cases a
  cases b
  simp [behind]

end LoopKey

namespace LoopVars

def keys (vars : LoopVars) : List LoopKey := vars.map (·.1)

/-- The same definitions, behind `n` more loops. -/
def behind (n : Nat) (vars : LoopVars) : LoopVars := vars.map fun (key, v) => (key.behind n, v)

/-- The definitions of both, and those of `b` where a key is in both. -/
def union (a b : LoopVars) : LoopVars := b.foldr (fun pair vars => vars.set pair.1 pair.2) a

theorem set_eq : set = Pairs.set (fun a b : LoopKey => a.precedes b = true) := by
  funext vars key v
  induction vars with
  | nil => rfl
  | cons pair rest ih =>
    obtain ⟨k, old⟩ := pair
    rw [set, Pairs.set, ih]

theorem set_perm {vars : LoopVars} {key : LoopKey} (h : key ∉ vars.keys) (v : Value) :
    (vars.set key v).Perm ((key, v) :: vars) := by
  rw [set_eq]
  exact Pairs.set_perm h

theorem union_set (a b : LoopVars) (key : LoopKey) (v : Value) :
    a.union (b.set key v) = (a.union b).set key v := by
  unfold union
  rw [set_eq]
  exact Pairs.union_set a b key v

theorem behind_set (n : Nat) (vars : LoopVars) (key : LoopKey) (v : Value) :
    (vars.set key v).behind n = (vars.behind n).set (key.behind n) v := by
  induction vars with
  | nil => rfl
  | cons pair rest ih =>
    obtain ⟨k, old⟩ := pair
    have hcons : ∀ (k : LoopKey) (old : Value) (rest : LoopVars),
        behind n ((k, old) :: rest) = (k.behind n, old) :: rest.behind n := fun _ _ _ => rfl
    rw [set, hcons, set, LoopKey.precedes_behind]
    by_cases hp : key.precedes k
    · rw [if_pos hp, if_pos hp, hcons, hcons]
    · rw [if_neg hp, if_neg hp]
      by_cases hk : key = k
      · rw [if_pos hk, if_pos (LoopKey.behind_inj.2 hk), hcons]
      · rw [if_neg hk, if_neg fun h => hk (LoopKey.behind_inj.1 h), hcons, ih]

theorem le_of_mem_keys_behind {n : Nat} {vars : LoopVars} {key : LoopKey}
    (h : key ∈ (vars.behind n).keys) : n ≤ key.occurrence := by
  obtain ⟨entry, hm, rfl⟩ := List.mem_map.1 h
  obtain ⟨⟨k, v⟩, -, rfl⟩ := List.mem_map.1 hm
  exact Nat.le_add_left n k.occurrence

theorem mem_keys_set {vars : LoopVars} {key k : LoopKey} {v : Value}
    (h : k ∈ (vars.set key v).keys) : k = key ∨ k ∈ vars.keys := by
  induction vars with
  | nil => exact .inl (List.mem_singleton.1 h)
  | cons pair rest ih =>
    obtain ⟨l, old⟩ := pair
    rw [set] at h
    split at h
    · exact List.mem_cons.1 h
    · split at h
      · rcases List.mem_cons.1 h with h | h
        · exact .inl h
        · exact .inr (List.mem_cons_of_mem l h)
      · rcases List.mem_cons.1 h with h | h
        · exact .inr (List.mem_cons.2 (.inl h))
        · rcases ih h with h | h
          · exact .inl h
          · exact .inr (List.mem_cons_of_mem l h)

end LoopVars

end LineTemplate
