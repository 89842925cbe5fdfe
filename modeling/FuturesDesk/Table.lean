/-!
# Tables by id

Values by id, every id once and in order of its first insertion, and sets of
ids. Looking an id up after a change is answered by one lemma per operation.

Mathlib has association lists with distinct keys too (`AList`), but puts every
entry it inserts in front, a replaced one as well. Here an entry keeps its place,
since the order of a table shows in what is sent. Nor does the program import
Mathlib.
-/

namespace FuturesDesk

structure Table (α : Type) where
  entries : List (String × α) := []
  nodup : (entries.map (·.1)).Nodup := by simp

namespace Table

variable {α β : Type}

instance : EmptyCollection (Table α) := ⟨{}⟩

instance : Inhabited (Table α) := ⟨∅⟩

def find? (t : Table α) (id : String) : Option α := t.entries.lookup id

def contains (t : Table α) (id : String) : Bool := (t.find? id).isSome

def size (t : Table α) : Nat := t.entries.length

def ids (t : Table α) : List String := t.entries.map (·.1)

def values (t : Table α) : List α := t.entries.map (·.2)

/-! ## Lists of entries -/

section Entries

variable {id other : String} {a : α} {es : List (String × α)}

theorem lookup_cons (e : String × α) : (e :: es).lookup id = if id = e.1 then some e.2 else es.lookup id := by
  obtain ⟨k, b⟩ := e
  by_cases h : id = k
  · subst h; simp
  · simp [List.lookup_cons, beq_eq_false_iff_ne.mpr h, h]

theorem lookup_eq_none_iff : es.lookup id = none ↔ id ∉ es.map (·.1) := by
  induction es with
  | nil => simp
  | cons e es ih =>
    simp only [lookup_cons, List.map_cons, List.mem_cons, not_or]
    by_cases h : id = e.1
    · subst h; simp
    · simp [ih, h]

theorem mem_of_lookup (h : es.lookup id = some a) : (id, a) ∈ es := by
  induction es with
  | nil => simp at h
  | cons e es ih =>
    simp only [lookup_cons] at h
    split at h
    · rename_i he
      simp at he h
      subst he; subst h; simp
    · exact List.mem_cons_of_mem _ (ih h)

theorem lookup_of_mem (hn : (es.map (·.1)).Nodup) (h : (id, a) ∈ es) : es.lookup id = some a := by
  induction es with
  | nil => cases h
  | cons e es ih =>
    simp only [List.map_cons, List.nodup_cons] at hn
    simp only [lookup_cons]
    rcases List.mem_cons.mp h with h | h
    · subst h; simp
    · have : id ≠ e.1 := fun he => hn.1 (he ▸ List.mem_map.mpr ⟨_, h, rfl⟩)
      simp [this, ih hn.2 h]

theorem nodup_filter (p : String × α → Bool) (hn : (es.map (·.1)).Nodup) : ((es.filter p).map (·.1)).Nodup :=
  List.Pairwise.sublist (List.filter_sublist.map _) hn

theorem lookup_filter (hn : (es.map (·.1)).Nodup) (p : String × α → Bool) :
    (es.filter p).lookup id = (es.lookup id).filter fun a => p (id, a) := by
  induction es with
  | nil => rfl
  | cons e es ih =>
    obtain ⟨k, b⟩ := e
    simp only [List.map_cons, List.nodup_cons] at hn
    by_cases hk : id = k
    · subst hk
      have hnone : es.lookup id = none := lookup_eq_none_iff.mpr hn.1
      by_cases hp : p (id, b)
      · simp [hp, Option.filter]
      · simp [hp, ih hn.2, hnone, Option.filter]
    · by_cases hp : p (k, b)
      · simp [hp, lookup_cons, hk, ih hn.2]
      · simp [hp, lookup_cons, hk, ih hn.2]

theorem lookup_map (f : String → α → β) :
    (es.map fun e => (e.1, f e.1 e.2)).lookup id = (es.lookup id).map (f id) := by
  induction es with
  | nil => rfl
  | cons e es ih =>
    simp only [List.map_cons, lookup_cons]
    by_cases h : id = e.1
    · subst h; simp
    · simp [h, ih]

/-- Puts a value in the place of the one under that id, or at the end. -/
def put (id : String) (a : α) : List (String × α) → List (String × α)
  | [] => [(id, a)]
  | e :: es => if e.1 = id then (id, a) :: es else e :: put id a es

theorem mem_ids_put : other ∈ (put id a es).map (·.1) ↔ other = id ∨ other ∈ es.map (·.1) := by
  induction es with
  | nil => simp [put]
  | cons e es ih =>
    simp only [put]
    split
    · rename_i h; subst h; simp
    · simp only [List.map_cons, List.mem_cons, ih]; exact or_left_comm

theorem nodup_put (hn : (es.map (·.1)).Nodup) : ((put id a es).map (·.1)).Nodup := by
  induction es with
  | nil => simp [put]
  | cons e es ih =>
    simp only [List.map_cons, List.nodup_cons] at hn
    simp only [put]
    split
    · rename_i h; subst h; simpa using hn
    · rename_i h
      simp only [List.map_cons, List.nodup_cons, mem_ids_put, not_or]
      exact ⟨⟨h, hn.1⟩, ih hn.2⟩

theorem lookup_put : (put id a es).lookup other = if other = id then some a else es.lookup other := by
  induction es with
  | nil =>
    by_cases h : other = id
    · simp [put, h]
    · simp [put, h, lookup_cons]
  | cons e es ih =>
    simp only [put]
    split
    · rename_i h
      subst h
      by_cases ho : other = e.1
      · subst ho; simp
      · simp [lookup_cons, ho]
    · rename_i h
      by_cases ho : other = e.1
      · subst ho; simp [lookup_cons, h]
      · simp [lookup_cons, ho, ih]

end Entries

/-! ## Changes -/

/-- Puts a value under an id, in the place of one already there. -/
def insert (t : Table α) (id : String) (a : α) : Table α := ⟨put id a t.entries, nodup_put t.nodup⟩

def filter (t : Table α) (keep : String → α → Bool) : Table α :=
  ⟨t.entries.filter fun e => keep e.1 e.2, nodup_filter _ t.nodup⟩

def erase (t : Table α) (id : String) : Table α := t.filter fun k _ => k != id

def map (t : Table α) (f : String → α → β) : Table β :=
  ⟨t.entries.map fun e => (e.1, f e.1 e.2), by simpa [Function.comp_def] using t.nodup⟩

def modify (t : Table α) (id : String) (f : α → α) : Table α := t.map fun k a => if k = id then f a else a

@[simp] theorem find?_empty (id : String) : (∅ : Table α).find? id = none := rfl

theorem find?_insert (t : Table α) (id other : String) (a : α) :
    (t.insert id a).find? other = if other = id then some a else t.find? other := lookup_put

@[simp] theorem find?_insert_self (t : Table α) (id : String) (a : α) : (t.insert id a).find? id = some a := by
  simp [find?_insert]

theorem find?_filter (t : Table α) (keep : String → α → Bool) (id : String) :
    (t.filter keep).find? id = (t.find? id).filter (keep id) := lookup_filter t.nodup _

theorem find?_erase (t : Table α) (id other : String) :
    (t.erase id).find? other = if other = id then none else t.find? other := by
  unfold erase
  rw [find?_filter]
  by_cases h : other = id
  · subst h; cases t.find? other <;> simp
  · cases t.find? other <;> simp [h]

theorem find?_map (t : Table α) (f : String → α → β) (id : String) : (t.map f).find? id = (t.find? id).map (f id) :=
  lookup_map f

theorem find?_modify (t : Table α) (id other : String) (f : α → α) :
    (t.modify id f).find? other = if other = id then (t.find? other).map f else t.find? other := by
  unfold modify
  rw [find?_map]
  by_cases h : other = id
  · simp [h]
  · simp [h]

theorem mem_ids_iff {t : Table α} {id : String} : id ∈ t.ids ↔ (t.find? id).isSome := by
  have h : t.entries.lookup id = none ↔ _ := lookup_eq_none_iff
  unfold ids find?
  cases hl : t.entries.lookup id with
  | none => simpa using h.mp hl
  | some a =>
    simp only [Option.isSome_some, iff_true]
    by_cases hm : id ∈ t.entries.map (·.1)
    · exact hm
    · exact absurd (h.mpr hm) (by simp [hl])

theorem mem_entries_iff {t : Table α} {id : String} {a : α} : (id, a) ∈ t.entries ↔ t.find? id = some a :=
  ⟨lookup_of_mem t.nodup, mem_of_lookup⟩

end Table

/-! ## Sets of ids -/

structure IdSet where
  ids : List String := []
  nodup : ids.Nodup := by simp

namespace IdSet

instance : EmptyCollection IdSet := ⟨{}⟩

instance : Inhabited IdSet := ⟨∅⟩

def contains (s : IdSet) (id : String) : Bool := s.ids.contains id

def size (s : IdSet) : Nat := s.ids.length

def isEmpty (s : IdSet) : Bool := s.ids.isEmpty

def add (s : IdSet) (id : String) : IdSet :=
  if h : id ∈ s.ids then s
  else ⟨s.ids ++ [id], List.nodup_append.mpr
    ⟨s.nodup, by simp, fun a ha b hb => by simp at hb; subst hb; exact fun he => h (he ▸ ha)⟩⟩

def filter (s : IdSet) (keep : String → Bool) : IdSet :=
  ⟨s.ids.filter keep, List.Pairwise.sublist List.filter_sublist s.nodup⟩

def remove (s : IdSet) (id : String) : IdSet := s.filter (· != id)

@[simp] theorem contains_empty (id : String) : (∅ : IdSet).contains id = false := rfl

theorem contains_add (s : IdSet) (id other : String) :
    (s.add id).contains other = (decide (other = id) || s.contains other) := by
  unfold add contains
  split
  · rename_i h
    by_cases ho : other = id
    · subst ho; simp [h]
    · simp [ho]
  · by_cases ho : other = id
    · simp [ho]
    · simp [ho]

theorem contains_filter (s : IdSet) (keep : String → Bool) (id : String) :
    (s.filter keep).contains id = (s.contains id && keep id) := by
  unfold filter contains
  by_cases h : id ∈ s.ids <;> by_cases hk : keep id <;> simp [h, hk]

theorem contains_remove (s : IdSet) (id other : String) :
    (s.remove id).contains other = (decide (other ≠ id) && s.contains other) := by
  unfold remove
  rw [contains_filter, Bool.and_comm]
  congr 1
  by_cases h : other = id <;> simp [h]

end IdSet

end FuturesDesk
