/-! # Finite tables -/

namespace SpanRules

/-- The entry of a key in a list of pairs: that of the first pair with this key. -/
def entryOf {α β : Type} [DecidableEq α] (key : α) : List (α × β) → Option β
  | [] => none
  | e :: rest => if e.1 = key then some e.2 else entryOf key rest

/-- Replaces the entry of a key in a list of pairs. -/
def replaceEntry {α β : Type} [DecidableEq α] (key : α) (entry : β) (l : List (α × β)) :
    List (α × β) :=
  l.map fun e => if e.1 = key then (key, entry) else e

section Pairs

variable {α β γ : Type} [DecidableEq α] {key other : α} {entry : β} {l : List (α × β)}

theorem entryOf_eq_none : entryOf key l = none ↔ key ∉ l.map Prod.fst := by
  induction l with
  | nil => simp [entryOf]
  | cons e l ih =>
    by_cases h : e.1 = key
    · simp [entryOf, h]
    · rw [entryOf, if_neg h, ih, List.map_cons, List.mem_cons]
      simp [Ne.symm h]

theorem entryOf_map (f : β → γ) :
    entryOf key (l.map fun e => (e.1, f e.2)) = (entryOf key l).map f := by
  induction l with
  | nil => rfl
  | cons e l ih => by_cases h : e.1 = key <;> simp [entryOf, h, ih]

theorem entryOf_filter_ne :
    entryOf other (l.filter (·.1 ≠ key)) = if other = key then none else entryOf other l := by
  induction l with
  | nil => simp [entryOf]
  | cons e l ih =>
    rw [List.filter_cons]
    by_cases h : e.1 = key
    · by_cases ho : other = key
      · simp_all
      · simp_all [entryOf, Ne.symm ho]
    · by_cases ho : e.1 = other
      · subst ho
        simp [entryOf, h]
      · simp [entryOf, h, ho] at ih ⊢
        exact ih

@[simp] theorem map_fst_replaceEntry :
    (replaceEntry key entry l).map Prod.fst = l.map Prod.fst := by
  rw [replaceEntry, List.map_map]
  refine List.map_congr_left fun e _ => ?_
  by_cases h : e.1 = key <;> simp [h]

theorem entryOf_replaceEntry :
    entryOf other (replaceEntry key entry l) =
      if other = key then (entryOf key l).map fun _ => entry else entryOf other l := by
  induction l with
  | nil => simp [entryOf, replaceEntry]
  | cons e l ih =>
    rw [replaceEntry, List.map_cons, ← replaceEntry, entryOf, ih, entryOf, entryOf]
    by_cases he : e.1 = key
    · by_cases ho : other = key
      · simp [he, ho]
      · simp [he, ho, Ne.symm ho]
    · by_cases ho : other = key
      · simp [he, ho]
      · simp [he, ho]

theorem entryOf_append_single (h : key ∉ l.map Prod.fst) :
    entryOf other (l ++ [(key, entry)]) =
      if other = key then some entry else entryOf other l := by
  induction l with
  | nil => simp [entryOf, eq_comm]
  | cons e l ih =>
    rw [List.map_cons, List.mem_cons, not_or] at h
    rw [List.cons_append, entryOf, ih h.2, entryOf]
    by_cases ho : e.1 = other
    · have : other ≠ key := fun hk => h.1 (hk ▸ ho.symm)
      simp [ho, this]
    · simp [ho]

theorem mem_iff_entryOf (hl : (l.map Prod.fst).Nodup) :
    (key, entry) ∈ l ↔ entryOf key l = some entry := by
  induction l with
  | nil => simp [entryOf]
  | cons e l ih =>
    rw [List.map_cons, List.nodup_cons] at hl
    obtain ⟨k, v⟩ := e
    by_cases h : k = key
    · subst h
      have hnot : (k, entry) ∉ l := fun hm => hl.1 (List.mem_map.2 ⟨_, hm, rfl⟩)
      simp [entryOf, hnot, eq_comm]
    · simp [entryOf, h, Ne.symm h, ih hl.2]

end Pairs

/-- A finite map: pairs of a key and its entry, in the order of first insertion. -/
structure Table (α : Type) (β : Type) where
  entries : List (α × β)
  nodup : (entries.map Prod.fst).Nodup

namespace Table

variable {α β γ : Type} [DecidableEq α]

def empty : Table α β :=
  ⟨[], .nil⟩

def find? (t : Table α β) (key : α) : Option β :=
  entryOf key t.entries

def contains (t : Table α β) (key : α) : Bool :=
  (t.find? key).isSome

def size (t : Table α β) : Nat :=
  t.entries.length

def isEmpty (t : Table α β) : Bool :=
  t.entries.isEmpty

/-- Applies a function to every entry and leaves the keys. -/
def map (t : Table α β) (f : β → γ) : Table α γ where
  entries := t.entries.map fun e => (e.1, f e.2)
  nodup := by simpa [Function.comp_def] using t.nodup

/-- Drops the entry of a key. -/
def erase (t : Table α β) (key : α) : Table α β where
  entries := t.entries.filter (·.1 ≠ key)
  nodup := t.nodup.sublist (List.filter_sublist.map Prod.fst)

/-- Gives a key an entry: in place when it has one, after all others when it has none. -/
def insert (t : Table α β) (key : α) (entry : β) : Table α β :=
  if h : key ∈ t.entries.map Prod.fst then
    { entries := replaceEntry key entry t.entries
      nodup := by simpa using t.nodup }
  else
    { entries := t.entries ++ [(key, entry)]
      nodup := by
        rw [List.map_append, List.nodup_append]
        refine ⟨t.nodup, by simp, fun a ha b hb => ?_⟩
        obtain rfl : b = key := by simpa using hb
        exact fun hab => h (hab ▸ ha) }

@[simp] theorem find?_empty (key : α) : (empty : Table α β).find? key = none := rfl

theorem contains_iff (t : Table α β) (key : α) :
    t.contains key ↔ key ∈ t.entries.map Prod.fst := by
  rw [contains, Option.isSome_iff_ne_none, Ne, find?, entryOf_eq_none, Classical.not_not]

/-- After an insertion the key has the new entry and all others have their old ones. -/
@[simp] theorem find?_insert (t : Table α β) (key other : α) (entry : β) :
    (t.insert key entry).find? other = if other = key then some entry else t.find? other := by
  unfold insert
  split
  · rename_i h
    have : (entryOf key t.entries).map (fun _ => entry) = some entry := by
      cases hf : entryOf key t.entries with
      | none => exact absurd h (entryOf_eq_none.1 hf)
      | some _ => rfl
    rw [← this]
    exact entryOf_replaceEntry
  · exact entryOf_append_single (by assumption)

/-- After an erasure the key has no entry and all others have their old ones. -/
@[simp] theorem find?_erase (t : Table α β) (key other : α) :
    (t.erase key).find? other = if other = key then none else t.find? other :=
  entryOf_filter_ne

theorem erase_of_find?_eq_none {t : Table α β} {key : α} (h : t.find? key = none) :
    t.erase key = t := by
  obtain ⟨entries, nodup⟩ := t
  have hentries : entries.filter (·.1 ≠ key) = entries := by
    apply List.filter_eq_self.mpr
    intro e he
    apply decide_eq_true
    rintro rfl
    exact entryOf_eq_none.mp h (List.mem_map_of_mem he)
  simp only [erase, hentries]

@[simp] theorem find?_map (t : Table α β) (f : β → γ) (key : α) :
    (t.map f).find? key = (t.find? key).map f :=
  entryOf_map f

/-- An insertion adds a key exactly when it had no entry. -/
theorem size_insert (t : Table α β) (key : α) (entry : β) :
    (t.insert key entry).size = if t.contains key then t.size else t.size + 1 := by
  unfold insert
  split <;> rename_i h <;> rw [← contains_iff] at h <;> simp [size, replaceEntry, h]

end Table

end SpanRules
