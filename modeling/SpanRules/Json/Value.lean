/-! # JSON values -/

namespace SpanRules

/-- A number: an integer that fits 64 bits with or without a sign, or else a double. -/
inductive JsonNumber
  | integer (value : Int)
  | float (value : Float)

/-- A JSON value. The members of an object are in increasing order of their keys when the value
was read from a text. -/
inductive Json
  | null
  | bool (value : Bool)
  | number (value : JsonNumber)
  | string (value : String)
  | array (items : List Json)
  | object (members : List (String × Json))

instance : Inhabited Json := ⟨.null⟩

/-- Puts an entry in its place among entries in increasing order of keys; of two entries with
one key the new one stays. -/
def insertByKey {β : Type} (key : String) (value : β) : List (String × β) → List (String × β)
  | [] => [(key, value)]
  | e :: rest =>
    if key < e.1 then (key, value) :: e :: rest
    else if key = e.1 then (key, value) :: rest
    else e :: insertByKey key value rest

/-- Entries in increasing order of keys; of those with one key the last stays. -/
def byKey {β : Type} (entries : List (String × β)) : List (String × β) :=
  entries.foldl (fun sorted e => insertByKey e.1 e.2 sorted) []

section Keys

variable {β : Type} {key : String} {value : β} {entries : List (String × β)} {e : String × β}

theorem mem_of_mem_insertByKey (h : e ∈ insertByKey key value entries) :
    e = (key, value) ∨ e ∈ entries := by
  induction entries with
  | nil => exact Or.inl (List.mem_singleton.1 h)
  | cons first rest ih =>
    rw [insertByKey] at h
    split at h
    · exact List.mem_cons.1 h
    · split at h
      · exact (List.mem_cons.1 h).imp_right (List.mem_cons_of_mem _)
      · rcases List.mem_cons.1 h with rfl | h
        · exact Or.inr List.mem_cons_self
        · exact (ih h).imp_right (List.mem_cons_of_mem _)

theorem pairwise_insertByKey (h : entries.Pairwise (·.1 < ·.1)) :
    (insertByKey key value entries).Pairwise (·.1 < ·.1) := by
  induction entries with
  | nil => exact List.pairwise_singleton _ _
  | cons first rest ih =>
    obtain ⟨hfirst, hrest⟩ := List.pairwise_cons.1 h
    rw [insertByKey]
    split
    · rename_i hlt
      refine List.pairwise_cons.2 ⟨fun e he => ?_, h⟩
      rcases List.mem_cons.1 he with rfl | he
      · exact hlt
      · exact String.lt_trans hlt (hfirst e he)
    · rename_i hnot
      split
      · rename_i heq
        exact List.pairwise_cons.2 ⟨heq ▸ hfirst, hrest⟩
      · rename_i hne
        have hlt : first.1 < key := Classical.byContradiction fun hle =>
          hne (String.le_antisymm (String.not_lt.1 hle) (String.not_lt.1 hnot))
        refine List.pairwise_cons.2 ⟨fun e he => ?_, ih hrest⟩
        rcases mem_of_mem_insertByKey he with rfl | he
        · exact hlt
        · exact hfirst e he

/-- The keys of sorted entries increase. -/
theorem pairwise_byKey (entries : List (String × β)) : (byKey entries).Pairwise (·.1 < ·.1) := by
  suffices h : ∀ sorted : List (String × β), sorted.Pairwise (·.1 < ·.1) →
      (entries.foldl (fun sorted e => insertByKey e.1 e.2 sorted) sorted).Pairwise (·.1 < ·.1) from
    h [] .nil
  induction entries with
  | nil => exact fun _ h => h
  | cons e rest ih => exact fun _ h => ih _ (pairwise_insertByKey h)

end Keys

namespace Json

/-- The member of a key. -/
def member? (key : String) : Json → Option Json
  | .object members => (members.find? (·.1 = key)).map (·.2)
  | _ => none

end Json

end SpanRules
