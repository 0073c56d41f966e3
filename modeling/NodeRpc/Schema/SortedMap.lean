import NodeRpc.Text.Utf8

/-!
# Maps sorted by key

A list of entries whose keys ascend by their bytes, so that equal maps are equal lists.
`SortedMap.insert` replaces the value of a key that is already there.
-/

namespace NodeRpc

/-- Sets the value of a key in a list that ascends by key. -/
def insertSorted {α : Type} (key : String) (value : α) : List (String × α) → List (String × α)
  | [] => [(key, value)]
  | (k, v) :: rest =>
    if utf8 key < utf8 k then (key, value) :: (k, v) :: rest
    else if utf8 k < utf8 key then (k, v) :: insertSorted key value rest
    else (key, value) :: rest

/-- Whether the keys of a list ascend. -/
def Ascending {α : Type} (entries : List (String × α)) : Prop :=
  entries.Pairwise fun a b => utf8 a.1 < utf8 b.1

theorem mem_keys_insertSorted {α : Type} {key k : String} {value : α} {entries : List (String × α)}
    (h : k ∈ (insertSorted key value entries).map Prod.fst) :
    k = key ∨ k ∈ entries.map Prod.fst := by
  induction entries with
  | nil => simpa [insertSorted] using h
  | cons e rest ih =>
    obtain ⟨l, v⟩ := e
    by_cases h1 : utf8 key < utf8 l
    · rw [insertSorted, if_pos h1] at h
      simpa using h
    · by_cases h2 : utf8 l < utf8 key
      · rw [insertSorted, if_neg h1, if_pos h2] at h
        rcases List.mem_cons.1 h with h | h
        · exact .inr (by simp [h])
        · exact (ih h).imp_right fun h => by simp [h]
      · rw [insertSorted, if_neg h1, if_neg h2] at h
        rcases List.mem_cons.1 h with h | h
        · exact .inl h
        · exact .inr (by simp [h])

theorem ascending_insertSorted {α : Type} (key : String) (value : α)
    {entries : List (String × α)} (h : Ascending entries) :
    Ascending (insertSorted key value entries) := by
  induction entries with
  | nil => simp [insertSorted, Ascending]
  | cons e rest ih =>
    obtain ⟨l, v⟩ := e
    obtain ⟨hl, hr⟩ := List.pairwise_cons.1 h
    by_cases h1 : utf8 key < utf8 l
    · rw [insertSorted, if_pos h1]
      refine List.pairwise_cons.2 ⟨fun b hb => ?_, h⟩
      rcases List.mem_cons.1 hb with rfl | hb
      · exact h1
      · exact List.lt_trans h1 (hl b hb)
    · by_cases h2 : utf8 l < utf8 key
      · rw [insertSorted, if_neg h1, if_pos h2]
        refine List.pairwise_cons.2 ⟨fun b hb => ?_, ih hr⟩
        rcases mem_keys_insertSorted (List.mem_map_of_mem (f := Prod.fst) hb) with hk | hk
        · exact hk ▸ h2
        · obtain ⟨c, hc, hcb⟩ := List.mem_map.1 hk
          exact hcb ▸ hl c hc
      · rw [insertSorted, if_neg h1, if_neg h2]
        have hkey : key = l :=
          utf8_inj.1 (List.le_antisymm (List.not_lt.1 h2) (List.not_lt.1 h1))
        exact List.pairwise_cons.2 ⟨fun b hb => hkey ▸ hl b hb, hr⟩

/-- A map from text to `α`, sorted by key. -/
structure SortedMap (α : Type) where
  entries : List (String × α)
  ascending : Ascending entries

namespace SortedMap

variable {α : Type}

def empty : SortedMap α := ⟨[], List.Pairwise.nil⟩

/-- Sets the value of a key. -/
def insert (m : SortedMap α) (key : String) (value : α) : SortedMap α :=
  ⟨insertSorted key value m.entries, ascending_insertSorted key value m.ascending⟩

theorem eq_of_entries {m n : SortedMap α} (h : m.entries = n.entries) : m = n := by
  cases m; cases n; cases h; rfl

instance [DecidableEq α] : DecidableEq (SortedMap α) := fun m n =>
  if h : m.entries = n.entries then isTrue (eq_of_entries h)
  else isFalse fun e => h (congrArg entries e)

end SortedMap

end NodeRpc
