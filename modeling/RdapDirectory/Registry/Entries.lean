import RdapDirectory.Url.Reader

namespace RdapDirectory.Registry

abbrev Item := String × List Url

def put (key : String) (urls : List Url) : List Item → List Item
  | [] => [(key, urls)]
  | (k, us) :: r =>
    if key < k then (key, urls) :: (k, us) :: r
    else if key = k then (key, urls) :: r
    else (k, us) :: put key urls r

theorem mem_put {key : String} {urls : List Url} {items : List Item} {i : Item}
    (h : i ∈ put key urls items) : i = (key, urls) ∨ i ∈ items := by
  induction items with
  | nil => simpa [put] using h
  | cons x r ih =>
    unfold put at h
    split at h
    · simpa using h
    · split at h
      · rcases List.mem_cons.1 h with h | h
        · exact .inl h
        · exact .inr (List.mem_cons_of_mem _ h)
      · rcases List.mem_cons.1 h with h | h
        · exact .inr (h ▸ List.mem_cons_self)
        · exact (ih h).imp_right (List.mem_cons_of_mem _)

theorem pairwise_put {key : String} {urls : List Url} {items : List Item}
    (h : items.Pairwise (·.1 < ·.1)) : (put key urls items).Pairwise (·.1 < ·.1) := by
  induction items with
  | nil => simp [put]
  | cons x r ih =>
    have ⟨hx, hr⟩ := List.pairwise_cons.1 h
    unfold put
    split
    · rename_i hk
      refine List.pairwise_cons.2 ⟨fun i hi => ?_, h⟩
      rcases List.mem_cons.1 hi with rfl | hi
      · exact hk
      · exact String.lt_trans hk (hx i hi)
    · split
      · rename_i hk
        exact List.pairwise_cons.2 ⟨fun i hi => hk ▸ hx i hi, hr⟩
      · rename_i hn he
        refine List.pairwise_cons.2 ⟨fun i hi => ?_, ih hr⟩
        rcases mem_put hi with rfl | hi
        · exact Std.not_le.1 fun hle => he (Std.le_antisymm hle (Std.not_lt.1 hn))
        · exact hx i hi

structure Entries where
  items : List Item
  sorted : items.Pairwise (·.1 < ·.1)

namespace Entries

def empty : Entries := ⟨[], .nil⟩

def insert (e : Entries) (key : String) (urls : List Url) : Entries :=
  ⟨put key urls e.items, pairwise_put e.sorted⟩

def find? (e : Entries) (key : String) : Option (List Url) :=
  (e.items.find? (·.1 = key)).map (·.2)

def keys (e : Entries) : List String := e.items.map (·.1)

end Entries

end RdapDirectory.Registry
