import RdapDirectory.Proofs.Growth

namespace RdapDirectory.Files

open Text

def moves (path : String) : List String := (steps path).filter fun s => s != "" && s != "."

theorem free_of_mem_steps {path s : String} (h : s ∈ steps path) : '/' ∉ s.toList := by
  obtain ⟨cs, hcs, rfl⟩ := List.mem_map.1 h
  intro hs
  have := free_of_mem_pieces hcs '/' (by simpa using hs)
  simp at this

theorem steps_intercalate {l : List String} (hl : l ≠ []) (h : ∀ s ∈ l, '/' ∉ s.toList) :
    steps ("/".intercalate l) = l := by
  induction l with
  | nil => exact absurd rfl hl
  | cons s rest ih =>
    cases rest with
    | nil =>
      rw [String.intercalate_singleton]
      exact steps_of_free (h s (by simp))
    | cons r rest =>
      rw [String.intercalate_cons_cons, steps_append_slash, steps_of_free (h s (by simp)),
        ih (by simp) fun x hx => h x (List.mem_cons_of_mem _ hx)]
      rfl

theorem steps_slash_append (s : String) : steps ("/" ++ s) = "" :: steps s := by
  have h := steps_append_slash "" s
  rw [String.empty_append] at h
  rw [h]
  rfl

theorem moves_slash_append (s : String) : moves ("/" ++ s) = moves s := by
  unfold moves
  rw [steps_slash_append]
  rfl

theorem moves_intercalate {path : String} {l : List String} (h : l ⊆ moves path) :
    moves ("/".intercalate l) = l := by
  by_cases hl : l = []
  · subst hl
    rfl
  · unfold moves
    rw [steps_intercalate hl fun s hs => free_of_mem_steps (List.mem_filter.1 (h hs)).1]
    exact List.filter_eq_self.2 fun s hs => (List.mem_filter.1 (h hs)).2

theorem head?_intercalate {path : String} {l : List String} (h : l ⊆ moves path) :
    ("/".intercalate l).toList.head? ≠ some '/' := by
  cases l with
  | nil => simp
  | cons s rest =>
    have hs := List.mem_filter.1 (h (by simp : s ∈ s :: rest))
    have hne : s ≠ "" := by simpa using (Bool.and_eq_true_iff.1 hs.2).1
    obtain ⟨c, cs, hc⟩ : ∃ c cs, s.toList = c :: cs :=
      List.exists_cons_of_ne_nil (by simpa using hne)
    have hslash : c ≠ '/' := by
      rintro rfl
      exact free_of_mem_steps hs.1 (by simp [hc])
    cases rest with
    | nil => simpa [hc] using hslash
    | cons r rest => simpa [String.intercalate_cons_cons, hc] using hslash

/-- The path that the first moves of a path make. -/
def ancestor (path : String) (n : Nat) : String :=
  (if path.toList.head? = some '/' then "/" else "") ++ "/".intercalate ((moves path).take n)

theorem ancestor_spec (path : String) (n : Nat) : moves (ancestor path n) = (moves path).take n ∧
    ((ancestor path n).toList.head? = some '/' ↔ path.toList.head? = some '/') := by
  have hsub : (moves path).take n ⊆ moves path := List.take_subset n _
  unfold ancestor
  by_cases hp : path.toList.head? = some '/'
  · rw [if_pos hp, moves_slash_append, moves_intercalate hsub]
    exact ⟨rfl, by simp [hp]⟩
  · rw [if_neg hp, String.empty_append, moves_intercalate hsub]
    exact ⟨rfl, by simp only [hp, head?_intercalate hsub]⟩

theorem parents_eq (path : String) :
    parents path = (List.range (moves path).length).reverse.map (ancestor path) := rfl

def Straight (path : String) : Prop := ".." ∉ steps path

instance (path : String) : Decidable (Straight path) := inferInstanceAs (Decidable (¬ _))

def isMove (s : String) : Bool := s != "" && s != "."

theorem moves_eq (path : String) : moves path = (steps path).filter isMove := rfl

theorem isMove_of_isPlain {s : String} (h : IsPlain s) : isMove s = true := by
  simp [isMove, h.1, h.2.1]

theorem filter_leading (folder : String) : (leading folder).filter isMove = moves folder := by
  by_cases he : folder = ""
  · subst he
    rfl
  · rw [moves_eq]
    rcases steps_eq_leading he with hs | hs
    · rw [hs]
    · rw [hs, List.filter_append]
      exact (List.append_nil _).symm

/-- The last step of a path, but for slashes at its end, and the moves that come before it. -/
structure Ends (path : String) (front : List String) (s : String) : Prop where
  ne : s ≠ ""
  cut : ∃ names blanks, steps path = names ++ s :: blanks ∧ names.filter isMove = front ∧
    ∀ x ∈ blanks, x = ""

theorem not_isMove_blank {blanks : List String} (h : ∀ x ∈ blanks, x = "") :
    blanks.filter isMove = [] :=
  List.filter_eq_nil_iff.2 fun x hx => by simp [isMove, h x hx]

theorem exists_ends {path : String} (h : moves path ≠ []) : ∃ front s, Ends path front s := by
  rcases trimmed_cases (steps path) with ht | ⟨names, s, blanks, hs, hn, hb⟩
  · have hblank : ∀ x ∈ steps path, x = "" := by
      simpa [List.dropWhile_eq_nil_iff] using ht
    exact absurd (not_isMove_blank hblank) h
  · exact ⟨_, s, hn, names, blanks, hs, rfl, hb⟩

theorem moves_of_ends {path s : String} {front : List String} (h : Ends path front s) :
    moves path = front ++ [s].filter isMove := by
  obtain ⟨-, names, blanks, hs, hf, hb⟩ := h
  rw [moves_eq, hs, List.filter_append, hf, ← List.singleton_append, List.filter_append,
    not_isMove_blank hb, List.append_nil]

theorem moves_of_ends_plain {path s : String} {front : List String} (h : Ends path front s)
    (hs : IsPlain s) : moves path = front ++ [s] := by
  rw [moves_of_ends h, List.filter_singleton, isMove_of_isPlain hs]
  rfl

theorem Ends.ne_empty {path s : String} {front : List String} (h : Ends path front s) :
    path ≠ "" := by
  rintro rfl
  obtain ⟨hn, names, blanks, hs, -⟩ := h
  have hm : s ∈ [""] := by
    change s ∈ steps ""
    rw [hs]
    simp
  exact hn (List.mem_singleton.1 hm)

theorem isPlain_of_mem_moves {path s : String} (h : s ∈ moves path) (hs : s ≠ "..") :
    IsPlain s := by
  obtain ⟨hm, hmove⟩ := List.mem_filter.1 h
  obtain ⟨he, hd⟩ : s ≠ "" ∧ s ≠ "." := by simpa using hmove
  exact ⟨he, hd, hs, free_of_mem_steps hm⟩

theorem ne_dot_of_mem_moves {path s : String} (h : s ∈ moves path) : s ≠ "." := by
  rintro rfl
  exact absurd (List.mem_filter.1 h).2 (by decide)

theorem ends_ancestor {path s : String} {front back : List String}
    (h : moves path = front ++ [s] ++ back) :
    Ends (ancestor path (front ++ [s]).length) front s := by
  have htake : (moves path).take (front ++ [s]).length = front ++ [s] := by
    rw [h, List.take_left]
  have hmem : ∀ x ∈ front ++ [s], x ∈ moves path := fun x hx => by
    rw [h]
    exact List.mem_append_left _ hx
  have hmove : ∀ x ∈ front ++ [s], isMove x = true := fun x hx =>
    (List.mem_filter.1 (hmem x hx)).2
  have hsteps : steps ("/".intercalate (front ++ [s])) = front ++ [s] :=
    steps_intercalate (by simp) fun x hx => free_of_mem_steps (List.mem_filter.1 (hmem x hx)).1
  have hfront : front.filter isMove = front :=
    List.filter_eq_self.2 fun x hx => hmove x (List.mem_append_left _ hx)
  refine ⟨fun he => ?_, ?_⟩
  · have := hmove s (by simp)
    simp [isMove, he] at this
  · unfold ancestor
    rw [htake]
    split
    · exact ⟨"" :: front, [], by rw [steps_slash_append, hsteps]; rfl, hfront, by simp⟩
    · exact ⟨front, [], by rw [String.empty_append, hsteps], hfront, by simp⟩

theorem parents_eq_cons {path s : String} {front : List String} (h : moves path = front ++ [s]) :
    parents path = ancestor path front.length :: parents (ancestor path front.length) := by
  obtain ⟨hm, hh⟩ := ancestor_spec path front.length
  have hfront : (moves path).take front.length = front := by simp [h]
  have hrange : (List.range (moves path).length).reverse =
      front.length :: (List.range front.length).reverse := by
    rw [h, List.length_append, List.length_singleton, List.range_succ, List.reverse_concat]
  rw [parents_eq, parents_eq, hm, hfront, hrange, List.map_cons]
  congr 1
  refine List.map_congr_left fun n hn => ?_
  have hlt : n < front.length := by simpa using hn
  have htake : (moves path).take n = front.take n := by
    rw [h, List.take_append_of_le_length hlt.le]
  generalize ancestor path front.length = a at hm hh
  simp only [ancestor, hh, hm, hfront, htake]

end RdapDirectory.Files
