import Mathlib
import RdapDirectory.Files.Path

namespace RdapDirectory.Text

theorem pieces_of_free {p : Char → Bool} {cs : List Char} (h : ∀ c ∈ cs, p c = false) :
    pieces p cs = [cs] := by
  induction cs with
  | nil => rfl
  | cons c r ih =>
    have hc := h c (by simp)
    have hr := ih fun x hx => h x (List.mem_cons_of_mem _ hx)
    simp [pieces, hc, hr]

theorem pieces_append_cons {p : Char → Bool} {c : Char} (hc : p c = true) (as bs : List Char) :
    pieces p (as ++ c :: bs) = pieces p as ++ pieces p bs := by
  induction as with
  | nil => simp [pieces, hc]
  | cons a r ih =>
    by_cases ha : p a = true
    · simp [pieces, ha, ih]
    · obtain ⟨x, xs, hx⟩ := List.exists_cons_of_ne_nil (pieces_ne_nil p r)
      simp [pieces, ha, ih, hx]

theorem free_of_mem_pieces {p : Char → Bool} {cs xs : List Char} (h : xs ∈ pieces p cs) :
    ∀ c ∈ xs, p c = false := by
  induction cs generalizing xs with
  | nil =>
    rw [List.mem_singleton.1 h]
    simp
  | cons a r ih =>
    by_cases ha : p a = true
    · simp only [pieces, ha, if_true, List.mem_cons] at h
      rcases h with rfl | h
      · simp
      · exact ih h
    · obtain ⟨y, ys, hy⟩ := List.exists_cons_of_ne_nil (pieces_ne_nil p r)
      simp only [pieces, ha, hy, if_false, List.mem_cons, Bool.false_eq_true] at h
      rcases h with rfl | h
      · intro c hc
        rcases List.mem_cons.1 hc with rfl | hc
        · simpa using ha
        · exact ih (by rw [hy]; simp) c hc
      · exact ih (by rw [hy]; simp [h])

end RdapDirectory.Text

namespace RdapDirectory.Files

open Text

def IsPlain (name : String) : Prop :=
  name ≠ "" ∧ name ≠ "." ∧ name ≠ ".." ∧ '/' ∉ name.toList

instance (name : String) : Decidable (IsPlain name) := inferInstanceAs (Decidable (_ ∧ _))

theorem steps_of_free {name : String} (h : '/' ∉ name.toList) : steps name = [name] := by
  have hp : pieces (· == '/') name.toList = [name.toList] :=
    pieces_of_free fun c hc => by simpa using fun he : c = '/' => h (he ▸ hc)
  simp [steps, hp]

theorem steps_append_slash (a b : String) : steps (a ++ "/" ++ b) = steps a ++ steps b := by
  have h : (a ++ "/" ++ b).toList = a.toList ++ '/' :: b.toList := by simp
  simp only [steps, h]
  rw [pieces_append_cons (by rfl), List.map_append]

/-- The steps to a folder, less the one behind a slash at the end. -/
def leading (folder : String) : List String :=
  if folder.isEmpty then []
  else if folder.toList.getLast? = some '/' then (steps folder).dropLast
  else steps folder

theorem exists_eq_append_slash {s : String} (h : s.toList.getLast? = some '/') :
    ∃ a, s = a ++ "/" := by
  obtain ⟨cs, hcs⟩ := List.getLast?_eq_some_iff.1 h
  exact ⟨.ofList cs, String.toList_inj.1 (by simp [hcs])⟩

theorem steps_slash_end (a : String) : steps (a ++ "/") = steps a ++ [""] := by
  have h := steps_append_slash a ""
  rw [String.append_empty] at h
  rw [h]
  rfl

theorem steps_eq_leading {folder : String} (h : folder ≠ "") :
    steps folder = leading folder ∨ steps folder = leading folder ++ [""] := by
  simp only [leading, String.isEmpty_iff, h, if_false]
  split
  · rename_i hl
    obtain ⟨a, rfl⟩ := exists_eq_append_slash hl
    right
    rw [steps_slash_end, List.dropLast_concat]
  · exact .inl rfl

theorem head?_join {name : String} (h : IsPlain name) {folder : String} (he : folder ≠ "") :
    (join folder name).toList.head? = folder.toList.head? := by
  have hn : name.toList.head? ≠ some '/' := fun he => h.2.2.2 (List.mem_of_mem_head? he)
  obtain ⟨c, cs, hc⟩ : ∃ c cs, folder.toList = c :: cs :=
    List.exists_cons_of_ne_nil (by simpa using he)
  simp only [join, hn, String.isEmpty_iff, he, decide_false, Bool.false_or, if_false]
  split <;> simp [hc]

theorem steps_join {name : String} (h : IsPlain name) (folder : String) :
    steps (join folder name) = leading folder ++ [name] := by
  have hn : name.toList.head? ≠ some '/' := fun he => h.2.2.2 (List.mem_of_mem_head? he)
  have hs := steps_of_free h.2.2.2
  by_cases he : folder = ""
  · simp [join, leading, he, hs]
  · simp only [join, leading, hn, String.isEmpty_iff, he, decide_false, Bool.false_or, if_false]
    split
    · rename_i hl
      obtain ⟨a, rfl⟩ := exists_eq_append_slash hl
      rw [steps_append_slash, steps_slash_end, List.dropLast_concat, hs]
    · rw [steps_append_slash, hs]

theorem join_ne_empty {name : String} (h : IsPlain name) (folder : String) :
    join folder name ≠ "" := by
  intro he
  have hs := steps_join h folder
  rw [he] at hs
  have hl := congrArg List.getLast? hs
  rw [List.getLast?_concat] at hl
  exact h.1 (Option.some.inj hl.symm)

theorem trimmed_append {names blanks : List String} {name : String} (hn : name ≠ "")
    (hb : ∀ s ∈ blanks, s = "") :
    ((names ++ name :: blanks).reverse.dropWhile (· == "")).reverse = names ++ [name] := by
  have hr : (names ++ name :: blanks).reverse = blanks.reverse ++ name :: names.reverse := by simp
  rw [hr, List.dropWhile_append_of_pos fun s hs => by simp [hb s (List.mem_reverse.1 hs)]]
  simp [hn]

theorem trimmed_cases (ss : List String) : (ss.reverse.dropWhile (· == "")).reverse = [] ∨
    ∃ names name blanks, ss = names ++ name :: blanks ∧ name ≠ "" ∧ ∀ s ∈ blanks, s = "" := by
  have hs := List.takeWhile_append_dropWhile (p := (· == "")) (l := ss.reverse)
  cases hd : ss.reverse.dropWhile (· == "") with
  | nil => exact .inl rfl
  | cons name front =>
    right
    refine ⟨front.reverse, name, (ss.reverse.takeWhile (· == "")).reverse, ?_, ?_, fun s h => ?_⟩
    · rw [hd] at hs
      simpa using (congrArg List.reverse hs).symm
    · have hh := List.head?_dropWhile_not (· == "") ss.reverse
      rw [hd] at hh
      simpa using hh
    · simpa using List.all_eq_true.1 List.all_takeWhile s (List.mem_reverse.1 h)

end RdapDirectory.Files
