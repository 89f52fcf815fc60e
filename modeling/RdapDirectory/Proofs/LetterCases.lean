import RdapDirectory.Proofs.SmallLetters

namespace RdapDirectory.Text

def smallForm (c : Char) : List Char := lowerFrom false [c]

def SameLetters (s t : String) : Prop := s.toList.map smallForm = t.toList.map smallForm

instance (s t : String) : Decidable (SameLetters s t) := inferInstanceAs (Decidable (_ = _))

/-- A capital sigma with a letter before it and none behind it. -/
def HasFinalSigma (s : String) : Prop :=
  ∃ front back, s.toList = front ++ 'Σ' :: back ∧ startsCased front.reverse = true ∧
    startsCased back = false

theorem startsCased_cons (c : Char) (cs : List Char) :
    startsCased (c :: cs) = if isCaseIgnorable c then startsCased cs else isCased c := by
  unfold startsCased
  by_cases hc : isCaseIgnorable c = true <;> simp [hc]

theorem lowerFrom_of_not_final (front rest : List Char)
    (h : ∀ mid back, rest = mid ++ 'Σ' :: back →
      startsCased (front ++ mid).reverse = true → startsCased back = true) :
    lowerFrom (startsCased front.reverse) rest = rest.flatMap smallForm := by
  induction rest generalizing front with
  | nil => rfl
  | cons c rest ih =>
    have hfollows : (if isCaseIgnorable c then startsCased front.reverse else isCased c) =
        startsCased (front ++ [c]).reverse := by
      rw [List.reverse_append, List.reverse_singleton, List.singleton_append, startsCased_cons]
    have hrest : lowerFrom (startsCased (front ++ [c]).reverse) rest = rest.flatMap smallForm := by
      apply ih
      intro mid back hsplit hcased
      rw [List.append_assoc, List.singleton_append] at hcased
      exact h (c :: mid) back (by rw [hsplit, List.cons_append]) hcased
    have hsigma : c = 'Σ' → (startsCased front.reverse && !startsCased rest) = false := by
      rintro rfl
      cases hcased : startsCased front.reverse with
      | false => rfl
      | true =>
        have hback := h [] rest rfl (by rwa [List.append_nil])
        rw [hback]
        rfl
    rw [lowerFrom, List.flatMap_cons, hfollows, hrest]
    congr 1
    by_cases hc : c = 'Σ'
    · rw [if_pos hc, hsigma hc, hc]
      rfl
    · simp [smallForm, lowerFrom, hc]

theorem lower_of_not_final {s : String} (h : ¬ HasFinalSigma s) :
    lower s = .ofList (s.toList.flatMap smallForm) := by
  apply congrArg String.ofList
  apply lowerFrom_of_not_final []
  intro mid back hsplit hcased
  cases hback : startsCased back with
  | true => rfl
  | false => exact absurd ⟨mid, back, hsplit, hcased, hback⟩ h

theorem lower_eq_of_sameLetters {s t : String} (h : SameLetters s t) (hs : ¬ HasFinalSigma s)
    (ht : ¬ HasFinalSigma t) : lower s = lower t := by
  have hall : s.toList.map smallForm = t.toList.map smallForm := h
  rw [lower_of_not_final hs, lower_of_not_final ht, List.flatMap_def, List.flatMap_def, hall]

theorem not_hasFinalSigma {s : String} (h : 'Σ' ∉ s.toList) : ¬ HasFinalSigma s := by
  rintro ⟨front, back, hsplit, -, -⟩
  apply h
  rw [hsplit]
  exact List.mem_append_right _ List.mem_cons_self

theorem lowerFrom_concat_dot (follows : Bool) (cs : List Char) :
    lowerFrom follows (cs ++ ['.']) = lowerFrom follows cs ++ ['.'] := by
  have hdot : ∀ cs : List Char, startsCased (cs ++ ['.']) = startsCased cs := by
    intro cs
    induction cs with
    | nil => decide
    | cons c r ih => rw [List.cons_append, startsCased_cons, startsCased_cons, ih]
  induction cs generalizing follows with
  | nil => decide +revert
  | cons c r ih =>
    rw [List.cons_append, lowerFrom, lowerFrom, hdot, ih, List.append_assoc]

end RdapDirectory.Text
