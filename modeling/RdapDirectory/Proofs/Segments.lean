import RdapDirectory.Proofs.Escapes
import RdapDirectory.Proofs.Numerals
import RdapDirectory.Url.Reader

namespace RdapDirectory.Url

open Text

def dots : List (List Char) :=
  [".", "%2e", "..", ".%2e", "%2e.", "%2e%2e"].map String.toList

theorem isDotted_subset {names : List String} (hn : names.map String.toList ⊆ dots)
    {cs : List Char} (h : isDotted names cs = true) : cs.map Char.toLower ∈ dots := by
  obtain ⟨n, hmem, he⟩ := List.any_eq_true.1 h
  rw [← beq_iff_eq.1 he]
  exact hn (List.mem_map_of_mem hmem)

theorem mem_dots_of_isUp {cs : List Char} (h : isUp cs = true) : cs.map Char.toLower ∈ dots := by
  apply isDotted_subset _ h
  decide

theorem mem_dots_of_isHere {cs : List Char} (h : isHere cs = true) :
    cs.map Char.toLower ∈ dots := by
  apply isDotted_subset _ h
  decide

theorem percent_in_dots {n as bs : List Char} {x y : Char} (hn : n ∈ dots)
    (he : n = as ++ '%' :: x :: y :: bs) : x = '2' ∧ y = 'e' := by
  have hall : ∀ n ∈ dots, ∀ i < n.length, n[i]? = some '%' →
      n[i + 1]? = some '2' ∧ n[i + 2]? = some 'e' := by decide
  have hlen : as.length < n.length := by simp [he]
  obtain ⟨hx, hy⟩ := hall n hn as.length hlen (by simp [he])
  simp only [he] at hx hy
  constructor
  · simpa using hx
  · simpa using hy

theorem hexCapital_toLower {m : Nat} (hm : m < 16) :
    ((hexCapital m).toLower = '2' → m = 2) ∧ ((hexCapital m).toLower = 'e' → m = 14) := by
  have hall : ∀ m < 16, ((hexCapital m).toLower = '2' → m = 2) ∧
      ((hexCapital m).toLower = 'e' → m = 14) := by decide
  exact hall m hm

theorem escape_of_dotted {keep : Char → Bool} (hdot : keep '.' = true) {cs : List Char}
    (h : (escape keep cs).map Char.toLower ∈ dots) : ∀ c ∈ cs, keep c = true := by
  intro c hc
  by_contra hkeep
  obtain ⟨as, bs, rfl⟩ := List.append_of_mem hc
  obtain ⟨b, r, hb⟩ := List.exists_cons_of_ne_nil (utf8EncodeChar_ne_nil c)
  have hlt := b.toNat_lt
  have hcode : escapeChar c = '%' :: hexCapital (b.toNat / 16) :: hexCapital (b.toNat % 16) ::
      r.flatMap escapeOctet := by
    rw [escapeChar, hb, List.flatMap_cons]
    rfl
  have hwhole : (escape keep (as ++ c :: bs)).map Char.toLower =
      (escape keep as).map Char.toLower ++ '%' :: (hexCapital (b.toNat / 16)).toLower ::
        (hexCapital (b.toNat % 16)).toLower ::
          (r.flatMap escapeOctet ++ escape keep bs).map Char.toLower := by
    rw [escape_append, escape_cons, if_neg hkeep, hcode]
    simp
  obtain ⟨hx, hy⟩ := percent_in_dots h hwhole
  -- The first octet of the escape is that of a dot, so it is a dot that has been escaped.
  have hhigh := (hexCapital_toLower (m := b.toNat / 16) (by omega)).1 hx
  have hlow := (hexCapital_toLower (m := b.toNat % 16) (by omega)).2 hy
  have hvalue : b.toNat = '.'.toNat := by
    change b.toNat = 46
    omega
  have hmem : b ∈ String.utf8EncodeChar c := by simp [hb]
  have hchar : c = '.' := by
    apply Char.toNat_inj.1
    rw [toNat_eq_of_mem_utf8EncodeChar hmem (by rw [hvalue]; decide), hvalue]
  rw [hchar, hdot] at hkeep
  exact hkeep rfl

theorem isUp_escape {keep : Char → Bool} (hdot : keep '.' = true) (cs : List Char) :
    isUp (escape keep cs) = true → escape keep cs = cs :=
  fun h => escape_of_kept (escape_of_dotted hdot (mem_dots_of_isUp h))

theorem isHere_escape {keep : Char → Bool} (hdot : keep '.' = true) (cs : List Char) :
    isHere (escape keep cs) = true → escape keep cs = cs :=
  fun h => escape_of_kept (escape_of_dotted hdot (mem_dots_of_isHere h))

structure Settled (cs : List Char) : Prop where
  kept : ∀ c ∈ cs, keptInPath c = true
  free : ∀ c ∈ cs, isSlash true c = false
  up : isUp cs = false
  here : isHere cs = false

theorem Settled.nil : Settled [] := by
  refine ⟨?_, ?_, by decide, by decide⟩ <;> simp

theorem settled_escape {cs : List Char} (hfree : ∀ c ∈ cs, isSlash true c = false)
    (hup : isUp cs = false) (hhere : isHere cs = false) : Settled (escape keptInPath cs) := by
  refine ⟨?_, fun c hc => ?_, ?_, ?_⟩
  · apply forall_mem_escape
    · exact fun c _ hc => hc
    · decide
  · have hall : ∀ c ∈ escape keptInPath cs, (!isSlash true c) = true := by
      apply forall_mem_escape
      · intro c hmem _
        simp [hfree c hmem]
      · decide
    simpa using hall c hc
  · by_contra h
    have h := Bool.eq_true_of_not_eq_false h
    rw [isUp_escape (by decide) cs h, hup] at h
    cases h
  · by_contra h
    have h := Bool.eq_true_of_not_eq_false h
    rw [isHere_escape (by decide) cs h, hhere] at h
    cases h

theorem written_of_not_file (cs : List Char) : written false cs = escape keptInPath cs := by
  unfold written
  split
  · exact absurd ‹false = true› (by decide)
  · rfl

theorem written_settled {cs : List Char} (h : Settled cs) : written false cs = cs := by
  rw [written_of_not_file, escape_of_kept h.kept]

theorem walk_append {done segs : List (List Char)} (h : ∀ cs ∈ segs, Settled cs)
    (rest : List (List Char)) :
    walk false done (segs ++ rest) = walk false (done ++ segs) rest := by
  induction segs generalizing done with
  | nil => simp
  | cons cs segs ih =>
    have hcs := h cs (by simp)
    have hsegs := fun x hx => h x (List.mem_cons_of_mem _ hx)
    rw [List.cons_append, walk, hcs.up, hcs.here, written_settled hcs]
    simp only [Bool.false_eq_true, if_false]
    rw [ih hsegs]
    simp

theorem walk_eq_self {segs : List (List Char)} (h : ∀ cs ∈ segs, Settled cs) :
    walk false [] segs = segs := by
  have hstep : walk false [] (segs ++ []) = walk false ([] ++ segs) [] := walk_append h []
  simpa [walk] using hstep

theorem up_subset (done : List (List Char)) : up done ⊆ done := by
  unfold up
  split
  · split
    · exact List.Subset.refl _
    · exact List.dropLast_subset done
  · exact List.Subset.refl _

theorem walk_settled {segs done : List (List Char)} (hdone : ∀ cs ∈ done, Settled cs)
    (hfree : ∀ cs ∈ segs, ∀ c ∈ cs, isSlash true c = false) :
    ∀ cs ∈ walk false done segs, Settled cs := by
  induction segs generalizing done with
  | nil => exact hdone
  | cons seg rest ih =>
    have hrest := fun cs hcs => hfree cs (List.mem_cons_of_mem seg hcs)
    have hclose : ∀ p : List (List Char), (∀ cs ∈ p, Settled cs) →
        ∀ cs ∈ if rest.isEmpty then p ++ [[]] else p, Settled cs := by
      intro p hp cs hcs
      split at hcs
      · rcases List.mem_append.1 hcs with hcs | hcs
        · exact hp cs hcs
        · rw [List.mem_singleton.1 hcs]
          exact Settled.nil
      · exact hp cs hcs
    rw [walk]
    dsimp only
    split
    · exact ih (hclose _ fun cs hcs => hdone cs (up_subset done hcs)) hrest
    · rename_i hup
      split
      · exact ih (hclose _ hdone) hrest
      · rename_i hhere
        apply ih _ hrest
        intro cs hcs
        rcases List.mem_append.1 hcs with hcs | hcs
        · exact hdone cs hcs
        · rw [List.mem_singleton.1 hcs, written_of_not_file]
          exact settled_escape (hfree seg (by simp)) (Bool.eq_false_of_not_eq_true hup)
            (Bool.eq_false_of_not_eq_true hhere)

theorem walk_ne_nil {segs : List (List Char)} (h : segs ≠ []) (done : List (List Char)) :
    walk false done segs ≠ [] := by
  induction segs generalizing done with
  | nil => exact absurd rfl h
  | cons seg rest ih =>
    cases rest with
    | nil =>
      simp only [walk, List.isEmpty_nil, if_true]
      split
      · simp
      · split <;> simp
    | cons r rest =>
      rw [walk]
      dsimp only
      split
      · exact ih (by simp) _
      · split
        · exact ih (by simp) _
        · exact ih (by simp) _

theorem readPath_settled (cs : List Char) : ∃ segs : List (List Char), segs ≠ [] ∧
    (∀ seg ∈ segs, Settled seg) ∧ readPath true cs = .steps (segs.map String.ofList) := by
  have hsteps : ∀ cs, ∃ segs : List (List Char), segs ≠ [] ∧ (∀ seg ∈ segs, Settled seg) ∧
      readSteps true cs = .steps (segs.map String.ofList) := by
    intro cs
    refine ⟨_, walk_ne_nil (pieces_ne_nil (isSlash true) cs) [], ?_, rfl⟩
    apply walk_settled
    · intro seg hseg
      cases hseg
    · exact fun seg hseg => free_of_mem_pieces hseg
  cases cs with
  | nil =>
    refine ⟨[[]], by simp, fun seg hseg => ?_, rfl⟩
    rw [List.mem_singleton.1 hseg]
    exact Settled.nil
  | cons c r => exact hsteps _

end RdapDirectory.Url
