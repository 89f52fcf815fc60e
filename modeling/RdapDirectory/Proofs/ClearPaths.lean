import RdapDirectory.Proofs.PathMoves

/-!
Paths that step back only out of folders that are there. A second attempt to make the folders of
such a path ends like the first, and neither brings any file to light.
-/

namespace RdapDirectory.Files

namespace Tree

variable {t : Tree} {p : Place}

structure Sound (t : Tree) : Prop where
  here : t.IsFolder t.here
  entry : ∀ name p n, t.get? (name :: p) = some n → t.IsFolder p

theorem sound_of_nodes {t : Tree} (hh : (t.get? t.here).any Node.isFolder = true)
    (hn : (t.nodes.all fun x => (t.get? x.1.tail).any Node.isFolder) = true) : t.Sound := by
  refine ⟨any_isFolder.1 hh, fun name p n h => ?_⟩
  obtain ⟨before, after, hnodes, -⟩ := List.lookup_eq_some_iff.1 h
  have hm : (name :: p, n) ∈ t.nodes := by simp [hnodes]
  exact any_isFolder.1 (List.all_eq_true.1 hn _ hm)

theorem Sound.suffix {t : Tree} (h : t.Sound) {p q : Place} (hp : t.IsFolder p)
    (hq : q <:+ p) : t.IsFolder q := by
  obtain ⟨as, rfl⟩ := hq
  induction as with
  | nil => exact hp
  | cons a as ih =>
    obtain ⟨changed, hp⟩ := hp
    exact ih (h.entry a _ _ hp)

theorem stride_of_not_isMove {s : String} (h : ¬ isMove s = true) (p : Place) :
    stride p s = p := by
  rw [stride, if_pos]
  simpa [isMove, or_iff_not_imp_left] using h

def Goes (t : Tree) (p : Place) (ss : List String) : Prop :=
  t.walk p ss = .ok (land p ss) ∧ t.IsFolder (land p ss)

theorem goes_cons {s : String} {rest : List String} :
    t.Goes p (s :: rest) ↔ t.IsFolder p ∧ t.Goes (stride p s) rest := by
  unfold Goes
  rw [walk_cons_eq_ok, and_assoc]
  rfl

theorem Goes.isFolder {ss : List String} (h : t.Goes p ss) : t.IsFolder p := by
  cases ss with
  | nil => exact h.2
  | cons s rest => exact (goes_cons.1 h).1

theorem goes_filter {ss : List String} : t.Goes p (ss.filter isMove) ↔ t.Goes p ss := by
  induction ss generalizing p with
  | nil => rfl
  | cons s rest ih =>
    by_cases hs : isMove s = true
    · rw [List.filter_cons_of_pos hs, goes_cons, goes_cons, ih]
    · rw [List.filter_cons_of_neg hs, goes_cons, stride_of_not_isMove hs, ih]
      exact ⟨fun h => ⟨h.isFolder, h⟩, And.right⟩

theorem land_filter (p : Place) (ss : List String) : land p (ss.filter isMove) = land p ss := by
  induction ss generalizing p with
  | nil => rfl
  | cons s rest ih =>
    by_cases hs : isMove s = true
    · rw [List.filter_cons_of_pos hs]
      exact ih (stride p s)
    · rw [List.filter_cons_of_neg hs, ih]
      exact congrArg (land · rest) (stride_of_not_isMove hs p).symm

theorem home_eq_land (t : Tree) (folder : String) :
    t.home folder = land (t.origin folder) (moves folder) := by
  rw [← filter_leading, land_filter]
  rfl

theorem reaches_iff {folder : String} :
    t.Reaches folder ↔ t.Goes (t.origin folder) (moves folder) := by
  rw [← filter_leading, goes_filter]
  rfl

variable {path s a : String} {front : List String}

theorem locateEntry_of_goes (h : Ends path front s) (hg : t.Goes (t.origin path) front) :
    t.locateEntry path = .ok (land (t.origin path) front, s) := by
  have he := h.ne_empty
  obtain ⟨hn, names, blanks, hs, rfl, hb⟩ := h
  rw [goes_filter] at hg
  rw [land_filter]
  exact locateEntry_eq_ok.2 ⟨he, hn, hg.2, names, blanks, hs, hb, hg.1⟩

theorem locateEntry_of_not_goes (h : Ends path front s) (hg : ¬ t.Goes (t.origin path) front) :
    ∃ e, t.locateEntry path = .error e := by
  have he := h.ne_empty
  obtain ⟨hn, names, blanks, hs, rfl, hb⟩ := h
  rw [goes_filter] at hg
  rw [locateEntry_of_steps he hs hn hb]
  cases hw : t.walk (t.origin path) names with
  | error e => exact ⟨e, rfl⟩
  | ok q =>
    obtain rfl := land_of_walk hw
    cases hq : t.get? (land (t.origin path) names) with
    | none => exact ⟨.missing, by simp only [hq]⟩
    | some n =>
      cases n with
      | file => exact ⟨.notFolder, by simp only [hq]⟩
      | folder changed => exact absurd ⟨hw, changed, hq⟩ hg

theorem makeFolder_fails (h : Ends path front s) (hs : s = "." ∨ ¬ t.Goes (t.origin path) front)
    (now : Instant) : ∃ e, t.makeFolder path now = .error e := by
  by_cases hg : t.Goes (t.origin path) front
  · obtain rfl := hs.resolve_right (not_not.2 hg)
    exact ⟨.taken, by simp only [makeFolder, locateEntry_of_goes h hg]; rfl⟩
  · obtain ⟨e, he⟩ := locateEntry_of_not_goes h hg
    exact ⟨e, by simp only [makeFolder, he]; rfl⟩

theorem Sound.link_folder (h : t.Sound) (hp : t.IsFolder p) (hs : t.get? (s :: p) = none)
    (now : Instant) : (t.link p s (.folder now) now).Sound := by
  have hg := grows_link_folder hp hs now
  refine ⟨hg.here ▸ hg.folder _ h.here, fun name q n hn => ?_⟩
  rw [get?_link hp] at hn
  split at hn
  · rename_i hq
    obtain ⟨changed, hc⟩ := hp
    exact hg.folder q (h.entry name q _ (hq ▸ hc))
  · split at hn
    · rename_i hq
      obtain ⟨-, rfl⟩ := List.cons.inj hq
      exact hg.folder q hp
    · exact hg.folder q (h.entry name q n hn)

theorem Sound.makeFolders (h : t.Sound) (folder : String) (now : Instant) :
    (t.makeFolders folder now).2.Sound := by
  refine makeChain_of_makeFolder (P := fun t u => t.Sound → u.Sound) (fun _ ht => ht)
    (fun _ _ _ hu hv ht => hv (hu ht)) now _ t (fun path _ t u hm ht => ?_) h
  obtain ⟨p, name, hl, -, -, hn, rfl⟩ := makeFolder_eq_ok hm
  exact ht.link_folder (locateEntry_eq_ok.1 hl).2.2.1 hn now

theorem makeFolder_of_goes (h : Ends path front s) (hs : IsPlain s)
    (hg : t.Goes (t.origin path) front) (now : Instant) : t.makeFolder path now =
      if (t.get? (s :: land (t.origin path) front)).isSome then .error .taken
      else .ok (t.link (land (t.origin path) front) s (.folder now) now) := by
  simp only [makeFolder, locateEntry_of_goes h hg, bind, Except.bind, hs.2.1, hs.2.2.1,
    decide_false, Bool.false_or]
  split <;> rfl

theorem makeFolder_of_none (ht : t.Sound) (h : Ends path front s) (hs : IsPlain s)
    (hg : t.Goes (t.origin path) front) (hn : t.get? (s :: land (t.origin path) front) = none)
    (now : Instant) : ∃ u, t.makeFolder path now = .ok u ∧
      ∀ name, u.get? (name :: s :: land (t.origin path) front) = none := by
  refine ⟨_, by rw [makeFolder_of_goes h hs hg, hn]; rfl, fun name => ?_⟩
  have hlong : name :: s :: land (t.origin path) front ≠ land (t.origin path) front := by
    intro he
    have := congrArg List.length he
    simp only [List.length_cons] at this
    omega
  rw [get?_link hg.2, if_neg hlong, if_neg (place_ne name _)]
  by_contra hne
  obtain ⟨n, hn'⟩ := Option.ne_none_iff_exists'.1 hne
  obtain ⟨changed, hf⟩ := ht.entry _ _ _ hn'
  cases hn.symm.trans hf

theorem makeFolders_of_made {u : Tree} {now : Instant} (he : path ≠ "")
    (h : t.makeFolder path now = .ok u) : t.makeFolders path now = (.ok (), u) := by
  simp only [makeFolders, makeChain, String.isEmpty_iff, he, if_false, h]

theorem makeFolders_of_failed {e : Fault} {now : Instant} (he : path ≠ "")
    (h : t.makeFolder path now = .error e) (hm : e ≠ .missing) (hr : ¬ t.Reaches path) :
    t.makeFolders path now = (.error e, t) := by
  have hf := mt (hasFolder_iff_reaches he).1 hr
  unfold makeFolders makeChain
  cases e with
  | missing => exact absurd rfl hm
  | taken | notFolder | isFolder | notText => simp [he, h, hf]

theorem makeFolders_of_missing {now : Instant} (he : path ≠ "")
    (h : t.makeFolder path now = .error .missing) (ha : parents path = a :: parents a) :
    t.makeFolders path now = match t.makeFolders a now with
      | (.error e, u) => (.error e, u)
      | (.ok (), u) =>
        match u.makeFolder path now with
        | .ok v => (.ok (), v)
        | .error e => (if u.hasFolder path then .ok () else .error e, u) := by
  rw [makeFolders, ha, makeChain]
  simp only [String.isEmpty_iff, he, if_false, h]
  rfl

/-- Every step back in a path is out of folders that are there. -/
def Clear (t : Tree) (folder : String) : Prop :=
  ∃ front back, moves folder = front ++ back ∧ t.Goes (t.origin folder) front ∧ ".." ∉ back

theorem Sound.origin (ht : t.Sound) (path : String) : t.IsFolder (t.origin path) := by
  unfold Tree.origin
  split
  · exact ht.suffix ht.here (List.nil_suffix)
  · exact ht.here

theorem Reaches.clear (h : t.Reaches path) : t.Clear path :=
  ⟨moves path, [], (List.append_nil _).symm, reaches_iff.1 h, List.not_mem_nil⟩

theorem clear_of_straight (h : Straight path) (ht : t.Sound) : t.Clear path := by
  refine ⟨[], moves path, rfl, ⟨rfl, ht.origin path⟩, fun hm => h ?_⟩
  exact (List.mem_filter.1 hm).1

theorem origin_ancestor (t : Tree) (path : String) (n : Nat) :
    t.origin (ancestor path n) = t.origin path := by
  simp only [origin, (ancestor_spec path n).2]

theorem Clear.last_step (h : t.Clear path) (hr : ¬ t.Reaches path) : ∃ front s,
    moves path = front ++ [s] ∧ IsPlain s ∧ t.Clear (ancestor path front.length) := by
  obtain ⟨front, back, hm, hg, hb⟩ := h
  rcases List.eq_nil_or_concat back with rfl | ⟨middle, s, rfl⟩
  · rw [List.append_nil] at hm
    exact absurd (reaches_iff.2 (hm ▸ hg)) hr
  · rw [List.concat_eq_append] at hm hb
    refine ⟨front ++ middle, s, by rw [hm, List.append_assoc], ?_, front, middle, ?_, ?_, ?_⟩
    · have hmem : s ∈ moves path := by
        rw [hm]
        simp
      exact isPlain_of_mem_moves hmem fun he => hb (by simp [he])
    · rw [(ancestor_spec ..).1, hm, ← List.append_assoc, List.take_left]
    · rw [origin_ancestor]
      exact hg
    · exact fun hd => hb (List.mem_append_left _ hd)

theorem Clear.of_ends (hc : t.Clear path) (hr : ¬ t.Reaches path) (h : Ends path front s)
    (hs : s ≠ ".") : IsPlain s ∧ t.Clear (ancestor path front.length) := by
  obtain ⟨front', s', hm, hplain, hca⟩ := hc.last_step hr
  have hmove : isMove s = true := by simp [isMove, h.ne, hs]
  obtain ⟨rfl, rfl⟩ : front' = front ∧ s' = s := by
    simpa [hmove] using hm.symm.trans (moves_of_ends h)
  exact ⟨hplain, hca⟩

theorem home_ancestor (t : Tree) (h : moves path = front ++ [s]) :
    t.home (ancestor path front.length) = land (t.origin path) front := by
  rw [home_eq_land, (ancestor_spec ..).1, h, List.take_left, origin_ancestor]

theorem reaches_ancestor (h : moves path = front ++ [s]) :
    t.Reaches (ancestor path front.length) ↔ t.Goes (t.origin path) front := by
  rw [reaches_iff, (ancestor_spec ..).1, h, List.take_left, origin_ancestor]

theorem home_of_moves (t : Tree) (h : moves path = front ++ [s]) (hs : IsPlain s) :
    t.home path = s :: t.home (ancestor path front.length) := by
  rw [home_ancestor t h, home_eq_land, h, land_append]
  exact stride_plain hs _

def MadeWhole (t : Tree) (path : String) (now : Instant) : Prop :=
  (∃ e, t.makeFolders path now = (.error e, t)) ∨
    ∃ u, t.makeFolders path now = (.ok (), u) ∧ ∀ name, u.get? (name :: t.home path) = none

theorem makeFolder_below (ht : t.Sound) (h : Ends path front s) (hs : IsPlain s)
    (ha : t.Reaches (ancestor path front.length))
    (hn : t.get? (s :: t.home (ancestor path front.length)) = none) (now : Instant) :
    ∃ u, t.makeFolder path now = .ok u ∧ ∀ name, u.get? (name :: t.home path) = none := by
  have hm := moves_of_ends_plain h hs
  rw [home_ancestor t hm] at hn
  rw [home_of_moves t hm hs, home_ancestor t hm]
  exact makeFolder_of_none ht h hs ((reaches_ancestor hm).1 ha) hn now

theorem madeWhole_below (ht : t.Sound) (h : Ends path front s) (hs : IsPlain s)
    (ha : t.Reaches (ancestor path front.length)) (hr : ¬ t.Reaches path) (now : Instant) :
    t.MadeWhole path now := by
  have hm := moves_of_ends_plain h hs
  cases hn : t.get? (s :: t.home (ancestor path front.length)) with
  | none =>
    obtain ⟨u, hu, hnone⟩ := makeFolder_below ht h hs ha hn now
    exact .inr ⟨u, makeFolders_of_made h.ne_empty hu, hnone⟩
  | some n =>
    have htaken := makeFolder_of_goes h hs ((reaches_ancestor hm).1 ha) now
    rw [← home_ancestor t hm, hn] at htaken
    exact .inl ⟨.taken, makeFolders_of_failed h.ne_empty htaken (by decide) hr⟩

theorem MadeWhole.below {now : Instant} (ht : t.Sound) (h : Ends path front s) (hs : IsPlain s)
    (hw : t.MadeWhole (ancestor path front.length) now)
    (ha : ¬ t.Reaches (ancestor path front.length)) (hr : ¬ t.Reaches path) :
    t.MadeWhole path now := by
  have hm := moves_of_ends_plain h hs
  have he := h.ne_empty
  obtain ⟨e, hfail⟩ := makeFolder_fails h (.inr (mt (reaches_ancestor hm).2 ha)) now
  by_cases hmiss : e = .missing
  · subst hmiss
    have hstep := makeFolders_of_missing he hfail (parents_eq_cons hm)
    rcases hw with ⟨e, hu⟩ | ⟨u, hu, hnone⟩
    · exact .inl ⟨e, by rw [hstep, hu]⟩
    · have hgrow := makeFolders_grows t (ancestor path front.length) now
      have hsound := ht.makeFolders (ancestor path front.length) now
      rw [hu] at hgrow hsound
      have hn := hnone s
      rw [← home_congr hgrow.here] at hn
      obtain ⟨v, hv, hbelow⟩ :=
        makeFolder_below hsound h hs (makeFolders_reaches ht.here hu) hn now
      rw [home_congr hgrow.here] at hbelow
      exact .inr ⟨v, by simp only [hstep, hu, hv], hbelow⟩
  · exact .inl ⟨e, makeFolders_of_failed he hfail hmiss hr⟩

theorem Clear.madeWhole (ht : t.Sound) (hc : t.Clear path) (hr : ¬ t.Reaches path)
    (h : Ends path front s) (hs : s ≠ ".") (now : Instant) : t.MadeWhole path now := by
  -- Up the path, as long as no folder is there.
  induction front using List.reverseRecOn generalizing path s with
  | nil =>
    obtain ⟨hplain, front, back, hm, hg, -⟩ := hc.of_ends hr h hs
    refine madeWhole_below ht h hplain ?_ hr now
    have hfolder := hg.isFolder
    rw [origin_ancestor] at hfolder
    exact (reaches_ancestor (moves_of_ends_plain h hplain)).2 ⟨rfl, hfolder⟩
  | append_singleton front last ih =>
    obtain ⟨hplain, hca⟩ := hc.of_ends hr h hs
    by_cases ha : t.Reaches (ancestor path (front ++ [last]).length)
    · exact madeWhole_below ht h hplain ha hr now
    · have hm := moves_of_ends_plain h hplain
      have hmem : last ∈ moves path := by simp [hm]
      exact (ih hca ha (ends_ancestor hm) (ne_dot_of_mem_moves hmem)).below ht h hplain ha hr

/-- An attempt to make the folder changes neither the outcome of another one nor what is found in
the folder. -/
def Lasting (t : Tree) (folder : String) (now : Instant) : Prop :=
  ∃ r u, t.makeFolders folder now = (r, u) ∧ u.makeFolders folder now = (r, u) ∧
    ∀ name n, IsPlain name →
      (u.stat (join folder name) = .ok n ↔ t.stat (join folder name) = .ok n)

theorem Reaches.lasting (h : t.Reaches path) (now : Instant) : t.Lasting path now :=
  ⟨.ok (), t, makeFolders_of_reaches h now, makeFolders_of_reaches h now, fun _ _ _ => .rfl⟩

theorem makeFolders_dotted (h : Ends path front ".") {now : Instant}
    (ha : parents path = a :: parents a) (hr : ¬ t.Reaches path)
    (hparents : (∃ e, t.makeFolders a now = (.error e, t)) ∨
      ∃ u, t.makeFolders a now = (.ok (), u) ∧ u.Reaches a ∧ ¬ u.Reaches path) :
    ∃ e u, t.makeFolders path now = (.error e, u) ∧ u.makeFolders path now = (.error e, u) := by
  have he := h.ne_empty
  obtain ⟨e, hm⟩ := makeFolder_fails (t := t) h (.inl rfl) now
  by_cases hmiss : e = .missing
  · subst hmiss
    have hstep := makeFolders_of_missing he hm ha
    rcases hparents with ⟨f, hf⟩ | ⟨u, hu, hua, hur⟩
    · rw [hf] at hstep
      exact ⟨f, t, hstep, hstep⟩
    · have hno : u.hasFolder path = false :=
        Bool.eq_false_iff.2 (mt (hasFolder_iff_reaches he).1 hur)
      obtain ⟨f, hm'⟩ := makeFolder_fails (t := u) h (.inl rfl) now
      simp only [hu, hm', hno] at hstep
      refine ⟨f, u, hstep, ?_⟩
      -- The second time nothing is left to make above.
      by_cases hmiss' : f = .missing
      · subst hmiss'
        rw [makeFolders_of_missing he hm' ha, makeFolders_of_reaches hua]
        simp only [hm', hno]
        rfl
      · exact makeFolders_of_failed he hm' hmiss' hur
  · have hstep := makeFolders_of_failed he hm hmiss hr
    exact ⟨e, t, hstep, hstep⟩

theorem makeFolders_ancestor (ht : t.Sound) (hm : moves path = front ++ [s]) (hs : IsPlain s)
    (hca : t.Clear (ancestor path front.length)) (hr : ¬ t.Reaches path) (now : Instant) :
    (∃ e, t.makeFolders (ancestor path front.length) now = (.error e, t)) ∨
      ∃ u, t.makeFolders (ancestor path front.length) now = (.ok (), u) ∧
        u.Reaches (ancestor path front.length) ∧ ¬ u.Reaches path := by
  by_cases ha : t.Reaches (ancestor path front.length)
  · exact .inr ⟨t, makeFolders_of_reaches ha now, ha, hr⟩
  · obtain ⟨front', s', hm', hs', -⟩ := hca.last_step ha
    obtain rfl : front = front' ++ [s'] := by
      rw [← hm', (ancestor_spec ..).1, hm, List.take_left]
    refine (hca.madeWhole ht ha (ends_ancestor hm) hs'.2.1 now).imp_right ?_
    rintro ⟨u, hu, hnone⟩
    have hgrow := makeFolders_grows t (ancestor path (front' ++ [s']).length) now
    rw [hu] at hgrow
    refine ⟨u, hu, makeFolders_reaches ht.here hu, ?_⟩
    rintro ⟨-, changed, hf⟩
    rw [home_of_moves u hm hs, home_congr hgrow.here, hnone] at hf
    cases hf

theorem Clear.lasting (ht : t.Sound) (hc : t.Clear path) (now : Instant) :
    t.Lasting path now := by
  by_cases hr : t.Reaches path
  · exact hr.lasting now
  have hno (name : String) (n : Node) (hname : IsPlain name) :
      ¬ t.stat (join path name) = .ok n := fun hs => hr ((stat_join_eq_ok hname).1 hs).1
  have hfailed {e : Fault} {u : Tree} (h : t.makeFolders path now = (.error e, u))
      (h' : u.makeFolders path now = (.error e, u)) : t.Lasting path now := by
    refine ⟨.error e, u, h, h', fun name n hname =>
      iff_of_false (fun hs => ?_) (hno name n hname)⟩
    rw [makeFolders_of_reaches ((stat_join_eq_ok hname).1 hs).1] at h'
    cases h'
  obtain ⟨front, s, hm, hs, hca⟩ := hc.last_step hr
  have hne : moves path ≠ [] := by simp [hm]
  obtain ⟨before, last, hends⟩ := exists_ends hne
  by_cases hdot : last = "."
  · subst hdot
    have hparents := makeFolders_ancestor ht hm hs hca hr now
    obtain ⟨e, u, h, h'⟩ := makeFolders_dotted hends (parents_eq_cons hm) hr hparents
    exact hfailed h h'
  · rcases hc.madeWhole ht hr hends hdot now with ⟨e, h⟩ | ⟨u, h, hnone⟩
    · exact hfailed h h
    · have hu := makeFolders_reaches ht.here h
      have hgrow := makeFolders_grows t path now
      rw [h] at hgrow
      refine ⟨.ok (), u, h, makeFolders_of_reaches hu now, fun name n hname =>
        iff_of_false (fun hs => ?_) (hno name n hname)⟩
      have hg := ((stat_join_eq_ok hname).1 hs).2
      rw [home_congr hgrow.here, hnone] at hg
      cases hg

end Tree

end RdapDirectory.Files
