import RdapDirectory.Proofs.Paths

namespace RdapDirectory.Files

namespace Tree

def file? (t : Tree) (p : Place) : Option (List UInt8 × Instant) :=
  match t.get? p with
  | some (.file bytes changed) => some (bytes, changed)
  | _ => none

def IsFolder (t : Tree) (p : Place) : Prop := ∃ changed, t.get? p = some (.folder changed)

theorem place_ne (name : String) (p : Place) : name :: p ≠ p := fun h => by
  simpa using congrArg List.length h

theorem any_isFolder {t : Tree} {p : Place} :
    (t.get? p).any Node.isFolder = true ↔ t.IsFolder p := by
  unfold IsFolder
  cases t.get? p with
  | none => simp
  | some n => cases n <;> simp [Node.isFolder]

theorem file?_eq_some {t : Tree} {p : Place} {bytes : List UInt8} {changed : Instant} :
    t.file? p = some (bytes, changed) ↔ t.get? p = some (.file bytes changed) := by
  unfold file?
  split
  · rename_i b c h
    simp [h]
  · rename_i h
    constructor
    · intro he
      cases he
    · intro he
      exact absurd he (h _ _)

theorem IsFolder.file? {t : Tree} {p : Place} (h : t.IsFolder p) : t.file? p = none := by
  obtain ⟨changed, h⟩ := h
  simp [Tree.file?, h]

def stride (p : Place) (s : String) : Place :=
  if s = "" || s = "." then p else if s = ".." then p.tail else s :: p

theorem stride_plain {s : String} (h : IsPlain s) (p : Place) : stride p s = s :: p := by
  simp [stride, h.1, h.2.1, h.2.2.1]

theorem walk_cons_eq_ok {t : Tree} {p q : Place} {s : String} {rest : List String} :
    t.walk p (s :: rest) = .ok q ↔ t.IsFolder p ∧ t.walk (stride p s) rest = .ok q := by
  rw [walk]
  unfold IsFolder
  cases h : t.get? p with
  | none => simp
  | some n => cases n <;> simp [stride]

theorem walk_append_eq_ok {t : Tree} {p q : Place} {as bs : List String} :
    t.walk p (as ++ bs) = .ok q ↔ ∃ r, t.walk p as = .ok r ∧ t.walk r bs = .ok q := by
  induction as generalizing p with
  | nil => simp [walk]
  | cons s as ih =>
    simp only [List.cons_append, walk_cons_eq_ok, ih]
    constructor
    · rintro ⟨hp, r, hr, hq⟩
      exact ⟨r, ⟨hp, hr⟩, hq⟩
    · rintro ⟨r, ⟨hp, hr⟩, hq⟩
      exact ⟨hp, r, hr, hq⟩

def land (p : Place) (steps : List String) : Place := steps.foldl stride p

theorem land_append (p : Place) (as bs : List String) : land p (as ++ bs) = land (land p as) bs :=
  List.foldl_append

theorem land_of_walk {t : Tree} {p q : Place} {ss : List String} (h : t.walk p ss = .ok q) :
    q = land p ss := by
  induction ss generalizing p with
  | nil => exact (Except.ok.inj h).symm
  | cons s ss ih => exact ih (walk_cons_eq_ok.1 h).2

theorem walk_mono {t u : Tree} (hf : ∀ p, t.IsFolder p → u.IsFolder p) {p q : Place}
    {ss : List String} (h : t.walk p ss = .ok q) : u.walk p ss = .ok q := by
  induction ss generalizing p with
  | nil => exact h
  | cons s ss ih =>
    obtain ⟨hp, h⟩ := walk_cons_eq_ok.1 h
    exact walk_cons_eq_ok.2 ⟨hf p hp, ih h⟩

/-- The place that the path of a folder leads to once it exists. -/
def home (t : Tree) (folder : String) : Place := land (t.origin folder) (leading folder)

def Reaches (t : Tree) (folder : String) : Prop :=
  t.walk (t.origin folder) (leading folder) = .ok (t.home folder) ∧ t.IsFolder (t.home folder)

theorem origin_congr {t u : Tree} (h : u.here = t.here) (path : String) :
    u.origin path = t.origin path := by
  simp only [origin, h]

theorem home_congr {t u : Tree} (h : u.here = t.here) (folder : String) :
    u.home folder = t.home folder := by
  simp only [home, origin_congr h]

structure Keeps (t u : Tree) : Prop where
  here : u.here = t.here
  folder : ∀ p, t.IsFolder p → u.IsFolder p

theorem Keeps.refl (t : Tree) : t.Keeps t := ⟨rfl, fun _ h => h⟩

theorem Keeps.trans {t u v : Tree} (h : t.Keeps u) (k : u.Keeps v) : t.Keeps v :=
  ⟨k.here.trans h.here, fun p hp => k.folder p (h.folder p hp)⟩

theorem Reaches.mono {t u : Tree} {folder : String} (h : t.Reaches folder) (k : t.Keeps u) :
    u.Reaches folder := by
  unfold Reaches
  rw [home_congr k.here, origin_congr k.here]
  exact ⟨walk_mono k.folder h.1, k.folder _ h.2⟩

theorem origin_join {name : String} (h : IsPlain name) (t : Tree) (folder : String) :
    t.origin (join folder name) = t.origin folder := by
  unfold origin
  by_cases he : folder = ""
  · have hn : name.toList.head? ≠ some '/' := fun he => h.2.2.2 (List.mem_of_mem_head? he)
    simp [join, he, hn]
  · rw [head?_join h he]

theorem walk_join_eq_ok {name : String} (h : IsPlain name) {t : Tree} {folder : String}
    {q : Place} : t.walk (t.origin folder) (leading folder ++ [name]) = .ok q ↔
      t.Reaches folder ∧ q = name :: t.home folder := by
  constructor
  · intro hw
    obtain ⟨r, hr, hq⟩ := walk_append_eq_ok.1 hw
    obtain ⟨hf, hq⟩ := walk_cons_eq_ok.1 hq
    have he : r = t.home folder := land_of_walk hr
    subst he
    refine ⟨⟨hr, hf⟩, ?_⟩
    rw [stride_plain h] at hq
    exact (Except.ok.inj hq).symm
  · rintro ⟨⟨hw, hf⟩, rfl⟩
    refine walk_append_eq_ok.2 ⟨_, hw, walk_cons_eq_ok.2 ⟨hf, ?_⟩⟩
    rw [stride_plain h]
    rfl

theorem locate_join_eq_ok {name : String} (h : IsPlain name) {t : Tree} {folder : String}
    {q : Place} :
    t.locate (join folder name) = .ok q ↔ t.Reaches folder ∧ q = name :: t.home folder := by
  unfold locate
  simp only [String.isEmpty_iff, join_ne_empty h, if_false, origin_join h, steps_join h]
  exact walk_join_eq_ok h

theorem stat_eq_ok {t : Tree} {path : String} {n : Node} :
    t.stat path = .ok n ↔ ∃ q, t.locate path = .ok q ∧ t.get? q = some n := by
  unfold stat
  cases t.locate path with
  | error e => simp [bind, Except.bind]
  | ok q =>
    simp only [bind, Except.bind, Except.ok.injEq, exists_eq_left']
    cases t.get? q with
    | none => simp [throw, throwThe, MonadExceptOf.throw]
    | some n => simp [pure, Except.pure]

theorem stat_join_eq_ok {name : String} (h : IsPlain name) {t : Tree} {folder : String}
    {n : Node} : t.stat (join folder name) = .ok n ↔
      t.Reaches folder ∧ t.get? (name :: t.home folder) = some n := by
  rw [stat_eq_ok]
  constructor
  · rintro ⟨q, hq, hn⟩
    obtain ⟨hr, rfl⟩ := (locate_join_eq_ok h).1 hq
    exact ⟨hr, hn⟩
  · rintro ⟨hr, hn⟩
    exact ⟨_, (locate_join_eq_ok h).2 ⟨hr, rfl⟩, hn⟩

theorem land_blanks {p : Place} {blanks : List String} (h : ∀ s ∈ blanks, s = "") :
    land p blanks = p := by
  induction blanks with
  | nil => rfl
  | cons s rest ih =>
    rw [h s (by simp)]
    exact ih fun x hx => h x (List.mem_cons_of_mem _ hx)

theorem walk_blanks {t : Tree} {p : Place} (hp : t.IsFolder p) {blanks : List String}
    (h : ∀ s ∈ blanks, s = "") : t.walk p blanks = .ok p := by
  induction blanks with
  | nil => rfl
  | cons s rest ih =>
    rw [h s (by simp)]
    exact walk_cons_eq_ok.2 ⟨hp, ih fun x hx => h x (List.mem_cons_of_mem _ hx)⟩

theorem locateEntry_of_steps {path name : String} {names blanks : List String} (he : path ≠ "")
    (hs : steps path = names ++ name :: blanks) (hn : name ≠ "") (hb : ∀ s ∈ blanks, s = "")
    (t : Tree) : t.locateEntry path =
      match t.walk (t.origin path) names with
      | .error e => .error e
      | .ok p =>
        match t.get? p with
        | some (.folder _) => .ok (p, name)
        | some (.file ..) => .error .notFolder
        | none => .error .missing := by
  unfold locateEntry
  simp only [String.isEmpty_iff, he, if_false, hs, trimmed_append hn hb, List.getLast?_concat,
    List.dropLast_concat]
  cases t.walk (t.origin path) names <;> rfl

theorem locateEntry_eq_ok {t : Tree} {path name : String} {p : Place} :
    t.locateEntry path = .ok (p, name) ↔ path ≠ "" ∧ name ≠ "" ∧ t.IsFolder p ∧
      ∃ names blanks, steps path = names ++ name :: blanks ∧ (∀ s ∈ blanks, s = "") ∧
        t.walk (t.origin path) names = .ok p := by
  constructor
  · intro h
    have he : path ≠ "" := by
      rintro rfl
      cases h
    rcases trimmed_cases (steps path) with ht | ⟨names, last, blanks, hs, hn, hb⟩
    · unfold locateEntry at h
      simp only [String.isEmpty_iff, he, if_false, ht] at h
      cases h
    · rw [locateEntry_of_steps he hs hn hb] at h
      split at h
      · cases h
      · rename_i q hw
        split at h
        · rename_i changed hg
          obtain ⟨rfl, rfl⟩ := Prod.mk.inj (Except.ok.inj h)
          exact ⟨he, hn, ⟨changed, hg⟩, names, blanks, hs, hb, hw⟩
        · cases h
        · cases h
  · rintro ⟨he, hn, ⟨changed, hg⟩, names, blanks, hs, hb, hw⟩
    simp only [locateEntry_of_steps he hs hn hb, hw, hg]

theorem locateEntry_join {name : String} (h : IsPlain name) {t : Tree} {folder : String}
    (hr : t.Reaches folder) : t.locateEntry (join folder name) = .ok (t.home folder, name) :=
  locateEntry_eq_ok.2 ⟨join_ne_empty h folder, h.1, hr.2, leading folder, [], steps_join h folder,
    by simp, origin_join h t folder ▸ hr.1⟩

end Tree

end RdapDirectory.Files
