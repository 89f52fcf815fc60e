import RdapDirectory.Proofs.Crews

namespace RdapDirectory.Files.Tree

/-- Where both have a file of this name, they may differ in what is in it, and since when. -/
structure Twin (hidden : String) (t u : Tree) : Prop where
  here : u.here = t.here
  places : u.nodes.map Prod.fst = t.nodes.map Prod.fst
  get? : ∀ p, u.get? p = t.get? p ∨ p.head? = some hidden ∧ ∃ b c b' c',
    t.get? p = some (.file b c) ∧ u.get? p = some (.file b' c')

namespace Twin

variable {hidden : String} {t u : Tree}

theorem refl (hidden : String) (t : Tree) : t.Twin hidden t := ⟨rfl, rfl, fun _ => .inl rfl⟩

theorem get?_eq (h : t.Twin hidden u) {p : Place} (hp : p.head? ≠ some hidden) :
    u.get? p = t.get? p := by
  rcases h.get? p with he | ⟨hh, -⟩
  · exact he
  · exact absurd hh hp

theorem isSome_get? (h : t.Twin hidden u) (p : Place) :
    (u.get? p).isSome = (t.get? p).isSome := by
  rcases h.get? p with he | ⟨-, b, c, b', c', ht, hu⟩
  · rw [he]
  · rw [ht, hu]
    rfl

theorem any_isFolder (h : t.Twin hidden u) (p : Place) :
    (u.get? p).any Node.isFolder = (t.get? p).any Node.isFolder := by
  rcases h.get? p with he | ⟨-, b, c, b', c', ht, hu⟩
  · rw [he]
  · rw [ht, hu]
    rfl

theorem walk (h : t.Twin hidden u) (p : Place) (ss : List String) :
    u.walk p ss = t.walk p ss := by
  induction ss generalizing p with
  | nil => rfl
  | cons s ss ih =>
    rw [Tree.walk, Tree.walk]
    rcases h.get? p with he | ⟨-, b, c, b', c', ht, hu⟩
    · simp only [he, ih]
    · simp only [ht, hu]

theorem locate (h : t.Twin hidden u) (path : String) : u.locate path = t.locate path := by
  simp only [Tree.locate, origin_congr h.here, h.walk]

theorem locateEntry (h : t.Twin hidden u) (path : String) :
    u.locateEntry path = t.locateEntry path := by
  simp only [Tree.locateEntry, origin_congr h.here, h.walk]
  split
  · rfl
  · split
    · rfl
    · rename_i name _
      cases t.walk (t.origin path)
        ((steps path).reverse.dropWhile (· == "")).reverse.dropLast with
      | error e => rfl
      | ok p =>
        simp only [bind, Except.bind]
        rcases h.get? p with he | ⟨-, b, c, b', c', ht, hu⟩
        · rw [he]
        · simp only [ht, hu]

theorem hasFolder (h : t.Twin hidden u) (path : String) :
    u.hasFolder path = t.hasFolder path := by
  unfold Tree.hasFolder Tree.stat
  rw [h.locate]
  cases t.locate path with
  | error e => rfl
  | ok p =>
    simp only [bind, Except.bind]
    rcases h.get? p with he | ⟨-, b, c, b', c', ht, hu⟩
    · rw [he]
    · simp only [ht, hu]
      rfl

theorem stat (h : t.Twin hidden u) (folder : String) {name : String} (hn : IsPlain name)
    (hne : name ≠ hidden) : u.stat (join folder name) = t.stat (join folder name) := by
  unfold Tree.stat
  rw [h.locate]
  cases hl : t.locate (join folder name) with
  | error e => rfl
  | ok p =>
    obtain ⟨-, rfl⟩ := (locate_join_eq_ok hn).1 hl
    have hp : (name :: t.home folder).head? ≠ some hidden := fun he => hne (Option.some.inj he)
    simp only [bind, Except.bind, h.get?_eq hp]

theorem freshName (h : t.Twin hidden u) (folder : Place) :
    u.freshName folder = t.freshName folder := by
  have hlength : u.nodes.length = t.nodes.length := by
    have := congrArg List.length h.places
    rwa [List.length_map, List.length_map] at this
  have hfree : ∀ p, (u.get? p).isNone = (t.get? p).isNone := by
    intro p
    rw [← Option.not_isSome, ← Option.not_isSome, h.isSome_get?]
  simp only [Tree.freshName, hlength, hfree]

theorem put_alike (h : t.Twin hidden u) {p : Place} {n n' : Node}
    (hn : n' = n ∨ p.head? = some hidden ∧ ∃ b c b' c', n = .file b c ∧ n' = .file b' c') :
    (t.put p n).Twin hidden (u.put p n') := by
  refine ⟨h.here, congrArg (p :: ·) h.places, fun q => ?_⟩
  rw [get?_put, get?_put]
  by_cases hq : q = p
  · rw [if_pos hq, if_pos hq, hq]
    rcases hn with rfl | ⟨hp, b, c, b', c', rfl, rfl⟩
    · exact .inl rfl
    · exact .inr ⟨hp, b, c, b', c', rfl, rfl⟩
  · rw [if_neg hq, if_neg hq]
    exact h.get? q

theorem put (h : t.Twin hidden u) (p : Place) (n : Node) : (t.put p n).Twin hidden (u.put p n) :=
  h.put_alike (.inl rfl)

theorem put_files (h : t.Twin hidden u) {p : Place} (hp : p.head? = some hidden)
    (b b' : List UInt8) (c c' : Instant) :
    (t.put p (.file b c)).Twin hidden (u.put p (.file b' c')) :=
  h.put_alike (.inr ⟨hp, b, c, b', c', rfl, rfl⟩)

theorem touch (h : t.Twin hidden u) (p : Place) (now : Instant) :
    (t.touch p now).Twin hidden (u.touch p now) := by
  unfold Tree.touch
  rcases h.get? p with he | ⟨hp, b, c, b', c', ht, hu⟩
  · rw [he]
    cases t.get? p with
    | none => exact h
    | some n => exact h.put p (n.touch now)
  · rw [ht, hu]
    exact h.put_files hp b b' now now

theorem link (h : t.Twin hidden u) (folder : Place) (name : String) (n : Node) (now : Instant) :
    (t.link folder name n now).Twin hidden (u.link folder name n now) :=
  (h.put _ n).touch folder now

theorem erase (h : t.Twin hidden u) (p : Place) : (t.erase p).Twin hidden (u.erase p) := by
  refine ⟨h.here, ?_, fun q => ?_⟩
  · have hfilter : ∀ v : Tree, (v.erase p).nodes.map Prod.fst =
        (v.nodes.map Prod.fst).filter (· ≠ p) := fun v => by
      rw [List.filter_map]
      rfl
    rw [hfilter, hfilter, h.places]
  · rw [get?_erase, get?_erase]
    by_cases hq : q = p
    · rw [if_pos hq, if_pos hq]
      exact .inl rfl
    · rw [if_neg hq, if_neg hq]
      exact h.get? q

theorem unlink (h : t.Twin hidden u) (folder : Place) (name : String) (now : Instant) :
    (t.unlink folder name now).Twin hidden (u.unlink folder name now) :=
  (h.erase _).touch folder now

inductive Both (hidden : String) : Except Fault Tree → Except Fault Tree → Prop
  | done {t u : Tree} (h : t.Twin hidden u) : Both hidden (.ok t) (.ok u)
  | failed (e : Fault) : Both hidden (.error e) (.error e)

theorem makeFolder (h : t.Twin hidden u) (path : String) (now : Instant) :
    Both hidden (t.makeFolder path now) (u.makeFolder path now) := by
  unfold Tree.makeFolder
  rw [h.locateEntry]
  cases t.locateEntry path with
  | error e => exact .failed e
  | ok x =>
    obtain ⟨p, name⟩ := x
    simp only [bind, Except.bind, h.isSome_get?]
    split
    · exact .failed .taken
    · exact .done (h.link p name _ now)

theorem makeChain (h : t.Twin hidden u) (now : Instant) (paths : List String) :
    (u.makeChain now paths).1 = (t.makeChain now paths).1 ∧
      (t.makeChain now paths).2.Twin hidden (u.makeChain now paths).2 := by
  induction paths generalizing t u with
  | nil => exact ⟨rfl, h⟩
  | cons path rest ih =>
    unfold Tree.makeChain
    split
    · exact ⟨rfl, h⟩
    · have hfirst := h.makeFolder path now
      generalize t.makeFolder path now = x at hfirst ⊢
      generalize u.makeFolder path now = y at hfirst ⊢
      cases hfirst with
      | done h' => exact ⟨rfl, h'⟩
      | failed e =>
        cases e with
        -- Both go further up the path only if there is no folder above.
        | missing =>
          obtain ⟨hresult, h'⟩ := ih h
          generalize t.makeChain now rest = x at hresult h' ⊢
          generalize u.makeChain now rest = y at hresult h' ⊢
          obtain ⟨x, t'⟩ := x
          obtain ⟨y, u'⟩ := y
          obtain rfl : y = x := hresult
          cases y with
          | error e => exact ⟨rfl, h'⟩
          | ok =>
            have hagain := h'.makeFolder path now
            dsimp only at hagain ⊢
            generalize t'.makeFolder path now = x at hagain ⊢
            generalize u'.makeFolder path now = y at hagain ⊢
            cases hagain with
            | done h'' => exact ⟨rfl, h''⟩
            | failed e =>
              dsimp only
              rw [h'.hasFolder]
              exact ⟨rfl, h'⟩
        | taken | notFolder | isFolder | notText =>
          dsimp only
          rw [h.hasFolder]
          exact ⟨rfl, h⟩

theorem makeFolders (h : t.Twin hidden u) (path : String) (now : Instant) :
    (u.makeFolders path now).1 = (t.makeFolders path now).1 ∧
      (t.makeFolders path now).2.Twin hidden (u.makeFolders path now).2 :=
  h.makeChain now _

theorem moveOver (h : t.Twin hidden u) (folder : Place) {name : String} (hn : name ≠ hidden)
    (path : String) (now : Instant) :
    Both hidden (t.moveOver folder name path now) (u.moveOver folder name path now) := by
  have hp : (name :: folder).head? ≠ some hidden := fun he => hn (Option.some.inj he)
  unfold Tree.moveOver
  rw [h.locateEntry]
  cases t.locateEntry path with
  | error e => exact .failed e
  | ok x =>
    obtain ⟨p, target⟩ := x
    simp only [bind, Except.bind, h.get?_eq hp, h.any_isFolder]
    cases t.get? (name :: folder) with
    | none => exact .failed .missing
    | some n =>
      dsimp only
      split
      · exact .failed .isFolder
      · exact .done ((h.unlink folder name now).link p target n now)

end Twin

end RdapDirectory.Files.Tree

namespace RdapDirectory.Cache

open Files Tree

variable {hidden name : String} {t u : Tree}

namespace Disk

theorem modified_twin (h : t.Twin hidden u) (d : Disk) (hn : IsPlain name) (hne : name ≠ hidden) :
    d.modified u name = d.modified t name := by
  unfold modified path
  rw [h.stat d.folder hn hne]

theorem load_twin (h : t.Twin hidden u) (d : Disk) (hn : IsPlain name) (hne : name ≠ hidden) :
    d.load u name = d.load t name := by
  have hread : u.read (d.path name) = t.read (d.path name) := by
    unfold Tree.read path
    rw [h.stat d.folder hn hne]
  unfold load
  rw [modified_twin h d hn hne, hread]

theorem freshness_twin (h : t.Twin hidden u) (d : Disk) (hn : IsPlain name) (hne : name ≠ hidden)
    (now : Instant) : d.freshness u name now = d.freshness t name now := by
  unfold freshness
  rw [modified_twin h d hn hne]

theorem prepare_twin (h : t.Twin hidden u) (d : Disk) (now : Instant) :
    (d.prepare u now).1 = (d.prepare t now).1 ∧
      (d.prepare t now).2.Twin hidden (d.prepare u now).2 := by
  obtain ⟨hresult, h'⟩ := h.makeFolders d.folder now
  unfold prepare
  generalize t.makeFolders d.folder now = x at hresult h' ⊢
  generalize u.makeFolders d.folder now = y at hresult h' ⊢
  obtain ⟨x, t'⟩ := x
  obtain ⟨y, u'⟩ := y
  obtain rfl : y = x := hresult
  cases y <;> exact ⟨rfl, h'⟩

theorem replace_twin (h : t.Twin hidden u) (hh : ¬ IsTemporary hidden) (d : Disk) (name : String)
    (bytes : List UInt8) (now : Instant) :
    (d.replace u name bytes now).1 = (d.replace t name bytes now).1 ∧
      (d.replace t name bytes now).2.Twin hidden (d.replace u name bytes now).2 := by
  have hplace : d.place u = d.place t := by
    unfold place
    rw [h.here, h.locate]
  unfold replace
  rw [hplace]
  cases d.place t with
  | error e => exact ⟨rfl, h⟩
  | ok p =>
    have hfresh : t.freshName p ≠ hidden := fun he => hh (he ▸ isTemporary_freshName t p)
    have hlink := h.link p (t.freshName p) (.file bytes now) now
    have hmove := hlink.moveOver p hfresh (d.path name) now
    dsimp only
    rw [h.freshName]
    generalize (t.link _ _ _ _).moveOver _ _ _ _ = x at hmove ⊢
    generalize (u.link _ _ _ _).moveOver _ _ _ _ = y at hmove ⊢
    cases hmove with
    | done h' => exact ⟨rfl, h'⟩
    | failed e => exact ⟨rfl, hlink.unlink p _ now⟩

theorem save_twin (h : t.Twin hidden u) (hh : ¬ IsTemporary hidden) (d : Disk) (hn : IsPlain name)
    (hne : name ≠ hidden) (bytes : List UInt8) (now : Instant) :
    (d.save u name bytes now).1 = (d.save t name bytes now).1 ∧
      (d.save u name bytes now).2.1 = (d.save t name bytes now).2.1 ∧
      (d.save t name bytes now).2.2.Twin hidden (d.save u name bytes now).2.2 := by
  obtain ⟨hprepare, h₁⟩ := prepare_twin h d now
  unfold save
  generalize d.prepare t now = x at hprepare h₁ ⊢
  generalize d.prepare u now = y at hprepare h₁ ⊢
  obtain ⟨x, t₁⟩ := x
  obtain ⟨y, u₁⟩ := y
  obtain rfl : y = x := hprepare
  cases y with
  | error e => exact ⟨rfl, rfl, h₁⟩
  | ok =>
    obtain ⟨hreplace, h₂⟩ := replace_twin h₁ hh d name bytes now
    dsimp only at hreplace h₂ ⊢
    generalize d.replace t₁ name bytes now = x at hreplace h₂ ⊢
    generalize d.replace u₁ name bytes now = y at hreplace h₂ ⊢
    obtain ⟨x, t₂⟩ := x
    obtain ⟨y, u₂⟩ := y
    obtain rfl : y = x := hreplace
    cases y with
    | error e => exact ⟨rfl, rfl, h₂⟩
    | ok =>
      dsimp only at h₂ ⊢
      rw [modified_twin h₂ d hn hne]
      cases d.modified t₂ name <;> exact ⟨rfl, rfl, h₂⟩

end Disk

theorem load_twin (h : t.Twin hidden u) (c : Cache) (hn : IsPlain name) (hne : name ≠ hidden) :
    c.load u name = c.load t name := by
  cases c with
  | memory m => rfl
  | disk d => simp only [load, d.load_twin h hn hne]

theorem freshness_twin (h : t.Twin hidden u) (c : Cache) (hn : IsPlain name) (hne : name ≠ hidden)
    (now : Instant) : c.freshness u name now = c.freshness t name now := by
  cases c with
  | memory m => rfl
  | disk d => exact d.freshness_twin h hn hne now

theorem save_twin (h : t.Twin hidden u) (hh : ¬ IsTemporary hidden) (c : Cache) (hn : IsPlain name)
    (hne : name ≠ hidden) (bytes : List UInt8) (now : Instant) :
    (c.save u name bytes now).1 = (c.save t name bytes now).1 ∧
      (c.save u name bytes now).2.1 = (c.save t name bytes now).2.1 ∧
      (c.save t name bytes now).2.2.Twin hidden (c.save u name bytes now).2.2 := by
  cases c with
  | memory m => exact ⟨rfl, rfl, h⟩
  | disk d =>
    obtain ⟨hresult, hcache, h'⟩ := d.save_twin h hh hn hne bytes now
    exact ⟨hresult, congrArg disk hcache, h'⟩

end RdapDirectory.Cache
