import RdapDirectory.Cache.Basic
import RdapDirectory.Proofs.DiskCache

namespace RdapDirectory.Cache

open Files Tree

theorem lookup_cons_eq {α : Type} (k a : String) (v : α) (l : List (String × α)) :
    ((a, v) :: l).lookup k = if k = a then some v else l.lookup k := by
  by_cases h : k = a
  · simp [h]
  · rw [List.lookup_cons, beq_false_of_ne h, if_neg h]

/-- What is kept under a name, be it that the path of the folder leads there or not yet. -/
def content? (c : Cache) (t : Tree) (name : String) : Option (List UInt8 × Instant) :=
  match c with
  | memory m => (m.records.lookup name).map fun r => (r.bytes, r.saved)
  | disk d => t.file? (name :: t.home d.folder)

def Disk.stored? (d : Disk) (t : Tree) (name : String) : Option (List UInt8 × Instant) :=
  match t.stat (d.path name) with
  | .ok (.file bytes changed) => some (bytes, changed)
  | _ => none

def stored? (c : Cache) (t : Tree) (name : String) : Option (List UInt8 × Instant) :=
  match c with
  | memory m => (m.records.lookup name).map fun r => (r.bytes, r.saved)
  | disk d => d.stored? t name

def seen? (c : Cache) (name : String) : Option Instant :=
  match c with
  | memory m => (m.records.lookup name).map Record.saved
  | disk d => d.seen.lookup name

def Current (c : Cache) (name : String) (changed : Instant) : Prop :=
  ∃ s, c.seen? name = some s ∧ changed ≤ s

def noted (c : Cache) (name : String) (changed : Instant) : Cache :=
  match c with
  | memory m => memory m
  | disk d => disk (d.see name changed)

/-- Two caches on one folder, found by both or by none, however many folders are added. -/
def SameFolder (t : Tree) : Cache → Cache → Prop
  | disk d, disk e => t.home d.folder = t.home e.folder ∧
    ∀ u, t.Keeps u → (u.Reaches d.folder ↔ u.Reaches e.folder)
  | _, _ => False

def Alike : Cache → Cache → Prop
  | disk d, disk e => d.folder = e.folder
  | memory _, memory _ => True
  | _, _ => False

theorem Alike.refl (c : Cache) : c.Alike c := by
  cases c <;> simp [Alike]

theorem Alike.trans {a b c : Cache} (h : a.Alike b) (k : b.Alike c) : a.Alike c := by
  cases a <;> cases b <;> cases c <;> simp_all [Alike]

theorem SameFolder.alike {t : Tree} {a b a' : Cache} (h : a.SameFolder t b) (k : a.Alike a') :
    a'.SameFolder t b := by
  cases a <;> cases b <;> cases a' <;> simp_all [SameFolder, Alike]

theorem SameFolder.symm {t : Tree} {a b : Cache} (h : a.SameFolder t b) : b.SameFolder t a := by
  cases a <;> cases b <;> simp_all [SameFolder]

theorem SameFolder.mono {t u : Tree} {a b : Cache} (h : a.SameFolder t b) (k : t.Keeps u) :
    a.SameFolder u b := by
  cases a with
  | memory m => exact h.elim
  | disk d =>
    cases b with
    | memory m => exact h.elim
    | disk e =>
      obtain ⟨hhome, hreach⟩ := h
      constructor
      · rw [home_congr k.here, home_congr k.here, hhome]
      · intro v hv
        exact hreach v (k.trans hv)

theorem SameFolder.content? {t : Tree} {a b : Cache} (h : a.SameFolder t b) (name : String) :
    a.content? t name = b.content? t name := by
  cases a with
  | memory m => exact h.elim
  | disk d =>
    cases b with
    | memory m => exact h.elim
    | disk e => simp only [Cache.content?, h.1]

theorem Disk.stored?_eq_some {d : Disk} {t : Tree} {name : String} {bytes : List UInt8}
    {changed : Instant} : d.stored? t name = some (bytes, changed) ↔
      t.stat (d.path name) = .ok (.file bytes changed) := by
  unfold Disk.stored?
  split
  · rename_i b c hs
    simp [hs]
  · rename_i hs
    constructor
    · intro h
      cases h
    · intro h
      exact absurd h (hs _ _)

theorem stored?_disk {d : Disk} {t : Tree} {name : String} (hn : IsPlain name)
    {x : List UInt8 × Instant} : (disk d).stored? t name = some x ↔
      t.Reaches d.folder ∧ t.file? (name :: t.home d.folder) = some x :=
  Disk.stored?_eq_some.trans ((stat_join_eq_ok hn).trans (and_congr_right fun _ =>
    file?_eq_some.symm))

theorem SameFolder.stored? {t : Tree} {a b : Cache} (h : a.SameFolder t b) {name : String}
    (hn : IsPlain name) : a.stored? t name = b.stored? t name := by
  cases a with
  | memory m => exact h.elim
  | disk d =>
    cases b with
    | memory m => exact h.elim
    | disk e =>
      have hr := h.2 t (.refl t)
      apply Option.ext
      intro x
      rw [stored?_disk hn, stored?_disk hn, h.1, hr]

theorem content?_of_stored? {c : Cache} {t : Tree} {name : String} (hn : IsPlain name)
    {x : List UInt8 × Instant} (h : c.stored? t name = some x) : c.content? t name = some x := by
  cases c with
  | memory m => exact h
  | disk d => exact ((stored?_disk hn).1 h).2

theorem stored?_of_keeps {c c' : Cache} {t u : Tree} {name : String} (hn : IsPlain name)
    (ha : c.Alike c') (hk : t.Keeps u) {x y : List UInt8 × Instant}
    (h : c.stored? t name = some x) (h' : c'.content? u name = some y) :
    c'.stored? u name = some y := by
  cases c' with
  | memory m => exact h'
  | disk e =>
    cases c with
    | memory m => exact ha.elim
    | disk d =>
      have hf : d.folder = e.folder := ha
      have hr := ((stored?_disk hn).1 h).1.mono hk
      rw [hf] at hr
      exact (stored?_disk hn).2 ⟨hr, h'⟩

theorem content?_grows (c : Cache) {t u : Tree} (h : t.Grows u) (name : String) :
    c.content? u name = c.content? t name := by
  cases c with
  | memory m => rfl
  | disk d => simp only [content?, h.file, home_congr h.here]

theorem freshness_cases {c : Cache} {t : Tree} {name : String} {bytes : List UInt8}
    {changed : Instant} (h : c.stored? t name = some (bytes, changed)) (now : Instant) :
    (isExpired c.ttl changed now = true ∧ c.freshness t name now = .expired) ∨
    (isExpired c.ttl changed now = false ∧ c.Current name changed ∧
      c.freshness t name now = .good) ∨
    (isExpired c.ttl changed now = false ∧ ¬ c.Current name changed ∧
      c.freshness t name now = .outdated) := by
  cases c with
  | memory m =>
    obtain ⟨r, hr, he⟩ := Option.map_eq_some_iff.1 h
    obtain ⟨rfl, rfl⟩ := Prod.mk.inj he
    have hcur : (memory m).Current name r.saved :=
      ⟨r.saved, by simp [seen?, hr], Int.le_refl _⟩
    cases hx : isExpired m.ttl r.saved now with
    | true => simp [ttl, freshness, Memory.freshness, hr, hx]
    | false => simp [ttl, freshness, Memory.freshness, hr, hx, hcur]
  | disk d =>
    have hm : d.modified t name = .ok changed := by
      rw [Disk.modified, Disk.stored?_eq_some.1 h]
      rfl
    simp only [ttl, freshness, Disk.freshness, hm, Current, seen?]
    cases hx : isExpired d.ttl changed now with
    | true => simp
    | false =>
      cases hs : d.seen.lookup name with
      | none => simp
      | some s => by_cases hle : changed ≤ s <;> simp [hle]

section Freshness

variable {c : Cache} {t : Tree} {name : String} {bytes : List UInt8} {changed now : Instant}

theorem freshness_of_expired (h : c.stored? t name = some (bytes, changed))
    (hx : isExpired c.ttl changed now = true) : c.freshness t name now = .expired := by
  rcases freshness_cases h now with ⟨-, hf⟩ | ⟨hn, -⟩ | ⟨hn, -⟩
  · exact hf
  · cases hx.symm.trans hn
  · cases hx.symm.trans hn

theorem freshness_of_current (h : c.stored? t name = some (bytes, changed))
    (hx : isExpired c.ttl changed now = false) (hc : c.Current name changed) :
    c.freshness t name now = .good := by
  rcases freshness_cases h now with ⟨he, -⟩ | ⟨-, -, hf⟩ | ⟨-, hn, -⟩
  · cases hx.symm.trans he
  · exact hf
  · exact absurd hc hn

theorem freshness_of_news (h : c.stored? t name = some (bytes, changed))
    (hx : isExpired c.ttl changed now = false) (hn : ¬ c.Current name changed) :
    c.freshness t name now = .outdated := by
  rcases freshness_cases h now with ⟨he, -⟩ | ⟨-, hc, -⟩ | ⟨-, -, hf⟩
  · cases hx.symm.trans he
  · exact absurd hc hn
  · exact hf

theorem freshness_good_or_outdated (h : c.stored? t name = some (bytes, changed)) :
    c.freshness t name now = .good ∨ c.freshness t name now = .outdated ↔
      isExpired c.ttl changed now = false := by
  constructor
  · intro hf
    cases hx : isExpired c.ttl changed now with
    | true =>
      rw [freshness_of_expired h hx] at hf
      rcases hf with hf | hf <;> cases hf
    | false => rfl
  · intro hx
    by_cases hc : c.Current name changed
    · exact .inl (freshness_of_current h hx hc)
    · exact .inr (freshness_of_news h hx hc)

end Freshness

theorem freshness_ne_good {c : Cache} {t : Tree} {name : String} (h : c.seen? name = none)
    (now : Instant) : c.freshness t name now ≠ .good := by
  cases c with
  | memory m =>
    have hr : m.records.lookup name = none := by simpa [seen?] using h
    simp [freshness, Memory.freshness, hr]
  | disk d =>
    have hs : d.seen.lookup name = none := h
    simp only [freshness, Disk.freshness, hs]
    split
    · simp
    · split <;> simp

theorem stored?_of_content? {c : Cache} {t : Tree} {name : String} (hn : IsPlain name)
    {x : List UInt8 × Instant} (h : c.content? t name = some x) (now : Instant)
    (hf : c.freshness t name now ≠ .absent) : c.stored? t name = some x := by
  cases c with
  | memory m => exact h
  | disk d =>
    apply (stored?_disk hn).2
    refine ⟨?_, h⟩
    cases hm : d.modified t name with
    | error e => simp [freshness, Disk.freshness, hm] at hf
    | ok changed => exact ((Disk.modified_eq_ok hn).1 hm).1

theorem load_of_stored? {c : Cache} {t : Tree} {name : String} {bytes : List UInt8}
    {changed : Instant} (h : c.stored? t name = some (bytes, changed)) :
    c.load t name = (.ok bytes, c.noted name changed) := by
  cases c with
  | memory m =>
    obtain ⟨r, hr, he⟩ := Option.map_eq_some_iff.1 h
    obtain ⟨rfl, rfl⟩ := Prod.mk.inj he
    simp [load, Memory.load, hr, noted]
  | disk d =>
    have hs := Disk.stored?_eq_some.1 h
    have hm : d.modified t name = .ok changed := by
      rw [Disk.modified, hs]
      rfl
    have hr : t.read (d.path name) = .ok bytes := by
      rw [Tree.read, hs]
      rfl
    simp only [load, Disk.load, hm, hr, noted]

theorem load_of_not_stored? {c : Cache} {t : Tree} {name : String}
    (h : c.stored? t name = none) : ∃ e, c.load t name = (.error e, c) := by
  cases c with
  | memory m =>
    have hr : m.records.lookup name = none := by simpa [stored?] using h
    exact ⟨.cache name "not found in cache", by simp [load, Memory.load, hr]⟩
  | disk d =>
    have hread : ∃ e, t.read (d.path name) = .error e := by
      change d.stored? t name = none at h
      unfold Tree.read
      cases hs : t.stat (d.path name) with
      | error e => exact ⟨e, rfl⟩
      | ok n =>
        cases n with
        | file b c => simp [Disk.stored?_eq_some.2 hs] at h
        | folder c => exact ⟨.isFolder, rfl⟩
    obtain ⟨e, he⟩ := hread
    simp only [load, Disk.load, he]
    cases d.modified t name with
    | error f => exact ⟨_, rfl⟩
    | ok c => exact ⟨_, rfl⟩

theorem load_eq_ok {c : Cache} {t : Tree} {name : String} {bytes : List UInt8} :
    (c.load t name).1 = .ok bytes ↔ ∃ changed, c.stored? t name = some (bytes, changed) := by
  constructor
  · intro h
    cases hs : c.stored? t name with
    | none =>
      obtain ⟨e, he⟩ := load_of_not_stored? hs
      rw [he] at h
      cases h
    | some x =>
      obtain ⟨b, changed⟩ := x
      rw [load_of_stored? hs] at h
      cases h
      exact ⟨changed, rfl⟩
  · rintro ⟨changed, hs⟩
    rw [load_of_stored? hs]

theorem ttl_noted (c : Cache) (name : String) (changed : Instant) :
    (c.noted name changed).ttl = c.ttl := by
  cases c <;> rfl

theorem alike_noted (c : Cache) (name : String) (changed : Instant) :
    c.Alike (c.noted name changed) := by
  cases c <;> simp [noted, Alike, Disk.see]

theorem content?_noted (c : Cache) (name : String) (changed : Instant) (t : Tree)
    (other : String) : (c.noted name changed).content? t other = c.content? t other := by
  cases c <;> rfl

theorem stored?_noted (c : Cache) (name : String) (changed : Instant) (t : Tree)
    (other : String) : (c.noted name changed).stored? t other = c.stored? t other := by
  cases c <;> rfl

theorem seen?_noted {c : Cache} {t : Tree} {name : String} {bytes : List UInt8}
    {changed : Instant} (h : c.stored? t name = some (bytes, changed)) (other : String) :
    (c.noted name changed).seen? other = if other = name then some changed else c.seen? other := by
  cases c with
  | memory m =>
    by_cases ho : other = name
    · obtain ⟨r, hr, he⟩ := Option.map_eq_some_iff.1 h
      obtain ⟨-, rfl⟩ := Prod.mk.inj he
      simp [noted, seen?, ho, hr]
    · simp [noted, seen?, ho]
  | disk d => exact lookup_cons_eq ..

structure Saved (c c' : Cache) (t u : Tree) (name : String) (bytes : List UInt8)
    (now : Instant) : Prop where
  ttl : c'.ttl = c.ttl
  alike : c.Alike c'
  keeps : t.Keeps u
  file : ∀ p, (∀ d, c = disk d → p ≠ name :: t.home d.folder) → u.file? p = t.file? p
  content : ∀ other, c'.content? u other =
    if other = name then some (bytes, now) else c.content? t other
  seen : ∀ other, c'.seen? other = if other = name then some now else c.seen? other
  stored : c'.stored? u name = some (bytes, now)

theorem save_cases {t : Tree} {name : String} (c : Cache) (hh : t.IsFolder t.here)
    (hn : IsPlain name) (bytes : List UInt8) (now : Instant) :
    (∃ e u, c.save t name bytes now = (.error e, c, u) ∧ t.Grows u) ∨
    (∃ c' u, c.save t name bytes now = (.ok (), c', u) ∧ c.Saved c' t u name bytes now) := by
  cases c with
  | memory m =>
    refine .inr ⟨memory (m.save name bytes now), t, rfl, rfl, trivial, .refl t,
      fun _ _ => rfl, fun other => ?_, fun other => ?_, ?_⟩
    · simp only [content?, Memory.save, lookup_cons_eq]
      split <;> rfl
    · simp only [seen?, Memory.save, lookup_cons_eq]
      split <;> rfl
    · simp [stored?, Memory.save]
  | disk d =>
    rcases Disk.save_cases (d := d) hh hn bytes now with ⟨e, u, hu, hg⟩ | ⟨u, hu, hr, hg⟩
    · exact .inl ⟨e, u, by simp only [save, hu], hg⟩
    · have hhome : u.home d.folder = t.home d.folder := home_congr hg.here _
      refine .inr ⟨disk (d.see name now), u, by simp only [save, hu], rfl, rfl, hg.toKeeps,
        fun p hp => ?_, fun other => ?_, fun other => ?_, ?_⟩
      · rw [hg.file, if_neg (hp d rfl)]
      · simp only [content?, Disk.see, hhome, hg.file]
        simp
      · exact lookup_cons_eq ..
      · refine (stored?_disk hn).2 ⟨hr, ?_⟩
        change u.file? (name :: u.home d.folder) = _
        rw [hhome, hg.file, if_pos rfl]

end RdapDirectory.Cache
