import RdapDirectory.Proofs.Retrieval

namespace RdapDirectory.Client

open Cache Files
open Registry (Kind)

structure Kept (c c' : Client) : Prop where
  settings : c'.settings = c.settings
  ttl : c'.cache.ttl = c.cache.ttl
  alike : c.cache.Alike c'.cache

structure Same (c c' : Client) (t u : Tree) (k : Kind) : Prop where
  content : c'.cache.content? u k.file = c.cache.content? t k.file
  seen : c'.cache.seen? k.file = c.cache.seen? k.file
  loaded : c'.loaded k = c.loaded k

structure Looked (c c' : Client) (t u : Tree) (k : Kind) (now : Instant) (bytes : List UInt8)
    (changed : Instant) : Prop where
  stored : c.cache.stored? t k.file = some (bytes, changed)
  fresh : isExpired c.cache.ttl changed now = false
  content : c'.cache.content? u k.file = c.cache.content? t k.file
  seen : c'.cache.seen? k.file = some changed
  loaded : c'.loaded k = match Registry.read k bytes with
    | .error _ => c.loaded k
    | .ok r => some r

structure Renewed (c' : Client) (u : Tree) (k : Kind) (now : Instant) (bytes : List UInt8)
    (r : Registry) : Prop where
  read : Registry.read k bytes = .ok r
  stored : c'.cache.stored? u k.file = some (bytes, now)
  seen : c'.cache.seen? k.file = some now
  loaded : c'.loaded k = some r

theorem Renewed.content {c : Client} {u : Tree} {k : Kind} {now : Instant} {bytes : List UInt8}
    {r : Registry} (h : c.Renewed u k now bytes r) :
    c.cache.content? u k.file = some (bytes, now) :=
  content?_of_stored? k.isPlain_file h.stored

theorem Kept.refl (c : Client) : c.Kept c := ⟨rfl, rfl, .refl _⟩

theorem Kept.trans {a b c : Client} (h : a.Kept b) (k : b.Kept c) : a.Kept c :=
  ⟨k.settings.trans h.settings, k.ttl.trans h.ttl, h.alike.trans k.alike⟩

theorem Same.refl (c : Client) (t : Tree) (k : Kind) : c.Same c t t k := ⟨rfl, rfl, rfl⟩

theorem Same.trans {a b c : Client} {t u v : Tree} {k : Kind} (h : a.Same b t u k)
    (h' : b.Same c u v k) : a.Same c t v k :=
  ⟨h'.content.trans h.content, h'.seen.trans h.seen, h'.loaded.trans h.loaded⟩

theorem Looked.same {a b c : Client} {t u v : Tree} {k : Kind} {now : Instant}
    {bytes : List UInt8} {changed : Instant} (h : a.Looked b t u k now bytes changed)
    (h' : b.Same c u v k) : a.Looked c t v k now bytes changed :=
  ⟨h.stored, h.fresh, h'.content.trans h.content, h'.seen.trans h.seen,
    h'.loaded.trans h.loaded⟩

variable (c : Client) (l : Kind) (w : World)

theorem note_kept (changed : Instant) : c.Kept (c.note l changed) :=
  ⟨rfl, ttl_noted .., alike_noted ..⟩

theorem refresh_kept : c.Kept (c.refresh l w).2 := by
  rcases refresh_cases c l w with ⟨h, -⟩ | ⟨bytes, changed, -, -, h⟩
  · rw [h]
    exact .refl c
  · rw [h]
    cases Registry.read l bytes with
    | error e => exact note_kept c l changed
    | ok r => exact ⟨rfl, ttl_noted .., alike_noted ..⟩

theorem refresh_turn (k : Kind) :
    (c.Same (c.refresh l w).2 w.tree w.tree k ∧ (l = k → c.UpToDate w.tree k w.now)) ∨
    l = k ∧ ∃ bytes changed, c.Looked (c.refresh l w).2 w.tree w.tree k w.now bytes changed := by
  rcases refresh_cases c l w with ⟨h, hu⟩ | ⟨bytes, changed, hs, hx, h⟩
  · left
    rw [h]
    refine ⟨.refl c w.tree k, ?_⟩
    rintro rfl
    exact hu
  · rw [h]
    have hseen := fun name => seen?_noted hs name
    by_cases hk : l = k
    · subst hk
      right
      refine ⟨rfl, bytes, changed, ?_⟩
      cases hr : Registry.read l bytes with
      | error e =>
        exact ⟨hs, hx, content?_noted .., (hseen _).trans (if_pos rfl), by rw [hr]; rfl⟩
      | ok r =>
        refine ⟨hs, hx, content?_noted .., (hseen _).trans (if_pos rfl), ?_⟩
        rw [hr]
        exact install_same ..
    · refine .inl ⟨?_, fun he => absurd he hk⟩
      have hne : k.file ≠ l.file := fun he => hk (Registry.Kind.file_inj.1 he).symm
      cases Registry.read l bytes with
      | error e => exact ⟨content?_noted .., (hseen _).trans (if_neg hne), rfl⟩
      | ok r =>
        exact ⟨content?_noted .., (hseen _).trans (if_neg hne),
          install_other _ _ fun he => hk he.symm⟩

variable {c l w}

theorem Fetched.kept {c' : Client} {w' : World} {bytes : List UInt8} {r : Registry}
    (h : c.Fetched c' l w w' bytes r) : c.Kept c' :=
  ⟨h.settings, h.saved.ttl, h.saved.alike⟩

theorem Fetched.renewed {c' : Client} {w' : World} {bytes : List UInt8} {r : Registry}
    (h : c.Fetched c' l w w' bytes r) : c'.Renewed w'.tree l w.now bytes r := by
  refine ⟨h.read, h.saved.stored, ?_, ?_⟩
  · rw [h.saved.seen, if_pos rfl]
  · rw [h.loaded]
    exact install_same ..

theorem Fetched.same {c' : Client} {w' : World} {bytes : List UInt8} {r : Registry}
    (h : c.Fetched c' l w w' bytes r) {k : Kind} (hk : l ≠ k) :
    c.Same c' w.tree w'.tree k := by
  have hne : k.file ≠ l.file := fun he => hk (Registry.Kind.file_inj.1 he).symm
  constructor
  · rw [h.saved.content, if_neg hne]
  · rw [h.saved.seen, if_neg hne]
  · rw [h.loaded]
    exact install_other _ _ hk.symm

theorem same_of_grows {t u : Tree} (h : t.Grows u) (c : Client) (k : Kind) : c.Same c t u k :=
  ⟨content?_grows _ h _, rfl, rfl⟩

variable (c l)

theorem download_kept (hh : w.tree.IsFolder w.tree.here) :
    c.Kept (c.download l w).2.1 ∧ w.tree.Keeps (c.download l w).2.2.tree ∧
      (c.download l w).2.2.now = w.now := by
  rcases download_cases c l w hh with ⟨e, w', h, hg, hn, -⟩ | ⟨c', w', bytes, r, h, hf⟩
  · rw [h]
    exact ⟨.refl c, hg.toKeeps, hn⟩
  · rw [h]
    exact ⟨hf.kept, hf.saved.keeps, hf.now⟩

theorem download_turn (hh : w.tree.IsFolder w.tree.here) (k : Kind) :
    c.Same (c.download l w).2.1 w.tree (c.download l w).2.2.tree k ∨
    l = k ∧ ∃ bytes r,
      (c.download l w).2.1.Renewed (c.download l w).2.2.tree k w.now bytes r := by
  rcases download_cases c l w hh with ⟨e, w', h, hg, -⟩ | ⟨c', w', bytes, r, h, hf⟩
  · rw [h]
    exact .inl (same_of_grows hg c k)
  · rw [h]
    by_cases hk : l = k
    · subst hk
      exact .inr ⟨rfl, bytes, r, hf.renewed⟩
    · exact .inl (hf.same hk)

theorem provide_kept (hh : w.tree.IsFolder w.tree.here) :
    c.Kept (c.provide l w).2.1 ∧ w.tree.Keeps (c.provide l w).2.2.tree ∧
      (c.provide l w).2.2.now = w.now := by
  have hr := refresh_kept c l w
  rcases provide_cases c l w with h | h
  · rw [h]
    exact ⟨hr, .refl _, rfl⟩
  · rw [h]
    obtain ⟨hd, hkeep, hn⟩ := download_kept (c.refresh l w).2 l hh
    exact ⟨hr.trans hd, hkeep, hn⟩

theorem provide_turn (hh : w.tree.IsFolder w.tree.here) (k : Kind) :
    (c.Same (c.provide l w).2.1 w.tree (c.provide l w).2.2.tree k ∧
      (l = k → c.UpToDate w.tree k w.now)) ∨
    l = k ∧ ((∃ bytes changed, c.Looked (c.provide l w).2.1 w.tree (c.provide l w).2.2.tree k
        w.now bytes changed) ∨
      ∃ bytes r, (c.provide l w).2.1.Renewed (c.provide l w).2.2.tree k w.now bytes r) := by
  have hr := refresh_turn c l w k
  rcases provide_cases c l w with h | h
  · rw [h]
    exact hr.imp id fun ⟨hk, hl⟩ => ⟨hk, .inl hl⟩
  · rw [h]
    rcases download_turn (c.refresh l w).2 l hh k with hd | ⟨hk, hd⟩
    · rcases hr with ⟨hr, hu⟩ | ⟨hk, bytes, changed, hr⟩
      · exact .inl ⟨hr.trans hd, hu⟩
      · exact .inr ⟨hk, .inl ⟨bytes, changed, hr.same hd⟩⟩
    · exact .inr ⟨hk, .inr hd⟩

end RdapDirectory.Client
