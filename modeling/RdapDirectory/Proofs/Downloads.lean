import RdapDirectory.Files.Change
import RdapDirectory.Proofs.LastingCaches
import RdapDirectory.Proofs.Turns

namespace RdapDirectory.Client

open Cache Files
open Registry (Kind noServices)

structure Untouched (c c' : Client) (t u : Tree) (k : Kind) : Prop where
  loaded : c'.loaded k = c.loaded k
  content : c'.cache.content? u k.file = c.cache.content? t k.file
  view : t.Sound → c.cache.Clear t → c.cache.SameView c'.cache t u k.file

def Replaced (c c' : Client) (w w' : World) (k : Kind) : Prop :=
  ∃ reason bytes r, (w.site (c.registryUrl k)).result = some (.ok ⟨200, reason, bytes⟩) ∧
    Registry.read k bytes = .ok r ∧ c'.loaded k = some r ∧
    (c'.cache.load w'.tree k.file).1 = .ok bytes

theorem Untouched.refl (c : Client) (t : Tree) (k : Kind) : c.Untouched c t t k :=
  ⟨rfl, rfl, fun _ _ => .refl _ _ _⟩

theorem Untouched.trans {a b c : Client} {t u v : Tree} {k : Kind} (h : a.Untouched b t u k)
    (h' : b.Untouched c u v k) (hu : t.Sound → u.Sound) (hb : b.cache.Clear u) :
    a.Untouched c t v k :=
  ⟨h'.loaded.trans h.loaded, h'.content.trans h.content,
    fun ht ha => (h.view ht ha).trans (h'.view (hu ht) hb)⟩

theorem Replaced.untouched {a b c : Client} {w u v : World} {k : Kind} (h : a.Replaced b w u k)
    (h' : b.Untouched c u.tree v.tree k) (hc : b.Kept c) (hv : u.tree.Keeps v.tree) :
    a.Replaced c w v k := by
  obtain ⟨reason, bytes, r, hanswer, hread, hl, hload⟩ := h
  obtain ⟨changed, hst⟩ := load_eq_ok.1 hload
  have hcontent := h'.content.trans (content?_of_stored? k.isPlain_file hst)
  have hstored := stored?_of_keeps k.isPlain_file hc.alike hv hst hcontent
  exact ⟨reason, bytes, r, hanswer, hread, h'.loaded.trans hl, load_eq_ok.2 ⟨changed, hstored⟩⟩

variable {c c' : Client} {k : Kind} {w w' : World} {bytes : List UInt8} {r : Registry}

theorem Fetched.replaced (h : c.Fetched c' k w w' bytes r) : c.Replaced c' w w' k := by
  obtain ⟨reason, hanswer⟩ := h.answered
  exact ⟨reason, bytes, r, hanswer, h.read, h.renewed.loaded, load_eq_ok.2 ⟨_, h.renewed.stored⟩⟩

theorem Fetched.sound (h : c.Fetched c' k w w' bytes r) (ht : w.tree.Sound) : w'.tree.Sound := by
  have hsound := c.cache.save_sound ht k.isPlain_file bytes w.now
  rw [h.save] at hsound
  exact hsound

theorem Fetched.clear (h : c.Fetched c' k w w' bytes r) : c'.cache.Clear w'.tree := by
  have hst := h.renewed.stored
  cases hc : c'.cache with
  | memory m => trivial
  | disk d =>
    rw [hc] at hst
    exact ((stored?_disk k.isPlain_file).1 hst).1.clear

theorem Fetched.untouched (h : c.Fetched c' k w w' bytes r) {j : Kind} (hj : j ≠ k) :
    c.Untouched c' w.tree w'.tree j := by
  have hsame := h.same hj.symm
  have hne : j.file ≠ k.file := mt Registry.Kind.file_inj.1 hj
  exact ⟨hsame.loaded, hsame.content,
    fun ht hc => hc.sameView ht k.isPlain_file h.save j.isPlain_file (.inl hne)⟩

theorem download_failed (hh : w.tree.IsFolder w.tree.here) {e : Failure}
    (h : c.download k w = (.error e, c', w')) :
    c' = c ∧ (∀ p, w'.tree.file? p = w.tree.file? p) ∧
      ∀ j, c.Untouched c' w.tree w'.tree j := by
  rcases download_cases c k w hh with ⟨e', v, hv, hg, -, hsave⟩ | ⟨c₁, v, bytes, r, hv, -⟩
  · cases hv.symm.trans h
    refine ⟨rfl, hg.file, fun j => ⟨rfl, content?_grows _ hg _, fun ht hc => ?_⟩⟩
    rcases hsave with hsame | ⟨bytes, f, hsave⟩
    · rw [hsame]
      exact .refl _ _ _
    · exact hc.sameView ht k.isPlain_file hsave j.isPlain_file (.inr nofun)
  · cases hv.symm.trans h

theorem downloadEach_kept (ks : List Kind) (c : Client) (w : World)
    (hh : w.tree.IsFolder w.tree.here) :
    c.Kept (c.downloadEach w ks).2.1 ∧ w.tree.Keeps (c.downloadEach w ks).2.2.tree := by
  induction ks generalizing c w with
  | nil => exact ⟨.refl c, .refl _⟩
  | cons k ks ih =>
    obtain ⟨hc, hk, -⟩ := download_kept c k hh
    rcases h : c.download k w with ⟨x, c₁, w₁⟩
    rw [h] at hc hk
    cases x with
    | error e =>
      simp only [downloadEach, h]
      exact ⟨hc, hk⟩
    | ok _ =>
      obtain ⟨hc', hk'⟩ := ih c₁ w₁ (hk.here ▸ hk.folder _ hh)
      simp only [downloadEach, h]
      exact ⟨hc.trans hc', hk.trans hk'⟩

theorem downloadEach_spec {ks : List Kind} (hks : ks.Nodup) (c : Client) (w : World)
    (hh : w.tree.IsFolder w.tree.here) : ∃ done rest, ks = done ++ rest ∧
      (∀ k ∈ done, c.Replaced (c.downloadEach w ks).2.1 w (c.downloadEach w ks).2.2 k) ∧
      (∀ k ∉ done,
        c.Untouched (c.downloadEach w ks).2.1 w.tree (c.downloadEach w ks).2.2.tree k) ∧
      (rest = [] → (c.downloadEach w ks).1 = .ok ()) ∧
      ∀ k more, rest = k :: more → ∃ c₁ w₁ w₂ e, c.downloadEach w done = (.ok (), c₁, w₁) ∧
        c₁.download k w₁ = (.error e, c₁, w₂) ∧ c.downloadEach w ks = (.error e, c₁, w₂) := by
  induction ks generalizing c w with
  | nil =>
    refine ⟨[], [], rfl, ?_, fun k _ => .refl c w.tree k, fun _ => rfl, ?_⟩
    · intro k hk
      cases hk
    · intro k more h
      cases h
  | cons k ks ih =>
    obtain ⟨hk, hks⟩ := List.nodup_cons.1 hks
    rcases h : c.download k w with ⟨x, c₁, w₁⟩
    cases x with
    | error e =>
      obtain ⟨rfl, -, huntouched⟩ := download_failed hh h
      have heach : c₁.downloadEach w (k :: ks) = (.error e, c₁, w₁) := by
        simp only [downloadEach, h]
      rw [heach]
      refine ⟨[], k :: ks, rfl, ?_, fun j _ => huntouched j,
        fun h => absurd h (List.cons_ne_nil _ _), ?_⟩
      · intro j hj
        cases hj
      · intro j more hj
        cases hj
        exact ⟨c₁, w, w₁, e, rfl, h, rfl⟩
    | ok _ =>
      obtain ⟨bytes, r, hf⟩ := fetched_of_download hh h
      have hh₁ : w₁.tree.IsFolder w₁.tree.here :=
        hf.saved.keeps.here ▸ hf.saved.keeps.folder _ hh
      have heach (l : List Kind) : c.downloadEach w (k :: l) = c₁.downloadEach w₁ l := by
        simp only [downloadEach, h]
      obtain ⟨done, rest, rfl, hdone, hothers, hok, hfail⟩ := ih hks c₁ w₁ hh₁
      have hknot : k ∉ done := fun hm => hk (List.mem_append_left _ hm)
      rw [heach]
      refine ⟨k :: done, rest, rfl, fun j hj => ?_, fun j hj => ?_, hok, fun j more hj => ?_⟩
      · rcases List.mem_cons.1 hj with rfl | hj
        · obtain ⟨hkept, hkeeps⟩ := downloadEach_kept (done ++ rest) c₁ w₁ hh₁
          exact hf.replaced.untouched (hothers j hknot) hkept hkeeps
        · obtain ⟨reason, b, r', hanswer, hr⟩ := hdone j hj
          rw [hf.site] at hanswer
          have hurl : c₁.registryUrl j = c.registryUrl j := by
            unfold registryUrl
            rw [hf.settings]
          exact ⟨reason, b, r', hurl ▸ hanswer, hr⟩
      · have hne : j ≠ k := fun he => hj (he ▸ List.mem_cons_self)
        have hnot : j ∉ done := fun hm => hj (List.mem_cons_of_mem _ hm)
        exact (hf.untouched hne).trans (hothers j hnot) hf.sound hf.clear
      · rw [heach]
        exact hfail j more hj

theorem download_all_or_nothing (c : Client) (w : World) (hh : w.tree.IsFolder w.tree.here) :
    (∀ k c' w', c.download k w = (.ok (), c', w') → c.Replaced c' w w' k ∧
      (∀ j, j ≠ k → c.Untouched c' w.tree w'.tree j) ∧
      ∀ p, (∀ d, c.cache = .disk d → p ≠ k.file :: w.tree.home d.folder) →
        w'.tree.file? p = w.tree.file? p) ∧
    (∀ k e c' w', c.download k w = (.error e, c', w') → c' = c ∧
      (∀ j, c.Untouched c' w.tree w'.tree j) ∧ ∀ p, w'.tree.file? p = w.tree.file? p) ∧
    ∃ done rest, Kind.published = done ++ rest ∧
      (∀ k ∈ done, c.Replaced (c.downloadAll w).2.1 w (c.downloadAll w).2.2 k) ∧
      (∀ k ∉ done, c.Untouched (c.downloadAll w).2.1 w.tree (c.downloadAll w).2.2.tree k) ∧
      (rest = [] → (c.downloadAll w).1 = .ok ()) ∧
      ∀ k more, rest = k :: more → ∃ c₁ w₁ w₂ e, c.downloadEach w done = (.ok (), c₁, w₁) ∧
        c₁.download k w₁ = (.error e, c₁, w₂) ∧ c.downloadAll w = (.error e, c₁, w₂) := by
  refine ⟨fun k c' w' h => ?_, fun k e c' w' h => ?_, downloadEach_spec (by decide) c w hh⟩
  · obtain ⟨bytes, r, hf⟩ := fetched_of_download hh h
    exact ⟨hf.replaced, fun j hj => hf.untouched hj, hf.saved.file⟩
  · obtain ⟨hc, hfile, huntouched⟩ := download_failed hh h
    exact ⟨hc, huntouched, hfile⟩

def halfWorld : World where
  tree := ⟨[([], .folder 0), (["work"], .folder 0)], ["work"]⟩
  now := 1
  site url :=
    if url = "https://data.iana.org/rdap/asn.json" ∨
        url = "https://data.iana.org/rdap/dns.json" then
      { result := some (.ok ⟨200, "OK", noServices⟩) }
    else { result := some (.ok ⟨404, "Not Found", []⟩) }

theorem halfWorld_sound : halfWorld.tree.Sound := Files.Tree.sound_of_nodes rfl (by decide)

theorem halfWorld_downloadAll :
    let c := withParts .initial (.disk (.inFolder "../cache" 0))
    let x := c.downloadAll halfWorld
    x.1 = .error (.httpStatus "https://data.iana.org/rdap/ipv4.json" 404 "Not Found") ∧
      ∃ done rest, Kind.published = done ++ rest ∧ rest ≠ [] ∧
        (∀ k ∈ done, c.Replaced x.2.1 halfWorld x.2.2 k) ∧
        ∀ k ∉ done, c.Untouched x.2.1 halfWorld.tree x.2.2.tree k ∧
          c.cache.SameView x.2.1.cache halfWorld.tree x.2.2.tree k.file := by
  intro c x
  have hfail : x.1 =
      .error (.httpStatus "https://data.iana.org/rdap/ipv4.json" 404 "Not Found") := by
    decide +kernel
  have hclear : c.cache.Clear halfWorld.tree :=
    ⟨[".."], ["cache"], by decide +kernel, ⟨rfl, 0, rfl⟩, by decide⟩
  obtain ⟨-, -, done, rest, heq, hdone, hothers, hok, -⟩ :=
    download_all_or_nothing c halfWorld halfWorld_sound.here
  refine ⟨hfail, done, rest, heq, fun hnil => ?_, hdone, fun k hk => ?_⟩
  · rw [hok hnil] at hfail
    cases hfail
  · exact ⟨hothers k hk, (hothers k hk).view halfWorld_sound hclear⟩

/-- A step back through a folder that is not there. Once it has been made for one file, the path
leads to another one that has been there all the time. -/
theorem download_reveals :
    let c := withParts .initial (.disk (.inFolder "new/../x" 0))
    let w : World := {
      tree := ⟨[([], .folder 0), (["x"], .folder 0), (["dns.json", "x"], .file noServices 0)], []⟩
      now := 1
      site := fun _ => { result := some (.ok ⟨200, "OK", noServices⟩) } }
    c.freshness .dns w = .absent ∧ (c.download .asn w).1 = .ok () ∧
      (c.download .asn w).2.1.freshness .dns (c.download .asn w).2.2 = .outdated := by
  decide +kernel

end RdapDirectory.Client
