import RdapDirectory.Proofs.Acts
import RdapDirectory.Proofs.Downloads
import RdapDirectory.Proofs.LastingCaches

namespace RdapDirectory

open Files Tree

namespace Client

open Cache
open Registry (Kind)

namespace World

def Calm (w : World) : Prop :=
  ∀ url, (w.site url).cancels = false ∧ (w.site url).result ≠ none

structure Like (w w' : World) : Prop where
  now : w'.now = w.now
  site : w'.site = w.site
  cancelled : w'.cancelled = w.cancelled

variable {w w' : World}

theorem Like.calm (h : w.Like w') (hc : w.Calm) : w'.Calm := by
  intro url
  rw [h.site]
  exact hc url

theorem Like.get_fst (h : w.Like w') (url : String) : (w'.get url).1 = (w.get url).1 := by
  simp only [get, h.site, h.cancelled]
  split
  · rfl
  · cases (w.site url).result <;> rfl

theorem Calm.get_snd (h : w.Calm) (url : String) :
    ∃ asked, (w.get url).2 = { w with asked } := by
  obtain ⟨hcancels, hresult⟩ := h url
  obtain ⟨r, hr⟩ := Option.ne_none_iff_exists'.1 hresult
  unfold get
  split
  · exact ⟨w.asked, rfl⟩
  · rename_i hc
    refine ⟨w.asked ++ [url], ?_⟩
    simp only [hr, hcancels]
    rw [Bool.not_eq_true] at hc
    rw [← hc]

end World

variable {c c' : Client} {k l : Kind} {w w' : World}

def offer (c : Client) (k : Kind) (w : World) : Except Failure (List UInt8 × Registry) :=
  match (w.get (c.registryUrl k)).1 with
  | .error e => .error e
  | .ok r =>
    if r.code ≠ 200 then .error (.httpStatus (c.registryUrl k) r.code r.reason)
    else (Registry.read k r.body).map (r.body, ·)

def fetched (c : Client) (k : Kind) (w : World) : Except Failure Registry :=
  match c.offer k w with
  | .error e => .error e
  | .ok (bytes, r) => (c.cache.save w.tree k.file bytes w.now).1.map fun _ => r

/-- The registry that a lookup uses: the one on file, or else the one that a download brings. -/
def standing (c : Client) (k : Kind) (w : World) : Except Failure Registry :=
  match c.cache.stored? w.tree k.file with
  | none => c.fetched k w
  | some (bytes, changed) =>
    if isExpired c.cache.ttl changed w.now then c.fetched k w
    else match Registry.read k bytes with
      | .ok r => .ok r
      | .error _ => c.fetched k w

theorem offer_congr (hs : c'.settings = c.settings) (hw : w.Like w') (k : Kind) :
    c'.offer k w' = c.offer k w := by
  have hurl : c'.registryUrl k = c.registryUrl k := by simp only [registryUrl, hs]
  simp only [offer, hurl, hw.get_fst]

theorem fetched_congr (hs : c'.settings = c.settings) (hw : w.Like w')
    (hsave : ∀ bytes, (c'.cache.save w'.tree k.file bytes w'.now).1 =
      (c.cache.save w.tree k.file bytes w.now).1) : c'.fetched k w' = c.fetched k w := by
  simp only [fetched, offer_congr hs hw, hsave]

theorem standing_congr (hf : c'.fetched k w' = c.fetched k w) (hw : w.Like w')
    (ht : c'.cache.ttl = c.cache.ttl)
    (hst : c'.cache.stored? w'.tree k.file = c.cache.stored? w.tree k.file) :
    c'.standing k w' = c.standing k w := by
  simp only [standing, hst, ht, hw.now, hf]

theorem read_of_offer {bytes : List UInt8} {r : Registry} (h : c.offer k w = .ok (bytes, r)) :
    Registry.read k bytes = .ok r := by
  unfold offer at h
  split at h
  · cases h
  · rename_i response _
    split at h
    · cases h
    · cases hread : Registry.read k response.body with
      | error e =>
        rw [hread] at h
        cases h
      | ok registry =>
        rw [hread] at h
        cases h
        exact hread

inductive Downloads (c : Client) (k : Kind) (w : World) :
    Except Failure Unit × Client × World → Prop where
  | refused (e : Failure) (asked : List String) (offer : c.offer k w = .error e) :
    Downloads c k w (.error e, c, { w with asked })
  | unsaved (bytes : List UInt8) (r : Registry) (e : Failure) (cache : Cache) (tree : Tree)
      (asked : List String) (offer : c.offer k w = .ok (bytes, r))
      (save : c.cache.save w.tree k.file bytes w.now = (.error e, cache, tree)) :
    Downloads c k w (.error e, { c with cache }, { w with asked, tree })
  | saved (bytes : List UInt8) (r : Registry) (cache : Cache) (tree : Tree)
      (asked : List String) (offer : c.offer k w = .ok (bytes, r))
      (save : c.cache.save w.tree k.file bytes w.now = (.ok (), cache, tree)) :
    Downloads c k w (.ok (), { c with cache }.install k r, { w with asked, tree })

theorem downloads (h : w.Calm) (c : Client) (k : Kind) : c.Downloads k w (c.download k w) := by
  obtain ⟨asked, hasked⟩ := h.get_snd (c.registryUrl k)
  rcases hg : w.get (c.registryUrl k) with ⟨x, v⟩
  rw [hg] at hasked
  obtain rfl : v = { w with asked } := hasked
  unfold download
  cases x with
  | error e =>
    simp only [hg]
    exact .refused e asked (by simp only [offer, hg])
  | ok response =>
    simp only [hg]
    by_cases hcode : response.code ≠ 200
    · rw [if_pos hcode]
      exact .refused _ asked (by simp only [offer, hg, if_pos hcode])
    · rw [if_neg hcode]
      cases hread : Registry.read k response.body with
      | error e => exact .refused e asked (by simp only [offer, hg, if_neg hcode, hread]; rfl)
      | ok r =>
        have hoffer : c.offer k w = .ok (response.body, r) := by
          simp only [offer, hg, if_neg hcode, hread]
          rfl
        rcases hsave : c.cache.save w.tree k.file response.body w.now with ⟨_ | _, cache, tree⟩
        · exact .unsaved _ r _ cache tree asked hoffer hsave
        · exact .saved _ r cache tree asked hoffer hsave

theorem download_fetched (h : w.Calm) (c : Client) (k : Kind) :
    (c.download k w).1 = (c.fetched k w).map (fun _ => ()) ∧
      ∀ r, c.fetched k w = .ok r → (c.download k w).2.1.loaded k = some r := by
  have hd := downloads h c k
  generalize c.download k w = x at hd ⊢
  unfold fetched
  cases hd with
  | refused e asked offer =>
    rw [offer]
    exact ⟨rfl, nofun⟩
  | unsaved bytes r e cache tree asked offer save =>
    simp only [offer, save]
    exact ⟨rfl, nofun⟩
  | saved bytes r cache tree asked offer save =>
    simp only [offer, save]
    refine ⟨rfl, fun r' hr => ?_⟩
    cases hr
    exact install_same ..

theorem download_like (h : w.Calm) (c : Client) (k : Kind) : w.Like (c.download k w).2.2 := by
  have hd := downloads h c k
  generalize c.download k w = x at hd ⊢
  cases hd with
  | refused | unsaved | saved => exact ⟨rfl, rfl, rfl⟩

theorem download_sound (h : w.Calm) (ht : w.tree.Sound) (c : Client) (k : Kind) :
    (c.download k w).2.2.tree.Sound := by
  have hd := downloads h c k
  generalize c.download k w = x at hd ⊢
  have hsave := fun bytes => c.cache.save_sound ht k.isPlain_file bytes w.now
  cases hd with
  | refused => exact ht
  | unsaved bytes r e cache tree asked offer save | saved bytes r cache tree asked offer save =>
    have hsound := hsave bytes
    rw [save] at hsound
    exact hsound

structure Poised (c : Client) (w : World) : Prop where
  sound : w.tree.Sound
  calm : w.Calm
  orderly : c.Orderly w.tree
  backed : ∀ k r, c.loaded k = some r → ∃ bytes changed,
    c.cache.stored? w.tree k.file = some (bytes, changed) ∧ Registry.read k bytes = .ok r

def Turned (c c' : Client) (w w' : World) (k : Kind) : Prop :=
  c.Same c' w.tree w'.tree k ∨
  (∃ bytes changed, c.Looked c' w.tree w'.tree k w.now bytes changed) ∨
  ∃ bytes r, c'.Renewed w'.tree k w.now bytes r

theorem Poised.here (h : c.Poised w) : w.tree.IsFolder w.tree.here := h.sound.here

theorem Poised.read_stored {bytes : List UInt8} {changed : Instant} {r : Registry}
    (h : c.Poised w) (hl : c.loaded k = some r)
    (hs : c.cache.stored? w.tree k.file = some (bytes, changed)) :
    Registry.read k bytes = .ok r := by
  obtain ⟨b, s, hs', hread⟩ := h.backed k r hl
  cases hs.symm.trans hs'
  exact hread

theorem Poised.turned (h : c.Poised w) (hkept : c.Kept c') (hkeeps : w.tree.Keeps w'.tree)
    (hsound : w'.tree.Sound) (hcalm : w'.Calm) (hturn : ∀ k, c.Turned c' w w' k) :
    c'.Poised w' := by
  have hstored {k : Kind} {bytes : List UInt8} {changed : Instant}
      (hc : c'.cache.content? w'.tree k.file = c.cache.content? w.tree k.file)
      (hs : c.cache.stored? w.tree k.file = some (bytes, changed)) :
      c'.cache.stored? w'.tree k.file = some (bytes, changed) :=
    stored?_of_keeps k.isPlain_file hkept.alike hkeeps hs
      (hc.trans (content?_of_stored? k.isPlain_file hs))
  refine ⟨hsound, hcalm, ⟨?_, fun k s hs => ?_⟩, fun k r hr => ?_⟩
  · rw [hkept.ttl, hkept.settings]
    exact h.orderly.ttl
  · rcases hturn k with hk | ⟨bytes, changed, hk⟩ | ⟨bytes, r, hk⟩
    · rw [hk.content]
      exact h.orderly.seen k s (hk.seen.symm.trans hs)
    · rw [hk.content]
      exact ⟨_, content?_of_stored? k.isPlain_file hk.stored⟩
    · exact ⟨_, hk.content⟩
  · rcases hturn k with hk | ⟨bytes, changed, hk⟩ | ⟨bytes, r', hk⟩
    · obtain ⟨bytes, changed, hs, hread⟩ := h.backed k r (hk.loaded.symm.trans hr)
      exact ⟨bytes, changed, hstored hk.content hs, hread⟩
    · have hloaded := hk.loaded
      refine ⟨bytes, changed, hstored hk.content hk.stored, ?_⟩
      cases hread : Registry.read k bytes with
      | ok r' =>
        rw [hread, hr] at hloaded
        exact congrArg Except.ok (Option.some.inj hloaded).symm
      | error e =>
        rw [hread] at hloaded
        cases hread.symm.trans (h.read_stored (hloaded.symm.trans hr) hk.stored)
    · cases hr.symm.trans hk.loaded
      exact ⟨bytes, w.now, hk.stored, hk.read⟩

theorem Poised.refresh (h : c.Poised w) (l : Kind) : (c.refresh l w).2.Poised w := by
  apply h.turned (refresh_kept c l w) (.refl _) h.sound h.calm
  intro k
  rcases refresh_turn c l w k with ⟨hk, -⟩ | ⟨-, hk⟩
  · exact .inl hk
  · exact .inr (.inl hk)

theorem Poised.download (h : c.Poised w) (l : Kind) :
    (c.download l w).2.1.Poised (c.download l w).2.2 := by
  obtain ⟨hkept, hkeeps, -⟩ := download_kept c l h.here
  apply h.turned hkept hkeeps (download_sound h.calm h.sound c l)
    ((download_like h.calm c l).calm h.calm)
  intro k
  rcases download_turn c l h.here k with hk | ⟨-, hk⟩
  · exact .inl hk
  · exact .inr (.inr hk)

theorem standing_of_alike (hs : c'.settings = c.settings) (ht : c'.cache.ttl = c.cache.ttl)
    (ha : c.cache.Alike c'.cache)
    (hst : c'.cache.stored? w.tree k.file = c.cache.stored? w.tree k.file) :
    c'.standing k w = c.standing k w ∧ c'.fetched k w = c.fetched k w := by
  have hlike : w.Like w := ⟨rfl, rfl, rfl⟩
  have hf : c'.fetched k w = c.fetched k w :=
    fetched_congr hs hlike fun bytes => ha.save_fst _ _ bytes _
  exact ⟨standing_congr hf hlike ht hst, hf⟩

theorem refresh_standing (c : Client) (k l : Kind) (w : World) :
    (c.refresh l w).2.standing k w = c.standing k w ∧
      (c.refresh l w).2.fetched k w = c.fetched k w := by
  have hkept := refresh_kept c l w
  exact standing_of_alike hkept.settings hkept.ttl hkept.alike (refresh_stored? c l w _ _)

theorem standing_of_due (h : c.Orderly w.tree) (hd : c.Due w.tree k w.now) :
    (c.refresh k w).2 = c ∧ c.standing k w = c.fetched k w := by
  have hexpired {bytes : List UInt8} {changed : Instant}
      (hs : c.cache.stored? w.tree k.file = some (bytes, changed)) :
      isExpired c.cache.ttl changed w.now = true := by
    rw [isExpired_iff, h.ttl]
    exact hd bytes changed hs
  constructor
  · rcases refresh_cases c k w with ⟨hsame, -⟩ | ⟨bytes, changed, hs, hx, -⟩
    · exact hsame
    · cases hx.symm.trans (hexpired hs)
  · cases hs : c.cache.stored? w.tree k.file with
    | none => simp only [standing, hs]
    | some x => simp only [standing, hs, hexpired hs, if_true]

theorem provide_standing (h : c.Poised w) (k : Kind) :
    (c.provide k w = (.ok (), (c.refresh k w).2, w) ∧
      ∃ r, c.standing k w = .ok r ∧ (c.refresh k w).2.loaded k = some r) ∨
    c.provide k w = (c.refresh k w).2.download k w ∧ c.standing k w = c.fetched k w := by
  by_cases hd : c.Due w.tree k w.now
  · obtain ⟨hsame, hst⟩ := standing_of_due h.orderly hd
    exact .inr ⟨by rw [hsame, provide_of_due h.orderly hd], hst⟩
  · obtain ⟨bytes, changed, hs, hx⟩ := exists_of_not_due h.orderly.ttl hd
    cases hread : Registry.read k bytes with
    | ok r =>
      have hst : c.standing k w = .ok r := by simp [standing, hs, hx, hread]
      refine .inl ⟨provide_of_sound hs hx hread, r, hst, ?_⟩
      obtain ⟨-, hl | ⟨-, hsame, hl⟩⟩ := refresh_of_sound hs hx hread
      · exact hl
      · obtain ⟨r', hr'⟩ := Option.ne_none_iff_exists'.1 hl
        cases hread.symm.trans (h.read_stored hr' hs)
        rw [hsame, hr']
    | error e =>
      -- A registry in use is the one on file, which reads.
      have hnone : c.loaded k = none := by
        by_contra hl
        obtain ⟨r, hr⟩ := Option.ne_none_iff_exists'.1 hl
        cases hread.symm.trans (h.read_stored hr hs)
      have hst : c.standing k w = c.fetched k w := by simp [standing, hs, hx, hread]
      refine .inr ⟨?_, hst⟩
      rw [provide_of_stored? hs hx, refresh_of_news hs hx (.inr hnone), hread]
      rfl

theorem lookup_standing (h : c.Poised w) (k : Kind) (query : String) :
    (c.lookup k query w).1 = (c.standing k w).bind (·.lookup query) := by
  rcases provide_standing h k with ⟨hp, r, hst, hl⟩ | ⟨hp, hst⟩
  · rw [lookup_of_provided hp hl, hst]
    rfl
  · obtain ⟨-, hf⟩ := refresh_standing c k k w
    obtain ⟨hfst, hloaded⟩ := download_fetched (h.refresh k).calm (c.refresh k w).2 k
    rw [hf] at hfst hloaded
    rw [hst]
    rcases hd : (c.refresh k w).2.download k w with ⟨x, c', w'⟩
    rw [hd] at hp hfst hloaded
    have hx : x = (c.fetched k w).map fun _ => () := hfst
    cases hfetched : c.fetched k w with
    | error e =>
      rw [hfetched] at hx
      subst hx
      rw [lookup_of_not_provided hp]
      rfl
    | ok r =>
      rw [hfetched] at hx
      subst hx
      rw [lookup_of_provided hp (hloaded r hfetched)]
      rfl

structure Agrees (c c' : Client) (w w' : World) : Prop where
  settings : c'.settings = c.settings
  standing : ∀ k, c'.standing k w' = c.standing k w

theorem standing_of_stored? {bytes : List UInt8} {changed : Instant} {r : Registry}
    (hs : c.cache.stored? w.tree k.file = some (bytes, changed))
    (hread : Registry.read k bytes = .ok r) (hf : c.fetched k w = .ok r) :
    c.standing k w = .ok r := by
  simp only [standing, hs, hread, hf, ite_self]

theorem download_standing (h : c.Poised w) (hl : c.cache.Lasting w.tree w.now)
    (hst : c.standing l w = c.fetched l w) :
    c.Agrees (c.download l w).2.1 w (c.download l w).2.2 ∧
      (c.download l w).2.1.cache.Lasting (c.download l w).2.2.tree (c.download l w).2.2.now := by
  have hd := downloads h.calm c l
  have hlike := download_like h.calm c l
  obtain ⟨hkept, -, -⟩ := download_kept c l h.here
  generalize c.download l w = x at hd hlike hkept ⊢
  cases hd with
  | refused e asked offer =>
    refine ⟨⟨rfl, fun k => ?_⟩, hl⟩
    exact standing_congr (fetched_congr rfl hlike fun _ => rfl) hlike rfl rfl
  | unsaved bytes r e cache tree asked offer save =>
    obtain ⟨hlast, hothers⟩ := save_lasting hl h.here l.isPlain_file save
    refine ⟨⟨rfl, fun k => ?_⟩, hlast⟩
    obtain ⟨hsave, hsame⟩ := hothers k.file k.isPlain_file
    exact standing_congr (fetched_congr rfl hlike hsave) hlike hkept.ttl (hsame (.inr nofun)).stored
  | saved bytes r cache tree asked offer save =>
    obtain ⟨hlast, hothers⟩ := save_lasting hl h.here l.isPlain_file save
    refine ⟨⟨rfl, fun k => ?_⟩, hlast⟩
    obtain ⟨hsave, hsame⟩ := hothers k.file k.isPlain_file
    have hfetched : ({ c with cache }.install l r).fetched k { w with asked, tree } =
        c.fetched k w := fetched_congr rfl hlike hsave
    by_cases hk : k = l
    · subst hk
      -- The file is new, and a second download would bring the same.
      have hr : c.fetched k w = .ok r := by
        simp only [fetched, offer, save]
        rfl
      have hnew := stored?_of_save h.here k.isPlain_file save
      rw [hst, hr]
      exact standing_of_stored? hnew (read_of_offer offer) (hfetched.trans hr)
    · exact standing_congr hfetched hlike hkept.ttl
        (hsame (.inl fun he => hk (Registry.Kind.file_inj.1 he))).stored

theorem Agrees.trans {a b c : Client} {u v w : World} (h : a.Agrees b u v) (k : b.Agrees c v w) :
    a.Agrees c u w :=
  ⟨k.settings.trans h.settings, fun j => (k.standing j).trans (h.standing j)⟩

theorem Agrees.refl (c : Client) (w : World) : c.Agrees c w w := ⟨rfl, fun _ => rfl⟩

theorem refresh_agrees (c : Client) (l : Kind) (w : World) : c.Agrees (c.refresh l w).2 w w :=
  ⟨(refresh_kept c l w).settings, fun k => (refresh_standing c k l w).1⟩

structure Steady (c : Client) (w : World) : Prop extends c.Poised w where
  lasting : c.cache.Lasting w.tree w.now

theorem lookup_steady (h : c.Steady w) (k : Kind) (query : String) :
    (c.lookup k query w).2.1.Steady (c.lookup k query w).2.2 ∧
      c.Agrees (c.lookup k query w).2.1 w (c.lookup k query w).2.2 := by
  rw [lookup_snd]
  have hpoised := h.toPoised.refresh k
  have hagrees := refresh_agrees c k w
  have hlasting := (refresh_kept c k w).alike.lasting h.lasting
  rcases provide_standing h.toPoised k with ⟨hp, -⟩ | ⟨hp, hst⟩
  · rw [hp]
    exact ⟨⟨hpoised, hlasting⟩, hagrees⟩
  · obtain ⟨hstanding, hfetched⟩ := refresh_standing c k k w
    have hst' : (c.refresh k w).2.standing k w = (c.refresh k w).2.fetched k w := by
      rw [hstanding, hfetched, hst]
    obtain ⟨ha, hl⟩ := download_standing hpoised hlasting hst'
    rw [hp]
    exact ⟨⟨hpoised.download k, hl⟩, hagrees.trans ha⟩

end Client

end RdapDirectory
