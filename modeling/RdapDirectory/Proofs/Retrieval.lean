import RdapDirectory.Client.Resolve
import RdapDirectory.Proofs.CacheContent
import RdapDirectory.Proofs.Registries

namespace RdapDirectory.Client

open Cache
open Registry (Kind)

def provide (c : Client) (k : Kind) (w : World) : Except Failure Unit × Client × World :=
  let f := c.freshness k w
  let (failed, c) := c.refresh k w
  if failed || f = .absent || f = .expired || (c.loaded k).isNone then c.download k w
  else (.ok (), c, w)

theorem lookup_eq (c : Client) (k : Kind) (query : String) (w : World) :
    c.lookup k query w = match c.provide k w with
      | (.error e, c, w) => (.error e, c, w)
      | (.ok (), c, w) => (c.answer k query, c, w) := by
  unfold lookup provide
  dsimp only
  split <;> rfl

theorem lookup_snd (c : Client) (k : Kind) (query : String) (w : World) :
    (c.lookup k query w).2 = (c.provide k w).2 := by
  rw [lookup_eq]
  rcases c.provide k w with ⟨_ | _, c', w'⟩ <;> rfl

theorem lookup_of_provided {c c' : Client} {k : Kind} {w w' : World} {r : Registry}
    (h : c.provide k w = (.ok (), c', w')) (hl : c'.loaded k = some r) (query : String) :
    c.lookup k query w = (r.lookup query, c', w') := by
  rw [lookup_eq, h]
  simp only [answer, hl]

theorem lookup_of_not_provided {c c' : Client} {k : Kind} {w w' : World} {e : Failure}
    (h : c.provide k w = (.error e, c', w')) (query : String) :
    c.lookup k query w = (.error e, c', w') := by
  rw [lookup_eq, h]

theorem resolve_of_registryFor? {c : Client} {r : Request} {k : Kind} (hu : r.url? = none)
    (hk : c.registryFor? r = some k) (w : World) :
    (c.resolve r w).2 = (c.lookup k r.text w).2 := by
  unfold resolve
  rw [hu, hk]
  dsimp only
  split
  · rename_i h
    rw [h]
  · rename_i h
    rw [h]

theorem resolve_of_not_registryFor? {c : Client} {r : Request}
    (h : r.url? ≠ none ∨ c.registryFor? r = none) (w : World) :
    ∃ x, c.resolve r w = (x, c, w) := by
  unfold resolve
  cases hu : r.url? with
  | some u => exact ⟨_, rfl⟩
  | none =>
    rcases h with h | h
    · exact absurd hu h
    · rw [h]
      exact ⟨_, rfl⟩

def note (c : Client) (k : Kind) (changed : Files.Instant) : Client :=
  { c with cache := c.cache.noted k.file changed }

variable {c : Client} {k : Kind} {w : World} {bytes : List UInt8} {changed : Files.Instant}

theorem reload_of_stored? (h : c.cache.stored? w.tree k.file = some (bytes, changed)) :
    c.reload k w = match Registry.read k bytes with
      | .error e => (.error e, c.note k changed)
      | .ok r => (.ok (), (c.note k changed).install k r) := by
  unfold reload
  rw [load_of_stored? h]
  rfl

theorem reload_of_not_stored? (h : c.cache.stored? w.tree k.file = none) :
    ∃ e, c.reload k w = (.error e, c) := by
  obtain ⟨e, he⟩ := load_of_not_stored? h
  refine ⟨e, ?_⟩
  unfold reload
  rw [he]

theorem refresh_of_expired (h : c.cache.stored? w.tree k.file = some (bytes, changed))
    (hx : isExpired c.cache.ttl changed w.now = true) : c.refresh k w = (false, c) := by
  have hf : c.freshness k w = .expired := freshness_of_expired h hx
  simp [refresh, hf, needsReload]

theorem refresh_of_current (h : c.cache.stored? w.tree k.file = some (bytes, changed))
    (hx : isExpired c.cache.ttl changed w.now = false) (hc : c.cache.Current k.file changed)
    (hl : c.loaded k ≠ none) : c.refresh k w = (false, c) := by
  have hf : c.freshness k w = .good := freshness_of_current h hx hc
  simp [refresh, hf, needsReload, hl]

theorem refresh_of_news (h : c.cache.stored? w.tree k.file = some (bytes, changed))
    (hx : isExpired c.cache.ttl changed w.now = false)
    (hn : ¬ c.cache.Current k.file changed ∨ c.loaded k = none) :
    c.refresh k w = match Registry.read k bytes with
      | .error _ => (true, c.note k changed)
      | .ok r => (false, (c.note k changed).install k r) := by
  have hf : c.needsReload k (c.freshness k w) = true := by
    unfold Client.freshness
    by_cases hc : c.cache.Current k.file changed
    · rw [freshness_of_current h hx hc]
      simp [needsReload, hn.resolve_left (not_not.2 hc)]
    · rw [freshness_of_news h hx hc]
      rfl
  simp only [refresh, hf, if_true, reload_of_stored? h]
  cases Registry.read k bytes <;> rfl

theorem refresh_of_not_stored? (h : c.cache.stored? w.tree k.file = none) :
    ∃ b, c.refresh k w = (b, c) := by
  unfold refresh
  split
  · obtain ⟨e, he⟩ := reload_of_not_stored? h
    exact ⟨true, by rw [he]⟩
  · exact ⟨false, rfl⟩

def UpToDate (c : Client) (t : Files.Tree) (k : Kind) (now : Files.Instant) : Prop :=
  ∀ bytes changed, c.cache.stored? t k.file = some (bytes, changed) →
    isExpired c.cache.ttl changed now = false → c.cache.Current k.file changed

theorem refresh_cases (c : Client) (k : Kind) (w : World) :
    ((c.refresh k w).2 = c ∧ c.UpToDate w.tree k w.now) ∨ ∃ bytes changed,
      c.cache.stored? w.tree k.file = some (bytes, changed) ∧
      isExpired c.cache.ttl changed w.now = false ∧
      (c.refresh k w).2 = match Registry.read k bytes with
        | .error _ => c.note k changed
        | .ok r => (c.note k changed).install k r := by
  cases h : c.cache.stored? w.tree k.file with
  | none =>
    obtain ⟨b, hb⟩ := refresh_of_not_stored? h
    refine .inl ⟨by rw [hb], fun bytes changed hs => ?_⟩
    cases h.symm.trans hs
  | some x =>
    obtain ⟨bytes, changed⟩ := x
    cases hx : isExpired c.cache.ttl changed w.now with
    | true =>
      refine .inl ⟨by rw [refresh_of_expired h hx], fun b later hs hn => ?_⟩
      cases h.symm.trans hs
      cases hx.symm.trans hn
    | false =>
      by_cases hn : ¬ c.cache.Current k.file changed ∨ c.loaded k = none
      · right
        refine ⟨bytes, changed, rfl, hx, ?_⟩
        rw [refresh_of_news h hx hn]
        cases Registry.read k bytes <;> rfl
      · obtain ⟨hc, hl⟩ := not_or.1 hn
        refine .inl ⟨by rw [refresh_of_current h hx (not_not.1 hc) hl], fun b later hs _ => ?_⟩
        cases h.symm.trans hs
        exact not_not.1 hc

theorem refresh_stored? (c : Client) (k : Kind) (w : World) (t : Files.Tree) (name : String) :
    (c.refresh k w).2.cache.stored? t name = c.cache.stored? t name := by
  rcases refresh_cases c k w with ⟨h, -⟩ | ⟨bytes, changed, -, -, h⟩
  · rw [h]
  · rw [h]
    cases Registry.read k bytes <;> exact stored?_noted ..

theorem get_cancelled (h : w.cancelled = true) (url : String) :
    w.get url = (.error (.cancelled ("download of " ++ url)), w) := by
  unfold World.get
  rw [if_pos h]
  rfl

theorem get_sent (h : w.cancelled = false) (url : String) :
    ∃ x cancelled, w.get url = (x, { w with asked := w.asked ++ [url], cancelled }) ∧
      ∀ r, x = .ok r → (w.site url).result = some (.ok r) := by
  unfold World.get
  simp only [h]
  cases hr : (w.site url).result with
  | none => exact ⟨_, true, rfl, fun r hx => by cases hx⟩
  | some x => exact ⟨x, (w.site url).cancels, rfl, fun r hx => by rw [hx]⟩

/-- A download that has succeeded, up to its answer, the file saved, and the registry in use. -/
structure Fetched (c c' : Client) (k : Kind) (w w' : World) (bytes : List UInt8)
    (registry : Registry) : Prop where
  sent : w.cancelled = false
  answered : ∃ reason, (w.site (c.registryUrl k)).result = some (.ok ⟨200, reason, bytes⟩)
  read : Registry.read k bytes = .ok registry
  settings : c'.settings = c.settings
  loaded : c'.loaded = (c.install k registry).loaded
  save : c.cache.save w.tree k.file bytes w.now = (.ok (), c'.cache, w'.tree)
  saved : c.cache.Saved c'.cache w.tree w'.tree k.file bytes w.now
  now : w'.now = w.now
  site : w'.site = w.site

theorem asked_download (c : Client) (k : Kind) (w : World) :
    (c.download k w).2.2.asked =
      w.asked ++ if w.cancelled then [] else [c.registryUrl k] := by
  unfold download
  dsimp only
  cases hc : w.cancelled with
  | true => simp [get_cancelled hc]
  | false =>
    obtain ⟨x, cancelled, hget, -⟩ := get_sent hc (c.registryUrl k)
    rw [hget]
    split
    · rename_i h
      obtain ⟨-, rfl⟩ := Prod.mk.inj h
      rfl
    · rename_i h
      obtain ⟨-, rfl⟩ := Prod.mk.inj h
      split
      · rfl
      · split
        · rfl
        · split <;> rfl

theorem download_cancelled (h : w.cancelled = true) : c.download k w =
    (.error (.cancelled ("download of " ++ c.registryUrl k)), c, w) := by
  simp [download, get_cancelled h]

theorem download_cases (c : Client) (k : Kind) (w : World) (hh : w.tree.IsFolder w.tree.here) :
    (∃ e w', c.download k w = (.error e, c, w') ∧ w.tree.Grows w'.tree ∧ w'.now = w.now ∧
      (w'.tree = w.tree ∨
        ∃ bytes f, c.cache.save w.tree k.file bytes w.now = (.error f, c.cache, w'.tree))) ∨
    (∃ c' w' bytes registry, c.download k w = (.ok (), c', w') ∧
      c.Fetched c' k w w' bytes registry) := by
  cases hc : w.cancelled with
  | true => exact .inl ⟨_, w, download_cancelled hc, .refl _, rfl, .inl rfl⟩
  | false =>
    obtain ⟨x, cancelled, hget, hsite⟩ := get_sent hc (c.registryUrl k)
    unfold download
    simp only [hget]
    cases x with
    | error e => exact .inl ⟨e, _, rfl, .refl _, rfl, .inl rfl⟩
    | ok r =>
      dsimp only
      by_cases hcode : r.code ≠ 200
      · rw [if_pos hcode]
        exact .inl ⟨_, _, rfl, .refl _, rfl, .inl rfl⟩
      · rw [if_neg hcode]
        cases hread : Registry.read k r.body with
        | error e => exact .inl ⟨e, _, rfl, .refl _, rfl, .inl rfl⟩
        | ok registry =>
          dsimp only
          rcases Cache.save_cases c.cache hh k.isPlain_file r.body w.now with
            ⟨e, u, hsave, hgrow⟩ | ⟨cache, u, hsave, hsaved⟩
          · rw [hsave]
            exact .inl ⟨e, _, rfl, hgrow, rfl, .inr ⟨r.body, e, hsave⟩⟩
          · rw [hsave]
            obtain ⟨code, reason, body⟩ := r
            obtain rfl : code = 200 := not_not.1 hcode
            exact .inr ⟨_, _, body, registry, rfl, hc, ⟨reason, hsite _ rfl⟩, hread, rfl, rfl,
              hsave, hsaved, rfl, rfl⟩

theorem fetched_of_download {c' : Client} {w' : World} (hh : w.tree.IsFolder w.tree.here)
    (h : c.download k w = (.ok (), c', w')) : ∃ bytes r, c.Fetched c' k w w' bytes r := by
  rcases download_cases c k w hh with ⟨e, v, hv, -⟩ | ⟨d, v, bytes, r, hv, hf⟩
  · cases hv.symm.trans h
  · cases hv.symm.trans h
    exact ⟨bytes, r, hf⟩

structure Orderly (c : Client) (t : Files.Tree) : Prop where
  ttl : c.cache.ttl = c.settings.ttl
  seen : ∀ k s, c.cache.seen? (Kind.file k) = some s → ∃ x, c.cache.content? t k.file = some x

/-- No file is there, or its last save is as long ago as files last. -/
def Due (c : Client) (t : Files.Tree) (k : Kind) (now : Files.Instant) : Prop :=
  ∀ bytes saved, c.cache.stored? t k.file = some (bytes, saved) →
    c.settings.ttl * second ≤ max 0 (now - saved)

theorem isExpired_iff {ttl : Nat} {now : Files.Instant} :
    isExpired ttl changed now = true ↔ ttl * second ≤ max 0 (now - changed) :=
  decide_eq_true_iff

theorem exists_of_not_due (ht : c.cache.ttl = c.settings.ttl) {t : Files.Tree}
    {now : Files.Instant} (h : ¬ c.Due t k now) : ∃ bytes saved,
      c.cache.stored? t k.file = some (bytes, saved) ∧
      isExpired c.cache.ttl saved now = false := by
  unfold Due at h
  push Not at h
  obtain ⟨bytes, saved, hs, hlt⟩ := h
  refine ⟨bytes, saved, hs, Bool.eq_false_iff.2 fun hx => ?_⟩
  have hle := isExpired_iff.1 hx
  rw [ht] at hle
  omega

theorem refresh_of_missing (hc : c.Orderly w.tree)
    (h : c.cache.stored? w.tree k.file = none) : (c.refresh k w).2 = c ∧
      ((c.refresh k w).1 = true ∨ c.freshness k w = .absent ∨ c.freshness k w = .expired) := by
  obtain ⟨e, he⟩ := reload_of_not_stored? h
  unfold refresh
  cases hf : c.freshness k w with
  | absent => simp [needsReload]
  | expired => simp [needsReload]
  | outdated => simp [needsReload, he]
  | good =>
    -- A folder would have to be there, in the place of a file that has been seen.
    exfalso
    by_cases hseen : c.cache.seen? k.file = none
    · exact freshness_ne_good hseen w.now hf
    · obtain ⟨t, ht⟩ := Option.ne_none_iff_exists'.1 hseen
      obtain ⟨x, hx⟩ := hc.seen k t ht
      have hne : c.cache.freshness w.tree k.file w.now ≠ .absent := by
        unfold Client.freshness at hf
        rw [hf]
        simp
      cases h.symm.trans (stored?_of_content? k.isPlain_file hx w.now hne)

theorem provide_of_due (hc : c.Orderly w.tree) (h : c.Due w.tree k w.now) :
    c.provide k w = c.download k w := by
  have hf : (c.refresh k w).2 = c ∧
      ((c.refresh k w).1 = true ∨ c.freshness k w = .absent ∨ c.freshness k w = .expired) := by
    cases hs : c.cache.stored? w.tree k.file with
    | some x =>
      obtain ⟨bytes, changed⟩ := x
      have hx : isExpired c.cache.ttl changed w.now = true := by
        rw [isExpired_iff, hc.ttl]
        exact h bytes changed hs
      rw [refresh_of_expired hs hx]
      exact ⟨rfl, .inr (.inr (freshness_of_expired hs hx))⟩
    | none => exact refresh_of_missing hc hs
  obtain ⟨hsame, hneed⟩ := hf
  unfold provide
  dsimp only
  rw [hsame, if_pos]
  rcases hneed with hneed | hneed | hneed <;> simp [hneed]

theorem provide_of_stored? (h : c.cache.stored? w.tree k.file = some (bytes, changed))
    (hx : isExpired c.cache.ttl changed w.now = false) : c.provide k w =
      if (c.refresh k w).1 || ((c.refresh k w).2.loaded k).isNone then
        (c.refresh k w).2.download k w
      else (.ok (), (c.refresh k w).2, w) := by
  have hf : c.freshness k w = .good ∨ c.freshness k w = .outdated :=
    (freshness_good_or_outdated h).2 hx
  unfold provide
  rcases hf with hf | hf <;> simp [hf]

theorem provide_of_current (h : c.cache.stored? w.tree k.file = some (bytes, changed))
    (hx : isExpired c.cache.ttl changed w.now = false) (hc : c.cache.Current k.file changed)
    (hl : c.loaded k ≠ none) : c.provide k w = (.ok (), c, w) := by
  rw [provide_of_stored? h hx, refresh_of_current h hx hc hl]
  simp [hl]

theorem provide_of_rejected (h : c.cache.stored? w.tree k.file = some (bytes, changed))
    (hx : isExpired c.cache.ttl changed w.now = false)
    (hn : ¬ c.cache.Current k.file changed ∨ c.loaded k = none) {e : Failure}
    (hr : Registry.read k bytes = .error e) :
    c.provide k w = (c.note k changed).download k w := by
  rw [provide_of_stored? h hx, refresh_of_news h hx hn, hr]
  rfl

theorem refresh_of_sound (h : c.cache.stored? w.tree k.file = some (bytes, changed))
    (hx : isExpired c.cache.ttl changed w.now = false) {r : Registry}
    (hr : Registry.read k bytes = .ok r) : (c.refresh k w).1 = false ∧
      ((c.refresh k w).2.loaded k = some r ∨
        c.cache.Current k.file changed ∧ (c.refresh k w).2 = c ∧ c.loaded k ≠ none) := by
  by_cases hn : ¬ c.cache.Current k.file changed ∨ c.loaded k = none
  · rw [refresh_of_news h hx hn, hr]
    exact ⟨rfl, .inl (install_same ..)⟩
  · obtain ⟨hc, hl⟩ := not_or.1 hn
    rw [refresh_of_current h hx (not_not.1 hc) hl]
    exact ⟨rfl, .inr ⟨not_not.1 hc, rfl, hl⟩⟩

theorem provide_of_sound (h : c.cache.stored? w.tree k.file = some (bytes, changed))
    (hx : isExpired c.cache.ttl changed w.now = false) {r : Registry}
    (hr : Registry.read k bytes = .ok r) : c.provide k w = (.ok (), (c.refresh k w).2, w) := by
  obtain ⟨hf, hl⟩ := refresh_of_sound h hx hr
  have hsome : (c.refresh k w).2.loaded k ≠ none := by
    rcases hl with hl | ⟨-, hc, hl⟩
    · simp [hl]
    · rw [hc]
      exact hl
  rw [provide_of_stored? h hx, hf, if_neg (by simpa using hsome)]

theorem provide_cases (c : Client) (k : Kind) (w : World) :
    c.provide k w = (.ok (), (c.refresh k w).2, w) ∨
    c.provide k w = (c.refresh k w).2.download k w := by
  unfold provide
  dsimp only
  split
  · exact .inr rfl
  · exact .inl rfl

end RdapDirectory.Client
