import RdapDirectory.Proofs.Batches
import RdapDirectory.Proofs.HiddenFiles

/-!
Runs with the experiment off. They do not ask for provider tags, and what files and servers have of
them makes no difference.
-/

namespace RdapDirectory

open Files Cache
open Registry (Kind)

namespace Client

def OfProviders (url : String) : Prop := Kind.serviceProvider.file.toList <:+ url.toList

instance (url : String) : Decidable (OfProviders url) := inferInstanceAs (Decidable (_ <:+ _))

theorem not_ofProviders (c : Client) {k : Kind} (hk : k ≠ .serviceProvider) :
    ¬ OfProviders (c.registryUrl k) := by
  have hended : ∀ b : String, ∃ base : String,
      (if b.toList.getLast? = some '/' then b ++ k.file else b ++ "/" ++ k.file) =
        base ++ k.file := by
    intro b
    split <;> exact ⟨_, rfl⟩
  obtain ⟨base, hbase⟩ : ∃ base : String, c.registryUrl k = base ++ k.file := hended _
  intro h
  unfold OfProviders at h
  rw [hbase, String.toList_append] at h
  have hshort : k.file.toList.length ≤ Kind.serviceProvider.file.toList.length := by
    cases k <;> decide
  have hsuffix := List.suffix_of_suffix_length_le (List.suffix_append _ _) h hshort
  cases k with
  | serviceProvider => exact hk rfl
  | dns | ipv4 | ipv6 | asn => exact absurd hsuffix (by decide)

/-- Worlds that differ at most in provider tags: in files of them, and in what servers have. -/
structure World.Twin (w w' : World) : Prop where
  tree : w.tree.Twin Kind.serviceProvider.file w'.tree
  now : w'.now = w.now
  cancelled : w'.cancelled = w.cancelled
  asked : w'.asked = w.asked
  site : ∀ url, ¬ OfProviders url → w'.site url = w.site url

theorem World.Twin.refl (w : World) : w.Twin w := ⟨.refl _ _, rfl, rfl, rfl, fun _ _ => rfl⟩

def Quiet (w v : World) : Prop :=
  ∃ urls, v.asked = w.asked ++ urls ∧ ∀ url ∈ urls, ¬ OfProviders url

theorem Quiet.refl (w : World) : Quiet w w := ⟨[], (List.append_nil _).symm, nofun⟩

theorem Quiet.trans {w v x : World} (h : Quiet w v) (h' : Quiet v x) : Quiet w x := by
  obtain ⟨urls, ha, hu⟩ := h
  obtain ⟨urls', ha', hu'⟩ := h'
  refine ⟨urls ++ urls', by rw [ha', ha, List.append_assoc], fun url hin => ?_⟩
  rcases List.mem_append.1 hin with hin | hin
  · exact hu url hin
  · exact hu' url hin

inductive Blind {α : Type} (c : Client) (w : World) :
    α × Client × World → α × Client × World → Prop
  | mk (a : α) {c' : Client} {v v' : World} (hs : c'.settings = c.settings) (hv : v.Twin v')
    (hq : Quiet w v) : Blind c w (a, c', v) (a, c', v')

namespace Blind

variable {α β : Type} {c : Client} {w w' : World}

theorem same (a : α) (h : w.Twin w') : Blind c w (a, c, w) (a, c, w') :=
  ⟨a, rfl, h, .refl w⟩

theorem fst_eq {x x' : α × Client × World} (h : Blind c w x x') : x'.1 = x.1 := by
  cases h
  rfl

theorem settings_eq {x x' : α × Client × World} (h : Blind c w x x') :
    x.2.1.settings = c.settings := by
  cases h
  assumption

theorem next {c' : Client} {v : World} (hs : c'.settings = c.settings) (hq : Quiet w v)
    {x x' : α × Client × World} (h : Blind c' v x x') : Blind c w x x' := by
  cases h with
  | mk b hs' hv hq' => exact ⟨b, hs'.trans hs, hv, hq.trans hq'⟩

theorem of_settings {c' : Client} (hs : c'.settings = c.settings) {x x' : α × Client × World}
    (h : Blind c' w x x') : Blind c w x x' :=
  h.next hs (.refl w)

end Blind

variable {c : Client} {w w' : World} {k : Kind}

theorem World.Twin.get (h : w.Twin w') {url : String} (hu : ¬ OfProviders url) :
    (w'.get url).1 = (w.get url).1 ∧ (w.get url).2.Twin (w'.get url).2 ∧
      Quiet w (w.get url).2 := by
  unfold World.get
  rw [h.cancelled, h.site url hu]
  split
  · exact ⟨rfl, h, .refl w⟩
  · have hasked : w'.asked ++ [url] = w.asked ++ [url] := by rw [h.asked]
    dsimp only
    cases (w.site url).result with
    | none =>
      exact ⟨rfl, ⟨h.tree, h.now, rfl, hasked, h.site⟩, [url], rfl, by simpa⟩
    | some r =>
      exact ⟨rfl, ⟨h.tree, h.now, rfl, hasked, h.site⟩, [url], rfl, by simpa⟩

theorem file_ne (hk : k ≠ .serviceProvider) : k.file ≠ Kind.serviceProvider.file :=
  fun he => hk (Kind.file_inj.1 he)

theorem download_blind (h : w.Twin w') (c : Client) (hk : k ≠ .serviceProvider) :
    Blind c w (c.download k w) (c.download k w') := by
  have hprovider : ¬ IsTemporary Kind.serviceProvider.file := by decide
  have hurl := c.not_ofProviders hk
  obtain ⟨hresult, hv, hq⟩ := h.get hurl
  unfold download
  dsimp only
  generalize w.get (c.registryUrl k) = x at hresult hv hq ⊢
  generalize w'.get (c.registryUrl k) = x' at hresult hv ⊢
  obtain ⟨r, v⟩ := x
  obtain ⟨r', v'⟩ := x'
  obtain rfl : r' = r := hresult
  cases r' with
  | error e => exact ⟨_, rfl, hv, hq⟩
  | ok response =>
    dsimp only at hv hq ⊢
    split
    · exact ⟨_, rfl, hv, hq⟩
    · cases Registry.read k response.body with
      | error e => exact ⟨_, rfl, hv, hq⟩
      | ok registry =>
        obtain ⟨hsaved, hcache, htree⟩ :=
          c.cache.save_twin hv.tree hprovider k.isPlain_file (file_ne hk) response.body v.now
        dsimp only
        have hnow : v'.now = v.now := hv.now
        rw [hnow]
        generalize c.cache.save v.tree k.file response.body v.now = y at hsaved hcache htree ⊢
        generalize c.cache.save v'.tree k.file response.body v.now = y' at hsaved hcache htree ⊢
        obtain ⟨s, cache, t⟩ := y
        obtain ⟨s', cache', t'⟩ := y'
        obtain rfl : s' = s := hsaved
        obtain rfl : cache' = cache := hcache
        cases s' <;>
          exact ⟨_, rfl, ⟨htree, rfl, hv.cancelled, hv.asked, hv.site⟩, hq⟩

theorem freshness_twin (h : w.Twin w') (c : Client) (hk : k ≠ .serviceProvider) :
    c.freshness k w' = c.freshness k w := by
  unfold freshness
  rw [h.now, c.cache.freshness_twin h.tree k.isPlain_file (file_ne hk)]

theorem refresh_twin (h : w.Twin w') (c : Client) (hk : k ≠ .serviceProvider) :
    c.refresh k w' = c.refresh k w := by
  unfold refresh reload
  rw [freshness_twin h c hk, c.cache.load_twin h.tree k.isPlain_file (file_ne hk)]

theorem provide_blind (h : w.Twin w') (c : Client) (hk : k ≠ .serviceProvider) :
    Blind c w (c.provide k w) (c.provide k w') := by
  have hs := (refresh_kept c k w).settings
  unfold provide
  rw [freshness_twin h c hk, refresh_twin h c hk]
  generalize c.refresh k w = x at hs ⊢
  obtain ⟨failed, d⟩ := x
  dsimp only at hs ⊢
  split
  · exact (download_blind h d hk).of_settings hs
  · exact (Blind.same _ h).of_settings hs

theorem lookup_blind (h : w.Twin w') (c : Client) (hk : k ≠ .serviceProvider) (query : String) :
    Blind c w (c.lookup k query w) (c.lookup k query w') := by
  have hb := provide_blind h c hk
  rw [lookup_eq, lookup_eq]
  generalize c.provide k w = x at hb ⊢
  generalize c.provide k w' = x' at hb ⊢
  cases hb with
  | mk a hs hv hq => cases a <;> exact ⟨_, hs, hv, hq⟩

theorem registryFor?_ne (hc : c.settings.experiment = false) (r : Request) :
    c.registryFor? r ≠ some .serviceProvider := by
  unfold registryFor?
  rw [hc]
  split
  · nofun
  · assumption

theorem resolve_blind (h : w.Twin w') (hc : c.settings.experiment = false) (r : Request) :
    Blind c w (c.resolve r w) (c.resolve r w') := by
  have hne := registryFor?_ne hc r
  unfold resolve
  cases r.url? with
  | some u => exact .same _ h
  | none =>
    cases hk : c.registryFor? r with
    | none => exact .same _ h
    | some k =>
      have hb := lookup_blind h c (fun he => hne (he ▸ hk)) r.text
      dsimp only
      generalize c.lookup k r.text w = x at hb ⊢
      generalize c.lookup k r.text w' = x' at hb ⊢
      cases hb with
      | mk a hs hv hq => cases a <;> exact ⟨_, hs, hv, hq⟩

end Client

namespace Command

open Client

variable {c : Client} {w w' : World} {registry : Option Kind}

theorem ask_blind (h : w.Twin w') (hc : c.settings.experiment = false)
    (hr : registry ≠ some .serviceProvider) (query : String) :
    Blind c w (ask c registry query w) (ask c registry query w') := by
  cases registry with
  | some k =>
    have hb := lookup_blind h c (fun he => hr (congrArg some he)) query
    unfold ask
    dsimp only
    generalize c.lookup k query w = x at hb ⊢
    generalize c.lookup k query w' = x' at hb ⊢
    cases hb with
    | mk a hs hv hq => exact ⟨_, hs, hv, hq⟩
  | none =>
    have hb := resolve_blind h hc (Request.detect query)
    unfold ask
    dsimp only
    generalize c.resolve (Request.detect query) w = x at hb ⊢
    generalize c.resolve (Request.detect query) w' = x' at hb ⊢
    cases hb with
    | mk a hs hv hq => exact ⟨_, hs, hv, hq⟩

theorem askEach_blind (h : w.Twin w') (hc : c.settings.experiment = false)
    (hr : registry ≠ some .serviceProvider) (queries : List String) :
    Blind c w (askEach c registry w queries) (askEach c registry w' queries) := by
  induction queries generalizing c w w' with
  | nil => exact .same _ h
  | cons q queries ih =>
    have hb := ask_blind h hc hr q
    unfold askEach
    generalize ask c registry q w = x at hb ⊢
    generalize ask c registry q w' = x' at hb ⊢
    cases hb with
    | @mk o d v v' hs hv hq =>
      have hrest := ih hv (hs ▸ hc)
      dsimp only
      generalize askEach d registry v queries = y at hrest ⊢
      generalize askEach d registry v' queries = y' at hrest ⊢
      cases hrest with
      | mk os hs' hv' hq' => exact Blind.next hs hq ⟨o :: os, hs', hv', hq'⟩

def provideNames (c : Client) (w : World) : Except Failure Unit × Client × World :=
  let d := (c.refresh .dns w).2
  if (d.loaded .dns).isNone then d.download .dns w else (.ok (), d, w)

theorem names_eq (c : Client) (w : World) : names c w = match provideNames c w with
    | (.error e, c, w) => (.error e, c, w)
    | (.ok (), c, w) =>
      (.ok (namesOf ((c.refresh .dns w).2.loaded .dns)), (c.refresh .dns w).2, w) := by
  unfold names provideNames Client.registry
  cases hd : ((c.refresh .dns w).2.loaded .dns).isNone with
  | true =>
    simp only [hd, if_true]
    rcases (c.refresh .dns w).2.download .dns w with ⟨_ | _, d, v⟩ <;> rfl
  | false => simp only [hd, Bool.false_eq_true, if_false]

theorem provideNames_blind (h : w.Twin w') (c : Client) :
    Blind c w (provideNames c w) (provideNames c w') := by
  have hdns : Kind.dns ≠ .serviceProvider := by decide
  have hs := (refresh_kept c .dns w).settings
  unfold provideNames
  rw [refresh_twin h c hdns]
  dsimp only
  split
  · exact (download_blind h _ hdns).of_settings hs
  · exact (Blind.same _ h).of_settings hs

theorem names_blind (h : w.Twin w') (c : Client) : Blind c w (names c w) (names c w') := by
  have hdns : Kind.dns ≠ .serviceProvider := by decide
  have hb := provideNames_blind h c
  rw [names_eq, names_eq]
  generalize provideNames c w = x at hb ⊢
  generalize provideNames c w' = x' at hb ⊢
  cases hb with
  | @mk a d v v' hs hv hq =>
    cases a with
    | error e => exact ⟨_, hs, hv, hq⟩
    | ok =>
      dsimp only
      rw [refresh_twin hv d hdns]
      exact ⟨_, (refresh_kept d .dns v).settings.trans hs, hv, hq⟩

variable {a : Arguments} {e : Settings.Environment} {s : Settings}

structure SameRun (w : World) (x x' : Transcript × World) : Prop where
  transcript : x'.1 = x.1
  quiet : Quiet w x.2

theorem SameRun.next {w v : World} (hq : Quiet w v) {x x' : Transcript × World}
    (h : SameRun v x x') : SameRun w x x' :=
  ⟨h.transcript, hq.trans h.quiet⟩

theorem answerAll_same (h : w.Twin w') (hc : c.settings.experiment = false)
    (hr : a.registry ≠ some .serviceProvider) :
    SameRun w (answerAll a c w) (answerAll a c w') := by
  unfold answerAll
  split
  · exact ⟨rfl, .refl w⟩
  · have hb := askEach_blind h hc hr a.queries
    dsimp only
    generalize askEach c a.registry w a.queries = x at hb ⊢
    generalize askEach c a.registry w' a.queries = x' at hb ⊢
    cases hb with
    | mk os hs hv hq => exact ⟨rfl, hq⟩

theorem listAndAnswer_same (h : w.Twin w') (hc : c.settings.experiment = false)
    (hr : a.registry ≠ some .serviceProvider) :
    SameRun w (listAndAnswer a c w) (listAndAnswer a c w') := by
  unfold listAndAnswer
  split
  · exact answerAll_same h hc hr
  · have hb := names_blind h c
    generalize names c w = x at hb ⊢
    generalize names c w' = x' at hb ⊢
    cases hb with
    | @mk ns d v v' hs hv hq =>
      cases ns with
      | error f => exact ⟨rfl, hq⟩
      | ok ns =>
        obtain ⟨htranscript, hq'⟩ := (answerAll_same hv (hs ▸ hc) hr).next hq
        refine ⟨?_, hq'⟩
        dsimp only at htranscript ⊢
        rw [htranscript]

theorem settings_of_make {s : Settings} {home : Option String} {c : Client}
    (h : make s home = .ok c) : c.settings = s := by
  unfold make at h
  simp only [bind, Except.bind, pure, Except.pure] at h
  split at h
  · cases h
  · split at h
    · cases h
      rfl
    · cases hd : s.cacheDir with
      | some d =>
        simp only [hd] at h
        cases h
        rfl
      | none =>
        simp only [hd] at h
        split at h <;> cases h
        rfl

theorem settings_of_client {t : Tree} (hc : client a e t = .ok c) (hs : settings a e t = .ok s) :
    c.settings = s := by
  unfold client at hc
  simp only [hs, bind, Except.bind] at hc
  split at hc
  · cases hc
  · cases hm : make s e.home with
    | error f =>
      rw [hm] at hc
      cases hc
    | ok d =>
      rw [hm] at hc
      obtain rfl := Except.ok.inj hc
      exact settings_of_make hm

theorem wanted_of_not_download (hd : a.download = false) : wanted a = [] := by
  simp [wanted, hd]

theorem run_same (h : w.Twin w') (hs : settings a e w.tree = .ok s)
    (hs' : settings a e w'.tree = .ok s) (hexp : s.experiment = false) (hd : a.download = false)
    (hr : a.registry ≠ some .serviceProvider) : SameRun w (run a e w) (run a e w') := by
  have hclient : client a e w'.tree = client a e w.tree := by simp only [client, hs, hs']
  unfold run
  rw [hclient]
  cases hc : client a e w.tree with
  | error f => exact ⟨rfl, .refl w⟩
  | ok c =>
    have hexperiment : c.settings.experiment = false := settings_of_client hc hs ▸ hexp
    obtain ⟨htranscript, hq⟩ := listAndAnswer_same h hexperiment hr
    simp only [runClient, wanted_of_not_download hd, download]
    exact ⟨by rw [htranscript], hq⟩

theorem outcomes_same (h : w.Twin w') (hs : settings a e w.tree = .ok s)
    (hs' : settings a e w'.tree = .ok s) (hexp : s.experiment = false) (hd : a.download = false)
    (hr : a.registry ≠ some .serviceProvider) : outcomes a e w' = outcomes a e w := by
  have hclient : client a e w'.tree = client a e w.tree := by simp only [client, hs, hs']
  unfold outcomes ready
  rw [hclient]
  cases hc : client a e w.tree with
  | error f => rfl
  | ok c =>
    have hexperiment : c.settings.experiment = false := settings_of_client hc hs ▸ hexp
    simp only [wanted_of_not_download hd, download]
    cases a.listNames with
    | false => exact congrArg some (askEach_blind h hexperiment hr a.queries).fst_eq
    | true =>
      have hb := names_blind h c
      simp only [Bool.not_true, Bool.false_eq_true, if_false]
      generalize names c w = x at hb ⊢
      generalize names c w' = x' at hb ⊢
      cases hb with
      | mk ns hset hv hq =>
        cases ns with
        | error f => rfl
        | ok ns =>
          exact congrArg some (askEach_blind hv (hset ▸ hexperiment) hr a.queries).fst_eq

end Command

end RdapDirectory
