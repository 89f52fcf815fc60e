import RdapDirectory.Proofs.Precedence
import RdapDirectory.Proofs.UnreadTags

namespace RdapDirectory

open Files Cache
open Registry (Kind noServices)

namespace Command

open Client

variable {c : Client} {w : World} {registry : Option Kind} {a : Arguments}
  {e : Settings.Environment} {s : Settings}

theorem kind_of_registry? {x : Request.Subject} (h : x.registry? = some .serviceProvider) :
    x.kind = "entity" := by
  cases x with
  | entity => rfl
  | domain | system | nameserver | help | search => cases h
  | address a =>
    cases hf : a.family <;> simp [hf, Request.Subject.familyKind, Request.Subject.registry?] at h
  | network n =>
    cases hf : n.family <;> simp [hf, Request.Subject.familyKind, Request.Subject.registry?] at h

theorem detect_cases (q : String) :
    (∃ x, Request.detect q = .unplaced x) ∨ ∃ u, Request.detect q = .link u := by
  unfold Request.detect
  split
  · exact .inl ⟨_, rfl⟩
  · split
    · exact .inl ⟨_, rfl⟩
    · split
      · exact .inl ⟨_, rfl⟩
      · exact .inr ⟨_, rfl⟩

theorem ask_entity (hc : c.settings.experiment = false) {q : String} {w : World}
    (h : (ask c none q w).1.registry = some .serviceProvider) :
    (ask c none q w).1.result = .error (.serverNeeded "entity") := by
  have hregistry : Request.registry? (Request.detect q) = some .serviceProvider := h
  rcases detect_cases q with ⟨x, hx⟩ | ⟨u, hu⟩
  · rw [hx] at hregistry
    have hnone : c.registryFor? (.unplaced x) = none := by
      have hx' : Request.registry? (Request.unplaced x) = some .serviceProvider := hregistry
      simp [registryFor?, hx', hc]
    have hkind : (Request.unplaced x).kind = "entity" := kind_of_registry? hregistry
    simp [ask, hx, resolve, hnone, Request.url?, hkind]
  · rw [hu] at hregistry
    cases hregistry

theorem askEach_entity (hc : c.settings.experiment = false)
    (hr : registry ≠ some .serviceProvider) (queries : List String) :
    ∀ o ∈ (askEach c registry w queries).1, o.registry = some .serviceProvider →
      o.result = .error (.serverNeeded "entity") := by
  induction queries generalizing c w with
  | nil => exact nofun
  | cons q queries ih =>
    rw [askEach_cons]
    refine List.forall_mem_cons.2 ⟨fun ho => ?_, ?_⟩
    · cases registry with
      | some k => exact absurd ho hr
      | none => exact ask_entity hc ho
    · apply ih
      rw [(ask_blind (.refl w) hc hr q).settings_eq]
      exact hc

theorem settings_of_ready {v : World} (hd : a.download = false)
    (hs : settings a e w.tree = .ok s) (h : ready a e w = some (c, v)) : c.settings = s := by
  obtain ⟨d, notes, d', v', hclient, hdownload, hnames⟩ := ready_eq_some.1 h
  simp only [wanted_of_not_download hd, download, Prod.mk.injEq, true_and] at hdownload
  obtain ⟨-, rfl, rfl⟩ := hdownload
  have hsettings := settings_of_client hclient hs
  rcases hnames with ⟨-, rfl, rfl⟩ | ⟨-, ns, hn⟩
  · exact hsettings
  · have hkept := (names_blind (.refl w) d).settings_eq
    rw [hn] at hkept
    exact hkept.trans hsettings

end Command

namespace Client

def trying (c : Client) : Client := { c with settings := { c.settings with experiment := true } }

theorem download_trying (c : Client) (k : Kind) (w : World) : c.trying.download k w =
    ((c.download k w).1, (c.download k w).2.1.trying, (c.download k w).2.2) := by
  have hurl : c.trying.registryUrl k = c.registryUrl k := rfl
  have hcache : c.trying.cache = c.cache := rfl
  unfold download
  simp only [hurl, hcache]
  rcases w.get (c.registryUrl k) with ⟨_ | r, v⟩
  · rfl
  · dsimp only
    split
    · rfl
    · cases Registry.read k r.body with
      | error e => rfl
      | ok registry =>
        dsimp only
        rcases c.cache.save v.tree k.file r.body v.now with ⟨_ | _, cache, t⟩ <;> rfl

theorem refresh_trying (c : Client) (k : Kind) (w : World) :
    c.trying.refresh k w = ((c.refresh k w).1, (c.refresh k w).2.trying) := by
  have hneeds : ∀ f, c.trying.needsReload k f = c.needsReload k f := fun f => rfl
  have hfreshness : c.trying.freshness k w = c.freshness k w := rfl
  have hcache : c.trying.cache = c.cache := rfl
  unfold refresh reload
  rw [hneeds, hfreshness, hcache]
  split
  · rcases c.cache.load w.tree k.file with ⟨_ | bytes, cache⟩
    · rfl
    · dsimp only
      cases Registry.read k bytes <;> rfl
  · rfl

theorem provide_trying (c : Client) (k : Kind) (w : World) : c.trying.provide k w =
    ((c.provide k w).1, (c.provide k w).2.1.trying, (c.provide k w).2.2) := by
  have hfreshness : c.trying.freshness k w = c.freshness k w := rfl
  have hloaded : ∀ d : Client, d.trying.loaded k = d.loaded k := fun d => rfl
  unfold provide
  rw [refresh_trying, hfreshness]
  dsimp only
  rw [hloaded, download_trying]
  split <;> rfl

theorem lookup_trying (c : Client) (k : Kind) (query : String) (w : World) :
    c.trying.lookup k query w =
      ((c.lookup k query w).1, (c.lookup k query w).2.1.trying, (c.lookup k query w).2.2) := by
  rw [lookup_eq, lookup_eq, provide_trying]
  rcases c.provide k w with ⟨_ | _, d, v⟩ <;> rfl

theorem make_trying (s : Settings) (home : Option String) :
    make { s with experiment := true } home = (make s home).map trying := by
  have hparts : ∀ cache, withParts { s with experiment := true } cache =
      (withParts s cache).trying := fun cache => rfl
  unfold make
  simp only [hparts, bind, Except.bind, pure, Except.pure]
  split
  · rfl
  · split
    · rfl
    · cases s.cacheDir with
      | some d => rfl
      | none => cases usualFolder home <;> rfl

end Client

namespace Command

open Client

variable {a : Arguments} {e : Settings.Environment} {k : Kind}

theorem ask_trying (c : Client) (k : Kind) (q : String) (w : World) :
    ask c.trying (some k) q w =
      ((ask c (some k) q w).1, (ask c (some k) q w).2.1.trying, (ask c (some k) q w).2.2) := by
  unfold ask
  dsimp only
  rw [lookup_trying]

theorem askEach_trying (c : Client) (k : Kind) (w : World) (queries : List String) :
    askEach c.trying (some k) w queries = ((askEach c (some k) w queries).1,
      (askEach c (some k) w queries).2.1.trying, (askEach c (some k) w queries).2.2) := by
  induction queries generalizing c w with
  | nil => rfl
  | cons q queries ih =>
    unfold askEach
    rw [ask_trying]
    dsimp only
    rw [ih]

theorem names_trying (c : Client) (w : World) :
    names c.trying w = ((names c w).1, (names c w).2.1.trying, (names c w).2.2) := by
  have hprovide : provideNames c.trying w =
      ((provideNames c w).1, (provideNames c w).2.1.trying, (provideNames c w).2.2) := by
    have hloaded : ∀ d : Client, d.trying.loaded .dns = d.loaded .dns := fun d => rfl
    unfold provideNames
    rw [refresh_trying]
    dsimp only
    rw [hloaded, download_trying]
    split <;> rfl
  rw [names_eq, names_eq, hprovide]
  rcases provideNames c w with ⟨_ | _, d, v⟩
  · rfl
  · dsimp only
    rw [refresh_trying]
    rfl

theorem download_each_trying (c : Client) (w : World) (ks : List Kind) :
    download c.trying w ks = ((download c w ks).1, (download c w ks).2.1,
      (download c w ks).2.2.1.trying, (download c w ks).2.2.2) := by
  induction ks generalizing c w with
  | nil => rfl
  | cons k ks ih =>
    have hurl : ∀ d : Client, d.trying.registryUrl k = d.registryUrl k := fun d => rfl
    unfold download
    rw [download_trying]
    rcases c.download k w with ⟨_ | _, d, v⟩
    · rfl
    · dsimp only
      rw [ih, hurl]

theorem answerAll_trying (hk : a.registry = some k) (c : Client) (w : World) :
    answerAll { a with experiment := true } c.trying w = answerAll a c w := by
  unfold answerAll
  simp only [hk, askEach_trying]

theorem listAndAnswer_trying (hk : a.registry = some k) (c : Client) (w : World) :
    listAndAnswer { a with experiment := true } c.trying w = listAndAnswer a c w := by
  unfold listAndAnswer
  rw [names_trying]
  dsimp only
  split
  · exact answerAll_trying hk c w
  · rcases names c w with ⟨_ | ns, d, v⟩
    · rfl
    · dsimp only
      rw [answerAll_trying hk]

theorem runClient_trying (hk : a.registry = some k) (c : Client) (w : World) :
    runClient { a with experiment := true } c.trying w = runClient a c w := by
  have hwanted : wanted { a with experiment := true } = wanted a := rfl
  unfold runClient
  rw [hwanted, download_each_trying]
  rcases download c w (wanted a) with ⟨notes, _ | _, d, v⟩
  · rfl
  · dsimp only
    rw [listAndAnswer_trying hk]

theorem settings_trying (a : Arguments) (e : Settings.Environment) (t : Tree) :
    settings { a with experiment := true } e t =
      (settings a e t).map ({ · with experiment := true }) := by
  have happly : ∀ c, Arguments.apply { a with experiment := true } c =
      (a.apply c).map ({ · with experiment := true }) := by
    intro c
    have hrefusal : Arguments.refusal? { a with experiment := true } = a.refusal? := rfl
    rw [Arguments.apply_eq, Arguments.apply_eq, hrefusal]
    cases a.refusal? <;> rfl
  have hsections : sections { a with experiment := true } e.overrides e t =
      sections a e.overrides e t := rfl
  unfold settings
  simp only [hsections, happly, bind, Except.bind]
  cases sections a e.overrides e t with
  | error f => rfl
  | ok x =>
    dsimp only
    rcases x.apply .initial with ⟨_ | _, c⟩ <;> rfl

theorem run_trying (hk : a.registry = some k) (e : Settings.Environment) (w : World) :
    run { a with experiment := true } e w = run a e w := by
  have hclient : client { a with experiment := true } e w.tree =
      (client a e w.tree).map trying := by
    have hvalid : Arguments.isValid { a with experiment := true } = a.isValid := rfl
    unfold client
    rw [hvalid, settings_trying]
    simp only [bind, Except.bind]
    split
    · rfl
    · cases settings a e w.tree with
      | error f => rfl
      | ok s =>
        simp only [Except.map, make_trying]
        cases make s e.home <;> rfl
  unfold run
  rw [hclient]
  cases client a e w.tree with
  | error f => rfl
  | ok c => exact runClient_trying hk c w

/-- With the experiment off, a run that guesses what it is asked for, or is told another registry,
neither asks for provider tags nor learns of them from files. A run that is told their registry
uses it all the same. -/
theorem switch_gates_guesses {a : Arguments} {e : Settings.Environment} {w : World} {s : Settings}
    (hs : settings a e w.tree = .ok s) (hexp : s.experiment = false) (hd : a.download = false) :
    (a.registry ≠ some .serviceProvider →
      (∃ urls, (run a e w).2.asked = w.asked ++ urls ∧ ∀ url ∈ urls, ¬ OfProviders url) ∧
      (∀ os, outcomes a e w = some os → ∀ o ∈ os, o.registry = some .serviceProvider →
        o.result = .error (.serverNeeded "entity")) ∧
      ∀ w', w.Twin w' → settings a e w'.tree = .ok s →
        (run a e w').1 = (run a e w).1 ∧ outcomes a e w' = outcomes a e w) ∧
    (a.registry = some .serviceProvider → run { a with experiment := true } e w = run a e w) := by
  refine ⟨fun hr => ⟨?_, ?_, fun w' hw hs' => ⟨?_, ?_⟩⟩, fun hr => run_trying hr e w⟩
  · exact (run_same (.refl w) hs hs hexp hd hr).quiet
  · intro os hos
    obtain ⟨⟨c, v⟩, hready, rfl⟩ := Option.map_eq_some_iff.1 hos
    have hc : c.settings.experiment = false := settings_of_ready hd hs hready ▸ hexp
    exact askEach_entity hc hr a.queries
  · exact (run_same hw hs hs' hexp hd hr).transcript
  · exact outcomes_same hw hs hs' hexp hd hr

def tagServers : List UInt8 :=
  Text.octetsOf "\x7b\"services\":[[[\"VRSN\"],[\"https://rdap.example/\"]]]\x7d".toList

def tagged (bytes : List UInt8) : World where
  tree := Tree.put ⟨[([], .folder 0), (["x"], .folder 0)], []⟩ ["service_provider.json", "x"]
    (.file bytes 0)
  now := 1
  site url :=
    if OfProviders url then { result := some (.ok ⟨200, "OK", bytes⟩) }
    else { result := some (.ok ⟨404, "Not Found", []⟩) }

theorem tagged_twin (bytes bytes' : List UInt8) : (tagged bytes).Twin (tagged bytes') := by
  refine ⟨(Tree.Twin.refl _ _).put_files (by decide) bytes bytes' 0 0, rfl, rfl, rfl, ?_⟩
  intro url hu
  simp only [tagged, if_neg hu]

def entityQuery : Arguments := { cacheDir := some "x", queries := ["12345-VRSN"] }

theorem guessed_entity_fails : ∃ o,
    outcomes entityQuery ⟨none, []⟩ (tagged tagServers) = some [o] ∧
      o.result = .error (.serverNeeded "entity") ∧
      outcomes entityQuery ⟨none, []⟩ (tagged noServices) = some [o] := by
  have hsettings : ∀ bytes, bytes = tagServers ∨ bytes = noServices →
      settings entityQuery ⟨none, []⟩ (tagged bytes).tree =
        .ok { Settings.initial with cacheDir := some "x" } := by
    rintro bytes (rfl | rfl) <;> decide +kernel
  have hregistry : (outcomes entityQuery ⟨none, []⟩ (tagged tagServers)).map
      (·.map Outcome.registry) = some [some .serviceProvider] := by
    decide +kernel
  obtain ⟨os, hos, hone⟩ := Option.map_eq_some_iff.1 hregistry
  obtain ⟨o, rfl, ho⟩ := List.map_eq_singleton_iff.1 hone
  have hwrong := switch_gates_guesses (hsettings _ (.inl rfl)) rfl rfl
  obtain ⟨-, hfails, hblind⟩ := hwrong.1 (by decide)
  obtain ⟨-, hsame⟩ := hblind _ (tagged_twin tagServers noServices) (hsettings _ (.inr rfl))
  exact ⟨o, hos, hfails _ hos o List.mem_cons_self ho, hsame.trans hos⟩

theorem named_registry_is_asked :
    let a := { entityQuery with registry := some .serviceProvider, noDiskCache := true }
    (settings a ⟨none, []⟩ (tagged tagServers).tree).map (·.experiment) = .ok false ∧
    (run a ⟨none, []⟩ (tagged tagServers)).2.asked =
      ["https://www.openrdap.org/rdap/service_provider.json"] ∧
    (run a ⟨none, []⟩ (tagged tagServers)).1.output =
      ["  12345-VRSN                      FOUND  [service_provider]  VRSN",
        "      https://rdap.example/"] := by
  decide +kernel

end Command

end RdapDirectory
