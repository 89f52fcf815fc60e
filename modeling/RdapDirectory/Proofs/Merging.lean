import RdapDirectory.Proofs.SettingSteps

namespace RdapDirectory.Settings

seal Duration.seconds?

theorem applyAll_partChange_fst (s : Sections) (ps : List Part) (c : Settings) :
    (applyAll (ps.map s.partChange).reduceOption c).1 =
      (ps.findSome? s.refusal?).elim (.ok ()) .error := by
  induction ps generalizing c with
  | nil => rfl
  | cons p rest ih =>
    rw [List.map_cons, Sections.applyAll_partChange, List.findSome?_cons]
    cases s.refusal? p with
    | some e => rfl
    | none => apply ih

namespace Sections

theorem apply_fst (s : Sections) (c : Settings) :
    (s.apply c).1 = (parts.findSome? s.refusal?).elim (.ok ()) .error := by
  rw [apply_eq_parts]
  apply applyAll_partChange_fst

theorem isReadable_iff {s : Sections} {c : Settings} : (s.apply c).1 = .ok () ↔ s.IsReadable := by
  constructor
  · intro h
    obtain ⟨hurl, httl, htimeout, -⟩ := apply_eq_ok.1 (Prod.ext h rfl : s.apply c = (_, _))
    exact ⟨hurl, httl, htimeout⟩
  · intro h
    rw [h.apply_eq]

theorem IsReadable.under {low high : Sections} (hl : low.IsReadable) (hh : high.IsReadable) :
    (low.under high).IsReadable := by
  constructor
  · rw [Sections.under, getD_merge_registry]
    apply forall_mem_either hh.baseUrl hl.baseUrl
  · rw [Sections.under, getD_merge_cache]
    apply forall_mem_either hh.ttl hl.ttl
  · rw [Sections.under, getD_merge_http]
    apply forall_mem_either hh.timeout hl.timeout

instance : Std.Associative RegistrySection.under where
  assoc _ _ _ := by simp [RegistrySection.under, Option.or_assoc]

instance : Std.Associative CacheSection.under where
  assoc _ _ _ := by simp [CacheSection.under, Option.or_assoc]

instance : Std.Associative HttpSection.under where
  assoc _ _ _ := by simp [HttpSection.under, Option.or_assoc]

theorem under_assoc (s t u : Sections) : (s.under t).under u = s.under (t.under u) := by
  simp only [under, Std.Associative.assoc]

theorem empty_under (s : Sections) : ({} : Sections).under s = s := by
  simp [under]

theorem under_empty (s : Sections) : s.under {} = s := by
  simp [under]

end Sections

theorem apply_under :
    (∀ (low high : Sections) (b b' c : Settings), (low.apply b).1 = .ok () →
      (high.apply b').1 = .ok () → ∃ d d', low.apply c = (.ok (), d) ∧
        high.apply d = (.ok (), d') ∧ (low.under high).apply c = (.ok (), d')) ∧
    (∀ s t u : Sections, (s.under t).under u = s.under (t.under u)) ∧
    (∀ s : Sections, ({} : Sections).under s = s ∧ s.under {} = s) ∧
    ∀ (s : Sections) (c d : Settings), (s.apply c).1 = (s.apply d).1 := by
  refine ⟨fun low high b b' c hb hb' => ?_, Sections.under_assoc, fun s => ?_, fun s c d => ?_⟩
  · have hlow : low.IsReadable := Sections.isReadable_iff.1 hb
    have hhigh : high.IsReadable := Sections.isReadable_iff.1 hb'
    refine ⟨_, _, hlow.apply_eq c, hhigh.apply_eq _, ?_⟩
    rw [(hlow.under hhigh).apply_eq, Sections.source_under hhigh]
  · exact ⟨s.empty_under, s.under_empty⟩
  · rw [s.apply_fst, s.apply_fst]

def sharedFile : Sections where
  cache := some { dir := some "/var/rdap", ttl := some "1h" }
  http := some { timeout := some "10s" }

def ownFile : Sections where
  registry := some { experiment := some true }
  cache := some { ttl := some "2h" }

theorem apply_under_own : (sharedFile.under ownFile).apply initial =
    (.ok (), { initial with
      cacheDir := some "/var/rdap", ttl := 7200, timeout := 10, experiment := true }) := by
  obtain ⟨hmerge, -, -, -⟩ := apply_under
  have hshared : (sharedFile.apply initial).1 = .ok () := by decide +kernel
  have hown : (ownFile.apply initial).1 = .ok () := by decide +kernel
  obtain ⟨d, d', hd, hd', hunder⟩ := hmerge _ _ _ _ initial hshared hown
  have htogether : (ownFile.apply (sharedFile.apply initial).2).2 = { initial with
      cacheDir := some "/var/rdap", ttl := 7200, timeout := 10, experiment := true } := by
    decide +kernel
  rw [hd, hd'] at htogether
  rw [hunder]
  exact congrArg (Prod.mk _) htogether

end RdapDirectory.Settings
