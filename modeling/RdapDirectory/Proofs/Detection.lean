import RdapDirectory.Proofs.AddressTexts
import RdapDirectory.Proofs.Registries
import RdapDirectory.Request.Basic

namespace RdapDirectory

open Text

namespace Registry

theorem exists_networks {reg : Registry} {f : Ip.Family}
    (h : reg.kind = Request.Subject.familyKind f) : ∃ n, reg = .networks n ∧ n.family = f := by
  cases reg with
  | networks n =>
    refine ⟨n, rfl, ?_⟩
    unfold kind at h
    cases hn : n.family <;> cases f <;> simp [hn, Request.Subject.familyKind] at h ⊢
  | domains | systems | tags => cases f <;> cases h

theorem exists_systems {reg : Registry} (h : reg.kind = .asn) : ∃ s, reg = .systems s := by
  cases reg with
  | systems s => exact ⟨s, rfl⟩
  | networks n =>
    unfold kind at h
    cases hn : n.family <;> simp [hn] at h
  | domains | tags => cases h

namespace Networks

def covering? (n : Networks) (b : Ip.Block) : Option Holding :=
  (n.buckets.filter (·.length ≤ b.length)).findSome? (·.find? b.first)

def answer (text : String) : Option Holding → Answer
  | some h => ⟨text, h.network.text, h.urls⟩
  | none => .noMatch text

theorem lookup_eq {n : Networks} {query text : String} {b : Ip.Block}
    (hw : written query = .ok text) (hb : Ip.Block.read? text.toList = some b)
    (hf : b.family = n.family) : n.lookup query = .ok (answer text (n.covering? b)) := by
  have hblock : block? text = .ok b := by
    unfold block?
    rw [hb]
  unfold lookup
  simp only [hw, hblock, hf, bind, Except.bind, ne_eq, not_true_eq_false, if_false]
  cases hc : n.covering? b <;> simp only [covering?] at hc <;> rw [hc] <;> rfl

theorem written_of_slash {query : String} (h : '/' ∈ query.toList) : written query = .ok query := by
  unfold written
  simp [h]

theorem written_of_address {query : String} {a : Ip.Address}
    (h : Ip.Address.read? query.toList = some a) :
    written query = .ok (query ++ "/" ++ .ofList (decimalDigits a.family.width)) := by
  have hslash := Ip.Address.slash_not_mem_of_read? h
  unfold written
  simp [hslash, h]

theorem read?_full {query : String} {a : Ip.Address} (h : Ip.Address.read? query.toList = some a) :
    Ip.Block.read? (query ++ "/" ++ .ofList (decimalDigits a.family.width)).toList =
      some (.single a) := by
  have htext : (query ++ "/" ++ .ofList (decimalDigits a.family.width)).toList =
      query.toList ++ '/' :: decimalDigits a.family.width := by simp
  rw [htext]
  exact Ip.Block.read?_append h (Nat.le_refl _)

theorem lookup_address {n : Networks} {query : String} {a : Ip.Address}
    (h : Ip.Address.read? query.toList = some a) (hf : a.family = n.family) :
    ∃ text, n.lookup query = .ok (answer text (n.covering? (.single a))) :=
  ⟨_, lookup_eq (written_of_address h) (read?_full h) hf⟩

theorem slash_mem_of_read? {text : String} {b : Ip.Block}
    (h : Ip.Block.read? text.toList = some b) : '/' ∈ text.toList := by
  obtain ⟨as, ls, htext, -⟩ := Ip.Block.read?_eq_some.1 h
  simp [htext]

theorem lookup_block {n : Networks} {query : String} {b : Ip.Block}
    (h : Ip.Block.read? query.toList = some b) (hf : b.family = n.family) :
    n.lookup query = .ok (answer query (n.covering? b)) := by
  exact lookup_eq (written_of_slash (slash_mem_of_read? h)) h hf

theorem covering?_truncate (n : Networks) (b : Ip.Block) :
    n.covering? b.truncate = n.covering? b := by
  have hfirst : b.truncate.first = b.first :=
    congrArg (fun x : Ip.Block => x.address.value) b.truncate_truncate
  unfold covering?
  rw [hfirst]
  rfl

theorem answer_same (s t : String) (h : Option Holding) :
    (answer s h).entry = (answer t h).entry ∧ (answer s h).urls = (answer t h).urls := by
  cases h <;> exact ⟨rfl, rfl⟩

end Networks

namespace Systems

theorem number?_systemText (n : SystemNumber) : number? (systemText n) = .ok n := by
  have hnumeral : numeral (decimalDigits n) = decimalDigits n := by
    have hdigit : ∀ c ∈ decimalDigits n, isDigit c = true := fun c => isDigit_of_mem_decimalDigits
    unfold numeral
    split
    all_goals
      first
      | rfl
      | (rename_i he
         rw [he] at hdigit
         exact absurd (hdigit _ (List.mem_cons_self ..)) (by decide))
  have hvalue : decimal? (numeral (systemText n).toList) = some n.val := by
    rw [systemText, String.toList_ofList, hnumeral, decimal?_decimalDigits]
  unfold number?
  rw [hvalue]
  simp only [n.isLt, dite_true]

theorem lookup_ok (s : Systems) {query : String} {n : SystemNumber} (h : number? query = .ok n) :
    s.lookup query = s.lookup (systemText n) := by
  unfold lookup
  rw [h, number?_systemText]

theorem exists_lookup (s : Systems) {query : String} {n : SystemNumber}
    (h : number? query = .ok n) : ∃ a, s.lookup query = .ok a := by
  cases hl : s.lookup query with
  | ok a => exact ⟨a, rfl⟩
  | error e =>
    unfold lookup at hl
    rw [h] at hl
    rcases error_of_bind hl with hn | ⟨m, -, hm⟩
    · cases hn
    · dsimp only at hm
      split at hm
      · split at hm <;> cases hm
      · cases hm

end Systems

def LooksUpAlike (reg : Registry) (s t : String) : Prop :=
  ∃ a b, reg.lookup s = .ok a ∧ reg.lookup t = .ok b ∧ a.entry = b.entry ∧ a.urls = b.urls

end Registry

namespace Request

open Registry

theorem detect_of_not_web {s : String} (h : ∀ u, Url.read s = .ok u → u.isWeb = false) :
    detect s = unplaced (subjectOf s) := by
  unfold detect
  cases hu : Url.read s with
  | error e => rfl
  | ok u => simp [h u hu]

theorem subjectOf_cases (s : String) :
    (∃ a, Ip.Address.read? s.toList = some a ∧ subjectOf s = .address a) ∨
    (∃ b, Ip.Block.read? s.toList = some b ∧ subjectOf s = .network b.network) ∨
    (∃ n, Systems.number? s = .ok n ∧ subjectOf s = .system n) ∨
    subjectOf s = .domain s ∨ subjectOf s = .entity s := by
  unfold subjectOf
  dsimp only
  split
  · rename_i a ha
    exact .inl ⟨a, ha, rfl⟩
  · rename_i b hb _
    exact .inr (.inl ⟨b, hb, rfl⟩)
  · rename_i n hn _ _
    exact .inr (.inr (.inl ⟨n, hn, rfl⟩))
  · split
    · exact .inr (.inr (.inr (.inl rfl)))
    · exact .inr (.inr (.inr (.inr rfl)))

theorem looksUpAlike_address {reg : Registry} {s : String} {a : Ip.Address}
    (ha : Ip.Address.read? s.toList = some a)
    (hk : reg.kind = Subject.familyKind a.family) : reg.LooksUpAlike s a.text := by
  obtain ⟨n, rfl, hn⟩ := exists_networks hk
  have htext : Ip.Address.read? a.text.toList = some a := by
    rw [Ip.Address.text, String.toList_ofList, Ip.Address.read?_write]
  obtain ⟨t, ht⟩ := Networks.lookup_address ha hn.symm
  obtain ⟨t', ht'⟩ := Networks.lookup_address htext hn.symm
  exact ⟨_, _, ht, ht', Networks.answer_same t t' _⟩

theorem looksUpAlike_network {reg : Registry} {s : String} {b : Ip.Block}
    (hb : Ip.Block.read? s.toList = some b)
    (hk : reg.kind = Subject.familyKind b.family) : reg.LooksUpAlike s b.network.text := by
  obtain ⟨n, rfl, hn⟩ := exists_networks hk
  have htext : Ip.Block.read? b.network.text.toList = some b.truncate := by
    rw [Ip.Block.text, String.toList_ofList, Ip.Block.read?_write]
    rfl
  have hlower := Networks.lookup_block htext hn.symm
  rw [Networks.covering?_truncate] at hlower
  exact ⟨_, _, Networks.lookup_block hb hn.symm, hlower, Networks.answer_same ..⟩

theorem looksUpAlike_system {reg : Registry} {s : String} {n : SystemNumber}
    (hn : Systems.number? s = .ok n) (hk : reg.kind = .asn) :
    reg.LooksUpAlike s (systemText n) := by
  obtain ⟨r, rfl⟩ := exists_systems hk
  obtain ⟨a, ha⟩ := r.exists_lookup hn
  exact ⟨a, a, ha, (r.lookup_ok hn).symm.trans ha, rfl, rfl⟩

theorem looksUpAlike_self {reg : Registry} (hk : reg.kind = .dns ∨ reg.kind = .serviceProvider)
    (s : String) : reg.LooksUpAlike s s := by
  cases reg with
  | domains d => exact ⟨_, _, rfl, rfl, rfl, rfl⟩
  | tags t => exact ⟨_, _, rfl, rfl, rfl, rfl⟩
  | networks n =>
    unfold Registry.kind at hk
    cases hf : n.family <;> simp [hf] at hk
  | systems => simp [Registry.kind] at hk

theorem subjectOf_alike (s : String) : ∃ k, Subject.registry? (subjectOf s) = some k ∧
    ∀ reg : Registry, reg.kind = k → reg.LooksUpAlike s (subjectOf s).text := by
  rcases subjectOf_cases s with ⟨a, ha, he⟩ | ⟨b, hb, he⟩ | ⟨n, hn, he⟩ | he | he <;> rw [he]
  · exact ⟨_, rfl, fun reg hk => looksUpAlike_address ha hk⟩
  · exact ⟨_, rfl, fun reg hk => looksUpAlike_network hb hk⟩
  · exact ⟨_, rfl, fun reg hk => looksUpAlike_system hn hk⟩
  · exact ⟨_, rfl, fun reg hk => looksUpAlike_self (.inl hk) s⟩
  · exact ⟨_, rfl, fun reg hk => looksUpAlike_self (.inr hk) s⟩

theorem dns_of_domain {r : Request} (h : r.kind = "domain") : r.registry? = some .dns := by
  have hsubject : ∀ s : Subject, s.kind = "domain" → s.registry? = some .dns := by
    intro s hs
    cases s with
    | domain => rfl
    | search p =>
      have hname : p.name ≠ "domain" := by cases p <;> decide
      exact absurd hs hname
    | address | network | system | entity | nameserver | help => simp [Subject.kind] at hs
  cases r with
  | unplaced s => exact hsubject s h
  | placed s u => exact hsubject s h
  | link u => simp [Request.kind] at h

theorem lookup_detected (s : String) :
    ((∀ u, Url.read s = .ok u → u.isWeb = false) → ∃ k, Request.registry? (detect s) = some k ∧
      ∀ bytes reg, Registry.read k bytes = .ok reg → reg.LooksUpAlike s (detect s).text) ∧
    ∀ u, Url.read s = .ok u → u.isWeb = true → (detect s).kind = "domain" →
      Request.registry? (detect s) = some .dns ∧ ∀ bytes reg, Registry.read .dns bytes = .ok reg →
        ∃ a, reg.lookup (detect s).text = .ok a := by
  refine ⟨fun h => ?_, fun u _ _ hd => ?_⟩
  · obtain ⟨k, hk, halike⟩ := subjectOf_alike s
    rw [detect_of_not_web h]
    exact ⟨k, hk, fun bytes reg hreg => halike reg (kind_of_read hreg)⟩
  · refine ⟨dns_of_domain hd, fun bytes reg hreg => ?_⟩
    obtain ⟨a, -, ha, -⟩ := looksUpAlike_self (.inl (kind_of_read hreg)) (detect s).text
    exact ⟨a, ha⟩

def oneNetwork : List UInt8 :=
  octetsOf "\x7b\"services\":[[[\"2001:db8::/32\"],[\"https://rdap.example/\"]]]\x7d".toList

theorem lookup_detected_network :
    (∃ reg, Registry.read .ipv6 oneNetwork = .ok reg ∧
      (detect "2001:db8::5/32").text = "2001:db8::/32" ∧
      reg.LooksUpAlike "2001:db8::5/32" "2001:db8::/32") ∧
    ∃ reg a, Registry.read .dns noServices = .ok reg ∧
      (detect "https://nic.example/").text = "nic.example" ∧ reg.lookup "nic.example" = .ok a := by
  have hnetwork : (Url.read "2001:db8::5/32").isOk = false := by decide +kernel
  have hdetected : Request.registry? (detect "2001:db8::5/32") = some .ipv6 := by decide +kernel
  have htext : (detect "2001:db8::5/32").text = "2001:db8::/32" := by decide +kernel
  have hread : (Registry.read .ipv6 oneNetwork).map Registry.kind = .ok .ipv6 := by decide +kernel
  have hnone : (Registry.read .dns noServices).map Registry.kind = .ok .dns := by decide +kernel
  have hurl : (Url.read "https://nic.example/").map Url.isWeb = .ok true := by decide +kernel
  have hname : (detect "https://nic.example/").text = "nic.example" := by decide +kernel
  constructor
  · obtain ⟨k, hk, halike⟩ := (lookup_detected "2001:db8::5/32").1 fun u hu => by
      rw [hu] at hnetwork
      cases hnetwork
    cases hdetected.symm.trans hk
    obtain ⟨reg, hreg, -⟩ := exists_of_map hread
    exact ⟨reg, hreg, htext, htext ▸ halike oneNetwork reg hreg⟩
  · obtain ⟨reg, hreg, -⟩ := exists_of_map hnone
    obtain ⟨u, hu, hweb⟩ := exists_of_map hurl
    obtain ⟨-, hall⟩ := (lookup_detected "https://nic.example/").2 u hu hweb (by decide +kernel)
    obtain ⟨a, ha⟩ := hall noServices reg hreg
    exact ⟨reg, a, hreg, hname, hname ▸ ha⟩

end Request

end RdapDirectory
