import RdapDirectory.Proofs.Hosts
import RdapDirectory.Proofs.Segments

namespace RdapDirectory.Url

open Text

structure Authority.Settled (a : Authority) (usual : Option Nat) : Prop where
  user : ∀ c ∈ a.user.toList, keptInCredentials c = true
  secret : ∀ s ∈ a.secret, s ≠ "" ∧ ∀ c ∈ s.toList, keptInCredentials c = true
  host : a.host.Settled
  port : ∀ n ∈ a.port, n < 65536 ∧ usual ≠ some n

theorem kept_escape_credentials (cs : List Char) :
    ∀ c ∈ escape keptInCredentials cs, keptInCredentials c = true := by
  apply forall_mem_escape
  · exact fun c _ hc => hc
  · decide

theorem escape_ne_nil {keep : Char → Bool} {cs : List Char} (h : cs ≠ []) :
    escape keep cs ≠ [] := by
  obtain ⟨c, r, rfl⟩ := List.exists_cons_of_ne_nil h
  obtain ⟨b, bs, hb⟩ := List.exists_cons_of_ne_nil (utf8EncodeChar_ne_nil c)
  rw [escape_cons]
  split
  · simp
  · simp [escapeChar, hb, escapeOctet]

theorem readCredentials_kept (cs : List Char) :
    (∀ c ∈ (readCredentials cs).1.toList, keptInCredentials c = true) ∧
    ∀ s ∈ (readCredentials cs).2, s ≠ "" ∧ ∀ c ∈ s.toList, keptInCredentials c = true := by
  unfold readCredentials
  dsimp only
  split
  · rename_i user secret _
    refine ⟨by simpa using kept_escape_credentials user, fun s hs => ?_⟩
    split at hs
    · cases hs
    · rename_i hsecret
      cases hs
      refine ⟨fun he => ?_, by simpa using kept_escape_credentials secret⟩
      have hnil := congrArg String.toList he
      rw [String.toList_ofList] at hnil
      exact escape_ne_nil (by simpa using hsecret) hnil
  · exact ⟨by simpa using kept_escape_credentials cs, fun s hs => nomatch hs⟩

theorem readPort_fits {usual port : Option Nat} {cs rest : List Char}
    (h : readPort usual cs = .ok (port, rest)) : ∀ n ∈ port, n < 65536 ∧ usual ≠ some n := by
  intro n hn
  unfold readPort at h
  split at h
  · dsimp only at h
    split at h
    · cases h
    · rename_i hfits
      have hport := (Prod.mk.inj (Except.ok.inj h)).1
      split at hport
      · rw [← hport] at hn
        cases hn
      · rename_i husual
        rw [← hport] at hn
        cases hn
        simp only [ge_iff_le, Bool.or_eq_true, decide_eq_true_eq, beq_iff_eq] at hfits husual
        exact ⟨by omega, fun he => husual (.inr he)⟩
  · cases h
    cases hn

theorem readAuthority_settled {scheme : String} {more : Bool} {cs rest : List Char} {a : Authority}
    (hs : isSpecial scheme = true) (h : readAuthority scheme more cs = .ok (a, rest)) :
    a.Settled (defaultPort? scheme) := by
  unfold readAuthority at h
  simp only [hs, Bool.true_or, if_true, bind, Except.bind, pure, Except.pure, throw, throwThe,
    MonadExceptOf.throw] at h
  split at h
  · cases h
  · split at h
    · cases h
    · split at h
      · cases h
      · rename_i host hhost
        split at h
        · cases h
        · rename_i port hport
          split at h
          · cases h
          · cases h
            have hkept := readCredentials_kept
              ((cutLast? (· == '@') (cs.takeWhile fun x => !(x == '/' || true && x == '\\'))).getD
                ([], cs.takeWhile fun x => !(x == '/' || true && x == '\\'))).1
            exact ⟨hkept.1, hkept.2, settled_of_namedHost? hhost, readPort_fits hport⟩

theorem web_scheme {scheme : String} (h : scheme = "http" ∨ scheme = "https") :
    scheme ≠ "file" ∧ isHierarchical scheme = true ∧ isSpecial scheme = true := by
  rcases h with rfl | rfl <;> decide

structure IsWebServer (u : Url) (a : Authority) (segs : List (List Char)) : Prop where
  scheme : u.scheme = "http" ∨ u.scheme = "https"
  authority : u.authority = some a
  settled : a.Settled (defaultPort? u.scheme)
  path : u.path = .steps (segs.map String.ofList)
  segs_ne_nil : segs ≠ []
  segs_settled : ∀ seg ∈ segs, Settled seg

theorem exists_isWebServer {cs : List Char} {u : Url} (h : readChars cs = .ok u)
    (hw : u.isWeb = true) : ∃ a segs, u.IsWebServer a segs := by
  have hscheme : u.scheme = "http" ∨ u.scheme = "https" := by simpa [isWeb] using hw
  unfold readChars at h
  simp only [bind, Except.bind, pure, Except.pure] at h
  split at h
  · cases h
  · rename_i scheme rest hcut
    split at h
    · cases h
    · rename_i body hbody
      cases h
      have hweb : scheme = "http" ∨ scheme = "https" := hscheme
      obtain ⟨hfile, hhier, hspecial⟩ := web_scheme hweb
      unfold readBody at hbody
      rw [if_neg hfile, if_pos hhier] at hbody
      simp only [bind, Except.bind, pure, Except.pure] at hbody
      split at hbody
      · cases hbody
      · rename_i r hr
        cases hbody
        obtain ⟨segs, hne, hsegs, hpath⟩ := readPath_settled r.2
        exact ⟨r.1, segs, hscheme, rfl, readAuthority_settled hspecial hr, hpath, hne, hsegs⟩

theorem ne_of_holds {p : Char → Bool} {c : Char} (hc : p c = true) {d : Char} (hd : p d = false) :
    c ≠ d := by
  rintro rfl
  rw [hc] at hd
  cases hd

namespace Authority

def secretText (a : Authority) : List Char :=
  match a.secret with
  | some s => ':' :: s.toList
  | none => []

def portText (a : Authority) : List Char :=
  match a.port with
  | some n => ':' :: decimalDigits n
  | none => []

variable {a : Authority} {usual : Option Nat}

theorem write_eq (a : Authority) : a.write =
    (if a.user.isEmpty && a.secret.isNone then [] else a.user.toList ++ a.secretText ++ ['@']) ++
      a.host.write ++ a.portText := rfl

theorem readCredentials_write (h : a.Settled usual) :
    readCredentials (a.user.toList ++ a.secretText) = (a.user, a.secret) := by
  have hcolon : ':' ∉ a.user.toList := fun hc => absurd (h.user _ hc) (by decide)
  have huser : String.ofList (escape keptInCredentials a.user.toList) = a.user := by
    rw [escape_of_kept h.user, String.ofList_toList]
  unfold readCredentials
  cases hs : a.secret with
  | none =>
    have hcut : cut? (· == ':') a.user.toList = none := cut?_eq_none_iff.2 hcolon
    simp only [secretText, hs, List.append_nil, hcut, huser]
  | some s =>
    obtain ⟨hne, hkept⟩ := h.secret s (by simp [hs])
    have hcut : cut? (· == ':') (a.user.toList ++ ':' :: s.toList) =
        some (a.user.toList, s.toList) := cut?_eq_some_iff.2 ⟨hcolon, rfl⟩
    have hsecret : s.toList.isEmpty = false := by simpa using hne
    simp [secretText, hs, hcut, huser, hsecret, escape_of_kept hkept]

theorem readPort_write (h : a.Settled usual) : readPort usual a.portText = .ok (a.port, []) := by
  unfold portText
  cases hp : a.port with
  | none => rfl
  | some n =>
    obtain ⟨hlt, husual⟩ := h.port n (by simp [hp])
    have hall : ∀ c ∈ decimalDigits n, isDigit c = true := fun c hc =>
      isDigit_of_mem_decimalDigits hc
    have htake : (decimalDigits n).takeWhile isDigit = decimalDigits n :=
      List.takeWhile_eq_self_iff.2 hall
    have hdrop : (decimalDigits n).dropWhile isDigit = [] := List.dropWhile_eq_nil_iff.2 hall
    have hne : decimalDigits n ≠ [] := Nat.toDigits_ne_nil
    simp only [readPort, htake, hdrop, decimalValue_decimalDigits]
    simp [hlt, hne, husual]

def isSign (c : Char) : Bool :=
  isPrintable c && c != ' ' && c != '/' && c != '\\' && c != '?' && c != '#'

theorem isSign_of_isHostSign {c : Char} (h : isHostSign c = true) :
    isSign c = true ∧ c ≠ '@' := by
  have hbasic : Idna.Punycode.isBasic c = true := by
    simp only [isHostSign, Idna.isAllowed, Bool.or_eq_true, Bool.and_eq_true, beq_iff_eq] at h
    rcases h with ((h | rfl) | rfl) | rfl
    · exact h.1
    · decide
    · decide
    · decide
  exact Idna.forall_basic (P := fun c => isHostSign c = true → isSign c = true ∧ c ≠ '@')
    (by decide) hbasic h

theorem isSign_of_kept {c : Char} (h : keptInCredentials c = true) :
    isSign c = true ∧ c ≠ '@' := by
  have hprint : isPrintable c = true := by
    simp only [keptInCredentials, keptInPath, keptInFragment, Bool.and_eq_true] at h
    exact h.1.1.1
  have hne : ∀ d, keptInCredentials d = false → c ≠ d := fun d hd => ne_of_holds h hd
  simp [isSign, hprint, hne ' ' (by decide), hne '/' (by decide), hne '\\' (by decide),
    hne '?' (by decide), hne '#' (by decide), hne '@' (by decide)]

theorem isSign_of_isDigit {c : Char} (h : isDigit c = true) : isSign c = true ∧ c ≠ '@' :=
  isSign_of_isHostSign (isHostSign_of_isAllowed (Idna.isDigit_facts h).1).1

theorem place_signs (h : a.Settled usual) :
    ∀ c ∈ a.host.write ++ a.portText, isSign c = true ∧ c ≠ '@' := by
  intro c hc
  rcases List.mem_append.1 hc with hc | hc
  · exact isSign_of_isHostSign (write_signs h.host c hc)
  · unfold portText at hc
    split at hc
    · rcases List.mem_cons.1 hc with rfl | hc
      · decide
      · exact isSign_of_isDigit (isDigit_of_mem_decimalDigits hc)
    · cases hc

theorem credentials_signs (h : a.Settled usual) :
    ∀ c ∈ a.user.toList ++ a.secretText, isSign c = true := by
  intro c hc
  rcases List.mem_append.1 hc with hc | hc
  · exact (isSign_of_kept (h.user c hc)).1
  · unfold secretText at hc
    split at hc
    · rename_i s hs
      rcases List.mem_cons.1 hc with rfl | hc
      · decide
      · exact (isSign_of_kept ((h.secret s (by simp [hs])).2 c hc)).1
    · cases hc

theorem write_signs (h : a.Settled usual) : ∀ c ∈ a.write, isSign c = true := by
  intro c hc
  rw [write_eq, List.append_assoc, List.mem_append] at hc
  rcases hc with hc | hc
  · split at hc
    · cases hc
    · rcases List.mem_append.1 hc with hc | hc
      · exact credentials_signs h c hc
      · rw [List.mem_singleton] at hc
        subst hc
        decide
  · exact (place_signs h c hc).1

theorem cutLast?_write (h : a.Settled usual) :
    (cutLast? (· == '@') a.write).getD ([], a.write) =
      (a.user.toList ++ a.secretText, a.host.write ++ a.portText) := by
  have hfree : ∀ c ∈ a.host.write ++ a.portText, (c == '@') = false := fun c hc => by
    simpa using (place_signs h c hc).2
  rw [write_eq]
  split
  · rename_i hnone
    simp only [Bool.and_eq_true, Option.isNone_iff_eq_none] at hnone
    have huser : a.user = "" := by simpa using hnone.1
    rw [List.nil_append, cutLast?_of_free hfree]
    simp [secretText, hnone.2, huser]
  · have hsplit : a.user.toList ++ a.secretText ++ ['@'] ++ a.host.write ++ a.portText =
        (a.user.toList ++ a.secretText) ++ '@' :: (a.host.write ++ a.portText) := by simp
    rw [hsplit, cutLast?_append_cons (by rfl) hfree]
    rfl

theorem write_ne_nil (h : a.Settled usual) : a.write ≠ [] := by
  intro hn
  rw [write_eq, List.append_eq_nil_iff, List.append_eq_nil_iff] at hn
  exact Url.write_ne_nil h.host hn.1.2

theorem readAuthority_write {scheme : String} (hs : isSpecial scheme = true)
    (h : a.Settled (defaultPort? scheme)) (more : Bool) {path : List Char}
    (hpath : path = [] ∨ path.head? = some '/') :
    readAuthority scheme more (a.write ++ path) = .ok (a, path) := by
  have hinside : ∀ c ∈ a.write, (!(c == '/' || c == '\\')) = true := by
    intro c hc
    have hsign := write_signs h c hc
    simp [ne_of_holds hsign (d := '/') (by decide), ne_of_holds hsign (d := '\\') (by decide)]
  have hend : path.takeWhile (fun c => !(c == '/' || c == '\\')) = [] ∧
      path.dropWhile (fun c => !(c == '/' || c == '\\')) = path := by
    cases path with
    | nil => exact ⟨rfl, rfl⟩
    | cons c r =>
      have hc : c = '/' := by simpa using hpath
      subst hc
      exact ⟨rfl, rfl⟩
  have hfront : (a.write ++ path).takeWhile (fun c => !(c == '/' || c == '\\')) = a.write := by
    rw [List.takeWhile_append_of_pos hinside, hend.1, List.append_nil]
  have hrest : (a.write ++ path).dropWhile (fun c => !(c == '/' || c == '\\')) = path := by
    rw [List.dropWhile_append_of_pos hinside, hend.2]
  have hport : a.portText = [] ∨ a.portText.head? = some ':' := by
    unfold portText
    cases a.port <;> simp
  have hhost : a.host.write.isEmpty = false := by simpa using Url.write_ne_nil h.host
  have hsolid : a.host ≠ .empty := by
    intro he
    have hset := h.host
    rw [he] at hset
    exact hset
  have hplace : (a.host.write ++ a.portText).isEmpty = false := by
    simpa using fun hn => absurd hn (Url.write_ne_nil h.host)
  unfold readAuthority
  simp only [hs, Bool.true_and, hfront, hrest, cutLast?_write h, readCredentials_write h,
    cutHost_write h.host hport, hhost, hplace, namedHost?_write h.host, readPort_write h, hsolid,
    bind, Except.bind, pure, Except.pure, if_true, Bool.false_and, Bool.false_eq_true, if_false,
    decide_false, List.nil_append]

end Authority

end RdapDirectory.Url
