import RdapDirectory.Registry.Basic
import RdapDirectory.Proofs.Paths

namespace RdapDirectory

namespace Registry

theorem Kind.isPlain_file (k : Kind) : Files.IsPlain k.file := by
  cases k <;> decide

theorem Kind.file_inj {j k : Kind} : j.file = k.file ↔ j = k := by
  cases j <;> cases k <;> decide

def noServices : List UInt8 :=
  [0x7b, 0x22, 0x73, 0x65, 0x72, 0x76, 0x69, 0x63, 0x65, 0x73, 0x22, 0x3a, 0x5b, 0x5d, 0x7d]

def czServers : List UInt8 :=
  Text.octetsOf "\x7b\"services\":[[[\"cz\"],[\"https://rdap.nic.cz/\"]]]\x7d".toList

theorem exists_of_map {ε α β : Type} {f : α → β} {x : Except ε α} {b : β}
    (h : x.map f = .ok b) : ∃ a, x = .ok a ∧ f a = b := by
  cases x with
  | error e => cases h
  | ok a => exact ⟨a, rfl, Except.ok.inj h⟩

theorem error_of_bind {α β : Type} {x : Except Failure α} {f : α → Except Failure β} {e : Failure}
    (h : x >>= f = .error e) : x = .error e ∨ ∃ a, x = .ok a ∧ f a = .error e := by
  cases x with
  | error d => exact .inl (congrArg _ (Except.error.inj h))
  | ok a => exact .inr ⟨a, rfl, h⟩

theorem kind_of_read {k : Kind} {bytes : List UInt8} {r : Registry} (h : read k bytes = .ok r) :
    r.kind = k := by
  unfold read at h
  split at h
  · cases h
  · cases k with
    | dns =>
      obtain ⟨d, -, rfl⟩ := exists_of_map h
      rfl
    | ipv4 | ipv6 =>
      obtain ⟨n, hn, rfl⟩ := exists_of_map h
      obtain ⟨f, -, rfl⟩ := exists_of_map hn
      rfl
    | asn =>
      obtain ⟨s, -, rfl⟩ := exists_of_map h
      rfl
    | serviceProvider =>
      obtain ⟨t, -, rfl⟩ := exists_of_map h
      rfl

theorem Systems.isQueryFault_of_number? {query : String} {e : Failure}
    (h : number? query = .error e) : e.isQueryFault = true := by
  unfold number? at h
  split at h
  · cases h
    rfl
  · split at h
    · cases h
    · cases h
      rfl

theorem Systems.isQueryFault_of_lookup {s : Systems} {query : String} {e : Failure}
    (h : s.lookup query = .error e) : e.isQueryFault = true := by
  unfold Systems.lookup at h
  rcases error_of_bind h with h | ⟨n, -, h⟩
  · exact isQueryFault_of_number? h
  · dsimp only at h
    split at h
    · split at h <;> cases h
    · cases h

theorem Networks.isQueryFault_of_written {query : String} {e : Failure}
    (h : written query = .error e) : e.isQueryFault = true := by
  unfold written at h
  split at h
  · cases h
  · split at h
    · cases h
    · cases h
      rfl

theorem Networks.isQueryFault_of_block? {text : String} {e : Failure}
    (h : block? text = .error e) : e.isQueryFault = true := by
  unfold block? at h
  split at h
  · cases h
  · cases h
    rfl

theorem Networks.isQueryFault_of_lookup {n : Networks} {query : String} {e : Failure}
    (h : n.lookup query = .error e) : e.isQueryFault = true := by
  unfold Networks.lookup at h
  rcases error_of_bind h with h | ⟨text, -, h⟩
  · exact isQueryFault_of_written h
  · rcases error_of_bind h with h | ⟨b, -, h⟩
    · exact isQueryFault_of_block? h
    · dsimp only at h
      by_cases hf : b.family ≠ n.family
      · rw [if_pos hf] at h
        cases h
        rfl
      · rw [if_neg hf] at h
        split at h <;> cases h

theorem isQueryFault_of_lookup {r : Registry} {query : String} {e : Failure}
    (h : r.lookup query = .error e) : e.isQueryFault = true := by
  cases r with
  | domains d => cases h
  | networks n => exact Networks.isQueryFault_of_lookup h
  | systems s => exact Systems.isQueryFault_of_lookup h
  | tags t => cases h

end Registry

end RdapDirectory
