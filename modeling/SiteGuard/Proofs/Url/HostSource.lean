import SiteGuard.Proofs.Url.Host

/-!
# Where the host of an address comes from

The host of a special scheme has been brought to its ASCII form, that of any
other scheme is written as it was given.  Either is an address in brackets or a
name without blanks, slashes and colons.
-/

namespace SiteGuard
namespace Url

open Text

/-! ## Characters of names -/

def IsNameChar (c : Char) : Prop :=
  isBlank c = false ∧ c ≠ '/' ∧ c ≠ ':'

instance (c : Char) : Decidable (IsNameChar c) :=
  inferInstanceAs (Decidable (_ ∧ _))

theorem of_ascii {P : Char → Prop} (hall : ∀ n : Fin 128, P (Char.ofNat n.val)) {c : Char}
    (h : c.toNat < 128) : P c := by
  have hc := hall ⟨c.toNat, h⟩
  rw [Char.ofNat_toNat] at hc
  exact hc

theorem isNameChar_of_plain {c : Char} (h : Domain.isPlain c = true) : IsNameChar c := by
  have hall : ∀ n : Fin 128, Domain.isPlain (Char.ofNat n.val) = true →
      IsNameChar (Char.ofNat n.val) := by
    decide
  exact of_ascii (P := fun c => Domain.isPlain c = true → IsNameChar c) hall
    (Domain.isPlain_iff.mp h).1 h

def IsVerbatimChar (c : Char) : Prop :=
  c.toNat < 128 ∧ Percent.isControl c = false ∧ Host.isForbidden c = false

instance (c : Char) : Decidable (IsVerbatimChar c) :=
  inferInstanceAs (Decidable (_ ∧ _))

theorem isNameChar_of_verbatim {c : Char} (h : IsVerbatimChar c) : IsNameChar c := by
  have hall : ∀ n : Fin 128, IsVerbatimChar (Char.ofNat n.val) →
      IsNameChar (Char.ofNat n.val) := by
    decide
  exact of_ascii (P := fun c => IsVerbatimChar c → IsNameChar c) hall h.1 h

theorem encode_ne_nil {reserved : Char → Bool} {cs : List Char} (h : cs ≠ []) :
    Percent.encode reserved cs ≠ [] := by
  cases cs with
  | nil =>
      exact absurd rfl h
  | cons c rest =>
      unfold Percent.encode
      rw [List.flatMap_cons]
      apply List.append_ne_nil_of_left_ne_nil
      unfold Percent.encodeChar
      split
      · exact List.cons_ne_nil c []
      · have hbytes : 0 < (String.utf8EncodeChar c).length := by
          rw [String.length_utf8EncodeChar]
          exact Char.utf8Size_pos c
        unfold Utf8.encode
        rw [List.flatMap_singleton]
        cases hencoded : String.utf8EncodeChar c with
        | nil =>
            rw [hencoded] at hbytes
            cases hbytes
        | cons b bytes =>
            exact List.cons_ne_nil _ _

/-! ## Hosts of either kind -/

/-- A host that was read in the way its kind of scheme asks for. -/
inductive HostOf : Kind → Host → Prop where
  | parsed {kind : Kind} {text : List Char} {host : Host} (hkind : kind.isSpecial = true)
      (hread : Host.parse text = .ok host) : HostOf kind host
  | verbatim {text : List Char} {host : Host} (hne : text ≠ [])
      (hread : Host.parseVerbatim text = .ok host) : HostOf .other host

theorem bracketed_eq_ok {cs : List Char} {host : Host} (h : Host.bracketed cs = .ok host) :
    ∃ address, host = .ipv6 address := by
  unfold Host.bracketed at h
  split at h
  · cases h
    exact ⟨_, rfl⟩
  · cases h

theorem parse_eq_ok {cs : List Char} {host : Host} (h : Host.parse cs = .ok host) :
    (∃ address, host = .ipv6 address) ∨ (∃ address, host = .ipv4 address) ∨
      ∃ name labels, host = .domain name ∧ (∀ c ∈ name, Domain.isPlain c = true) ∧
        Domain.labels? name = some labels ∧ Host.ofAscii name = .ok (.domain name) := by
  unfold Host.parse at h
  split at h
  · exact Or.inl (bracketed_eq_ok h)
  · split at h
    · cases h
    · rename_i name hascii
      rcases Option.bind_eq_some_iff.mp hascii with ⟨decoded, _, hname⟩
      rcases Domain.plain_of_toAscii? hname with ⟨hplain, labels, hlabels⟩
      cases host with
      | ipv6 address =>
          exact Or.inl ⟨address, rfl⟩
      | ipv4 address =>
          exact Or.inr (Or.inl ⟨address, rfl⟩)
      | domain name' =>
          rcases ofAscii_eq_domain h with ⟨rfl, _, _⟩
          exact Or.inr (Or.inr ⟨_, labels, rfl, hplain, hlabels, h⟩)

theorem parseVerbatim_eq_ok {cs : List Char} {host : Host}
    (h : Host.parseVerbatim cs = .ok host) :
    (∃ address, host = .ipv6 address) ∨
      ∃ name, host = .domain name ∧ (cs ≠ [] → name ≠ []) ∧ ∀ c ∈ name, IsVerbatimChar c := by
  unfold Host.parseVerbatim at h
  split at h
  · exact Or.inl (bracketed_eq_ok h)
  · split at h
    · cases h
    · rename_i hallowed
      cases h
      have hdigit : ∀ n < 16, IsVerbatimChar (Percent.digit n) := by
        decide
      refine Or.inr ⟨_, rfl, encode_ne_nil, ?_⟩
      intro c hc
      rcases Percent.of_mem_encode hc with ⟨hmem, hascii, hcontrol⟩ | rfl | ⟨n, hn, rfl⟩
      · refine ⟨hascii, hcontrol, ?_⟩
        rw [List.any_eq_true, not_exists] at hallowed
        simpa [hmem] using hallowed c
      · decide
      · exact hdigit n hn

theorem HostOf.text {kind : Kind} {host : Host} (h : HostOf kind host) :
    (∃ address, host = .ipv6 address) ∨ ∀ c ∈ host.text, IsNameChar c := by
  cases h with
  | parsed hkind hread =>
      rcases parse_eq_ok hread with hipv6 | ⟨address, rfl⟩ | ⟨name, _, rfl, hplain, _⟩
      · exact Or.inl hipv6
      · exact Or.inr fun c hc => isNameChar_of_plain (ipv4_text_plain address c hc)
      · exact Or.inr fun c hc => isNameChar_of_plain (hplain c hc)
  | verbatim _ hread =>
      rcases parseVerbatim_eq_ok hread with hipv6 | ⟨name, rfl, _, hname⟩
      · exact Or.inl hipv6
      · exact Or.inr fun c hc => isNameChar_of_verbatim (hname c hc)

theorem HostOf.text_ne_nil {kind : Kind} {host : Host} (h : HostOf kind host) :
    host.text ≠ [] := by
  cases h with
  | parsed hkind hread =>
      rcases parse_eq_ok hread with ⟨address, rfl⟩ | ⟨address, rfl⟩ | ⟨name, _, rfl, _, _, hascii⟩
      · exact List.cons_ne_nil _ _
      · exact ipv4_text_ne_nil address
      · exact (ofAscii_eq_domain hascii).2.1
  | verbatim hne hread =>
      rcases parseVerbatim_eq_ok hread with ⟨address, rfl⟩ | ⟨name, rfl, hname, _⟩
      · exact List.cons_ne_nil _ _
      · exact hname hne

theorem HostOf.not_blank {kind : Kind} {host : Host} (h : HostOf kind host) :
    ∀ c ∈ host.text, isBlank c = false := by
  rcases h.text with ⟨address, rfl⟩ | hname
  · have hgroups : ∀ c ∈ address.text, isBlank c = false :=
      of_mem_ipv6_text (P := fun c => isBlank c = false) (by decide) (by decide) address
    intro c hc
    rcases List.mem_append.mp hc with hc | hc
    · rcases List.mem_cons.mp hc with rfl | hc
      · decide
      · exact hgroups c hc
    · rw [List.mem_singleton.mp hc]
      decide
  · exact fun c hc => (hname c hc).1

theorem HostOf.exists_not_blank {kind : Kind} {host : Host} (h : HostOf kind host) :
    ∃ c ∈ host.text, isBlank c = false := by
  rcases List.exists_mem_of_ne_nil _ h.text_ne_nil with ⟨c, hc⟩
  exact ⟨c, hc, h.not_blank c hc⟩

theorem HostOf.parse {kind : Kind} {host : Host} (h : HostOf kind host)
    (hkind : kind.isSpecial = true) : ∃ text, Host.parse text = .ok host := by
  cases h with
  | parsed _ hread =>
      exact ⟨_, hread⟩
  | verbatim _ _ =>
      cases hkind

/-! ## Hosts of addresses -/

theorem hostOf_readHost {kind : Kind} {cs : List Char} {host : Host}
    (h : readHost kind cs = .ok (some host)) : HostOf kind host := by
  unfold readHost at h
  split at h
  · split at h
    · cases h
    · rename_i hne
      rcases map_eq_ok h with ⟨found, hread, hfound⟩
      cases hfound
      exact .verbatim (by simpa using hne) hread
  · rename_i hkind
    have hspecial : kind.isSpecial = true := by
      cases kind with
      | other =>
          exact absurd rfl hkind
      | file =>
          rfl
      | special =>
          rfl
    split at h
    · cases h
    · rcases map_eq_ok h with ⟨found, hread, hfound⟩
      cases hfound
      exact .parsed hspecial hread

theorem hostOf_readAuthority {scheme cs path : List Char} {more : Bool} {a : Authority}
    {host : Host} (h : readAuthority scheme more cs = .ok (a, path))
    (hhost : a.host = some host) : HostOf (kindOf scheme) host := by
  rcases readHost_of_readAuthority h with ⟨hostText, hread⟩
  rw [hhost] at hread
  exact hostOf_readHost hread

theorem host_of_fileUrl {scheme cs : List Char} {given : Option Host} {host : Host}
    (h : (fileUrl scheme given cs).authority.bind (·.host) = some host) : given = some host := by
  unfold fileUrl at h
  dsimp only [Option.bind_some] at h
  generalize segments .file _ = parts at h
  split at h
  · cases h
  · exact h

theorem hostOf_readFile {scheme cs : List Char} {u : Url} {host : Host}
    (hkind : kindOf scheme = .file) (h : readFile scheme cs = .ok u)
    (hhost : u.authority.bind (·.host) = some host) : HostOf (kindOf scheme) host := by
  rw [hkind]
  unfold readFile at h
  split at h
  · split at h
    · dsimp only at h
      split at h
      · cases h
        cases host_of_fileUrl hhost
      · rcases map_eq_ok h with ⟨given, hgiven, rfl⟩
        obtain rfl := host_of_fileUrl hhost
        unfold readFileHost at hgiven
        split at hgiven
        · cases hgiven
        · rcases bind_eq_ok hgiven with ⟨found, hread, hfound⟩
          split at hfound
          · cases hfound
          · cases hfound
            exact .parsed rfl hread
    · cases h
      cases host_of_fileUrl hhost
  · cases h
    cases host_of_fileUrl hhost

theorem hostOf_readLocator {scheme cs : List Char} {more : Bool} {u : Url} {host : Host}
    (h : readLocator scheme more cs = .ok u)
    (hhost : u.authority.bind (·.host) = some host) : HostOf (kindOf scheme) host := by
  unfold readLocator at h
  dsimp only at h
  split at h
  · rename_i hkind
    exact hostOf_readFile hkind h hhost
  · rcases map_eq_ok h with ⟨⟨a, path⟩, hread, rfl⟩
    exact hostOf_readAuthority hread hhost
  · split at h
    · rcases map_eq_ok h with ⟨⟨a, path⟩, hread, rfl⟩
      exact hostOf_readAuthority hread hhost
    · cases h
      cases hhost
    · cases h
      cases hhost

theorem hostOf_parseChars {cs : List Char} {u : Url} {host : Host}
    (h : parseChars cs = .ok u) (hhost : u.authority.bind (·.host) = some host) :
    HostOf (kindOf u.scheme) host := by
  unfold parseChars at h
  split at h
  · cases h
  · rcases map_eq_ok h with ⟨v, hread, rfl⟩
    rw [← readLocator_scheme hread] at hread
    exact hostOf_readLocator hread hhost

end Url
end SiteGuard
