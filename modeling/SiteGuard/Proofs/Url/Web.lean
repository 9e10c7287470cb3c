import SiteGuard.Proofs.Steps
import SiteGuard.Proofs.Text.Pieces
import SiteGuard.Url.Parser

/-!
# Web addresses

The host of an address with a special scheme is written in small letters and
without a slash, whether it is a domain or a numeric address.  So an address that
is fetched over HTTP always has such a host, and what is read of its text begins
with its scheme.
-/

namespace SiteGuard
namespace Url

open Text

/-! ## Characters -/

/-- What a host is made of: its own small letter, and no slash. -/
def IsHostChar (c : Char) : Prop :=
  c.toLower = c ∧ c ≠ '/'

instance (c : Char) : Decidable (IsHostChar c) :=
  inferInstanceAs (Decidable (_ ∧ _))

def IsHostText (cs : List Char) : Prop :=
  ∀ c ∈ cs, IsHostChar c

theorem IsHostText.lower {cs : List Char} (h : IsHostText cs) : Text.lower cs = cs := by
  unfold Text.lower
  have hid : cs.map Char.toLower = cs.map id :=
    List.map_congr_left fun c hc => (h c hc).1
  rw [hid, List.map_id]

theorem IsHostText.not_mem_slash {cs : List Char} (h : IsHostText cs) : '/' ∉ cs := by
  intro hmem
  exact (h '/' hmem).2 rfl

theorem IsHostText.nil : IsHostText [] := by
  intro c hc
  cases hc

theorem IsHostText.append {cs ds : List Char} (hcs : IsHostText cs) (hds : IsHostText ds) :
    IsHostText (cs ++ ds) := by
  intro c hc
  rcases List.mem_append.mp hc with hc | hc
  · exact hcs c hc
  · exact hds c hc

theorem IsHostText.cons {c : Char} {cs : List Char} (hc : IsHostChar c) (hcs : IsHostText cs) :
    IsHostText (c :: cs) := by
  intro d hd
  rcases List.mem_cons.mp hd with rfl | hd
  · exact hc
  · exact hcs d hd

/-! ## Numbers -/

section Numbers

variable {P : Char → Prop}

theorem of_mem_toDigits (hdigits : ∀ n < 16, P n.digitChar) {b : Nat} (hb : 1 < b)
    (hb' : b ≤ 16) (n : Nat) : ∀ c ∈ Nat.toDigits b n, P c := by
  induction n using Nat.strongRecOn with
  | ind n ih =>
      have hlast : ∀ k, k < b → ∀ c ∈ [k.digitChar], P c := by
        intro k hk c hc
        obtain rfl := List.mem_singleton.mp hc
        exact hdigits k (Nat.lt_of_lt_of_le hk hb')
      by_cases hsmall : n < b
      · rw [Nat.toDigits_of_lt_base hsmall]
        exact hlast n hsmall
      · rw [Nat.toDigits_of_base_le hb (Nat.le_of_not_lt hsmall)]
        have hless : n / b < n := Nat.div_lt_self (by omega) hb
        intro c hc
        rcases List.mem_append.mp hc with hc | hc
        · exact ih (n / b) hless c hc
        · exact hlast _ (Nat.mod_lt n (by omega)) c hc

theorem of_mem_ipv4_text (hdot : P '.') (hdigits : ∀ n < 16, P n.digitChar) (a : Ipv4) :
    ∀ c ∈ a.text, P c := by
  intro c hc
  rcases of_mem_join hc with rfl | ⟨part, hpart, hc⟩
  · exact hdot
  · rcases List.mem_map.mp hpart with ⟨place, _, rfl⟩
    rw [Nat.toString_eq_ofList_toDigits, String.toList_ofList] at hc
    exact of_mem_toDigits hdigits (by decide) (by decide) _ c hc

theorem of_mem_ipv6_text (hcolon : P ':') (hdigits : ∀ n < 16, P n.digitChar) (a : Ipv6) :
    ∀ c ∈ a.text, P c := by
  have hjoined : ∀ parts : List (List Char), parts ⊆ a.groups.map Ipv6.groupText →
      ∀ c ∈ join ':' parts, P c := by
    intro parts hparts c hc
    rcases of_mem_join hc with rfl | ⟨part, hpart, hc⟩
    · exact hcolon
    · rcases List.mem_map.mp (hparts hpart) with ⟨g, _, rfl⟩
      exact of_mem_toDigits hdigits (by decide) (by decide) _ c hc
  intro c hc
  unfold Ipv6.text at hc
  dsimp only at hc
  split at hc
  · exact hjoined _ (List.Subset.refl _) c hc
  · rcases List.mem_append.mp hc with hc | hc
    · exact hjoined _ (List.take_subset _ _) c hc
    · rcases List.mem_cons.mp hc with rfl | hc
      · exact hcolon
      · rcases List.mem_cons.mp hc with rfl | hc
        · exact hcolon
        · exact hjoined _ (List.drop_subset _ _) c hc

end Numbers

theorem digitChar_isHostChar : ∀ n < 16, IsHostChar n.digitChar := by
  decide

theorem ipv4_isHostText (a : Ipv4) : IsHostText a.text :=
  of_mem_ipv4_text (by decide) digitChar_isHostChar a

theorem ipv6_isHostText (a : Ipv6) : IsHostText a.text :=
  of_mem_ipv6_text (by decide) digitChar_isHostChar a

/-! ## Domains -/

theorem isPlain_isHostChar {c : Char} (h : Domain.isPlain c = true) : IsHostChar c := by
  simp only [Domain.isPlain, Bool.and_eq_true, beq_iff_eq] at h
  refine ⟨h.2, ?_⟩
  rintro rfl
  exact absurd h.1.2 (by decide)

theorem toAscii?_isHostText {cs name : List Char} (h : Domain.toAscii? cs = some name) :
    IsHostText name := by
  unfold Domain.toAscii? at h
  cases hascii : Domain.convert? cs with
  | none =>
      rw [hascii] at h
      cases h
  | some ascii =>
      rw [hascii] at h
      simp only [Option.bind_eq_bind, Option.bind_some, Option.ite_none_right_eq_some,
        Bool.and_eq_true, Option.some.injEq] at h
      rcases h with ⟨⟨hplain, _⟩, rfl⟩
      intro c hc
      exact isPlain_isHostChar (List.all_eq_true.mp hplain c hc)

/-! ## Hosts -/

theorem bracketed_isHostText {cs : List Char} {host : Host}
    (h : Host.bracketed cs = .ok host) : IsHostText host.text := by
  unfold Host.bracketed at h
  split at h
  · cases h
    have hclosing : IsHostText [']'] := IsHostText.nil.cons (by decide)
    exact ((ipv6_isHostText _).append hclosing).cons (by decide)
  · cases h

theorem ofAscii_isHostText {name : List Char} {host : Host} (hname : IsHostText name)
    (h : Host.ofAscii name = .ok host) : IsHostText host.text := by
  unfold Host.ofAscii at h
  split at h
  · cases h
  · split at h
    · split at h
      · cases h
        exact ipv4_isHostText _
      · cases h
    · cases h
      exact hname

theorem parse_isHostText {cs : List Char} {host : Host} (h : Host.parse cs = .ok host) :
    IsHostText host.text := by
  unfold Host.parse at h
  split at h
  · exact bracketed_isHostText h
  · split at h
    · cases h
    · rename_i name hascii
      rcases Option.bind_eq_some_iff.mp hascii with ⟨decoded, _, hname⟩
      exact ofAscii_isHostText (toAscii?_isHostText hname) h

/-! ## Addresses -/

theorem readHost_special {cs : List Char} {host : Option Host}
    (h : readHost .special cs = .ok host) :
    ∃ special, host = some special ∧ IsHostText special.text := by
  unfold readHost at h
  dsimp only at h
  split at h
  · cases h
  · rcases map_eq_ok h with ⟨special, hparse, rfl⟩
    exact ⟨special, rfl, parse_isHostText hparse⟩

theorem readHost_of_readAuthority {scheme cs path : List Char} {more : Bool} {a : Authority}
    (h : readAuthority scheme more cs = .ok (a, path)) :
    ∃ hostText, readHost (kindOf scheme) hostText = .ok a.host := by
  unfold readAuthority at h
  dsimp only at h
  rcases unless_eq_ok h with ⟨_, h⟩
  rcases bind_eq_ok h with ⟨host, hhost, h⟩
  refine ⟨_, hhost.trans (congrArg Except.ok ?_)⟩
  split at h
  · rcases unless_eq_ok h with ⟨_, h⟩
    cases h
    rfl
  · rcases unless_eq_ok h with ⟨_, h⟩
    rcases bind_eq_ok h with ⟨_, _, h⟩
    cases h
    rfl

theorem readFile_scheme {scheme cs : List Char} {u : Url} (h : readFile scheme cs = .ok u) :
    u.scheme = scheme := by
  unfold readFile at h
  split at h
  · split at h
    · dsimp only at h
      split at h
      · cases h
        rfl
      · rcases map_eq_ok h with ⟨_, _, rfl⟩
        rfl
    · cases h
      rfl
  · cases h
    rfl

theorem readLocator_scheme {scheme cs : List Char} {more : Bool} {u : Url}
    (h : readLocator scheme more cs = .ok u) : u.scheme = scheme := by
  unfold readLocator at h
  dsimp only at h
  split at h
  · exact readFile_scheme h
  · rcases map_eq_ok h with ⟨_, _, rfl⟩
    rfl
  · split at h
    · rcases map_eq_ok h with ⟨_, _, rfl⟩
      rfl
    · cases h
      rfl
    · cases h
      rfl

theorem readLocator_special {scheme cs : List Char} {more : Bool} {u : Url}
    (hkind : kindOf scheme = .special) (h : readLocator scheme more cs = .ok u) :
    ∃ host, u.host? = some host ∧ IsHostText host.toList := by
  unfold readLocator at h
  rw [hkind] at h
  dsimp only at h
  rcases map_eq_ok h with ⟨found, hread, rfl⟩
  rcases readHost_of_readAuthority hread with ⟨hostText, hhost⟩
  rw [hkind] at hhost
  rcases readHost_special hhost with ⟨host, hsome, htext⟩
  refine ⟨String.ofList host.text, ?_, ?_⟩
  · simp [host?, hsome]
  · rw [String.toList_ofList]
    exact htext

def IsWeb (u : Url) : Prop :=
  u.scheme = "http".toList ∨ u.scheme = "https".toList

instance (u : Url) : Decidable u.IsWeb :=
  inferInstanceAs (Decidable (_ ∨ _))

theorem IsWeb.kind {u : Url} (h : u.IsWeb) : kindOf u.scheme = .special := by
  rcases h with h | h <;> rw [h] <;> rfl

theorem scheme?_eq_some {cs scheme rest : List Char} (h : scheme? cs = some (scheme, rest)) :
    ∃ spelled, cs = spelled ++ ':' :: rest ∧ scheme = lower spelled := by
  unfold scheme? at h
  rcases Option.bind_eq_some_iff.mp h with ⟨⟨spelled, rest'⟩, hcut, h⟩
  refine ⟨spelled, ?_⟩
  dsimp only at h
  split at h
  · split at h
    · cases h
      exact ⟨eq_of_cut hcut, rfl⟩
    · cases h
  · cases h

theorem exists_locator_of_parse {url : String} {u : Url} (hparse : Url.parse url = .ok u) :
    ∃ rest more text v, scheme? (clean url.toList) = some (v.scheme, rest) ∧
      readLocator v.scheme more text = .ok v ∧ u.scheme = v.scheme ∧ u.host? = v.host? := by
  unfold Url.parse parseChars at hparse
  split at hparse
  · cases hparse
  · rename_i scheme rest hscheme
    rcases map_eq_ok hparse with ⟨v, hlocator, rfl⟩
    have hsame := readLocator_scheme hlocator
    rw [← hsame] at hscheme hlocator
    exact ⟨rest, _, _, v, hscheme, hlocator, rfl, rfl⟩

theorem isBreak_eq_false {c : Char} (h : isOuterBlank c = false) : isBreak c = false := by
  unfold isOuterBlank at h
  simp only [decide_eq_false_iff_not, not_le] at h
  have hne : ∀ d : Char, d.toNat ≤ 32 → (c == d) = false := by
    intro d hd
    apply beq_eq_false_iff_ne.mpr
    rintro rfl
    omega
  unfold isBreak
  simp [hne '\t' (by decide), hne '\n' (by decide), hne '\r' (by decide)]

/-- Of a text that does not begin with a blank only what comes later is dropped. -/
theorem clean_append {front : List Char} (hne : front ≠ [])
    (hfront : ∀ c ∈ front, isOuterBlank c = false) (rest : List Char) :
    ∃ more, clean (front ++ rest) = front ++ more := by
  have hkept : ∀ ds es : List Char, ds ≠ [] → (∀ c ∈ ds, isOuterBlank c = false) →
      (ds ++ es).dropWhile isOuterBlank = ds ++ es := by
    intro ds es hds hblank
    cases ds with
    | nil =>
        exact absurd rfl hds
    | cons d ds =>
        rw [List.cons_append, List.dropWhile_cons_of_neg]
        simp [hblank d List.mem_cons_self]
  have hend : (rest.reverse ++ front.reverse).dropWhile isOuterBlank =
      rest.reverse.dropWhile isOuterBlank ++ front.reverse := by
    have hreverse := hkept front.reverse [] (by simpa using hne) (by simpa using hfront)
    rw [List.append_nil] at hreverse
    rw [List.dropWhile_append, hreverse]
    split
    · rename_i hempty
      rw [List.isEmpty_iff.mp hempty, List.nil_append]
    · rfl
  have hbreaks : front.filter (fun c => !isBreak c) = front := by
    rw [List.filter_eq_self]
    intro c hc
    rw [isBreak_eq_false (hfront c hc)]
    rfl
  unfold clean
  dsimp only
  rw [hkept front rest hne hfront, List.reverse_append, hend, List.reverse_append,
    List.reverse_reverse, List.filter_append, hbreaks]
  exact ⟨_, rfl⟩

theorem clean_eq_self {cs : List Char} (h : ∀ c ∈ cs, isOuterBlank c = false) : clean cs = cs := by
  have hkept : ∀ ds : List Char, (∀ c ∈ ds, isOuterBlank c = false) →
      ds.dropWhile isOuterBlank = ds := by
    intro ds hds
    rw [List.dropWhile_eq_self_iff]
    intro hpos
    rw [hds _ (List.getElem_mem hpos)]
    exact Bool.false_ne_true
  unfold clean
  dsimp only
  rw [hkept cs h, hkept cs.reverse (by simpa using h), List.reverse_reverse, List.filter_eq_self]
  intro c hc
  rw [isBreak_eq_false (h c hc)]
  rfl

theorem IsWeb.exists_host {url : String} {u : Url} (hparse : Url.parse url = .ok u)
    (hweb : u.IsWeb) : ∃ host, u.host? = some host ∧ IsHostText host.toList := by
  rcases exists_locator_of_parse hparse with ⟨_, _, _, v, _, hlocator, hsame, hhost⟩
  rw [hhost]
  exact readLocator_special (hsame ▸ hweb.kind) hlocator

theorem IsWeb.http_prefix {url : String} {u : Url} (hparse : Url.parse url = .ok u)
    (hweb : u.IsWeb) : "http".toList <+: lower (clean url.toList) := by
  rcases exists_locator_of_parse hparse with ⟨rest, _, _, v, hscheme, _, hsame, _⟩
  rw [← hsame] at hscheme
  rcases scheme?_eq_some hscheme with ⟨spelled, htext, hspelled⟩
  have hlower : lower (clean url.toList) = u.scheme ++ lower (':' :: rest) := by
    rw [htext, hspelled]
    exact List.map_append
  rw [hlower]
  rcases hweb with hhttp | hhttps
  · rw [hhttp]
    exact List.prefix_append _ _
  · rw [hhttps]
    exact ⟨'s' :: lower (':' :: rest), rfl⟩

end Url
end SiteGuard
