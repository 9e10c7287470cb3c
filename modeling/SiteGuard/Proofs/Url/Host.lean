import SiteGuard.HostPattern
import SiteGuard.Proofs.Url.Domain
import SiteGuard.Proofs.Url.Percent
import SiteGuard.Proofs.Url.Web

/-!
# Hosts that are read again

A domain in its ASCII form is a host once more, and so are an IPv4 address and a
domain without the dot at its end.
-/

namespace SiteGuard
namespace Url

open Text

/-! ## Plain domains -/

section Plain

variable {cs name : List Char} {labels : List Domain.Label}

theorem ne_of_plain {c mark : Char} (h : Domain.isPlain c = true)
    (hmark : Domain.isPlain mark = false) : c ≠ mark := by
  rintro rfl
  rw [hmark] at h
  cases h

theorem Host.parse_plain (hplain : ∀ c ∈ cs, Domain.isPlain c = true)
    (hlabels : Domain.labels? cs = some labels) : Host.parse cs = Host.ofAscii cs := by
  have hunescaped : '%' ∉ cs := fun hmem => ne_of_plain (hplain _ hmem) (by decide) rfl
  have hdecoded : Utf8.decode? (Percent.decode cs) = some cs := by
    rw [Percent.decode_of_not_mem hunescaped]
    exact Utf8.decode?_encode cs
  have hascii : (Utf8.decode? (Percent.decode cs)).bind Domain.toAscii? = some cs := by
    rw [hdecoded]
    exact Domain.toAscii?_plain hplain hlabels
  unfold Host.parse
  split
  · exact absurd rfl (ne_of_plain (hplain '[' List.mem_cons_self) (by decide))
  · rw [hascii]

theorem isHost_plain (hplain : ∀ c ∈ cs, Domain.isPlain c = true)
    (hlabels : Domain.labels? cs = some labels) {host : Host}
    (hread : Host.ofAscii cs = .ok host) : HostPattern.isHost cs = true := by
  unfold HostPattern.isHost
  rw [Host.parse_plain hplain hlabels, hread]

end Plain

/-! ## Domains without a final dot -/

theorem ofAscii_eq_domain {name name' : List Char} (h : Host.ofAscii name = .ok (.domain name')) :
    name' = name ∧ name ≠ [] ∧ Ipv4.endsInNumber name = false := by
  unfold Host.ofAscii at h
  split at h
  · cases h
  · rename_i hempty
    split at h
    · split at h
      · cases h
      · cases h
    · rename_i hnumber
      cases h
      exact ⟨rfl, by simpa using hempty, by simpa using hnumber⟩

theorem ofAscii_of_not_number {name : List Char} (hne : name ≠ [])
    (hnumber : Ipv4.endsInNumber name = false) : Host.ofAscii name = .ok (.domain name) := by
  unfold Host.ofAscii
  rw [if_neg (by simpa using hne), if_neg (by simp [hnumber])]

theorem getLast?_pieces_ne {sep c : Char} (hc : c ≠ sep) (cs : List Char) :
    (pieces sep (cs ++ [c])).getLast? ≠ some [] := by
  induction cs with
  | nil =>
      rw [List.nil_append, pieces_cons_of_ne hc rfl]
      simp
  | cons d rest ih =>
      rcases exists_pieces sep (rest ++ [c]) with ⟨piece, more, hrest⟩
      rw [List.cons_append]
      by_cases hd : d = sep
      · rw [pieces, if_pos hd, List.getLast?_cons_of_ne_nil (pieces_ne_nil sep _)]
        exact ih
      · rw [hrest] at ih
        rw [pieces_cons_of_ne hd hrest]
        cases more with
        | nil =>
            simp
        | cons next others =>
            simpa using ih

theorem hostParts_of_last {c : Char} (hc : c ≠ '.') (cs : List Char) :
    Ipv4.hostParts (cs ++ [c]) = pieces '.' (cs ++ [c]) := by
  unfold Ipv4.hostParts
  apply if_neg
  rintro ⟨_, hlast⟩
  exact getLast?_pieces_ne hc cs hlast

/-- One dot at the end of a domain does not make a number of it, or of a number something else. -/
theorem endsInNumber_of_final_dot {c : Char} (hc : c ≠ '.') (cs : List Char) :
    Ipv4.endsInNumber (cs ++ [c] ++ ['.']) = Ipv4.endsInNumber (cs ++ [c]) := by
  have hdotted : Ipv4.hostParts (cs ++ [c] ++ ['.']) = pieces '.' (cs ++ [c]) := by
    unfold Ipv4.hostParts
    dsimp only
    rw [pieces_append_sep]
    rw [if_pos ⟨by simp [pieces_ne_nil], by simp⟩, List.dropLast_concat]
  unfold Ipv4.endsInNumber
  rw [hdotted, hostParts_of_last hc]

theorem withoutFinalDots_append_dot (cs : List Char) :
    HostPattern.withoutFinalDots (cs ++ ['.']) = HostPattern.withoutFinalDots cs := by
  simp [HostPattern.withoutFinalDots]

theorem withoutFinalDots_of_last {c : Char} (hc : c ≠ '.') (cs : List Char) :
    HostPattern.withoutFinalDots (cs ++ [c]) = cs ++ [c] := by
  simp [HostPattern.withoutFinalDots, hc]

theorem isHost_withoutFinalDots {name name' : List Char} {labels : List Domain.Label}
    (hplain : ∀ c ∈ name, Domain.isPlain c = true) (hlabels : Domain.labels? name = some labels)
    (hread : Host.ofAscii name = .ok (.domain name')) (hdots : ¬['.', '.'] <:+ name)
    (hne : HostPattern.withoutFinalDots name ≠ []) :
    HostPattern.isHost (HostPattern.withoutFinalDots name) = true := by
  rcases List.eq_nil_or_concat name with rfl | ⟨front, c, rfl⟩
  · exact absurd rfl hne
  · rw [List.concat_eq_append] at *
    by_cases hc : c = '.'
    · subst hc
      rw [withoutFinalDots_append_dot] at hne ⊢
      rcases List.eq_nil_or_concat front with rfl | ⟨start, d, rfl⟩
      · exact absurd rfl hne
      · rw [List.concat_eq_append] at *
        have hd : d ≠ '.' := by
          rintro rfl
          exact hdots ⟨start, by simp⟩
        rw [withoutFinalDots_of_last hd]
        have hplain' : ∀ c ∈ start ++ [d], Domain.isPlain c = true :=
          fun c hc => hplain c (List.mem_append_left _ hc)
        rcases Domain.labels?_of_final_dot hplain hlabels with ⟨before, hbefore⟩
        have hnumber := (ofAscii_eq_domain hread).2.2
        rw [endsInNumber_of_final_dot hd] at hnumber
        exact isHost_plain hplain' hbefore (ofAscii_of_not_number (by simp) hnumber)
    · rw [withoutFinalDots_of_last hc]
      exact isHost_plain hplain hlabels hread

/-! ## IPv4 addresses -/

theorem octetText_spec : ∀ n : Fin 256,
    (Nat.toDigits 10 n.val).all (fun c => Domain.isPlain c && c != '.') = true ∧
      stripStart Domain.aceStart (Nat.toDigits 10 n.val) = none ∧
      Ipv4.number? (Nat.toDigits 10 n.val) = some n.val := by
  decide +kernel

def octetTexts (a : Ipv4) : List (List Char) :=
  [0, 1, 2, 3].map fun place => Nat.toDigits 10 (a.octet place)

section Octets

variable (a : Ipv4)

theorem ipv4_text_eq : a.text = join '.' (octetTexts a) := by
  simp [Ipv4.text, octetTexts]

theorem octet_lt (place : Nat) : a.octet place < 256 :=
  Nat.mod_lt _ (by decide)

theorem number?_octet (place : Nat) :
    Ipv4.number? (Nat.toDigits 10 (a.octet place)) = some (a.octet place) :=
  (octetText_spec ⟨a.octet place, octet_lt a place⟩).2.2

theorem octetTexts_spec : ∀ part ∈ octetTexts a,
    (∀ c ∈ part, Domain.isPlain c = true ∧ c ≠ '.') ∧
      stripStart Domain.aceStart part = none ∧ part ≠ [] := by
  intro part hpart
  rcases List.mem_map.mp hpart with ⟨place, _, rfl⟩
  rcases octetText_spec ⟨a.octet place, octet_lt a place⟩ with ⟨hchars, hcoded, hnumber⟩
  refine ⟨?_, hcoded, ?_⟩
  · simpa using hchars
  · intro hempty
    rw [hempty] at hnumber
    cases hnumber

theorem pieces_ipv4_text : pieces '.' a.text = octetTexts a := by
  rw [ipv4_text_eq]
  refine pieces_join (List.cons_ne_nil _ _) ?_
  intro part hpart hdot
  exact ((octetTexts_spec a part hpart).1 '.' hdot).2 rfl

theorem ipv4_text_plain : ∀ c ∈ a.text, Domain.isPlain c = true := by
  intro c hc
  rw [ipv4_text_eq] at hc
  rcases of_mem_join hc with rfl | ⟨part, hpart, hc⟩
  · decide
  · exact ((octetTexts_spec a part hpart).1 c hc).1

theorem hostParts_ipv4_text : Ipv4.hostParts a.text = octetTexts a := by
  unfold Ipv4.hostParts
  rw [pieces_ipv4_text]
  apply if_neg
  rintro ⟨_, hlast⟩
  exact (octetTexts_spec a [] (List.mem_of_getLast? hlast)).2.2 rfl

theorem ofHost?_ipv4_text : Ipv4.ofHost? a.text = some a := by
  have hnumbers : (octetTexts a).mapM Ipv4.number? =
      some [a.octet 0, a.octet 1, a.octet 2, a.octet 3] := by
    simp [octetTexts, number?_octet]
  have hvalue : a.octet 0 * Nat.pow 256 3 + (a.octet 1 * Nat.pow 256 2 +
      (a.octet 2 * Nat.pow 256 1 + a.octet 3)) = a.value.toNat := by
    have hbound : a.value.toNat < 4294967296 := a.value.toNat_lt
    simp only [Ipv4.octet, Nat.pow_eq, Nat.reduceSub, Nat.reducePow]
    omega
  have hcombined : Ipv4.combine? 4 [a.octet 0, a.octet 1, a.octet 2, a.octet 3] =
      some a.value.toNat := by
    have hlast : a.octet 3 < Nat.pow 256 (0 + 1) := octet_lt a 3
    simp only [Ipv4.combine?, octet_lt, hlast, if_true, Option.bind_eq_bind, Option.bind_some]
    exact congrArg some hvalue
  unfold Ipv4.ofHost?
  rw [hostParts_ipv4_text, hnumbers]
  show (Ipv4.combine? 4 _).bind _ = some a
  rw [hcombined, Option.bind_some, UInt32.ofNat_toNat]

theorem endsInNumber_ipv4_text : Ipv4.endsInNumber a.text = true := by
  have hlast : (octetTexts a).getLast? = some (Nat.toDigits 10 (a.octet 3)) := by
    rfl
  unfold Ipv4.endsInNumber
  rw [hostParts_ipv4_text, hlast]
  simp [number?_octet]

theorem ipv4_text_ne_nil : a.text ≠ [] := by
  intro hempty
  have hpieces := pieces_ipv4_text a
  rw [hempty] at hpieces
  exact (octetTexts_spec a [] (hpieces ▸ List.mem_cons_self)).2.2 rfl

theorem withoutFinalDots_ipv4_text : HostPattern.withoutFinalDots a.text = a.text := by
  rcases List.eq_nil_or_concat a.text with hempty | ⟨front, c, htext⟩
  · exact absurd hempty (ipv4_text_ne_nil a)
  · rw [List.concat_eq_append] at htext
    have hc : c ≠ '.' := by
      rintro rfl
      have hpieces := pieces_ipv4_text a
      rw [htext, pieces_append_sep] at hpieces
      have hlast : [] ∈ octetTexts a := hpieces ▸ List.mem_append_right _ List.mem_cons_self
      exact (octetTexts_spec a [] hlast).2.2 rfl
    rw [htext]
    exact withoutFinalDots_of_last hc front

theorem labels?_ipv4_text : ∃ labels, Domain.labels? a.text = some labels := by
  have hcoded : ∀ piece ∈ pieces '.' a.text, stripStart Domain.aceStart piece = none := by
    rw [pieces_ipv4_text]
    exact fun part hpart => (octetTexts_spec a part hpart).2.1
  exact Domain.labels?_uncoded (ipv4_text_plain a) hcoded

theorem ofAscii_ipv4_text : Host.ofAscii a.text = .ok (.ipv4 a) := by
  unfold Host.ofAscii
  rw [if_neg (by simpa using ipv4_text_ne_nil a), if_pos (endsInNumber_ipv4_text a),
    ofHost?_ipv4_text]

theorem isHost_ipv4 : HostPattern.isHost a.text = true := by
  rcases labels?_ipv4_text a with ⟨labels, hlabels⟩
  exact isHost_plain (ipv4_text_plain a) hlabels (ofAscii_ipv4_text a)

end Octets

end Url
end SiteGuard
