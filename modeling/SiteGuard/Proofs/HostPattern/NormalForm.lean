import SiteGuard.Proofs.Url.HostSource

/-!
# Hosts that name themselves

A text names a host, and that host, taken as a text, should name itself.  It does
where it is plain: the brackets of an IPv6 address, a star in front, or escapes
of what no host may hold get in the way.
-/

namespace SiteGuard
namespace HostPattern

open Text

/-! ## What is named -/

/-- What a host looks like that some text names. -/
structure Written (cs : List Char) : Prop where
  small : lower cs = cs
  trimmed : Trimmed cs
  slash : '/' ∉ cs

theorem before_eq_self {mark : Char} {cs : List Char} (h : mark ∉ cs) : before mark cs = cs := by
  unfold before
  rw [List.takeWhile_eq_self_iff]
  intro c hc
  rw [bne_iff_ne]
  rintro rfl
  exact h hc

theorem not_mem_before (mark : Char) (cs : List Char) : mark ∉ before mark cs := by
  intro hmem
  have hkept := List.mem_takeWhile_imp hmem
  simp at hkept

theorem before_subset (mark : Char) (cs : List Char) : before mark cs ⊆ cs :=
  (List.takeWhile_sublist _).subset

theorem withoutFinalDots_isFront (cs : List Char) : withoutFinalDots cs <+: cs := by
  unfold withoutFinalDots
  have hsuffix := List.dropWhile_suffix (· == '.') (l := cs.reverse)
  rw [← List.reverse_prefix, List.reverse_reverse] at hsuffix
  exact hsuffix

theorem trim_subset (cs : List Char) : trim cs ⊆ cs := by
  have hend : ∀ ds : List Char, trimEnd ds ⊆ ds := by
    intro ds c hc
    have hmem := (List.dropWhile_sublist isBlank).subset (List.mem_reverse.mp hc)
    exact List.mem_reverse.mp hmem
  exact List.Subset.trans (hend _) (List.dropWhile_sublist isBlank).subset

theorem mem_lower_iff {mark : Char} (hmark : mark.isAlpha = false) {cs : List Char} :
    mark ∈ lower cs ↔ mark ∈ cs := by
  unfold lower
  rw [List.mem_map]
  constructor
  · rintro ⟨c, hc, hlower⟩
    rw [(toLower_eq_iff hmark).mp hlower] at hc
    exact hc
  · intro hmem
    exact ⟨mark, hmem, (toLower_eq_iff hmark).mpr rfl⟩

theorem not_mem_bareHost {mark : Char} (hmark : mark = '/' ∨ mark = ':') (cs : List Char) :
    mark ∉ bareHost cs := by
  have halpha : mark.isAlpha = false := by
    rcases hmark with rfl | rfl
    · decide
    · decide
  unfold bareHost
  rw [mem_lower_iff halpha]
  intro hmem
  have hport := trim_subset _ hmem
  rcases hmark with rfl | rfl
  · exact not_mem_before '/' _ (before_subset ':' _ hport)
  · exact not_mem_before ':' _ hport

theorem written_bareHost (cs : List Char) : Written (bareHost cs) := by
  constructor
  · exact lower_lower _
  · exact (trimmed_trim _).lower
  · exact not_mem_bareHost (Or.inl rfl) cs

theorem eq_ok_of_toOption {ε α : Type} {x : Except ε α} {a : α} (h : x.toOption = some a) :
    x = .ok a := by
  cases x with
  | error e =>
      cases h
  | ok b =>
      rw [Option.some.inj h]

theorem hostname?_eq_some {t k : String} (h : hostname? t = some k) :
    (∃ u host, Url.parseChars (trim t.toList) = .ok u ∧
        u.authority.bind (·.host) = some host ∧
        k.toList = lower (withoutFinalDots host.text)) ∨
      ((Url.parseChars (trim t.toList)).toOption.bind Url.host? = none ∧
        k.toList = bareHost (trim t.toList) ∧ k.toList ≠ [] ∧ isHost k.toList = true) := by
  unfold hostname? at h
  dsimp only at h
  split at h
  · rename_i text hfound
    rcases Option.bind_eq_some_iff.mp hfound with ⟨u, hparse, hhost⟩
    rcases Option.map_eq_some_iff.mp hhost with ⟨host, hauthority, rfl⟩
    obtain rfl := Option.some.inj h
    refine Or.inl ⟨u, host, eq_ok_of_toOption hparse, hauthority, ?_⟩
    simp
  · rename_i hnone
    split at h
    · cases h
    · rename_i haccepted
      obtain rfl := Option.some.inj h
      rw [Bool.or_eq_true, not_or] at haccepted
      refine Or.inr ⟨hnone, by simp, ?_, ?_⟩
      · simpa using haccepted.1
      · simpa using haccepted.2

theorem bracketed_text (address : Ipv6) : ∀ c ∈ (Url.Host.ipv6 address).text,
    isBlank c = false ∧ c ≠ '/' := by
  intro c hc
  rcases List.mem_append.mp hc with hc | hc
  · rcases List.mem_cons.mp hc with rfl | hc
    · decide
    · exact Url.of_mem_ipv6_text (P := fun c => isBlank c = false ∧ c ≠ '/') (by decide)
        (by decide) address c hc
  · rw [List.mem_singleton.mp hc]
    decide

theorem hostText_of_parse {cs : List Char} {u : Url} {host : Url.Host}
    (hparse : Url.parseChars cs = .ok u) (hhost : u.authority.bind (·.host) = some host) :
    ∀ c ∈ host.text, isBlank c = false ∧ c ≠ '/' := by
  intro c hc
  rcases (Url.hostOf_parseChars hparse hhost).text with ⟨address, rfl⟩ | hname
  · exact bracketed_text address c hc
  · exact ⟨(hname c hc).1, (hname c hc).2.1⟩

theorem written_of_hostname? {t k : String} (h : hostname? t = some k) : Written k.toList := by
  rcases hostname?_eq_some h with ⟨u, host, hparse, hhost, hk⟩ | ⟨_, hk, _⟩
  · have hchars : ∀ c ∈ withoutFinalDots host.text, isBlank c = false ∧ c ≠ '/' :=
      fun c hc => hostText_of_parse hparse hhost c ((withoutFinalDots_isFront _).subset hc)
    rw [hk]
    constructor
    · exact lower_lower _
    · exact (trimmed_of_all fun c hc => (hchars c hc).1).lower
    · rw [mem_lower_iff (by decide)]
      exact fun hslash => (hchars '/' hslash).2 rfl
  · rw [hk]
    exact written_bareHost _

/-! ## Texts that are no addresses -/

theorem clean_subset (cs : List Char) : Url.clean cs ⊆ cs := by
  intro c hc
  have hbody := List.mem_reverse.mp (List.mem_of_mem_filter hc)
  have hstart := List.mem_reverse.mp ((List.dropWhile_sublist _).subset hbody)
  exact (List.dropWhile_sublist _).subset hstart

theorem parseChars_of_not_mem {cs : List Char} (h : ':' ∉ cs) :
    Url.parseChars cs = .error .noScheme := by
  have hscheme : Url.scheme? (Url.clean cs) = none := by
    unfold Url.scheme?
    rw [cut_eq_none_iff.mpr fun hmem => h (clean_subset cs hmem)]
    rfl
  unfold Url.parseChars
  rw [hscheme]

theorem parseChars_bracket (rest : List Char) :
    Url.parseChars ('[' :: rest) = .error .noScheme := by
  have hfront : ∀ c ∈ ['['], Url.isOuterBlank c = false :=
    List.forall_mem_singleton.mpr rfl
  have hscheme : Url.scheme? (Url.clean ('[' :: rest)) = none := by
    rcases Url.clean_append (List.cons_ne_nil _ _) hfront rest with ⟨more, hclean⟩
    rw [List.singleton_append, List.singleton_append] at hclean
    rw [hclean]
    unfold Url.scheme?
    have hcut : cut ':' ('[' :: more) =
        (cut ':' more).map fun parts => ('[' :: parts.1, parts.2) := by
      rfl
    rw [hcut]
    cases cut ':' more with
    | none =>
        rfl
    | some parts =>
        rfl
  unfold Url.parseChars
  rw [hscheme]

/-! ## Hosts that name themselves -/

/-- A host that is found under its own name. -/
structure Plain (host : String) : Prop where
  nonempty : host.toList ≠ []
  colon : ':' ∉ host.toList
  star : ¬star <+: host.toList
  accepted : isHost host.toList = true

theorem not_star_of_bareHost {cs : List Char} (h : bareHost cs = cs) : ¬star <+: cs := by
  rintro ⟨rest, rfl⟩
  have hbase : base (star ++ rest) = rest := by
    unfold base
    rw [stripStart_eq_some_iff.mpr rfl]
    rfl
  have hcut : ∀ (mark : Char) (ds : List Char), (before mark ds).length ≤ ds.length :=
    fun mark ds => (List.takeWhile_sublist _).length_le
  have htrim : ∀ ds : List Char, (trim ds).length ≤ ds.length := by
    intro ds
    have hstart : (trimStart ds).length ≤ ds.length := (List.dropWhile_sublist _).length_le
    have hend : ((trimStart ds).reverse.dropWhile isBlank).length ≤ (trimStart ds).length := by
      rw [← @List.length_reverse _ (trimStart ds)]
      exact (List.dropWhile_sublist _).length_le
    unfold trim trimEnd
    rw [List.length_reverse]
    exact Nat.le_trans hend hstart
  have hlength : (bareHost (star ++ rest)).length ≤ rest.length := by
    unfold bareHost lower
    rw [hbase, List.length_map]
    exact Nat.le_trans (htrim _) (Nat.le_trans (hcut ':' _) (hcut '/' _))
  rw [h, List.length_append] at hlength
  exact absurd hlength (by simp [star])

/-- A text with a colon is read as the address of a page, if at all, and not under that name. -/
theorem not_self_of_address {k : String} {u : Url} {host : Url.Host}
    (hparse : Url.parseChars k.toList = .ok u) (hhost : u.authority.bind (·.host) = some host)
    (hk : k.toList = lower (withoutFinalDots host.text)) : False := by
  have hcolon : ':' ∈ k.toList := by
    by_cases hmem : ':' ∈ k.toList
    · exact hmem
    · rw [parseChars_of_not_mem hmem] at hparse
      cases hparse
  rcases (Url.hostOf_parseChars hparse hhost).text with ⟨address, rfl⟩ | hname
  · have hlast : withoutFinalDots (Url.Host.ipv6 address).text =
        (Url.Host.ipv6 address).text :=
      Url.withoutFinalDots_of_last (by decide) ('[' :: address.text)
    have hbracket : k.toList = '[' :: lower (address.text ++ [']']) := by
      rw [hk, hlast]
      rfl
    rw [hbracket, parseChars_bracket] at hparse
    cases hparse
  · rw [hk, mem_lower_iff (by decide)] at hcolon
    exact (hname ':' ((withoutFinalDots_isFront _).subset hcolon)).2.2 rfl

/-- Among the hosts that are named by some text, it is the plain ones that name themselves. -/
theorem hostname?_self_iff {k : String} (hwritten : Written k.toList) :
    hostname? k = some k ↔ Plain k := by
  have htrim : trim k.toList = k.toList := trim_eq_self hwritten.trimmed
  constructor
  · intro hself
    rcases hostname?_eq_some hself with ⟨u, host, hparse, hhost, hk⟩ | ⟨_, hk, hne, haccepted⟩
    · rw [htrim] at hparse
      exact (not_self_of_address hparse hhost hk).elim
    · rw [htrim] at hk
      refine ⟨hne, ?_, not_star_of_bareHost hk.symm, haccepted⟩
      rw [hk]
      exact not_mem_bareHost (Or.inr rfl) _
  · intro hplain
    have hbare : bareHost k.toList = k.toList := by
      unfold bareHost base
      rw [stripStart_eq_none_iff.mpr hplain.star, Option.getD_none,
        before_eq_self hwritten.slash, before_eq_self hplain.colon, htrim, hwritten.small]
    unfold hostname?
    dsimp only
    rw [htrim, parseChars_of_not_mem hplain.colon, hbare]
    show (if k.toList.isEmpty || !isHost k.toList then none
      else some (String.ofList k.toList)) = some k
    rw [hplain.accepted, List.isEmpty_eq_false_iff.mpr hplain.nonempty, String.ofList_toList]
    rfl

theorem hostname?_hostname?_iff {t k : String} (h : hostname? t = some k) :
    hostname? k = some k ↔ Plain k :=
  hostname?_self_iff (written_of_hostname? h)

theorem lower_plain {cs : List Char} (hplain : ∀ c ∈ cs, Url.Domain.isPlain c = true) :
    lower (withoutFinalDots cs) = withoutFinalDots cs := by
  have hsmall : Url.IsHostText (withoutFinalDots cs) :=
    fun c hc => Url.isPlain_isHostChar (hplain c ((withoutFinalDots_isFront cs).subset hc))
  exact hsmall.lower

theorem hostname?_ipv4 (address : Ipv4) :
    hostname? (String.ofList address.text) = some (String.ofList address.text) := by
  have hchars : ∀ c ∈ address.text, isBlank c = false ∧ c ≠ '/' ∧ c ≠ ':' ∧ c ≠ '*' :=
    Url.of_mem_ipv4_text (by decide) (by decide) address
  have hsmall := lower_plain (Url.ipv4_text_plain address)
  rw [Url.withoutFinalDots_ipv4_text] at hsmall
  have hwritten : Written (String.ofList address.text).toList := by
    rw [String.toList_ofList]
    exact ⟨hsmall, trimmed_of_all fun c hc => (hchars c hc).1, fun hc => (hchars _ hc).2.1 rfl⟩
  rw [hostname?_self_iff hwritten]
  constructor
  · rw [String.toList_ofList]
    exact Url.ipv4_text_ne_nil address
  · rw [String.toList_ofList]
    exact fun hc => (hchars _ hc).2.2.1 rfl
  · rw [String.toList_ofList]
    rintro ⟨rest, hrest⟩
    exact (hchars '*' (by rw [← hrest]; exact List.mem_cons_self)).2.2.2 rfl
  · rw [String.toList_ofList]
    exact Url.isHost_ipv4 address

/-! ## Texts that name plain hosts -/

/--
An address of a special scheme whose host is not in brackets, has no star in
front and at most one dot at its end, or a pattern with one star at most.
-/
inductive Ordinary (t : String) : Prop where
  | address {u : Url} {host : Url.Host} (hparse : Url.parseChars (trim t.toList) = .ok u)
      (hspecial : (Url.kindOf u.scheme).isSpecial = true)
      (hhost : u.authority.bind (·.host) = some host) (hname : ∀ address, host ≠ .ipv6 address)
      (hstar : ¬star <+: host.text) (hdots : ¬['.', '.'] <:+ host.text)
      (hroot : host.text ≠ ['.']) : Ordinary t
  | pattern (hurl : (Url.parseChars (trim t.toList)).toOption.bind Url.host? = none)
      (hstar : ¬star <+: bareHost (trim t.toList)) : Ordinary t

theorem withoutFinalDots_ne_nil {cs : List Char} (hne : cs ≠ []) (hroot : cs ≠ ['.'])
    (hdots : ¬['.', '.'] <:+ cs) : withoutFinalDots cs ≠ [] := by
  rcases List.eq_nil_or_concat cs with rfl | ⟨front, c, rfl⟩
  · exact absurd rfl hne
  · rw [List.concat_eq_append] at *
    by_cases hc : c = '.'
    · subst hc
      rw [Url.withoutFinalDots_append_dot]
      rcases List.eq_nil_or_concat front with rfl | ⟨start, d, rfl⟩
      · exact absurd rfl hroot
      · rw [List.concat_eq_append] at *
        have hd : d ≠ '.' := by
          rintro rfl
          exact hdots ⟨start, by simp⟩
        rw [Url.withoutFinalDots_of_last hd]
        simp
    · rw [Url.withoutFinalDots_of_last hc]
      simp

theorem plain_of_host {cs : List Char} {k : String}
    (hplain : ∀ c ∈ cs, Url.Domain.isPlain c = true) (hk : k.toList = withoutFinalDots cs)
    (hstar : ¬star <+: cs) (hne : withoutFinalDots cs ≠ [])
    (haccepted : isHost (withoutFinalDots cs) = true) : Plain k := by
  have hfront := withoutFinalDots_isFront cs
  constructor
  · rw [hk]
    exact hne
  · rw [hk]
    intro hcolon
    exact (Url.isNameChar_of_plain (hplain ':' (hfront.subset hcolon))).2.2 rfl
  · rw [hk]
    exact fun hstarred => hstar (hstarred.trans hfront)
  · rw [hk]
    exact haccepted

theorem host?_of_address {cs : List Char} {u : Url} {host : Url.Host}
    (hparse : Url.parseChars cs = .ok u) (hhost : u.authority.bind (·.host) = some host) :
    (Url.parseChars cs).toOption.bind Url.host? = some (String.ofList host.text) := by
  rw [hparse]
  show (u.authority.bind (·.host)).map _ = _
  rw [hhost]
  rfl

theorem plain_of_special {cs : List Char} {host : Url.Host} {k : String}
    (hread : Url.Host.parse cs = .ok host) (hname : ∀ address, host ≠ .ipv6 address)
    (hstar : ¬star <+: host.text) (hdots : ¬['.', '.'] <:+ host.text) (hroot : host.text ≠ ['.'])
    (hk : k.toList = lower (withoutFinalDots host.text)) : Plain k := by
  rcases Url.parse_eq_ok hread with ⟨address, rfl⟩ | ⟨address, rfl⟩ |
    ⟨name, labels, rfl, hplain, hlabels, hascii⟩
  · exact absurd rfl (hname address)
  · have hplain := Url.ipv4_text_plain address
    have hsame := Url.withoutFinalDots_ipv4_text address
    rw [show (Url.Host.ipv4 address).text = address.text from rfl, lower_plain hplain] at hk
    refine plain_of_host hplain hk hstar ?_ ?_
    · rw [hsame]
      exact Url.ipv4_text_ne_nil address
    · rw [hsame]
      exact Url.isHost_ipv4 address
  · rw [show (Url.Host.domain name).text = name from rfl, lower_plain hplain] at hk
    have hne := withoutFinalDots_ne_nil (Url.ofAscii_eq_domain hascii).2.1 hroot hdots
    exact plain_of_host hplain hk hstar hne
      (Url.isHost_withoutFinalDots hplain hlabels hascii hdots hne)

theorem Ordinary.plain {t k : String} (h : Ordinary t) (hk : hostname? t = some k) :
    Plain k := by
  cases h with
  | address hparse hspecial hhost hname hstar hdots hroot =>
      rcases hostname?_eq_some hk with ⟨u, host, hparse', hhost', hk⟩ | ⟨hnone, _⟩
      · rw [hparse] at hparse'
        cases hparse'
        rw [hhost] at hhost'
        cases hhost'
        rcases (Url.hostOf_parseChars hparse hhost).parse hspecial with ⟨text, hread⟩
        exact plain_of_special hread hname hstar hdots hroot hk
      · rw [host?_of_address hparse hhost] at hnone
        cases hnone
  | pattern hurl hstar =>
      rcases hostname?_eq_some hk with ⟨u, host, hparse, hhost, _⟩ | ⟨_, hk, hne, haccepted⟩
      · rw [host?_of_address hparse hhost] at hurl
        cases hurl
      · refine ⟨hne, ?_, ?_, haccepted⟩
        · rw [hk]
          exact not_mem_bareHost (Or.inr rfl) _
        · rw [hk]
          exact hstar

end HostPattern
end SiteGuard
