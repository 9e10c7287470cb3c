import SiteGuard.Proofs.Url.Path

/-!
# Addresses that are read again

An address with an authority is read back from its text, with whatever query it has
been given.  The one exception is the path of a file that begins with a drive letter:
such a file belongs to no host, and its letter is written with a colon.
-/

namespace SiteGuard
namespace Url

open Text

/-! ## Schemes -/

section Schemes

variable {scheme : List Char}

/-- A scheme as it is read: in small letters, and a letter in front. -/
structure IsScheme (scheme : List Char) : Prop where
  head : ∃ c ∈ scheme.head?, c.isAlpha = true
  chars : ∀ c ∈ scheme, isSchemeChar c = true ∧ c.toLower = c

theorem isSchemeChar_toLower {c : Char} (h : isSchemeChar c = true) :
    isSchemeChar c.toLower = true := by
  cases halpha : c.isAlpha with
  | false =>
      rw [toLower_eq_self halpha]
      exact h
  | true =>
      have hlower : c.toLower.isAlpha = true := by
        rw [Char.isAlpha_toLower_eq_isAlpha]
        exact halpha
      simp [isSchemeChar, Char.isAlphanum, hlower]

theorem isScheme_of_scheme? {cs rest : List Char} (h : scheme? cs = some (scheme, rest)) :
    IsScheme scheme := by
  unfold scheme? at h
  rcases Option.bind_eq_some_iff.mp h with ⟨⟨spelled, rest'⟩, _, h⟩
  cases spelled with
  | nil =>
      cases h
  | cons first more =>
      rcases Option.ite_none_right_eq_some.mp h with ⟨hspelled, hscheme⟩
      rw [Bool.and_eq_true, List.all_eq_true] at hspelled
      obtain rfl : lower (first :: more) = scheme := congrArg Prod.fst (Option.some.inj hscheme)
      constructor
      · refine ⟨first.toLower, rfl, ?_⟩
        rw [Char.isAlpha_toLower_eq_isAlpha]
        exact hspelled.1
      · intro c hc
        rcases List.mem_map.mp hc with ⟨d, hd, rfl⟩
        exact ⟨isSchemeChar_toLower (hspelled.2 d hd), Char.toLower_toLower_eq_toLower d⟩

theorem IsScheme.read (h : IsScheme scheme) (rest : List Char) :
    scheme? (scheme ++ ':' :: rest) = some (scheme, rest) := by
  have hcolon : ':' ∉ scheme := fun hmem => absurd (h.chars ':' hmem).1 (by decide)
  have hlower : lower scheme = scheme := by
    unfold lower
    rw [List.map_congr_left fun c hc => (h.chars c hc).2, List.map_id']
  have hall : scheme.all isSchemeChar = true :=
    List.all_eq_true.mpr fun c hc => (h.chars c hc).1
  unfold scheme?
  rw [cut_append hcolon]
  rcases h.head with ⟨first, hhead, halpha⟩
  rcases List.head?_eq_some_iff.mp hhead with ⟨more, rfl⟩
  show (if first.isAlpha && (first :: more).all isSchemeChar then
    some (lower (first :: more), rest) else none) = _
  rw [halpha, hall, hlower]
  rfl

theorem IsScheme.not_blank (h : IsScheme scheme) : ∀ c ∈ scheme, 0x20 < c.toNat := by
  have hall : ∀ n : Fin 128, n.val ≤ 0x20 → isSchemeChar (Char.ofNat n.val) = false := by
    decide
  intro c hc
  by_contra hblank
  have hnot := hall ⟨c.toNat, by omega⟩ (Nat.le_of_not_lt hblank)
  rw [Char.ofNat_toNat, (h.chars c hc).1] at hnot
  cases hnot

end Schemes

/-! ## Parts -/

/-- An address with an authority, in the form in which its parts are read. -/
structure Located (u : Url) (a : Authority) (segs : List (List Char)) : Prop where
  scheme : IsScheme u.scheme
  authority : u.authority = some a
  path : u.path = .rooted segs
  isRead : a.IsRead u.scheme
  segments : ∀ s ∈ segs, IsSegment (kindOf u.scheme) s
  rooted : (kindOf u.scheme).isSpecial = true → segs ≠ []
  file : kindOf u.scheme = .file → a = ⟨[], none, a.host, none⟩ ∧
    a.host ≠ some (.domain "localhost".toList) ∧ withoutEmptyFront segs = segs
  fragment : ∀ f ∈ u.fragment, Percent.Settled Percent.inFragment f

def onDrive (u : Url) (s : List Char) (rest : List (List Char)) : Url :=
  { u with
    authority := some ⟨[], none, none, none⟩
    path := .rooted (driveForm .file [] s :: rest) }

/--
An address as it is read from its own text: a drive letter in front of the path of a
file takes the host away and is written with a colon.
-/
def settled (u : Url) : Url :=
  match kindOf u.scheme, u.path with
  | .file, .rooted (s :: rest) => if isDrive s then u.onDrive s rest else u
  | _, _ => u

section Settled

variable {u : Url} {a : Authority} {segs : List (List Char)}

theorem settled_of_ne (h : kindOf u.scheme ≠ .file) : u.settled = u := by
  unfold settled
  split
  · rename_i hkind _
    exact absurd hkind h
  · rfl

theorem settled_of_file {s : List Char} {rest : List (List Char)} (hkind : kindOf u.scheme = .file)
    (hpath : u.path = .rooted (s :: rest)) :
    u.settled = if isDrive s then u.onDrive s rest else u := by
  unfold settled
  rw [hkind, hpath]

theorem settled_cases (u : Url) : u.settled = u ∨ ∃ s rest, kindOf u.scheme = .file ∧
    u.path = .rooted (s :: rest) ∧ isDrive s = true ∧ u.settled = u.onDrive s rest := by
  unfold settled
  split
  · rename_i s rest hkind hpath
    cases hdrive : isDrive s with
    | false =>
        exact Or.inl rfl
    | true =>
        exact Or.inr ⟨s, rest, hkind, hpath, hdrive, rfl⟩
  · exact Or.inl rfl

theorem settled_rest (u : Url) : u.settled.scheme = u.scheme ∧ u.settled.query = u.query ∧
    u.settled.fragment = u.fragment := by
  unfold settled
  split
  · split <;> exact ⟨rfl, rfl, rfl⟩
  · exact ⟨rfl, rfl, rfl⟩

/-! ## Where the parts come from -/

theorem located_of_readAuthority {scheme cs path : List Char} {more : Bool}
    (hscheme : IsScheme scheme) (hfile : kindOf scheme ≠ .file)
    (h : readAuthority scheme more cs = .ok (a, path)) :
    ∃ segs, Located ⟨scheme, some a, pathAfterHost (kindOf scheme) path, none, none⟩ a segs := by
  rcases pathAfterHost_eq (kindOf scheme) path with ⟨segs, hpath, hroot, hsegs⟩
  refine ⟨segs, hscheme, rfl, hpath, Authority.isRead_of_readAuthority h, hsegs, hroot, ?_, ?_⟩
  · exact fun hkind => absurd hkind hfile
  · exact fun f hf => nomatch hf

/-- The host of a file: none that is local, and none at all for some. -/
structure IsFileHost (host : Option Host) : Prop where
  hostOf : ∀ h ∈ host, HostOf .file h
  remote : host ≠ some (.domain "localhost".toList)

theorem IsFileHost.absent : IsFileHost none := by
  constructor
  · exact fun _ hh => nomatch hh
  · exact fun hlocal => nomatch hlocal

theorem isFileHost_of_readFileHost {cs : List Char} {host : Option Host}
    (h : readFileHost cs = .ok host) : IsFileHost host := by
  unfold readFileHost at h
  split at h
  · cases h
    exact .absent
  · rcases bind_eq_ok h with ⟨found, hread, hfound⟩
    split at hfound
    · cases hfound
      exact .absent
    · rename_i hremote
      cases hfound
      constructor
      · intro h hh
        rw [← Option.some.inj hh]
        exact .parsed rfl hread
      · exact fun hlocal => hremote (Option.some.inj hlocal)

theorem isRead_of_isFileHost {scheme : List Char} (hkind : kindOf scheme = .file)
    {host : Option Host} (h : IsFileHost host) :
    Authority.IsRead scheme ⟨[], none, host, none⟩ := by
  refine ⟨⟨.nil, fun _ hp => nomatch hp⟩, ?_, ?_, fun _ hp => nomatch hp⟩
  · rw [hkind]
    exact h.hostOf
  · rintro rfl
    rw [hkind]
    exact ⟨Kind.noConfusion, rfl⟩

def afterSlash (cs : List Char) : List Char :=
  match cs with
  | c :: rest => if isSlash .file c then rest else cs
  | [] => []

theorem fileUrl_eq (scheme : List Char) (host : Option Host) (cs : List Char) :
    fileUrl scheme host cs =
      ⟨scheme,
        some ⟨[], none,
          if ((segments .file (afterSlash cs)).head?.map isDrive).getD false then none else host,
          none⟩,
        .rooted (withoutEmptyFront (segments .file (afterSlash cs))), none, none⟩ :=
  rfl

theorem located_of_fileUrl {scheme : List Char} (hscheme : IsScheme scheme)
    (hkind : kindOf scheme = .file) {host : Option Host} (h : IsFileHost host) (cs : List Char) :
    ∃ a segs, Located (fileUrl scheme host cs) a segs := by
  have hhost : IsFileHost
      (if ((segments .file (afterSlash cs)).head?.map isDrive).getD false then none else host) := by
    split
    · exact .absent
    · exact h
  rw [fileUrl_eq]
  refine ⟨_, _, hscheme, rfl, rfl, isRead_of_isFileHost hkind hhost, ?_, ?_, ?_, ?_⟩
  · rw [hkind]
    intro s hs
    exact isSegment_of_mem_segments _ s (withoutEmptyFront_subset _ hs)
  · exact fun _ => withoutEmptyFront_ne_nil (segments_ne_nil _)
  · exact fun _ => ⟨rfl, hhost.remote, withoutEmptyFront_idem _⟩
  · exact fun f hf => nomatch hf

theorem located_of_readFile {scheme cs : List Char} (hscheme : IsScheme scheme)
    (hkind : kindOf scheme = .file) (h : readFile scheme cs = .ok u) :
    ∃ a segs, Located u a segs := by
  unfold readFile at h
  split at h
  · split at h
    · dsimp only at h
      split at h
      · cases h
        exact located_of_fileUrl hscheme hkind .absent _
      · rcases map_eq_ok h with ⟨host, hhost, rfl⟩
        exact located_of_fileUrl hscheme hkind (isFileHost_of_readFileHost hhost) _
    · cases h
      exact located_of_fileUrl hscheme hkind .absent _
  · cases h
    exact located_of_fileUrl hscheme hkind .absent _

theorem located_of_readLocator {scheme cs : List Char} {more : Bool} (hscheme : IsScheme scheme)
    (h : readLocator scheme more cs = .ok u) (hauthority : u.authority ≠ none) :
    ∃ a segs, Located u a segs := by
  unfold readLocator at h
  dsimp only at h
  split at h
  · rename_i hkind
    exact located_of_readFile hscheme hkind h
  · rename_i hkind
    rcases map_eq_ok h with ⟨⟨a, path⟩, hread, rfl⟩
    exact ⟨a, located_of_readAuthority hscheme (hkind.trans_ne (by decide)) hread⟩
  · rename_i hkind
    split at h
    · rcases map_eq_ok h with ⟨⟨a, path⟩, hread, rfl⟩
      exact ⟨a, located_of_readAuthority hscheme (hkind.trans_ne (by decide)) hread⟩
    · cases h
      exact absurd rfl hauthority
    · cases h
      exact absurd rfl hauthority

theorem located_of_parseChars {cs : List Char} (h : parseChars cs = .ok u)
    (hauthority : u.authority ≠ none) : ∃ a segs, Located u a segs := by
  unfold parseChars at h
  split at h
  · cases h
  · rename_i scheme rest hscheme
    rcases map_eq_ok h with ⟨v, hread, rfl⟩
    rcases located_of_readLocator (isScheme_of_scheme? hscheme) hread hauthority with
      ⟨a, segs, hlocated⟩
    refine ⟨a, segs, hlocated.scheme, hlocated.authority, hlocated.path, hlocated.isRead,
      hlocated.segments, hlocated.rooted, hlocated.file, ?_⟩
    intro f hf
    rcases Option.map_eq_some_iff.mp hf with ⟨fragment, _, rfl⟩
    exact Percent.settled_encode (by decide) (by decide) fragment

/-! ## Reading the parts again -/

namespace Located

theorem locator (h : Located u a segs) :
    u.locator = '/' :: '/' :: (a.text ++ (Path.rooted segs).text) := by
  unfold Url.locator
  rw [h.authority, h.path]

theorem readAuthority (h : Located u a segs) (hkind : kindOf u.scheme ≠ .file) (more : Bool) :
    Url.readAuthority u.scheme more (a.text ++ (Path.rooted segs).text) =
      .ok (a, (Path.rooted segs).text) := by
  apply h.isRead.read hkind
  intro c hc
  rw [head?_rooted_text c hc]
  rfl

theorem pathAfterHost (h : Located u a segs) (hkind : kindOf u.scheme ≠ .file) :
    Url.pathAfterHost (kindOf u.scheme) (Path.rooted segs).text = .rooted segs := by
  rw [pathAfterHost_text h.rooted h.segments, driveFront_of_ne hkind]

theorem readLocator_of_ne (h : Located u a segs) (hkind : kindOf u.scheme ≠ .file) (more : Bool) :
    readLocator u.scheme more u.locator = .ok { u with query := none, fragment := none } := by
  have hread := h.readAuthority hkind more
  have hpath := h.pathAfterHost hkind
  have hwhole : ((Url.readAuthority u.scheme more (a.text ++ (Path.rooted segs).text)).map
      fun read =>
        (⟨u.scheme, some read.1, Url.pathAfterHost (kindOf u.scheme) read.2, none, none⟩ : Url)) =
      .ok { u with query := none, fragment := none } := by
    rw [hread]
    show Except.ok (⟨u.scheme, some a, Url.pathAfterHost (kindOf u.scheme) _, none, none⟩ : Url) = _
    rw [hpath, ← h.authority, ← h.path]
  rw [h.locator]
  unfold readLocator
  dsimp only
  split
  · rename_i hfile
    exact absurd hfile hkind
  · rename_i hspecial
    have hdropped : ('/' :: '/' :: (a.text ++ (Path.rooted segs).text)).dropWhile
        (fun c => c == '/' || c == '\\') = a.text ++ (Path.rooted segs).text := by
      rcases List.exists_cons_of_ne_nil (h.isRead.text_ne_nil hspecial) with ⟨c, rest, htext⟩
      have hc := h.isRead.slashless c (htext ▸ List.mem_cons_self)
      rw [htext, List.cons_append, List.dropWhile_cons_of_pos rfl, List.dropWhile_cons_of_pos rfl,
        List.dropWhile_cons_of_neg (by simp [hc])]
    rw [hdropped]
    exact hwhole
  · exact hwhole

/-! ### Files -/

theorem isFileHost (h : Located u a segs) (hkind : kindOf u.scheme = .file) :
    IsFileHost a.host :=
  ⟨hkind ▸ h.isRead.host, (h.file hkind).2.1⟩

theorem text_of_file (h : Located u a segs) (hkind : kindOf u.scheme = .file) :
    a.text = (a.host.map Host.text).getD [] := by
  rw [(h.file hkind).1]
  simp [Authority.text, Authority.userinfo]

end Located

theorem IsFileHost.readFileHost {host : Option Host} (h : IsFileHost host) :
    readFileHost ((host.map Host.text).getD []) = .ok host := by
  cases host with
  | none =>
      rfl
  | some host =>
      have hof := h.hostOf host rfl
      rcases hof.parse rfl with ⟨text, hparse⟩
      have hremote : host ≠ .domain "localhost".toList := fun heq => h.remote (congrArg some heq)
      show Url.readFileHost host.text = _
      unfold Url.readFileHost
      rw [if_neg (by simpa using hof.text_ne_nil), Host.parse_text hparse]
      show Except.ok (if host = .domain "localhost".toList then none else some host) = _
      rw [if_neg hremote]

theorem IsFileHost.not_drive {host : Option Host} (h : IsFileHost host) :
    isDrive ((host.map Host.text).getD []) = false := by
  cases host with
  | none =>
      rfl
  | some host =>
      have hof := h.hostOf host rfl
      apply eq_false_of_ne_true
      intro hdrive
      rcases isDrive_iff.mp hdrive with ⟨letter, mark, htext, hletter, hmark⟩
      have htext : host.text = [letter, mark] := htext
      have hmem : mark ∈ host.text := by
        rw [htext]
        exact List.mem_cons_of_mem _ List.mem_cons_self
      rcases hmark with rfl | rfl
      · rcases hof.chars with ⟨address, rfl⟩ | hname
        · obtain rfl : '[' = letter := (List.cons.inj htext).1
          cases hletter
        · exact (hname _ hmem).2.1 rfl
      · exact absurd (hof.isAuthorityChar _ hmem) (by decide)

namespace Located

/-- What is behind the host of a file is read again but for a drive letter in front of it. -/
theorem fileUrl (h : Located u a segs) (hkind : kindOf u.scheme = .file) :
    Url.fileUrl u.scheme a.host (Path.rooted segs).text =
      { u.settled with query := none, fragment := none } := by
  have hne : segs ≠ [] := h.rooted (by rw [hkind]; rfl)
  have hsegs : ∀ s ∈ segs, IsSegment .file s := hkind ▸ h.segments
  have hparts :
      Url.segments .file (afterSlash (Path.rooted segs).text) = driveFront .file segs := by
    rw [rooted_text hne]
    exact segments_join hne hsegs
  rw [fileUrl_eq, hparts, withoutEmptyFront_driveFront (h.file hkind).2.2]
  cases segs with
  | nil =>
      exact absurd rfl hne
  | cons s rest =>
      rw [settled_of_file hkind h.path]
      show (⟨u.scheme, some ⟨[], none,
        if isDrive (driveForm .file [] s) then none else a.host, none⟩,
        .rooted (driveForm .file [] s :: rest), none, none⟩ : Url) = _
      rw [(isDrive_driveForm s).1]
      cases hdrive : isDrive s with
      | true =>
          rfl
      | false =>
          have ha := (h.file hkind).1
          rw [driveForm_of_not_drive [] hdrive]
          show (⟨u.scheme, some ⟨[], none, a.host, none⟩, .rooted (s :: rest), none, none⟩ : Url) =
            { u with query := none, fragment := none }
          rw [← ha, ← h.authority, ← h.path]

theorem readFile (h : Located u a segs) (hkind : kindOf u.scheme = .file) :
    Url.readFile u.scheme u.locator = .ok { u.settled with query := none, fragment := none } := by
  have hsplit : splitAuthority .file (a.text ++ (Path.rooted segs).text) =
      (a.text, (Path.rooted segs).text) := by
    apply h.isRead.splitAuthority
    intro c hc
    rw [head?_rooted_text c hc]
    rfl
  have hhost := h.isFileHost hkind
  rw [h.locator]
  unfold Url.readFile
  dsimp only
  rw [if_pos (by rfl), hsplit]
  dsimp only
  rw [h.text_of_file hkind, hhost.not_drive, hhost.readFileHost, ← h.fileUrl hkind]
  rfl

theorem readLocator (h : Located u a segs) (more : Bool) : Url.readLocator u.scheme more u.locator =
    .ok { u.settled with query := none, fragment := none } := by
  by_cases hkind : kindOf u.scheme = .file
  · unfold Url.readLocator
    rw [hkind]
    exact h.readFile hkind
  · rw [settled_of_ne hkind]
    exact h.readLocator_of_ne hkind more

end Located

/-! ## Whole addresses -/

/-- Nothing that is cleaned away, and neither of the marks that end a locator. -/
def IsLocatorChar (c : Char) : Prop :=
  0x20 < c.toNat ∧ c ≠ '#' ∧ c ≠ '?'

instance (c : Char) : Decidable (IsLocatorChar c) :=
  inferInstanceAs (Decidable (_ ∧ _))

theorem isLocatorChar_of_settled {s : List Char} (h : Percent.Settled Percent.inPath s) :
    ∀ c ∈ s, IsLocatorChar c :=
  h.chars (by decide)

theorem isLocatorChar_of_authority {c : Char} (h : c = '@' ∨ IsAuthorityChar c) :
    IsLocatorChar c := by
  rcases h with rfl | ⟨hblank, hmarks⟩
  · decide
  · refine ⟨hblank, ?_, ?_⟩
    · rintro rfl
      exact hmarks (by decide)
    · rintro rfl
      exact hmarks (by decide)

theorem not_blank_of_query {q : List Char} (h : Percent.Settled Percent.inSpecialQuery q) :
    ∀ c ∈ q, 0x20 < c.toNat :=
  h.chars (by decide)

theorem not_blank_of_fragment {f : List Char} (h : Percent.Settled Percent.inFragment f) :
    ∀ c ∈ f, 0x20 < c.toNat :=
  h.chars (by decide)

theorem of_mem_chars {c : Char} (h : c ∈ u.chars) : c ∈ u.scheme ∨ c = ':' ∨ c ∈ u.locator ∨
    c ∈ marked '?' u.query ∨ c ∈ marked '#' u.fragment := by
  unfold Url.chars at h
  rw [List.mem_append, List.mem_cons, List.mem_append, List.mem_append, or_assoc] at h
  exact h

theorem encode_query {kind : Kind} {q : List Char}
    (h : Percent.Settled Percent.inSpecialQuery q) :
    Percent.encode (if kind.isSpecial then Percent.inSpecialQuery else Percent.inQuery) q = q := by
  have hother : Percent.Settled Percent.inQuery q :=
    fun c hc => ⟨(h c hc).1, (Bool.or_eq_false_iff.mp (h c hc).2).1⟩
  split
  · exact h.encode_eq
  · exact hother.encode_eq

namespace Located

theorem locator_chars (h : Located u a segs) : ∀ c ∈ u.locator, IsLocatorChar c := by
  intro c hc
  rw [h.locator] at hc
  rcases List.mem_cons.mp hc with rfl | hc
  · decide
  · rcases List.mem_cons.mp hc with rfl | hc
    · decide
    · rcases List.mem_append.mp hc with hc | hc
      · exact isLocatorChar_of_authority (h.isRead.text_chars c hc)
      · rcases of_mem_rooted_text hc with rfl | ⟨s, hs, hc⟩
        · decide
        · exact isLocatorChar_of_settled (h.segments s hs).settled c hc

variable {q : List Char}

theorem clean_chars (h : Located u a segs) (hq : Percent.Settled Percent.inSpecialQuery q) :
    clean { u with query := some q }.chars = { u with query := some q }.chars := by
  apply clean_eq_self
  intro c hc
  have hblank : 0x20 < c.toNat := by
    rcases of_mem_chars hc with hscheme | rfl | hlocator | hquery | hfragment
    · exact h.scheme.not_blank c hscheme
    · decide
    · exact (h.locator_chars c hlocator).1
    · rcases of_mem_marked hquery with rfl | ⟨p, hp, hc⟩
      · decide
      · obtain rfl : q = p := Option.some.inj hp
        exact not_blank_of_query hq c hc
    · rcases of_mem_marked hfragment with rfl | ⟨f, hf, hc⟩
      · decide
      · exact not_blank_of_fragment (h.fragment f hf) c hc
  exact decide_eq_false (Nat.not_le_of_lt hblank)

theorem encode_fragment (h : Located u a segs) :
    u.fragment.map (Percent.encode Percent.inFragment) = u.fragment := by
  cases hf : u.fragment with
  | none =>
      rfl
  | some f =>
      exact congrArg some (h.fragment f hf).encode_eq

theorem parseChars (h : Located u a segs) (hq : Percent.Settled Percent.inSpecialQuery q) :
    Url.parseChars { u with query := some q }.chars =
      .ok { u.settled with query := some q } := by
  have hhash : '#' ∉ u.locator ++ marked '?' (some q) := by
    intro hmem
    rcases List.mem_append.mp hmem with hmem | hmem
    · exact (h.locator_chars _ hmem).2.1 rfl
    · rcases List.mem_cons.mp hmem with hmark | hmem
      · cases hmark
      · exact hq.not_mem (by decide) hmem
  have hmark : '?' ∉ u.locator := fun hmem => (h.locator_chars _ hmem).2.2 rfl
  have hscheme : scheme? (clean { u with query := some q }.chars) =
      some (u.scheme, u.locator ++ marked '?' (some q) ++ marked '#' u.fragment) := by
    rw [h.clean_chars hq]
    exact h.scheme.read _
  unfold Url.parseChars
  rw [hscheme]
  dsimp only
  rw [cutMark_append hhash, cutMark_append hmark]
  dsimp only
  rw [h.readLocator, h.encode_fragment, ← (settled_rest u).2.2]
  show Except.ok ({ u.settled with query := some (Percent.encode _ q) } : Url) = _
  rw [encode_query hq]

end Located

/-! ## What has settled -/

/--
The address of a file that is not read back as it is: a drive letter in front of its
path is written with a bar, or it stands behind a host.
-/
def Strays (u : Url) : Prop :=
  u.scheme = "file".toList ∧ ∃ letter mark rest, u.path = .rooted ([letter, mark] :: rest) ∧
    letter.isAlpha = true ∧ ((mark = ':' ∧ u.host? ≠ none) ∨ mark = '|')

theorem kindOf_eq_file_iff {scheme : List Char} :
    kindOf scheme = .file ↔ scheme = "file".toList := by
  unfold kindOf
  by_cases hfile : scheme = "file".toList
  · exact ⟨fun _ => hfile, fun _ => if_pos hfile⟩
  · rw [if_neg hfile]
    constructor
    · intro hkind
      split at hkind
      · cases hkind
      · cases hkind
    · exact fun hscheme => absurd hscheme hfile

theorem settled_settled (u : Url) : u.settled.settled = u.settled := by
  rcases settled_cases u with hsame | ⟨s, rest, hkind, _, hdrive, hsettled⟩
  · rw [hsame, hsame]
  · rcases isDrive_driveForm s with ⟨hstill, hagain⟩
    have honce : (u.onDrive s rest).settled =
        (u.onDrive s rest).onDrive (driveForm .file [] s) rest := by
      rw [settled_of_file (u := u.onDrive s rest) hkind rfl, hstill, hdrive]
      rfl
    rw [hsettled, honce]
    unfold onDrive
    rw [hagain]

namespace Located

theorem settled (h : Located u a segs) : ∃ a' segs', Located u.settled a' segs' := by
  rcases settled_cases u with hsame | ⟨s, rest, hkind, hpath, _, hsettled⟩
  · rw [hsame]
    exact ⟨a, segs, h⟩
  · rw [hsettled]
    obtain rfl : segs = s :: rest := Path.rooted.inj (h.path.symm.trans hpath)
    refine ⟨_, _, h.scheme, rfl, rfl, isRead_of_isFileHost hkind .absent, ?_, ?_, ?_, h.fragment⟩
    · have hsegs := isSegment_of_mem_driveFront (hkind ▸ h.segments)
      exact hkind ▸ hsegs
    · exact fun _ => List.cons_ne_nil _ _
    · exact fun _ => ⟨rfl, IsFileHost.absent.remote,
        withoutEmptyFront_driveFront (h.file hkind).2.2⟩

theorem settled_eq_iff (h : Located u a segs) : u.settled = u ↔ ¬u.Strays := by
  constructor
  · rintro hsame ⟨hscheme, letter, mark, rest, hpath, hletter, hmark⟩
    have hdrive : isDrive [letter, mark] = true := by
      refine isDrive_iff.mpr ⟨letter, mark, rfl, hletter, ?_⟩
      rcases hmark with ⟨hcolon, _⟩ | hbar
      · exact Or.inl hcolon
      · exact Or.inr hbar
    have hsettled := settled_of_file (kindOf_eq_file_iff.mpr hscheme) hpath
    rw [hsame, if_pos hdrive] at hsettled
    unfold onDrive at hsettled
    rw [driveForm_file hdrive] at hsettled
    rcases hmark with ⟨_, hhost⟩ | rfl
    · have hauthority := congrArg Url.authority hsettled
      apply hhost
      unfold host?
      rw [hauthority]
      rfl
    · have hfront := hpath.symm.trans (congrArg Url.path hsettled)
      cases hfront
  · intro hstays
    rcases settled_cases u with hsame | ⟨s, rest, hkind, hpath, hdrive, hsettled⟩
    · exact hsame
    · rcases isDrive_iff.mp hdrive with ⟨letter, mark, rfl, hletter, hmark⟩
      have hscheme := kindOf_eq_file_iff.mp hkind
      have hbar : mark ≠ '|' :=
        fun hbar => hstays ⟨hscheme, letter, mark, rest, hpath, hletter, Or.inr hbar⟩
      obtain rfl : mark = ':' := hmark.resolve_right hbar
      have hhost : u.host? = none := by
        by_contra hhost
        exact hstays ⟨hscheme, letter, ':', rest, hpath, hletter, Or.inl ⟨rfl, hhost⟩⟩
      have hnone : a.host = none := by
        unfold host? at hhost
        rw [h.authority] at hhost
        exact Option.map_eq_none_iff.mp hhost
      have ha := (h.file hkind).1
      rw [hnone] at ha
      rw [hsettled]
      unfold onDrive
      rw [driveForm_file hdrive, ← ha, ← h.authority, ← hpath]

end Located

end Settled

end Url
end SiteGuard
