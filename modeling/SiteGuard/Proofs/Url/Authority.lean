import SiteGuard.Proofs.Text.Number
import SiteGuard.Proofs.Url.HostSource
import SiteGuard.Proofs.Url.Ipv6

/-!
# Authorities that are read again

A user, a password, a host and a port are written so that none of them holds a mark
that cuts the others off.  So an authority that was read is read again from its
text, whatever path follows it.
-/

namespace SiteGuard
namespace Url

open Text

/-! ## Characters -/

/-- Nothing that is cleaned away, and no mark that another part of an address begins with. -/
def IsAuthorityChar (c : Char) : Prop :=
  0x20 < c.toNat ∧ c ∉ ['/', '\\', '?', '#', '@', '|']

instance (c : Char) : Decidable (IsAuthorityChar c) :=
  inferInstanceAs (Decidable (_ ∧ _))

theorem isAuthorityChar_of_plain {c : Char} (h : Domain.isPlain c = true) :
    IsAuthorityChar c ∧ c ≠ ':' ∧ c ≠ '[' := by
  have hall : ∀ n : Fin 128, Domain.isPlain (Char.ofNat n.val) = true →
      IsAuthorityChar (Char.ofNat n.val) ∧ Char.ofNat n.val ≠ ':' ∧ Char.ofNat n.val ≠ '[' := by
    decide
  exact of_ascii (P := fun c => Domain.isPlain c = true → IsAuthorityChar c ∧ c ≠ ':' ∧ c ≠ '[')
    hall (Domain.isPlain_iff.mp h).1 h

theorem isAuthorityChar_of_verbatim {c : Char} (h : IsVerbatimChar c) :
    IsAuthorityChar c ∧ c ≠ ':' ∧ c ≠ '[' := by
  have hall : ∀ n : Fin 128, IsVerbatimChar (Char.ofNat n.val) →
      IsAuthorityChar (Char.ofNat n.val) ∧ Char.ofNat n.val ≠ ':' ∧ Char.ofNat n.val ≠ '[' := by
    decide
  exact of_ascii (P := fun c => IsVerbatimChar c → IsAuthorityChar c ∧ c ≠ ':' ∧ c ≠ '[')
    hall h.1 h

theorem isAuthorityChar_of_userinfo {cs : List Char} (h : Percent.Settled Percent.inUserinfo cs) :
    ∀ c ∈ cs, IsAuthorityChar c :=
  h.chars (by decide)

/-! ## Parts behind a mark -/

section Marked

variable {mark : Char} {part : Option (List Char)}

theorem of_mem_marked {c : Char} (h : c ∈ marked mark part) : c = mark ∨ ∃ p ∈ part, c ∈ p := by
  cases part with
  | none =>
      cases h
  | some p =>
      rcases List.mem_cons.mp h with hmark | hc
      · exact Or.inl hmark
      · exact Or.inr ⟨p, rfl, hc⟩

theorem marked_eq_nil (h : marked mark part = []) : part = none := by
  cases part with
  | none =>
      rfl
  | some p =>
      cases h

theorem cutMark_append {front : List Char} (hfront : mark ∉ front) (part : Option (List Char)) :
    cutMark mark (front ++ marked mark part) = (front, part) := by
  unfold cutMark
  cases part with
  | none =>
      dsimp only [marked]
      rw [List.append_nil, cut_eq_none_iff.mpr hfront]
  | some part =>
      dsimp only [marked]
      rw [cut_append hfront]

end Marked

/-! ## Hosts -/

section Hosts

variable {kind : Kind} {host : Host}

theorem isAuthorityChar_of_ipv6 (a : Ipv6) :
    ∀ c ∈ a.text, IsAuthorityChar c ∧ c ≠ '[' ∧ c ≠ ']' :=
  of_mem_ipv6_text (P := fun c => IsAuthorityChar c ∧ c ≠ '[' ∧ c ≠ ']') (by decide) (by decide) a

theorem HostOf.chars (h : HostOf kind host) : (∃ address, host = .ipv6 address) ∨
    ∀ c ∈ host.text, IsAuthorityChar c ∧ c ≠ ':' ∧ c ≠ '[' := by
  cases h with
  | parsed hkind hread =>
      rcases parse_eq_ok hread with hipv6 | ⟨address, rfl⟩ | ⟨name, _, rfl, hplain, _⟩
      · exact Or.inl hipv6
      · exact Or.inr fun c hc => isAuthorityChar_of_plain (ipv4_text_plain address c hc)
      · exact Or.inr fun c hc => isAuthorityChar_of_plain (hplain c hc)
  | verbatim _ hread =>
      rcases parseVerbatim_eq_ok hread with hipv6 | ⟨name, rfl, _, hname⟩
      · exact Or.inl hipv6
      · exact Or.inr fun c hc => isAuthorityChar_of_verbatim (hname c hc)

theorem HostOf.isAuthorityChar (h : HostOf kind host) : ∀ c ∈ host.text, IsAuthorityChar c := by
  rcases h.chars with ⟨address, rfl⟩ | hname
  · intro c hc
    rcases List.mem_append.mp hc with hc | hc
    · rcases List.mem_cons.mp hc with rfl | hc
      · decide
      · exact (isAuthorityChar_of_ipv6 address c hc).1
    · rw [List.mem_singleton.mp hc]
      decide
  · exact fun c hc => (hname c hc).1

theorem splitHost_name {name : List Char} (hname : ∀ c ∈ name, c ≠ ':' ∧ c ≠ '[')
    (rest : List Char) : splitHost false (name ++ rest) =
      (name ++ (splitHost false rest).1, (splitHost false rest).2) := by
  induction name with
  | nil =>
      rfl
  | cons c more ih =>
      rcases hname c List.mem_cons_self with ⟨hcolon, hbracket⟩
      have hmore := ih fun d hd => hname d (List.mem_cons_of_mem _ hd)
      rw [List.cons_append, splitHost, if_neg (fun h => hcolon h.1), if_neg hbracket, ite_self,
        hmore]
      rfl

theorem splitHost_inside {cs : List Char} (hcs : ∀ c ∈ cs, c ≠ ']') (rest : List Char) :
    splitHost true (cs ++ ']' :: rest) =
      (cs ++ ']' :: (splitHost false rest).1, (splitHost false rest).2) := by
  induction cs with
  | nil =>
      rfl
  | cons c more ih =>
      have hclosing : c ≠ ']' := hcs c List.mem_cons_self
      have hmore := ih fun d hd => hcs d (List.mem_cons_of_mem _ hd)
      rw [List.cons_append, splitHost, if_neg (fun h => Bool.false_ne_true h.2), if_neg hclosing,
        ite_self, hmore]
      rfl

theorem HostOf.splitHost (h : HostOf kind host) (port : Option (List Char)) :
    Url.splitHost false (host.text ++ marked ':' port) = (host.text, port) := by
  have hport : Url.splitHost false (marked ':' port) = ([], port) := by
    cases port <;> rfl
  rcases h.chars with ⟨address, rfl⟩ | hname
  · have hinside := splitHost_inside
      (fun c hc => (isAuthorityChar_of_ipv6 address c hc).2.2) (marked ':' port)
    have htext : (Host.ipv6 address).text ++ marked ':' port =
        '[' :: (address.text ++ ']' :: marked ':' port) := by
      simp [Host.text]
    rw [htext, Url.splitHost, if_neg (by decide), if_pos rfl, hinside, hport]
    simp [Host.text]
  · rw [splitHost_name fun c hc => (hname c hc).2, hport, List.append_nil]

theorem bracketed_ipv6 (a : Ipv6) : Host.bracketed (a.text ++ [']']) = .ok (.ipv6 a) := by
  unfold Host.bracketed
  rw [List.getLast?_concat, List.dropLast_concat, Ipv6.parse?_text]
  rfl

theorem Host.parse_text {cs : List Char} (h : Host.parse cs = .ok host) :
    Host.parse host.text = .ok host := by
  rcases parse_eq_ok h with
    ⟨address, rfl⟩ | ⟨address, rfl⟩ | ⟨name, labels, rfl, hplain, hlabels, hread⟩
  · exact bracketed_ipv6 address
  · rcases labels?_ipv4_text address with ⟨labels, hlabels⟩
    exact (Host.parse_plain (ipv4_text_plain address) hlabels).trans (ofAscii_ipv4_text address)
  · exact (Host.parse_plain hplain hlabels).trans hread

theorem Host.parseVerbatim_text {cs : List Char} (h : Host.parseVerbatim cs = .ok host) :
    Host.parseVerbatim host.text = .ok host := by
  rcases parseVerbatim_eq_ok h with ⟨address, rfl⟩ | ⟨name, rfl, _, hname⟩
  · exact bracketed_ipv6 address
  · have hallowed : name.any Host.isForbidden = false := by
      rw [List.any_eq_false]
      intro c hc
      rw [(hname c hc).2.2]
      exact Bool.false_ne_true
    have hsettled : Percent.Settled Percent.isControl name :=
      fun c hc => ⟨(hname c hc).1, (hname c hc).2.1⟩
    show Host.parseVerbatim name = _
    unfold Host.parseVerbatim
    split
    · exact absurd (hname '[' List.mem_cons_self) (by decide)
    · rw [hallowed, hsettled.encode_eq]
      rfl

theorem readHost_of_special {kind : Kind} (h : kind.isSpecial = true) {cs : List Char}
    (hne : cs ≠ []) : readHost kind cs = (Host.parse cs).map some := by
  cases kind with
  | other =>
      cases h
  | file =>
      exact if_neg (by simpa using hne)
  | special =>
      exact if_neg (by simpa using hne)

theorem HostOf.readHost_text (h : HostOf kind host) :
    readHost kind host.text = .ok (some host) := by
  have hne := h.text_ne_nil
  cases h with
  | parsed hkind hread =>
      rw [readHost_of_special hkind hne, Host.parse_text hread]
      rfl
  | verbatim _ hread =>
      unfold readHost
      rw [if_neg (by simpa using hne), Host.parseVerbatim_text hread]
      rfl

end Hosts

/-! ## Users -/

section Users

variable {user : List Char} {password : Option (List Char)}

/-- A user name and a password as they are read: escaped, and the password not empty. -/
structure IsUserinfo (user : List Char) (password : Option (List Char)) : Prop where
  user : Percent.Settled Percent.inUserinfo user
  password : ∀ p ∈ password, Percent.Settled Percent.inUserinfo p ∧ p ≠ []

theorem settled_userinfo (cs : List Char) :
    Percent.Settled Percent.inUserinfo (Percent.encode Percent.inUserinfo cs) :=
  Percent.settled_encode (by decide) (by decide) cs

theorem isUserinfo_readUserinfo (cs : List Char) :
    IsUserinfo (readUserinfo cs).1 (readUserinfo cs).2 := by
  unfold readUserinfo
  dsimp only
  split
  · exact ⟨settled_userinfo _, fun p hp => nomatch hp⟩
  · exact ⟨settled_userinfo _, fun p hp => nomatch hp⟩
  · rename_i user password hne _
    refine ⟨settled_userinfo _, ?_⟩
    intro p hp
    cases hp
    exact ⟨settled_userinfo _, encode_ne_nil hne⟩

theorem IsUserinfo.read (h : IsUserinfo user password) :
    readUserinfo (user ++ marked ':' password) = (user, password) := by
  have hcolon : ':' ∉ user := h.user.not_mem (by decide)
  cases password with
  | none =>
      unfold readUserinfo
      dsimp only [marked]
      rw [List.append_nil, cut_eq_none_iff.mpr hcolon]
      dsimp only
      rw [h.user.encode_eq]
  | some p =>
      rcases h.password p rfl with ⟨hp, hne⟩
      unfold readUserinfo
      dsimp only [marked]
      rw [cut_append hcolon]
      split
      · rename_i hcut
        cases hcut
      · rename_i hcut
        cases hcut
        exact absurd rfl hne
      · rename_i hcut
        cases hcut
        rw [h.user.encode_eq, hp.encode_eq]

end Users

/-! ## Ports -/

section Ports

variable {scheme : List Char}

def IsPort (scheme : List Char) (p : Nat) : Prop :=
  p < 65536 ∧ defaultPort? scheme ≠ some p

theorem isPort_of_digits {ds : List Char} {n : Nat} (h : boundedNat? 65536 ds = some n) :
    ∀ p ∈ (if defaultPort? scheme = some n then none else some n), IsPort scheme p := by
  intro p hp
  split at hp
  · cases hp
  · rename_i hdefault
    obtain rfl := Option.some.inj hp
    exact ⟨(boundedNat?_eq_some_iff.mp h).2, hdefault⟩

theorem isPort_of_readPort {cs rest : List Char} {port : Option Nat}
    (h : readPort scheme cs = .ok (port, rest)) : ∀ p ∈ port, IsPort scheme p := by
  have habsent : ∀ p ∈ (none : Option Nat), IsPort scheme p := fun p hp => nomatch hp
  unfold readPort at h
  dsimp only at h
  split at h
  · split at h
    · cases h
      exact habsent
    · split at h
      · cases h
      · rename_i hdigits
        cases h
        exact isPort_of_digits hdigits
  · split at h
    · cases h
      exact habsent
    · split at h
      · cases h
      · rename_i hdigits
        cases h
        exact isPort_of_digits hdigits
  · cases h

theorem IsPort.read {n : Nat} (h : IsPort scheme n) :
    readPort scheme (toString n).toList = .ok (some n, []) := by
  have hspells := spells_toString n
  have htaken : (toString n).toList.takeWhile isDecimalDigit = (toString n).toList :=
    List.takeWhile_eq_self_iff.mpr hspells.digits
  have hdropped : (toString n).toList.dropWhile isDecimalDigit = [] :=
    List.dropWhile_eq_nil_iff.mpr hspells.digits
  unfold readPort
  dsimp only
  rw [htaken, hdropped]
  dsimp only [List.head?_nil]
  rw [if_neg (by simp), boundedNat?_toString h.1]
  dsimp only
  rw [if_neg h.2]

end Ports

/-! ## Authorities -/

namespace Authority

variable {scheme : List Char} {a : Authority}

/--
An authority as it is read: nothing stands without a host, and no port that goes without
saying.
-/
structure IsRead (scheme : List Char) (a : Authority) : Prop where
  userinfo : IsUserinfo a.user a.password
  host : ∀ h ∈ a.host, HostOf (kindOf scheme) h
  hostless : a.host = none → kindOf scheme ≠ .special ∧ a = ⟨[], none, none, none⟩
  port : ∀ p ∈ a.port, IsPort scheme p

theorem not_special_of_readHost {kind : Kind} {cs : List Char} (h : readHost kind cs = .ok none) :
    kind ≠ .special := by
  rintro rfl
  rcases readHost_special h with ⟨_, hsome, _⟩
  cases hsome

theorem isRead_of_readAuthority {more : Bool} {cs path : List Char}
    (h : readAuthority scheme more cs = .ok (a, path)) : a.IsRead scheme := by
  unfold readAuthority at h
  dsimp only at h
  rcases unless_eq_ok h with ⟨_, h⟩
  rcases bind_eq_ok h with ⟨host, hhost, h⟩
  have hread : ∀ h ∈ host, HostOf (kindOf scheme) h := by
    intro h hh
    exact hostOf_readHost (hhost.trans (congrArg Except.ok hh))
  split at h
  · rcases unless_eq_ok h with ⟨halone, h⟩
    cases h
    refine ⟨isUserinfo_readUserinfo _, hread, ?_, fun p hp => nomatch hp⟩
    intro hnone
    obtain rfl : host = none := hnone
    refine ⟨not_special_of_readHost hhost, ?_⟩
    rw [not_and, not_or, not_not, Option.not_isSome_iff_eq_none] at halone
    rcases halone rfl with ⟨huser, hpassword⟩
    rw [huser, hpassword]
  · rcases unless_eq_ok h with ⟨hsome, h⟩
    rcases bind_eq_ok h with ⟨⟨port, rest⟩, hport, h⟩
    cases h
    refine ⟨isUserinfo_readUserinfo _, hread, ?_, isPort_of_readPort hport⟩
    intro hnone
    obtain rfl : host = none := hnone
    exact absurd rfl hsome

/-! ### Text -/

def hostPort (a : Authority) : List Char :=
  (a.host.map Host.text).getD [] ++ marked ':' (a.port.map fun p => (toString p).toList)

theorem userinfo_eq (a : Authority) : a.userinfo =
    if a.user = [] ∧ a.password = none then [] else a.user ++ marked ':' a.password ++ ['@'] := by
  rcases a with ⟨user, password, host, port⟩
  cases user <;> cases password <;> simp [userinfo, marked]

theorem text_eq (a : Authority) : a.text = a.userinfo ++ a.hostPort := by
  rcases a with ⟨user, password, host, port⟩
  cases port <;> simp [text, hostPort, marked]

theorem IsRead.hostPort_chars (h : a.IsRead scheme) : ∀ c ∈ a.hostPort, IsAuthorityChar c := by
  intro c hc
  rcases List.mem_append.mp hc with hc | hc
  · cases hhost : a.host with
    | none =>
        rw [hhost] at hc
        cases hc
    | some host =>
        rw [hhost] at hc
        exact (h.host host hhost).isAuthorityChar c hc
  · rcases of_mem_marked hc with rfl | ⟨digits, hdigits, hc⟩
    · decide
    · rcases Option.map_eq_some_iff.mp hdigits with ⟨p, _, rfl⟩
      rw [toString_toList] at hc
      exact of_mem_toDigits (by decide) (by decide) (by decide) p c hc

theorem IsRead.userinfo_chars (h : a.IsRead scheme) :
    ∀ c ∈ a.userinfo, c = '@' ∨ IsAuthorityChar c := by
  intro c hc
  rw [userinfo_eq] at hc
  split at hc
  · cases hc
  · rcases List.mem_append.mp hc with hc | hc
    · refine Or.inr ?_
      rcases List.mem_append.mp hc with hc | hc
      · exact isAuthorityChar_of_userinfo h.userinfo.user c hc
      · rcases of_mem_marked hc with rfl | ⟨p, hp, hc⟩
        · decide
        · exact isAuthorityChar_of_userinfo (h.userinfo.password p hp).1 c hc
    · exact Or.inl (List.mem_singleton.mp hc)

theorem IsRead.text_chars (h : a.IsRead scheme) : ∀ c ∈ a.text, c = '@' ∨ IsAuthorityChar c := by
  intro c hc
  rw [text_eq] at hc
  rcases List.mem_append.mp hc with hc | hc
  · exact h.userinfo_chars c hc
  · exact Or.inr (h.hostPort_chars c hc)

theorem IsRead.slashless (h : a.IsRead scheme) : ∀ c ∈ a.text, c ≠ '/' ∧ c ≠ '\\' := by
  have hmarks : ¬('/' = '@' ∨ IsAuthorityChar '/') ∧ ¬('\\' = '@' ∨ IsAuthorityChar '\\') := by
    decide
  intro c hc
  constructor
  · rintro rfl
    exact hmarks.1 (h.text_chars _ hc)
  · rintro rfl
    exact hmarks.2 (h.text_chars _ hc)

theorem IsRead.text_ne_nil (h : a.IsRead scheme) (hkind : kindOf scheme = .special) :
    a.text ≠ [] := by
  cases hhost : a.host with
  | none =>
      exact absurd hkind (h.hostless hhost).1
  | some host =>
      intro hempty
      rw [text_eq] at hempty
      have hhostPort := (List.append_eq_nil_iff.mp hempty).2
      unfold hostPort at hhostPort
      rw [hhost] at hhostPort
      exact (h.host host hhost).text_ne_nil (List.append_eq_nil_iff.mp hhostPort).1

theorem IsRead.splitAuthority (h : a.IsRead scheme) {kind : Kind} {path : List Char}
    (hpath : ∀ c ∈ path.head?, isSlash kind c = true) :
    splitAuthority kind (a.text ++ path) = (a.text, path) := by
  have hkept : ∀ c ∈ a.text, (!isSlash kind c) = true := by
    intro c hc
    rcases h.slashless c hc with ⟨hslash, hbackslash⟩
    simp [isSlash, hslash, hbackslash]
  have htaken : path.takeWhile (fun c => !isSlash kind c) = [] := by
    cases path with
    | nil =>
        rfl
    | cons c rest =>
        exact List.takeWhile_cons_of_neg (by simp [hpath c rfl])
  have hdropped : path.dropWhile (fun c => !isSlash kind c) = path := by
    cases path with
    | nil =>
        rfl
    | cons c rest =>
        exact List.dropWhile_cons_of_neg (by simp [hpath c rfl])
  unfold Url.splitAuthority
  rw [List.takeWhile_append_of_pos hkept, List.dropWhile_append_of_pos hkept, htaken, hdropped,
    List.append_nil]

/-- What is read behind the at sign, when the user in front of it is known. -/
def readHostPort (scheme user : List Char) (password : Option (List Char))
    (hostPort path : List Char) : Except Fault (Authority × List Char) := do
  let host ← readHost (kindOf scheme) (splitHost false hostPort).1
  match (splitHost false hostPort).2 with
  | none =>
    if host.isNone ∧ (user ≠ [] ∨ password.isSome) then throw .emptyHost
    .ok (⟨user, password, host, none⟩, path)
  | some portText =>
    if host.isNone then throw .emptyHost
    let (port, rest) ← readPort scheme portText
    .ok (⟨user, password, host, port⟩, rest ++ path)

theorem readAuthority_of_cutLast {more : Bool} {cs text path userinfo hostPort : List Char}
    (hsplit : Url.splitAuthority (kindOf scheme) cs = (text, path))
    (hcut : Text.cutLast '@' text = some (userinfo, hostPort)) (hne : userinfo ≠ []) :
    readAuthority scheme more cs =
      readHostPort scheme (readUserinfo userinfo).1 (readUserinfo userinfo).2 hostPort path := by
  have hpresent : ¬(some userinfo = some [] ∧ hostPort = [] ∧ (path ≠ [] ∨ more = true)) :=
    fun h => hne (Option.some.inj h.1)
  unfold readAuthority
  dsimp only
  rw [hsplit]
  dsimp only
  rw [hcut]
  exact if_neg hpresent

theorem readAuthority_of_not_mem {more : Bool} {cs text path : List Char}
    (hsplit : Url.splitAuthority (kindOf scheme) cs = (text, path)) (hmark : '@' ∉ text) :
    readAuthority scheme more cs = readHostPort scheme [] none text path := by
  unfold readAuthority
  dsimp only
  rw [hsplit]
  dsimp only
  rw [cutLast_eq_none hmark]
  exact if_neg fun h => nomatch h.1

theorem IsRead.readHostPort (h : a.IsRead scheme) (hfile : kindOf scheme ≠ .file)
    (path : List Char) : readHostPort scheme a.user a.password a.hostPort path = .ok (a, path) := by
  unfold Authority.readHostPort
  cases hhost : a.host with
  | none =>
      rcases h.hostless hhost with ⟨hspecial, rfl⟩
      cases hkind : kindOf scheme with
      | file =>
          exact absurd hkind hfile
      | special =>
          exact absurd hkind hspecial
      | other =>
          rfl
  | some host =>
      have hof := h.host host hhost
      have hsplit : splitHost false a.hostPort =
          (host.text, a.port.map fun p => (toString p).toList) := by
        unfold hostPort
        rw [hhost]
        exact hof.splitHost _
      rw [hsplit]
      apply bind_of_eq_ok hof.readHost_text
      rcases a with ⟨user, password, _, port⟩
      obtain rfl : _ = some host := hhost
      cases port with
      | none =>
          rfl
      | some p =>
          exact bind_of_eq_ok (h.port p rfl).read rfl

theorem IsRead.read (h : a.IsRead scheme) (hfile : kindOf scheme ≠ .file) {path : List Char}
    (hpath : ∀ c ∈ path.head?, isSlash (kindOf scheme) c = true) (more : Bool) :
    readAuthority scheme more (a.text ++ path) = .ok (a, path) := by
  have hsplit := h.splitAuthority hpath
  have hrest := h.readHostPort hfile path
  have hmark : '@' ∉ a.hostPort := fun hmem => absurd (h.hostPort_chars '@' hmem) (by decide)
  have htext := text_eq a
  rw [userinfo_eq] at htext
  by_cases hempty : a.user = [] ∧ a.password = none
  · rw [if_pos hempty, List.nil_append] at htext
    rw [hempty.1, hempty.2] at hrest
    rw [readAuthority_of_not_mem hsplit (htext ▸ hmark), htext]
    exact hrest
  · have hcut : Text.cutLast '@' a.text = some (a.user ++ marked ':' a.password, a.hostPort) := by
      rw [htext, if_neg hempty, List.append_assoc]
      exact cutLast_append hmark _
    have hne : a.user ++ marked ':' a.password ≠ [] := by
      intro hnil
      apply hempty
      rcases List.append_eq_nil_iff.mp hnil with ⟨huser, hpassword⟩
      exact ⟨huser, marked_eq_nil hpassword⟩
    rw [readAuthority_of_cutLast hsplit hcut hne, h.userinfo.read]
    exact hrest

end Authority

end Url
end SiteGuard
