import SiteGuard.Proofs.Digest.Base64
import SiteGuard.Proofs.Json.Size
import SiteGuard.Settings.Wire

/-!
# PINs and their records

The record that is made of a PIN has both of its parts and accepts the PIN.  What
is written for it is as long for one PIN as for any other.
-/

namespace SiteGuard

open Digest Json Text

/-! ## Records -/

namespace PinRecord

def Whole (p : PinRecord) : Prop :=
  p.hash.isSome = p.salt.isSome

theorem hash?_encode (pin : String) (salt : List UInt8) :
    hash? pin (String.ofList (Base64.encode salt)) =
      some (String.ofList (Base64.encode (Sha256.hash (Utf8.encode pin.toList ++ salt)))) := by
  unfold hash?
  rw [String.toList_ofList, Base64.decode?_encode]
  rfl

theorem ofPin_eq (pin : String) (salt : List UInt8) :
    ofPin pin salt =
      ⟨some (String.ofList (Base64.encode (Sha256.hash (Utf8.encode pin.toList ++ salt)))),
        some (String.ofList (Base64.encode salt))⟩ := by
  show PinRecord.mk (hash? pin (String.ofList (Base64.encode salt))) _ = _
  rw [hash?_encode]

theorem ofPin_whole (pin : String) (salt : List UInt8) : (ofPin pin salt).Whole := by
  rw [ofPin_eq]
  rfl

theorem isSet_ofPin (pin : String) (salt : List UInt8) : (ofPin pin salt).isSet = true := by
  rw [ofPin_eq]
  rfl

/-- The salt is decoded to what it was, so that the PIN has the same hash again. -/
theorem accepts_ofPin (pin : String) (salt : List UInt8) :
    (ofPin pin salt).accepts pin = true := by
  rw [ofPin_eq]
  show (hash? pin (String.ofList (Base64.encode salt)) == some _) = true
  rw [hash?_encode]
  exact beq_self_eq_true _

/-! ## Records that are alike -/

/-- The records are both of a PIN, or neither is, and their texts are equally long. -/
structure Alike (p q : PinRecord) : Prop where
  set : q.isSet = p.isSet
  size : (toJson q).size = (toJson p).size

theorem Alike.refl (p : PinRecord) : p.Alike p :=
  ⟨rfl, rfl⟩

theorem Alike.of_sizes {hash salt hash' salt' : String}
    (hhash : (Json.text hash').size = (Json.text hash).size)
    (hsalt : (Json.text salt').size = (Json.text salt).size) :
    Alike ⟨some hash, some salt⟩ ⟨some hash', some salt'⟩ := by
  refine ⟨rfl, ?_⟩
  show (object [("hash", .text hash'), ("salt", .text salt')]).size =
    (object [("hash", .text hash), ("salt", .text salt)]).size
  simp only [size_object_cons, utf8Len_writeMembers_cons, hhash, hsalt]

/-! ## Texts in Base64 -/

theorem writeChar_of_mem_encode {bytes : List UInt8} {x : Char} (h : x ∈ Base64.encode bytes)
    (tail : List Char) : writeChar x tail = x :: tail ∧ x.utf8Size = 1 := by
  have hdigit : ∀ n < 64, writeChar (Base64.digit n) [] = [Base64.digit n] ∧
      (Base64.digit n).utf8Size = 1 := by
    decide
  rw [writeChar_append]
  rcases Base64.of_mem_encode h with rfl | ⟨n, hn, rfl⟩
  · exact ⟨rfl, by decide⟩
  · rw [(hdigit n hn).1]
    exact ⟨rfl, (hdigit n hn).2⟩

theorem utf8Len_foldr_writeChar {cs : List Char}
    (h : ∀ x ∈ cs, ∀ tail, writeChar x tail = x :: tail ∧ x.utf8Size = 1) (tail : List Char) :
    String.utf8Len (cs.foldr writeChar tail) = cs.length + String.utf8Len tail := by
  induction cs with
  | nil =>
      rw [List.foldr_nil, List.length_nil, Nat.zero_add]
  | cons c rest ih =>
      have hrest := ih fun x hx => h x (List.mem_cons_of_mem _ hx)
      have hc := h c List.mem_cons_self (rest.foldr writeChar tail)
      rw [List.foldr_cons, hc.1, String.utf8Len_cons, hc.2, hrest, List.length_cons]
      omega

theorem size_text_encode (bytes : List UInt8) :
    (Json.text (String.ofList (Base64.encode bytes))).size = (bytes.length + 2) / 3 * 4 + 2 := by
  have hquote : '"'.utf8Size = 1 := by decide
  have hplain : String.utf8Len ((Base64.encode bytes).foldr writeChar ['"']) =
      (Base64.encode bytes).length + String.utf8Len ['"'] :=
    utf8Len_foldr_writeChar (fun _ hx => writeChar_of_mem_encode hx) ['"']
  rw [size_eq]
  show String.utf8Len ('"' :: (String.ofList _).toList.foldr writeChar ['"']) = _
  rw [String.toList_ofList, String.utf8Len_cons, hplain, Base64.length_encode, hquote]
  rfl

theorem length_hash (message : List UInt8) : (Sha256.hash message).length = 32 :=
  rfl

/-- PINs are stored in records that are alike, whatever the PINs and the bytes of the salts. -/
theorem ofPin_alike (pin pin' : String) {salt salt' : List UInt8}
    (h : salt'.length = salt.length) : (ofPin pin salt).Alike (ofPin pin' salt') := by
  rw [ofPin_eq, ofPin_eq]
  apply Alike.of_sizes
  · rw [size_text_encode, size_text_encode, length_hash, length_hash]
  · rw [size_text_encode, size_text_encode, h]

end PinRecord

/-! ## Candidates -/

namespace Settings

theorem given?_of_not_blank {pin : String} (h : isBlankString pin = false) :
    given? (some pin) = some pin := by
  have hsome : pin.isEmpty = false := by
    apply Bool.eq_false_iff.mpr
    intro hempty
    rw [String.isEmpty_iff.mp hempty] at h
    exact Bool.false_ne_true h.symm
  unfold given?
  rw [Option.filter_some, hsome]
  rfl

theorem authorize_of_accepts {s : Settings} {pin : String} (hpin : isBlankString pin = false)
    (haccepts : s.pin.accepts pin = true) : s.authorize (some pin) = .ok () := by
  unfold authorize checkPin
  rw [given?_of_not_blank hpin]
  simp only [haccepts, if_true]
  split
  · split
    · rfl
    · rfl
  · rfl

theorem pin_of_normalized {s normal : Settings} (h : s.normalized = .ok normal) :
    normal.pin = s.pin := by
  unfold normalized at h
  split at h
  · cases h
    rfl
  · cases h

end Settings
end SiteGuard
