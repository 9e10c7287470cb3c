import Mathlib.Data.String.Basic
import SiteGuard.Json.Wire
import SiteGuard.Text.Utf8

/-!
# How long texts are

What is written for a value does not depend on what follows, so its bytes can be
counted part by part: a member counts by its own value, and a list that lacks some
of the items of another one is no longer than that.
-/

namespace SiteGuard
namespace Json

/-! ## Text and what follows it -/

theorem writeChar_append (c : Char) (tail : List Char) :
    writeChar c tail = writeChar c [] ++ tail := by
  unfold writeChar
  repeat' split
  all_goals rfl

theorem foldr_writeChar_append (cs tail : List Char) :
    cs.foldr writeChar tail = cs.foldr writeChar [] ++ tail := by
  induction cs with
  | nil =>
      rfl
  | cons c rest ih =>
      rw [List.foldr_cons, List.foldr_cons, writeChar_append, ih,
        writeChar_append c (rest.foldr writeChar []), List.append_assoc]

theorem writeText_append (s : String) (tail : List Char) :
    writeText s tail = writeText s [] ++ tail := by
  unfold writeText
  rw [foldr_writeChar_append, foldr_writeChar_append s.toList ['"'], List.cons_append,
    List.append_assoc]
  rfl

theorem writeNumber_append (n : Number) (tail : List Char) :
    writeNumber n tail = writeNumber n [] ++ tail := by
  unfold writeNumber
  split
  · rw [List.append_nil]
  · split
    · rw [List.append_nil]
    · rw [List.append_assoc]
      rfl

mutual

theorem write_append : (j : Json) → (tail : List Char) → write j tail = write j [] ++ tail
  | .null, tail => rfl
  | .bool true, tail => rfl
  | .bool false, tail => rfl
  | .number n, tail => by
      simp only [write]
      exact writeNumber_append n tail
  | .text s, tail => by
      simp only [write]
      exact writeText_append s tail
  | .list [], tail => rfl
  | .list (item :: rest), tail => by
      simp only [write]
      rw [write_append item, write_append item (writeItems rest []), writeItems_append rest tail,
        List.cons_append, List.append_assoc]
  | .object [], tail => rfl
  | .object ((key, value) :: rest), tail => by
      simp only [write]
      rw [writeText_append, writeText_append key (':' :: write value (writeMembers rest [])),
        write_append value, write_append value (writeMembers rest []),
        writeMembers_append rest tail, List.cons_append, List.append_assoc, List.cons_append,
        List.append_assoc]

theorem writeItems_append :
    (items : List Json) → (tail : List Char) → writeItems items tail = writeItems items [] ++ tail
  | [], tail => rfl
  | item :: rest, tail => by
      simp only [writeItems]
      rw [write_append item, write_append item (writeItems rest []), writeItems_append rest tail,
        List.cons_append, List.append_assoc]

theorem writeMembers_append :
    (members : List (String × Json)) → (tail : List Char) →
      writeMembers members tail = writeMembers members [] ++ tail
  | [], tail => rfl
  | (key, value) :: rest, tail => by
      simp only [writeMembers]
      rw [writeText_append, writeText_append key (':' :: write value (writeMembers rest [])),
        write_append value, write_append value (writeMembers rest []),
        writeMembers_append rest tail, List.cons_append, List.append_assoc, List.cons_append,
        List.append_assoc]

end

/-! ## Bytes -/

def size (j : Json) : Nat :=
  Text.Utf8.byteCount (render j)

theorem size_eq (j : Json) : j.size = String.utf8Len (write j []) :=
  String.utf8ByteSize_ofList _

theorem utf8Len_write (j : Json) (tail : List Char) :
    String.utf8Len (write j tail) = j.size + String.utf8Len tail := by
  rw [write_append, String.utf8Len_append, size_eq]

theorem utf8Len_writeText (s : String) (tail : List Char) :
    String.utf8Len (writeText s tail) = String.utf8Len (writeText s []) + String.utf8Len tail := by
  rw [writeText_append, String.utf8Len_append]

theorem utf8Len_writeItems_cons (item : Json) (rest : List Json) :
    String.utf8Len (writeItems (item :: rest) []) =
      1 + item.size + String.utf8Len (writeItems rest []) := by
  have hcomma : ','.utf8Size = 1 := by decide
  rw [writeItems, String.utf8Len_cons, utf8Len_write, hcomma]
  omega

theorem utf8Len_writeMembers_cons (m : String × Json) (rest : List (String × Json)) :
    String.utf8Len (writeMembers (m :: rest) []) =
      2 + String.utf8Len (writeText m.1 []) + m.2.size + String.utf8Len (writeMembers rest []) := by
  have hcomma : ','.utf8Size = 1 := by decide
  have hcolon : ':'.utf8Size = 1 := by decide
  rcases m with ⟨key, value⟩
  rw [writeMembers, String.utf8Len_cons, utf8Len_writeText, String.utf8Len_cons, utf8Len_write,
    hcomma, hcolon]
  dsimp only
  omega

theorem size_list_cons (item : Json) (rest : List Json) :
    (list (item :: rest)).size = String.utf8Len (writeItems (item :: rest) []) := by
  rw [size_eq, write, writeItems]
  rfl

theorem size_object_cons (m : String × Json) (rest : List (String × Json)) :
    (object (m :: rest)).size = String.utf8Len (writeMembers (m :: rest) []) := by
  rw [size_eq, write, writeMembers]
  rfl

/-! ## Parts -/

theorem utf8Len_writeMembers_exchange (front back : List (String × Json)) (key : String)
    (j j' : Json) :
    String.utf8Len (writeMembers (front ++ (key, j) :: back) []) + j'.size =
      String.utf8Len (writeMembers (front ++ (key, j') :: back) []) + j.size := by
  induction front with
  | nil =>
      rw [List.nil_append, List.nil_append, utf8Len_writeMembers_cons, utf8Len_writeMembers_cons]
      dsimp only
      omega
  | cons m front ih =>
      rw [List.cons_append, List.cons_append, utf8Len_writeMembers_cons, utf8Len_writeMembers_cons]
      omega

theorem size_exchange (front back : List (String × Json)) (key : String) (j j' : Json) :
    (object (front ++ (key, j) :: back)).size + j'.size =
      (object (front ++ (key, j') :: back)).size + j.size := by
  have hparts := utf8Len_writeMembers_exchange front back key j j'
  cases front with
  | nil =>
      rw [List.nil_append, List.nil_append, size_object_cons, size_object_cons]
      exact hparts
  | cons m front =>
      rw [List.cons_append, List.cons_append, size_object_cons, size_object_cons]
      exact hparts

theorem utf8Len_writeItems_of_sublist {items items' : List Json} (h : items.Sublist items') :
    String.utf8Len (writeItems items []) ≤ String.utf8Len (writeItems items' []) := by
  induction h with
  | slnil =>
      exact Nat.le_refl _
  | cons item _ ih =>
      rw [utf8Len_writeItems_cons]
      omega
  | cons_cons item _ ih =>
      rw [utf8Len_writeItems_cons, utf8Len_writeItems_cons]
      omega

theorem size_list_of_sublist {items items' : List Json} (h : items.Sublist items') :
    (list items).size ≤ (list items').size := by
  have hparts := utf8Len_writeItems_of_sublist h
  cases items with
  | nil =>
      cases items' with
      | nil =>
          exact Nat.le_refl _
      | cons item' rest' =>
          have hempty : (list []).size = 2 := by
            decide
          have hend : 1 ≤ String.utf8Len (writeItems rest' []) := by
            cases rest' with
            | nil =>
                exact Nat.le_refl _
            | cons next rest' =>
                rw [utf8Len_writeItems_cons]
                omega
          rw [size_list_cons, utf8Len_writeItems_cons]
          omega
  | cons item rest =>
      cases items' with
      | nil =>
          cases h
      | cons item' rest' =>
          rw [size_list_cons, size_list_cons]
          exact hparts

theorem utf8Len_writeMembers_of_sublist {members members' : List (String × Json)}
    (h : members.Sublist members') :
    String.utf8Len (writeMembers members []) ≤ String.utf8Len (writeMembers members' []) := by
  induction h with
  | slnil =>
      exact Nat.le_refl _
  | cons m _ ih =>
      rw [utf8Len_writeMembers_cons]
      omega
  | cons_cons m _ ih =>
      rw [utf8Len_writeMembers_cons, utf8Len_writeMembers_cons]
      omega

theorem size_object_of_sublist {members members' : List (String × Json)}
    (h : members.Sublist members') : (object members).size ≤ (object members').size := by
  have hparts := utf8Len_writeMembers_of_sublist h
  cases members with
  | nil =>
      cases members' with
      | nil =>
          exact Nat.le_refl _
      | cons m' rest' =>
          have hempty : (object []).size = 2 := by
            decide
          rw [size_object_cons, utf8Len_writeMembers_cons]
          omega
  | cons m rest =>
      cases members' with
      | nil =>
          cases h
      | cons m' rest' =>
          rw [size_object_cons, size_object_cons]
          exact hparts

end Json
end SiteGuard
