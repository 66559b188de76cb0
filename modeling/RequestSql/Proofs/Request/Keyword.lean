import RequestSql.Proofs.Request.Form
import RequestSql.Proofs.Text.Upper

/-!
# Keywords read again

The word of a keyword that was read is read as the same keyword, whether it is known or not: it is
in upper case already and it is not empty. Kinds of joins and directions are read in one way, from
the word that was given or from a default.
-/

namespace RequestSql

namespace Keyword

variable {α : Type} {text : α → String} {custom ofWord : String → α} {read : Option String → α}
  {default : String}

theorem text_getD_custom (known : List α) (hcustom : ∀ w, text (custom w) = w) (w : String) :
    text ((known.find? (text · == w)).getD (custom w)) = w := by
  cases h : known.find? (text · == w) with
  | none => exact hcustom w
  | some k => exact eq_of_beq (List.find?_some (p := fun k => text k == w) h)

theorem read_text_read (htext : ∀ w, text (ofWord w) = w) (hdefault : default ≠ "")
    (hread : ∀ o, read o = ofWord (Text.upper ((Request.nonempty o).getD default)))
    (o : Option String) : read (some (text (read o))) = read o := by
  have hword : (Request.nonempty o).getD default ≠ "" := by
    cases o with
    | none => exact hdefault
    | some s =>
      by_cases hs : s = ""
      · rw [hs]
        exact hdefault
      · rw [Request.nonempty_of_ne hs]
        exact hs
  rw [hread (some _), hread o, htext, Request.nonempty_of_ne (Text.upper_ne_empty hword),
    Option.getD_some, Text.upper_upper]

end Keyword

theorem JoinKind.text_ofWord (w : String) : (ofWord w).text = w :=
  Keyword.text_getD_custom known (fun _ => rfl) w

theorem JoinKind.read_eq (o : Option String) :
    JoinKind.read o = ofWord (Text.upper ((Request.nonempty o).getD "LEFT")) := by
  have hdefault : left = ofWord (Text.upper "LEFT") := by decide +kernel
  unfold JoinKind.read
  split
  · exact hdefault
  · exact hdefault
  · rename_i raw hraw
    rw [Request.nonempty_of_ne fun h => hraw h]
    rfl

theorem JoinKind.read_text (o : Option String) : read (some (read o).text) = read o :=
  Keyword.read_text_read text_ofWord (by decide) JoinKind.read_eq o

theorem Direction.text_ofWord (w : String) : (ofWord w).text = w :=
  Keyword.text_getD_custom known (fun _ => rfl) w

theorem Direction.read_eq_ofWord (o : Option String) :
    Direction.read o = ofWord (Text.upper ((Request.nonempty o).getD "ASC")) := by
  have hdefault : asc = ofWord (Text.upper "ASC") := by decide +kernel
  unfold Direction.read
  split
  · exact hdefault
  · exact hdefault
  · rename_i raw hraw
    rw [Request.nonempty_of_ne fun h => hraw h]
    rfl

theorem Direction.read_text (o : Option String) : read (some (read o).text) = read o :=
  Keyword.read_text_read text_ofWord (by decide) Direction.read_eq_ofWord o

end RequestSql
