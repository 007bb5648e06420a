import FileServer.Text.Basic

/-!
# The order of texts

Texts in the order of their code points, character by character. A text comes before those that
go on after it. The order of the encoded bytes is the same.

* `le_trans`, `le_total`: any texts can be put in order;
* `le_antisymm`: only the same texts can be put in both orders.
-/

namespace FileServer.Text

/-- Whether a text comes before another, or is the same. -/
def le : Text → Text → Bool
  | [], _ => true
  | _ :: _, [] => false
  | a :: as, b :: bs => a < b || (a = b && le as bs)

theorem le_trans (a b c : Text) : le a b → le b c → le a c := by
  induction a generalizing b c with
  | nil => simp [le]
  | cons x a ih =>
    cases b with
    | nil => simp [le]
    | cons y b =>
      cases c with
      | nil => simp [le]
      | cons z c =>
        simp only [le, Bool.or_eq_true, decide_eq_true_eq, Bool.and_eq_true]
        rintro (h | ⟨rfl, h⟩) (k | ⟨rfl, k⟩)
        · exact .inl (Char.lt_trans h k)
        · exact .inl h
        · exact .inl k
        · exact .inr ⟨rfl, ih b c h k⟩

theorem le_total (a b : Text) : le a b || le b a := by
  induction a generalizing b with
  | nil => simp [le]
  | cons x a ih =>
    cases b with
    | nil => simp [le]
    | cons y b =>
      have := ih b
      simp only [le, Bool.or_eq_true, decide_eq_true_eq, Bool.and_eq_true] at *
      rcases Nat.lt_trichotomy x.toNat y.toNat with h | h | h
      · exact .inl (.inl h)
      · rcases this with k | k
        · exact .inl (.inr ⟨Char.toNat_inj.1 h, k⟩)
        · exact .inr (.inr ⟨Char.toNat_inj.1 h.symm, k⟩)
      · exact .inr (.inl h)

theorem le_antisymm {a b : Text} (hab : le a b) (hba : le b a) : a = b := by
  induction a generalizing b with
  | nil =>
    cases b with
    | nil => rfl
    | cons => cases hba
  | cons x a ih =>
    cases b with
    | nil => cases hab
    | cons y b =>
      simp only [le, Bool.or_eq_true, decide_eq_true_eq, Bool.and_eq_true] at hab hba
      obtain hlt | ⟨rfl, hab⟩ := hab
      · obtain hgt | ⟨rfl, -⟩ := hba
        · exact absurd (Char.lt_trans hlt hgt) (Char.lt_irrefl x)
        · exact absurd hlt (Char.lt_irrefl _)
      · obtain hgt | ⟨-, hba⟩ := hba
        · exact absurd hgt (Char.lt_irrefl _)
        · rw [ih hab hba]

end FileServer.Text
