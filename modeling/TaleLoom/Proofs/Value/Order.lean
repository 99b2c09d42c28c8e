import Mathlib.Algebra.Field.Rat
import Mathlib.Algebra.Order.Field.Basic
import Mathlib.Algebra.Order.Ring.Rat
import Mathlib.Data.Rat.Cast.CharZero
import Mathlib.Order.Compare
import Mathlib.Order.WithBot
import TaleLoom.Value.Access
/-!
The order of numbers is the order of what they come to, however they are written
(`Value.compare?_eq_some_iff`); so being greater can be chained (`Value.not_isAbove_trans`). An undefined
number comes to nothing and is greater than none.
-/

namespace TaleLoom

open Number

inductive Amount where
  | finite (q : ℚ)
  | infinite (negative : Bool)
  deriving DecidableEq

namespace Amount

/-- The place of an amount among the rational numbers and the two infinities. -/
def place : Amount → WithBot (WithTop ℚ)
  | finite q => ((q : WithTop ℚ) : WithBot (WithTop ℚ))
  | infinite true => ⊥
  | infinite false => ((⊤ : WithTop ℚ) : WithBot (WithTop ℚ))

theorem compare_place : ∀ a b : Amount, compare a.place b.place =
    match a, b with
    | finite p, finite q => compare p q
    | infinite x, infinite y => if x = y then .eq else if x then .lt else .gt
    | infinite x, finite _ => if x then .lt else .gt
    | finite _, infinite y => if y then .gt else .lt
  | finite p, finite q => by
    have hlt {p q : ℚ} : (finite p).place < (finite q).place ↔ p < q :=
      WithBot.coe_lt_coe.trans WithTop.coe_lt_coe
    change compare (finite p).place (finite q).place = compare p q
    cases h : compare p q with
    | lt => exact compare_lt_iff_lt.2 (hlt.2 (compare_lt_iff_lt.1 h))
    | gt => exact compare_gt_iff_gt.2 (hlt.2 (compare_gt_iff_gt.1 h))
    | eq => exact compare_eq_iff_eq.2 (congrArg _ (congrArg _ (compare_eq_iff_eq.1 h)))
  | infinite true, infinite true => compare_eq_iff_eq.2 rfl
  | infinite false, infinite false => compare_eq_iff_eq.2 rfl
  | infinite true, infinite false => compare_lt_iff_lt.2 (WithBot.bot_lt_coe _)
  | infinite false, infinite true => compare_gt_iff_gt.2 (WithBot.bot_lt_coe _)
  | infinite true, finite _ => compare_lt_iff_lt.2 (WithBot.bot_lt_coe _)
  | finite _, infinite true => compare_gt_iff_gt.2 (WithBot.bot_lt_coe _)
  | infinite false, finite _ => compare_gt_iff_gt.2 (WithBot.coe_lt_coe.2 (WithTop.coe_lt_top _))
  | finite _, infinite false => compare_lt_iff_lt.2 (WithBot.coe_lt_coe.2 (WithTop.coe_lt_top _))

theorem place_injective : Function.Injective place := by
  intro a b h
  have horder := (compare_place a b).symm.trans (compare_eq_iff_eq.2 h)
  cases a with
  | finite p =>
    cases b with
    | finite q => rw [compare_eq_iff_eq.1 horder]
    | infinite y => cases y <;> cases horder
  | infinite x =>
    cases b with
    | finite q => cases x <;> cases horder
    | infinite y => cases x <;> cases y <;> first | rfl | cases horder

end Amount

namespace Number.Binary64

def amount? : Binary64 → Option Amount
  | undefined => none
  | infinite negative => some (.infinite negative)
  | finite negative m e =>
    (finite negative m e).fraction?.map fun (num, den) => .finite ((num : ℚ) / den)

theorem magnitude_pos (m : Nat) (e : Int) : 0 < (magnitude m e).2 := by
  unfold magnitude
  split
  · exact Nat.one_pos
  · rw [Nat.one_shiftLeft]
    exact Nat.two_pow_pos _

theorem fraction?_finite (negative : Bool) (m : Nat) (e : Int) :
    ∃ num den, 0 < den ∧ (finite negative m e).fraction? = some (num, den) :=
  ⟨_, _, magnitude_pos m e, rfl⟩

/-- The cross products of two fractions are in the order of the fractions. -/
theorem compare_cross {a c : Int} {b d : Nat} (hb : 0 < b) (hd : 0 < d) :
    compare (a * d) (c * b) = compare ((a : ℚ) / b) ((c : ℚ) / d) := by
  have hb' : (0 : ℚ) < b := Nat.cast_pos.2 hb
  have hd' : (0 : ℚ) < d := Nat.cast_pos.2 hd
  cases h : compare ((a : ℚ) / b) ((c : ℚ) / d) with
  | lt =>
    rw [compare_lt_iff_lt, div_lt_div_iff₀ hb' hd'] at h
    exact compare_lt_iff_lt.2 (by exact_mod_cast h)
  | gt =>
    rw [compare_gt_iff_gt, div_lt_div_iff₀ hd' hb'] at h
    exact compare_gt_iff_gt.2 (by exact_mod_cast h)
  | eq =>
    rw [compare_eq_iff_eq, div_eq_div_iff hb'.ne' hd'.ne'] at h
    exact compare_eq_iff_eq.2 (by exact_mod_cast h)

theorem compare?_eq_some_iff {x y : Binary64} {order : Ordering} : x.compare? y = some order ↔
    ∃ a b, x.amount? = some a ∧ y.amount? = some b ∧ compare a.place b.place = order := by
  cases x with
  | undefined => simp [compare?, amount?]
  | infinite a =>
    cases y with
    | undefined => simp [compare?, amount?]
    | infinite b => cases a <;> cases b <;> simp [compare?, amount?, Amount.compare_place]
    | finite b m e =>
      obtain ⟨num, den, -, hfraction⟩ := fraction?_finite b m e
      cases a <;> simp [compare?, amount?, hfraction, Amount.compare_place]
  | finite a m e =>
    obtain ⟨num, den, hden, hfraction⟩ := fraction?_finite a m e
    cases y with
    | undefined => simp [compare?, amount?]
    | infinite b => cases b <;> simp [compare?, amount?, hfraction, Amount.compare_place]
    | finite b m' e' =>
      obtain ⟨num', den', hden', hfraction'⟩ := fraction?_finite b m' e'
      simp [compare?, amount?, hfraction, hfraction', compare_cross hden hden',
        Amount.compare_place]

theorem compareInt?_eq_some_iff {n : Int} {x : Binary64} {order : Ordering} :
    compareInt? n x = some order ↔
      ∃ a, x.amount? = some a ∧ compare (Amount.finite n).place a.place = order := by
  cases x with
  | undefined => simp [compareInt?, amount?]
  | infinite a => cases a <;> simp [compareInt?, amount?, Amount.compare_place]
  | finite a m e =>
    obtain ⟨num, den, hden, hfraction⟩ := fraction?_finite a m e
    have hcross := compare_cross (a := n) (c := num) Nat.one_pos hden
    simp only [Nat.cast_one, div_one, mul_one] at hcross
    simp [compareInt?, amount?, hfraction, hcross, Amount.compare_place]

end Number.Binary64

namespace Value

def amount? : Value → Option Amount
  | bool b => some (.finite (b.toNat : Int))
  | int n => some (.finite n)
  | real x => x.amount?
  | _ => none

theorem amount?_of_integer? {v : Value} {n : Int} (h : v.integer? = some n) :
    v.amount? = some (.finite n) := by
  cases v with
  | bool b =>
    obtain rfl := Option.some.inj h
    rfl
  | int m =>
    obtain rfl := Option.some.inj h
    rfl
  | _ => cases h

theorem amount?_of_not_number {v : Value} (hreal : ∀ x, v ≠ real x) (h : v.integer? = none) :
    v.amount? = none := by
  cases v with
  | bool b => cases h
  | int n => cases h
  | real x => exact absurd rfl (hreal x)
  | _ => rfl

/-- A number that is no floating-point number is one of the integers. -/
theorem amount?_eq_integer? {v : Value} (hreal : ∀ x, v ≠ real x) :
    v.amount? = v.integer?.map fun n => .finite n := by
  cases h : v.integer? with
  | none => exact amount?_of_not_number hreal h
  | some n => exact amount?_of_integer? h

theorem compare?_real_right (v : Value) (y : Binary64) (hv : ∀ x, v ≠ real x) :
    v.compare? (real y) = v.integer?.map fun n => Binary64.compareInt? n y := by
  cases v with
  | real x => exact absurd rfl (hv x)
  | _ => rfl

theorem compare?_real_left (x : Binary64) (w : Value) (hw : ∀ y, w ≠ real y) :
    (real x).compare? w = w.integer?.map fun n => (Binary64.compareInt? n x).map Ordering.swap := by
  cases w with
  | real y => exact absurd rfl (hw y)
  | _ => rfl

theorem compare?_integers {v w : Value} (hv : ∀ x, v ≠ real x) (hw : ∀ x, w ≠ real x) :
    v.compare? w = match v.integer?, w.integer? with
      | some m, some n => some (some (compare m n))
      | _, _ => none := by
  cases v with
  | real x => exact absurd rfl (hv x)
  | _ =>
    cases w with
    | real y => exact absurd rfl (hw y)
    | _ => rfl

/-- The order of two values where both of them are numbers that are defined. -/
theorem compare?_eq_some_iff {v w : Value} {order : Ordering} : v.compare? w = some (some order) ↔
    ∃ a b, v.amount? = some a ∧ w.amount? = some b ∧ compare a.place b.place = order := by
  have hswap {o : Option Ordering} : o.map Ordering.swap = some order ↔ o = some order.swap := by
    cases o with
    | none => simp
    | some other => cases other <;> cases order <;> simp
  have hcompare (a b : Amount) : compare a.place b.place = order.swap ↔ compare b.place a.place = order := by
    cases order with
    | lt => exact compare_gt_iff_gt.trans compare_lt_iff_lt.symm
    | gt => exact compare_lt_iff_lt.trans compare_gt_iff_gt.symm
    | eq => exact compare_eq_iff_eq.trans (eq_comm.trans compare_eq_iff_eq.symm)
  by_cases hv : ∃ x, v = real x
  · obtain ⟨x, rfl⟩ := hv
    by_cases hw : ∃ y, w = real y
    · obtain ⟨y, rfl⟩ := hw
      rw [compare?, Option.some.injEq]
      exact Binary64.compare?_eq_some_iff
    · have hw' : ∀ y, w ≠ real y := not_exists.1 hw
      rw [compare?_real_left x w hw', amount?_eq_integer? hw']
      cases w.integer? with
      | none => simp
      | some n => simp [hswap, Binary64.compareInt?_eq_some_iff, amount?, hcompare]
  · have hv' : ∀ x, v ≠ real x := not_exists.1 hv
    by_cases hw : ∃ y, w = real y
    · obtain ⟨y, rfl⟩ := hw
      rw [compare?_real_right v y hv', amount?_eq_integer? hv']
      cases v.integer? with
      | none => simp
      | some n => simp [Binary64.compareInt?_eq_some_iff, amount?]
    · have hw' : ∀ y, w ≠ real y := not_exists.1 hw
      rw [compare?_integers hv' hw', amount?_eq_integer? hv', amount?_eq_integer? hw']
      cases v.integer? with
      | none => simp
      | some m =>
        cases w.integer? with
        | none => simp
        | some n =>
          have hcast : compare (m : ℚ) (n : ℚ) = compare m n := by
            simpa using (Binary64.compare_cross (a := m) (c := n) Nat.one_pos Nat.one_pos).symm
          simp [Amount.compare_place, hcast]

def isAbove (v w : Value) : Bool := v.compare? w == some (some .gt)

theorem isAbove_iff {v w : Value} : v.isAbove w = true ↔
    ∃ a b, v.amount? = some a ∧ w.amount? = some b ∧ b.place < a.place := by
  simp only [isAbove, beq_iff_eq, compare?_eq_some_iff, compare_gt_iff_gt]

/-- What is no greater than a number is no greater than one above it. -/
theorem not_isAbove_trans {u v w : Value} (habove : w.isAbove v = true) (h : u.isAbove v = false) :
    u.isAbove w = false := by
  rw [Bool.eq_false_iff] at h ⊢
  intro hw
  obtain ⟨c, b, hc, hb, hbc⟩ := isAbove_iff.1 habove
  obtain ⟨a, c', ha, hc', hca⟩ := isAbove_iff.1 hw
  obtain rfl := Option.some.inj (hc.symm.trans hc')
  exact h (isAbove_iff.2 ⟨a, b, ha, hb, hbc.trans hca⟩)

theorem not_isAbove_self (v : Value) : v.isAbove v = false := by
  rw [Bool.eq_false_iff]
  intro h
  obtain ⟨a, b, ha, hb, hlt⟩ := isAbove_iff.1 h
  obtain rfl := Option.some.inj (ha.symm.trans hb)
  exact lt_irrefl _ hlt

def isNumber : Value → Bool
  | bool _ => true
  | int _ => true
  | real _ => true
  | _ => false

theorem isNumber_of_amount? {v : Value} {a : Amount} (h : v.amount? = some a) : v.isNumber = true := by
  cases v <;> first | rfl | cases h

theorem not_isAbove_of_isNumber {v w : Value} (h : v.isNumber = false) : v.isAbove w = false := by
  rw [Bool.eq_false_iff] at h ⊢
  intro habove
  obtain ⟨a, b, ha, -, -⟩ := isAbove_iff.1 habove
  exact h (isNumber_of_amount? ha)

/-- Two values can be compared where both of them are numbers. -/
theorem greater_eq (v w : Value) : v.greater w =
    if v.isNumber && w.isNumber then .ok (v.isAbove w) else .error .wrongKind := by
  cases v <;> cases w <;> rfl

end Value

end TaleLoom
